import Mathlib.Data.List.Basic

/-!
# Lists cut at a separator

A list and its pieces between separators determine each other.
-/

namespace UncrownedKing.Lib

universe u v

variable {α : Type u} {β : Type v} [DecidableEq α] [DecidableEq β] {sep : α}

theorem splitOn_append_cons (front back : List α) :
    (front ++ sep :: back).splitOn sep = front.splitOn sep ++ back.splitOn sep :=
  List.splitOnP_append_cons front back (beq_self_eq_true sep)

theorem splitOn_injective {text other : List α} (h : text.splitOn sep = other.splitOn sep) :
    text = other :=
  calc text = [sep].intercalate (text.splitOn sep) := (List.intercalate_splitOn sep).symm
    _ = [sep].intercalate (other.splitOn sep) := by rw [h]
    _ = other := List.intercalate_splitOn sep

omit [DecidableEq α] in
theorem intercalate_append {pieces more : List (List α)} (hpieces : pieces ≠ [])
    (hmore : more ≠ []) :
    [sep].intercalate (pieces ++ more) =
      [sep].intercalate pieces ++ sep :: [sep].intercalate more := by
  induction pieces with
  | nil => exact absurd rfl hpieces
  | cons piece pieces ih =>
    cases pieces with
    | nil =>
      cases more with
      | nil => exact absurd rfl hmore
      | cons next more => simp [List.intercalate_cons_cons]
    | cons next pieces =>
      have htail := ih (List.cons_ne_nil next pieces)
      simp only [List.cons_append, List.intercalate_cons_cons] at htail ⊢
      simp [htail]

theorem splitOn_suffix_iff {text back : List α} :
    back.splitOn sep <:+ text.splitOn sep ↔
      text = back ∨ ∃ front, text = front ++ sep :: back := by
  constructor
  · rintro ⟨pieces, hpieces⟩
    cases pieces with
    | nil => exact .inl (splitOn_injective hpieces).symm
    | cons piece pieces =>
      refine .inr ⟨[sep].intercalate (piece :: pieces), ?_⟩
      have hjoined : [sep].intercalate (text.splitOn sep) = text := List.intercalate_splitOn sep
      rw [← hpieces, intercalate_append (List.cons_ne_nil _ _) (List.splitOn_ne_nil sep back),
        List.intercalate_splitOn] at hjoined
      exact hjoined.symm
  · rintro (rfl | ⟨front, rfl⟩)
    · exact List.suffix_refl _
    · rw [splitOn_append_cons]
      exact List.suffix_append _ _

theorem splitOn_map (f : α → β) (hsep : ∀ a, f a = f sep ↔ a = sep) (text : List α) :
    (text.map f).splitOn (f sep) = (text.splitOn sep).map (List.map f) := by
  induction text with
  | nil => simp
  | cons a rest ih =>
    rw [List.map_cons, List.splitOn_cons_eq_if_modifyHead, List.splitOn_cons_eq_if_modifyHead, ih]
    by_cases ha : a = sep
    · simp [ha]
    · have hfa : f a ≠ f sep := mt (hsep a).mp ha
      obtain ⟨piece, pieces, hpieces⟩ := List.exists_cons_of_ne_nil (List.splitOn_ne_nil sep rest)
      simp [ha, hfa, hpieces]

end UncrownedKing.Lib
