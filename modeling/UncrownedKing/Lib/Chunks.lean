import Mathlib.Data.List.Defs

/-!
# Lists cut into pieces of one size

A list cut into pieces of a size, the last of them possibly shorter.
-/

namespace UncrownedKing.Lib

/-- All but the last have length `n`, and the last is not empty. -/
inductive Pieces (n : Nat) : List (List α) → Prop
  | nil : Pieces n []
  | last (hne : piece ≠ []) (hle : piece.length ≤ n) : Pieces n [piece]
  | cons (hlen : piece.length = n) (rest : Pieces n pieces) : Pieces n (piece :: pieces)

theorem Pieces.length_le (h : Pieces n pieces) (hmem : piece ∈ pieces) : piece.length ≤ n := by
  induction h with
  | nil => simp at hmem
  | last _ hle => simpa [List.mem_singleton.mp hmem] using hle
  | cons hlen _ ih =>
    obtain rfl | hmem := List.mem_cons.mp hmem
    · exact Nat.le_of_eq hlen
    · exact ih hmem

theorem Pieces.ne_nil (hn : 0 < n) (h : Pieces n pieces) (hmem : piece ∈ pieces) :
    piece ≠ [] := by
  induction h with
  | nil => simp at hmem
  | last hne _ => simpa [List.mem_singleton.mp hmem] using hne
  | cons hlen _ ih =>
    obtain rfl | hmem := List.mem_cons.mp hmem
    · exact List.ne_nil_of_length_pos (hlen ▸ hn)
    · exact ih hmem

theorem Pieces.sublist (h : Pieces n pieces) (hsub : kept.Sublist pieces) : Pieces n kept := by
  induction h generalizing kept with
  | nil =>
    cases hsub
    exact .nil
  | last hne hle =>
    cases hsub with
    | cons _ hsub =>
      cases hsub
      exact .nil
    | cons_cons _ hsub =>
      cases hsub
      exact .last hne hle
  | cons hlen _ ih =>
    cases hsub with
    | cons _ hsub => exact ih hsub
    | cons_cons _ hsub => exact .cons hlen (ih hsub)

theorem Pieces.widen {pieces wider : List (List α)} (h : Pieces n pieces)
    (hlen : List.Forall₂ (fun piece wide => wide.length = piece.length + k) pieces wider) :
    Pieces (n + k) wider := by
  induction h generalizing wider with
  | nil =>
    cases hlen
    exact .nil
  | last hne hle =>
    obtain ⟨wide, hwide, rfl⟩ : ∃ wide, wide.length = _ + k ∧ wider = [wide] := by
      cases hlen with
      | cons hwide hrest =>
        cases hrest
        exact ⟨_, hwide, rfl⟩
    have hpos := List.length_pos_iff.mpr hne
    exact .last (List.ne_nil_of_length_pos (by omega)) (by omega)
  | cons hlength _ ih =>
    cases hlen with
    | cons hwide hrest => exact .cons (by omega) (ih hrest)

theorem toChunks_go_done (rest : List α) (acc : Array α) (done : Array (List α)) :
    List.toChunks.go n rest acc done = done.toList ++ List.toChunks.go n rest acc #[] := by
  induction rest generalizing acc done with
  | nil => simp [List.toChunks.go]
  | cons x rest ih =>
    simp only [List.toChunks.go]
    split
    · rw [ih, ih _ (#[].push acc.toList)]
      simp
    · exact ih _ _

theorem toChunks_go_fill (first rest : List α) (acc : Array α) (h : acc.size + first.length ≤ n) :
    List.toChunks.go n (first ++ rest) acc #[] =
      List.toChunks.go n rest (acc ++ first.toArray) #[] := by
  induction first generalizing acc with
  | nil => simp
  | cons x first ih =>
    simp only [List.length_cons] at h
    have hsize : (acc.size == n) = false := by simp; omega
    simp only [List.cons_append, List.toChunks.go, hsize, Bool.false_eq_true, if_false]
    rw [ih (acc.push x) (by simp; omega)]
    simp

theorem toChunks_of_le {l : List α} (hne : l ≠ []) (h : l.length ≤ n) : l.toChunks n = [l] := by
  obtain ⟨x, xs, rfl⟩ := List.exists_cons_of_ne_nil hne
  have hgo := toChunks_go_fill xs [] #[x] (n := n) (by simpa [Nat.add_comm] using h)
  rw [List.append_nil] at hgo
  rw [List.toChunks, hgo]
  · simp [List.toChunks.go]
  · rintro rfl
    simp at h

theorem toChunks_append {first rest : List α} (hn : 0 < n) (hlen : first.length = n)
    (hne : rest ≠ []) : (first ++ rest).toChunks n = first :: rest.toChunks n := by
  obtain ⟨x, xs, rfl⟩ := List.exists_cons_of_ne_nil (List.ne_nil_of_length_pos (hlen ▸ hn))
  obtain ⟨y, ys, rfl⟩ := List.exists_cons_of_ne_nil hne
  have hgo := toChunks_go_fill xs (y :: ys) #[x] (n := n) (by simpa [Nat.add_comm] using Nat.le_of_eq hlen)
  have hsize : ((#[x] ++ xs.toArray).size == n) = true := by
    simpa [Nat.add_comm] using hlen
  rw [List.cons_append, List.toChunks, List.toChunks, hgo, List.toChunks.go, hsize, if_pos rfl,
    toChunks_go_done]
  · simp
  · exact Nat.ne_of_gt hn
  · exact Nat.ne_of_gt hn

theorem toChunks_flatten {pieces : List (List α)} (hn : 0 < n) (h : Pieces n pieces) :
    pieces.flatten.toChunks n = pieces := by
  induction h with
  | nil => rfl
  | last hne hle => simpa using toChunks_of_le hne hle
  | @cons pieces piece hlen hrest ih =>
    have hpiece : piece ≠ [] := List.ne_nil_of_length_pos (hlen ▸ hn)
    cases pieces with
    | nil => simpa using toChunks_of_le hpiece (Nat.le_of_eq hlen)
    | cons next more =>
      have hne : (next :: more).flatten ≠ [] := by
        simpa using fun h => absurd h (hrest.ne_nil hn List.mem_cons_self)
      rw [List.flatten_cons, toChunks_append hn hlen hne, ih]

theorem pieces_toChunks (hn : 0 < n) (l : List α) :
    Pieces n (l.toChunks n) ∧ (l.toChunks n).flatten = l := by
  -- the recursion drops one full piece at a time
  induction hlength : l.length using Nat.strongRecOn generalizing l with
  | _ length ih =>
    by_cases hnil : l = []
    · subst hnil
      exact ⟨.nil, rfl⟩
    by_cases hle : l.length ≤ n
    · rw [toChunks_of_le hnil hle]
      exact ⟨.last hnil hle, by simp⟩
    have htake : (l.take n).length = n := by simp; omega
    have hdrop : l.drop n ≠ [] := by simpa using hle
    obtain ⟨hpieces, hflatten⟩ := ih _ (by simp; omega) (l.drop n) rfl
    rw [← List.take_append_drop n l, toChunks_append hn htake hdrop]
    exact ⟨.cons htake hpieces, by simp [hflatten]⟩

end UncrownedKing.Lib
