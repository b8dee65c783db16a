import UncrownedKing.Lib.Table

/-!
# Tables with an arrival order

A table and the queue of its keys, oldest first, kept in step.
-/

namespace UncrownedKing.Lib

universe u v w

variable {α : Type u} {β : Type v} {τ : Type w}

/-- The queue holds the keys of the table, each once. -/
structure InStep (entries : Table α β) (order : List α) : Prop where
  nodup : order.Nodup
  mem_iff : ∀ k, k ∈ entries ↔ k ∈ order

variable {entries : Table α β} {order : List α} {k : α}

theorem InStep.empty : InStep (∅ : Table α β) [] := ⟨List.nodup_nil, fun _ => by simp⟩

theorem InStep.size_eq (h : InStep entries order) : entries.size = order.length := by
  have hp : entries.keys.Perm order :=
    (List.perm_ext_iff_of_nodup entries.keys_nodup h.nodup).mpr h.mem_iff
  rw [Table.size_eq_keys, hp.length_eq]

variable [DecidableEq α]

theorem InStep.pop (h : InStep entries (k :: order)) : InStep (entries.erase k) order := by
  obtain ⟨hk, hnodup⟩ := List.nodup_cons.mp h.nodup
  refine ⟨hnodup, fun k' => ?_⟩
  rw [AList.mem_erase, h.mem_iff, List.mem_cons]
  constructor
  · rintro ⟨hne, rfl | hmem⟩
    · exact absurd rfl hne
    · exact hmem
  · intro hmem
    exact ⟨fun he => hk (he ▸ hmem), .inr hmem⟩

theorem InStep.push (h : InStep entries order) (hk : k ∉ entries) (b : β) :
    InStep (entries.insert k b) (order ++ [k]) := by
  have hk' : k ∉ order := mt (h.mem_iff k).mpr hk
  refine ⟨List.nodup_append.mpr ⟨h.nodup, List.nodup_singleton k, ?_⟩, fun k' => ?_⟩
  · rintro a ha b hb rfl
    exact hk' (List.mem_singleton.mp hb ▸ ha)
  · rw [AList.mem_insert, h.mem_iff, List.mem_append, List.mem_singleton, or_comm]

theorem InStep.update (h : InStep entries order) (hk : k ∈ entries) (b : β) :
    InStep (entries.insert k b) order := by
  refine ⟨h.nodup, fun k' => ?_⟩
  rw [AList.mem_insert, h.mem_iff]
  constructor
  · rintro (rfl | hmem)
    · exact (h.mem_iff k').mp hk
    · exact hmem
  · exact .inr

def popWhile (drop : τ → Table α β → Bool) (key : τ → α) :
    List τ → Table α β → List τ × Table α β
  | [], entries => ([], entries)
  | x :: rest, entries =>
    if drop x entries then popWhile drop key rest (entries.erase (key x))
    else (x :: rest, entries)

variable {drop : τ → Table α β → Bool} {key : τ → α} {queue : List τ}

theorem popWhile_inStep (h : InStep entries (queue.map key)) :
    InStep (popWhile drop key queue entries).2 ((popWhile drop key queue entries).1.map key) := by
  induction queue generalizing entries with
  | nil => exact h
  | cons x rest ih =>
    unfold popWhile
    split
    · exact ih h.pop
    · exact h

theorem popWhile_suffix : (popWhile drop key queue entries).1 <:+ queue := by
  induction queue generalizing entries with
  | nil => exact List.suffix_rfl
  | cons x rest ih =>
    unfold popWhile
    split
    · exact ih.trans (List.suffix_cons x rest)
    · exact List.suffix_rfl

theorem popWhile_lookup (h : InStep entries (queue.map key))
    (hx : x ∈ (popWhile drop key queue entries).1) :
    (popWhile drop key queue entries).2.lookup (key x) = entries.lookup (key x) := by
  induction queue generalizing entries with
  | nil => rfl
  | cons y rest ih =>
    unfold popWhile at hx ⊢
    split
    · rename_i hd
      rw [if_pos hd] at hx
      have hmem : key x ∈ rest.map key := List.mem_map_of_mem (popWhile_suffix.subset hx)
      have hne : key x ≠ key y := fun he => (List.nodup_cons.mp h.nodup).1 (he ▸ hmem)
      rw [ih h.pop hx, AList.lookup_erase_ne hne]
    · rfl

theorem popWhile_front (h : (popWhile drop key queue entries).1 = x :: rest) :
    drop x (popWhile drop key queue entries).2 = false := by
  induction queue generalizing entries with
  | nil => cases h
  | cons y tail ih =>
    unfold popWhile at h ⊢
    split
    · rename_i hd
      rw [if_pos hd] at h
      exact ih h
    · rename_i hd
      rw [if_neg hd] at h
      cases h
      simpa using hd

theorem popWhile_split (drop : τ → Table α β → Bool)
    (h : InStep entries ((older ++ x :: younger).map key)) :
    (∃ rest, (popWhile drop key (older ++ x :: younger) entries).1 = rest ++ x :: younger) ∨
      ∃ front : Table α β, drop x front = true ∧ InStep front ((x :: younger).map key) := by
  induction older generalizing entries with
  | nil =>
    by_cases hd : drop x entries = true
    · exact .inr ⟨entries, hd, h⟩
    · refine .inl ⟨[], ?_⟩
      simp only [List.nil_append, popWhile, hd]
      rfl
  | cons y older ih =>
    by_cases hd : drop y entries = true
    · have hpop : popWhile drop key (y :: older ++ x :: younger) entries =
          popWhile drop key (older ++ x :: younger) (entries.erase (key y)) := if_pos hd
      rw [hpop]
      exact ih h.pop
    · refine .inl ⟨y :: older, ?_⟩
      simp only [List.cons_append, popWhile, hd]
      rfl

theorem popWhile_eq_dropWhile (p : τ → Bool) (key : τ → α) (queue : List τ)
    (entries : Table α β) :
    (popWhile (fun x _ => p x) key queue entries).1 = queue.dropWhile p := by
  induction queue generalizing entries with
  | nil => rfl
  | cons x rest ih =>
    unfold popWhile
    rw [List.dropWhile_cons]
    split
    · exact ih _
    · rfl

end UncrownedKing.Lib
