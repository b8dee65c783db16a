import Mathlib.Data.List.AList

/-!
# Tables that drop entries

A finite table with two ways of shrinking it. A hash table is gone through in an
order that is an input.
-/

namespace UncrownedKing.Lib

universe u v

variable {α : Type u} {β : Type v}

abbrev Table (α : Type u) (β : Type v) := AList fun _ : α => β

namespace Table

def size (entries : Table α β) : Nat := entries.entries.length

def retain (keep : α → β → Bool) (entries : Table α β) : Table α β where
  entries := entries.entries.filter fun entry => keep entry.1 entry.2
  nodupKeys := entries.nodupKeys.sublist List.filter_sublist

/-- The order in which a table's keys are met. -/
structure Order (α : Type u) (β : Type v) where
  keys : Table α β → List α
  perm : ∀ entries, (keys entries).Perm entries.keys

def Order.stored : Order α β := ⟨AList.keys, fun _ => .refl _⟩

theorem size_eq_keys (entries : Table α β) : entries.size = entries.keys.length := by
  simp [size, AList.keys, List.keys]

theorem size_retain_le (keep : α → β → Bool) (entries : Table α β) :
    (entries.retain keep).size ≤ entries.size :=
  List.length_filter_le _ _

variable [DecidableEq α] {entries : Table α β} {k : α}

def eraseAll (entries : Table α β) (keys : List α) : Table α β :=
  keys.foldl (fun entries k => entries.erase k) entries

theorem lookup_retain (keep : α → β → Bool) (entries : Table α β) (k : α) :
    (entries.retain keep).lookup k = (entries.lookup k).filter (keep k) := by
  ext b
  rw [← Option.mem_def, ← Option.mem_def, AList.mem_lookup_iff, Option.mem_filter_iff,
    AList.mem_lookup_iff]
  simp [retain]

theorem lookup_eraseAll (entries : Table α β) (keys : List α) (k : α) :
    (entries.eraseAll keys).lookup k = if k ∈ keys then none else entries.lookup k := by
  induction keys generalizing entries with
  | nil => rfl
  | cons head rest ih =>
    rw [eraseAll, List.foldl_cons, ← eraseAll, ih]
    by_cases hhead : k = head
    · subst hhead
      simp
    · simp [hhead, AList.lookup_erase_ne hhead]

theorem size_erase_le (entries : Table α β) (k : α) : size (entries.erase k) ≤ entries.size := by
  rw [size_eq_keys, size_eq_keys, AList.keys_erase]
  exact List.length_erase_le

theorem size_erase_lt (h : k ∈ entries) : size (entries.erase k) < entries.size := by
  rw [size_eq_keys, size_eq_keys, AList.keys_erase,
    List.length_erase_of_mem (AList.mem_keys.mpr h)]
  exact Nat.sub_one_lt (Nat.ne_of_gt (List.length_pos_of_mem (AList.mem_keys.mpr h)))

theorem size_eraseAll_le (entries : Table α β) (keys : List α) :
    (entries.eraseAll keys).size ≤ entries.size := by
  induction keys generalizing entries with
  | nil => exact Nat.le_refl _
  | cons head rest ih => exact Nat.le_trans (ih _) (size_erase_le entries head)

theorem size_eraseAll_lt {keys : List α} (hkey : k ∈ keys) (h : k ∈ entries) :
    (entries.eraseAll keys).size < entries.size := by
  induction keys generalizing entries with
  | nil => cases hkey
  | cons head rest ih =>
    rw [eraseAll, List.foldl_cons, ← eraseAll]
    by_cases hhead : head ∈ entries
    · exact Nat.lt_of_le_of_lt (size_eraseAll_le _ rest) (size_erase_lt hhead)
    · have hne : k ≠ head := fun heq => hhead (heq ▸ h)
      have hrest := (List.mem_cons.mp hkey).resolve_left hne
      exact Nat.lt_of_lt_of_le (ih hrest (AList.mem_erase.mpr ⟨hne, h⟩)) (size_erase_le entries head)

theorem size_insert_of_mem (h : k ∈ entries) (b : β) :
    size (entries.insert k b) = entries.size := by
  have hpos := List.length_pos_of_mem (AList.mem_keys.mpr h)
  rw [size_eq_keys, size_eq_keys, AList.keys_insert, List.length_cons,
    List.length_erase_of_mem (AList.mem_keys.mpr h)]
  omega

theorem size_insert_of_notMem (h : k ∉ entries) (b : β) :
    size (entries.insert k b) = entries.size + 1 := by
  rw [size_eq_keys, size_eq_keys, AList.keys_insert, List.length_cons,
    List.erase_of_not_mem (mt AList.mem_keys.mp h)]

end Table

end UncrownedKing.Lib
