import Mathlib.Data.Finset.Lattice.Fold
import Mathlib.Order.Lattice.Nat
import UncrownedKing.Mask.Replay

/-!
# The registry against the sets it stands for

The registry answers from the set of committed counters as long as its bitmap is
exact; a raise by less than the window width moves the bitmap the wrong way.
-/

namespace UncrownedKing.Mask

open Lib

/-- The counters committed since registration, and whether the bitmap was moved within its width
since it was exact. -/
structure Registration where
  identity : UInt64
  committed : Finset Nat
  moved : Bool

def Registration.highest (r : Registration) : Nat := r.committed.sup id

/-- What a window over the whole set of committed counters would admit. -/
def Registration.Admits (r : Registration) (counter : Nat) : Prop :=
  counter ≠ 0 ∧ (r.highest < counter ∨
    (r.highest - counter < replayWindow ∧ counter ∉ r.committed))

def Registration.add (r : Registration) (counter : Nat) : Registration where
  identity := r.identity
  committed := insert counter r.committed
  moved := if r.highest < counter then decide (counter - r.highest < replayWindow) else r.moved

abbrev Ledger := List Registration

/-- An accepted commit; a new registration may take the place of the earliest. -/
def Ledger.record (ledger : Ledger) (capacity : Nat) (identity : UInt64) (counter : Nat) :
    Ledger :=
  if ledger.any (·.identity = identity) then
    ledger.map fun r => if r.identity = identity then r.add counter else r
  else
    (if ledger.length = capacity then ledger.tail else ledger) ++ [⟨identity, {counter}, false⟩]

def track (s : ReplayRegistry × Ledger) (call : RegistryCall) : ReplayRegistry × Ledger :=
  match call with
  | .precheck _ _ => ((s.1.call call).1, s.2)
  | .commit identity counter =>
    match s.1.commit identity counter with
    | (registry, .accepted) => (registry, s.2.record s.1.capacity identity counter)
    | (registry, .rejected _) => (registry, s.2)

structure Registration.Matches (r : Registration) (entry : ReplayEntry) : Prop where
  highest : entry.highest = r.highest
  highest_mem : r.highest ∈ r.committed
  exact : r.moved = false → ∀ d < replayWindow, d ≤ r.highest →
    (entry.bitIsSet d = true ↔ r.highest - d ∈ r.committed)

variable {r : Registration} {entry : ReplayEntry} {counter : Nat}

theorem Registration.le_highest (h : counter ∈ r.committed) : counter ≤ r.highest :=
  Finset.le_sup (f := id) h

theorem Registration.highest_add (r : Registration) (counter : Nat) :
    (r.add counter).highest = max counter r.highest := by
  simp [Registration.highest, Registration.add, Finset.sup_insert]

theorem Registration.Matches.admits_iff (h : r.Matches entry)
    (htrust : r.moved = false ∨ r.highest ≤ counter ∨ replayWindow ≤ r.highest - counter) :
    entry.admits counter = .accepted ↔ r.Admits counter := by
  unfold ReplayEntry.admits Registration.Admits
  rw [h.highest]
  by_cases hz : counter = 0
  · simp [hz]
  · simp only [hz, if_false, ne_eq, not_false_eq_true, true_and]
    by_cases hgt : r.highest < counter
    · simp [hgt]
    · have hle := Nat.not_lt.mp hgt
      simp only [gt_iff_lt, hgt, if_false, false_or]
      by_cases heq : r.highest - counter = 0
      · -- the highest counter itself
        have hsame : counter = r.highest := by omega
        simp [hsame, h.highest_mem]
      · by_cases hwin : r.highest - counter < replayWindow
        · have hexact : r.moved = false := by
            rcases htrust with hm | hge | hfar
            · exact hm
            · omega
            · omega
          have hbit := h.exact hexact _ hwin (Nat.sub_le _ _)
          rw [Nat.sub_sub_self hle] at hbit
          by_cases hset : entry.bitIsSet (r.highest - counter) = true
          · simp [heq, hwin, hset, hbit.mp hset]
          · have hnot : counter ∉ r.committed := mt hbit.mpr hset
            simp [heq, hwin, hset, hnot]
        · simp [heq, hwin]

theorem ReplayEntry.bitIsSet_setBit (entry : ReplayEntry) (h : distance < replayWindow) (d : Nat) :
    (entry.setBit distance).bitIsSet d = (decide (d = distance) || entry.bitIsSet d) :=
  Bitmap.test_set entry.seen h d

theorem ReplayEntry.bitIsSet_fresh (counter d : Nat) :
    (ReplayEntry.fresh counter).bitIsSet d = decide (d = 0) := by
  have h := Bitmap.test_set (Bitmap.empty 64 16) (i := 0) (by decide) d
  rw [Bitmap.test_empty, Bool.or_false] at h
  exact h

/-- The move reads the bitmap from the side of the smaller counters. -/
theorem ReplayEntry.bitIsSet_advance (entry : ReplayEntry) (advance d : Nat) :
    (entry.advance advance).bitIsSet d =
      (decide (d + advance < replayWindow) && entry.bitIsSet (d + advance)) := by
  unfold ReplayEntry.advance
  split
  · rename_i hfar
    have hlt : ¬ d + advance < replayWindow := by omega
    have hempty : ({ entry with seen := .empty 64 16 } : ReplayEntry).bitIsSet d = false :=
      Bitmap.test_empty d
    rw [hempty, decide_eq_false hlt, Bool.false_and]
  · have hempty : (Bitmap.empty 64 16).test d = false := Bitmap.test_empty d
    have hwidth : replayWindow ≤ 64 * 16 := by decide
    have hloop := Bitmap.test_foldl_set (fun target => decide (target + advance < replayWindow) &&
      entry.bitIsSet (target + advance)) (.empty 64 16) hwidth d
    rw [hempty, Bool.false_or] at hloop
    rw [ReplayEntry.bitIsSet, hloop]
    by_cases hlt : d + advance < replayWindow
    · have hd : d < replayWindow := by omega
      simp [hlt, hd]
    · simp [hlt]

theorem admits_window (h : entry.admits counter = .accepted) (hle : counter ≤ entry.highest) :
    entry.highest - counter < replayWindow := by
  unfold ReplayEntry.admits at h
  split at h
  · cases h
  · split at h
    · omega
    · dsimp only at h
      split at h
      · cases h
      · split at h
        · assumption
        · cases h

/-- If the window was left behind only the new counter is in it; otherwise the bitmap is no longer
trusted. -/
theorem Registration.Matches.commit_raise (h : r.Matches entry) (hgt : r.highest < counter) :
    (r.add counter).Matches (entry.commit counter) := by
  have hmax : (r.add counter).highest = counter := by
    rw [r.highest_add counter, Nat.max_eq_left (Nat.le_of_lt hgt)]
  have hentry : entry.commit counter =
      ({ entry.advance (counter - entry.highest) with highest := counter }).setBit 0 := by
    rw [ReplayEntry.commit, if_pos (h.highest ▸ hgt)]
  rw [hentry]
  refine ⟨hmax.symm, ?_, fun hmoved d hd hdle => ?_⟩
  · rw [hmax]
    exact Finset.mem_insert_self _ _
  · have hfar : ¬ counter - r.highest < replayWindow := by
      simpa [Registration.add, hgt] using hmoved
    have hout : ¬ d + (counter - entry.highest) < replayWindow := by
      rw [h.highest]
      omega
    have hbit : (({ entry.advance (counter - entry.highest) with highest := counter }) :
        ReplayEntry).bitIsSet d = false := by
      have := entry.bitIsSet_advance (counter - entry.highest) d
      rw [decide_eq_false hout, Bool.false_and] at this
      exact this
    rw [ReplayEntry.bitIsSet_setBit _ (by decide), hmax, hbit, Bool.or_false, decide_eq_true_eq,
      Registration.add, Finset.mem_insert]
    constructor
    · rintro rfl
      exact .inl (Nat.sub_zero counter)
    · rintro (heq | hmem)
      · omega
      · have := Registration.le_highest hmem
        omega

theorem Registration.Matches.commit_inside (h : r.Matches entry) (hle : counter ≤ r.highest)
    (hwin : r.highest - counter < replayWindow) :
    (r.add counter).Matches (entry.commit counter) := by
  have hgt : ¬ r.highest < counter := Nat.not_lt.mpr hle
  have hmax : (r.add counter).highest = r.highest := by
    rw [r.highest_add counter, Nat.max_eq_right hle]
  have hentry : entry.commit counter = entry.setBit (r.highest - counter) := by
    rw [ReplayEntry.commit, h.highest, if_neg hgt]
  rw [hentry]
  refine ⟨h.highest.trans hmax.symm, ?_, fun hmoved d hd hdle => ?_⟩
  · rw [hmax]
    exact Finset.mem_insert_of_mem h.highest_mem
  · have hexact : r.moved = false := by simpa [Registration.add, hgt] using hmoved
    rw [hmax] at hdle ⊢
    rw [ReplayEntry.bitIsSet_setBit _ hwin, Bool.or_eq_true, decide_eq_true_eq,
      h.exact hexact d hd hdle, Registration.add, Finset.mem_insert]
    constructor
    · rintro (rfl | hmem)
      · exact .inl (Nat.sub_sub_self hle)
      · exact .inr hmem
    · rintro (heq | hmem)
      · exact .inl (by omega)
      · exact .inr hmem

theorem Registration.Matches.commit (h : r.Matches entry)
    (hacc : entry.admits counter = .accepted) : (r.add counter).Matches (entry.commit counter) := by
  by_cases hgt : r.highest < counter
  · exact h.commit_raise hgt
  · have hle := Nat.not_lt.mp hgt
    exact h.commit_inside hle (h.highest ▸ admits_window hacc (h.highest.symm ▸ hle))

theorem Registration.Matches.fresh (identity : UInt64) (counter : Nat) :
    (⟨identity, {counter}, false⟩ : Registration).Matches (.fresh counter) := by
  refine ⟨by simp [Registration.highest, ReplayEntry.fresh], by simp [Registration.highest], ?_⟩
  intro _ d hd hdle
  have hhigh : (⟨identity, {counter}, false⟩ : Registration).highest = counter := by
    simp [Registration.highest]
  rw [hhigh] at hdle ⊢
  rw [ReplayEntry.bitIsSet_fresh, decide_eq_true_eq, Finset.mem_singleton]
  omega

variable {registry : ReplayRegistry} {ledger : Ledger} {identity : UInt64}

theorem ReplayRegistry.commit_cases (registry : ReplayRegistry) (identity : UInt64)
    (counter : Nat) :
    (∃ why, registry.precheck identity counter = .rejected why ∧
      registry.commit identity counter = (registry, .rejected why)) ∨
    (∃ entry, registry.entries.lookup identity = some entry ∧
      entry.admits counter = .accepted ∧ registry.commit identity counter =
        ({ registry with entries := registry.entries.insert identity (entry.commit counter) },
          .accepted)) ∨
    (identity ∉ registry.entries ∧ counter ≠ 0 ∧ registry.commit identity counter =
      (registry.register identity counter, .accepted)) := by
  unfold ReplayRegistry.commit
  cases hp : registry.precheck identity counter with
  | rejected why => exact .inl ⟨why, rfl, rfl⟩
  | accepted =>
    refine .inr ?_
    unfold ReplayRegistry.precheck at hp
    cases hl : registry.entries.lookup identity with
    | some entry =>
      rw [hl] at hp
      exact .inl ⟨entry, rfl, hp, rfl⟩
    | none =>
      rw [hl] at hp
      refine .inr ⟨AList.lookup_eq_none.mp hl, ?_, rfl⟩
      rintro rfl
      cases hp

theorem ReplayRegistry.commit_decision (registry : ReplayRegistry) (identity : UInt64)
    (counter : Nat) :
    (registry.commit identity counter).2 = registry.precheck identity counter := by
  unfold ReplayRegistry.commit
  cases registry.precheck identity counter with
  | rejected why => rfl
  | accepted => cases registry.entries.lookup identity <;> rfl

structure Tracks (registry : ReplayRegistry) (ledger : Ledger) : Prop where
  order : registry.order = ledger.map Registration.identity
  inStep : InStep registry.entries registry.order
  bounded : registry.order.length ≤ registry.capacity
  matched : ∀ r ∈ ledger, ∃ entry,
    registry.entries.lookup r.identity = some entry ∧ r.Matches entry

theorem Tracks.new (capacity : Nat) (h : 0 < capacity) : Tracks (.new capacity h) [] :=
  ⟨rfl, .empty, Nat.zero_le _, nofun⟩

section

variable (h : Tracks registry ledger)
include h

theorem Tracks.length_eq : registry.order.length = ledger.length := by
  rw [h.order, List.length_map]

theorem Tracks.mem_iff :
    identity ∈ registry.entries ↔ ledger.any (·.identity = identity) = true := by
  rw [h.inStep.mem_iff, h.order, List.mem_map]
  simp

theorem Tracks.update (hl : registry.entries.lookup identity = some entry)
    (hacc : entry.admits counter = .accepted) :
    Tracks { registry with entries := registry.entries.insert identity (entry.commit counter) }
      (ledger.map fun r => if r.identity = identity then r.add counter else r) := by
  have hmem : identity ∈ registry.entries := AList.lookup_isSome.mp (by rw [hl]; rfl)
  refine ⟨?_, h.inStep.update hmem _, h.bounded, ?_⟩
  · rw [List.map_map]
    refine h.order.trans (List.map_congr_left fun r _ => ?_)
    simp only [Function.comp_apply]
    split <;> rfl
  · intro r' hr'
    obtain ⟨r, hr, rfl⟩ := List.mem_map.mp hr'
    obtain ⟨e, he, hmatch⟩ := h.matched r hr
    by_cases heq : r.identity = identity
    · rw [heq, hl] at he
      cases he
      rw [if_pos heq]
      refine ⟨entry.commit counter, ?_, hmatch.commit hacc⟩
      rw [show (r.add counter).identity = identity from heq]
      exact AList.lookup_insert registry.entries
    · rw [if_neg heq]
      exact ⟨e, (AList.lookup_insert_ne heq).trans he, hmatch⟩

theorem Tracks.evictFront : Tracks registry.evictFront ledger.tail := by
  cases ledger with
  | nil =>
    have hnil : registry.evictFront = registry := by
      rw [ReplayRegistry.evictFront, h.order]
      rfl
    rw [hnil]
    exact h
  | cons r rest =>
    have horder : registry.order = r.identity :: rest.map Registration.identity := h.order
    have hevict : registry.evictFront = { registry with
        order := rest.map Registration.identity
        entries := registry.entries.erase r.identity } := by
      rw [ReplayRegistry.evictFront, horder]
    have hstep := horder ▸ h.inStep
    have hfresh := (List.nodup_cons.mp hstep.nodup).1
    have hbound := h.bounded
    rw [horder, List.length_cons] at hbound
    rw [hevict]
    refine ⟨rfl, hstep.pop, Nat.le_of_succ_le hbound, fun r' hr' => ?_⟩
    obtain ⟨e, he, hmatch⟩ := h.matched r' (List.mem_cons_of_mem r hr')
    have hne : r'.identity ≠ r.identity := fun heq => hfresh (heq ▸ List.mem_map_of_mem hr')
    exact ⟨e, (AList.lookup_erase_ne hne).trans he, hmatch⟩

theorem Tracks.push (hid : identity ∉ registry.entries)
    (hroom : registry.order.length < registry.capacity) :
    Tracks { registry with
        order := registry.order ++ [identity]
        entries := registry.entries.insert identity (.fresh counter) }
      (ledger ++ [⟨identity, {counter}, false⟩]) := by
  refine ⟨?_, h.inStep.push hid _, ?_, fun r hr => ?_⟩
  · rw [List.map_append, ← h.order]
    rfl
  · rw [List.length_append]
    exact hroom
  · rcases List.mem_append.mp hr with hold | hnew
    · obtain ⟨e, he, hmatch⟩ := h.matched r hold
      have hmem : r.identity ∈ registry.entries := AList.lookup_isSome.mp (by rw [he]; rfl)
      have hne : r.identity ≠ identity := fun heq => hid (heq ▸ hmem)
      exact ⟨e, (AList.lookup_insert_ne hne).trans he, hmatch⟩
    · rw [List.mem_singleton.mp hnew]
      exact ⟨_, AList.lookup_insert _, .fresh identity counter⟩

end

theorem evictFront_capacity (registry : ReplayRegistry) :
    registry.evictFront.capacity = registry.capacity := by
  unfold ReplayRegistry.evictFront
  split <;> rfl

theorem Tracks.register (h : Tracks registry ledger) (hid : identity ∉ registry.entries) :
    Tracks (registry.register identity counter)
      ((if ledger.length = registry.capacity then ledger.tail else ledger) ++
        [⟨identity, {counter}, false⟩]) := by
  have hsize : registry.entries.size = ledger.length := by rw [h.inStep.size_eq, h.length_eq]
  have hbound := h.bounded
  rw [h.length_eq] at hbound
  unfold ReplayRegistry.register
  rw [hsize]
  by_cases hfull : ledger.length = registry.capacity
  · have he := h.evictFront
    have hnot : identity ∉ registry.evictFront.entries := by
      rw [he.mem_iff]
      rw [h.mem_iff] at hid
      simp only [List.any_eq_true, not_exists, not_and] at hid ⊢
      exact fun r hr => hid r (List.mem_of_mem_tail hr)
    have hroom : registry.evictFront.order.length < registry.evictFront.capacity := by
      have := registry.capacity_pos
      rw [he.length_eq, evictFront_capacity, List.length_tail]
      omega
    rw [if_pos hfull, if_pos hfull]
    exact he.push hnot hroom
  · rw [if_neg hfull, if_neg hfull]
    exact h.push hid (by rw [h.length_eq]; omega)

theorem Tracks.commit_cases (h : Tracks registry ledger) (identity : UInt64) (counter : Nat) :
    (∃ why, registry.commit identity counter = (registry, .rejected why) ∧
      Mask.track (registry, ledger) (.commit identity counter) = (registry, ledger)) ∨
    (∃ entry, registry.entries.lookup identity = some entry ∧ entry.admits counter = .accepted ∧
      Mask.track (registry, ledger) (.commit identity counter) =
        ({ registry with entries := registry.entries.insert identity (entry.commit counter) },
          ledger.map fun r => if r.identity = identity then r.add counter else r)) ∨
    (identity ∉ registry.entries ∧ Mask.track (registry, ledger) (.commit identity counter) =
      (registry.register identity counter,
        (if ledger.length = registry.capacity then ledger.tail else ledger) ++
          [⟨identity, {counter}, false⟩])) := by
  rcases registry.commit_cases identity counter with
    ⟨why, -, hc⟩ | ⟨entry, hl, hacc, hc⟩ | ⟨hid, -, hc⟩
  · refine .inl ⟨why, hc, ?_⟩
    simp only [Mask.track, hc]
  · have htracked : ledger.any (·.identity = identity) = true :=
      h.mem_iff.mp (AList.lookup_isSome.mp (by rw [hl]; rfl))
    refine .inr (.inl ⟨entry, hl, hacc, ?_⟩)
    simp only [Mask.track, hc, Ledger.record, htracked, if_true]
  · have hnew : ¬ ledger.any (·.identity = identity) = true := mt h.mem_iff.mpr hid
    refine .inr (.inr ⟨hid, ?_⟩)
    simp only [Mask.track, hc, Ledger.record, hnew]
    rfl

theorem Tracks.track (h : Tracks registry ledger) (call : RegistryCall) :
    Tracks (Mask.track (registry, ledger) call).1 (Mask.track (registry, ledger) call).2 := by
  cases call with
  | precheck identity counter => exact h
  | commit identity counter =>
    rcases h.commit_cases identity counter with ⟨_, -, ht⟩ | ⟨entry, hl, hacc, ht⟩ | ⟨hid, ht⟩
    · rw [ht]
      exact h
    · rw [ht]
      exact h.update hl hacc
    · rw [ht]
      exact h.register hid

theorem Tracks.run (h : Tracks s.1 s.2) (calls : List RegistryCall) :
    Tracks (calls.foldl Mask.track s).1 (calls.foldl Mask.track s).2 := by
  induction calls generalizing s with
  | nil => exact h
  | cons call rest ih => exact ih (h.track call)

theorem track_commit_fst (s : ReplayRegistry × Ledger) :
    (Mask.track s (.commit identity counter)).1 = (s.1.commit identity counter).1 := by
  rcases s.1.commit_cases identity counter with ⟨_, -, hc⟩ | ⟨_, -, -, hc⟩ | ⟨-, -, hc⟩
  all_goals simp only [Mask.track, hc]

theorem Tracks.unique (h : Tracks registry ledger) (hr : r ∈ ledger) (hr' : r' ∈ ledger)
    (heq : r'.identity = r.identity) : r' = r :=
  List.inj_on_of_nodup_map (h.order ▸ h.inStep.nodup) hr' hr heq

theorem Tracks.survives (h : Tracks registry ledger) (hr : r ∈ ledger)
    (hkept : r.identity ∈ (registry.commit identity counter).1.entries) :
    ∃ r' ∈ (Mask.track (registry, ledger) (.commit identity counter)).2,
      r'.identity = r.identity ∧ r.committed ⊆ r'.committed := by
  have hafter := h.track (.commit identity counter)
  rw [← track_commit_fst (registry, ledger), hafter.mem_iff, List.any_eq_true] at hkept
  rcases h.commit_cases identity counter with ⟨_, -, ht⟩ | ⟨entry, hl, -, ht⟩ | ⟨hid, ht⟩
  · rw [ht]
    exact ⟨r, hr, rfl, Finset.Subset.refl _⟩
  · rw [ht]
    refine ⟨_, List.mem_map_of_mem hr, ?_⟩
    split
    · exact ⟨rfl, Finset.subset_insert _ _⟩
    · exact ⟨rfl, Finset.Subset.refl _⟩
  · rw [ht] at hkept ⊢
    obtain ⟨r', hr', heq⟩ := hkept
    refine ⟨r', hr', of_decide_eq_true heq, ?_⟩
    have hold : r' ∈ ledger := by
      rcases List.mem_append.mp hr' with hmem | hmem
      · split at hmem
        · exact List.mem_of_mem_tail hmem
        · exact hmem
      · -- the registration just made is another identity's
        refine (hid (h.mem_iff.mpr (List.any_eq_true.mpr ⟨r, hr, ?_⟩))).elim
        rw [List.mem_singleton.mp hmem] at heq
        exact decide_eq_true (of_decide_eq_true heq).symm
    rw [h.unique hr hold (of_decide_eq_true heq)]

theorem Tracks.committed (h : Tracks registry ledger)
    (hacc : (registry.commit identity counter).2 = .accepted) :
    ∃ r ∈ (Mask.track (registry, ledger) (.commit identity counter)).2,
      r.identity = identity ∧ counter ∈ r.committed := by
  rcases h.commit_cases identity counter with ⟨_, hc, -⟩ | ⟨entry, hl, -, ht⟩ | ⟨-, ht⟩
  · rw [hc] at hacc
    cases hacc
  · obtain ⟨r, hr, heq⟩ := List.any_eq_true.mp
      (h.mem_iff.mp (AList.lookup_isSome.mp (by rw [hl]; rfl)))
    rw [ht]
    refine ⟨_, List.mem_map_of_mem hr, ?_⟩
    rw [if_pos (of_decide_eq_true heq)]
    exact ⟨of_decide_eq_true heq, Finset.mem_insert_self _ _⟩
  · rw [ht]
    refine ⟨⟨identity, {counter}, false⟩, ?_, rfl, Finset.mem_singleton_self _⟩
    exact List.mem_append_right _ (List.mem_singleton_self _)

theorem register_capacity (registry : ReplayRegistry) :
    (registry.register identity counter).capacity = registry.capacity := by
  unfold ReplayRegistry.register
  dsimp only
  split
  · exact evictFront_capacity registry
  · rfl

theorem track_capacity (s : ReplayRegistry × Ledger) (call : RegistryCall) :
    (track s call).1.capacity = s.1.capacity := by
  cases call with
  | precheck identity counter => rfl
  | commit identity counter =>
    rcases s.1.commit_cases identity counter with ⟨_, -, hc⟩ | ⟨_, -, -, hc⟩ | ⟨-, -, hc⟩
    · simp only [track, hc]
    · simp only [track, hc]
    · simp only [track, hc, register_capacity]

theorem run_capacity (s : ReplayRegistry × Ledger) (calls : List RegistryCall) :
    (calls.foldl track s).1.capacity = s.1.capacity := by
  induction calls generalizing s with
  | nil => rfl
  | cons call rest ih => rw [List.foldl_cons, ih, track_capacity]

/-- It was not moved within its width, or the counter is not strictly inside the window. -/
def Registration.Trusted (r : Registration) (counter : Nat) : Prop :=
  r.moved = false ∨ r.highest ≤ counter ∨ replayWindow ≤ r.highest - counter

theorem Tracks.commit_iff (h : Tracks registry ledger) (hr : r ∈ ledger)
    (htrust : r.Trusted counter) :
    (registry.commit r.identity counter).2 = .accepted ↔ r.Admits counter := by
  obtain ⟨entry, hl, hmatch⟩ := h.matched r hr
  have hpre : registry.precheck r.identity counter = entry.admits counter := by
    simp only [ReplayRegistry.precheck, hl]
  rw [registry.commit_decision, hpre]
  exact hmatch.admits_iff htrust

theorem Tracks.commit_committed (h : Tracks registry ledger) (hr : r ∈ ledger)
    (hc : counter ∈ r.committed) (htrust : r.Trusted counter) :
    (registry.commit r.identity counter).2 ≠ .accepted := by
  intro hacc
  obtain ⟨-, hgt | ⟨-, hnot⟩⟩ := (h.commit_iff hr htrust).mp hacc
  · exact absurd (Registration.le_highest hc) (Nat.not_le.mpr hgt)
  · exact hnot hc

theorem commit_new (hid : identity ∉ registry.entries) (hc : counter ≠ 0) :
    registry.commit identity counter = (registry.register identity counter, .accepted) := by
  have hl := AList.lookup_eq_none.mpr hid
  have hpre : registry.precheck identity counter = .accepted := by
    simp only [ReplayRegistry.precheck, hl, hc, if_false]
  simp only [ReplayRegistry.commit, hpre, hl]

theorem Tracks.register_full (h : Tracks registry ledger) (hid : identity ∉ registry.entries)
    (hfull : registry.order.length = registry.capacity) :
    ∃ oldest rest, registry.order = oldest :: rest ∧
      (registry.register identity counter).order = rest ++ [identity] ∧
      oldest ∉ (registry.register identity counter).entries ∧
      ∀ other ∈ rest, (registry.register identity counter).entries.lookup other =
        registry.entries.lookup other := by
  cases horder : registry.order with
  | nil =>
    have := registry.capacity_pos
    rw [horder] at hfull
    simp at hfull
    omega
  | cons oldest rest =>
    have hsize : registry.entries.size = registry.capacity := by rw [h.inStep.size_eq, hfull]
    have hreg : registry.register identity counter = { registry with
        order := rest ++ [identity]
        entries := (registry.entries.erase oldest).insert identity (.fresh counter) } := by
      simp only [ReplayRegistry.register, hsize, if_true, ReplayRegistry.evictFront, horder]
    have hnodup := (List.nodup_cons.mp (horder ▸ h.inStep.nodup)).1
    have hmem (other : UInt64) (hother : other ∈ oldest :: rest) : other ≠ identity := by
      rintro rfl
      exact hid ((h.inStep.mem_iff other).mpr (horder ▸ hother))
    refine ⟨oldest, rest, rfl, by rw [hreg], ?_, fun other hother => ?_⟩
    · rw [hreg, AList.mem_insert, AList.mem_erase]
      rintro (heq | ⟨hne, -⟩)
      · exact hmem oldest List.mem_cons_self heq
      · exact hne rfl
    · have hne : other ≠ oldest := fun heq => hnodup (heq ▸ hother)
      rw [hreg]
      exact (AList.lookup_insert_ne (hmem other (List.mem_cons_of_mem _ hother))).trans
        (AList.lookup_erase_ne hne)

theorem Tracks.register_room (h : Tracks registry ledger)
    (hroom : registry.order.length ≠ registry.capacity) :
    (registry.register identity counter).order = registry.order ++ [identity] ∧
      ∀ other, other ≠ identity → (registry.register identity counter).entries.lookup other =
        registry.entries.lookup other := by
  have hsize : registry.entries.size ≠ registry.capacity := by rwa [h.inStep.size_eq]
  have hreg : registry.register identity counter = { registry with
      order := registry.order ++ [identity]
      entries := registry.entries.insert identity (.fresh counter) } := by
    simp only [ReplayRegistry.register, hsize, if_false]
  rw [hreg]
  exact ⟨rfl, fun other hne => AList.lookup_insert_ne hne⟩

/-- The registry answers from the set of each registration wherever its bitmap has the answer;
prechecks answer like commits and change nothing. -/
theorem registry_answers_from_sets (capacity : Nat) (hcap : 0 < capacity)
    (calls : List RegistryCall) :
    let s := calls.foldl track (.new capacity hcap, [])
    (∀ r ∈ s.2, ∀ counter, r.Trusted counter →
      ((s.1.commit r.identity counter).2 = .accepted ↔ r.Admits counter)) ∧
    (∀ r ∈ s.2, ∀ counter ∈ r.committed, r.Trusted counter →
      (s.1.commit r.identity counter).2 ≠ .accepted) ∧
    (∀ identity counter, s.1.call (.precheck identity counter) =
      (s.1, (s.1.commit identity counter).2)) ∧
    (s.1.order = s.2.map Registration.identity ∧ InStep s.1.entries s.1.order ∧
      s.1.order.length ≤ capacity) ∧
    (∀ identity counter, identity ∉ s.1.entries → counter ≠ 0 →
      let after := s.1.commit identity counter
      after.2 = .accepted ∧
      (s.1.order.length = capacity → ∃ oldest rest, s.1.order = oldest :: rest ∧
        after.1.order = rest ++ [identity] ∧ oldest ∉ after.1.entries ∧
        ∀ other ∈ rest, after.1.entries.lookup other = s.1.entries.lookup other) ∧
      (s.1.order.length ≠ capacity → after.1.order = s.1.order ++ [identity] ∧
        ∀ other, other ≠ identity →
          after.1.entries.lookup other = s.1.entries.lookup other)) := by
  intro s
  have h : Tracks s.1 s.2 := (Tracks.new capacity hcap).run calls
  have hc : s.1.capacity = capacity := run_capacity _ calls
  refine ⟨fun r hr counter => h.commit_iff hr, fun r hr counter => h.commit_committed hr,
    fun identity counter => ?_, ⟨h.order, h.inStep, hc ▸ h.bounded⟩,
    fun identity counter hid hne => ?_⟩
  · rw [s.1.commit_decision]
    rfl
  · rw [commit_new hid hne]
    refine ⟨rfl, fun hfull => ?_, fun hroom => ?_⟩
    · exact h.register_full hid (hfull.trans hc.symm)
    · exact h.register_room (hc.symm ▸ hroom)

/-- One identity, registered: its counter is not accepted again. -/
theorem registry_answers_once :
    ([RegistryCall.commit 1 5].foldl track (.new 4 (by decide), [])).1.commit 1 5 ≠
      (([RegistryCall.commit 1 5].foldl track (.new 4 (by decide), [])).1, .accepted) := by
  intro h
  refine (registry_answers_from_sets 4 (by decide) [.commit 1 5]).2.1 ⟨1, {5}, false⟩ ?_ 5
    (Finset.mem_singleton_self 5) (.inl rfl) (congrArg Prod.snd h)
  exact List.mem_singleton_self _

theorem fresh_raised_admits (hc : counter ≠ 0) (hpos : 0 < raise) (hlt : raise < replayWindow) :
    ((ReplayEntry.fresh counter).commit (counter + raise)).admits counter = .accepted := by
  have hcommit : (ReplayEntry.fresh counter).commit (counter + raise) =
      ({ (ReplayEntry.fresh counter).advance raise with highest := counter + raise }).setBit 0 := by
    have hgt : counter + raise > (ReplayEntry.fresh counter).highest :=
      Nat.lt_add_of_pos_right hpos
    have hsub : counter + raise - (ReplayEntry.fresh counter).highest = raise :=
      Nat.add_sub_cancel_left counter raise
    rw [ReplayEntry.commit, if_pos hgt, hsub]
  have hhigh : ((ReplayEntry.fresh counter).commit (counter + raise)).highest = counter + raise := by
    rw [hcommit]
    rfl
  have hmoved := (ReplayEntry.fresh counter).bitIsSet_advance raise raise
  rw [ReplayEntry.bitIsSet_fresh, decide_eq_false (by omega : ¬ raise + raise = 0),
    Bool.and_false] at hmoved
  have hbit : ((ReplayEntry.fresh counter).commit (counter + raise)).bitIsSet raise = false := by
    rw [hcommit, ReplayEntry.bitIsSet_setBit _ (by decide), decide_eq_false hpos.ne',
      Bool.false_or]
    exact hmoved
  unfold ReplayEntry.admits
  rw [hhigh, Nat.add_sub_cancel_left]
  simp [hc, hbit, hlt, hpos.ne']

theorem commit_tracked (hl : registry.entries.lookup identity = some entry)
    (hacc : entry.admits counter = .accepted) :
    registry.commit identity counter =
      ({ registry with entries := registry.entries.insert identity (entry.commit counter) },
        .accepted) := by
  have hpre : registry.precheck identity counter = .accepted := by
    simp only [ReplayRegistry.precheck, hl, hacc]
  simp only [ReplayRegistry.commit, hpre, hl]

theorem admits_raise (hgt : entry.highest < counter) : entry.admits counter = .accepted := by
  unfold ReplayEntry.admits
  rw [if_neg (Nat.ne_of_gt (Nat.zero_lt_of_lt hgt)), if_pos hgt]

/-- Any counter can be committed again as soon as another within the window's width above it has
been. -/
theorem counter_readmitted (capacity : Nat) (hcap : 0 < capacity) (identity : UInt64)
    (counter raise : Nat)
    (hc : counter ≠ 0) (hpos : 0 < raise) (hlt : raise < replayWindow) :
    let first := (ReplayRegistry.new capacity hcap).commit identity counter
    let second := first.1.commit identity (counter + raise)
    first.2 = .accepted ∧ second.2 = .accepted ∧ second.1.order = [identity] ∧
      (second.1.commit identity counter).2 = .accepted := by
  intro first second
  have hroom : (ReplayRegistry.new capacity hcap).entries.size ≠
      (ReplayRegistry.new capacity hcap).capacity := hcap.ne
  have hfirst : first =
      (⟨[identity], (∅ : Table UInt64 ReplayEntry).insert identity (.fresh counter),
        capacity, hcap⟩, .accepted) := by
    refine (commit_new (AList.notMem_empty identity) hc).trans ?_
    simp only [ReplayRegistry.register, if_neg hroom]
    rfl
  have hgt : (ReplayEntry.fresh counter).highest < counter + raise :=
    Nat.lt_add_of_pos_right hpos
  have hsecond : second =
      ({ first.1 with
        entries := first.1.entries.insert identity
          ((ReplayEntry.fresh counter).commit (counter + raise)) }, .accepted) := by
    refine commit_tracked ?_ (admits_raise hgt)
    rw [hfirst]
    exact AList.lookup_insert _
  have hl : second.1.entries.lookup identity =
      some ((ReplayEntry.fresh counter).commit (counter + raise)) := by
    rw [hsecond]
    exact AList.lookup_insert _
  refine ⟨by rw [hfirst], by rw [hsecond], by rw [hsecond, hfirst], ?_⟩
  rw [commit_tracked hl (fresh_raised_admits hc hpos hlt)]

/-- Counters 5, 6, and 5 once more, all accepted. -/
theorem replayed_counter_accepted :
    let first := (ReplayRegistry.new 4 (by decide)).commit 1 5
    let second := first.1.commit 1 6
    first.2 = .accepted ∧ second.2 = .accepted ∧ second.1.order = [1] ∧
      (second.1.commit 1 5).2 = .accepted ∧
      ¬ (⟨1, {5, 6}, true⟩ : Registration).Admits 5 := by
  intro first second
  obtain ⟨h1, h2, horder, h3⟩ :=
    counter_readmitted 4 (by decide) 1 5 1 (by decide) (by decide) (by decide)
  refine ⟨h1, h2, horder, h3, ?_⟩
  rintro ⟨-, hgt | ⟨-, hnot⟩⟩
  · exact absurd hgt (by decide)
  · exact hnot (by decide)

end UncrownedKing.Mask
