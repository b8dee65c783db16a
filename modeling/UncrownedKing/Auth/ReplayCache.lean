import UncrownedKing.Auth.Payload
import UncrownedKing.Lib.Fifo

/-!
# The replay cache

Accepted nonce pairs with the instant of their acceptance, in a table and in a
queue that entries leave from the front.
-/

namespace UncrownedKing.Auth

open Lib

structure ReplayKey where
  serverNonce : Nonce
  clientNonce : Nonce
  deriving DecidableEq, Repr

structure ReplayCache where
  window : Duration
  maxEntries : Nat
  entries : Table ReplayKey Instant
  order : List (Instant × ReplayKey)

def ReplayCache.withMaxEntries (window : Duration) (maxEntries : Nat) : ReplayCache where
  window := window
  maxEntries := max maxEntries 1
  entries := ∅
  order := []

/-- `saturating_duration_since` is subtraction of naturals. -/
def ReplayCache.prune (cache : ReplayCache) (now : Instant) : ReplayCache :=
  let (order, entries) := popWhile (fun (insertedAt, _) _ => !(now - insertedAt ≤ cache.window))
    Prod.snd cache.order cache.entries
  { cache with order, entries }

def ReplayCache.makeRoom (cache : ReplayCache) : ReplayCache :=
  let (order, entries) := popWhile (fun _ entries => entries.size ≥ cache.maxEntries)
    Prod.snd cache.order cache.entries
  { cache with order, entries }

def ReplayCache.insert (cache : ReplayCache) (insertedAt : Instant) (key : ReplayKey) :
    ReplayCache :=
  { cache with
    entries := cache.entries.insert key insertedAt
    order := cache.order ++ [(insertedAt, key)] }

def ReplayCache.checkAndInsertAt (cache : ReplayCache) (insertedAt : Instant)
    (serverNonce clientNonce : Nonce) : ReplayCache × AuthResult Unit :=
  let cache := cache.prune insertedAt
  let key := ⟨serverNonce, clientNonce⟩
  if key ∈ cache.entries then (cache, .error .replay)
  else (cache.makeRoom.insert insertedAt key, .ok ())

/-- Instants never decrease; the instant is the last one read. -/
inductive ReplayCache.Reachable (window : Duration) (maxEntries : Nat) :
    Instant → ReplayCache → Prop
  | new (t : Instant) : Reachable window maxEntries t (.withMaxEntries window maxEntries)
  | wait : Reachable window maxEntries t cache → t ≤ t' → Reachable window maxEntries t' cache
  | check (serverNonce clientNonce : Nonce) : Reachable window maxEntries t cache →
      Reachable window maxEntries t (cache.checkAndInsertAt t serverNonce clientNonce).1

structure ReplayCache.Valid (cache : ReplayCache) (now : Instant) : Prop where
  inStep : InStep cache.entries (cache.order.map Prod.snd)
  stamped : ∀ p ∈ cache.order, cache.entries.lookup p.2 = some p.1
  sorted : (cache.order.map Prod.fst).Pairwise (· ≤ ·)
  past : ∀ p ∈ cache.order, p.1 ≤ now
  room : 0 < cache.maxEntries
  bounded : cache.order.length ≤ cache.maxEntries

variable {cache : ReplayCache} {now : Instant}

section

variable (h : cache.Valid now)
include h

theorem ReplayCache.Valid.later (hle : now ≤ now') : cache.Valid now' :=
  { h with past := fun p hp => (h.past p hp).trans hle }

theorem ReplayCache.Valid.popWhile (drop : Instant × ReplayKey → Table ReplayKey Instant → Bool) :
    ({ cache with
      order := (Lib.popWhile drop Prod.snd cache.order cache.entries).1
      entries := (Lib.popWhile drop Prod.snd cache.order cache.entries).2 } :
        ReplayCache).Valid now where
  inStep := popWhile_inStep h.inStep
  stamped p hp := by
    rw [popWhile_lookup h.inStep hp]
    exact h.stamped p (popWhile_suffix.subset hp)
  sorted := h.sorted.sublist ((popWhile_suffix.sublist).map Prod.fst)
  past p hp := h.past p (popWhile_suffix.subset hp)
  room := h.room
  bounded := popWhile_suffix.length_le.trans h.bounded

theorem ReplayCache.Valid.prune (t : Instant) : (cache.prune t).Valid now :=
  h.popWhile _

theorem ReplayCache.Valid.makeRoom : cache.makeRoom.Valid now :=
  h.popWhile _

theorem ReplayCache.Valid.makeRoom_lt : cache.makeRoom.order.length < cache.maxEntries := by
  have hv := h.makeRoom
  cases horder : cache.makeRoom.order with
  | nil => exact h.room
  | cons p rest =>
    have hfront := popWhile_front horder
    have hsize : cache.makeRoom.entries.size = cache.makeRoom.order.length := by
      rw [hv.inStep.size_eq, List.length_map]
    rw [horder] at hsize
    have hsmall : ¬ cache.makeRoom.entries.size ≥ cache.maxEntries := by
      simpa [ReplayCache.makeRoom] using hfront
    omega

theorem ReplayCache.Valid.insert (hkey : key ∉ cache.entries)
    (hroom : cache.order.length < cache.maxEntries) : (cache.insert now key).Valid now where
  inStep := by
    simp only [ReplayCache.insert, List.map_append, List.map_cons, List.map_nil]
    exact h.inStep.push hkey now
  stamped p hp := by
    rcases List.mem_append.mp hp with hold | hnew
    · have hmem : p.2 ∈ cache.entries :=
        (h.inStep.mem_iff p.2).mpr (List.mem_map_of_mem hold)
      have hne : p.2 ≠ key := fun he => hkey (he ▸ hmem)
      exact (AList.lookup_insert_ne hne).trans (h.stamped p hold)
    · rw [List.mem_singleton.mp hnew]
      exact AList.lookup_insert _
  sorted := by
    simp only [ReplayCache.insert, List.map_append, List.map_cons, List.map_nil]
    refine List.pairwise_append.mpr ⟨h.sorted, List.pairwise_singleton _ _, ?_⟩
    intro a ha b hb
    obtain ⟨p, hp, rfl⟩ := List.mem_map.mp ha
    rw [List.mem_singleton.mp hb]
    exact h.past p hp
  past p hp := by
    rcases List.mem_append.mp hp with hold | hnew
    · exact h.past p hold
    · rw [List.mem_singleton.mp hnew]
  room := h.room
  bounded := by
    simp only [ReplayCache.insert, List.length_append, List.length_singleton]
    exact hroom

theorem not_mem_makeRoom (hkey : key ∉ cache.entries) : key ∉ cache.makeRoom.entries := by
  rw [h.makeRoom.inStep.mem_iff]
  rw [h.inStep.mem_iff] at hkey
  exact fun hmem => hkey ((popWhile_suffix.sublist.map Prod.snd).subset hmem)

theorem ReplayCache.Valid.checkAndInsertAt (serverNonce clientNonce : Nonce) :
    (cache.checkAndInsertAt now serverNonce clientNonce).1.Valid now := by
  have hp := h.prune now
  unfold ReplayCache.checkAndInsertAt
  dsimp only
  split
  · exact hp
  · rename_i hkey
    exact hp.makeRoom.insert (not_mem_makeRoom hp hkey) hp.makeRoom_lt

end

theorem ReplayCache.Reachable.valid {window : Duration} {maxEntries : Nat}
    (h : Reachable window maxEntries now cache) : cache.Valid now ∧
      cache.window = window ∧ cache.maxEntries = max maxEntries 1 := by
  induction h with
  | new t =>
    refine ⟨⟨.empty, ?_, .nil, ?_, by simp [withMaxEntries], by simp [withMaxEntries]⟩, rfl, rfl⟩
    · rintro p ⟨⟩
    · rintro p ⟨⟩
  | wait h hle ih => exact ⟨ih.1.later hle, ih.2⟩
  | check serverNonce clientNonce h ih =>
    refine ⟨ih.1.checkAndInsertAt serverNonce clientNonce, ?_⟩
    unfold ReplayCache.checkAndInsertAt
    dsimp only
    split <;> exact ih.2

/-- The pair is held, and its window has not elapsed at `now`. -/
def ReplayCache.Holds (cache : ReplayCache) (now : Instant) (key : ReplayKey) : Prop :=
  ∃ insertedAt, cache.entries.lookup key = some insertedAt ∧ now - insertedAt ≤ cache.window

theorem ReplayCache.Valid.mem_prune_order (h : cache.Valid now) (t : Instant) :
    p ∈ (cache.prune t).order ↔ p ∈ cache.order ∧ t - p.1 ≤ cache.window := by
  have hdrop : (cache.prune t).order =
      cache.order.dropWhile fun p => !(t - p.1 ≤ cache.window : Bool) :=
    popWhile_eq_dropWhile _ _ _ _
  have hsorted := h.sorted
  rw [hdrop]
  generalize cache.order = order at hsorted
  induction order with
  | nil => simp
  | cons q rest ih =>
    rw [List.map_cons, List.pairwise_cons] at hsorted
    rw [List.dropWhile_cons]
    by_cases hq : t - q.1 ≤ cache.window
    · -- `q` is live, and everything behind it is younger
      have hlive : ∀ p ∈ q :: rest, t - p.1 ≤ cache.window := by
        rintro p hp
        rcases List.mem_cons.mp hp with rfl | hp
        · exact hq
        · have hle := hsorted.1 p.1 (List.mem_map_of_mem hp)
          exact (Nat.sub_le_sub_left hle t).trans hq
      simp only [hq, decide_true, Bool.not_true, Bool.false_eq_true, ↓reduceIte]
      exact ⟨fun hp => ⟨hp, hlive p hp⟩, fun hp => hp.1⟩
    · simp only [hq, decide_false, Bool.not_false, ↓reduceIte]
      refine (ih hsorted.2).trans ⟨fun ⟨hp, hw⟩ => ⟨List.mem_cons_of_mem q hp, hw⟩, ?_⟩
      rintro ⟨hp, hw⟩
      rcases List.mem_cons.mp hp with rfl | hp
      · exact absurd hw hq
      · exact ⟨hp, hw⟩

theorem ReplayCache.Valid.mem_order (h : cache.Valid now) :
    (insertedAt, key) ∈ cache.order ↔ cache.entries.lookup key = some insertedAt := by
  constructor
  · exact h.stamped _
  · intro hl
    have hmem : key ∈ cache.entries := AList.lookup_isSome.mp (by rw [hl]; rfl)
    obtain ⟨p, hp, rfl⟩ := List.mem_map.mp ((h.inStep.mem_iff key).mp hmem)
    have := (h.stamped p hp).symm.trans hl
    cases this
    exact hp

theorem ReplayCache.Valid.mem_prune (h : cache.Valid now) (t : Instant) (key : ReplayKey) :
    key ∈ (cache.prune t).entries ↔ cache.Holds t key := by
  rw [(h.prune t).inStep.mem_iff, List.mem_map]
  constructor
  · rintro ⟨p, hp, rfl⟩
    obtain ⟨hmem, hw⟩ := (h.mem_prune_order t).mp hp
    exact ⟨p.1, h.stamped p hmem, hw⟩
  · rintro ⟨insertedAt, hl, hw⟩
    exact ⟨(insertedAt, key), (h.mem_prune_order t).mpr ⟨h.mem_order.mpr hl, hw⟩, rfl⟩

theorem ReplayCache.Valid.check_iff (h : cache.Valid now) (t : Instant)
    (serverNonce clientNonce : Nonce) :
    (cache.checkAndInsertAt t serverNonce clientNonce).2 = .ok () ↔
      ¬ cache.Holds t ⟨serverNonce, clientNonce⟩ := by
  rw [← h.mem_prune t]
  unfold ReplayCache.checkAndInsertAt
  dsimp only
  split
  · rename_i hmem
    simp [hmem]
  · rename_i hmem
    simp [hmem]

theorem checkAndInsertAt_error
    (h : (ReplayCache.checkAndInsertAt cache t serverNonce clientNonce).2 = .error e) :
    e = .replay ∧ (cache.checkAndInsertAt t serverNonce clientNonce).1 = cache.prune t := by
  unfold ReplayCache.checkAndInsertAt at h ⊢
  dsimp only at h ⊢
  split
  · rename_i hmem
    rw [if_pos hmem] at h
    cases h
    exact ⟨rfl, rfl⟩
  · rename_i hmem
    rw [if_neg hmem] at h
    cases h

/-- What has become of a pair accepted at `since`: it is queued before what was accepted later,
its window has elapsed, or as many others as the cache holds came later. -/
inductive ReplayCache.Remembers (cache : ReplayCache) (now since : Instant) (key : ReplayKey)
    (later : ReplayKey → Prop) : Prop
  | held (older younger : List (Instant × ReplayKey))
      (horder : cache.order = older ++ (since, key) :: younger)
      (hyounger : ∀ p ∈ younger, later p.2)
  | elapsed (h : cache.window < now - since)
  | displaced (others : List ReplayKey) (hnodup : others.Nodup) (hkey : key ∉ others)
      (hcount : cache.maxEntries ≤ others.length) (hothers : ∀ k ∈ others, later k)

variable {since : Instant} {later later' : ReplayKey → Prop}

theorem ReplayCache.Remembers.mono (h : cache.Remembers now since key later) (hle : now ≤ now')
    (hlater : ∀ k, later k → later' k) : cache.Remembers now' since key later' := by
  cases h with
  | held older younger horder hyounger =>
    exact .held older younger horder fun p hp => hlater _ (hyounger p hp)
  | elapsed h => exact .elapsed (h.trans_le (Nat.sub_le_sub_right hle since))
  | displaced others hnodup hkey hcount hothers =>
    exact .displaced others hnodup hkey hcount fun k hk => hlater k (hothers k hk)

theorem ReplayCache.Remembers.prune (hv : cache.Valid now)
    (h : cache.Remembers now since key later) :
    (cache.prune now).Remembers now since key later := by
  cases h with
  | elapsed h => exact .elapsed h
  | displaced others hnodup hkey hcount hothers =>
    exact .displaced others hnodup hkey hcount hothers
  | held older younger horder hyounger =>
    have hstep := hv.inStep
    rw [horder] at hstep
    have hsplit := popWhile_split (fun p _ => !(now - p.1 ≤ cache.window : Bool)) hstep
    rcases hsplit with ⟨rest, hrest⟩ | ⟨_, hdrop, -⟩
    · refine .held rest younger ?_ hyounger
      rw [← horder] at hrest
      exact hrest
    · simp only [Bool.not_eq_true', decide_eq_false_iff_not, Nat.not_le] at hdrop
      exact .elapsed hdrop

theorem younger_append {younger : List (Instant × ReplayKey)}
    (hyounger : ∀ p ∈ younger, later p.2) (hlater : later new) :
    ∀ p ∈ younger ++ [(now, new)], later p.2 := by
  intro p hp
  rcases List.mem_append.mp hp with hp | hp
  · exact hyounger p hp
  · rw [List.mem_singleton.mp hp]
    exact hlater

theorem ReplayCache.Valid.displaced (hv : cache.Valid now)
    {older younger : List (Instant × ReplayKey)}
    (horder : cache.order = older ++ (since, key) :: younger) (hnew : new ∉ cache.entries)
    (hyounger : ∀ p ∈ younger, later p.2) (hlater : later new)
    (hcount : cache.maxEntries ≤ younger.length + 1) :
    (cache.makeRoom.insert now new).Remembers now since key later := by
  have hmem (k : ReplayKey) (hk : k ∈ ((since, key) :: younger).map Prod.snd) :
      k ∈ cache.entries := by
    rw [hv.inStep.mem_iff, horder, List.map_append]
    exact List.mem_append_right _ hk
  have hkeys := hv.inStep.nodup
  rw [horder, List.map_append, List.map_cons, List.nodup_append, List.nodup_cons] at hkeys
  obtain ⟨-, ⟨hkey, hnodup⟩, -⟩ := hkeys
  refine .displaced ((younger ++ [(now, new)]).map Prod.snd) ?_ ?_ ?_ ?_
  · rw [List.map_append]
    refine List.nodup_append.mpr ⟨hnodup, List.nodup_singleton new, ?_⟩
    rintro k hk k' hk' rfl
    obtain rfl : k = new := List.mem_singleton.mp hk'
    exact hnew (hmem k (List.mem_cons_of_mem _ hk))
  · rw [List.map_append, List.mem_append, not_or]
    refine ⟨hkey, fun hlast => ?_⟩
    obtain rfl : key = new := List.mem_singleton.mp hlast
    exact hnew (hmem key List.mem_cons_self)
  · rw [List.length_map, List.length_append, List.length_singleton]
    exact hcount
  · intro k hk
    obtain ⟨p, hp, rfl⟩ := List.mem_map.mp hk
    exact younger_append hyounger hlater p hp

theorem ReplayCache.Remembers.insert (hv : cache.Valid now)
    (h : cache.Remembers now since key later) (hnew : new ∉ cache.entries) (hlater : later new) :
    (cache.makeRoom.insert now new).Remembers now since key later := by
  cases h with
  | elapsed h => exact .elapsed h
  | displaced others hnodup hkey hcount hothers =>
    exact .displaced others hnodup hkey hcount hothers
  | held older younger horder hyounger =>
    have hstep := hv.inStep
    rw [horder] at hstep
    have hsplit := popWhile_split (fun _ entries => entries.size ≥ cache.maxEntries) hstep
    rcases hsplit with ⟨rest, hrest⟩ | ⟨front, hdrop, hfront⟩
    · refine .held rest (younger ++ [(now, new)]) ?_ (younger_append hyounger hlater)
      rw [← horder] at hrest
      have hroom : cache.makeRoom.order = rest ++ (since, key) :: younger := hrest
      simp only [ReplayCache.insert, hroom, List.append_assoc, List.cons_append]
    · have hfull : front.size ≥ cache.maxEntries := of_decide_eq_true hdrop
      rw [hfront.size_eq, List.length_map, List.length_cons] at hfull
      exact hv.displaced horder hnew hyounger hlater hfull

theorem ReplayCache.Remembers.checkAndInsertAt (hv : cache.Valid now)
    (h : cache.Remembers now since key later) (serverNonce clientNonce : Nonce)
    (hlater : (cache.checkAndInsertAt now serverNonce clientNonce).2 = .ok () →
      later ⟨serverNonce, clientNonce⟩) :
    (cache.checkAndInsertAt now serverNonce clientNonce).1.Remembers now since key later := by
  have hp := h.prune hv
  unfold ReplayCache.checkAndInsertAt at hlater ⊢
  dsimp only at hlater ⊢
  split
  · exact hp
  · rename_i hmem
    rw [if_neg hmem] at hlater
    exact hp.insert (hv.prune now) hmem (hlater rfl)

theorem ReplayCache.remembers_accepted {serverNonce clientNonce : Nonce}
    (h : (cache.checkAndInsertAt now serverNonce clientNonce).2 = .ok ()) :
    (cache.checkAndInsertAt now serverNonce clientNonce).1.Remembers now now
      ⟨serverNonce, clientNonce⟩ later := by
  unfold ReplayCache.checkAndInsertAt at h ⊢
  dsimp only at h ⊢
  split
  · rename_i hmem
    rw [if_pos hmem] at h
    cases h
  · exact .held _ [] rfl nofun

end UncrownedKing.Auth
