import UncrownedKing.Server.RateLimit

/-!
# What the rate limiter keeps

A call leaves the record of a source alone, drops it, forgets a ban that is
over, or counts a failure in it.
-/

namespace UncrownedKing.Server

open Lib Net Policy

variable {limiter : AuthRateLimiter} {config : AuthRateLimitConfig} {state : RateLimitState}
  {key : RateLimitKey} {now : Instant} {record : IpFailureRecord}
  {order : Table.Order RateLimitKey IpFailureRecord}

namespace IpFailureRecord

theorem checkedDurationSince_any (p : Duration → Bool) (t earlier : Instant) :
    (Instant.checkedDurationSince t earlier).any p = true ↔
      earlier ≤ t ∧ p (t - earlier) = true := by
  unfold Instant.checkedDurationSince
  split <;> simp [*]

theorem renew_of_live (h : record.live config now = true) : record.renew config now = record := by
  unfold live at h
  unfold renew
  split <;> rename_i hban <;> simp only [hban] at h
  · rw [if_neg (Nat.not_le.mpr (of_decide_eq_true h))]
  · obtain ⟨-, hless⟩ := (checkedDurationSince_any _ _ _).mp h
    rw [if_neg]
    intro hover
    obtain ⟨-, hge⟩ := (checkedDurationSince_any _ _ _).mp hover
    exact Nat.not_lt.mpr (of_decide_eq_true hge) (of_decide_eq_true hless)

theorem renew_of_not_live (h : record.live config now = false) (hstart : record.windowStart ≤ now) :
    record.renew config now = .new now := by
  unfold live at h
  unfold renew
  split <;> rename_i hban <;> simp only [hban] at h
  · rw [if_pos (Nat.not_lt.mp (of_decide_eq_false h))]
    rfl
  · have hover : (Instant.checkedDurationSince now record.windowStart).any (· ≥ config.window) := by
      rw [checkedDurationSince_any]
      refine ⟨hstart, ?_⟩
      by_contra hless
      have hlive := (checkedDurationSince_any (· < config.window) now record.windowStart).mpr
        ⟨hstart, by simpa using hless⟩
      rw [hlive] at h
      cases h
    rw [if_pos hover, hban]
    rfl

section

variable (config : AuthRateLimitConfig)

theorem renew_new (now : Instant) : (new now).renew config now = new now := by
  cases hlive : (new now).live config now with
  | true => exact renew_of_live hlive
  | false => exact renew_of_not_live hlive (Nat.le_refl now)

theorem renew_windowStart (hstart : record.windowStart ≤ now) :
    (record.renew config now).windowStart ≤ now := by
  cases hlive : record.live config now with
  | true => rwa [renew_of_live hlive]
  | false =>
    rw [renew_of_not_live hlive hstart]
    exact Nat.le_refl now

section

variable (now : Instant) (record : IpFailureRecord)

theorem renew_failures_le : (record.renew config now).failures ≤ record.failures := by
  unfold renew
  split
  · split
    · exact Nat.zero_le _
    · exact Nat.le_refl _
  · split
    · exact Nat.zero_le _
    · exact Nat.le_refl _

theorem fail_failures :
    (record.fail config now).1.failures =
      min ((record.renew config now).failures + 1) (2 ^ 32 - 1) := by
  unfold fail countFailure
  dsimp only
  split <;> rfl

theorem fail_windowStart :
    (record.fail config now).1.windowStart = (record.renew config now).windowStart := by
  unfold fail countFailure
  dsimp only
  split <;> rfl

end

end

theorem fail_congr {record' : IpFailureRecord}
    (h : record.renew config now = record'.renew config now) :
    record.fail config now = record'.fail config now := by
  unfold fail
  rw [h]

theorem fail_answer (config : AuthRateLimitConfig) (now : Instant) (record : IpFailureRecord) :
    (record.fail config now).2 = true ↔
      config.maxFailures.toNat ≤ (record.fail config now).1.failures := by
  rw [fail_failures]
  unfold fail countFailure
  dsimp only
  split <;> simp_all

theorem fail_bannedUntil (config : AuthRateLimitConfig) (now : Instant)
    (record : IpFailureRecord) :
    (record.fail config now).1.bannedUntil = Instant.checkedAdd now config.ban ∨
      (record.fail config now).2 = false ∧
        (record.fail config now).1.bannedUntil = (record.renew config now).bannedUntil := by
  unfold fail countFailure
  dsimp only
  split
  · exact .inl rfl
  · exact .inr ⟨rfl, rfl⟩

end IpFailureRecord

namespace RateLimitState

theorem lookup_prune_eq_some (h : (state.prune config now).entries.lookup key = some record) :
    state.entries.lookup key = some record := by
  unfold prune at h
  split at h
  · rw [Table.lookup_retain, Option.filter_eq_some_iff] at h
    exact h.1
  · exact h

theorem lookup_prune_of_live (h : state.entries.lookup key = some record)
    (hlive : record.live config now = true) :
    (state.prune config now).entries.lookup key = some record := by
  unfold prune
  split
  · rw [Table.lookup_retain, h]
    simp [hlive]
  · exact h

theorem prune_of_not_due (h : state.pruneDue now = false) : state.prune config now = state := by
  simp [prune, h]

theorem live_of_lookup_prune (hdue : state.pruneDue now = true)
    (h : (state.prune config now).entries.lookup key = some record) :
    record.live config now = true := by
  rw [prune, if_pos hdue, Table.lookup_retain, Option.filter_eq_some_iff] at h
  exact h.2

theorem size_prune_le (config : AuthRateLimitConfig) (now : Instant) (state : RateLimitState) :
    (state.prune config now).entries.size ≤ state.entries.size := by
  unfold prune
  split
  · exact Table.size_retain_le _ _
  · exact Nat.le_refl _

theorem mem_victims : key ∈ state.victims order →
    ∃ record, state.entries.lookup key = some record ∧ record.bannedUntil = none := by
  intro h
  have hfilter := List.mem_of_mem_take h
  rw [List.mem_filter, Option.any_eq_true] at hfilter
  obtain ⟨-, record, hlookup, hnone⟩ := hfilter
  exact ⟨record, hlookup, Option.isNone_iff_eq_none.mp hnone⟩

theorem victims_ne_nil (h : state.entries.lookup key = some record)
    (hnone : record.bannedUntil = none) : state.victims order ≠ [] := by
  have hentry : key ∈ state.entries := AList.lookup_isSome.mp (by simp [h])
  have hmem : key ∈ order.keys state.entries :=
    (order.perm state.entries).mem_iff.mpr (AList.mem_keys.mpr hentry)
  have hfilter : key ∈ (order.keys state.entries).filter fun key =>
      (state.entries.lookup key).any (·.bannedUntil.isNone) := by
    simp [hmem, h, hnone]
  intro hnil
  rw [victims, List.take_eq_nil_iff] at hnil
  rcases hnil with hzero | hempty
  · cases hzero
  · rw [hempty] at hfilter
    cases hfilter

theorem lookup_evict_eq_some (h : (state.evict order other).entries.lookup key = some record) :
    state.entries.lookup key = some record := by
  unfold evict at h
  split at h
  · dsimp only at h
    rw [Table.lookup_eraseAll] at h
    split at h
    · cases h
    · exact h
  · exact h

theorem lookup_evict_of_banned (h : state.entries.lookup key = some record)
    (hban : record.bannedUntil ≠ none) :
    (state.evict order other).entries.lookup key = some record := by
  unfold evict
  split
  · dsimp only
    rw [Table.lookup_eraseAll, if_neg, h]
    intro hvictim
    obtain ⟨victim, hlookup, hnone⟩ := mem_victims hvictim
    rw [h] at hlookup
    cases hlookup
    exact hban hnone
  · exact h

theorem size_evict_le (order : Table.Order RateLimitKey IpFailureRecord) (key : RateLimitKey)
    (state : RateLimitState) : (state.evict order key).entries.size ≤ state.entries.size := by
  unfold evict
  split
  · exact Table.size_eraseAll_le _ _
  · exact Nat.le_refl _

theorem evict_full_iff (hsize : state.entries.size ≤ maxEntries) :
    (state.evict order key).Full key ↔
      state.Full key ∧ ∀ other record, state.entries.lookup other = some record →
        record.bannedUntil ≠ none := by
  unfold evict
  split
  · rename_i hfull
    refine ⟨fun h => ⟨hfull, fun other record hlookup hnone => ?_⟩, fun ⟨_, hbans⟩ => ?_⟩
    · obtain ⟨victim, hvictim⟩ := List.exists_mem_of_ne_nil _ (victims_ne_nil hlookup hnone)
      obtain ⟨_, hentry, -⟩ := mem_victims hvictim
      have hmem : victim ∈ state.entries := AList.lookup_isSome.mp (by simp [hentry])
      exact Nat.not_lt.mpr h.2 (Nat.lt_of_lt_of_le (Table.size_eraseAll_lt hvictim hmem) hsize)
    · have hnil : state.victims order = [] := by
        rw [List.eq_nil_iff_forall_not_mem]
        intro victim hvictim
        obtain ⟨_, hentry, hnone⟩ := mem_victims hvictim
        exact hbans victim _ hentry hnone
      rw [hnil]
      exact hfull
  · rename_i hroom
    simp [hroom]

end RateLimitState

/-- After pruning there is no room for `key`, and every entry is a ban. -/
def RateLimitState.Saturated (state : RateLimitState) (config : AuthRateLimitConfig)
    (key : RateLimitKey) (now : Instant) : Prop :=
  (state.prune config now).Full key ∧
    ∀ other record, (state.prune config now).entries.lookup other = some record →
      record.bannedUntil ≠ none

structure AuthRateLimiter.Counts (limiter : AuthRateLimiter) (ip : IpAddr) : Prop where
  notAllowlisted : limiter.isAllowlisted ip = false
  enabled : limiter.config.maxFailures ≠ 0

namespace AuthRateLimiter

theorem makeRoom_full_iff (hsize : state.entries.size ≤ maxEntries) :
    (limiter.makeRoom key now order state).Full key ↔
      state.Saturated limiter.config key now :=
  RateLimitState.evict_full_iff
    (Nat.le_trans (RateLimitState.size_prune_le limiter.config now state) hsize)

theorem size_makeRoom_le (limiter : AuthRateLimiter) (key : RateLimitKey) (now : Instant)
    (order : Table.Order RateLimitKey IpFailureRecord)
    (hsize : state.entries.size ≤ maxEntries) :
    (limiter.makeRoom key now order state).entries.size ≤ maxEntries :=
  Nat.le_trans (RateLimitState.size_evict_le _ _ _)
    (Nat.le_trans (RateLimitState.size_prune_le _ _ _) hsize)

theorem lookup_makeRoom_eq_some
    (h : (limiter.makeRoom other now order state).entries.lookup key = some record) :
    state.entries.lookup key = some record :=
  RateLimitState.lookup_prune_eq_some (RateLimitState.lookup_evict_eq_some h)

theorem lookup_makeRoom_of_banned (h : state.entries.lookup key = some record)
    (hlive : record.live limiter.config now = true) (hban : record.bannedUntil ≠ none) :
    (limiter.makeRoom other now order state).entries.lookup key = some record :=
  RateLimitState.lookup_evict_of_banned (RateLimitState.lookup_prune_of_live h hlive) hban

theorem lookup_makeRoom_self (h : state.entries.lookup key = some record)
    (hlive : record.live limiter.config now = true) :
    (limiter.makeRoom key now order state).entries.lookup key = some record := by
  have hpruned := RateLimitState.lookup_prune_of_live h hlive
  have hmem : key ∈ (state.prune limiter.config now).entries :=
    AList.lookup_isSome.mp (by simp [hpruned])
  unfold makeRoom RateLimitState.evict
  rw [if_neg fun hfull => hfull.1 hmem]
  exact hpruned

theorem recordFailure_of_full (hcounts : limiter.Counts ip)
    (hfull : (limiter.makeRoom (.fromIp ip) now order state).Full (.fromIp ip)) :
    limiter.recordFailure ip now order state =
      (limiter.makeRoom (.fromIp ip) now order state, false) := by
  simp [recordFailure, hcounts.notAllowlisted, hcounts.enabled, hfull]

theorem recordFailure_of_room (hcounts : limiter.Counts ip)
    (hroom : ¬ (limiter.makeRoom (.fromIp ip) now order state).Full (.fromIp ip)) :
    limiter.recordFailure ip now order state =
      let made := limiter.makeRoom (.fromIp ip) now order state
      let failed := ((made.entries.lookup (.fromIp ip)).getD (.new now)).fail limiter.config now
      (made.put (.fromIp ip) failed.1, failed.2) := by
  simp [recordFailure, hcounts.notAllowlisted, hcounts.enabled, hroom]

theorem fail_makeRoom (hstart : ∀ record ∈ state.entries.lookup key, record.windowStart ≤ now) :
    (((limiter.makeRoom key now order state).entries.lookup key).getD (.new now)).fail
        limiter.config now =
      ((state.entries.lookup key).getD (.new now)).fail limiter.config now := by
  cases hmade : (limiter.makeRoom key now order state).entries.lookup key with
  | some record => rw [lookup_makeRoom_eq_some hmade]
  | none =>
    cases hentry : state.entries.lookup key with
    | none => rfl
    | some record =>
      cases hlive : record.live limiter.config now with
      | true =>
        rw [lookup_makeRoom_self hentry hlive] at hmade
        cases hmade
      | false =>
        refine IpFailureRecord.fail_congr ?_
        rw [Option.getD_none, Option.getD_some, IpFailureRecord.renew_new,
          IpFailureRecord.renew_of_not_live hlive (hstart record hentry)]

theorem recordFailure_saturated (hcounts : limiter.Counts ip)
    (hsize : state.entries.size ≤ maxEntries)
    (hfull : state.Saturated limiter.config (.fromIp ip) now) :
    (limiter.recordFailure ip now order state).1.entries.lookup (.fromIp ip) = none := by
  have hmade : (limiter.makeRoom (.fromIp ip) now order state).Full (.fromIp ip) :=
    (makeRoom_full_iff hsize).mpr hfull
  rw [recordFailure_of_full hcounts hmade]
  exact AList.lookup_eq_none.mpr hmade.1

theorem recordFailure_tracked (hcounts : limiter.Counts ip)
    (hsize : state.entries.size ≤ maxEntries)
    (hroom : ¬ state.Saturated limiter.config (.fromIp ip) now)
    (hstart : ∀ record ∈ state.entries.lookup (.fromIp ip), record.windowStart ≤ now) :
    (limiter.recordFailure ip now order state).1.entries.lookup (.fromIp ip) =
      some (((state.entries.lookup (.fromIp ip)).getD (.new now)).fail limiter.config now).1 := by
  rw [recordFailure_of_room hcounts (mt (makeRoom_full_iff hsize).mp hroom)]
  simp only [RateLimitState.put, fail_makeRoom hstart, AList.lookup_insert]

theorem recordFailure_lookup_other (hcounts : limiter.Counts ip) (hkey : key ≠ .fromIp ip) :
    (limiter.recordFailure ip now order state).1.entries.lookup key =
      (limiter.makeRoom (.fromIp ip) now order state).entries.lookup key := by
  by_cases hfull : (limiter.makeRoom (.fromIp ip) now order state).Full (.fromIp ip)
  · rw [recordFailure_of_full hcounts hfull]
  · rw [recordFailure_of_room hcounts hfull]
    exact AList.lookup_insert_ne hkey

theorem recordFailure_not_counted (h : ¬ limiter.Counts ip) :
    limiter.recordFailure ip now order state = (state, false) := by
  unfold recordFailure
  split
  · rfl
  · rename_i hlisted
    split
    · rfl
    · rename_i henabled
      exact absurd ⟨Bool.eq_false_iff.mpr hlisted, henabled⟩ h

end AuthRateLimiter

def RateLimitState.failures (state : RateLimitState) (key : RateLimitKey) : Nat :=
  (state.entries.lookup key).elim 0 IpFailureRecord.failures

theorem AuthRateLimiter.recordFailure_answer (hcounts : limiter.Counts ip) :
    (limiter.recordFailure ip now order state).2 = true ↔
      limiter.config.maxFailures.toNat ≤
        (limiter.recordFailure ip now order state).1.failures (.fromIp ip) := by
  by_cases hfull : (limiter.makeRoom (.fromIp ip) now order state).Full (.fromIp ip)
  · have hpositive : limiter.config.maxFailures.toNat ≠ 0 := by
      simpa [← UInt32.toNat_inj] using hcounts.enabled
    have hnone := AList.lookup_eq_none.mpr hfull.1
    simp [recordFailure_of_full hcounts hfull, RateLimitState.failures, hnone, hpositive]
  · simp [recordFailure_of_room hcounts hfull, RateLimitState.failures, RateLimitState.put,
      IpFailureRecord.fail_answer]

inductive KeyStep (limiter : AuthRateLimiter) (key : RateLimitKey) (call : RateLimitCall) :
    Option IpFailureRecord → Option IpFailureRecord → Prop
  | stays : KeyStep limiter key call entry entry
  | cleared : call = .recordSuccess ip → .fromIp ip = key → KeyStep limiter key call entry none
  | dropped {now : Instant} {record : IpFailureRecord} : call.now? = some now →
      record.live limiter.config now = false ∨ record.bannedUntil = none →
      KeyStep limiter key call (some record) none
  | forgiven {now : Instant} {record : IpFailureRecord} : call = .check ip now →
      record.bannedUntil = some bannedUntil → bannedUntil ≤ now →
      KeyStep limiter key call (some record) (some (.new now))
  | failed {now : Instant} {order : Table.Order RateLimitKey IpFailureRecord} :
      call = .recordFailure ip now order → limiter.Counts ip → .fromIp ip = key →
      KeyStep limiter key call entry (some ((entry.getD (.new now)).fail limiter.config now).1)

theorem KeyStep.makeRoom (hnow : call.now? = some now) :
    KeyStep limiter key call (state.entries.lookup key)
      ((limiter.makeRoom other now order state).entries.lookup key) := by
  cases hmade : (limiter.makeRoom other now order state).entries.lookup key with
  | some record =>
    rw [AuthRateLimiter.lookup_makeRoom_eq_some hmade]
    exact .stays
  | none =>
    cases hentry : state.entries.lookup key with
    | none => exact .stays
    | some record =>
      refine .dropped hnow ?_
      by_contra hkept
      rw [not_or, Bool.not_eq_false] at hkept
      rw [AuthRateLimiter.lookup_makeRoom_of_banned hentry hkept.1 hkept.2] at hmade
      cases hmade

theorem KeyStep.check (ip : IpAddr) (now : Instant) :
    KeyStep limiter key (.check ip now) (state.entries.lookup key)
      ((limiter.check ip now state).1.entries.lookup key) := by
  unfold AuthRateLimiter.check
  split
  · exact .stays
  · split
    · exact .stays
    · split
      · exact .stays
      · rename_i record hentry
        split
        · exact .stays
        · rename_i bannedUntil hban
          split
          · exact .stays
          · rename_i hover
            by_cases hkey : key = .fromIp ip
            · subst hkey
              rw [hentry, RateLimitState.put, AList.lookup_insert]
              exact .forgiven rfl hban (Nat.not_lt.mp hover)
            · rw [RateLimitState.put, AList.lookup_insert_ne hkey]
              exact .stays

theorem KeyStep.recordFailure (hsize : state.entries.size ≤ maxEntries)
    (hstart : ∀ record ∈ state.entries.lookup key, record.windowStart ≤ now) (ip : IpAddr) :
    KeyStep limiter key (.recordFailure ip now order) (state.entries.lookup key)
      ((limiter.recordFailure ip now order state).1.entries.lookup key) := by
  by_cases hcounts : limiter.Counts ip
  · by_cases hkey : key = .fromIp ip
    · subst hkey
      by_cases hfull : state.Saturated limiter.config (.fromIp ip) now
      · rw [AuthRateLimiter.recordFailure_saturated hcounts hsize hfull]
        cases hentry : state.entries.lookup (.fromIp ip) with
        | none => exact .stays
        | some record =>
          refine .dropped rfl (.inl ?_)
          by_contra hlive
          rw [Bool.not_eq_false] at hlive
          have hpruned := RateLimitState.lookup_prune_of_live hentry hlive
          exact hfull.1.1 (AList.lookup_isSome.mp (by simp [hpruned]))
      · rw [AuthRateLimiter.recordFailure_tracked hcounts hsize hfull hstart]
        exact .failed rfl hcounts rfl
    · rw [AuthRateLimiter.recordFailure_lookup_other hcounts hkey]
      exact .makeRoom rfl
  · rw [AuthRateLimiter.recordFailure_not_counted hcounts]
    exact .stays

theorem KeyStep.windowStart (h : KeyStep limiter key call before after)
    (hnow : ∀ record ∈ before, ∀ now ∈ call.now?, record.windowStart ≤ now)
    (hafter : record ∈ after) :
    record ∈ before ∨ ∃ now ∈ call.now?, record.windowStart ≤ now := by
  cases h with
  | stays => exact .inl hafter
  | cleared | dropped => cases hafter
  | forgiven hcall =>
    subst hcall
    cases hafter
    exact .inr ⟨_, rfl, Nat.le_refl _⟩
  | failed hcall hcounts hkey =>
    rename_i ip now order
    subst hcall
    cases hafter
    refine .inr ⟨now, rfl, ?_⟩
    rw [IpFailureRecord.fail_windowStart]
    refine IpFailureRecord.renew_windowStart _ ?_
    cases before with
    | none => exact Nat.le_refl now
    | some record => exact hnow record rfl now rfl

theorem step_key (limiter : AuthRateLimiter) (hsize : state.entries.size ≤ maxEntries)
    (hstart : ∀ record ∈ state.entries.lookup key, ∀ now ∈ call.now?, record.windowStart ≤ now) :
    KeyStep limiter key call (state.entries.lookup key)
      ((limiter.step state call).1.entries.lookup key) := by
  cases call with
  | check ip now => exact .check ip now
  | recordFailure ip now order =>
    exact .recordFailure hsize (fun record hrecord => hstart record hrecord now rfl) ip
  | recordSuccess ip =>
    by_cases hkey : key = .fromIp ip
    · subst hkey
      simp only [AuthRateLimiter.step, AuthRateLimiter.recordSuccess, AList.lookup_erase]
      exact .cleared rfl rfl
    · simp only [AuthRateLimiter.step, AuthRateLimiter.recordSuccess, AList.lookup_erase_ne hkey]
      exact .stays

theorem check_size (ip : IpAddr) (now : Instant) (hsize : state.entries.size ≤ maxEntries) :
    (limiter.check ip now state).1.entries.size ≤ maxEntries := by
  unfold AuthRateLimiter.check
  split
  · exact hsize
  · split
    · exact hsize
    · split
      · exact hsize
      · rename_i record hentry
        split
        · exact hsize
        · split
          · exact hsize
          · have hmem : .fromIp ip ∈ state.entries := AList.lookup_isSome.mp (by simp [hentry])
            rw [RateLimitState.put, Table.size_insert_of_mem hmem]
            exact hsize

theorem recordFailure_size (ip : IpAddr) (hsize : state.entries.size ≤ maxEntries) :
    (limiter.recordFailure ip now order state).1.entries.size ≤ maxEntries := by
  by_cases hcounts : limiter.Counts ip
  · have hmade := limiter.size_makeRoom_le (.fromIp ip) now order hsize
    by_cases hfull : (limiter.makeRoom (.fromIp ip) now order state).Full (.fromIp ip)
    · rwa [AuthRateLimiter.recordFailure_of_full hcounts hfull]
    · rw [AuthRateLimiter.recordFailure_of_room hcounts hfull]
      dsimp only [RateLimitState.put]
      by_cases hmem : .fromIp ip ∈ (limiter.makeRoom (.fromIp ip) now order state).entries
      · rwa [Table.size_insert_of_mem hmem]
      · rw [Table.size_insert_of_notMem hmem]
        exact Nat.not_le.mp fun hge => hfull ⟨hmem, hge⟩
  · rwa [AuthRateLimiter.recordFailure_not_counted hcounts]

theorem step_size (limiter : AuthRateLimiter) (call : RateLimitCall)
    (hsize : state.entries.size ≤ maxEntries) :
    (limiter.step state call).1.entries.size ≤ maxEntries := by
  cases call with
  | check ip now => exact check_size ip now hsize
  | recordFailure ip now order => exact recordFailure_size ip hsize
  | recordSuccess ip => exact Nat.le_trans (Table.size_erase_le _ _) hsize

theorem run_size (limiter : AuthRateLimiter) (calls : List RateLimitCall)
    (hsize : state.entries.size ≤ maxEntries) :
    (run limiter.step state calls).1.entries.size ≤ maxEntries :=
  run_invariant (fun _ (state : RateLimitState) => state.entries.size ≤ maxEntries)
    (fun _ _ call _ hsize => step_size limiter call hsize) hsize (along_true _ calls)

theorem after_size (limiter : AuthRateLimiter) (created : Instant) (calls : List RateLimitCall) :
    (limiter.after created calls).entries.size ≤ maxEntries :=
  run_size limiter calls (Nat.zero_le _)

def readings (calls : List RateLimitCall) : List Instant := calls.filterMap RateLimitCall.now?

/-- The clock does not go back from one call to a later one. -/
def NonDecreasing (calls : List RateLimitCall) : Prop := (readings calls).Pairwise (· ≤ ·)

def RateLimitState.StartedBefore (state : RateLimitState) (key : RateLimitKey)
    (calls : List RateLimitCall) : Prop :=
  ∀ record ∈ state.entries.lookup key, ∀ now ∈ readings calls, record.windowStart ≤ now

theorem mem_readings_of_mem {call : RateLimitCall} (hcall : call ∈ calls)
    (hnow : now ∈ call.now?) : now ∈ readings calls :=
  List.mem_filterMap.mpr ⟨call, hcall, hnow⟩

theorem readings_append (first second : List RateLimitCall) :
    readings (first ++ second) = readings first ++ readings second :=
  List.filterMap_append

theorem mem_readings_cons (h : now ∈ readings rest) : now ∈ readings (call :: rest) := by
  rw [← List.singleton_append, readings_append]
  exact List.mem_append_right _ h

theorem nonDecreasing_append : NonDecreasing (first ++ second) ↔
    NonDecreasing first ∧ NonDecreasing second ∧
      ∀ now ∈ readings first, ∀ later ∈ readings second, now ≤ later := by
  unfold NonDecreasing
  rw [readings_append, List.pairwise_append]

theorem NonDecreasing.tail (h : NonDecreasing (call :: rest)) : NonDecreasing rest :=
  (nonDecreasing_append.mp (List.singleton_append ▸ h)).2.1

theorem NonDecreasing.head_le (h : NonDecreasing (call :: rest)) (hnow : now ∈ call.now?)
    (hlater : later ∈ readings rest) : now ≤ later :=
  (nonDecreasing_append.mp (List.singleton_append ▸ h)).2.2 now
    (mem_readings_of_mem (List.mem_singleton_self _) hnow) later hlater

theorem step_started (limiter : AuthRateLimiter) (hsize : state.entries.size ≤ maxEntries)
    (hclock : NonDecreasing (call :: rest)) (hstart : state.StartedBefore key (call :: rest)) :
    (limiter.step state call).1.StartedBefore key rest := by
  have hnow : ∀ record ∈ state.entries.lookup key, ∀ now ∈ call.now?,
      record.windowStart ≤ now := fun record hrecord now hcall =>
    hstart record hrecord now (mem_readings_of_mem List.mem_cons_self hcall)
  have hrest : ∀ record ∈ state.entries.lookup key, ∀ now ∈ readings rest,
      record.windowStart ≤ now := fun record hrecord now hlater =>
    hstart record hrecord now (mem_readings_cons hlater)
  intro record hrecord later hlater
  rcases (step_key limiter hsize hnow).windowStart hnow hrecord with hold | ⟨now, hcall, hle⟩
  · exact hrest record hold later hlater
  · exact Nat.le_trans hle (hclock.head_le hcall hlater)

theorem run_started (limiter : AuthRateLimiter) (hsize : state.entries.size ≤ maxEntries)
    (hclock : NonDecreasing (calls ++ rest)) (hstart : state.StartedBefore key (calls ++ rest)) :
    (run limiter.step state calls).1.StartedBefore key rest := by
  induction calls generalizing state with
  | nil => exact hstart
  | cons call calls ih =>
    exact ih (step_size limiter call hsize) hclock.tail (step_started limiter hsize hclock hstart)

theorem after_started (limiter : AuthRateLimiter) (created : Instant) (key : RateLimitKey)
    (hclock : NonDecreasing (calls ++ rest)) :
    (limiter.after created calls).StartedBefore key rest :=
  run_started limiter (Nat.zero_le _) hclock nofun

end UncrownedKing.Server
