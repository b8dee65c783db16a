import UncrownedKing.Server.RateLimitLaws

/-!
# Bans, bursts and a full table

The window of failures starts with a failure and does not slide. A new key goes
untracked when the table is full of bans.
-/

namespace UncrownedKing.Server

open Lib Net Policy

variable {limiter : AuthRateLimiter} {config : AuthRateLimitConfig} {state : RateLimitState}
  {key : RateLimitKey} {now : Instant} {record : IpFailureRecord}
  {order : Table.Order RateLimitKey IpFailureRecord}

def RateLimitState.Banned (state : RateLimitState) (key : RateLimitKey) (stop : Instant) : Prop :=
  ∃ record ∈ state.entries.lookup key, ∃ bannedUntil ∈ record.bannedUntil, stop ≤ bannedUntil

/-- The call takes the key out of the table. -/
def RateLimitCall.Clears (key : RateLimitKey) : RateLimitCall → Prop
  | .recordSuccess ip => .fromIp ip = key
  | .check _ _ | .recordFailure _ _ _ => False

theorem KeyStep.banned (h : KeyStep limiter key call before after)
    (hban : ∃ record ∈ before, ∃ bannedUntil ∈ record.bannedUntil, stop ≤ bannedUntil)
    (hclears : ¬ call.Clears key) (hbefore : ∀ now ∈ call.now?, now < stop)
    (hagain : ∀ now ∈ call.now?,
      ∃ bannedUntil ∈ Instant.checkedAdd now limiter.config.ban, stop ≤ bannedUntil) :
    ∃ record ∈ after, ∃ bannedUntil ∈ record.bannedUntil, stop ≤ bannedUntil := by
  obtain ⟨record, hrecord, bannedUntil, huntil, hstop⟩ := hban
  have hlive (now) (hnow : now ∈ call.now?) : record.live limiter.config now = true := by
    rw [IpFailureRecord.live, huntil]
    exact decide_eq_true (Nat.lt_of_lt_of_le (hbefore now hnow) hstop)
  cases h with
  | stays => exact ⟨record, hrecord, bannedUntil, huntil, hstop⟩
  | cleared hcall hkey =>
    subst hcall
    exact absurd hkey hclears
  | dropped hnow hdrop =>
    cases hrecord
    rcases hdrop with hdead | hnone
    · rw [hlive _ hnow] at hdead
      cases hdead
    · rw [hnone] at huntil
      cases huntil
  | forgiven hcall hban hover =>
    subst hcall
    cases hrecord
    rw [huntil] at hban
    cases hban
    exact absurd (hbefore _ rfl) (Nat.not_lt.mpr (Nat.le_trans hstop hover))
  | failed hcall hcounts hkey =>
    subst hcall
    refine ⟨_, rfl, ?_⟩
    rw [Option.mem_def.mp hrecord, Option.getD_some]
    rcases record.fail_bannedUntil limiter.config _ with hnew | ⟨-, hkept⟩
    · rw [hnew]
      exact hagain _ rfl
    · rw [hkept, IpFailureRecord.renew_of_live (hlive _ rfl)]
      exact ⟨bannedUntil, huntil, hstop⟩

theorem check_banned (hban : state.Banned (.fromIp ip) stop) (hbefore : now < stop)
    (hcounts : limiter.Counts ip) : (limiter.check ip now state).2 = false := by
  obtain ⟨record, hrecord, bannedUntil, huntil, hstop⟩ := hban
  have hruns : now < bannedUntil := Nat.lt_of_lt_of_le hbefore hstop
  simp [AuthRateLimiter.check, hcounts.notAllowlisted, hcounts.enabled, Option.mem_def.mp hrecord,
    Option.mem_def.mp huntil, hruns]

theorem recordFailure_bans (hbanned : (limiter.recordFailure ip now order state).2 = true)
    (huntil : Instant.checkedAdd now limiter.config.ban = some stop) :
    (limiter.recordFailure ip now order state).1.Banned (.fromIp ip) stop ∧ limiter.Counts ip := by
  by_cases hcounts : limiter.Counts ip
  · by_cases hfull : (limiter.makeRoom (.fromIp ip) now order state).Full (.fromIp ip)
    · rw [AuthRateLimiter.recordFailure_of_full hcounts hfull] at hbanned
      cases hbanned
    · rw [AuthRateLimiter.recordFailure_of_room hcounts hfull] at hbanned ⊢
      refine ⟨⟨_, AList.lookup_insert _, stop, ?_, Nat.le_refl stop⟩, hcounts⟩
      rcases IpFailureRecord.fail_bannedUntil limiter.config now _ with hnew | ⟨hnone, -⟩
      · exact hnew.trans huntil
      · rw [hnone] at hbanned
        cases hbanned
  · rw [AuthRateLimiter.recordFailure_not_counted hcounts] at hbanned
    cases hbanned

theorem run_banned (hsize : state.entries.size ≤ maxEntries) (hclock : NonDecreasing calls)
    (hstart : state.StartedBefore key calls) (hban : state.Banned key stop)
    (hclears : ∀ call ∈ calls, ¬ call.Clears key)
    (hbefore : ∀ now ∈ readings calls, now < stop)
    (hagain : ∀ now ∈ readings calls,
      ∃ bannedUntil ∈ Instant.checkedAdd now limiter.config.ban, stop ≤ bannedUntil) :
    (run limiter.step state calls).1.Banned key stop := by
  induction calls generalizing state with
  | nil => exact hban
  | cons call rest ih =>
    have hnow {now : Instant} (h : now ∈ call.now?) : now ∈ readings (call :: rest) :=
      mem_readings_of_mem List.mem_cons_self h
    obtain ⟨hcall, hclears⟩ := List.forall_mem_cons.mp hclears
    have hstep := step_key limiter hsize fun record hrecord now h =>
      hstart record hrecord now (hnow h)
    exact ih (step_size limiter call hsize) hclock.tail (step_started limiter hsize hclock hstart)
      (hstep.banned hban hcall (fun now h => hbefore now (hnow h)) fun now h =>
        hagain now (hnow h))
      hclears (fun now h => hbefore now (mem_readings_cons h)) fun now h =>
        hagain now (mem_readings_cons h)

/-- Limits that a validated configuration can give. -/
def AuthRateLimitConfig.Accepted (config : AuthRateLimitConfig) : Prop :=
  ∃ server : ServerConfig, server.validateAuthRateLimits = .ok () ∧
    server.authRateLimitConfig = config

theorem AuthRateLimitConfig.Accepted.ban_le (h : config.Accepted) :
    config.ban ≤ fromSecs 2592000 := by
  obtain ⟨server, hvalid, rfl⟩ := h
  have hlimit := (checkAll_ok _).mp hvalid
    (rejectLargeLimit "auth_rate_limit_ban_seconds" server.authRateLimitConfig.banSecs 2592000)
    (by simp)
  unfold rejectLargeLimit at hlimit
  split at hlimit
  · cases hlimit
  · rename_i hle
    exact Nat.mul_le_mul_right _ (UInt64.le_iff_toNat_le.mp (UInt64.not_lt.mp hle))

/-- The clock does not go back, and its end is more than the longest ban away. -/
structure ClockReadings (calls : List RateLimitCall) : Prop where
  nonDecreasing : NonDecreasing calls
  inRange : ∀ now ∈ readings calls, now + fromSecs 2592000 < 2 ^ 63 * nanosPerSec

theorem after_cons (limiter : AuthRateLimiter) (created : Instant) (before : List RateLimitCall)
    (call : RateLimitCall) (between : List RateLimitCall) :
    limiter.after created (before ++ call :: between) =
      (run limiter.step (limiter.step (limiter.after created before) call).1 between).1 := by
  unfold AuthRateLimiter.after
  rw [run_append]
  rfl

/-- A ban holds against every address of its key until it is over or a success clears it, and the
table stays within its bound. -/
theorem bans_hold (limiter : AuthRateLimiter) (haccepted : limiter.config.Accepted)
    (created : Instant) (calls : List RateLimitCall) (hclock : ClockReadings calls) :
    (limiter.after created calls).entries.size ≤ maxEntries ∧
      ∀ before ip t order between ip' t',
        calls = before ++ .recordFailure ip t order :: (between ++ [.check ip' t']) →
        (limiter.recordFailure ip t order (limiter.after created before)).2 = true →
        limiter.isAllowlisted ip' = false → RateLimitKey.fromIp ip' = .fromIp ip →
        (∀ call ∈ between, ¬ call.Clears (.fromIp ip)) → t' < t + limiter.config.ban →
        (limiter.check ip' t'
          (limiter.after created (before ++ .recordFailure ip t order :: between))).2 = false := by
  refine ⟨after_size limiter created calls, ?_⟩
  rintro before ip t order between ip' t' rfl hbanned hlisted hkey hclears hbefore
  obtain ⟨-, hlater, -⟩ := nonDecreasing_append.mp hclock.nonDecreasing
  have hbetween := (nonDecreasing_append.mp hlater.tail).2.2
  have hmem {now : Instant} (h : now ∈ readings (.recordFailure ip t order :: between)) :
      now ∈ readings (before ++ .recordFailure ip t order :: (between ++ [.check ip' t'])) := by
    rw [readings_append, ← List.cons_append, readings_append]
    exact List.mem_append_right _ (List.mem_append_left _ h)
  -- no ban runs past the end of the clock
  have hadd {now : Instant} (h : now ∈ readings (.recordFailure ip t order :: between)) :
      Instant.checkedAdd now limiter.config.ban = some (now + limiter.config.ban) := by
    have hrange := hclock.inRange now (hmem h)
    exact if_pos (Nat.lt_of_le_of_lt (Nat.add_le_add_left haccepted.ban_le now) hrange)
  have hreads : t ∈ readings (.recordFailure ip t order :: between) :=
    mem_readings_of_mem List.mem_cons_self rfl
  obtain ⟨hban, hcounts⟩ := recordFailure_bans hbanned (hadd hreads)
  rw [after_cons]
  have hsize := after_size limiter created before
  have hstart := after_started limiter created (.fromIp ip) hclock.nonDecreasing
  have hstarted : (limiter.step (limiter.after created before)
      (.recordFailure ip t order)).1.StartedBefore (.fromIp ip) between :=
    fun record hrecord now hnow => step_started limiter hsize hlater hstart record hrecord now (by
      rw [readings_append]
      exact List.mem_append_left _ hnow)
  have hafter : (run limiter.step (limiter.step (limiter.after created before)
      (.recordFailure ip t order)).1 between).1.Banned (.fromIp ip) (t + limiter.config.ban) := by
    refine run_banned (step_size limiter _ hsize) (nonDecreasing_append.mp hlater.tail).1 hstarted
      hban hclears (fun now hnow => ?_) (fun now hnow => ?_)
    · have hcheck := hbetween now hnow t' (by simp [readings, RateLimitCall.now?])
      exact Nat.lt_of_le_of_lt hcheck hbefore
    · refine ⟨_, hadd (mem_readings_cons hnow), Nat.add_le_add_right ?_ _⟩
      refine hlater.head_le rfl ?_
      rw [readings_append]
      exact List.mem_append_left _ hnow
  rw [← hkey] at hafter
  exact check_banned hafter hbefore ⟨hlisted, hcounts.enabled⟩

def sampleLimiter : AuthRateLimiter := ⟨⟨3, 60, 300⟩, []⟩

def sampleIp : IpAddr := .v4 (.new 192 0 2 1)

def sampleMappedIp : IpAddr := .v6 (.new 0 0 0 0 0 0xffff 0xc000 0x0201)

def failAt (seconds : Nat) : RateLimitCall := .recordFailure sampleIp (fromSecs seconds) .stored

theorem sampleLimiter_accepted : sampleLimiter.config.Accepted :=
  ⟨{ listen := "", certPath := "", keyPath := "", credentials := [],
      limits := some { authRateLimitFailures := some 3 } }, by decide, rfl⟩

/-- The ban stands one second before its end. -/
theorem ban_holds_for_mapped :
    ClockReadings [failAt 0, failAt 1, failAt 2, .check sampleMappedIp (fromSecs 301)] ∧
      (sampleLimiter.check sampleMappedIp (fromSecs 301)
        (sampleLimiter.after 0 [failAt 0, failAt 1, failAt 2])).2 = false := by
  have hclock : ClockReadings
      [failAt 0, failAt 1, failAt 2, .check sampleMappedIp (fromSecs 301)] :=
    ⟨by unfold NonDecreasing; decide, by decide⟩
  exact ⟨hclock, (bans_hold sampleLimiter sampleLimiter_accepted 0 _ hclock).2
    [failAt 0, failAt 1] sampleIp (fromSecs 2) .stored [] sampleMappedIp (fromSecs 301) rfl
    (by decide +kernel) (by decide) (by decide) nofun (by decide)⟩

def RateLimitCall.fails (limiter : AuthRateLimiter) (key : RateLimitKey) : RateLimitCall → Bool
  | .recordFailure ip _ _ => RateLimitKey.fromIp ip = key && !limiter.isAllowlisted ip
  | .check _ _ | .recordSuccess _ => false

/-- The window of `key` is still running at the call. -/
def RateLimitState.Runs (state : RateLimitState) (config : AuthRateLimitConfig)
    (key : RateLimitKey) (call : RateLimitCall) : Prop :=
  ∃ record ∈ state.entries.lookup key, ∀ now ∈ call.now?, record.live config now = true

instance (state : RateLimitState) (config : AuthRateLimitConfig) (key : RateLimitKey)
    (call : RateLimitCall) : Decidable (state.Runs config key call) :=
  inferInstanceAs (Decidable (∃ record ∈ _, _))

/-- The call is made at or after the end of the ban of `key`. -/
def RateLimitState.BanOver (state : RateLimitState) (key : RateLimitKey)
    (call : RateLimitCall) : Prop :=
  ∃ record ∈ state.entries.lookup key, ∃ bannedUntil ∈ record.bannedUntil,
    ∃ now ∈ call.now?, bannedUntil ≤ now

instance (state : RateLimitState) (key : RateLimitKey) (call : RateLimitCall) :
    Decidable (state.BanOver key call) :=
  inferInstanceAs (Decidable (∃ record ∈ _, _))

theorem fails_eq_true {call : RateLimitCall} : call.fails limiter key = true ↔
    ∃ ip now order, call = .recordFailure ip now order ∧ .fromIp ip = key ∧
      limiter.isAllowlisted ip = false := by
  cases call <;> simp [RateLimitCall.fails]

theorem RateLimitState.failures_of_lookup (h : state.entries.lookup key = some record) :
    state.failures key = record.failures := by
  rw [failures, h]
  rfl

theorem RateLimitState.failures_of_none (h : state.entries.lookup key = none) :
    state.failures key = 0 := by
  rw [failures, h]
  rfl

theorem KeyStep.failures_le (h : KeyStep limiter key call before after) :
    after.elim 0 IpFailureRecord.failures ≤
      before.elim 0 IpFailureRecord.failures + if call.fails limiter key then 1 else 0 := by
  cases h with
  | stays => exact Nat.le_add_right _ _
  | cleared | dropped | forgiven => exact Nat.zero_le _
  | failed hcall hcounts hkey =>
    rename_i ip now order
    have hfails : call.fails limiter key = true :=
      fails_eq_true.mpr ⟨_, _, _, hcall, hkey, hcounts.notAllowlisted⟩
    rw [if_pos hfails, Option.elim_some, IpFailureRecord.fail_failures]
    refine Nat.le_trans (Nat.min_le_left _ _) (Nat.add_le_add_right ?_ 1)
    refine Nat.le_trans (IpFailureRecord.renew_failures_le _ _ _) ?_
    cases before with
    | none | some record => exact Nat.le_refl _

theorem step_failures_le (limiter : AuthRateLimiter) (hsize : state.entries.size ≤ maxEntries)
    (hstart : state.StartedBefore key (call :: rest)) :
    (limiter.step state call).1.failures key ≤
      state.failures key + if call.fails limiter key then 1 else 0 :=
  (step_key limiter hsize fun record hrecord now h =>
    hstart record hrecord now (mem_readings_of_mem List.mem_cons_self h)).failures_le

theorem run_failures_le (limiter : AuthRateLimiter) (hsize : state.entries.size ≤ maxEntries)
    (hclock : NonDecreasing calls) (hstart : state.StartedBefore key calls) :
    (run limiter.step state calls).1.failures key ≤
      state.failures key + calls.countP (·.fails limiter key) := by
  induction calls generalizing state with
  | nil => exact Nat.le_refl _
  | cons call rest ih =>
    have hstep := step_failures_le limiter hsize hstart
    have hrest := ih (step_size limiter call hsize) hclock.tail
      (step_started limiter hsize hclock hstart)
    rw [List.countP_cons]
    exact Nat.le_trans hrest (by omega)

theorem step_failures_not_running (hsize : state.entries.size ≤ maxEntries)
    (hstart : state.StartedBefore key (call :: rest)) (henabled : limiter.config.maxFailures ≠ 0)
    (hfails : call.fails limiter key = true) (hover : ¬ state.Runs limiter.config key call) :
    (limiter.step state call).1.failures key ≤ 1 := by
  obtain ⟨ip, now, order, rfl, rfl, hlisted⟩ := fails_eq_true.mp hfails
  have hcounts : limiter.Counts ip := ⟨hlisted, henabled⟩
  have hnow : ∀ record ∈ state.entries.lookup (.fromIp ip), record.windowStart ≤ now :=
    fun record hrecord =>
      hstart record hrecord now (mem_readings_of_mem List.mem_cons_self rfl)
  unfold RateLimitState.failures
  by_cases hfull : state.Saturated limiter.config (.fromIp ip) now
  · simp [AuthRateLimiter.step, AuthRateLimiter.recordFailure_saturated hcounts hsize hfull]
  · simp only [AuthRateLimiter.step, AuthRateLimiter.recordFailure_tracked hcounts hsize hfull hnow,
      Option.elim_some, IpFailureRecord.fail_failures]
    have hrenew : (((state.entries.lookup (.fromIp ip)).getD (.new now)).renew
        limiter.config now) = .new now := by
      cases hentry : state.entries.lookup (.fromIp ip) with
      | none => exact IpFailureRecord.renew_new _ _
      | some record =>
        refine IpFailureRecord.renew_of_not_live ?_ (hnow record hentry)
        by_contra hlive
        refine hover ⟨record, hentry, ?_⟩
        rintro _ ⟨⟩
        simpa using hlive
    rw [hrenew]
    exact Nat.min_le_left _ _

theorem run_failures_interrupted (hsize : state.entries.size ≤ maxEntries)
    (hclock : NonDecreasing calls) (hstart : state.StartedBefore key calls)
    (henabled : limiter.config.maxFailures ≠ 0)
    (h : ¬ Along limiter.step (fun state call => call.fails limiter key = true →
      state.Runs limiter.config key call) state calls) :
    (run limiter.step state calls).1.failures key ≤ calls.countP (·.fails limiter key) := by
  induction calls generalizing state with
  | nil => exact absurd trivial h
  | cons call rest ih =>
    have hstarted := step_started limiter hsize hclock hstart
    rw [List.countP_cons]
    by_cases hnow : call.fails limiter key = true → state.Runs limiter.config key call
    · have hrest := ih (step_size limiter call hsize) hclock.tail hstarted fun hrest =>
        h ⟨hnow, hrest⟩
      exact Nat.le_trans hrest (Nat.le_add_right _ _)
    · rw [Classical.not_imp] at hnow
      have hfirst := step_failures_not_running hsize hstart henabled hnow.1 hnow.2
      have hrest := run_failures_le limiter (step_size limiter call hsize) hclock.tail hstarted
      rw [if_pos hnow.1]
      exact Nat.le_trans hrest (by omega)

theorem not_saturated_of_runs {call : RateLimitCall} (hnow : call.now? = some now)
    (h : state.Runs config key call) : ¬ state.Saturated config key now := by
  obtain ⟨record, hrecord, hlive⟩ := h
  intro hfull
  have hpruned := RateLimitState.lookup_prune_of_live hrecord (hlive now hnow)
  exact hfull.1.1 (AList.lookup_isSome.mp (by simp [hpruned]))

theorem step_failures_running (hsize : state.entries.size ≤ maxEntries)
    (hstart : state.StartedBefore key (call :: rest)) (henabled : limiter.config.maxFailures ≠ 0)
    (hfails : call.fails limiter key = true) (hruns : state.Runs limiter.config key call) :
    ∃ record ∈ state.entries.lookup key,
      ∃ record' ∈ (limiter.step state call).1.entries.lookup key,
        record'.failures = min (record.failures + 1) (2 ^ 32 - 1) := by
  obtain ⟨ip, now, order, rfl, rfl, hlisted⟩ := fails_eq_true.mp hfails
  have hroom := not_saturated_of_runs rfl hruns
  obtain ⟨record, hrecord, hlive⟩ := hruns
  have hnow : ∀ record ∈ state.entries.lookup (.fromIp ip), record.windowStart ≤ now :=
    fun record hrecord =>
      hstart record hrecord now (mem_readings_of_mem List.mem_cons_self rfl)
  have htracked : (limiter.step state (.recordFailure ip now order)).1.entries.lookup _ = _ :=
    AuthRateLimiter.recordFailure_tracked ⟨hlisted, henabled⟩ hsize hroom hnow
  rw [Option.mem_def.mp hrecord, Option.getD_some] at htracked
  refine ⟨record, hrecord, _, htracked, ?_⟩
  rw [IpFailureRecord.fail_failures, IpFailureRecord.renew_of_live (hlive now rfl)]

theorem KeyStep.other (h : KeyStep limiter key call before after)
    (hfails : call.fails limiter key = false)
    (hban : ∀ record ∈ before, ∀ bannedUntil ∈ record.bannedUntil, ∀ now ∈ call.now?,
      now < bannedUntil) : after = before ∨ after = none := by
  cases h with
  | stays => exact .inl rfl
  | cleared | dropped => exact .inr rfl
  | forgiven hcall huntil hover =>
    subst hcall
    exact absurd (hban _ rfl _ huntil _ rfl) (Nat.not_lt.mpr hover)
  | failed hcall hcounts hkey =>
    rw [fails_eq_true.mpr ⟨_, _, _, hcall, hkey, hcounts.notAllowlisted⟩] at hfails
    cases hfails

theorem step_failures_ge (hsize : state.entries.size ≤ maxEntries)
    (hstart : state.StartedBefore key (call :: rest)) (henabled : limiter.config.maxFailures ≠ 0)
    (hruns : call.fails limiter key = true → state.Runs limiter.config key call)
    (hban : ¬ state.BanOver key call)
    (hcount : ∀ record ∈ state.entries.lookup key, min count (2 ^ 32 - 1) ≤ record.failures) :
    ∀ record ∈ (limiter.step state call).1.entries.lookup key,
      min (count + if call.fails limiter key then 1 else 0) (2 ^ 32 - 1) ≤ record.failures := by
  intro record' hrecord'
  cases hfails : call.fails limiter key with
  | true =>
    obtain ⟨record, hrecord, other, hother, hone⟩ :=
      step_failures_running hsize hstart henabled hfails (hruns hfails)
    cases Option.mem_unique hrecord' hother
    have hold := hcount record hrecord
    rw [hone, if_pos rfl]
    omega
  | false =>
    have hends : ∀ record ∈ state.entries.lookup key, ∀ bannedUntil ∈ record.bannedUntil,
        ∀ now ∈ call.now?, now < bannedUntil := fun record hrecord bannedUntil huntil now hnow =>
      Nat.not_le.mp fun hover => hban ⟨record, hrecord, bannedUntil, huntil, now, hnow, hover⟩
    have hstep := step_key limiter hsize fun record hrecord now h =>
      hstart record hrecord now (mem_readings_of_mem List.mem_cons_self h)
    rcases hstep.other hfails hends with hsame | hnone
    · rw [hsame] at hrecord'
      exact hcount record' hrecord'
    · rw [hnone] at hrecord'
      cases hrecord'

theorem run_failures_ge (hsize : state.entries.size ≤ maxEntries) (hclock : NonDecreasing calls)
    (hstart : state.StartedBefore key calls) (henabled : limiter.config.maxFailures ≠ 0)
    (hruns : Along limiter.step (fun state call => call.fails limiter key = true →
      state.Runs limiter.config key call) state calls)
    (hban : Along limiter.step (fun state call => ¬ state.BanOver key call) state calls)
    (hcount : ∀ record ∈ state.entries.lookup key, min count (2 ^ 32 - 1) ≤ record.failures) :
    ∀ record ∈ (run limiter.step state calls).1.entries.lookup key,
      min (count + calls.countP (·.fails limiter key)) (2 ^ 32 - 1) ≤ record.failures := by
  induction calls generalizing state count with
  | nil => exact hcount
  | cons call rest ih =>
    have hstep := step_failures_ge hsize hstart henabled hruns.1 hban.1 hcount
    have hrest := ih (step_size limiter call hsize) hclock.tail
      (step_started limiter hsize hclock hstart) hruns.2 hban.2 hstep
    rw [List.countP_cons, Nat.add_comm (rest.countP _), ← Nat.add_assoc]
    exact hrest

theorem run_answer (henabled : limiter.config.maxFailures ≠ 0) (calls : List RateLimitCall)
    {last : RateLimitCall} (hlast : last.fails limiter key = true) :
    (run limiter.step state (calls ++ [last])).2.getLast? = some true ↔
      limiter.config.maxFailures.toNat ≤
        (run limiter.step state (calls ++ [last])).1.failures key := by
  obtain ⟨ip, now, order, rfl, rfl, hlisted⟩ := fails_eq_true.mp hlast
  rw [run_append]
  simp only [run, AuthRateLimiter.step, List.append_nil, List.getLast?_append,
    List.getLast?_singleton, Option.some_or, Option.some.injEq]
  exact AuthRateLimiter.recordFailure_answer ⟨hlisted, henabled⟩

theorem run_tracked (hsize : state.entries.size ≤ maxEntries) (hclock : NonDecreasing calls)
    (hstart : state.StartedBefore key calls) (henabled : limiter.config.maxFailures ≠ 0)
    (hfirst : ∃ record, record ∈ state.entries.lookup key)
    (hlast : ∀ call ∈ calls.getLast?, call.fails limiter key = true)
    (hruns : Along limiter.step (fun state call => call.fails limiter key = true →
      state.Runs limiter.config key call) state calls) :
    ∃ record, record ∈ (run limiter.step state calls).1.entries.lookup key := by
  rcases List.eq_nil_or_concat calls with rfl | ⟨inside, last, rfl⟩
  · exact hfirst
  · rw [List.concat_eq_append] at *
    have hfails : last.fails limiter key = true := hlast last (by simp)
    have hinside := run_started limiter hsize hclock hstart
    obtain ⟨_, _, record, hrecord, -⟩ := step_failures_running (run_size limiter inside hsize)
      hinside henabled hfails ((along_append hruns).2.1 hfails)
    rw [run_append]
    exact ⟨record, hrecord⟩

theorem burst_answer (henabled : limiter.config.maxFailures ≠ 0) {first : RateLimitCall}
    (hfirst : first.fails limiter key = true)
    (hlast : ∀ call ∈ rest.getLast?, call.fails limiter key = true) :
    (run limiter.step state (first :: rest)).2.getLast? = some true ↔
      limiter.config.maxFailures.toNat ≤
        (run limiter.step (limiter.step state first).1 rest).1.failures key := by
  rcases List.eq_nil_or_concat rest with rfl | ⟨inside, last, rfl⟩
  · exact run_answer henabled [] hfirst
  · rw [List.concat_eq_append] at *
    exact run_answer henabled (first :: inside) (hlast last (by simp))

/-- As many failures as allowed ban the key exactly if there is room for it and each finds its
window or a ban running. -/
theorem burst_bans_iff (limiter : AuthRateLimiter) (henabled : limiter.config.maxFailures ≠ 0)
    (created : Instant) (before : List RateLimitCall) (ip : IpAddr) (now : Instant)
    (order : Table.Order RateLimitKey IpFailureRecord) (rest : List RateLimitCall)
    (hlisted : limiter.isAllowlisted ip = false)
    (hclock : NonDecreasing (before ++ .recordFailure ip now order :: rest))
    (hlast : ∀ call ∈ rest.getLast?, call.fails limiter (.fromIp ip) = true)
    (hcount : rest.countP (·.fails limiter (.fromIp ip)) + 1 =
      limiter.config.maxFailures.toNat)
    (hban : Along limiter.step (fun state call => ¬ state.BanOver (.fromIp ip) call)
      (limiter.step (limiter.after created before) (.recordFailure ip now order)).1 rest) :
    (run limiter.step (limiter.after created before)
        (.recordFailure ip now order :: rest)).2.getLast? = some true ↔
      ¬ (limiter.after created before).Saturated limiter.config (.fromIp ip) now ∧
        Along limiter.step (fun state call => call.fails limiter (.fromIp ip) = true →
            state.Runs limiter.config (.fromIp ip) call)
          (limiter.step (limiter.after created before) (.recordFailure ip now order)).1 rest := by
  have hsize := after_size limiter created before
  have hstart := after_started limiter created (.fromIp ip) hclock
  have hcalls := (nonDecreasing_append.mp hclock).2.1
  have hcounts : limiter.Counts ip := ⟨hlisted, henabled⟩
  have hsizes := step_size limiter (.recordFailure ip now order) hsize
  have hstarted := step_started limiter hsize hcalls hstart
  rw [burst_answer henabled (by simp [RateLimitCall.fails, hlisted]) hlast]
  constructor
  · intro hmany
    refine ⟨fun hfull => ?_, by_contra fun hover => ?_⟩
    · -- the first failure is not counted, and the others are too few
      have hnone : (limiter.step (limiter.after created before)
          (.recordFailure ip now order)).1.entries.lookup (.fromIp ip) = none :=
        AuthRateLimiter.recordFailure_saturated hcounts hsize hfull
      have hle := run_failures_le limiter hsizes hcalls.tail hstarted
      rw [RateLimitState.failures_of_none hnone] at hle
      have := Nat.le_trans hmany hle
      omega
    · have hle := run_failures_interrupted hsizes hcalls.tail hstarted henabled hover
      have := Nat.le_trans hmany hle
      omega
  · rintro ⟨hroom, hruns⟩
    have htracked : (limiter.step (limiter.after created before)
        (.recordFailure ip now order)).1.entries.lookup (.fromIp ip) = _ :=
      AuthRateLimiter.recordFailure_tracked hcounts hsize hroom fun record hrecord =>
        hstart record hrecord now (mem_readings_of_mem List.mem_cons_self rfl)
    have hone : ∀ record ∈ (limiter.step (limiter.after created before)
        (.recordFailure ip now order)).1.entries.lookup (.fromIp ip),
        min 1 (2 ^ 32 - 1) ≤ record.failures := by
      intro record hrecord
      rw [htracked] at hrecord
      cases hrecord
      rw [IpFailureRecord.fail_failures]
      omega
    obtain ⟨record, hrecord⟩ := run_tracked hsizes hcalls.tail hstarted henabled
      ⟨_, htracked⟩ hlast hruns
    have hge := run_failures_ge hsizes hcalls.tail hstarted henabled hruns hban hone record hrecord
    have hword := limiter.config.maxFailures.toNat_lt
    rw [RateLimitState.failures_of_lookup hrecord]
    omega

theorem burst_in_window_bans :
    NonDecreasing [failAt 0, failAt 1, failAt 2] ∧
      (run sampleLimiter.step (sampleLimiter.after 0 [])
        [failAt 0, failAt 1, failAt 2]).2.getLast? = some true := by
  have hclock : NonDecreasing [failAt 0, failAt 1, failAt 2] := by
    unfold NonDecreasing
    decide
  have hroom : ¬ (sampleLimiter.after 0 []).Saturated sampleLimiter.config (.fromIp sampleIp)
      (fromSecs 0) := fun h => absurd h.1.2 (by decide)
  exact ⟨hclock, (burst_bans_iff sampleLimiter (by decide) 0 [] sampleIp (fromSecs 0) .stored
    [failAt 1, failAt 2] (by decide) hclock (by decide) (by decide) (by decide +kernel)).mpr
    ⟨hroom, by decide +kernel⟩⟩

/-- The second of three quick failures starts a new window. -/
theorem straddling_burst_not_banned :
    NonDecreasing [failAt 0, failAt 59, failAt 60, failAt 61] ∧
      fromSecs 61 - fromSecs 59 < sampleLimiter.config.window ∧
      (run sampleLimiter.step (sampleLimiter.after 0 [failAt 0])
        [failAt 59, failAt 60, failAt 61]).2 = [false, false, false] := by
  refine ⟨?_, by decide, by decide +kernel⟩
  unfold NonDecreasing
  decide

/-- The table is full of bans in force. -/
def RateLimitState.AllBanned (state : RateLimitState) (now : Instant) : Prop :=
  state.entries.size = maxEntries ∧
    ∀ key, ∀ record ∈ state.entries.lookup key, ∃ bannedUntil ∈ record.bannedUntil,
      now < bannedUntil

/-- The table is full of bans, no prune is due, and one of the bans is over. -/
structure RateLimitState.Lingers (state : RateLimitState) (key : RateLimitKey) (now : Instant) :
    Prop where
  full : state.Full key
  bans : ∀ other record, state.entries.lookup other = some record → record.bannedUntil ≠ none
  noPrune : state.pruneDue now = false
  expired : ∃ other, ∃ record ∈ state.entries.lookup other, ∃ bannedUntil ∈ record.bannedUntil,
    bannedUntil ≤ now

theorem RateLimitState.Lingers.saturated (h : state.Lingers key now)
    (config : AuthRateLimitConfig) : state.Saturated config key now := by
  unfold Saturated
  rw [RateLimitState.prune_of_not_due h.noPrune]
  exact ⟨h.full, h.bans⟩

theorem RateLimitState.Lingers.refuses (h : state.Lingers (.fromIp ip) now)
    (hcounts : limiter.Counts ip) (hsize : state.entries.size ≤ maxEntries) :
    .fromIp ip ∉ (limiter.recordFailure ip now order state).1.entries ∧
      ¬ (limiter.recordFailure ip now order state).1.AllBanned now := by
  have hmade : (limiter.makeRoom (.fromIp ip) now order state).Full (.fromIp ip) :=
    (AuthRateLimiter.makeRoom_full_iff hsize).mpr (h.saturated _)
  rw [AuthRateLimiter.recordFailure_of_full hcounts hmade]
  refine ⟨hmade.1, fun hbanned => ?_⟩
  obtain ⟨other, record, hrecord, bannedUntil, huntil, hover⟩ := h.expired
  have hkept : (limiter.makeRoom (.fromIp ip) now order state).entries.lookup other =
      some record := by
    unfold AuthRateLimiter.makeRoom
    rw [RateLimitState.prune_of_not_due h.noPrune]
    exact lookup_evict_of_banned hrecord (h.bans other record hrecord)
  obtain ⟨other, hother, hruns⟩ := hbanned.2 other record hkept
  cases Option.mem_unique huntil hother
  exact absurd hruns (Nat.not_lt.mpr hover)

theorem saturated_of_untracked (hcounts : limiter.Counts ip)
    (hsize : state.entries.size ≤ maxEntries)
    (h : .fromIp ip ∉ (limiter.recordFailure ip now order state).1.entries) :
    state.Saturated limiter.config (.fromIp ip) now := by
  by_contra hroom
  have hmade : ¬ (limiter.makeRoom (.fromIp ip) now order state).Full (.fromIp ip) :=
    mt (AuthRateLimiter.makeRoom_full_iff hsize).mp hroom
  rw [AuthRateLimiter.recordFailure_of_room hcounts hmade] at h
  exact h ((AList.mem_insert _).mpr (.inl rfl))

theorem bans_run (hlingers : ¬ state.Lingers key now) (hfull : state.Saturated config key now)
    (hrecord : (state.prune config now).entries.lookup other = some record) :
    ∃ bannedUntil ∈ record.bannedUntil, now < bannedUntil := by
  obtain ⟨bannedUntil, huntil⟩ := Option.ne_none_iff_exists'.mp (hfull.2 other record hrecord)
  refine ⟨bannedUntil, huntil, ?_⟩
  cases hdue : state.pruneDue now with
  | true =>
    have hlive := RateLimitState.live_of_lookup_prune hdue hrecord
    rw [IpFailureRecord.live, huntil] at hlive
    exact of_decide_eq_true hlive
  | false =>
    by_contra hover
    unfold RateLimitState.Saturated at hfull
    rw [RateLimitState.prune_of_not_due hdue] at hfull hrecord
    exact hlingers ⟨hfull.1, hfull.2, hdue, other, record, hrecord, bannedUntil, huntil,
      Nat.not_lt.mp hover⟩

/-- A failure goes untracked only for bans that run exactly if none lingers in a full table. -/
theorem untracked_only_by_bans_iff (limiter : AuthRateLimiter)
    (henabled : limiter.config.maxFailures ≠ 0) (created : Instant)
    (calls : List RateLimitCall) (ip : IpAddr) (hlisted : limiter.isAllowlisted ip = false)
    (now : Instant) (order : Table.Order RateLimitKey IpFailureRecord) :
    (.fromIp ip ∉ (limiter.recordFailure ip now order
          (limiter.after created calls)).1.entries →
        (limiter.recordFailure ip now order (limiter.after created calls)).1.AllBanned now) ↔
      ¬ (limiter.after created calls).Lingers (.fromIp ip) now := by
  have hcounts : limiter.Counts ip := ⟨hlisted, henabled⟩
  have hsize := after_size limiter created calls
  constructor
  · intro h hlingers
    obtain ⟨huntracked, hbanned⟩ := hlingers.refuses hcounts hsize
    exact hbanned (h huntracked)
  · intro hlingers huntracked
    have hfull := saturated_of_untracked hcounts hsize huntracked
    have hmade : (limiter.makeRoom (.fromIp ip) now order
        (limiter.after created calls)).Full (.fromIp ip) :=
      (AuthRateLimiter.makeRoom_full_iff hsize).mpr hfull
    rw [AuthRateLimiter.recordFailure_of_full hcounts hmade]
    refine ⟨Nat.le_antisymm (limiter.size_makeRoom_le _ now order hsize) hmade.2, ?_⟩
    intro other record hrecord
    exact bans_run hlingers hfull (RateLimitState.lookup_evict_eq_some hrecord)

def floodLimiter : AuthRateLimiter := ⟨⟨1, 60, 1⟩, []⟩

def floodIp (n : Nat) : IpAddr := .v4 (.new 198 18 (UInt8.ofNat (n / 256)) (UInt8.ofNat n))

def flood (n : Nat) : List RateLimitCall :=
  (List.range n).map fun i => .recordFailure (floodIp i) (fromSecs 8) .stored

structure Flooded (n : Nat) (state : RateLimitState) : Prop where
  size : state.entries.size = n
  bans : ∀ key record, state.entries.lookup key = some record →
    record.bannedUntil = some (fromSecs 9)
  keys : ∀ key ∈ state.entries, ∃ i < n, key = .fromIp (floodIp i)
  lastPrune : state.lastPrune = 0

theorem floodIp_injective (hm : m < maxEntries) (hn : n < maxEntries)
    (h : RateLimitKey.fromIp (floodIp m) = .fromIp (floodIp n)) : m = n := by
  simp only [floodIp, RateLimitKey.fromIp, RateLimitKey.v4.injEq, Ipv4Addr.new.injEq, true_and,
    ← UInt8.toNat_inj, UInt8.toNat_ofNat'] at h
  unfold maxEntries at hm hn
  omega

theorem Flooded.pruneDue (h : Flooded n state) (hnow : now < fromSecs 10) :
    state.pruneDue now = false := by
  have hsoon : ¬ now - state.lastPrune ≥ pruneInterval := by
    rw [h.lastPrune]
    exact Nat.not_le.mpr hnow
  simp [RateLimitState.pruneDue, hsoon]

theorem Flooded.step (h : Flooded n state) (hn : n < maxEntries) :
    Flooded (n + 1)
      (floodLimiter.step state (.recordFailure (floodIp n) (fromSecs 8) .stored)).1 := by
  have hnew : .fromIp (floodIp n) ∉ state.entries := by
    intro hmem
    obtain ⟨i, hi, hkey⟩ := h.keys _ hmem
    exact Nat.ne_of_gt hi (floodIp_injective hn (Nat.lt_trans hi hn) hkey)
  have hcounts : floodLimiter.Counts (floodIp n) := ⟨rfl, by decide⟩
  have hroom : ¬ state.Full (.fromIp (floodIp n)) := fun hfull =>
    absurd hfull.2 (Nat.not_le.mpr (h.size ▸ hn))
  have hmade : floodLimiter.makeRoom (.fromIp (floodIp n)) (fromSecs 8) .stored state = state := by
    unfold AuthRateLimiter.makeRoom
    rw [RateLimitState.prune_of_not_due (h.pruneDue (by decide)), RateLimitState.evict,
      if_neg hroom]
  have hput : (floodLimiter.step state (.recordFailure (floodIp n) (fromSecs 8) .stored)).1 =
      state.put (.fromIp (floodIp n))
        ((IpFailureRecord.new (fromSecs 8)).fail floodLimiter.config (fromSecs 8)).1 := by
    simp only [AuthRateLimiter.step]
    rw [AuthRateLimiter.recordFailure_of_room hcounts (by rwa [hmade]), hmade]
    dsimp only
    rw [AList.lookup_eq_none.mpr hnew]
    rfl
  rw [hput]
  refine ⟨?_, ?_, ?_, h.lastPrune⟩
  · rw [RateLimitState.put, Table.size_insert_of_notMem hnew, h.size]
  · intro key record hrecord
    by_cases hkey : key = .fromIp (floodIp n)
    · subst hkey
      rw [RateLimitState.put, AList.lookup_insert] at hrecord
      cases hrecord
      decide
    · rw [RateLimitState.put, AList.lookup_insert_ne hkey] at hrecord
      exact h.bans key record hrecord
  · intro key hkey
    rcases (AList.mem_insert _).mp hkey with rfl | hold
    · exact ⟨n, Nat.lt_succ_self n, rfl⟩
    · obtain ⟨i, hi, hkey⟩ := h.keys key hold
      exact ⟨i, Nat.lt_succ_of_lt hi, hkey⟩

theorem flood_flooded (hn : n ≤ maxEntries) : Flooded n (floodLimiter.after 0 (flood n)) := by
  induction n with
  | zero =>
    refine ⟨rfl, fun key record hrecord => ?_, fun key hkey => ?_, rfl⟩
    · cases hrecord
    · exact absurd hkey (AList.notMem_empty key)
  | succ n ih =>
    have hsplit : flood (n + 1) =
        flood n ++ [.recordFailure (floodIp n) (fromSecs 8) .stored] := by
      simp [flood, List.range_succ]
    rw [hsplit, after_cons, run]
    dsimp only
    exact (ih (Nat.le_of_succ_le hn)).step hn

theorem Flooded.full (h : Flooded maxEntries state) :
    state.Full (.fromIp sampleIp) := by
  refine ⟨fun hmem => ?_, h.size.ge⟩
  obtain ⟨i, -, hkey⟩ := h.keys _ hmem
  simp [sampleIp, floodIp, RateLimitKey.fromIp] at hkey

theorem Flooded.banned (h : Flooded n state) (hrecord : state.entries.lookup key = some record) :
    record.bannedUntil ≠ none := by
  rw [h.bans key record hrecord]
  simp

theorem Flooded.lingers (h : Flooded maxEntries state) :
    state.Lingers (.fromIp sampleIp) (fromSecs 9) where
  full := h.full
  bans := fun _ _ hrecord => h.banned hrecord
  noPrune := h.pruneDue (by decide)
  expired := by
    obtain ⟨⟨other, record⟩, hentry⟩ : ∃ entry, entry ∈ state.entries.entries :=
      List.exists_mem_of_length_pos (Nat.lt_of_lt_of_le (by decide) h.size.ge)
    have hrecord := AList.mem_lookup_iff.mpr hentry
    exact ⟨other, record, hrecord, _, h.bans other record hrecord, Nat.le_refl _⟩

theorem running_bans_refuse :
    (floodLimiter.recordFailure sampleIp (fromSecs 8) .stored
      (floodLimiter.after 0 (flood maxEntries))).1.AllBanned (fromSecs 8) := by
  have hflooded := flood_flooded (Nat.le_refl maxEntries)
  have hruns : ¬ (floodLimiter.after 0 (flood maxEntries)).Lingers (.fromIp sampleIp)
      (fromSecs 8) := by
    rintro ⟨-, -, -, key, record, hrecord, bannedUntil, huntil, hover⟩
    rw [hflooded.bans key record hrecord] at huntil
    cases huntil
    exact absurd hover (by decide)
  have hfull : (floodLimiter.after 0 (flood maxEntries)).Saturated floodLimiter.config
      (.fromIp sampleIp) (fromSecs 8) := by
    unfold RateLimitState.Saturated
    rw [RateLimitState.prune_of_not_due (hflooded.pruneDue (by decide))]
    exact ⟨hflooded.full, fun _ _ hrecord => hflooded.banned hrecord⟩
  exact (untracked_only_by_bans_iff floodLimiter (by decide) 0 (flood maxEntries) sampleIp rfl
    (fromSecs 8) .stored).mpr hruns (AList.lookup_eq_none.mp
      (AuthRateLimiter.recordFailure_saturated ⟨rfl, by decide⟩ hflooded.size.le hfull))

theorem floodLimiter_accepted : floodLimiter.config.Accepted :=
  ⟨{ listen := "", certPath := "", keyPath := "", credentials := [],
      limits := some { authRateLimitFailures := some 1, authRateLimitBanSeconds := some 1 } },
    by decide, rfl⟩

theorem flood_nonDecreasing :
    NonDecreasing (flood n ++ [.recordFailure sampleIp (fromSecs 9) .stored]) := by
  have height : ∀ now ∈ readings (flood n), now = fromSecs 8 := by
    intro now hnow
    obtain ⟨call, hcall, hreads⟩ := List.mem_filterMap.mp hnow
    obtain ⟨i, -, rfl⟩ := List.mem_map.mp hcall
    cases hreads
    rfl
  refine nonDecreasing_append.mpr ⟨?_, List.pairwise_singleton _ _, ?_⟩
  · refine List.pairwise_of_forall_mem_list fun now hnow later hlater => ?_
    rw [height now hnow, height later hlater]
  · intro now hnow later hlater
    rw [height now hnow, List.mem_singleton.mp hlater]
    decide

/-- When the bans are over, the table keeps an address out all the same. -/
theorem expired_bans_refuse :
    floodLimiter.config.Accepted ∧
      NonDecreasing (flood maxEntries ++ [.recordFailure sampleIp (fromSecs 9) .stored]) ∧
      .fromIp sampleIp ∉ (floodLimiter.recordFailure sampleIp (fromSecs 9) .stored
        (floodLimiter.after 0 (flood maxEntries))).1.entries ∧
      ¬ (floodLimiter.recordFailure sampleIp (fromSecs 9) .stored
        (floodLimiter.after 0 (flood maxEntries))).1.AllBanned (fromSecs 9) := by
  have hflooded := flood_flooded (Nat.le_refl maxEntries)
  exact ⟨floodLimiter_accepted, flood_nonDecreasing,
    hflooded.lingers.refuses ⟨rfl, by decide⟩ hflooded.size.le⟩

end UncrownedKing.Server
