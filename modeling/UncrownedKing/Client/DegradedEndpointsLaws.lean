import UncrownedKing.Client.DegradedEndpoints

/-!
# Penalties and reloads

A penalty counts in one epoch only, and lasts in it unless a mark of another
epoch takes its place.
-/

namespace UncrownedKing.Client

open Lib

namespace DegradedEndpoints

theorem isEndpointDegraded_iff {d : DegradedEndpoints} {current : Nat} :
    (d.isEndpointDegraded endpoint current).2 = true ↔
      ∃ entry, d.entries.lookup endpoint = some entry ∧ d.now < entry.deadline ∧
        entry.epoch = current := by
  simp only [isEndpointDegraded, Table.lookup_retain]
  cases d.entries.lookup endpoint with
  | none => simp
  | some entry => by_cases hdeadline : d.now < entry.deadline <;> simp [Option.filter, hdeadline]

theorem lookup_apply {d : DegradedEndpoints} {op : DegradedOp}
    (h : (d.apply op).entries.lookup endpoint = some entry) :
    d.entries.lookup endpoint = some entry ∨
      op = .mark endpoint entry.epoch ∧ entry.deadline = d.now + degradedCooldown := by
  cases op with
  | keep | elapse time => exact .inl h
  | judge other current =>
    simp only [apply, isEndpointDegraded, Table.lookup_retain] at h
    exact .inl (Option.filter_eq_some_iff.mp h).1
  | mark other current =>
    by_cases hsame : endpoint = other
    · subst hsame
      simp only [apply, markEndpointDegraded, AList.lookup_insert, Option.some.injEq] at h
      subst h
      exact .inr ⟨rfl, rfl⟩
    · simp only [apply, markEndpointDegraded, AList.lookup_insert_ne hsame] at h
      exact .inl h
  | clear other =>
    by_cases hsame : endpoint = other
    · subst hsame
      simp [apply, clearEndpointDegraded] at h
    · simp only [apply, clearEndpointDegraded, AList.lookup_erase_ne hsame] at h
      exact .inl h
  | clearAll => simp [apply, clearDegradedEndpoints] at h

def Penalized (d : DegradedEndpoints) (endpoint : String) (deadline : Instant) : Prop :=
  d.now < deadline → ∃ entry, d.entries.lookup endpoint = some entry ∧ deadline ≤ entry.deadline ∧
    entry.epoch = d.epoch

/-- A mark of another epoch does not replace one of the current epoch. -/
def KeepsCurrent (d : DegradedEndpoints) : DegradedOp → Prop
  | .mark endpoint current => current ≠ d.epoch →
    ∀ entry ∈ d.entries.lookup endpoint, entry.epoch ≠ d.epoch ∨ entry.deadline ≤ d.now
  | _ => True

theorem now_le_apply (d : DegradedEndpoints) (op : DegradedOp) : d.now ≤ (d.apply op).now := by
  cases op with
  | elapse time => exact Nat.le_add_right _ _
  | _ => exact Nat.le_refl _

end DegradedEndpoints

def DegradedOp.Spares (op : DegradedOp) (endpoint : String) : Prop :=
  op ≠ .clear endpoint ∧ op ≠ .clearAll

theorem DegradedEndpoints.Penalized.apply {d : DegradedEndpoints} {op : DegradedOp}
    (h : d.Penalized endpoint deadline) (hstarted : deadline ≤ d.now + degradedCooldown)
    (hkeeps : d.KeepsCurrent op) (hspares : op.Spares endpoint) :
    (d.apply op).Penalized endpoint deadline := by
  intro hnow
  obtain ⟨entry, hentry, hdeadline, hepoch⟩ :=
    h (Nat.lt_of_le_of_lt (d.now_le_apply op) hnow)
  cases op with
  | keep | elapse time => exact ⟨entry, hentry, hdeadline, hepoch⟩
  | judge other current =>
    refine ⟨entry, ?_, hdeadline, hepoch⟩
    have hlive : d.now < entry.deadline := Nat.lt_of_lt_of_le hnow hdeadline
    simp [DegradedEndpoints.apply, isEndpointDegraded, Table.lookup_retain, hentry, hlive]
  | mark other current =>
    by_cases hsame : endpoint = other
    · subst hsame
      by_cases hcurrent : current = d.epoch
      · exact ⟨_, AList.lookup_insert _, hstarted, hcurrent⟩
      · obtain hne | hexpired := hkeeps hcurrent entry hentry
        · exact absurd hepoch hne
        · exact absurd (Nat.lt_of_lt_of_le hnow hdeadline) (Nat.not_lt.mpr hexpired)
    · exact ⟨entry, (AList.lookup_insert_ne hsame).trans hentry, hdeadline, hepoch⟩
  | clear other =>
    have hne : endpoint ≠ other := by
      rintro rfl
      exact hspares.1 rfl
    exact ⟨entry, (AList.lookup_erase_ne hne).trans hentry, hdeadline, hepoch⟩
  | clearAll => exact absurd rfl hspares.2

structure Progress (s : Dialling) (point : DialPoint) (op : DegradedOp) (s' : Dialling) : Prop where
  degraded : s'.degraded = s.degraded.apply op
  cleared : s'.cleared = s.cleared + if op = .clearAll then 1 else 0
  marks : s.marks ⊆ s'.marks
  marked : ∀ endpoint epoch, op = .mark endpoint epoch → ∃ attempt endpoints attempts,
    point = .dialling attempt endpoints attempts ∧ attempt.epoch = epoch ∧
      ⟨endpoint, attempt.snapshot.published⟩ ∈ s'.marks

theorem Progress.keep (hdegraded : s'.degraded = s.degraded) (hcleared : s'.cleared = s.cleared)
    (hmarks : s'.marks = s.marks) : Progress s point .keep s' :=
  ⟨hdegraded, hcleared, hmarks ▸ fun _ h => h, nofun⟩

theorem dial_progress (s : Dialling) (attempt : ConnectAttempt) (endpoint : String)
    (rest : List String) (attempts : List EndpointAttemptError)
    (result : Except AttemptError Unit) :
    Progress s (.dialling attempt (endpoint :: rest) attempts)
      (DialPoint.operation (.dialling attempt (endpoint :: rest) attempts) (.go result))
      (s.dial attempt endpoint rest attempts result).1 := by
  obtain error | ⟨⟩ := result
  · by_cases hdegrades : degrades endpoint error
    · simp only [Dialling.dial, DialPoint.operation, hdegrades]
      refine ⟨rfl, rfl, by simp [Dialling.mark], ?_⟩
      rintro _ _ ⟨⟩
      exact ⟨attempt, _, _, rfl, rfl, by simp [Dialling.mark]⟩
    · simp only [Dialling.dial, DialPoint.operation, hdegrades]
      exact .keep rfl rfl rfl
  · exact ⟨rfl, rfl, fun _ h => h, nofun⟩

theorem step_progress (s : Dialling) (task : Nat) (point : DialPoint) (input : DialInput) :
    Progress s point (point.operation input) (s.step task point input).1 := by
  cases input with
  | elapse time => cases point <;> exact ⟨rfl, rfl, fun _ h => h, nofun⟩
  | connect | reload candidate => cases point <;> exact .keep rfl rfl rfl
  | go result =>
    cases point with
    | dialling attempt endpoints attempts =>
      cases endpoints with
      | nil => cases result <;> exact .keep rfl rfl rfl
      | cons endpoint rest =>
        have hdial := dial_progress s attempt endpoint rest attempts result
        obtain error | ⟨⟩ := result <;> exact hdial
    | judging attempt remaining healthy degraded =>
      cases remaining with
      | nil => cases result <;> exact .keep rfl rfl rfl
      | cons endpoint remaining => cases result <;> exact ⟨rfl, rfl, fun _ h => h, nofun⟩
    | reloadClear => cases result <;> exact ⟨rfl, rfl, fun _ h => h, nofun⟩
    | reloadLock candidate =>
      by_cases hfree : s.configPublishLock = none <;> cases result <;>
        simp only [Dialling.step, hfree] <;> exact .keep rfl rfl rfl
    | _ => cases result <;> exact .keep rfl rfl rfl

def DialPoint.Dated (R : Nat → Nat → Prop) (cleared : Nat) : DialPoint → Prop
  | .loadingCa snapshot | .capturing snapshot => snapshot.cleared ≤ cleared
  | .judging attempt _ _ _ | .dialling attempt _ _ =>
    R attempt.epoch attempt.snapshot.published ∧ attempt.snapshot.cleared ≤ attempt.epoch
  | _ => True

theorem DialPoint.Dated.mono {point : DialPoint} (h : point.Dated R cleared)
    (hle : cleared ≤ cleared') : point.Dated R cleared' := by
  cases point with
  | loadingCa snapshot | capturing snapshot => exact Nat.le_trans h hle
  | _ => exact h

structure Dated (R : Nat → Nat → Prop) (t : Threads Dialling DialPoint) : Prop where
  epoch : t.shared.degraded.epoch = t.shared.cleared
  entries : ∀ endpoint entry, t.shared.degraded.entries.lookup endpoint = some entry →
    ∃ mark ∈ t.shared.marks, mark.endpoint = endpoint ∧ R entry.epoch mark.published
  points : ∀ task, (t.pc task).Dated R t.shared.cleared

theorem Dated.start (R : Nat → Nat → Prop) (config : EndpointConfig) :
    Dated R (dialStart config) :=
  ⟨rfl, by simp [dialStart], fun _ => trivial⟩

def DialPoint.Captures (R : Nat → Nat → Prop) (cleared : Nat) : DialPoint → DialInput → Prop
  | .capturing snapshot, .go _ => R cleared snapshot.published
  | _, _ => True

/-- Connects read an epoch that fits their configuration. -/
def InEpoch (R : Nat → Nat → Prop) (t : Threads Dialling DialPoint) (act : Nat × DialInput) :
    Prop :=
  (t.pc act.1).Captures R t.shared.cleared act.2 ∧
    ((t.pc act.1).operation act.2 = .clearAll → t.shared.degraded.epoch + 1 < 2 ^ 64)

theorem Progress.epoch (h : Progress s point op s') (hepoch : s.degraded.epoch = s.cleared)
    (hwrap : op = .clearAll → s.degraded.epoch + 1 < 2 ^ 64) :
    s'.degraded.epoch = s'.cleared := by
  rw [h.degraded, h.cleared]
  cases op with
  | clearAll =>
    simp only [DegradedEndpoints.apply, DegradedEndpoints.clearDegradedEndpoints, if_true]
    rw [Nat.mod_eq_of_lt (hwrap rfl), hepoch]
  | _ => exact hepoch

theorem dial_dated (h : DialPoint.Dated R cleared (.dialling attempt (endpoint :: rest) attempts)) :
    (Dialling.dial s attempt endpoint rest attempts result).2.Dated R cleared := by
  obtain error | ⟨⟩ := result
  · simp only [Dialling.dial]
    split
    · trivial
    · exact h
  · trivial

theorem step_dated (hepoch : s.degraded.epoch = s.cleared) (h : point.Dated R s.cleared)
    (hcaptures : point.Captures R s.cleared input) :
    (Dialling.step s task point input).2.Dated R s.cleared := by
  cases input with
  | elapse time => cases point <;> exact h
  | connect =>
    cases point with
    | idle => exact Nat.le_refl _
    | _ => exact h
  | reload candidate =>
    cases point with
    | idle => trivial
    | _ => exact h
  | go result =>
    cases point with
    | capturing snapshot =>
      have hfits : R s.degraded.epoch snapshot.published ∧ snapshot.cleared ≤ s.degraded.epoch := by
        rw [hepoch]
        exact ⟨hcaptures, h⟩
      cases result <;> exact hfits
    | judging attempt remaining healthy degraded =>
      cases remaining with
      | nil => cases result <;> exact h
      | cons endpoint remaining =>
        cases result <;> (simp only [Dialling.step, Dialling.judge]; split <;> exact h)
    | dialling attempt endpoints attempts =>
      cases endpoints with
      | nil => cases result <;> trivial
      | cons endpoint rest =>
        have hdial : (s.dial attempt endpoint rest attempts result).2.Dated R s.cleared :=
          dial_dated h
        obtain error | ⟨⟩ := result <;> exact hdial
    | loadingCa snapshot =>
      cases result with
      | ok => exact h
      | error => trivial
    | reloadLock candidate =>
      by_cases hfree : s.configPublishLock = none <;> cases result <;>
        simp only [Dialling.step, hfree] <;> trivial
    | _ => cases result <;> trivial

theorem Dated.step (h : Dated R t) (hcond : InEpoch R t act) :
    Dated R (t.step Dialling.step act) := by
  obtain ⟨task, input⟩ := act
  have hprogress := step_progress t.shared task (t.pc task) input
  have hcleared : t.shared.cleared ≤ (t.step Dialling.step (task, input)).shared.cleared := by
    rw [Threads.step_shared, hprogress.cleared]
    exact Nat.le_add_right _ _
  refine ⟨hprogress.epoch h.epoch hcond.2, fun endpoint entry hentry => ?_, fun other => ?_⟩
  · rw [Threads.step_shared, hprogress.degraded] at hentry
    obtain hentry | ⟨hmark, -⟩ := DegradedEndpoints.lookup_apply hentry
    · obtain ⟨mark, hmem, hendpoint, hfits⟩ := h.entries endpoint entry hentry
      exact ⟨mark, hprogress.marks hmem, hendpoint, hfits⟩
    · obtain ⟨attempt, endpoints, attempts, hpoint, hepoch, hmem⟩ :=
        hprogress.marked endpoint entry.epoch hmark
      have hdated := h.points task
      rw [hpoint] at hdated
      exact ⟨_, hmem, rfl, hepoch ▸ hdated.1⟩
  · by_cases hsame : other = task
    · subst hsame
      rw [Threads.step_pc_self]
      exact (step_dated h.epoch (h.points other) hcond.1).mono hcleared
    · rw [Threads.step_pc_of_ne t input hsame]
      exact (h.points other).mono hcleared

/-- No connect treats as degraded what only connects from before a reload marked. -/
def RespectsReloads (since : EndpointSnapshot → Nat) (t : Threads Dialling DialPoint) : Prop :=
  ∀ task attempt endpoint remaining healthy degraded,
    t.pc task = .judging attempt (endpoint :: remaining) healthy degraded →
    (t.shared.degraded.isEndpointDegraded endpoint attempt.epoch).2 = true →
    ∀ reload ≤ since attempt.snapshot, ∃ mark ∈ t.shared.marks,
      mark.endpoint = endpoint ∧ reload ≤ mark.published

theorem Dated.respectsReloads (h : Dated R t)
    (hsince : ∀ snapshot epoch published, R epoch snapshot.published → snapshot.cleared ≤ epoch →
      R epoch published → since snapshot ≤ published) : RespectsReloads since t := by
  intro task attempt endpoint remaining healthy degraded hpoint hdegraded reload hreload
  have hdated := h.points task
  rw [hpoint] at hdated
  obtain ⟨entry, hentry, -, hepoch⟩ := DegradedEndpoints.isEndpointDegraded_iff.mp hdegraded
  obtain ⟨mark, hmem, hendpoint, hfits⟩ := h.entries endpoint entry hentry
  rw [hepoch] at hfits
  exact ⟨mark, hmem, hendpoint, Nat.le_trans hreload (hsince _ _ _ hdated.1 hdated.2 hfits)⟩

/-- The operation of the act keeps a mark of the current epoch. -/
def KeepsCurrent (t : Threads Dialling DialPoint) (act : Nat × DialInput) : Prop :=
  t.shared.degraded.KeepsCurrent ((t.pc act.1).operation act.2)

def Spares (endpoint : String) (t : Threads Dialling DialPoint) (act : Nat × DialInput) : Prop :=
  ((t.pc act.1).operation act.2).Spares endpoint

instance (endpoint : String) (t : Threads Dialling DialPoint) (act : Nat × DialInput) :
    Decidable (Spares endpoint t act) :=
  inferInstanceAs (Decidable (_ ∧ _))

/-- A penalty of the current epoch lasts, unless a success or a reload clears it. -/
def PenaltyLasts (t : Threads Dialling DialPoint) (act : Nat × DialInput)
    (later : List (Nat × DialInput)) : Prop :=
  ∀ endpoint, (t.pc act.1).operation act.2 = .mark endpoint t.shared.degraded.epoch →
    Threads.Along Dialling.step (Spares endpoint) (t.step Dialling.step act) later →
    let d := ((t.step Dialling.step act).run Dialling.step later).shared.degraded
    d.now < t.shared.degraded.now + degradedCooldown →
      (d.isEndpointDegraded endpoint d.epoch).2 = true

section

variable {t : Threads Dialling DialPoint}

theorem penalized_mark
    (hmark : (t.pc task).operation input = .mark endpoint t.shared.degraded.epoch) :
    (t.step Dialling.step (task, input)).shared.degraded.Penalized endpoint
        (t.shared.degraded.now + degradedCooldown) ∧
      (t.step Dialling.step (task, input)).shared.degraded.now = t.shared.degraded.now := by
  rw [Threads.step_shared, (step_progress t.shared task (t.pc task) input).degraded, hmark]
  exact ⟨fun _ => ⟨_, AList.lookup_insert _, Nat.le_refl _, rfl⟩, rfl⟩

theorem penalized_step (h : t.shared.degraded.Penalized endpoint deadline ∧
      deadline ≤ t.shared.degraded.now + degradedCooldown)
    (hkeeps : KeepsCurrent t act) (hspares : Spares endpoint t act) :
    (t.step Dialling.step act).shared.degraded.Penalized endpoint deadline ∧
      deadline ≤ (t.step Dialling.step act).shared.degraded.now + degradedCooldown := by
  obtain ⟨task, input⟩ := act
  rw [Threads.step_shared, (step_progress t.shared task (t.pc task) input).degraded]
  refine ⟨h.1.apply h.2 hkeeps hspares, Nat.le_trans h.2 ?_⟩
  exact Nat.add_le_add_right (DegradedEndpoints.now_le_apply _ _) _

theorem penalized_run (h : t.shared.degraded.Penalized endpoint deadline ∧
      deadline ≤ t.shared.degraded.now + degradedCooldown)
    (hkeeps : Threads.Along Dialling.step KeepsCurrent t later)
    (hspares : Threads.Along Dialling.step (Spares endpoint) t later) :
    (t.run Dialling.step later).shared.degraded.Penalized endpoint deadline := by
  induction later generalizing t with
  | nil => exact h.1
  | cons act rest ih => exact ih (penalized_step h hkeeps.1 hspares.1) hkeeps.2 hspares.2

theorem penaltyLasts
    (hkeeps : Threads.Along Dialling.step KeepsCurrent (t.step Dialling.step act) later) :
    PenaltyLasts t act later := by
  intro endpoint hmark hspares d hnow
  obtain ⟨hstarted, hclock⟩ := penalized_mark hmark
  have hlasts := penalized_run ⟨hstarted, by rw [hclock]⟩ hkeeps hspares
  obtain ⟨entry, hentry, hdeadline, hepoch⟩ := hlasts hnow
  exact DegradedEndpoints.isEndpointDegraded_iff.mpr
    ⟨entry, hentry, Nat.lt_of_lt_of_le hnow hdeadline, hepoch⟩

end

/-- If connects read an epoch that fits their configuration, no penalty of an older configuration
holds for a newer one; if no mark replaces one of the current epoch, a penalty of it lasts. -/
theorem penalties_respect_reloads (config : EndpointConfig) (acts : List (Nat × DialInput)) :
    (Threads.Along Dialling.step (InEpoch (· ≤ ·)) (dialStart config) acts →
      RespectsReloads EndpointSnapshot.cleared (dialRun config acts)) ∧
    (Threads.Along Dialling.step (InEpoch (· = ·)) (dialStart config) acts →
      RespectsReloads EndpointSnapshot.published (dialRun config acts)) ∧
    (∀ act later,
      Threads.Along Dialling.step KeepsCurrent (dialStart config) (acts ++ act :: later) →
      PenaltyLasts (dialRun config acts) act later) := by
  refine ⟨fun hcond => ?_, fun hcond => ?_, fun act later hcond => ?_⟩
  · have hdated := Threads.run_invariant_along (P := Dated (· ≤ ·))
      (fun _ _ hcond h => h.step hcond) (.start _ config) hcond
    exact hdated.respectsReloads fun _ _ _ _ hcleared hfits => Nat.le_trans hcleared hfits
  · have hdated := Threads.run_invariant_along (P := Dated (· = ·))
      (fun _ _ hcond h => h.step hcond) (.start _ config) hcond
    exact hdated.respectsReloads fun _ _ _ hpublished _ hfits =>
      Nat.le_of_eq (hpublished.symm.trans hfits)
  · exact penaltyLasts (Threads.along_append.mp hcond).2.2

def oneServer : EndpointConfig := ⟨"quic://uk.example:443", []⟩

def proceed (task : Nat) : Nat × DialInput := (task, .go (.ok ()))

def dialTimeout (task : Nat) : Nat × DialInput := (task, .go (.error (.handshakePhase .timeout)))

def reloadSame : List (Nat × DialInput) := (1, .reload oneServer) :: List.replicate 6 (proceed 1)

def dialAfterReload : List (Nat × DialInput) :=
  reloadSame ++ [(0, .connect)] ++ List.replicate 4 (proceed 0)

instance (point : DialPoint) (input : DialInput) (R : Nat → Nat → Prop) [DecidableRel R] :
    Decidable (point.Captures R cleared input) := by
  unfold DialPoint.Captures
  split <;> infer_instance

instance (R : Nat → Nat → Prop) [DecidableRel R] (t : Threads Dialling DialPoint)
    (act : Nat × DialInput) : Decidable (InEpoch R t act) :=
  inferInstanceAs (Decidable (_ ∧ _))

instance (t : Threads Dialling DialPoint) (act : Nat × DialInput) :
    Decidable (KeepsCurrent t act) := by
  unfold KeepsCurrent DegradedEndpoints.KeepsCurrent
  split <;> infer_instance

/-- Task 0 read the reloaded configuration and times out, and task 2 then judges its endpoint. -/
theorem penalty_after_reload :
    let later := [(2, .connect), proceed 2, proceed 2]
    RespectsReloads EndpointSnapshot.cleared
        (dialRun oneServer (dialAfterReload ++ dialTimeout 0 :: later)) ∧
      RespectsReloads EndpointSnapshot.published
        (dialRun oneServer (dialAfterReload ++ dialTimeout 0 :: later)) ∧
      PenaltyLasts (dialRun oneServer dialAfterReload) (dialTimeout 0) later :=
  ⟨(penalties_respect_reloads oneServer _).1 (by decide +kernel),
    (penalties_respect_reloads oneServer _).2.1 (by decide +kernel),
    (penalties_respect_reloads oneServer _).2.2 _ _ (by decide +kernel)⟩

/-- Task 0 waits for the CA while task 1 reloads: its mark counts in the new epoch. -/
def markedAfterReload : List (Nat × DialInput) :=
  [(0, .connect)] ++ reloadSame ++ List.replicate 4 (proceed 0) ++
    [dialTimeout 0, (2, .connect)] ++ List.replicate 2 (proceed 2)

/-- Tasks 0 and 2 dial in the old epoch and the new one; task 2 marks the endpoint. -/
def markedInBothEpochs : List (Nat × DialInput) :=
  [(0, .connect)] ++ List.replicate 4 (proceed 0) ++ reloadSame ++ [(2, .connect)] ++
    List.replicate 4 (proceed 2)

/-- A mark of the old configuration holds for the new one, or undoes a penalty of it. -/
theorem penalty_crosses_reload :
    ¬RespectsReloads EndpointSnapshot.cleared (dialRun oneServer markedAfterReload) ∧
      ¬PenaltyLasts (dialRun oneServer markedInBothEpochs) (dialTimeout 2) [dialTimeout 0] := by
  constructor
  · intro h
    have hpoint : (dialRun oneServer markedAfterReload).pc 2 =
        .judging ⟨⟨oneServer, 1, 1⟩, 1⟩ [oneServer.serverAddr] [] [] := by decide +kernel
    obtain ⟨mark, hmark, -, hreload⟩ := h 2 _ _ _ _ _ hpoint (by decide +kernel) 1 (Nat.le_refl 1)
    have hmarks : (dialRun oneServer markedAfterReload).shared.marks =
        [⟨oneServer.serverAddr, 0⟩] := by decide +kernel
    rw [hmarks, List.mem_singleton] at hmark
    subst hmark
    exact absurd hreload (by decide)
  · intro h
    have hlasts := h oneServer.serverAddr (by decide +kernel) ⟨by decide +kernel, trivial⟩
      (by decide +kernel)
    exact absurd hlasts (by decide +kernel)

end UncrownedKing.Client
