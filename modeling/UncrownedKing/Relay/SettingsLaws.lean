import UncrownedKing.Relay.HandlerLaws

/-!
# Laws of the client's settings

That settings come before every open the code takes from the flow table, which
is empty again once every flow has gone.
-/

namespace UncrownedKing.Relay

open Lib Net Proto Auth Server

variable {context : RelayContext} {r r' : RelaySession}

namespace RelaySession

def received (r : RelaySession) : Bool := r.session.clientSettingsReceived

section

variable (r : RelaySession)

@[simp] theorem received_resume (script : Script) : (r.resume script).received = r.received := by
  unfold resume
  split
  · split <;> rfl
  · rfl

@[simp] theorem received_handle (handled : Handled) :
    (r.handle handled).received = handled.1.clientSettingsReceived :=
  received_resume _ _

@[simp] theorem received_failTask (n : Nat) (task : Task) :
    (r.failTask n task).received = r.received := by
  unfold failTask
  split <;> rfl

@[simp] theorem received_readOn (n : Nat) (task : Task) (recorded : Bool) :
    (r.readOn n task recorded).received = r.received := by
  cases recorded <;> rfl

end

theorem loopMoves_received (h : LoopMoves r instr rest choice r' evs) :
    r'.received = r.received := by
  cases h with
  | stay | took | stopped => rfl
  | passed => exact received_resume _ _
  | wrote outcome _ _ hnext =>
    obtain rfl | rfl := hnext
    · exact received_resume _ _
    · rfl
  | removed => exact (received_handle _ _).trans (Session.removeFlowSlot_received _ _)
  | established => exact received_handle _ _

theorem taskMoves_received {task : Task} (h : TaskMoves r n task r') : r'.received = r.received := by
  cases h with
  | next | told => rfl
  | read => exact received_readOn _ _ _ _
  | failed => exact received_failTask _ _ _
  | relayed _ _ _ hnext =>
    obtain ⟨-, rfl⟩ | rfl := hnext
    · rfl
    · rfl

theorem taskSteps_received {task : Task} (h : TaskSteps r n task choice r' evs) :
    r'.received = r.received := by
  cases h with
  | stay | took | dialed => rfl
  | wrote outcome _ _ hnext => exact (taskMoves_received hnext).trans rfl
  | moved _ hnext => exact taskMoves_received hnext

theorem accepts_eq_some :
    r.accepts context action = some agreed ↔
      ∃ frame env, r.loop = .ready ∧ action = .frame frame env ∧
        Acceptable frame r.session agreed := by
  unfold accepts
  split
  · rename_i frame env hready
    rw [acceptedSettings_eq_some]
    refine ⟨fun h => ⟨frame, env, hready, rfl, h⟩, ?_⟩
    rintro ⟨frame', env', -, heq, h⟩
    cases heq
    exact h
  · rename_i hother
    refine ⟨nofun, ?_⟩
    rintro ⟨frame, env, hready, rfl, -⟩
    exact (hother frame env hready rfl).elim

theorem accepts_eq_none (h : r.loop ≠ .ready ∨ ∀ frame env, action ≠ .frame frame env) :
    r.accepts context action = none := by
  rw [Option.eq_none_iff_forall_ne_some]
  intro agreed haccepts
  obtain ⟨frame, env, hready, rfl, -⟩ := accepts_eq_some.mp haccepts
  exact h.elim (· hready) (· frame env rfl)

theorem readyStep_received (context : RelayContext) (r : RelaySession) (hready : r.loop = .ready)
    (action : RelayAction) :
    (r.readyStep context action).1.received =
      (r.received || (r.accepts context action).isSome) := by
  cases action with
  | frame frame env =>
    simp only [readyStep, accepts, hready, received_handle]
    exact handleSessionFrame_received context env frame r.session
  | event env =>
    simp only [readyStep, accepts, hready, Option.isSome_none, Bool.or_false]
    split
    · rfl
    · exact (received_handle _ _).trans
        (handleFlowEvent_received context env r.session _)
  | udpIdleMaintenance order now => simp [readyStep, accepts, hready, RelaySession.received.eq_1 r]
  | frameReadError error => simp [readyStep, accepts, hready, RelaySession.received.eq_1 r]
  | shutdown =>
    simp only [readyStep, accepts, hready, Option.isSome_none, Bool.or_false, received_handle]
    split <;> rfl
  | leave =>
    simp only [readyStep, accepts, hready, Option.isSome_none, Bool.or_false]
    rfl
  | _ => simp [readyStep, accepts, hready]

theorem step_received (context : RelayContext) (r : RelaySession) (action : RelayAction) :
    (r.step context action).1.received =
      (r.received || (r.accepts context action).isSome) := by
  by_cases hhandles : r.loop = .ready ∧ ∃ frame env, action = .frame frame env
  · obtain ⟨hready, frame, env, rfl⟩ := hhandles
    simp only [step, hready]
    exact readyStep_received context r hready _
  · have hnone : r.accepts context action = none := by
      refine accepts_eq_none ?_
      rw [not_and_or] at hhandles
      refine hhandles.imp id ?_
      intro h frame env heq
      exact h ⟨frame, env, heq⟩
    rw [hnone, Option.isSome_none, Bool.or_false]
    unfold step
    split
    · split
      · rfl
      · exact taskSteps_received (taskStep_moves context r _ _ _ _)
    · split <;> rfl
    · split
      · rw [readyStep_received context r ‹_›, hnone, Option.isSome_none, Bool.or_false]
      · exact loopMoves_received (loopStep_moves r _ _ _)
      · exact closeTargetFlows_received context r.session
      · split <;> rfl
      · rfl

end RelaySession

theorem Moves.tokens (h : Moves context r action r' evs) (hsound : Sound r) :
    (∃ frame, evs = [.opened frame r.session.flowTokens] ∧
        r'.session.flowTokens = r.session.flowTokens + 1) ∨
      (∀ frame token, .opened frame token ∉ evs) ∧
        (r'.session.flowTokens = r.session.flowTokens ∨
          ∃ flowId slot, r.session.targetWriters.lookup flowId = some slot) := by
  cases h with
  | handled hready hevents hended hkept hmodest hneat =>
    exact .inr ⟨by simp, .inl ((handle_alike _ _).tokens.trans hkept.tokens)⟩
  | opened hready hadmitted => exact .inl ⟨_, rfl, (handle_alike _ _).tokens⟩
  | accepted hready hevents hevent hslot => exact .inr ⟨by simp, .inr ⟨_, _, hslot⟩⟩
  | passed => exact .inr ⟨by simp, .inl (resume_alike _ _).tokens⟩
  | wrote outcome hloop hframe hcarrier hnext =>
    refine .inr ⟨by simp, .inl ?_⟩
    rcases hnext with rfl | rfl
    · exact (resume_alike _ _).tokens
    · rfl
  | removed hloop =>
    rename_i flowId rest
    have hkept := @kept_removeFlowSlot (fun _ => False) r.session flowId
    exact .inr ⟨by simp, .inl ((handle_alike _ _).tokens.trans hkept.tokens)⟩
  | established hloop now => exact .inr ⟨by simp, .inl (handle_alike _ _).tokens⟩
  | closedFlows hloop =>
    exact .inr ⟨by simp, .inl (closeTargetFlows_hushed context r.session).tokens⟩
  | taskWrote outcome htask hframe hcarrier hnext =>
    obtain ⟨hreleased, -⟩ := hsound.release outcome
    obtain ⟨stage, hmoved, -⟩ := hreleased.moved htask hnext
    exact .inr ⟨by simp, .inl hmoved.tokens⟩
  | taskMoved htask hfree hnext =>
    obtain ⟨stage, hmoved, -⟩ := hsound.moved htask hnext
    exact .inr ⟨by simp, .inl hmoved.tokens⟩
  | _ => exact .inr ⟨by simp, .inl rfl⟩

structure Noted (seen : List SessionEvent) (r : RelaySession) : Prop where
  sound : Sound r
  received : seen.any SessionEvent.isSettings = r.received
  opened : seen.any SessionEvent.isOpened = false ↔ r.session.flowTokens = 1
  positive : 1 ≤ r.session.flowTokens
  empty : r.session.flowTokens = 1 →
    ∀ flowId slot, r.session.targetWriters.lookup flowId ≠ some slot

theorem Noted.start : Noted [] .start where
  sound := .start
  received := rfl
  opened := by simp [RelaySession.start, Session.start]
  positive := Nat.le_refl 1
  empty := fun _ _ _ h => by cases h

theorem observe_settings (context : RelayContext) (r : RelaySession) (action : RelayAction) :
    (r.observe context action).2.any SessionEvent.isSettings =
      (r.accepts context action).isSome := by
  have hrelay (evs : List RelayEvent) :
      (evs.map SessionEvent.relay).any SessionEvent.isSettings = false := by
    simp [SessionEvent.isSettings]
  simp only [RelaySession.observe, List.any_append, hrelay]
  cases r.accepts context action <;> simp [SessionEvent.isSettings]

theorem observe_opened (context : RelayContext) (r : RelaySession) (action : RelayAction) :
    (r.observe context action).2.any SessionEvent.isOpened = false ↔
      ∀ frame token, .opened frame token ∉ (r.step context action).2 := by
  simp only [RelaySession.observe, List.any_append, Bool.or_eq_false_iff, List.any_eq_false]
  constructor
  · intro h frame token hopened
    exact h.2 _ (List.mem_map_of_mem hopened) rfl
  · intro h
    constructor
    · simp [SessionEvent.isOpened]
    · intro event hevent
      obtain ⟨event, hmem, rfl⟩ := List.mem_map.mp hevent
      cases event with
      | opened frame token => exact absurd hmem (h frame token)
      | dialed origin kind result | wrote byTask origin frame => nofun

theorem Noted.observe (h : Noted seen r) (context : RelayContext) (action : RelayAction) :
    Noted (seen ++ (r.observe context action).2) (r.observe context action).1 := by
  have hmoves := step_moves context r action
  obtain ⟨hsound, hlater⟩ := hmoves.sound h.sound
  have hempty : (r.step context action).1.session.flowTokens = 1 →
      ∀ flowId slot, (r.step context action).1.session.targetWriters.lookup flowId ≠ some slot := by
    intro hone flowId slot hslot
    have hfirst : r.session.flowTokens = 1 :=
      Nat.le_antisymm (hone ▸ hlater.tokens.tokens) h.positive
    rcases hlater.slots hslot with hnew | ⟨slot', hslot', -⟩
    · have hlt := (hsound.tagged.slotOwns hslot).origin_lt
      rw [hone] at hlt
      rw [hfirst] at hnew
      exact Nat.not_lt.mpr hnew hlt
    · exact h.empty hfirst flowId slot' hslot'
  refine ⟨hsound, ?_, ?_, h.positive.trans hlater.tokens.tokens, hempty⟩
  · rw [List.any_append, h.received, observe_settings]
    exact (RelaySession.step_received context r action).symm
  · rw [List.any_append, Bool.or_eq_false_iff, h.opened, observe_opened]
    rcases hmoves.tokens h.sound with ⟨frame, hevs, htokens⟩ | ⟨hnone, htokens⟩
    · refine ⟨fun hno => absurd ?_ (hno.2 frame r.session.flowTokens), fun hone => ?_⟩
      · simp [hevs]
      · have hpositive := h.positive
        have hzero : r.session.flowTokens = 0 := Nat.succ.inj (htokens.symm.trans hone)
        simp [hzero] at hpositive
    · rcases htokens with hsame | ⟨flowId, slot, hslot⟩
      · exact ⟨fun hno => hsame.trans hno.1, fun hone => ⟨hsame ▸ hone, hnone⟩⟩
      · -- a flow's slot goes back to an open
        have hmore : r.session.flowTokens ≠ 1 := fun hone => h.empty hone flowId slot hslot
        refine ⟨fun hno => absurd hno.1 hmore, fun hone => absurd ?_ hmore⟩
        exact Nat.le_antisymm (hone ▸ hlater.tokens.tokens) h.positive

/-- Settings are agreed at most once. -/
def SettingsOnce (before : List SessionEvent) : SessionEvent → Prop
  | .settings _ => before.any SessionEvent.isSettings = false
  | .relay _ => True

/-- Settings are agreed only before the first OPEN is accepted. -/
def SettingsBeforeOpens (before : List SessionEvent) : SessionEvent → Prop
  | .settings _ => before.any SessionEvent.isOpened = false
  | .relay _ => True

/-- First settings that find the table empty come before any token. -/
def SettingsTimely (r : RelaySession) : RelayAction → Prop
  | .frame frame _ =>
    r.loop = .ready → (settingsOf frame).isSome → r.session.clientSettingsReceived = false →
      r.session.targetWriters.entries = [] → r.session.flowTokens = 1
  | _ => True

theorem each_relay {P : List SessionEvent → SessionEvent → Prop}
    (hP : ∀ before event, P before (.relay event)) (evs : List RelayEvent) :
    Each P (evs.map .relay) := by
  intro before event after heq
  have hmem : event ∈ evs.map SessionEvent.relay := by simp [heq]
  obtain ⟨event, -, rfl⟩ := List.mem_map.mp hmem
  exact hP before event

theorem each_observe {P : List SessionEvent → SessionEvent → Prop}
    (hP : ∀ before event, P before (.relay event)) (context : RelayContext) (r : RelaySession)
    (action : RelayAction) :
    Each P (r.observe context action).2 ↔
      ∀ agreed, r.accepts context action = some agreed → P [] (.settings agreed) := by
  simp only [RelaySession.observe]
  cases r.accepts context action with
  | none => simpa using each_relay hP _
  | some agreed =>
    have hrest : Each (fun before => P (.settings agreed :: before))
        ((r.step context action).2.map .relay) :=
      each_relay (fun before event => hP _ event) _
    simpa [each_cons_iff] using fun _ => hrest

theorem settingsTimely_iff (context : RelayContext) :
    SettingsTimely r action ↔
      ∀ agreed, r.accepts context action = some agreed → r.session.flowTokens = 1 := by
  simp only [RelaySession.accepts_eq_some]
  constructor
  · rintro h agreed ⟨frame, env, hready, rfl, hsettings, hreceived, hempty⟩
    exact h hready (by simp [hsettings]) hreceived hempty
  · intro h
    cases action with
    | frame frame env =>
      intro hready hsettings hreceived hempty
      obtain ⟨agreed, hagreed⟩ := Option.isSome_iff_exists.mp hsettings
      exact h agreed ⟨frame, env, hready, rfl, hagreed, hreceived, hempty⟩
    | _ => trivial

/-- Settings are accepted at most once, and before every open exactly if none find the table empty
after an open. -/
theorem settings_first_iff (context : RelayContext) (actions : List RelayAction) :
    let log := (run (RelaySession.observe context) .start actions).2
    Each SettingsOnce log ∧
      (Each SettingsBeforeOpens log ↔
        Along (RelaySession.observe context) SettingsTimely .start actions) := by
  constructor
  · refine run_each Noted (fun seen r action _ h => h.observe context action) ?_ .start
      (along_true _ actions)
    intro seen r action _ h
    rw [each_observe fun _ _ => trivial]
    intro agreed haccepts
    obtain ⟨frame, env, -, -, -, hreceived, -⟩ := RelaySession.accepts_eq_some.mp haccepts
    exact (congrArg (List.any · _) (List.append_nil seen)).trans (h.received.trans hreceived)
  · refine run_each_iff Noted (fun seen r action h => h.observe context action) ?_ .start actions
    intro seen r action h
    rw [each_observe fun _ _ => trivial, settingsTimely_iff context]
    simp only [SettingsBeforeOpens, List.append_nil, h.opened]

instance (before : List SessionEvent) : ∀ event, Decidable (SettingsBeforeOpens before event)
  | .settings _ => inferInstanceAs (Decidable (_ = false))
  | .relay _ => .isTrue trivial

def sampleSettings : Frame := ⟨⟨protocolVersion, .settings, 0, 0, 3⟩, [1, 7, 2]⟩

def lateSettings : List RelayAction :=
  [.frame sampleOpen sampleEnv, .frame ⟨⟨protocolVersion, .tcpClose, 0, 1, 2⟩, [0, 0]⟩ sampleEnv,
    .frame sampleSettings sampleEnv]

theorem late_settings_accepted :
    ¬Each SettingsBeforeOpens
      (run (RelaySession.observe sampleContext) .start lateSettings).2 := by
  decide +kernel

end UncrownedKing.Relay
