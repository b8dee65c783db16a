import UncrownedKing.Relay.HalfCloseRunLaws
import UncrownedKing.Relay.UdpIdle

/-!
# Idle UDP flows

A flow is closed by the time of its last activity as the session loop has it.
-/

namespace UncrownedKing.Relay

open Lib Net Proto Auth Server

variable {task : Task}

def Touches (now : Instant) (touched : Nat → Prop) (s s' : Session) : Prop :=
  ∀ ⦃flowId flow⦄, s'.targetWriters.lookup flowId = some (.udp flow) →
    s.targetWriters.lookup flowId = some (.udp flow) ∨ touched flowId ∧ flow.lastActivity = now

namespace Touches

variable {now : Instant} {touched : Nat → Prop} {s s' : Session}

theorem same (h : s'.targetWriters = s.targetWriters) : Touches now touched s s' :=
  fun _ _ hslot => .inl (h ▸ hslot)

theorem setTcp (h : Touches now touched s s') (flowId : Nat) (flow : TargetFlow)
    (link : TargetLink) : Touches now touched s (s'.setTcp flowId flow link) := by
  intro other found hslot
  rcases lookup_insert_iff.mp hslot with ⟨-, hfound⟩ | ⟨-, hslot⟩
  · cases hfound
  · exact h hslot

theorem startTimer (s : Session) (flowId : Nat) (flow : TargetFlow) (closedSide : HalfCloseSide)
    (link : TargetLink) :
    Touches now touched s (s.startHalfCloseTimer flowId flow closedSide link) := by
  intro other found hslot
  rcases lookup_insert_iff.mp hslot with ⟨-, hfound⟩ | ⟨-, hslot⟩
  · cases hfound
  · exact .inl hslot

theorem setUdp (s : Session) {flow : UdpTargetFlow} (htouched : touched flowId)
    (hnow : flow.lastActivity = now) : Touches now touched s (s.setUdp flowId flow) := by
  intro other found hslot
  rcases lookup_insert_iff.mp hslot with ⟨rfl, hfound⟩ | ⟨-, hslot⟩
  · cases hfound
    exact .inr ⟨htouched, hnow⟩
  · exact .inl hslot

theorem remove (h : Touches now touched s s') (flowId : Nat) :
    Touches now touched s (s'.removeFlowSlot flowId) := by
  intro other found hslot
  rw [removeFlowSlot_targetWriters] at hslot
  exact h (lookup_erase_iff.mp hslot).2

theorem openSlot (s : Session) (udp : Bool) (flowId : Nat) (target : Target) (permit : Nat) :
    Touches now touched s (s.openSlot udp flowId target permit) := by
  intro other found hslot
  rcases openSlot_lookup.mp hslot with ⟨-, hopening⟩ | ⟨-, hslot⟩
  · cases udp <;> cases hopening
  · exact .inl hslot

theorem change (h : Change ended active flowId s s')
    (hactive : ∀ t, active t → touched flowId ∧ t = now) : Touches now touched s s' := by
  cases h with
  | clears h =>
    cases h with
    | same => exact .same rfl
    | removed | aborted hslot => exact .remove (.same rfl) _
    | touched hnow hslot => exact .setUdp s (hactive _ hnow).1 (hactive _ hnow).2
    | setRemoved hslot h => exact .remove (.setTcp (.same rfl) _ _ _) _
  | set hslot h => exact .setTcp (.same rfl) _ _ _
  | timed hslot h closedSide => exact .startTimer s _ _ _ _

theorem handleSessionFrame (context : RelayContext) (env : HandlerEnv) (frame : Frame)
    (s : Session) (hnow : env.now = now) (htouched : touched frame.header.id) :
    Touches now touched s (handleSessionFrame context env frame s).1 := by
  rcases handleSessionFrame_changes context env frame s with
    ⟨udp, target, permit, -, hopened⟩ | ⟨-, hsettled⟩ | hchange
  · rw [hopened]
    exact .openSlot s _ _ _ _
  · rw [hsettled]
    exact .same rfl
  · exact .change hchange fun t ht => ⟨htouched, ht.symm.trans hnow⟩

theorem handleFlowEvent (context : RelayContext) (env : HandlerEnv) (event : FlowEvent)
    (s : Session) :
    Touches env.now
      (fun flowId => event = .udpActivity flowId ∨
        ∃ payload, event = .inboundDatagram flowId payload)
      s (handleFlowEvent context env event s).1 := by
  rcases handleFlowEvent_cases context env event s with
    ⟨udp, flowId, target, socket, cancel, -, -, haccepted⟩ | ⟨hchange, -⟩
  · rw [haccepted]
    exact .same rfl
  · refine .change hchange fun t ⟨hactivity, hnow⟩ => ⟨?_, hnow.symm⟩
    cases event with
    | udpActivity flowId => exact .inl rfl
    | inboundDatagram flowId payload => exact .inr ⟨payload, rfl⟩
    | _ => cases hactivity

theorem closeTargetFlows (context : RelayContext) (s : Session) :
    Touches now touched s (closeTargetFlows context s) := by
  intro flowId flow hslot
  simp [Relay.closeTargetFlows] at hslot

theorem establish (s : Session) (flow : Established) (htouched : touched flow.flowId) :
    Touches now touched s (s.establish flow now) := by
  intro flowId found hslot
  rcases establish_lookup.mp hslot with ⟨rfl, hfound⟩ | ⟨-, hslot⟩
  · unfold Established.slot at hfound
    split at hfound
    · cases hfound
      exact .inr ⟨htouched, rfl⟩
    · cases hfound
  · exact .inl hslot

end Touches

section

variable {context : RelayContext} {r r' : RelaySession} {now : Instant} {touched : Nat → Prop}

theorem Touches.handled {handled : Handled} (h : Touches now touched r.session handled.1)
    (events : List Queued) :
    Touches now touched r.session ({ r with events := events }.handle handled).session := by
  intro flowId flow hslot
  rw [RelaySession.handle, (resume_alike _ _).table] at hslot
  exact h hslot

theorem Touches.resume (r' : RelaySession) (script : Script) (h : r'.session = r.session) :
    Touches now touched r.session (r'.resume script).session := by
  refine .same ?_
  rw [(resume_alike r' script).table, h]

theorem LoopMoves.touches (h : LoopMoves r instr rest choice r' evs)
    (hgo : ∀ t, choice = .go t → t = now) :
    Touches now (fun _ => True) r.session r'.session := by
  cases h with
  | stay | took | stopped => exact .same rfl
  | passed => exact .resume r rest rfl
  | wrote outcome _ _ hnext =>
    obtain rfl | rfl := hnext
    · exact .resume _ rest rfl
    · exact .same rfl
  | removed => exact .handled (.remove (.same rfl) _) r.events
  | established _ hchoice =>
    cases hgo _ hchoice
    exact .handled (.establish r.session _ trivial) r.events

def RelayAction.Reads (now : Instant) : RelayAction → Prop
  | .frame _ env | .event env => env.now = now
  | .udpIdleMaintenance _ t | .loop (.go t) => t = now
  | _ => True

theorem timed_reads (now : Instant) (sent : Bool) (action : RelayAction) :
    (action.timed now sent).Reads now := by
  unfold RelayAction.timed
  split <;> simp only [RelayAction.Reads]

theorem readyStep_touches (r : RelaySession) (context : RelayContext) {action : RelayAction}
    (hreads : action.Reads now) :
    Touches now (fun _ => True) r.session (r.readyStep context action).1.session := by
  have hstay : Touches now (fun _ => True) r.session r.session := .same rfl
  cases action with
  | frame received env =>
    exact .handled (.handleSessionFrame context env received r.session hreads trivial) r.events
  | event env =>
    simp only [RelaySession.readyStep]
    split
    · exact hstay
    · rename_i queued events hevents
      refine .handled (fun flowId flow hslot => ?_) events
      have htouches := Touches.handleFlowEvent context env queued.event r.session hslot
      rw [show env.now = now from hreads] at htouches
      exact htouches.imp id fun h => ⟨trivial, h.2⟩
  | udpIdleMaintenance order t | frameReadError error => exact .handled hstay r.events
  | shutdown =>
    refine .handled (.same ?_) r.events
    dsimp only
    split <;> rfl
  | leave => exact .same rfl
  | loop choice | closeFlows | task n choice recorded | abortTask n => exact hstay
  | datagram flowId payload => exact hstay

theorem step_touches (hsound : Sound r) (context : RelayContext) {action : RelayAction}
    (hreads : action.Reads now) :
    Touches now (fun _ => True) r.session (r.step context action).1.session := by
  unfold RelaySession.step
  split
  · split
    · exact .same rfl
    · rename_i task htask
      have hstaged := hsound.tagged.staged htask
      exact .same (TaskLocal.taskSteps hstaged (taskStep_moves context r _ task _ _)).table
  · split <;> exact .same rfl
  · split
    · exact readyStep_touches r context hreads
    · refine (loopStep_moves r _ _ _).touches ?_
      rintro t rfl
      exact hreads
    · exact .closeTargetFlows context r.session
    · split <;> exact .same rfl
    · exact .same rfl

theorem failTask_events (r : RelaySession) (n : Nat) (task : Task) :
    (r.failTask n task).events = r.events := by
  unfold RelaySession.failTask
  split <;> rfl

theorem readOn_events (r : RelaySession) (n : Nat) (task : Task) (recorded : Bool) :
    (r.readOn n task recorded).events =
      r.events ++ if recorded then [⟨some task.origin, task.activityEvent⟩] else [] := by
  cases recorded
  · exact (List.append_nil _).symm
  · rfl

theorem TaskMoves.events (h : TaskMoves r n task r') : r.events <+: r'.events := by
  cases h with
  | next => exact List.prefix_rfl
  | read =>
    rw [readOn_events]
    exact List.prefix_append _ _
  | failed => rw [failTask_events]
  | relayed _ _ _ hnext =>
    obtain ⟨-, rfl⟩ | rfl := hnext
    · exact List.prefix_rfl
    · exact List.prefix_rfl
  | told => exact List.prefix_append _ _

theorem TaskSteps.events (h : TaskSteps r n task choice r' evs) : r.events <+: r'.events := by
  cases h with
  | stay | took | dialed => exact List.prefix_rfl
  | wrote outcome _ _ hnext | moved _ hnext => exact hnext.events

theorem LoopMoves.events (h : LoopMoves r instr rest choice r' evs) : r'.events = r.events := by
  cases h with
  | stay | took | stopped => rfl
  | passed => exact resume_events _ _
  | wrote outcome _ _ hnext =>
    obtain rfl | rfl := hnext
    · exact resume_events _ _
    · rfl
  | removed | established => exact handle_events _ _

theorem readyStep_events (r : RelaySession) (context : RelayContext) (action : RelayAction) :
    r.events <+: (r.readyStep context action).1.events ∨ (∃ env, action = .event env) ∧
      ∃ queued, r.events = queued :: (r.readyStep context action).1.events := by
  have hhandle (handled : Handled) : r.events <+: (r.handle handled).events := by
    rw [handle_events]
  cases action with
  | event env =>
    simp only [RelaySession.readyStep]
    split
    · exact .inl List.prefix_rfl
    · rename_i queued events hevents
      refine .inr ⟨⟨env, rfl⟩, queued, ?_⟩
      rw [handle_events, hevents]
  | frame received env | udpIdleMaintenance order t | frameReadError error => exact .inl (hhandle _)
  | shutdown => exact .inl (hhandle _)
  | _ => exact .inl List.prefix_rfl

theorem step_events (r : RelaySession) (context : RelayContext) (action : RelayAction) :
    r.events <+: (r.step context action).1.events ∨ r.loop = .ready ∧ (∃ env, action = .event env) ∧
      ∃ queued, r.events = queued :: (r.step context action).1.events := by
  unfold RelaySession.step
  split
  · split
    · exact .inl List.prefix_rfl
    · exact .inl (taskStep_moves context r _ _ _ _).events
  · split
    · exact .inl (List.prefix_append _ _)
    · exact .inl List.prefix_rfl
  · split
    · rename_i hready _ _
      exact (readyStep_events r context _).imp id fun h => ⟨hready, h⟩
    · rw [(loopStep_moves r _ _ _).events]
      exact .inl List.prefix_rfl
    · exact .inl List.prefix_rfl
    · split <;> exact .inl List.prefix_rfl
    · exact .inl List.prefix_rfl

end

/-- A flow is closed only after the whole timeout, and only its own traffic refreshes it. -/
def IdleEvent.Exact (context : RelayContext) : IdleEvent → Prop
  | .closed relayed now => ∀ idleTimeout ∈ context.limits.udpFlowIdleTimeout, ∀ t ∈ relayed,
    idleTimeout ≤ now - t
  | .refreshed flow cause => ∀ origin ∈ cause, origin = flow

instance (context : RelayContext) : DecidablePred (IdleEvent.Exact context)
  | .closed relayed now => inferInstanceAs (Decidable
      (∀ idleTimeout ∈ context.limits.udpFlowIdleTimeout, ∀ t ∈ relayed, idleTimeout ≤ now - t))
  | .refreshed flow cause => inferInstanceAs (Decidable (∀ origin ∈ cause, origin = flow))

section

variable {context : RelayContext} {c : ClockedSession}

end

def FlowEvent.isUdpActivity : FlowEvent → Bool
  | .udpActivity _ => true
  | _ => false

/-- Every record finds room, is heard before the loop looks for idle flows and while its flow has
its id. -/
def ClockedSession.prompt (c : ClockedSession) (action : RelayAction) (sent : Bool) : Bool :=
  match c.relay.loop, action with
  | .ready, .udpIdleMaintenance _ _ => c.relay.events.all fun queued => !queued.event.isUdpActivity
  | .ready, .event _ =>
    match c.relay.events with
    | ⟨some origin, .udpActivity flowId⟩ :: _ =>
      (c.relay.session.udpOrigin flowId).all fun found => found == origin
    | _ => true
  | _, .task _ _ recorded => (c.relay.relays sent action).isNone || recorded
  | _, _ => true

structure Recorded (c : ClockedSession) : Prop where
  sound : Sound c.relay
  past : ∀ origin, ∀ t ∈ c.relayed origin, t ≤ c.now
  flow : ∀ ⦃flowId flow⦄, c.relay.session.targetWriters.lookup flowId = some (.udp flow) →
    ∀ t ∈ c.relayed flow.origin, t ≤ flow.lastActivity ∨
      ⟨some flow.origin, .udpActivity flowId⟩ ∈ c.relay.events

section

variable {context : RelayContext} {r : RelaySession} {c : ClockedSession} {now : Instant}
  {action : RelayAction} {sent : Bool}

theorem Recorded.start : Recorded .start where
  sound := .start
  past := nofun
  flow := nofun

theorem Recorded.wait (h : Recorded c) (d : Duration) : Recorded (c.wait d) where
  sound := h.sound
  past := fun origin t ht => Nat.le_trans (h.past origin t ht) (Nat.le_add_right _ _)
  flow := h.flow

theorem recordUdpActivity_now {s : Session}
    (h : (recordUdpActivity now flowId s).targetWriters.lookup flowId = some (.udp flow)) :
    flow.lastActivity = now := by
  unfold recordUdpActivity at h
  split at h
  · rename_i hnone
    rw [udpTargetFlow_eq_some.mpr h] at hnone
    cases hnone
  · rcases lookup_insert_iff.mp h with ⟨-, hflow⟩ | ⟨hne, -⟩
    · cases hflow
      rfl
    · exact absurd rfl hne

theorem taskRelays_records (hrelays : r.taskRelays n task choice sent = true)
    (context : RelayContext) :
    ⟨some task.origin, .udpActivity task.flowId⟩ ∈
      (r.taskStep context n task choice true).1.events := by
  obtain ⟨hreader, hmatch⟩ := Bool.and_eq_true_iff.mp hrelays
  have hactivity : task.activityEvent = .udpActivity task.flowId := by
    simp [Task.activityEvent, hreader]
  split at hmatch
  · rename_i frame hstage
    obtain ⟨hdata, hcarrier⟩ := Bool.and_eq_true_iff.mp hmatch
    have hcarrier : r.carrier = some (.task n) := by simpa using hcarrier
    simp only [RelaySession.taskStep, hstage, hcarrier, hdata]
    simp [hactivity, readOn_events]
  · rename_i hstage
    obtain ⟨-, hmuted⟩ := Bool.and_eq_true_iff.mp hmatch
    have hmuted : r.muted task.token = false := by simpa using hmuted
    simp only [RelaySession.taskStep, hstage, hmuted]
    simp [hreader, hactivity, readOn_events]
  · cases hmatch

theorem taskRelays_sent (hrelays : r.taskRelays n task .datagram sent = true) : sent = true := by
  obtain ⟨-, hmatch⟩ := Bool.and_eq_true_iff.mp hrelays
  split at hmatch
  · rename_i hchoice
    cases hchoice
  · exact (Bool.and_eq_true_iff.mp hmatch).1
  · cases hmatch

theorem heard_now {queued : Queued} (hready : r.loop = .ready) (hevents : r.events = queued :: rest)
    (hactive : queued.event = .udpActivity flowId ∨
      ∃ payload, queued.event = .inboundDatagram flowId payload) (env : HandlerEnv)
    (hslot : (r.step context (.event env)).1.session.targetWriters.lookup flowId =
      some (.udp flow)) : flow.lastActivity = env.now := by
  simp only [RelaySession.step, hready, RelaySession.readyStep, hevents] at hslot
  rw [(handle_alike _ _).table] at hslot
  rcases hactive with hactive | ⟨payload, hactive⟩
  · rw [hactive] at hslot
    exact recordUdpActivity_now hslot
  · rw [hactive] at hslot
    exact recordUdpActivity_now hslot

theorem forwarded_now {frame : Frame} (hready : r.loop = .ready)
    (hclient : isClientInitiatedFlowId frame.header.id = true)
    (htype : frame.header.frameType = .udpData)
    (hold : r.session.targetWriters.lookup frame.header.id = some (.udp flow')) (env : HandlerEnv)
    (hslot : (r.step context (.frame frame env)).1.session.targetWriters.lookup frame.header.id =
      some (.udp flow)) : flow.lastActivity = env.now := by
  have hvalid : validateClientRelayFlowId frame.header.id = .ok () := by
    simp [validateClientRelayFlowId, hclient, client_ne_zero hclient]
  simp only [RelaySession.step, hready, RelaySession.readyStep] at hslot
  rw [(handle_alike _ _).table] at hslot
  simp only [handleSessionFrame, htype, handleUdpDataFrame, hvalid, hold, forwardUdpDataFrame,
    udpTargetFlow_eq_some.mpr hold] at hslot
  rcases lookup_insert_iff.mp hslot with ⟨-, hflow⟩ | ⟨hne, -⟩
  · cases hflow
    rfl
  · exact absurd rfl hne

theorem udpOrigin_eq_some {s : Session} :
    s.udpOrigin flowId = some origin ↔
      ∃ flow, s.targetWriters.lookup flowId = some (.udp flow) ∧ flow.origin = origin := by
  simp [Session.udpOrigin, Option.map_eq_some_iff, udpTargetFlow_eq_some]

theorem relays_recorded (hsound : Sound c.relay)
    (hrelays : c.relay.relays sent action = some flow.origin)
    (hprompt : c.prompt action sent = true)
    (hslot : (c.relay.step context (action.timed c.now sent)).1.session.targetWriters.lookup
      flowId = some (.udp flow)) :
    flow.lastActivity = c.now ∨ ⟨some flow.origin, .udpActivity flowId⟩ ∈
      (c.relay.step context (action.timed c.now sent)).1.events := by
  rcases step_touches hsound context (timed_reads c.now sent action) hslot with hold | ⟨-, hnow⟩
  swap
  · exact .inl hnow
  -- the slot is an old one, and the datagram was for it
  have hsame {other : Nat} (hother : c.relay.session.udpOrigin other = some flow.origin) :
      flowId = other := by
    obtain ⟨flow', hslot', horigin⟩ := udpOrigin_eq_some.mp hother
    exact (hsound.tagged.slot_unique hold hslot' horigin.symm).1
  have hsome := hrelays
  unfold RelaySession.relays at hrelays
  split at hrelays
  · rename_i frame env hready
    split at hrelays
    · rename_i htype
      cases hsame hrelays
      exact .inl (forwarded_now hready (hsound.tagged.client hold) htype hold _ hslot)
    · cases hrelays
  · rename_i env hready
    split at hrelays
    · rename_i other payload rest hevents
      cases hsame hrelays
      cases hqueued : c.relay.events with
      | nil => simp [hqueued] at hevents
      | cons queued events =>
        rw [hqueued, List.map_cons] at hevents
        obtain ⟨hevent, -⟩ := List.cons.inj hevents
        exact .inl (heard_now hready hqueued (.inr ⟨payload, hevent⟩) _ hslot)
    · cases hrelays
  · rename_i n choice recorded
    obtain ⟨task, htask, hrelays⟩ := Option.bind_eq_some_iff.mp hrelays
    split at hrelays
    · rename_i htaskRelays
      have horigin : task.origin = flow.origin := Option.some.inj hrelays
      have hrecorded : recorded = true := by
        unfold ClockedSession.prompt at hprompt
        split at hprompt
        · cases ‹RelayAction.task n choice recorded = _›
        · cases ‹RelayAction.task n choice recorded = _›
        · cases ‹RelayAction.task n choice recorded = _›
          simpa [hsome] using hprompt
        · rename_i hother _ _
          exact (hother n choice recorded rfl).elim
      have htimed : (RelayAction.task n choice recorded).timed c.now sent = .task n choice true := by
        subst hrecorded
        cases choice with
        | datagram => simp [RelayAction.timed, taskRelays_sent htaskRelays]
        | _ => rfl
      have hid : task.flowId = flowId := by
        have howns := hsound.tagged.taskOwns htask
        rw [horigin] at howns
        exact howns.flowId_eq (hsound.tagged.slotOwns hold)
      rw [htimed]
      simp only [RelaySession.step, htask]
      have hrecord := taskRelays_records htaskRelays context
      rw [horigin, hid] at hrecord
      exact .inr hrecord
    · cases hrelays
  · cases hrelays

theorem record_kept (hqueued : ⟨cause, .udpActivity flowId⟩ ∈ c.relay.events)
    (hslot : (c.relay.step context (action.timed c.now sent)).1.session.targetWriters.lookup
      flowId = some (.udp flow)) :
    flow.lastActivity = c.now ∨ ⟨cause, .udpActivity flowId⟩ ∈
      (c.relay.step context (action.timed c.now sent)).1.events := by
  rcases step_events c.relay context (action.timed c.now sent) with
    hmore | ⟨hready, ⟨env, htimed⟩, queued, hevents⟩
  · exact .inr (hmore.subset hqueued)
  · rw [hevents] at hqueued
    rcases List.mem_cons.mp hqueued with rfl | hqueued
    · have hreads := timed_reads c.now sent action
      rw [htimed] at hreads hslot
      have hnow := heard_now hready hevents (.inl rfl) env hslot
      exact .inl (hnow.trans hreads)
    · exact .inr hqueued

theorem Recorded.act (h : Recorded c) (hprompt : c.prompt action sent = true) :
    Recorded (c.act context action sent).1 := by
  have hsound := ((step_moves context c.relay (action.timed c.now sent)).sound h.sound).1
  have hrelayed {origin : FlowToken} {t : Instant}
      (ht : t ∈ (c.act context action sent).1.relayed origin) :
      t ∈ c.relayed origin ∨ c.relay.relays sent action = some origin ∧ t = c.now := by
    simp only [ClockedSession.act] at ht
    split at ht
    · rename_i other hother
      by_cases hsame : origin = other
      · subst hsame
        rw [Function.update_self] at ht
        exact .inr ⟨hother, (Option.some.inj ht).symm⟩
      · rw [Function.update_of_ne hsame] at ht
        exact .inl ht
    · exact .inl ht
  refine ⟨hsound, ?_, ?_⟩
  · intro origin t ht
    rcases hrelayed ht with hold | ⟨-, rfl⟩
    · exact h.past origin t hold
    · exact Nat.le_refl _
  · intro flowId flow hslot t ht
    rcases hrelayed ht with hold | ⟨hrelays, rfl⟩
    · rcases step_touches h.sound context (timed_reads c.now sent action) hslot with
        hslot' | ⟨-, hnow⟩
      · rcases h.flow hslot' t hold with hle | hqueued
        · exact .inl hle
        · rcases record_kept hqueued hslot with hnow | hqueued
          · exact .inl (hnow ▸ h.past _ t hold)
          · exact .inr hqueued
      · exact .inl (hnow ▸ h.past _ t hold)
    · rcases relays_recorded h.sound hrelays hprompt hslot with hnow | hqueued
      · exact .inl (Nat.le_of_eq hnow.symm)
      · exact .inr hqueued

end

end UncrownedKing.Relay
