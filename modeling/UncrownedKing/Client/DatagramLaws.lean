import UncrownedKing.Client.WaitLaws
import Mathlib.Algebra.Order.BigOperators.Group.List

/-!
# Datagrams and opens

The run of a session and the run without its datagrams agree as long as no
datagram is queued before its flow's open is answered or takes a control frame's
room.
-/

namespace UncrownedKing.Client

open Lib Proto

def FlowQueue.withoutDatagrams (queue : FlowQueue) : FlowQueue :=
  { queue with frames := queue.frames.filter (!·.datagram) }

namespace Session

def withoutDatagrams (s : Session) : Session :=
  { s with queues := s.queues.map (·.withoutDatagrams) }

section

variable (s : Session)

@[simp]
theorem withoutDatagrams_flows : s.withoutDatagrams.flows = s.flows := by simp [withoutDatagrams]

@[simp]
theorem withoutDatagrams_closed : s.withoutDatagrams.closed = s.closed := by
  simp [withoutDatagrams]

@[simp]
theorem withoutDatagrams_draining : s.withoutDatagrams.draining = s.draining := by
  simp [withoutDatagrams]

@[simp]
theorem withoutDatagrams_hasFlow (flowId : Nat) :
    s.withoutDatagrams.hasFlow flowId = s.hasFlow flowId := by
  simp [hasFlow]

@[simp]
theorem withoutDatagrams_queueOf (flowId : Nat) :
    s.withoutDatagrams.queueOf flowId = (s.queueOf flowId).map (·.withoutDatagrams) := by
  simp only [queueOf, withoutDatagrams, List.find?_map]
  rfl

theorem withoutDatagrams_dropQueue (flowId : Nat) :
    s.withoutDatagrams.dropQueue flowId = (s.dropQueue flowId).withoutDatagrams := by
  simp only [dropQueue, withoutDatagrams, List.filter_map]
  rfl

theorem withoutDatagrams_mapQueue (flowId : Nat) (f g : FlowQueue → FlowQueue)
    (h : ∀ queue ∈ s.queues, queue.flowId = flowId →
      g queue.withoutDatagrams = (f queue).withoutDatagrams) :
    s.withoutDatagrams.mapQueue flowId g = (s.mapQueue flowId f).withoutDatagrams := by
  simp only [mapQueue, withoutDatagrams, List.map_map, Session.mk.injEq, true_and, and_true]
  refine List.map_congr_left fun queue hmem => ?_
  dsimp only [Function.comp]
  by_cases hid : queue.flowId = flowId
  · simpa [hid, FlowQueue.withoutDatagrams] using h queue hmem hid
  · simp [hid, FlowQueue.withoutDatagrams]

theorem mapQueue_id (flowId : Nat) : s.mapQueue flowId id = s := by
  simp [mapQueue]

theorem withoutDatagrams_allocate (task : Nat) (protocol : FlowProtocol) (attempts : Nat) :
    s.withoutDatagrams.allocate task protocol attempts =
      ((s.allocate task protocol attempts).1.withoutDatagrams,
        (s.allocate task protocol attempts).2) := by
  induction attempts generalizing s with
  | zero => rfl
  | succ attempts ih =>
    have hnext := ih { s with nextFlowId := s.nextFlowId + 2 }
    rw [allocate, allocate]
    by_cases hlimit : s.nextFlowId > Varint.maxVarint
    · rw [if_pos hlimit, if_pos (show s.withoutDatagrams.nextFlowId > _ from hlimit)]
    rw [if_neg hlimit, if_neg (show ¬s.withoutDatagrams.nextFlowId > _ from hlimit)]
    dsimp only
    split
    case isTrue hfree =>
      rw [if_pos (by exact hfree)]
      rfl
    case isFalse hfree =>
      rw [if_neg (by exact hfree)]
      exact hnext

end

def hasRoom (limits : SessionLimits) (s : Session) (flowId len : Nat) : Bool :=
  s.flowBytes flowId + len ≤ limits.maxBufferedBytesPerFlow &&
    s.sessionBytes + len ≤ limits.maxBufferedBytesPerSession &&
    (s.queueOf flowId).all
      (·.frames.length < flowFrameQueueCapacity limits.maxBufferedBytesPerFlow)

theorem hasRoom_iff :
    hasRoom limits s flowId len ↔
      s.flowBytes flowId + len ≤ limits.maxBufferedBytesPerFlow ∧
      s.sessionBytes + len ≤ limits.maxBufferedBytesPerSession ∧
      ∀ queue, s.queueOf flowId = some queue →
        queue.frames.length < flowFrameQueueCapacity limits.maxBufferedBytesPerFlow := by
  simp [hasRoom, and_assoc, Option.all_eq_true]

theorem offer_of_hasRoom (h : hasRoom limits s flowId len) :
    s.offer limits flowId len =
      if (s.queueOf flowId).isSome then .enqueued else .flowClosed := by
  obtain ⟨hflow, hsession, hqueue⟩ := hasRoom_iff.mp h
  rw [offer, if_neg (Nat.not_lt.mpr hflow), if_neg (Nat.not_lt.mpr hsession)]
  cases hfound : s.queueOf flowId with
  | none => rfl
  | some queue => simp [hqueue queue hfound]

theorem offer_of_not_hasRoom (h : hasRoom limits s flowId len = false) :
    s.offer limits flowId len = .flowQueueFull ∨
      s.offer limits flowId len = .sessionQueueFull := by
  unfold offer
  split
  · exact .inl rfl
  · split
    · exact .inr rfl
    · rename_i hflow hsession
      cases hfound : s.queueOf flowId with
      | none | some queue => simp_all [hasRoom]

theorem bytes_withoutDatagrams_le (queue : FlowQueue) :
    queue.withoutDatagrams.bytes ≤ queue.bytes :=
  (List.filter_sublist.map _).sum_le_sum fun _ _ => Nat.zero_le _

theorem flowBytes_withoutDatagrams_le (s : Session) (flowId : Nat) :
    s.withoutDatagrams.flowBytes flowId ≤ s.flowBytes flowId := by
  simp only [flowBytes, withoutDatagrams_queueOf]
  cases s.queueOf flowId with
  | none => exact Nat.le_refl _
  | some queue => exact bytes_withoutDatagrams_le queue

theorem sessionBytes_withoutDatagrams_le (s : Session) :
    s.withoutDatagrams.sessionBytes ≤ s.sessionBytes := by
  simp only [sessionBytes, withoutDatagrams, List.map_map]
  exact List.sum_le_sum fun queue _ => bytes_withoutDatagrams_le queue

theorem hasRoom_withoutDatagrams (h : hasRoom limits s flowId len) :
    hasRoom limits s.withoutDatagrams flowId len := by
  obtain ⟨hflow, hsession, hqueue⟩ := hasRoom_iff.mp h
  refine hasRoom_iff.mpr ⟨?_, ?_, fun queue hfound => ?_⟩
  · exact Nat.le_trans (Nat.add_le_add_right (flowBytes_withoutDatagrams_le s flowId) _) hflow
  · exact Nat.le_trans (Nat.add_le_add_right (sessionBytes_withoutDatagrams_le s) _) hsession
  · rw [withoutDatagrams_queueOf, Option.map_eq_some_iff] at hfound
    obtain ⟨full, hfound, rfl⟩ := hfound
    exact Nat.lt_of_le_of_lt (List.length_filter_le _ _) (hqueue full hfound)

def routes (s : Session) (frame : Frame) : Bool :=
  isClientInitiatedFlowId frame.header.id &&
    (s.flows.lookup frame.header.id).any (flowFrameMatchesProtocol · frame.header.frameType)

def RoomKept (limits : SessionLimits) (s : Session) (frame : Frame) : Prop :=
  s.routes frame → s.withoutDatagrams.hasRoom limits frame.header.id frame.payload.length →
    s.hasRoom limits frame.header.id frame.payload.length

instance : Decidable (RoomKept limits s frame) := inferInstanceAs (Decidable (_ → _ → _))

theorem withoutDatagrams_enqueue (s : Session) (flowId : Nat) (frame : Frame) :
    s.withoutDatagrams.enqueue flowId ⟨frame, false⟩ =
      (s.enqueue flowId ⟨frame, false⟩).withoutDatagrams :=
  withoutDatagrams_mapQueue s flowId _ _ fun queue _ _ => by
    simp [FlowQueue.withoutDatagrams]

theorem withoutDatagrams_routeFlowFrame (h : RoomKept limits s frame) :
    (s.withoutDatagrams.routeFlowFrame limits frame).1 =
        (s.routeFlowFrame limits frame).1.withoutDatagrams ∧
      afterRoute frame (s.withoutDatagrams.routeFlowFrame limits frame).2.1
          (s.withoutDatagrams.routeFlowFrame limits frame).2.2 =
        afterRoute frame (s.routeFlowFrame limits frame).2.1
          (s.routeFlowFrame limits frame).2.2 := by
  unfold routeFlowFrame
  simp only [withoutDatagrams_flows]
  cases hclient : isClientInitiatedFlowId frame.header.id with
  | false => exact ⟨rfl, rfl⟩
  | true =>
    cases hlookup : s.flows.lookup frame.header.id with
    | none => exact ⟨rfl, rfl⟩
    | some protocol =>
      dsimp only
      cases hmatches : flowFrameMatchesProtocol protocol frame.header.frameType with
      | false => exact ⟨rfl, rfl⟩
      | true =>
        have hroutes : s.routes frame := by simp [routes, hclient, hlookup, hmatches]
        cases hroom : s.hasRoom limits frame.header.id frame.payload.length with
        | true =>
          have hroom' := hasRoom_withoutDatagrams hroom
          rw [offer_of_hasRoom hroom, offer_of_hasRoom hroom', withoutDatagrams_queueOf,
            Option.isSome_map]
          cases (s.queueOf frame.header.id).isSome with
          | true => exact ⟨withoutDatagrams_enqueue s _ frame, rfl⟩
          | false => exact ⟨rfl, rfl⟩
        | false =>
          have hroom' : s.withoutDatagrams.hasRoom limits frame.header.id frame.payload.length =
              false := by
            by_contra hnot
            simp [h hroutes (by simpa using hnot)] at hroom
          obtain hfull | hfull := offer_of_not_hasRoom hroom <;>
            obtain hfull' | hfull' := offer_of_not_hasRoom hroom' <;>
            rw [hfull, hfull'] <;> exact ⟨rfl, rfl⟩

theorem withoutDatagrams_handleFrame (h : RoomKept limits s frame) :
    s.withoutDatagrams.handleFrame limits frame =
      ((s.handleFrame limits frame).1.withoutDatagrams, (s.handleFrame limits frame).2) := by
  obtain ⟨hstate, hprogram⟩ := withoutDatagrams_routeFlowFrame h
  unfold handleFrame
  split
  case h_8 | h_9 => split <;> rfl
  case h_10 => rfl
  all_goals
    split
    · rfl
    · split
      · rfl
      · exact Prod.ext hstate hprogram

theorem filter_of_pristine {queue : FlowQueue} (h : queue.Pristine) :
    queue.frames.filter (!·.datagram) = queue.frames :=
  List.filter_eq_self.mpr fun buffered hmem => by simp [h.frames buffered hmem]

theorem withoutDatagrams_of_pristine {queue : FlowQueue} (h : queue.Pristine) :
    queue.withoutDatagrams = queue := by
  simp [FlowQueue.withoutDatagrams, filter_of_pristine h]

theorem withoutDatagrams_awaitResponse (hnumbered : Numbered s)
    (h : ∀ queue ∈ s.queues, queue.flowId = flowId → queue.Pristine) (protocol : FlowProtocol)
    (choice : Choice) :
    s.withoutDatagrams.awaitResponse protocol flowId choice =
      ((s.awaitResponse protocol flowId choice).1.withoutDatagrams,
        (s.awaitResponse protocol flowId choice).2) := by
  have hqueue : ∀ queue, s.queueOf flowId = some queue → queue.withoutDatagrams = queue := by
    intro queue hfound
    have hid : queue.flowId = flowId := by simpa using List.find?_some hfound
    exact withoutDatagrams_of_pristine (h queue (List.mem_of_find?_eq_some hfound) hid)
  cases choice with
  | proceed =>
    simp only [awaitResponse, withoutDatagrams_queueOf, withoutDatagrams_hasFlow]
    cases hfound : s.queueOf flowId with
    | none => rfl
    | some queue =>
      rw [Option.map_some, hqueue queue hfound]
      obtain ⟨id, opener, _ | ⟨buffered, waiting⟩⟩ := queue
      · rfl
      · refine Prod.ext (withoutDatagrams_mapQueue s flowId _ _ fun other hmem hid => ?_) rfl
        obtain rfl := hnumbered.eq_of_queueOf hfound hmem hid
        have hwaiting := filter_of_pristine (pristine_tail (h _ hmem hid))
        simpa [FlowQueue.withoutDatagrams] using hwaiting.symm
  | _ => rfl

theorem withoutDatagrams_reserveFlow (limits : SessionLimits) (s : Session) (task : Nat)
    (protocol : FlowProtocol) :
    s.withoutDatagrams.reserveFlow limits task protocol =
      ((s.reserveFlow limits task protocol).1.withoutDatagrams,
        (s.reserveFlow limits task protocol).2) := by
  unfold reserveFlow
  cases hdraining : s.draining with
  | true => simp [hdraining]
  | false =>
    simp only [withoutDatagrams_draining, hdraining, Bool.false_eq_true, if_false]
    unfold reserveFlowSlot
    rw [withoutDatagrams_allocate]
    by_cases hstreams : s.flows.length ≥ limits.maxStreams
    · simp [hstreams]
    by_cases hudp : protocol = .udp ∧ s.udpRouteCount ≥ limits.maxUdpFlows
    · have hudp' : protocol = .udp ∧ s.withoutDatagrams.udpRouteCount ≥ limits.maxUdpFlows := hudp
      simp [hstreams, hudp, hudp']
    · have hudp' : ¬(protocol = .udp ∧ s.withoutDatagrams.udpRouteCount ≥ limits.maxUdpFlows) :=
        hudp
      simp [hstreams, hudp, hudp']

theorem withoutDatagrams_finishOpen (s : Session) (task : Nat)
    (outcome : Except OpenError OpenOutcome) :
    s.withoutDatagrams.finishOpen task outcome =
      ((s.finishOpen task outcome).1.withoutDatagrams, (s.finishOpen task outcome).2) := by
  unfold finishOpen
  dsimp only
  split <;> rfl

theorem withoutDatagrams_exec (limits : SessionLimits) (s : Session) (task : Nat) (op : Op)
    (rest : Program) (choice : Choice) (hnumbered : Numbered s)
    (hpristine : ∀ protocol flowId, op = .awaitResponse protocol flowId →
      ∀ queue ∈ s.queues, queue.flowId = flowId → queue.Pristine)
    (hroom : ∀ frame, op = .handleFrame frame → RoomKept limits s frame) :
    s.withoutDatagrams.exec limits task op rest choice =
      ((s.exec limits task op rest choice).1.withoutDatagrams,
        (s.exec limits task op rest choice).2) := by
  cases op with
  | reserveFlow protocol target =>
    simp only [exec, withoutDatagrams_reserveFlow]
    obtain ⟨s', _ | _ | flowId⟩ := s.reserveFlow limits task protocol <;> rfl
  | writeFrame frame onError =>
    cases frame with
    | error error => rfl
    | ok frame =>
      by_cases hfail : s.closed ∨ choice = .fail
      · simp [exec, hfail]
      · simp [exec, hfail, withoutDatagrams, emit]
  | awaitResponse protocol flowId =>
    exact withoutDatagrams_awaitResponse hnumbered (hpristine protocol flowId rfl) protocol choice
  | dropReceiver flowId => exact Prod.ext (withoutDatagrams_dropQueue s flowId) rfl
  | finishOpen outcome => exact withoutDatagrams_finishOpen s task outcome
  | swapClosed =>
    cases hclosed : s.closed with
    | true => simp [exec, hclosed]
    | false => simp [exec, hclosed, withoutDatagrams, emit]
  | swapDraining =>
    cases hdraining : s.draining with
    | true => simp [exec, hdraining]
    | false => simp [exec, hdraining, withoutDatagrams]
  | handleFrame frame => exact withoutDatagrams_handleFrame (hroom frame rfl)
  | _ => rfl

theorem relayed_withoutDatagrams (s : Session) (flowId : Nat) :
    s.withoutDatagrams.relayed flowId = s.relayed flowId := by
  unfold relayed
  rw [withoutDatagrams_queueOf]
  cases s.queueOf flowId <;> rfl

def nextIsDatagram (s : Session) (flowId : Nat) : Bool :=
  (s.queueOf flowId).any fun queue => queue.frames.head?.any (·.datagram)

theorem withoutDatagrams_receive (hnumbered : Numbered s)
    (h : s.nextIsDatagram flowId = false) :
    s.withoutDatagrams.receive flowId = (s.receive flowId).withoutDatagrams := by
  refine withoutDatagrams_mapQueue s flowId _ _ fun queue hmem hid => ?_
  have hfound : s.queueOf flowId = some queue := hnumbered.queueOf_eq hmem hid
  obtain ⟨id, opener, _ | ⟨buffered, waiting⟩⟩ := queue
  · rfl
  · have hbuffered : buffered.datagram = false := by simpa [nextIsDatagram, hfound] using h
    simp [FlowQueue.withoutDatagrams, hbuffered]

theorem receive_datagram (hnumbered : Numbered s) (h : s.nextIsDatagram flowId) :
    (s.receive flowId).withoutDatagrams = s.withoutDatagrams := by
  have hmap := withoutDatagrams_mapQueue s flowId
    (fun queue => { queue with frames := queue.frames.tail }) id fun queue hmem hid => ?_
  · rw [receive, ← hmap, mapQueue_id]
  · have hfound : s.queueOf flowId = some queue := hnumbered.queueOf_eq hmem hid
    obtain ⟨id, opener, _ | ⟨buffered, waiting⟩⟩ := queue
    · rfl
    · have hbuffered : buffered.datagram := by simpa [nextIsDatagram, hfound] using h
      simp [FlowQueue.withoutDatagrams, hbuffered]

theorem routeInboundDatagram_withoutDatagrams (limits : SessionLimits) (s : Session)
    (flowId : Nat) (payload : Bytes) :
    (s.routeInboundDatagram limits flowId payload).withoutDatagrams = s.withoutDatagrams := by
  unfold routeInboundDatagram
  split
  · rfl
  · rename_i frame hframe
    have hmap := withoutDatagrams_mapQueue s flowId
      (fun queue => { queue with frames := queue.frames ++ [⟨frame, true⟩] }) id fun queue _ _ => by
        simp [FlowQueue.withoutDatagrams]
    rw [enqueue, ← hmap, mapQueue_id]

end Session

open Session

/-- Datagrams come for flows whose open is answered, and leave room for the
control stream. -/
def Harmless (limits : SessionLimits) (t : Threads Session Program) (act : Nat × SessionInput) :
    Prop :=
  match t.pc act.1, act.2 with
  | [], .datagram flowId payload => DatagramTimely limits t.shared flowId payload
  | .handleFrame frame :: _, .go _ => RoomKept limits t.shared frame
  | _, _ => True

instance (limits : SessionLimits) (t : Threads Session Program) (act : Nat × SessionInput) :
    Decidable (Harmless limits t act) := by
  unfold Harmless
  split <;> infer_instance

def takesDatagram (t : Threads Session Program) (act : Nat × SessionInput) : Bool :=
  match act.2 with
  | .datagram _ _ => true
  | .receive flowId =>
    (t.pc act.1).isEmpty && t.shared.relayed flowId && t.shared.nextIsDatagram flowId
  | _ => false

theorem Waiting.harmless (hwaiting : Waiting t) (h : Harmless limits t (task, input)) :
    Waiting (t.step (Session.step limits) (task, input)) := by
  refine hwaiting.step (step_waits limits t.shared task (t.pc task) input hwaiting.numbered ?_)
  rintro flowId payload rfl hpc
  simpa [Harmless, hpc] using h

structure Shadows (t u : Threads Session Program) : Prop where
  waiting : Waiting t
  shared : u.shared = t.shared.withoutDatagrams
  pc : u.pc = t.pc

theorem Shadows.start : Shadows sessionStart sessionStart := ⟨.start, rfl, rfl⟩

theorem Shadows.skip (h : Shadows t u) (hharmless : Harmless limits t act)
    (hskip : takesDatagram t act) : Shadows (t.step (Session.step limits) act) u := by
  obtain ⟨task, input⟩ := act
  have hsame : (t.shared.step limits task (t.pc task) input).2 = t.pc task ∧
      (t.shared.step limits task (t.pc task) input).1.withoutDatagrams =
        t.shared.withoutDatagrams := by
    cases input with
    | datagram flowId payload =>
      cases hpc : t.pc task with
      | nil => exact ⟨rfl, routeInboundDatagram_withoutDatagrams limits t.shared flowId payload⟩
      | cons op rest => exact ⟨rfl, rfl⟩
    | receive flowId =>
      simp only [takesDatagram, Bool.and_eq_true, List.isEmpty_iff] at hskip
      obtain ⟨⟨hpc, hrelayed⟩, hdatagram⟩ := hskip
      rw [hpc]
      simp only [Session.step, hrelayed, if_true]
      exact ⟨trivial, receive_datagram h.waiting.numbered hdatagram⟩
    | _ => simp [takesDatagram] at hskip
  refine ⟨h.waiting.harmless hharmless, h.shared.trans hsame.2.symm, h.pc.trans ?_⟩
  simp [Threads.step, hsame.1]

theorem Shadows.keep (h : Shadows t u) (hharmless : Harmless limits t act)
    (hskip : takesDatagram t act = false) :
    Shadows (t.step (Session.step limits) act) (u.step (Session.step limits) act) := by
  obtain ⟨task, input⟩ := act
  have hsame : t.shared.withoutDatagrams.step limits task (t.pc task) input =
      ((t.shared.step limits task (t.pc task) input).1.withoutDatagrams,
        (t.shared.step limits task (t.pc task) input).2) := by
    cases hpc : t.pc task with
    | nil =>
      cases input with
      | datagram flowId payload => simp [takesDatagram] at hskip
      | receive flowId =>
        simp only [Session.step, relayed_withoutDatagrams]
        cases hrelayed : t.shared.relayed flowId with
        | false => rfl
        | true =>
          have hdatagram : t.shared.nextIsDatagram flowId = false := by
            simpa [takesDatagram, hpc, hrelayed] using hskip
          exact Prod.ext (withoutDatagrams_receive h.waiting.numbered hdatagram) rfl
      | dropFlow flowId =>
        simp only [Session.step, relayed_withoutDatagrams]
        cases t.shared.relayed flowId with
        | false => rfl
        | true => exact Prod.ext (withoutDatagrams_dropQueue t.shared flowId) rfl
      | _ => rfl
    | cons op rest =>
      cases input with
      | go choice =>
        refine withoutDatagrams_exec limits t.shared task op rest choice h.waiting.numbered ?_ ?_
        · rintro protocol flowId rfl
          exact h.waiting.pristine task flowId ⟨protocol, by simp [hpc]⟩
        · rintro frame rfl
          simpa [Harmless, hpc] using hharmless
      | _ => rfl
  refine ⟨h.waiting.harmless hharmless, ?_, ?_⟩
  · simp [h.shared, h.pc, hsame]
  · simp [Threads.step, h.shared, h.pc, hsame]

/-- A session does what it does in the run without its datagrams. -/
theorem log_without_datagrams (limits : SessionLimits) (acts : List (Nat × SessionInput))
    (h : Threads.Along (Session.step limits) (Harmless limits) sessionStart acts) :
    (sessionRun limits acts).shared.log =
      (sessionRun limits
        (sessionStart.erase (Session.step limits) takesDatagram acts)).shared.log := by
  have hshadows : Shadows (sessionRun limits acts)
      (sessionRun limits (sessionStart.erase (Session.step limits) takesDatagram acts)) :=
    Threads.run_erase (fun _ _ _ hcond hshadows => hshadows.skip hcond)
      (fun _ _ _ hcond hshadows => hshadows.keep hcond) .start h
  rw [hshadows.shared]
  rfl

def roomyLimits : SessionLimits := ⟨4, 4, true, 65536, 65536⟩

/-- Task 0 opens a UDP flow, up to the wait for the answer. -/
def udpOpenSent : List (Nat × SessionInput) :=
  (0, .call (.openUdpFlow (.ipv4 (.new 192 0 2 1) 53))) :: List.replicate 6 (0, .go .proceed)

/-- Task 1, the carrier reader, brings the answer. -/
def udpOpenAccepted : List (Nat × SessionInput) :=
  [(1, .call (.carrierFrame ⟨⟨1, .udpData, 0, 1, 0⟩, []⟩)), (1, .go .proceed)]

theorem log_without_late_datagram :
    let acts := udpOpenSent ++ udpOpenAccepted ++
      [(0, .go .proceed), (2, .datagram 1 [7]), (0, .go .proceed), (3, .receive 1)]
    Threads.Along (Session.step roomyLimits) (Harmless roomyLimits) sessionStart acts ∧
      (sessionRun roomyLimits acts).shared.log =
        (sessionRun roomyLimits
          (sessionStart.erase (Session.step roomyLimits) takesDatagram acts)).shared.log := by
  refine ⟨by decide +kernel, log_without_datagrams roomyLimits _ (by decide +kernel)⟩

/-- A datagram that overtakes the answer is read in its place. -/
theorem early_datagram_invalidates :
    let acts := udpOpenSent ++ [(2, .datagram 1 [7])] ++ udpOpenAccepted ++
      List.replicate 8 (0, .go .proceed)
    let log := (sessionRun roomyLimits acts).shared.log
    let logWithout := (sessionRun roomyLimits
      (sessionStart.erase (Session.step roomyLimits) takesDatagram acts)).shared.log
    .openFinished 0 (.error (.response .unexpectedFrame)) ∈ log ∧
      .wrote ⟨⟨1, .error, 0, 0, 1⟩, [9]⟩ ∈ log ∧ .invalidated ∈ log ∧ .closed ∈ log ∧
      .openFinished 0 (.ok (.opened 1)) ∈ logWithout ∧ .invalidated ∉ logWithout ∧
      .closed ∉ logWithout := by
  decide +kernel

-- A datagram for an open flow takes the session's last buffer space, and the
-- refusal of another open no longer fits.
example :
    let limits : SessionLimits := ⟨4, 4, true, 64, 64⟩
    let refusal : Frame := ⟨⟨1, .resourceLimit, 0, 3, 1⟩, [8]⟩
    let acts := udpOpenSent ++ udpOpenAccepted ++ [(0, .go .proceed), (0, .go .proceed)] ++
      [(2, .datagram 1 (List.replicate 64 7))] ++ udpOpenSent ++
      [(1, .call (.carrierFrame refusal)), (1, .go .proceed)] ++ List.replicate 4 (0, .go .proceed)
    .openFinished 0 (.error .closedWhileOpening) ∈ (sessionRun limits acts).shared.log ∧
      .openFinished 0 (.ok (.rejected .generalFailure)) ∈ (sessionRun limits
        (sessionStart.erase (Session.step limits) takesDatagram acts)).shared.log := by
  decide +kernel

end UncrownedKing.Client
