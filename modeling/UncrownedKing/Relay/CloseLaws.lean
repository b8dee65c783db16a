import UncrownedKing.Relay.ScriptLaws

/-!
# A close with the error code

What the handler of a client frame writes and what it leaves in the table.
-/

namespace UncrownedKing.Relay

open Lib Net Proto Auth Server

def isErrorClose (frame : Frame) : Bool :=
  match frame.header.frameType with
  | .tcpClose => (TcpClose.decode frame.payload).toOption == some tcpCloseError
  | .udpClose => (UdpClose.decode frame.payload).toOption == some udpCloseError
  | _ => false

theorem isErrorClose_isClose (h : isErrorClose frame = true) : isClose frame = true := by
  unfold isErrorClose at h
  split at h
  · simp [isClose, *]
  · simp [isClose, *]
  · cases h

def answerFrame (context : RelayContext) (env : HandlerEnv) (now : Instant)
    (outcomes : List (Option AnyError)) (frame : Frame) (s : Session) :
    Session × List Frame × Except AnyError Unit :=
  let handled := handleSessionFrame context env frame s
  runScript now outcomes handled.2 handled.1

/-- The flow of every close with the error code is gone. -/
def ErrorClosesFree (answer : Session × List Frame × Except AnyError Unit) : Prop :=
  answer.2.2 = .ok () → ∀ reply ∈ answer.2.1, isErrorClose reply = true →
    reply.header.id ≠ 0 ∧ answer.1.targetWriters.lookup reply.header.id = none

/-- An open while draining for a flow id that is zero or has a slot, or a frame for one with a
slot that no client may use. -/
def ClosesOccupied (frame : Frame) (s : Session) : Prop :=
  frame.header.id ≤ Varint.maxVarint ∧
    (s.state = .draining ∧ isOpen frame = true ∧
        (frame.header.id = 0 ∨ (s.targetWriters.lookup frame.header.id).isSome = true) ∨
      isRelay frame = true ∧ frame.header.id ≠ 0 ∧
        isClientInitiatedFlowId frame.header.id = false ∧
        (s.targetWriters.lookup frame.header.id).isSome = true)

variable {Fit : Nat → Prop} {now : Instant} {outcomes : List (Option AnyError)}

theorem lookup_none_removeFlowSlot {s : Session} (h : s.targetWriters.lookup flowId = none)
    (other : Nat) : (s.removeFlowSlot other).targetWriters.lookup flowId = none := by
  rw [removeFlowSlot_targetWriters]
  by_cases heq : flowId = other
  · rw [heq, AList.lookup_erase]
  · rw [AList.lookup_erase_ne heq, h]

theorem runScript_remove (flowId : Nat) (rest : Script) (s : Session) :
    runScript now outcomes (.remove flowId :: rest) s =
      runScript now outcomes rest (s.removeFlowSlot flowId) := by
  rw [runScript.eq_def]

theorem runScript_fail (error : AnyError) (rest : Script) (s : Session) :
    runScript now outcomes (.fail error :: rest) s = (s, [], .error error) := by
  rw [runScript.eq_def]

theorem runScript_lookup_none {s : Session} {table : FlowTable} (hneat : Neat Fit table script)
    (h : s.targetWriters.lookup flowId = none) :
    (runScript now outcomes script s).1.targetWriters.lookup flowId = none := by
  induction script generalizing s table outcomes with
  | nil => exact h
  | cons instr rest ih =>
    cases instr with
    | write frame logged =>
      match outcomes with
      | some error :: outcomes =>
        simp only [runScript]
        split
        · exact ih hneat.2.2 h
        · exact h
      | none :: outcomes | [] => exact ih hneat.2.2 h
    | writeFlow frame token => exact hneat.elim
    | remove other =>
      rw [runScript_remove]
      exact ih hneat (lookup_none_removeFlowSlot h other)
    | establish flow => exact hneat.elim
    | fail error =>
      rw [runScript_fail]
      exact h

theorem runScript_closes {s : Session} (hneat : Neat Fit s.targetWriters script) :
    ∀ reply ∈ (runScript now outcomes script s).2.1, isClose reply = true →
      Fit reply.header.id ∧
        ((runScript now outcomes script s).2.2 = .ok () →
          (runScript now outcomes script s).1.targetWriters.lookup reply.header.id = none) := by
  induction script generalizing s outcomes with
  | nil =>
    intro reply hreply
    cases outcomes <;> simp [runScript] at hreply
  | cons instr rest ih =>
    cases instr with
    | write frame logged =>
      -- a frame that is written is closed for good by what comes right after it
      have hwritten : ∀ outcomes, isClose frame = true → Fit frame.header.id ∧
          ((runScript now outcomes rest s).2.2 = .ok () →
            (runScript now outcomes rest s).1.targetWriters.lookup frame.header.id = none) := by
        intro outcomes hclose
        obtain ⟨hfit, hnone | hnext⟩ := hneat.2.1 hclose
        · exact ⟨hfit, fun _ => runScript_lookup_none hneat.2.2 hnone⟩
        · refine ⟨hfit, fun _ => ?_⟩
          match rest, hneat.2.2, hnext with
          | .remove _ :: rest, hrest, rfl =>
            have hgone : (s.removeFlowSlot frame.header.id).targetWriters.lookup frame.header.id =
                none := by
              rw [removeFlowSlot_targetWriters, AList.lookup_erase]
            rw [runScript_remove]
            exact runScript_lookup_none hrest hgone
      match outcomes with
      | some error :: outcomes =>
        simp only [runScript]
        split
        · exact ih hneat.2.2
        · intro reply hreply
          simp at hreply
      | none :: outcomes =>
        intro reply hreply
        rcases List.mem_cons.mp hreply with rfl | hreply
        · exact hwritten outcomes
        · exact ih hneat.2.2 reply hreply
      | [] =>
        intro reply hreply
        rcases List.mem_cons.mp hreply with rfl | hreply
        · exact hwritten []
        · exact ih hneat.2.2 reply hreply
    | writeFlow frame token => exact hneat.elim
    | remove flowId =>
      have hrest : Neat Fit (s.removeFlowSlot flowId).targetWriters rest := by
        rw [removeFlowSlot_targetWriters]
        exact hneat
      rw [runScript_remove]
      exact ih hrest
    | establish flow => exact hneat.elim
    | fail error =>
      intro reply hreply
      simp [runScript_fail] at hreply

theorem handleSessionFrame_neat_of_not (h : ¬ClosesOccupied frame s) (context : RelayContext)
    (env : HandlerEnv) : NeatHandled (· ≠ 0) (handleSessionFrame context env frame s) := by
  have hnone (hsome : ¬(s.targetWriters.lookup frame.header.id).isSome = true) :
      s.targetWriters.lookup frame.header.id = none := by
    rwa [← Option.not_isSome_iff_eq_none]
  refine handleSessionFrame_neat (fun _ hzero => hzero) context env ?_ ?_
  · intro hrelay hzero hclient hle
    exact hnone fun hsome => h ⟨hle, .inr ⟨hrelay, hzero, hclient, hsome⟩⟩
  · intro hstate hopen hle
    refine ⟨fun hzero => h ⟨hle, .inl ⟨hstate, hopen, .inl hzero⟩⟩, ?_⟩
    exact hnone fun hsome => h ⟨hle, .inl ⟨hstate, hopen, .inr hsome⟩⟩

theorem errorClosesFree_of_not (h : ¬ClosesOccupied frame s) (context : RelayContext)
    (env : HandlerEnv) : ErrorClosesFree (answerFrame context env now outcomes frame s) := by
  have hneat := handleSessionFrame_neat_of_not h context env
  intro hok reply hreply herror
  obtain ⟨hzero, hgone⟩ := runScript_closes hneat reply hreply (isErrorClose_isClose herror)
  exact ⟨hzero, hgone hok⟩

theorem frame_new_exists (frameType : FrameType) (h : flowId ≤ Varint.maxVarint)
    (hlen : payload.length ≤ Varint.maxVarint) :
    ∃ frame, Frame.new frameType 0 flowId payload = .ok frame := by
  obtain ⟨_, hid⟩ := Varint.encodedLen_ok_iff.mpr h
  obtain ⟨_, hpayload⟩ := Varint.encodedLen_ok_iff.mpr hlen
  refine ⟨⟨⟨protocolVersion, frameType, 0, flowId, payload.length⟩, payload⟩, ?_⟩
  simp [Frame.new, FrameHeader.new, hid, hpayload, validateFlags, bind, Except.bind, pure,
    Except.pure]

theorem statusFrame_exists (frameType : FrameType) (h : flowId ≤ Varint.maxVarint)
    (code : ErrorCode) : ∃ frame, statusFrame frameType flowId code = .ok frame := by
  cases code <;> exact frame_new_exists frameType h (by decide)

theorem tcpCloseFrame_exists (h : flowId ≤ Varint.maxVarint) :
    ∃ reply, tcpCloseFrame flowId tcpCloseError = .ok reply ∧ isErrorClose reply = true ∧
      reply.header.id = flowId := by
  obtain ⟨reply, hreply⟩ := frame_new_exists .tcpClose h
    (show (toBe 2 tcpCloseError.toNat).length ≤ Varint.maxVarint by decide)
  obtain ⟨htype, hid, -, hpayload⟩ := frame_new_ok hreply
  refine ⟨reply, hreply, ?_, hid⟩
  simp only [isErrorClose, htype, hpayload]
  decide

theorem udpCloseFrame_exists (h : flowId ≤ Varint.maxVarint) :
    ∃ reply, udpCloseFrame flowId udpCloseError = .ok reply ∧ isErrorClose reply = true ∧
      reply.header.id = flowId := by
  obtain ⟨reply, hreply⟩ := frame_new_exists .udpClose h
    (show (toBe 2 udpCloseError.toNat).length ≤ Varint.maxVarint by decide)
  obtain ⟨htype, hid, -, hpayload⟩ := frame_new_ok hreply
  refine ⟨reply, hreply, ?_, hid⟩
  simp only [isErrorClose, htype, hpayload]
  decide

def Refuses (flowId : Nat) (s : Session) (handled : Handled) : Prop :=
  ∃ status reply, handled = (s, [.write status false, .write reply false]) ∧
    isErrorClose reply = true ∧ reply.header.id = flowId

theorem refuses_tcp (h : flowId ≤ Varint.maxVarint) (frameType : FrameType) (code : ErrorCode)
    (s : Session) : Refuses flowId s
      (s, sendFrame (statusFrame frameType flowId code) ++ sendTcpClose flowId tcpCloseError) := by
  obtain ⟨status, hstatus⟩ := statusFrame_exists frameType h code
  obtain ⟨reply, hreply, herror, hid⟩ := tcpCloseFrame_exists h
  exact ⟨status, reply, by simp [sendTcpClose, sendFrame, hstatus, hreply], herror, hid⟩

theorem refuses_udp (h : flowId ≤ Varint.maxVarint) (frameType : FrameType) (code : ErrorCode)
    (s : Session) : Refuses flowId s
      (s, sendFrame (statusFrame frameType flowId code) ++ sendUdpClose flowId udpCloseError) := by
  obtain ⟨status, hstatus⟩ := statusFrame_exists frameType h code
  obtain ⟨reply, hreply, herror, hid⟩ := udpCloseFrame_exists h
  exact ⟨status, reply, by simp [sendUdpClose, sendFrame, hstatus, hreply], herror, hid⟩

theorem draining_refuses {frame : Frame} {s : Session} (h : frame.header.id ≤ Varint.maxVarint)
    (hstate : s.state = .draining) (hopen : isOpen frame = true) (context : RelayContext)
    (env : HandlerEnv) :
    Refuses frame.header.id s (handleSessionFrame context env frame s) := by
  rcases Bool.or_eq_true_iff.mp hopen with htype | htype <;>
    simp only [handleSessionFrame, beq_iff_eq.mp htype, hstate, if_true]
  · exact refuses_tcp h _ _ s
  · exact refuses_udp h _ _ s

theorem reserved_refuses {frame : Frame} (h : frame.header.id ≤ Varint.maxVarint)
    (hrelay : isRelay frame = true) (hzero : frame.header.id ≠ 0)
    (hclient : isClientInitiatedFlowId frame.header.id = false) (context : RelayContext)
    (env : HandlerEnv) (s : Session) :
    Refuses frame.header.id s (handleSessionFrame context env frame s) := by
  have hvalid : validateClientRelayFlowId frame.header.id = .error .reserved := by
    simp [validateClientRelayFlowId, hzero, hclient]
  have htcp := refuses_tcp h .error .protocol s
  have hudp := refuses_udp h .error .protocol s
  by_cases hdraining : s.state = .draining ∧ isOpen frame = true
  · exact draining_refuses h hdraining.1 hdraining.2 context env
  · unfold isRelay at hrelay
    cases htype : frame.header.frameType <;> simp only [htype, Bool.false_eq_true] at hrelay
    case tcpOpen =>
      have hstate : s.state ≠ .draining := fun hstate => hdraining ⟨hstate, by simp [isOpen, htype]⟩
      simp only [handleSessionFrame, htype, hstate, if_false, handleTcpOpenFrame,
        OpenProtocol.handleOpenFrame, checkOpenSlot, hclient, Bool.not_false, if_true,
        OpenProtocol.admitOpen, OpenProtocol.validateOpenRequest, hzero]
      exact htcp
    case udpOpen =>
      have hstate : s.state ≠ .draining := fun hstate => hdraining ⟨hstate, by simp [isOpen, htype]⟩
      simp only [handleSessionFrame, htype, hstate, if_false, handleUdpOpenFrame,
        OpenProtocol.handleOpenFrame, checkUdpOpenSlot, checkOpenSlot, hclient, Bool.not_false,
        Bool.false_and, Bool.false_eq_true, if_true, OpenProtocol.admitOpen,
        OpenProtocol.validateOpenRequest, hzero]
      exact hudp
    case tcpData =>
      simp only [handleSessionFrame, htype, handleTcpDataFrame, hvalid]
      exact htcp
    case tcpClose =>
      simp only [handleSessionFrame, htype, handleTcpCloseFrame, hvalid]
      exact htcp
    case udpData =>
      simp only [handleSessionFrame, htype, handleUdpDataFrame, hvalid]
      exact hudp
    case udpClose =>
      simp only [handleSessionFrame, htype, handleUdpCloseFrame, hvalid]
      exact hudp
    all_goals
      simp only [handleSessionFrame, htype, handleClientFlowStatusFrame, hzero, false_and, if_false,
        hvalid]
      exact htcp

theorem closesOccupied_refuses (h : ClosesOccupied frame s) (context : RelayContext)
    (env : HandlerEnv) : Refuses frame.header.id s (handleSessionFrame context env frame s) := by
  obtain ⟨hle, ⟨hstate, hopen, -⟩ | ⟨hrelay, hzero, hclient, -⟩⟩ := h
  · exact draining_refuses hle hstate hopen context env
  · exact reserved_refuses hle hrelay hzero hclient context env s

/-- The flows a handler closes with the error code are gone when it returns, but for
`ClosesOccupied`. -/
theorem error_closes_free_iff (context : RelayContext) (env : HandlerEnv) (now : Instant)
    (frame : Frame) (s : Session) :
    (∀ outcomes, ErrorClosesFree (answerFrame context env now outcomes frame s)) ↔
      ¬ClosesOccupied frame s := by
  constructor
  · intro hfree hoccupied
    obtain ⟨status, reply, hhandled, herror, hid⟩ := closesOccupied_refuses hoccupied context env
    have hrun : answerFrame context env now [] frame s = (s, [status, reply], .ok ()) := by
      simp [answerFrame, hhandled, runScript]
    have hgone := hfree []
    rw [hrun] at hgone
    obtain ⟨hzero, hnone⟩ := hgone rfl reply (by simp) herror
    rw [hid] at hzero hnone
    obtain ⟨-, ⟨-, -, hbad⟩ | ⟨-, -, -, hbad⟩⟩ := hoccupied
    · rcases hbad with hbad | hbad
      · exact hzero hbad
      · simp [hnone] at hbad
    · simp [hnone] at hbad
  · intro h outcomes
    exact errorClosesFree_of_not h context env

def sampleCredential : Credential := ⟨[1], [2], .active, none, none, none, by decide⟩

def sampleContext : RelayContext := ⟨sampleCredential.identity, 8, 8, 65536, 1024, none, none⟩

def sampleEnv : HandlerEnv :=
  ⟨0, 0, .new [sampleCredential] [] ⟨[]⟩ 0, some 0, true, .ok 0⟩

def sampleOpen : Frame :=
  let payload : Bytes := [2, 4, 1, 1, 1, 1, 0, 80, 0, 0]
  ⟨⟨protocolVersion, .tcpOpen, 0, 1, payload.length⟩, payload⟩

def drainingSession : Session :=
  { (handleSessionFrame sampleContext sampleEnv sampleOpen .start).1 with state := .draining }

theorem draining_open_keeps_flow :
    ¬ErrorClosesFree (answerFrame sampleContext sampleEnv 0 [] sampleOpen drainingSession) := by
  intro h
  have hclose := h rfl _ (List.mem_cons_of_mem _ List.mem_cons_self) (by decide)
  exact absurd hclose.2 (by decide)

end UncrownedKing.Relay
