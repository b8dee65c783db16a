import UncrownedKing.Proto.SizeLaws
import UncrownedKing.Relay.RunLaws
import UncrownedKing.Relay.Settings

/-!
# What handlers write

Apart from settings and pings, a handler writes short frames only.
-/

namespace UncrownedKing.Relay

open Lib Net Proto Auth Server

def Instr.Within (size : Nat) (instr : Instr) : Prop :=
  ∀ frame, instr.frame? = some frame → frame.payload.length ≤ size

def ScriptWithin (size : Nat) (script : Script) : Prop := ∀ instr ∈ script, instr.Within size

/-- The longest status or close payload. -/
def statusSize : Nat := 8

section

variable {size : Nat} {script first second : Script}

@[simp] theorem scriptWithin_nil : ScriptWithin size [] := by simp [ScriptWithin]

@[simp] theorem scriptWithin_cons :
    ScriptWithin size (instr :: script) ↔ instr.Within size ∧ ScriptWithin size script := by
  simp [ScriptWithin]

@[simp] theorem scriptWithin_append :
    ScriptWithin size (first ++ second) ↔ ScriptWithin size first ∧ ScriptWithin size second := by
  simp [ScriptWithin, or_imp, forall_and]

theorem ScriptWithin.mono (h : ScriptWithin size script) (hle : size ≤ size') :
    ScriptWithin size' script :=
  fun instr hinstr frame hframe => (h instr hinstr frame hframe).trans hle

@[simp] theorem within_remove (flowId : Nat) : (Instr.remove flowId).Within size := nofun

@[simp] theorem within_fail (error : AnyError) : (Instr.fail error).Within size := nofun

@[simp] theorem within_establish (flow : Established) : (Instr.establish flow).Within size := nofun

theorem sendFrame_within {result : ProtocolResult Frame}
    (h : ∀ frame, result = .ok frame → frame.payload.length ≤ size) :
    ScriptWithin size (sendFrame result) := by
  cases result with
  | error error => simp [sendFrame]
  | ok frame =>
    have hframe := h frame rfl
    simpa [sendFrame, Instr.Within, Instr.frame?] using hframe

theorem sendFrameOrLog_within {result : ProtocolResult Frame}
    (h : ∀ frame, result = .ok frame → frame.payload.length ≤ size) :
    ScriptWithin size (sendFrameOrLog result) := by
  cases result with
  | error error => simp [sendFrameOrLog]
  | ok frame =>
    have hframe := h frame rfl
    simpa [sendFrameOrLog, Instr.Within, Instr.frame?] using hframe

theorem statusFrame_length (h : statusFrame frameType flowId code = .ok frame) :
    frame.payload.length ≤ statusSize := by
  obtain ⟨payload, hpayload, hframe⟩ := bind_eq_ok.mp h
  rw [Frame.new_payload hframe]
  exact Varint.encode_length_le hpayload

theorem tcpCloseFrame_length (h : tcpCloseFrame flowId closeCode = .ok frame) :
    frame.payload.length ≤ statusSize := by
  obtain ⟨payload, hpayload, hframe⟩ := bind_eq_ok.mp h
  rw [Frame.new_payload hframe, encodeClose_length hpayload]
  decide

theorem udpCloseFrame_length (h : udpCloseFrame flowId closeCode = .ok frame) :
    frame.payload.length ≤ statusSize := by
  obtain ⟨payload, hpayload, hframe⟩ := bind_eq_ok.mp h
  rw [Frame.new_payload hframe, encodeClose_length hpayload]
  decide

section

variable (flowId : Nat)

@[simp] theorem sendError_within (code : ErrorCode) :
    ScriptWithin statusSize (sendError flowId code) :=
  sendFrame_within fun _ => statusFrame_length

@[simp] theorem sendPolicyDenied_within : ScriptWithin statusSize (sendPolicyDenied flowId) :=
  sendFrame_within fun _ => statusFrame_length

@[simp] theorem sendResourceLimit_within : ScriptWithin statusSize (sendResourceLimit flowId) :=
  sendFrame_within fun _ => statusFrame_length

@[simp] theorem sendTcpClose_within (closeCode : UInt16) :
    ScriptWithin statusSize (sendTcpClose flowId closeCode) :=
  sendFrame_within fun _ => tcpCloseFrame_length

@[simp] theorem sendUdpClose_within (closeCode : UInt16) :
    ScriptWithin statusSize (sendUdpClose flowId closeCode) :=
  sendFrame_within fun _ => udpCloseFrame_length

theorem tcpProtocol_within (closeCode : UInt16) :
    ScriptWithin statusSize (tcpProtocol.sendClose flowId closeCode) :=
  sendTcpClose_within flowId closeCode

theorem udpProtocol_within (closeCode : UInt16) :
    ScriptWithin statusSize (udpProtocol.sendClose flowId closeCode) :=
  sendUdpClose_within flowId closeCode

end

@[simp] theorem sendOpened_within (frameType : FrameType) (flowId : Nat) (token : FlowToken) :
    ScriptWithin statusSize (sendOpened frameType flowId token) := by
  unfold sendOpened
  split
  · rename_i frame hframe
    simp [Instr.Within, Instr.frame?, Frame.new_payload hframe]
  · simp

end

namespace Session

@[simp] theorem dropSlot_received (s : Session) (slot : FlowSlot) :
    (s.dropSlot slot).clientSettingsReceived = s.clientSettingsReceived := by
  cases slot <;> rfl

@[simp] theorem removeFlowSlot_received (s : Session) (flowId : Nat) :
    (s.removeFlowSlot flowId).clientSettingsReceived = s.clientSettingsReceived := by
  unfold removeFlowSlot
  split <;> simp

end Session

theorem Change.received (h : Change ended active flowId s s') :
    s'.clientSettingsReceived = s.clientSettingsReceived := by
  cases h with
  | clears h =>
    cases h with
    | same | touched hnow hslot => rfl
    | removed | aborted hslot | setRemoved hslot h => exact Session.removeFlowSlot_received _ _
  | set hslot h | timed hslot h closedSide => rfl

/-- First settings, before any flow. -/
def Acceptable (frame : Frame) (s : Session) (agreed : NegotiatedSettings) : Prop :=
  settingsOf frame = some agreed ∧ s.clientSettingsReceived = false ∧
    s.targetWriters.entries = []

theorem settingsOf_frameType {frame : Frame} (h : settingsOf frame = some agreed) :
    frame.header.frameType = .settings := by
  by_contra hne
  simp [settingsOf, validateConnectionFrame, hne] at h

section

variable (context : RelayContext) (env : HandlerEnv) (frame : Frame) (s : Session)

theorem rejectOpenFailure_within {protocol : OpenProtocol}
    (hclose : ∀ flowId closeCode, ScriptWithin statusSize (protocol.sendClose flowId closeCode))
    (flowId : Nat) (failure : OpenFailure) :
    ScriptWithin statusSize (protocol.rejectOpenFailure flowId failure) := by
  cases failure <;> simp [OpenProtocol.rejectOpenFailure, hclose]

theorem validateOpenRequest_within {protocol : OpenProtocol} {frame : Frame} {script : Script}
    (hclose : ∀ flowId closeCode, ScriptWithin statusSize (protocol.sendClose flowId closeCode))
    (h : protocol.validateOpenRequest frame = .error script) : ScriptWithin statusSize script := by
  simp only [OpenProtocol.validateOpenRequest] at h
  split at h
  · cases h
    simp
  · split at h
    · cases h
      simp [hclose]
    · split at h
      · cases h
        simp [hclose]
      · split at h
        · cases h
          simp [hclose]
        · cases h

theorem handleOpenFrame_within {protocol : OpenProtocol}
    {check : Nat → FlowTable → Except OpenSlotRejection Unit}
    (hclose : ∀ flowId closeCode, ScriptWithin statusSize (protocol.sendClose flowId closeCode)) :
    ScriptWithin statusSize (protocol.handleOpenFrame check context env frame s).2 := by
  simp only [OpenProtocol.handleOpenFrame]
  split
  · simp [hclose]
  · simp [hclose]
  · simp only [OpenProtocol.admitOpen]
    split
    · rename_i hvalid
      exact validateOpenRequest_within hclose hvalid
    · split
      · exact rejectOpenFailure_within hclose frame.header.id .policyDenied
      · split <;> simp [hclose]

theorem rejectInvalidFlowId_within {sendClose : Nat → Script}
    (hclose : ∀ flowId, ScriptWithin statusSize (sendClose flowId)) (flowId : Nat)
    (rejection : FlowIdRejection) (zeroIdError : String) :
    ScriptWithin statusSize (rejectInvalidFlowId sendClose flowId rejection zeroIdError) := by
  cases rejection <;> simp [rejectInvalidFlowId, hclose]

@[simp] theorem rejectInvalidClientRelayFlowId_within (flowId : Nat) (rejection : FlowIdRejection)
    (zeroIdError : String) :
    ScriptWithin statusSize (rejectInvalidClientRelayFlowId flowId rejection zeroIdError) :=
  rejectInvalidFlowId_within (by simp) flowId rejection zeroIdError

@[simp] theorem rejectInvalidUdpRelayFlowId_within (flowId : Nat) (rejection : FlowIdRejection)
    (zeroIdError : String) :
    ScriptWithin statusSize (rejectInvalidUdpRelayFlowId flowId rejection zeroIdError) :=
  rejectInvalidFlowId_within (by simp) flowId rejection zeroIdError

theorem handleTcpDataFrame_within :
    ScriptWithin statusSize (handleTcpDataFrame context env frame s).2 := by
  simp only [handleTcpDataFrame, forwardTcpDataFrame]
  repeat' split
  all_goals simp

theorem handleTcpCloseFrame_within :
    ScriptWithin statusSize (handleTcpCloseFrame context frame s).2 := by
  simp only [handleTcpCloseFrame]
  repeat' split
  all_goals simp

theorem handleUdpDataFrame_within :
    ScriptWithin statusSize (handleUdpDataFrame env frame s).2 := by
  simp only [handleUdpDataFrame, forwardUdpDataFrame]
  repeat' split
  all_goals simp

theorem handleUdpCloseFrame_within : ScriptWithin statusSize (handleUdpCloseFrame frame s).2 := by
  simp only [handleUdpCloseFrame]
  repeat' split
  all_goals simp

theorem handleClientFlowStatusFrame_within :
    ScriptWithin statusSize (handleClientFlowStatusFrame context frame s).2 := by
  simp only [handleClientFlowStatusFrame]
  repeat' split
  all_goals simp

theorem handleSettingsFrame_within : ScriptWithin statusSize (handleSettingsFrame frame s).2 := by
  unfold handleSettingsFrame
  repeat' split
  all_goals simp

theorem sendError_ne_nil (flowId : Nat) (code : ErrorCode) (rest : Script) :
    sendError flowId code ++ rest ≠ [] := by
  unfold sendError sendFrame
  split <;> simp

theorem handleSessionFrame_acceptable (h : Acceptable frame s agreed) :
    handleSessionFrame context env frame s = (s.settled, []) := by
  obtain ⟨hsettings, hreceived, hempty⟩ := h
  have htype := settingsOf_frameType hsettings
  unfold settingsOf at hsettings
  split at hsettings
  · cases hsettings
  · rename_i hvalid
    have hdecoded := toOption_eq_some.mp hsettings
    simp [handleSessionFrame, htype, validateOrReportSessionControlFrame, hvalid,
      handleSettingsFrame, hreceived, hempty, hdecoded, Session.settled]

theorem handleSessionFrame_refused (htype : frame.header.frameType = .settings)
    (h : ∀ agreed, ¬Acceptable frame s agreed) :
    (handleSessionFrame context env frame s).1 = s ∧
      (handleSessionFrame context env frame s).2 ≠ [] := by
  simp only [handleSessionFrame, htype, validateOrReportSessionControlFrame]
  split
  · exact ⟨rfl, sendError_ne_nil _ _ _⟩
  · rename_i hvalid
    simp only [handleSettingsFrame]
    split
    · exact ⟨rfl, sendError_ne_nil _ _ _⟩
    · rename_i hreceived
      split
      · exact ⟨rfl, sendError_ne_nil _ _ _⟩
      · rename_i hempty
        split
        · exact ⟨rfl, sendError_ne_nil _ _ _⟩
        · rename_i agreed hdecoded
          refine absurd ⟨?_, by simpa using hreceived, by simpa using hempty⟩ (h agreed)
          simp [settingsOf, hvalid, toOption_eq_some, hdecoded]

theorem acceptedSettings_eq_some :
    acceptedSettings context env frame s = some agreed ↔ Acceptable frame s agreed := by
  constructor
  · intro h
    unfold acceptedSettings at h
    split at h
    · rename_i haccepted
      by_contra hnot
      refine (handleSessionFrame_refused context env frame s haccepted.1 ?_).2 haccepted.2
      rintro other ⟨hother, hrest⟩
      cases hother.symm.trans h
      exact hnot ⟨hother, hrest⟩
    · cases h
  · intro h
    have hhandled := handleSessionFrame_acceptable context env frame s h
    rw [acceptedSettings, hhandled, if_pos ⟨settingsOf_frameType h.1, rfl⟩]
    exact h.1

theorem handleSessionFrame_received :
    (handleSessionFrame context env frame s).1.clientSettingsReceived =
      (s.clientSettingsReceived || (acceptedSettings context env frame s).isSome) := by
  cases haccepted : acceptedSettings context env frame s with
  | some agreed =>
    have hacceptable := (acceptedSettings_eq_some context env frame s).mp haccepted
    simp [handleSessionFrame_acceptable context env frame s hacceptable, Session.settled]
  | none =>
    rw [Option.isSome_none, Bool.or_false]
    rcases handleSessionFrame_changes context env frame s with
      ⟨udp, target, permit, -, hopened⟩ | ⟨htype, -⟩ | hchange
    · rw [hopened]
      rfl
    · rw [(handleSessionFrame_refused context env frame s htype ?_).1]
      intro agreed hacceptable
      rw [(acceptedSettings_eq_some context env frame s).mpr hacceptable] at haccepted
      cases haccepted
    · exact hchange.received

/-- Only a PONG is as long as what it answers. -/
theorem handleSessionFrame_within (hsize : statusSize ≤ size)
    (hframe : frame.payload.length ≤ size) :
    ScriptWithin size (handleSessionFrame context env frame s).2 := by
  have hcontrol (expectedType : FrameType) {next : Handled} (hnext : ScriptWithin size next.2) :
      ScriptWithin size (validateOrReportSessionControlFrame frame expectedType next s).2 := by
    unfold validateOrReportSessionControlFrame
    split
    · exact ScriptWithin.mono (by simp) hsize
    · exact hnext
  unfold handleSessionFrame
  split
  case h_1 =>
    split
    · exact ScriptWithin.mono (by simp) hsize
    · exact (handleOpenFrame_within context env frame s tcpProtocol_within).mono hsize
  case h_2 =>
    split
    · exact ScriptWithin.mono (by simp) hsize
    · exact (handleOpenFrame_within context env frame s udpProtocol_within).mono hsize
  case h_3 => exact (handleTcpDataFrame_within context env frame s).mono hsize
  case h_4 => exact (handleTcpCloseFrame_within context frame s).mono hsize
  case h_5 => exact (handleUdpDataFrame_within env frame s).mono hsize
  case h_6 => exact (handleUdpCloseFrame_within frame s).mono hsize
  case h_7 => exact hcontrol _ ((handleSettingsFrame_within frame s).mono hsize)
  case h_8 | h_9 | h_10 => exact (handleClientFlowStatusFrame_within context frame s).mono hsize
  case h_11 =>
    refine hcontrol _ (sendFrame_within fun pong hpong => ?_)
    rw [Frame.new_payload hpong]
    exact hframe
  case h_12 => exact hcontrol _ scriptWithin_nil
  case h_13 | h_14 => exact ScriptWithin.mono (by simp [rejectUnexpectedSessionFrame]) hsize

end

section

variable (context : RelayContext) (env : HandlerEnv) (s : Session)

theorem handleHalfCloseDrainExpired_within (flowId : Nat) (token : FlowToken)
    (closedSide : HalfCloseSide) :
    ScriptWithin statusSize (handleHalfCloseDrainExpired context flowId token closedSide s).2 := by
  simp only [handleHalfCloseDrainExpired]
  split
  · simp
  · split
    · simp
    · rw [scriptWithin_append]
      constructor
      · cases closedSide with
        | targetToClient => exact sendFrameOrLog_within fun _ => tcpCloseFrame_length
        | clientToTarget => exact sendTcpClose_within _ _
      · split <;> simp

theorem handleFlowEvent_within (event : FlowEvent) :
    ScriptWithin statusSize (handleFlowEvent context env event s).2 := by
  cases event with
  | openCompleted flowId token target result =>
    simp only [handleFlowEvent, handleTcpOpenCompleted, acceptOpen]
    repeat' split
    all_goals simp [rejectOpenFailure_within tcpProtocol_within]
  | udpOpenCompleted flowId token target result =>
    simp only [handleFlowEvent, handleUdpOpenCompleted, acceptOpen]
    repeat' split
    all_goals simp [rejectOpenFailure_within udpProtocol_within]
  | halfCloseDrainExpired flowId token closedSide =>
    exact handleHalfCloseDrainExpired_within context s flowId token closedSide
  | _ => exact scriptWithin_nil

theorem handleFlowEvent_received (event : FlowEvent) :
    (handleFlowEvent context env event s).1.clientSettingsReceived = s.clientSettingsReceived := by
  rcases handleFlowEvent_cases context env event s with
    ⟨udp, flowId, target, socket, cancel, -, -, haccepted⟩ | ⟨hchange, -⟩
  · rw [haccepted]
    rfl
  · exact hchange.received

theorem closeIdleUdpFlows_within (order : Table.Order Nat FlowSlot) (now : Instant) :
    ScriptWithin statusSize (closeIdleUdpFlows context order now s) := by
  unfold closeIdleUdpFlows
  split
  · simp
  · intro instr hinstr
    obtain ⟨flowId, -, hflow⟩ := List.mem_flatMap.mp hinstr
    have hclose : ScriptWithin statusSize
        (sendUdpClose flowId udpCloseNormal ++ [.remove flowId]) := by simp
    exact hclose instr hflow

theorem reportFrameIoError_within (error : FrameIoError) :
    ScriptWithin statusSize (reportFrameIoError error) := by
  cases error with
  | closed | io error => simp [reportFrameIoError]
  | protocol error => exact sendFrameOrLog_within fun _ => statusFrame_length

theorem closeTargetFlows_received :
    (closeTargetFlows context s).clientSettingsReceived = s.clientSettingsReceived := by
  have hfold (entries : List (Sigma fun _ : Nat => FlowSlot)) (s : Session) :
      (entries.foldl (fun s entry => closeTargetFlow context s entry.2) s).clientSettingsReceived =
        s.clientSettingsReceived := by
    induction entries generalizing s with
    | nil => rfl
    | cons entry entries ih =>
      rw [List.foldl_cons, ih]
      cases hslot : entry.2 <;> simp [closeTargetFlow]
  exact hfold s.targetWriters.entries s

end

end UncrownedKing.Relay
