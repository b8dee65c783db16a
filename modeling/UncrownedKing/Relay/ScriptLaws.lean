import UncrownedKing.Proto.FrameLaws
import UncrownedKing.Relay.Machine

/-!
# Laws of scripts

A close written for a flow id that has a slot is followed by the removal of the
slot.
-/

namespace UncrownedKing.Relay

open Lib Net Proto Auth Server

variable {frame : Frame} {s : Session} {send : Nat → Script}

def ClosesFlow (flowId : Nat) (result : ProtocolResult Frame) : Prop :=
  ∀ frame, result = .ok frame →
    isClose frame = true ∧ frame.header.id = flowId ∧ flowId ≤ Varint.maxVarint

def Plain (result : ProtocolResult Frame) : Prop :=
  ∀ frame, result = .ok frame → isData frame = false ∧ isClose frame = false

theorem isClose_not_data (h : isClose frame = true) : isData frame = false := by
  unfold isClose at h
  unfold isData
  cases htype : frame.header.frameType <;> simp_all

theorem tcpCloseFrame_closes (flowId : Nat) (closeCode : UInt16) :
    ClosesFlow flowId (tcpCloseFrame flowId closeCode) := by
  intro frame h
  obtain ⟨payload, -, h⟩ := bind_eq_ok.mp h
  obtain ⟨htype, hid, hle, -⟩ := frame_new_ok h
  exact ⟨by simp [isClose, htype], hid, hle⟩

theorem udpCloseFrame_closes (flowId : Nat) (closeCode : UInt16) :
    ClosesFlow flowId (udpCloseFrame flowId closeCode) := by
  intro frame h
  obtain ⟨payload, -, h⟩ := bind_eq_ok.mp h
  obtain ⟨htype, hid, hle, -⟩ := frame_new_ok h
  exact ⟨by simp [isClose, htype], hid, hle⟩

theorem statusFrame_plain
    (h : frameType = .error ∨ frameType = .policyDenied ∨ frameType = .resourceLimit)
    (flowId : Nat) (code : ErrorCode) : Plain (statusFrame frameType flowId code) := by
  intro frame hframe
  obtain ⟨payload, -, hframe⟩ := bind_eq_ok.mp hframe
  obtain ⟨htype, -⟩ := frame_new_ok hframe
  rcases h with rfl | rfl | rfl <;> simp [isData, isClose, htype]

theorem erase_of_lookup_none {table : FlowTable} (h : table.lookup flowId = none) :
    table.erase flowId = table := by
  refine AList.ext ?_
  exact List.kerase_of_notMem_keys (AList.lookup_eq_none.mp h)

@[simp] theorem removeFlowSlot_targetWriters (s : Session) (flowId : Nat) :
    (s.removeFlowSlot flowId).targetWriters = s.targetWriters.erase flowId := by
  unfold Session.removeFlowSlot
  split
  · rename_i h
    exact (erase_of_lookup_none h).symm
  · rfl

/-- A close is for a fit flow id that has no slot, or the slot goes next. -/
def Neat (Fit : Nat → Prop) (table : FlowTable) : Script → Prop
  | [] => True
  | .write frame _ :: rest =>
    isData frame = false ∧ (isClose frame = true → Fit frame.header.id ∧ (table.lookup frame.header.id = none ∨
      rest.head? = some (.remove frame.header.id))) ∧ Neat Fit table rest
  | .remove flowId :: rest => Neat Fit (table.erase flowId) rest
  | .writeFlow _ _ :: _ | .establish _ :: _ => False
  | .fail _ :: _ => True

def NeatHandled (Fit : Nat → Prop) (handled : Handled) : Prop :=
  Neat Fit handled.1.targetWriters handled.2

variable {Fit : Nat → Prop}

theorem neat_nil (table : FlowTable) : Neat Fit table [] := trivial

theorem neat_fail (table : FlowTable) (error : AnyError) : Neat Fit table [.fail error] := trivial

section

variable {result : ProtocolResult Frame}

theorem neat_plain (h : Plain result)
    (hrest : Neat Fit table rest) : Neat Fit table (sendFrame result ++ rest) := by
  cases result with
  | error error => trivial
  | ok frame =>
    obtain ⟨hdata, hplain⟩ := h frame rfl
    exact ⟨hdata, fun hclose => by simp [hplain] at hclose, hrest⟩

theorem neat_closing (h : ClosesFlow flowId result)
    (hfit : Fit flowId) (hrest : Neat Fit (table.erase flowId) rest) :
    Neat Fit table (sendFrame result ++ .remove flowId :: rest) := by
  cases result with
  | error error => trivial
  | ok frame =>
    obtain ⟨hclose, hid, -⟩ := h frame rfl
    exact ⟨isClose_not_data hclose, fun _ => ⟨hid ▸ hfit, .inr (by simp [hid])⟩, hrest⟩

theorem neat_closing_logged (h : ClosesFlow flowId result)
    (hfit : Fit flowId) : Neat Fit table (sendFrameOrLog result ++ [.remove flowId]) := by
  cases result with
  | error error => trivial
  | ok frame =>
    obtain ⟨hclose, hid, -⟩ := h frame rfl
    exact ⟨isClose_not_data hclose, fun _ => ⟨hid ▸ hfit, .inr (by simp [hid])⟩, trivial⟩

theorem neat_free (h : ClosesFlow flowId result)
    (hfree : flowId ≤ Varint.maxVarint → Fit flowId ∧ table.lookup flowId = none) :
    Neat Fit table (sendFrame result) := by
  cases result with
  | error error => trivial
  | ok frame =>
    obtain ⟨hclose, hid, hle⟩ := h frame rfl
    obtain ⟨hfit, hnone⟩ := hfree hle
    exact ⟨isClose_not_data hclose, fun _ => ⟨hid ▸ hfit, .inl (hid ▸ hnone)⟩, trivial⟩

end

theorem neat_sendError (hrest : Neat Fit table rest) (flowId : Nat) (code : ErrorCode) :
    Neat Fit table (sendError flowId code ++ rest) :=
  neat_plain (statusFrame_plain (by decide) flowId code) hrest

theorem neat_sendError_alone (table : FlowTable) (flowId : Nat) (code : ErrorCode) :
    Neat Fit table (sendError flowId code) := by
  rw [← List.append_nil (sendError flowId code)]
  exact neat_sendError (neat_nil table) flowId code

theorem neat_sendResourceLimit (hrest : Neat Fit table rest) (flowId : Nat) :
    Neat Fit table (sendResourceLimit flowId ++ rest) :=
  neat_plain (statusFrame_plain (by decide) flowId _) hrest

theorem neat_sendPolicyDenied (hrest : Neat Fit table rest) (flowId : Nat) :
    Neat Fit table (sendPolicyDenied flowId ++ rest) :=
  neat_plain (statusFrame_plain (by decide) flowId _) hrest

def SendsClose (send : Nat → Script) : Prop :=
  ∀ flowId, ∃ result, send flowId = sendFrame result ∧ ClosesFlow flowId result

theorem sendTcpClose_closes (closeCode : UInt16) : SendsClose (sendTcpClose · closeCode) :=
  fun flowId => ⟨_, rfl, tcpCloseFrame_closes flowId closeCode⟩

theorem sendUdpClose_closes (closeCode : UInt16) : SendsClose (sendUdpClose · closeCode) :=
  fun flowId => ⟨_, rfl, udpCloseFrame_closes flowId closeCode⟩

theorem SendsClose.free (h : SendsClose send)
    (hfree : flowId ≤ Varint.maxVarint → Fit flowId ∧ table.lookup flowId = none) :
    Neat Fit table (send flowId) := by
  obtain ⟨result, hsend, hcloses⟩ := h flowId
  rw [hsend]
  exact neat_free hcloses hfree

theorem SendsClose.remove (h : SendsClose send) (hfit : Fit flowId)
    (hrest : Neat Fit (table.erase flowId) rest) :
    Neat Fit table (send flowId ++ .remove flowId :: rest) := by
  obtain ⟨result, hsend, hcloses⟩ := h flowId
  rw [hsend]
  exact neat_closing hcloses hfit hrest

theorem SendsClose.error_remove (h : SendsClose send) (table : FlowTable)
    (hfit : Fit flowId) (code : ErrorCode) :
    Neat Fit table (sendError flowId code ++ send flowId ++ [.remove flowId]) := by
  rw [List.append_assoc]
  exact neat_sendError (h.remove hfit (neat_nil _)) flowId code

theorem client_ne_zero (h : isClientInitiatedFlowId flowId = true) : flowId ≠ 0 := by
  rintro rfl
  simp [isClientInitiatedFlowId] at h

theorem validateClientRelayFlowId_ok (h : validateClientRelayFlowId flowId = .ok u) :
    isClientInitiatedFlowId flowId = true := by
  unfold validateClientRelayFlowId at h
  split at h
  · cases h
  · split at h
    · cases h
    · simp_all

theorem validateClientRelayFlowId_reserved
    (h : validateClientRelayFlowId flowId = .error .reserved) :
    flowId ≠ 0 ∧ isClientInitiatedFlowId flowId = false := by
  unfold validateClientRelayFlowId at h
  split at h
  · cases h
  · split at h
    · simp_all
    · cases h

/-- An id that a client may not open has no slot. -/
def ReservedFree (table : FlowTable) (flowId : Nat) : Prop :=
  flowId ≠ 0 → isClientInitiatedFlowId flowId = false → flowId ≤ Varint.maxVarint →
    table.lookup flowId = none

theorem rejectInvalidFlowId_neat (h : SendsClose send) (hfit : ∀ flowId, flowId ≠ 0 → Fit flowId)
    (hvalid : validateClientRelayFlowId flowId = .error rejection)
    (hreserved : ReservedFree table flowId) (zeroIdError : String) :
    Neat Fit table (rejectInvalidFlowId send flowId rejection zeroIdError) := by
  cases rejection with
  | zero => exact neat_sendError (neat_fail _ _) _ _
  | reserved =>
    obtain ⟨hzero, hclient⟩ := validateClientRelayFlowId_reserved hvalid
    exact neat_sendError (h.free fun hle => ⟨hfit _ hzero, hreserved hzero hclient hle⟩) _ _

theorem checkOpenSlot_ok (h : checkOpenSlot flowId table maxStreams = .ok ())
    (hclient : isClientInitiatedFlowId flowId = true) :
    table.lookup flowId = none ∧ table.entries.length < maxStreams := by
  unfold checkOpenSlot at h
  simp only [hclient, Bool.not_true, Bool.false_eq_true, if_false] at h
  split at h
  · cases h
  · split at h
    · cases h
    · rename_i hnone hroom
      exact ⟨by simpa using hnone, by omega⟩

theorem checkOpenSlot_error (h : checkOpenSlot flowId table maxStreams = .error rejection) :
    isClientInitiatedFlowId flowId = true ∧
      (rejection = .resourceLimit → table.lookup flowId = none) := by
  unfold checkOpenSlot at h
  split at h
  · cases h
  · rename_i hclient
    refine ⟨by simpa using hclient, ?_⟩
    rintro rfl
    split at h
    · cases h
    · rename_i hnone
      simpa using hnone

theorem checkUdpOpenSlot_ok (h : checkUdpOpenSlot flowId table maxStreams maxUdpFlows = .ok ())
    (hclient : isClientInitiatedFlowId flowId = true) :
    table.lookup flowId = none ∧ table.entries.length < maxStreams ∧
      udpFlowCount table < maxUdpFlows := by
  unfold checkUdpOpenSlot at h
  split at h
  · cases h
  · rename_i hcheck
    split at h
    · cases h
    · rename_i hcount
      obtain ⟨hnone, hroom⟩ := checkOpenSlot_ok hcheck hclient
      exact ⟨hnone, hroom, by simpa [hclient] using hcount⟩

theorem checkUdpOpenSlot_error
    (h : checkUdpOpenSlot flowId table maxStreams maxUdpFlows = .error rejection) :
    isClientInitiatedFlowId flowId = true ∧
      (rejection = .resourceLimit → table.lookup flowId = none) := by
  unfold checkUdpOpenSlot at h
  split at h
  · rename_i hcheck
    cases h
    exact checkOpenSlot_error hcheck
  · rename_i hcheck
    split at h
    · rename_i hfull
      rw [Bool.and_eq_true] at hfull
      exact ⟨hfull.1, fun _ => (checkOpenSlot_ok hcheck hfull.1).1⟩
    · cases h

structure CheckSound (check : Nat → FlowTable → Except OpenSlotRejection Unit) : Prop where
  ok : ∀ {flowId table}, check flowId table = .ok () → isClientInitiatedFlowId flowId = true →
    table.lookup flowId = none
  error : ∀ {flowId table rejection}, check flowId table = .error rejection →
    isClientInitiatedFlowId flowId = true ∧
      (rejection = .resourceLimit → table.lookup flowId = none)

theorem checkOpenSlot_sound (maxStreams : Nat) :
    CheckSound fun flowId table => checkOpenSlot flowId table maxStreams :=
  ⟨fun h hclient => (checkOpenSlot_ok h hclient).1, fun h => checkOpenSlot_error h⟩

theorem checkUdpOpenSlot_sound (maxStreams maxUdpFlows : Nat) :
    CheckSound fun flowId table => checkUdpOpenSlot flowId table maxStreams maxUdpFlows :=
  ⟨fun h hclient => (checkUdpOpenSlot_ok h hclient).1, fun h => checkUdpOpenSlot_error h⟩

def OpenProtocol.Closes (protocol : OpenProtocol) : Prop :=
  ∀ closeCode, SendsClose (protocol.sendClose · closeCode)

theorem tcpProtocol_closes : tcpProtocol.Closes := sendTcpClose_closes

theorem udpProtocol_closes : udpProtocol.Closes := sendUdpClose_closes

section

variable {protocol : OpenProtocol}

theorem rejectOpenFailure_neat (h : protocol.Closes)
    (hfree : flowId ≤ Varint.maxVarint → Fit flowId ∧ table.lookup flowId = none)
    (failure : OpenFailure) : Neat Fit table (protocol.rejectOpenFailure flowId failure) := by
  cases failure with
  | policyDenied => exact neat_sendPolicyDenied ((h _).free hfree) _
  | resourceLimit => exact neat_sendResourceLimit ((h _).free hfree) _
  | targetUnavailable error | targetTimeout => exact neat_sendError ((h _).free hfree) _ _

theorem rejectOpenFailure_remove_neat (h : protocol.Closes)
    (table : FlowTable) (hfit : Fit flowId) (failure : OpenFailure) :
    Neat Fit table (protocol.rejectOpenFailure flowId failure ++ [.remove flowId]) := by
  cases failure <;> simp only [OpenProtocol.rejectOpenFailure, List.append_assoc]
  · exact neat_sendPolicyDenied ((h _).remove hfit (neat_nil _)) _
  · exact neat_sendResourceLimit ((h _).remove hfit (neat_nil _)) _
  · exact neat_sendError ((h _).remove hfit (neat_nil _)) _ _
  · exact neat_sendError ((h _).remove hfit (neat_nil _)) _ _

theorem validateOpenRequest_neat (h : protocol.Closes)
    (hfree : frame.header.id ≠ 0 → frame.header.id ≤ Varint.maxVarint →
      Fit frame.header.id ∧ table.lookup frame.header.id = none)
    (hvalid : protocol.validateOpenRequest frame = .error script) : Neat Fit table script := by
  simp only [OpenProtocol.validateOpenRequest] at hvalid
  split at hvalid
  · cases hvalid
    exact neat_sendError (neat_fail _ _) _ _
  · rename_i hzero
    split at hvalid
    · cases hvalid
      exact neat_sendError ((h _).free (hfree hzero)) _ _
    · split at hvalid
      · cases hvalid
        exact neat_sendError ((h _).free (hfree hzero)) _ _
      · split at hvalid
        · cases hvalid
          exact neat_sendError ((h _).free (hfree hzero)) _ _
        · cases hvalid

theorem validateOpenRequest_ok (h : protocol.validateOpenRequest frame = .ok target) :
    isClientInitiatedFlowId frame.header.id = true := by
  simp only [OpenProtocol.validateOpenRequest] at h
  split at h
  · cases h
  · split at h
    · cases h
    · simp_all

theorem handleOpenFrame_neat (h : protocol.Closes)
    {check : Nat → FlowTable → Except OpenSlotRejection Unit} (hcheck : CheckSound check)
    (hfit : ∀ flowId, flowId ≠ 0 → Fit flowId) (context : RelayContext) (env : HandlerEnv)
    (hreserved : ReservedFree s.targetWriters frame.header.id) :
    NeatHandled Fit (protocol.handleOpenFrame check context env frame s) := by
  simp only [OpenProtocol.handleOpenFrame]
  split
  · rename_i hdup
    have hzero := client_ne_zero (hcheck.error hdup).1
    exact (h _).error_remove s.targetWriters (hfit _ hzero) _
  · rename_i hlimit
    obtain ⟨hclient, hnone⟩ := hcheck.error hlimit
    exact neat_sendResourceLimit
      ((h _).free fun _ => ⟨hfit _ (client_ne_zero hclient), hnone rfl⟩) _
  · rename_i hok
    have hfree (hzero : frame.header.id ≠ 0) (hle : frame.header.id ≤ Varint.maxVarint) :
        Fit frame.header.id ∧ s.targetWriters.lookup frame.header.id = none := by
      refine ⟨hfit _ hzero, ?_⟩
      cases hclient : isClientInitiatedFlowId frame.header.id with
      | true => exact hcheck.ok hok hclient
      | false => exact hreserved hzero hclient hle
    simp only [OpenProtocol.admitOpen]
    split
    · rename_i hvalid
      exact validateOpenRequest_neat h hfree hvalid
    · rename_i hvalid
      have hzero := client_ne_zero (validateOpenRequest_ok hvalid)
      split
      · exact rejectOpenFailure_neat h (hfree hzero) .policyDenied
      · split
        · exact neat_sendResourceLimit ((h _).free (hfree hzero)) _
        · trivial

end

section

variable (hfit : ∀ flowId, flowId ≠ 0 → Fit flowId)
include hfit

theorem handleTcpDataFrame_neat (context : RelayContext) (env : HandlerEnv)
    (hreserved : ReservedFree s.targetWriters frame.header.id) :
    NeatHandled Fit (handleTcpDataFrame context env frame s) := by
  simp only [handleTcpDataFrame]
  split
  · rename_i hvalid
    exact rejectInvalidFlowId_neat (sendTcpClose_closes _) hfit hvalid hreserved _
  · rename_i hvalid
    have hid := hfit _ (client_ne_zero (validateClientRelayFlowId_ok hvalid))
    split
    · exact neat_sendError_alone _ _ _
    · exact (sendTcpClose_closes _).error_remove s.targetWriters hid _
    · exact (sendUdpClose_closes _).error_remove s.targetWriters hid _
    · exact (sendUdpClose_closes _).error_remove s.targetWriters hid _
    · split
      · trivial
      · unfold forwardTcpDataFrame
        split
        · exact neat_sendError_alone _ _ _
        · split
          · trivial
          · trivial
          · simp only [NeatHandled, List.append_assoc]
            exact neat_sendResourceLimit ((sendTcpClose_closes _).remove hid (neat_nil _)) _

theorem handleTcpCloseFrame_neat (context : RelayContext)
    (hreserved : ReservedFree s.targetWriters frame.header.id) :
    NeatHandled Fit (handleTcpCloseFrame context frame s) := by
  simp only [handleTcpCloseFrame]
  split
  · rename_i hvalid
    exact rejectInvalidFlowId_neat (sendTcpClose_closes _) hfit hvalid hreserved _
  · rename_i hvalid
    have hid := hfit _ (client_ne_zero (validateClientRelayFlowId_ok hvalid))
    split
    · exact neat_sendError (neat_fail _ _) _ _
    · split
      · trivial
      · split <;> trivial
      · exact (sendUdpClose_closes _).error_remove s.targetWriters hid _
      · exact (sendUdpClose_closes _).error_remove s.targetWriters hid _
      · trivial

theorem handleUdpDataFrame_neat (env : HandlerEnv)
    (hreserved : ReservedFree s.targetWriters frame.header.id) :
    NeatHandled Fit (handleUdpDataFrame env frame s) := by
  simp only [handleUdpDataFrame]
  split
  · rename_i hvalid
    exact rejectInvalidFlowId_neat (sendUdpClose_closes _) hfit hvalid hreserved _
  · rename_i hvalid
    have hid := hfit _ (client_ne_zero (validateClientRelayFlowId_ok hvalid))
    split
    · exact neat_sendError_alone _ _ _
    · exact (sendTcpClose_closes _).error_remove s.targetWriters hid _
    · exact (sendTcpClose_closes _).error_remove s.targetWriters hid _
    · exact (sendUdpClose_closes _).error_remove s.targetWriters hid _
    · unfold forwardUdpDataFrame
      split
      · exact neat_sendError_alone _ _ _
      · simp only [NeatHandled]
        split
        · trivial
        · exact (sendUdpClose_closes _).error_remove _ hid _

theorem handleUdpCloseFrame_neat (hreserved : ReservedFree s.targetWriters frame.header.id) :
    NeatHandled Fit (handleUdpCloseFrame frame s) := by
  simp only [handleUdpCloseFrame]
  split
  · rename_i hvalid
    exact rejectInvalidFlowId_neat (sendUdpClose_closes _) hfit hvalid hreserved _
  · rename_i hvalid
    have hid := hfit _ (client_ne_zero (validateClientRelayFlowId_ok hvalid))
    split
    · exact neat_sendError (neat_fail _ _) _ _
    · split
      · trivial
      · trivial
      · exact (sendTcpClose_closes _).error_remove s.targetWriters hid _
      · exact (sendTcpClose_closes _).error_remove s.targetWriters hid _
      · trivial

theorem handleClientFlowStatusFrame_neat (context : RelayContext)
    (hreserved : ReservedFree s.targetWriters frame.header.id) :
    NeatHandled Fit (handleClientFlowStatusFrame context frame s) := by
  simp only [handleClientFlowStatusFrame]
  split
  · split <;> exact neat_fail _ _
  · split
    · rename_i hvalid
      exact rejectInvalidFlowId_neat (sendTcpClose_closes _) hfit hvalid hreserved _
    · split
      · exact neat_sendError (neat_fail _ _) _ _
      · trivial

end

theorem validateOrReportSessionControlFrame_neat (frame : Frame) (expectedType : FrameType)
    (hnext : NeatHandled Fit next) (s : Session) :
    NeatHandled Fit (validateOrReportSessionControlFrame frame expectedType next s) := by
  unfold validateOrReportSessionControlFrame
  split
  · exact neat_sendError (neat_fail _ _) _ _
  · exact hnext

theorem handleSettingsFrame_neat (frame : Frame) (s : Session) :
    NeatHandled Fit (handleSettingsFrame frame s) := by
  unfold handleSettingsFrame
  split
  · exact neat_sendError (neat_fail _ _) _ _
  · split
    · exact neat_sendError (neat_fail _ _) _ _
    · split
      · exact neat_sendError (neat_fail _ _) _ _
      · trivial

theorem writePong_neat (frame : Frame) (s : Session) :
    NeatHandled Fit (s, writePong frame) := by
  simp only [NeatHandled, writePong]
  rw [← List.append_nil (sendFrame _)]
  refine neat_plain ?_ (neat_nil _)
  intro pong hpong
  simp [isData, isClose, (frame_new_ok hpong).1]

def isOpen (frame : Frame) : Bool :=
  frame.header.frameType == .tcpOpen || frame.header.frameType == .udpOpen

def isRelay (frame : Frame) : Bool :=
  match frame.header.frameType with
  | .tcpOpen | .tcpData | .tcpClose | .udpOpen | .udpData | .udpClose => true
  | .error | .policyDenied | .resourceLimit => true
  | .authChallenge | .authResponse | .settings | .ping | .pong => false

theorem handleSessionFrame_neat (hfit : ∀ flowId, flowId ≠ 0 → Fit flowId)
    (context : RelayContext) (env : HandlerEnv)
    (hreserved : isRelay frame = true → ReservedFree s.targetWriters frame.header.id)
    (hdraining : s.state = .draining → isOpen frame = true →
      frame.header.id ≤ Varint.maxVarint →
        Fit frame.header.id ∧ s.targetWriters.lookup frame.header.id = none) :
    NeatHandled Fit (handleSessionFrame context env frame s) := by
  unfold handleSessionFrame
  unfold isRelay at hreserved
  split <;> rename_i htype <;> simp only [htype, forall_const, reduceCtorEq] at hreserved
  · split
    · rename_i hstate
      exact neat_sendResourceLimit ((sendTcpClose_closes _).free
        (hdraining hstate (by simp [isOpen, htype]))) _
    · exact handleOpenFrame_neat tcpProtocol_closes (checkOpenSlot_sound _) hfit _ _ hreserved
  · split
    · rename_i hstate
      exact neat_sendResourceLimit ((sendUdpClose_closes _).free
        (hdraining hstate (by simp [isOpen, htype]))) _
    · exact handleOpenFrame_neat udpProtocol_closes (checkUdpOpenSlot_sound _ _) hfit _ _
        hreserved
  · exact handleTcpDataFrame_neat hfit _ _ hreserved
  · exact handleTcpCloseFrame_neat hfit _ hreserved
  · exact handleUdpDataFrame_neat hfit _ hreserved
  · exact handleUdpCloseFrame_neat hfit hreserved
  · exact validateOrReportSessionControlFrame_neat _ _ (handleSettingsFrame_neat _ _) _
  · exact handleClientFlowStatusFrame_neat hfit _ hreserved
  · exact handleClientFlowStatusFrame_neat hfit _ hreserved
  · exact handleClientFlowStatusFrame_neat hfit _ hreserved
  · exact validateOrReportSessionControlFrame_neat _ _ (writePong_neat _ _) _
  · refine validateOrReportSessionControlFrame_neat _ _ ?_ _
    trivial
  · exact neat_sendError (neat_fail _ _) _ _
  · exact neat_sendError (neat_fail _ _) _ _

end UncrownedKing.Relay
