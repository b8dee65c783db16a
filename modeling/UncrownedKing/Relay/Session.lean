import UncrownedKing.Lib.Table
import UncrownedKing.Proto.RelayPayload
import UncrownedKing.Proto.Settings
import UncrownedKing.Relay.Upload
import UncrownedKing.Server.Connection
import UncrownedKing.Server.Dialer
import UncrownedKing.Server.Runtime

/-!
# A relay session's handlers

A handler is a function to the session it leaves behind when it first waits and
the script of what is left to do; nothing it decides depends on what happens
while it waits.
-/

namespace UncrownedKing.Relay

open Lib Net Proto Auth Server

inductive ServerSessionState
  | authenticated
  | relaying
  | draining
  | closing
  | closed
  deriving DecidableEq, Repr

inductive HalfCloseSide
  | targetToClient
  | clientToTarget
  deriving DecidableEq, Repr

structure OpenFlowCancel where
  token : FlowToken
  permit : Option Nat
  deriving DecidableEq, Repr

structure UdpTargetFlow where
  token : FlowToken
  lastActivity : Instant
  flowPermit : Option Nat
  origin : FlowToken
  socket : Socket
  deriving DecidableEq, Repr

inductive FlowSlot
  | openingTcp (cancel : OpenFlowCancel)
  | openingUdp (cancel : OpenFlowCancel)
  | tcp (flow : TargetFlow)
  | udp (flow : UdpTargetFlow)
  deriving DecidableEq, Repr

namespace FlowSlot

def token : FlowSlot → FlowToken
  | openingTcp cancel | openingUdp cancel => cancel.token
  | tcp flow => flow.token
  | udp flow => flow.token

def origin : FlowSlot → FlowToken
  | openingTcp cancel | openingUdp cancel => cancel.token
  | tcp flow => flow.origin
  | udp flow => flow.origin

def permit : FlowSlot → Option Nat
  | openingTcp cancel | openingUdp cancel => cancel.permit
  | tcp flow => flow.flowPermit
  | udp flow => flow.flowPermit

def isUdp : FlowSlot → Bool
  | openingTcp _ | tcp _ => false
  | openingUdp _ | udp _ => true

end FlowSlot

abbrev FlowTable := AList fun _ : Nat => FlowSlot

def udpFlowCount (targetWriters : FlowTable) : Nat :=
  targetWriters.entries.countP (·.2.isUdp)

inductive FlowEvent
  | openCompleted (flowId : Nat) (token : FlowToken) (target : Target)
      (result : Except OpenFailure Socket)
  | udpOpenCompleted (flowId : Nat) (token : FlowToken) (target : Target)
      (result : Except OpenFailure Socket)
  | readClosed (flowId : Nat) (token : FlowToken)
  | udpReadClosed (flowId : Nat) (token : FlowToken)
  | udpActivity (flowId : Nat)
  | inboundDatagram (flowId : Nat) (payload : Bytes)
  | halfCloseDrainExpired (flowId : Nat) (token : FlowToken) (closedSide : HalfCloseSide)
  | writeClosed (flowId : Nat) (token : FlowToken)
  | activity

inductive TaskKind
  | tcpOpen (target : Target)
  | udpOpen (target : Target)
  | targetReader
  | udpReader
  | targetWriter
  | halfCloseTimer (closedSide : HalfCloseSide)
  deriving DecidableEq, Repr

/-- `sending` has a frame to write for its flow, `reporting` has aborted it and has frames left,
`ending` has its event to send. -/
inductive TaskStage
  | dialing
  | dialed (result : Except OpenFailure Socket)
  | reading
  | sending (frame : Frame)
  | relaying (writer : WriterStage)
  | sleeping
  | reporting (frames : List Frame)
  | ending (event : FlowEvent)
  | done

/-- `origin` is the token of the open the task goes back to. -/
structure Task where
  kind : TaskKind
  flowId : Nat
  token : FlowToken
  origin : FlowToken
  permit : Option Nat
  stage : TaskStage

structure Established where
  udp : Bool
  flowId : Nat
  token : FlowToken
  origin : FlowToken
  permit : Option Nat
  socket : Socket
  deriving DecidableEq, Repr

/-- A failed `write` stops the session unless it is only logged; `writeFlow` is
`write_flow_frame_locked`. -/
inductive Instr
  | write (frame : Frame) (logged : Bool)
  | writeFlow (frame : Frame) (token : FlowToken)
  | remove (flowId : Nat)
  | establish (flow : Established)
  | fail (error : AnyError)
  deriving DecidableEq, Repr

abbrev Script := List Instr

structure RelayLimits where
  maxStreams : Nat
  maxUdpFlows : Nat
  maxBufferedBytesPerFlow : Nat
  dataFrameSize : Nat
  tcpHalfCloseTimeout : Option Duration
  udpFlowIdleTimeout : Option Duration
  deriving DecidableEq, Repr

structure RelayContext where
  identity : AuthenticatedIdentity
  limits : RelayLimits

variable (context : RelayContext)

def RelayContext.capacity : Nat :=
  targetWriteQueueCapacity context.limits.maxBufferedBytesPerFlow

/-- `links` and `cancelled` are shared with the tasks, by token; `owner`, which says what a token
was for, is not part of the code. -/
structure Session where
  state : ServerSessionState
  clientSettingsReceived : Bool
  targetWriters : FlowTable
  flowTokens : FlowToken
  links : FlowToken → TargetLink
  cancelled : FlowToken → Bool
  tasks : List Task
  owner : FlowToken → FlowToken × Nat

def Session.start : Session where
  state := .relaying
  clientSettingsReceived := false
  targetWriters := ∅
  flowTokens := 1
  links := fun _ => .new
  cancelled := fun _ => false
  tasks := []
  owner := fun _ => (0, 0)

structure HandlerEnv where
  now : Instant
  unixNow : UInt64
  security : SecurityState
  permit : Option Nat
  reserved : Bool
  udpSend : Except Bool Nat

/-- `udpSend` fails with whether the socket would block. -/
def HandlerEnv.wouldBlock (env : HandlerEnv) : Bool :=
  match env.udpSend with
  | .ok _ => true
  | .error wouldBlock => wouldBlock

/-- The credential must still be the identity's and active. -/
def policySnapshot (security : SecurityState) (identity : AuthenticatedIdentity)
    (now : UInt64) : Option SecurityGeneration :=
  if security.current.credentials.any fun credential =>
      credential.keyId = identity.keyId && credential.policyGroup = identity.policyGroup &&
        credential.isActiveAt now
  then some security.current
  else none

def sendFrame (frame : ProtocolResult Frame) : Script :=
  match frame with
  | .ok frame => [.write frame false]
  | .error error => [.fail (.protocol error)]

def sendFrameOrLog (frame : ProtocolResult Frame) : Script :=
  match frame with
  | .ok frame => [.write frame true]
  | .error _ => []

def statusFrame (frameType : FrameType) (flowId : Nat) (code : ErrorCode) :
    ProtocolResult Frame := do
  let payload ← code.encodePayload
  Frame.new frameType 0 flowId payload

def tcpCloseFrame (flowId : Nat) (closeCode : UInt16) : ProtocolResult Frame := do
  let payload ← TcpClose.encode closeCode
  Frame.new .tcpClose 0 flowId payload

def udpCloseFrame (flowId : Nat) (closeCode : UInt16) : ProtocolResult Frame := do
  let payload ← UdpClose.encode closeCode
  Frame.new .udpClose 0 flowId payload

def sendError (flowId : Nat) (code : ErrorCode) : Script :=
  sendFrame (statusFrame .error flowId code)

def sendPolicyDenied (flowId : Nat) : Script :=
  sendFrame (statusFrame .policyDenied flowId .policyDenied)

def sendResourceLimit (flowId : Nat) : Script :=
  sendFrame (statusFrame .resourceLimit flowId .resourceLimit)

def sendTcpClose (flowId : Nat) (closeCode : UInt16) : Script :=
  sendFrame (tcpCloseFrame flowId closeCode)

def sendUdpClose (flowId : Nat) (closeCode : UInt16) : Script :=
  sendFrame (udpCloseFrame flowId closeCode)

def sendOpened (frameType : FrameType) (flowId : Nat) (token : FlowToken) : Script :=
  match Frame.new frameType 0 flowId [] with
  | .ok frame => [.writeFlow frame token]
  | .error error => [.fail (.protocol error)]

namespace Session

def setTcp (s : Session) (flowId : Nat) (flow : TargetFlow) (link : TargetLink) : Session :=
  { s with
    targetWriters := s.targetWriters.insert flowId (.tcp flow)
    links := Function.update s.links flow.token link }

def setUdp (s : Session) (flowId : Nat) (flow : UdpTargetFlow) : Session :=
  { s with targetWriters := s.targetWriters.insert flowId (.udp flow) }

def abortLink (s : Session) (token : FlowToken) : Session :=
  { s with links := Function.update s.links token (s.links token).abort }

/-- An open is cancelled by whoever removes it. -/
def dropSlot (s : Session) : FlowSlot → Session
  | .openingTcp cancel | .openingUdp cancel =>
    { s with cancelled := Function.update s.cancelled cancel.token true }
  | .tcp flow =>
    { s with links := Function.update s.links flow.token (flow.drop (s.links flow.token)) }
  | .udp flow => s.abortLink flow.token

def removeFlowSlot (s : Session) (flowId : Nat) : Session :=
  match s.targetWriters.lookup flowId with
  | none => s
  | some slot => { s.dropSlot slot with targetWriters := s.targetWriters.erase flowId }

def spawn (s : Session) (tasks : List Task) : Session := { s with tasks := s.tasks ++ tasks }

def allocate (s : Session) (origin : FlowToken) (flowId : Nat) : Session :=
  { s with
    flowTokens := s.flowTokens + 1
    owner := Function.update s.owner s.flowTokens (origin, flowId) }

/-- A timer that is replaced is aborted, which does not stop one already firing. -/
def startHalfCloseTimer (s : Session) (flowId : Nat) (flow : TargetFlow)
    (closedSide : HalfCloseSide) (link : TargetLink) : Session :=
  (s.setTcp flowId { flow with halfCloseTimer := some s.tasks.length } link).spawn
    [⟨.halfCloseTimer closedSide, flowId, flow.token, flow.origin, none, .sleeping⟩]

def openSlot (s : Session) (udp : Bool) (flowId : Nat) (target : Target) (permit : Nat) :
    Session :=
  let token := s.flowTokens
  let cancel : OpenFlowCancel := ⟨token, some permit⟩
  let slot := if udp then FlowSlot.openingUdp cancel else .openingTcp cancel
  let kind := if udp then TaskKind.udpOpen target else .tcpOpen target
  let s := s.allocate token flowId
  { s with
    targetWriters := s.targetWriters.insert flowId slot
    cancelled := Function.update s.cancelled token false
    tasks := s.tasks ++ [⟨kind, flowId, token, token, some permit, .dialing⟩] }

end Session

abbrev Handled := Session × Script

inductive FlowIdRejection
  | zero
  | reserved
  deriving DecidableEq, Repr

def validateClientRelayFlowId (flowId : Nat) : Except FlowIdRejection Unit :=
  if flowId = 0 then .error .zero
  else if !isClientInitiatedFlowId flowId then .error .reserved
  else .ok ()

def rejectInvalidFlowId (sendClose : Nat → Script) (flowId : Nat) (rejection : FlowIdRejection)
    (zeroIdError : String) : Script :=
  sendError flowId .protocol ++
    match rejection with
    | .zero => [.fail (.text zeroIdError)]
    | .reserved => sendClose flowId

def rejectInvalidClientRelayFlowId : Nat → FlowIdRejection → String → Script :=
  rejectInvalidFlowId (sendTcpClose · tcpCloseError)

def rejectInvalidUdpRelayFlowId : Nat → FlowIdRejection → String → Script :=
  rejectInvalidFlowId (sendUdpClose · udpCloseError)

inductive OpenSlotRejection
  | duplicateFlowId
  | resourceLimit
  deriving DecidableEq, Repr

def checkOpenSlot (flowId : Nat) (targetWriters : FlowTable) (maxStreams : Nat) :
    Except OpenSlotRejection Unit :=
  if !isClientInitiatedFlowId flowId then .ok ()
  else if (targetWriters.lookup flowId).isSome then .error .duplicateFlowId
  else if targetWriters.entries.length ≥ maxStreams then .error .resourceLimit
  else .ok ()

def checkUdpOpenSlot (flowId : Nat) (targetWriters : FlowTable) (maxStreams maxUdpFlows : Nat) :
    Except OpenSlotRejection Unit :=
  match checkOpenSlot flowId targetWriters maxStreams with
  | .error rejection => .error rejection
  | .ok _ =>
    if isClientInitiatedFlowId flowId && udpFlowCount targetWriters ≥ maxUdpFlows then
      .error .resourceLimit
    else .ok ()

structure OpenProtocol where
  udp : Bool
  sendClose : Nat → UInt16 → Script
  decode : Bytes → ProtocolResult (Target × UInt16)
  zeroIdError : String

def tcpProtocol : OpenProtocol where
  udp := false
  sendClose := sendTcpClose
  decode := fun payload => (TcpOpen.decode payload).map fun open' => (open'.target, open'.openFlags)
  zeroIdError := "tcp flow id must be non-zero"

def udpProtocol : OpenProtocol where
  udp := true
  sendClose := sendUdpClose
  decode := fun payload => (UdpOpen.decode payload).map fun target => (target, tcpOpenFlagsNone)
  zeroIdError := "udp flow id must be non-zero"

def closeNormal : UInt16 := 0
def closeError : UInt16 := 1

def OpenProtocol.rejectOpenFailure (protocol : OpenProtocol) (flowId : Nat) :
    OpenFailure → Script
  | .policyDenied => sendPolicyDenied flowId ++ protocol.sendClose flowId closeNormal
  | .resourceLimit => sendResourceLimit flowId ++ protocol.sendClose flowId closeError
  | .targetUnavailable _ =>
    sendError flowId .targetUnavailable ++ protocol.sendClose flowId closeError
  | .targetTimeout => sendError flowId .targetTimeout ++ protocol.sendClose flowId closeError

def OpenProtocol.validateOpenRequest (protocol : OpenProtocol) (frame : Frame) :
    Except Script Target :=
  let flowId := frame.header.id
  if flowId = 0 then
    .error (sendError flowId .protocol ++ [.fail (.text protocol.zeroIdError)])
  else if !isClientInitiatedFlowId flowId then
    .error (sendError flowId .protocol ++ protocol.sendClose flowId closeError)
  else
    match protocol.decode frame.payload with
    | .error error =>
      .error (sendError flowId (.fromProtocolError error) ++ protocol.sendClose flowId closeError)
    | .ok (target, openFlags) =>
      if openFlags ≠ tcpOpenFlagsNone then
        .error (sendError flowId .protocol ++ protocol.sendClose flowId closeError)
      else .ok target

def OpenProtocol.admitOpen (protocol : OpenProtocol) (context : RelayContext) (env : HandlerEnv)
    (frame : Frame) (s : Session) : Handled :=
  let flowId := frame.header.id
  match protocol.validateOpenRequest frame with
  | .error script => (s, script)
  | .ok target =>
    match policySnapshot env.security context.identity env.unixNow with
    | none => (s, protocol.rejectOpenFailure flowId .policyDenied)
    | some _ =>
      match env.permit with
      | none => (s, sendResourceLimit flowId ++ protocol.sendClose flowId closeError)
      | some permit => (s.openSlot protocol.udp flowId target permit, [])

def OpenProtocol.handleOpenFrame (protocol : OpenProtocol)
    (check : Nat → FlowTable → Except OpenSlotRejection Unit) (context : RelayContext)
    (env : HandlerEnv) (frame : Frame) (s : Session) : Handled :=
  let flowId := frame.header.id
  match check flowId s.targetWriters with
  | .error .duplicateFlowId =>
    (s, sendError flowId .protocol ++ protocol.sendClose flowId closeError ++ [.remove flowId])
  | .error .resourceLimit =>
    (s, sendResourceLimit flowId ++ protocol.sendClose flowId closeError)
  | .ok _ => protocol.admitOpen context env frame s

def handleTcpOpenFrame : HandlerEnv → Frame → Session → Handled :=
  tcpProtocol.handleOpenFrame
    (fun flowId table => checkOpenSlot flowId table context.limits.maxStreams) context

def handleUdpOpenFrame : HandlerEnv → Frame → Session → Handled :=
  udpProtocol.handleOpenFrame
    (fun flowId table =>
      checkUdpOpenSlot flowId table context.limits.maxStreams context.limits.maxUdpFlows) context

def openTargetFlow (targetWriters : FlowTable) (flowId : Nat) : Option TargetFlow :=
  match targetWriters.lookup flowId with
  | some (.tcp flow) => some flow
  | _ => none

def udpTargetFlow (targetWriters : FlowTable) (flowId : Nat) : Option UdpTargetFlow :=
  match targetWriters.lookup flowId with
  | some (.udp flow) => some flow
  | _ => none

def forwardTcpDataFrame (env : HandlerEnv) (flowId : Nat)
    (payload : Bytes) (s : Session) : Handled :=
  match openTargetFlow s.targetWriters flowId with
  | none => (s, sendError flowId .protocol)
  | some flow =>
    match (s.links flow.token).enqueueData context.capacity payload env.reserved with
    | (.ok _, link) => (s.setTcp flowId flow link, [])
    | (.error .closed, link) =>
      let (flow, link) := flow.markClientToTargetClosed link
      let s := s.setTcp flowId flow link
      (if flow.isRemovable then s.removeFlowSlot flowId else s, [])
    | (.error .resourceLimit, link) =>
      let (flow, link) := flow.abort context.capacity link
      (s.setTcp flowId flow link,
        sendResourceLimit flowId ++ sendTcpClose flowId tcpCloseError ++ [.remove flowId])

def handleTcpDataFrame (env : HandlerEnv) (frame : Frame) (s : Session) : Handled :=
  let flowId := frame.header.id
  match validateClientRelayFlowId flowId with
  | .error rejection =>
    (s, rejectInvalidClientRelayFlowId flowId rejection "tcp data flow id must be non-zero")
  | .ok _ =>
    match s.targetWriters.lookup flowId with
    | none => (s, sendError flowId .protocol)
    | some (.openingTcp _) =>
      (s, sendError flowId .protocol ++ sendTcpClose flowId tcpCloseError ++ [.remove flowId])
    | some (.openingUdp _) | some (.udp _) =>
      (s, sendError flowId .protocol ++ sendUdpClose flowId udpCloseError ++ [.remove flowId])
    | some (.tcp _) =>
      if frame.payload.isEmpty then (s, [])
      else forwardTcpDataFrame context env flowId frame.payload s

def shouldStartHalfCloseDrain (flow : TargetFlow) : Bool :=
  flow.clientToTargetOpen && flow.targetToClientOpen

def halfCloseTcp (flowId : Nat) (flow : TargetFlow) (s : Session) : Session :=
  let (closed, link) := flow.closeClientToTarget context.capacity (s.links flow.token)
  if closed.targetToClientOpen then
    if shouldStartHalfCloseDrain flow && context.limits.tcpHalfCloseTimeout.isSome then
      s.startHalfCloseTimer flowId closed .clientToTarget link
    else s.setTcp flowId closed link
  else
    let closed := { closed with halfCloseTimer := none }
    let s := s.setTcp flowId closed link
    if closed.isRemovable then s.removeFlowSlot flowId else s

def handleTcpCloseFrame (frame : Frame) (s : Session) : Handled :=
  let flowId := frame.header.id
  match validateClientRelayFlowId flowId with
  | .error rejection =>
    (s, rejectInvalidClientRelayFlowId flowId rejection "tcp close flow id must be non-zero")
  | .ok _ =>
    match TcpClose.decode frame.payload with
    | .error error => (s, sendError flowId .protocol ++ [.fail (.protocol error)])
    | .ok closeCode =>
      match s.targetWriters.lookup flowId with
      | some (.openingTcp _) => (s.removeFlowSlot flowId, [])
      | some (.tcp flow) =>
        if closeCode = tcpCloseNormal then (halfCloseTcp context flowId flow s, [])
        else
          let (flow, link) := flow.abort context.capacity (s.links flow.token)
          ((s.setTcp flowId flow link).removeFlowSlot flowId, [])
      | some (.openingUdp _) | some (.udp _) =>
        (s, sendError flowId .protocol ++ sendUdpClose flowId udpCloseError ++ [.remove flowId])
      | none => (s, [])

def forwardUdpDataFrame (env : HandlerEnv) (flowId : Nat) (s : Session) : Handled :=
  match udpTargetFlow s.targetWriters flowId with
  | none => (s, sendError flowId .protocol)
  | some flow =>
    (s.setUdp flowId { flow with lastActivity := env.now },
      if env.wouldBlock then []
      else sendError flowId .targetUnavailable ++ sendUdpClose flowId udpCloseError ++
        [.remove flowId])

def handleUdpDataFrame (env : HandlerEnv) (frame : Frame) (s : Session) : Handled :=
  let flowId := frame.header.id
  match validateClientRelayFlowId flowId with
  | .error rejection =>
    (s, rejectInvalidUdpRelayFlowId flowId rejection "udp data flow id must be non-zero")
  | .ok _ =>
    match s.targetWriters.lookup flowId with
    | none => (s, sendError flowId .protocol)
    | some (.openingTcp _) | some (.tcp _) =>
      (s, sendError flowId .protocol ++ sendTcpClose flowId tcpCloseError ++ [.remove flowId])
    | some (.openingUdp _) =>
      (s, sendError flowId .protocol ++ sendUdpClose flowId udpCloseError ++ [.remove flowId])
    | some (.udp _) => forwardUdpDataFrame env flowId s

def handleUdpCloseFrame (frame : Frame) (s : Session) : Handled :=
  let flowId := frame.header.id
  match validateClientRelayFlowId flowId with
  | .error rejection =>
    (s, rejectInvalidUdpRelayFlowId flowId rejection "udp close flow id must be non-zero")
  | .ok _ =>
    match UdpClose.decode frame.payload with
    | .error error => (s, sendError flowId .protocol ++ [.fail (.protocol error)])
    | .ok closeCode =>
      match s.targetWriters.lookup flowId with
      | some (.openingUdp _) => (s.removeFlowSlot flowId, [])
      | some (.udp flow) =>
        let s := if closeCode ≠ udpCloseNormal then s.abortLink flow.token else s
        (s.removeFlowSlot flowId, [])
      | some (.openingTcp _) | some (.tcp _) =>
        (s, sendError flowId .protocol ++ sendTcpClose flowId tcpCloseError ++ [.remove flowId])
      | none => (s, [])

def validateClientFlowStatusPayload (frameType : FrameType) (payload : Bytes) :
    Except AnyError Unit :=
  match ErrorCode.decodePayload payload with
  | .error error => .error (.protocol error)
  | .ok code =>
    match frameType with
    | .error => .ok ()
    | .policyDenied =>
      if code = .policyDenied then .ok () else .error (.text "unexpected client flow status code")
    | .resourceLimit =>
      if code = .resourceLimit then .ok () else .error (.text "unexpected client flow status code")
    | _ => .error (.text "unexpected client flow status frame")

def abortClientFlow (flowId : Nat) (s : Session) : Session :=
  match s.targetWriters.lookup flowId with
  | some (.tcp flow) =>
    let (flow, link) := flow.abort context.capacity (s.links flow.token)
    (s.setTcp flowId flow link).removeFlowSlot flowId
  | some (.udp flow) => (s.abortLink flow.token).removeFlowSlot flowId
  | _ => s.removeFlowSlot flowId

def handleClientFlowStatusFrame (frame : Frame) (s : Session) : Handled :=
  let flowId := frame.header.id
  let status := validateClientFlowStatusPayload frame.header.frameType frame.payload
  if flowId = 0 ∧ frame.header.frameType = .error then
    match status with
    | .error error => (s, [.fail error])
    | .ok _ => (s, [.fail (.text "connection error from client")])
  else
    match validateClientRelayFlowId flowId with
    | .error rejection =>
      (s, rejectInvalidClientRelayFlowId flowId rejection "flow status id must be non-zero")
    | .ok _ =>
      match status with
      | .error error => (s, sendError flowId .protocol ++ [.fail error])
      | .ok _ => (abortClientFlow context flowId s, [])

def validateOrReportSessionControlFrame (frame : Frame) (expectedType : FrameType)
    (next : Handled) (s : Session) : Handled :=
  match validateConnectionFrame frame expectedType with
  | .error error => (s, sendError 0 .protocol ++ [.fail (.protocol error)])
  | .ok _ => next

def handleSettingsFrame (frame : Frame) (s : Session) : Handled :=
  if s.clientSettingsReceived then
    (s, sendError 0 .protocol ++ [.fail (.text "duplicate client settings frame")])
  else if !s.targetWriters.entries.isEmpty then
    (s, sendError 0 .protocol ++
      [.fail (.text "client settings arrived after relay flows started")])
  else
    match Settings.decode frame.payload >>= Settings.negotiated with
    | .error error => (s, sendError 0 .protocol ++ [.fail (.protocol error)])
    | .ok _ => ({ s with clientSettingsReceived := true }, [])

def writePong (frame : Frame) : Script :=
  sendFrame (Frame.new .pong 0 frame.header.id frame.payload)

def rejectUnexpectedSessionFrame (frame : Frame) : Script :=
  sendError frame.header.id .protocol ++ [.fail (.text "unexpected frame while relaying session")]

/-- While draining, opens are refused before anything else is looked at. -/
def handleSessionFrame (env : HandlerEnv) (frame : Frame) (s : Session) : Handled :=
  let flowId := frame.header.id
  match frame.header.frameType with
  | .tcpOpen =>
    if s.state = .draining then
      (s, sendResourceLimit flowId ++ sendTcpClose flowId tcpCloseError)
    else handleTcpOpenFrame context env frame s
  | .udpOpen =>
    if s.state = .draining then
      (s, sendResourceLimit flowId ++ sendUdpClose flowId udpCloseError)
    else handleUdpOpenFrame context env frame s
  | .tcpData => handleTcpDataFrame context env frame s
  | .tcpClose => handleTcpCloseFrame context frame s
  | .udpData => handleUdpDataFrame env frame s
  | .udpClose => handleUdpCloseFrame frame s
  | .settings =>
    validateOrReportSessionControlFrame frame .settings (handleSettingsFrame frame s) s
  | .error | .policyDenied | .resourceLimit => handleClientFlowStatusFrame context frame s
  | .ping => validateOrReportSessionControlFrame frame .ping (s, writePong frame) s
  | .pong => validateOrReportSessionControlFrame frame .pong (s, []) s
  | .authChallenge | .authResponse => (s, rejectUnexpectedSessionFrame frame)

def acceptOpen (udp : Bool) (flowId : Nat) (cancel : OpenFlowCancel) (socket : Socket)
    (s : Session) : Handled :=
  let token := s.flowTokens
  let s := s.allocate cancel.token flowId
  ({ s with links := Function.update s.links token .new },
    sendOpened (if udp then .udpData else .tcpData) flowId token ++
      [.establish ⟨udp, flowId, token, cancel.token, cancel.permit, socket⟩])

def handleTcpOpenCompleted (flowId : Nat) (token : FlowToken)
    (result : Except OpenFailure Socket) (s : Session) : Handled :=
  match s.targetWriters.lookup flowId with
  | some (.openingTcp cancel) =>
    if cancel.token = token then
      match result with
      | .ok socket => acceptOpen false flowId cancel socket s
      | .error failure => (s, tcpProtocol.rejectOpenFailure flowId failure ++ [.remove flowId])
    else (s, [])
  | _ => (s, [])

def handleUdpOpenCompleted (flowId : Nat) (token : FlowToken)
    (result : Except OpenFailure Socket) (s : Session) : Handled :=
  match s.targetWriters.lookup flowId with
  | some (.openingUdp cancel) =>
    if cancel.token = token then
      match result with
      | .ok socket => acceptOpen true flowId cancel socket s
      | .error failure => (s, udpProtocol.rejectOpenFailure flowId failure ++ [.remove flowId])
    else (s, [])
  | _ => (s, [])

def handleTargetReadClosed (flowId : Nat) (token : FlowToken) (s : Session) : Session :=
  match openTargetFlow s.targetWriters flowId with
  | none => s
  | some flow =>
    if flow.token ≠ token then s
    else
      let link := s.links flow.token
      if link.aborted then
        let (flow, link) := flow.abort context.capacity link
        (s.setTcp flowId flow link).removeFlowSlot flowId
      else
        let flow := flow.markTargetToClientClosed
        if flow.clientToTargetOpen && context.limits.tcpHalfCloseTimeout.isSome then
          s.startHalfCloseTimer flowId flow .targetToClient link
        else if flow.isRemovable then
          (s.setTcp flowId { flow with halfCloseTimer := none } link).removeFlowSlot flowId
        else s.setTcp flowId flow link

def handleUdpReadClosed (flowId : Nat) (token : FlowToken) (s : Session) : Session :=
  match udpTargetFlow s.targetWriters flowId with
  | none => s
  | some flow => if flow.token = token then s.removeFlowSlot flowId else s

def handleTargetWriteClosed (flowId : Nat) (token : FlowToken) (s : Session) : Session :=
  match openTargetFlow s.targetWriters flowId with
  | none => s
  | some flow =>
    if flow.token ≠ token then s
    else
      let (flow, link) := flow.markTargetWriteClosed (s.links flow.token)
      let (flow, link) := if link.aborted then flow.abort context.capacity link else (flow, link)
      if flow.isRemovable then
        (s.setTcp flowId { flow with halfCloseTimer := none } link).removeFlowSlot flowId
      else s.setTcp flowId flow link

def HalfCloseSide.drains (closedSide : HalfCloseSide) (flow : TargetFlow) : Bool :=
  match closedSide with
  | .targetToClient => !flow.targetToClientOpen && flow.clientToTargetOpen
  | .clientToTarget => !flow.clientToTargetOpen && flow.targetToClientOpen

/-- A failure to tell the client is only logged. -/
def handleHalfCloseDrainExpired (flowId : Nat) (token : FlowToken)
    (closedSide : HalfCloseSide) (s : Session) : Handled :=
  match openTargetFlow s.targetWriters flowId with
  | none => (s, [])
  | some flow =>
    if flow.token ≠ token || !closedSide.drains flow then (s, [])
    else
      let (flow, link) := flow.abort context.capacity (s.links flow.token)
      let tell := match closedSide with
        | .targetToClient => sendFrameOrLog (tcpCloseFrame flowId tcpCloseError)
        | .clientToTarget => sendTcpClose flowId tcpCloseNormal
      (s.setTcp flowId flow link, tell ++ if flow.isRemovable then [.remove flowId] else [])

def recordUdpActivity (now : Instant) (flowId : Nat) (s : Session) : Session :=
  match udpTargetFlow s.targetWriters flowId with
  | none => s
  | some flow => s.setUdp flowId { flow with lastActivity := now }

/-- A datagram counts as activity whatever the socket says to it. -/
def handleFlowEvent (env : HandlerEnv) (event : FlowEvent) (s : Session) : Handled :=
  match event with
  | .openCompleted flowId token _ result => handleTcpOpenCompleted flowId token result s
  | .udpOpenCompleted flowId token _ result => handleUdpOpenCompleted flowId token result s
  | .readClosed flowId token => (handleTargetReadClosed context flowId token s, [])
  | .udpReadClosed flowId token => (handleUdpReadClosed flowId token s, [])
  | .udpActivity flowId => (recordUdpActivity env.now flowId s, [])
  | .inboundDatagram flowId _ => (recordUdpActivity env.now flowId s, [])
  | .halfCloseDrainExpired flowId token closedSide =>
    handleHalfCloseDrainExpired context flowId token closedSide s
  | .writeClosed flowId token => (handleTargetWriteClosed context flowId token s, [])
  | .activity => (s, [])

def FlowSlot.isIdle (now : Instant) (idleTimeout : Duration) : FlowSlot → Bool
  | .udp flow => now - flow.lastActivity ≥ idleTimeout
  | _ => false

/-- The table is gone through in an order of its own. -/
def closeIdleUdpFlows (order : Table.Order Nat FlowSlot) (now : Instant) (s : Session) : Script :=
  match context.limits.udpFlowIdleTimeout with
  | none => []
  | some idleTimeout =>
    let expired := (order.keys s.targetWriters).filter fun flowId =>
      (s.targetWriters.lookup flowId).any (·.isIdle now idleTimeout)
    expired.flatMap fun flowId => sendUdpClose flowId udpCloseNormal ++ [.remove flowId]

def reportFrameIoError (error : FrameIoError) : Script :=
  match error with
  | .protocol error => sendFrameOrLog (statusFrame .error 0 (.fromProtocolError error))
  | .closed | .io _ => []

def closeTargetFlow (s : Session) (slot : FlowSlot) : Session :=
  match slot with
  | .tcp flow =>
    let (flow, link) :=
      flow.markTargetToClientClosed.closeClientToTarget context.capacity (s.links flow.token)
    { s with links := Function.update s.links flow.token (flow.drop link) }
  | slot => s.dropSlot slot

def closeTargetFlows (s : Session) : Session :=
  let closed := s.targetWriters.entries.foldl (fun s entry => closeTargetFlow context s entry.2) s
  { closed with targetWriters := ∅ }

def Established.slot (flow : Established) (now : Instant) : FlowSlot :=
  if flow.udp then .udp ⟨flow.token, now, flow.permit, flow.origin, flow.socket⟩
  else .tcp (.new flow.token flow.permit flow.origin flow.socket)

def Established.tasks (flow : Established) : List Task :=
  if flow.udp then [⟨.udpReader, flow.flowId, flow.token, flow.origin, none, .reading⟩]
  else
    [⟨.targetReader, flow.flowId, flow.token, flow.origin, none, .reading⟩,
      ⟨.targetWriter, flow.flowId, flow.token, flow.origin, none, .relaying .head⟩]

def Session.establish (s : Session) (flow : Established) (now : Instant) : Session :=
  { s with
    targetWriters := s.targetWriters.insert flow.flowId (flow.slot now)
    tasks := s.tasks ++ flow.tasks }

def runScript (now : Instant) : List (Option AnyError) → Script → Session →
    Session × List Frame × Except AnyError Unit
  | _, [], s => (s, [], .ok ())
  | some error :: outcomes, .write _ logged :: rest, s =>
    if logged then runScript now outcomes rest s else (s, [], .error error)
  | outcomes, .write frame _ :: rest, s =>
    let (s, written, result) := runScript now outcomes.tail rest s
    (s, frame :: written, result)
  | some error :: _, .writeFlow _ _ :: _, s => (s, [], .error error)
  | outcomes, .writeFlow frame _ :: rest, s =>
    let (s, written, result) := runScript now outcomes.tail rest s
    (s, frame :: written, result)
  | outcomes, .remove flowId :: rest, s => runScript now outcomes rest (s.removeFlowSlot flowId)
  | outcomes, .establish flow :: rest, s => runScript now outcomes rest (s.establish flow now)
  | _, .fail error :: _, s => (s, [], .error error)

end UncrownedKing.Relay
