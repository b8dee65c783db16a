import UncrownedKing.Proto.RelayPayload

/-!
# A client session's flows

The flow table and the bounded queue of every flow, as the sections under the
flow-table lock see them. A queue is there as long as its receiver is; the bytes
reserved are those of the frames still queued.
-/

namespace UncrownedKing.Client

open Lib Proto

inductive FlowProtocol
  | tcp
  | udp
  deriving DecidableEq, Repr

inductive Reply
  | succeeded
  | generalFailure
  | notAllowed
  | hostUnreachable
  | connectionRefused
  | commandNotSupported
  | addressTypeNotSupported
  deriving DecidableEq, Repr

def FlowProtocol.openFrame (protocol : FlowProtocol) (flowId : Nat) (target : Target) :
    ProtocolResult Frame := do
  match protocol with
  | .tcp => Frame.new .tcpOpen 0 flowId (← TcpOpen.encode ⟨target, tcpOpenFlagsNone⟩)
  | .udp => Frame.new .udpOpen 0 flowId (← UdpOpen.encode target)

def FlowProtocol.closeFrame (protocol : FlowProtocol) (flowId : Nat) (closeCode : UInt16) :
    ProtocolResult Frame := do
  match protocol with
  | .tcp => Frame.new .tcpClose 0 flowId (← TcpClose.encode closeCode)
  | .udp => Frame.new .udpClose 0 flowId (← UdpClose.encode closeCode)

def FlowProtocol.closeError : FlowProtocol → UInt16
  | .tcp => tcpCloseError
  | .udp => udpCloseError

def statusFrame (frameType : FrameType) (flowId : Nat) (code : ErrorCode) :
    ProtocolResult Frame := do
  Frame.new frameType 0 flowId (← code.encodePayload)

def connectionErrorFrame (code : ErrorCode) : ProtocolResult Frame := statusFrame .error 0 code

def resourceLimitFrame (flowId : Nat) : ProtocolResult Frame :=
  statusFrame .resourceLimit flowId .resourceLimit

def pongFrame (request : Frame) : ProtocolResult Frame :=
  Frame.new .pong 0 request.header.id request.payload

def flowErrorCloseFrame (flowId : Nat) (protocol : Option FlowProtocol) (frameType : FrameType) :
    ProtocolResult Frame :=
  let protocol := protocol.getD
    (match frameType with
      | .udpData | .udpClose => .udp
      | _ => .tcp)
  protocol.closeFrame flowId protocol.closeError

inductive FrameError
  | protocol (error : ProtocolError)
  | unexpectedErrorCode
  | unexpectedFrame
  deriving DecidableEq, Repr

def expectErrorPayload (payload : Bytes) (code : ErrorCode) : Except FrameError Unit :=
  match ErrorCode.decodePayload payload with
  | .error error => .error (.protocol error)
  | .ok status => if status = code then .ok () else .error .unexpectedErrorCode

def validateFlowStatus (frameType : FrameType) (payload : Bytes) : Except FrameError Unit :=
  match frameType with
  | .error => (ErrorCode.decodePayload payload).mapError .protocol |>.map fun _ => ()
  | .policyDenied => expectErrorPayload payload .policyDenied
  | .resourceLimit => expectErrorPayload payload .resourceLimit
  | _ => .error .unexpectedFrame

def validateServerFlowFrame (frame : Frame) : Except FrameError Unit :=
  match frame.header.frameType with
  | .tcpData | .udpData => .ok ()
  | .tcpClose => (TcpClose.decode frame.payload).mapError .protocol |>.map fun _ => ()
  | .udpClose => (UdpClose.decode frame.payload).mapError .protocol |>.map fun _ => ()
  | .error | .policyDenied | .resourceLimit =>
    validateFlowStatus frame.header.frameType frame.payload
  | _ => .error .unexpectedFrame

def isConnectionErrorFrame (frame : Frame) : Bool :=
  frame.header.frameType = .error ∧ frame.header.id = 0

inductive OpenResponse
  | accepted
  | rejected (reply : Reply)
  deriving DecidableEq, Repr

def mapErrorPayload (payload : Bytes) : Except FrameError Reply :=
  match ErrorCode.decodePayload payload with
  | .error error => .error (.protocol error)
  | .ok .invalidTarget | .ok .targetUnavailable | .ok .targetTimeout => .ok .hostUnreachable
  | .ok .policyDenied => .ok .notAllowed
  | .ok _ => .ok .generalFailure

def decodeResponse (dataType closeType : FrameType) (decodeClose : Bytes → ProtocolResult UInt16)
    (frame : Frame) : Except FrameError OpenResponse :=
  let frameType := frame.header.frameType
  if frameType = dataType ∧ frame.payload = [] then .ok .accepted
  else if frameType = .policyDenied then
    (expectErrorPayload frame.payload .policyDenied).map fun _ => .rejected .notAllowed
  else if frameType = .resourceLimit then
    (expectErrorPayload frame.payload .resourceLimit).map fun _ => .rejected .generalFailure
  else if frameType = .error then (mapErrorPayload frame.payload).map .rejected
  else if frameType = closeType then
    match decodeClose frame.payload with
    | .error error => .error (.protocol error)
    | .ok closeCode =>
      .ok (.rejected (if closeCode = 0 then .connectionRefused else .generalFailure))
  else .error .unexpectedFrame

def decodeOpenResponse : Frame → Except FrameError OpenResponse :=
  decodeResponse .tcpData .tcpClose TcpClose.decode

def decodeUdpOpenResponse : Frame → Except FrameError OpenResponse :=
  decodeResponse .udpData .udpClose UdpClose.decode

def FlowProtocol.decodeResponse : FlowProtocol → Frame → Except FrameError OpenResponse
  | .tcp => decodeOpenResponse
  | .udp => decodeUdpOpenResponse

structure SessionLimits where
  maxStreams : Nat
  maxUdpFlows : Nat
  supportsUdpRelay : Bool
  maxBufferedBytesPerFlow : Nat
  maxBufferedBytesPerSession : Nat
  deriving DecidableEq, Repr

def flowFrameQueueCapacity (maxBufferedBytesPerFlow : Nat) : Nat :=
  min (max (maxBufferedBytesPerFlow / 1024) 64) 8192

structure BufferedFlowFrame where
  frame : Frame
  /-- The datagram channel brought it, not the control stream. -/
  datagram : Bool
  deriving DecidableEq, Repr

structure FlowQueue where
  flowId : Nat
  opener : Option Nat
  frames : List BufferedFlowFrame
  deriving DecidableEq, Repr

def FlowQueue.bytes (queue : FlowQueue) : Nat :=
  (queue.frames.map (·.frame.payload.length)).sum

inductive OpenError
  | draining
  | closed
  | flowIdsExhausted
  | noFlowId
  | send
  | closedWhileOpening
  | response (error : FrameError)
  deriving DecidableEq, Repr

inductive OpenOutcome
  | opened (flowId : Nat)
  | rejected (reply : Reply)
  | cancelled
  deriving DecidableEq, Repr

inductive SessionEvent
  | wrote (frame : Frame)
  | openFinished (task : Nat) (outcome : Except OpenError OpenOutcome)
  | invalidated
  | closed
  | carrierShutDown
  deriving DecidableEq

structure Session where
  flows : List (Nat × FlowProtocol) := []
  queues : List FlowQueue := []
  nextFlowId : Nat := 1
  draining : Bool := false
  closed : Bool := false
  log : List SessionEvent := []
  deriving DecidableEq

namespace Session

variable (limits : SessionLimits) (s : Session)

def emit (event : SessionEvent) : Session := { s with log := s.log ++ [event] }

def hasFlow (flowId : Nat) : Bool := s.flows.any (·.1 == flowId)

def dropRoute (flowId : Nat) : Session :=
  { s with flows := s.flows.filter (·.1 != flowId) }

def queueOf (flowId : Nat) : Option FlowQueue :=
  s.queues.find? (·.flowId == flowId)

def mapQueue (flowId : Nat) (f : FlowQueue → FlowQueue) : Session :=
  { s with queues := s.queues.map fun queue => if queue.flowId = flowId then f queue else queue }

def dropQueue (flowId : Nat) : Session :=
  { s with queues := s.queues.filter (·.flowId != flowId) }

def flowBytes (flowId : Nat) : Nat := ((s.queueOf flowId).map (·.bytes)).getD 0

def sessionBytes : Nat := (s.queues.map (·.bytes)).sum

def addFlow (flowId task : Nat) (protocol : FlowProtocol) : Session :=
  { s with flows := (flowId, protocol) :: s.flows, queues := ⟨flowId, some task, []⟩ :: s.queues }

def flowIdAllocationAttempts : Nat := 1024

def allocate (s : Session) (task : Nat) (protocol : FlowProtocol) :
    (attempts : Nat) → Session × Except OpenError Nat
  | 0 => (s, .error .noFlowId)
  | attempts + 1 =>
    if s.nextFlowId > Varint.maxVarint then (s, .error .flowIdsExhausted)
    else
      let flowId := s.nextFlowId
      let s := { s with nextFlowId := flowId + 2 }
      if isClientInitiatedFlowId flowId && !s.hasFlow flowId then
        (s.addFlow flowId task protocol, .ok flowId)
      else s.allocate task protocol attempts

def udpRouteCount : Nat := s.flows.countP (·.2 = .udp)

def reserveFlowSlot (task : Nat)
    (protocol : FlowProtocol) : Session × Except OpenError (Option Nat) :=
  if s.flows.length ≥ limits.maxStreams then (s, .ok none)
  else if protocol = .udp ∧ s.udpRouteCount ≥ limits.maxUdpFlows then (s, .ok none)
  else
    let (s, flowId) := s.allocate task protocol flowIdAllocationAttempts
    (s, flowId.map some)

def reserveFlow (task : Nat) (protocol : FlowProtocol) : Session × Except OpenError (Option Nat) :=
  if s.draining then (s, .error .draining) else s.reserveFlowSlot limits task protocol

inductive FlowFrameRoute
  | invalidFlowId
  | unknownFlow
  | protocolMismatch
  | flowQueueFull
  | sessionQueueFull
  | flowClosed
  | enqueued
  deriving DecidableEq, Repr

def flowFrameMatchesProtocol (protocol : FlowProtocol) (frameType : FrameType) : Bool :=
  match protocol, frameType with
  | .tcp, .tcpData | .tcp, .tcpClose | .udp, .udpData | .udp, .udpClose => true
  | _, .error | _, .policyDenied | _, .resourceLimit => true
  | _, _ => false

/-- The flow's budget, the session's, then the channel. -/
def offer (flowId len : Nat) : FlowFrameRoute :=
  if s.flowBytes flowId + len > limits.maxBufferedBytesPerFlow then .flowQueueFull
  else if s.sessionBytes + len > limits.maxBufferedBytesPerSession then .sessionQueueFull
  else
    match s.queueOf flowId with
    | none => .flowClosed
    | some queue =>
      if queue.frames.length < flowFrameQueueCapacity limits.maxBufferedBytesPerFlow then .enqueued
      else .flowQueueFull

def enqueue (flowId : Nat) (buffered : BufferedFlowFrame) : Session :=
  s.mapQueue flowId fun queue => { queue with frames := queue.frames ++ [buffered] }

def routeFlowFrame (frame : Frame) : Session × Option FlowProtocol × FlowFrameRoute :=
  let flowId := frame.header.id
  if !isClientInitiatedFlowId flowId then (s, none, .invalidFlowId)
  else
    match s.flows.lookup flowId with
    | none => (s, none, .unknownFlow)
    | some protocol =>
      if !flowFrameMatchesProtocol protocol frame.header.frameType then
        (s.dropRoute flowId, some protocol, .protocolMismatch)
      else
        match s.offer limits flowId frame.payload.length with
        | .enqueued => (s.enqueue flowId ⟨frame, false⟩, some protocol, .enqueued)
        | route => (s.dropRoute flowId, some protocol, route)

def inboundDatagram (flowId : Nat) (payload : Bytes) : Option Frame :=
  if !isClientInitiatedFlowId flowId then none
  else if s.flows.lookup flowId ≠ some .udp then none
  else
    match Frame.new .udpData 0 flowId payload with
    | .error _ => none
    | .ok frame => if s.offer limits flowId payload.length = .enqueued then some frame else none

def routeInboundDatagram (flowId : Nat) (payload : Bytes) : Session :=
  match s.inboundDatagram limits flowId payload with
  | none => s
  | some frame => s.enqueue flowId ⟨frame, true⟩

end Session

end UncrownedKing.Client
