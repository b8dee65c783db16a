import UncrownedKing.Client.Session
import UncrownedKing.Lib.Threads

/-!
# Tasks on one client session

What a task has still to do is a list of operations, each one section under the
flow-table lock, one access to an atomic or one frame written; between any two
the other tasks may run.
-/

namespace UncrownedKing.Client

open Lib Proto

inductive OnError
  /-- `let _ = ..`, and the last write of a call that returns the error. -/
  | ignore
  | failOpen (flowId : Nat)
  /-- The reader returns, and closes the session. -/
  | endReader
  deriving DecidableEq, Repr

inductive Op
  | checkDraining
  | checkClosed
  | checkUdpRelay
  | reserveFlow (protocol : FlowProtocol) (target : Target)
  | recheckClosed (flowId : Nat)
  | writeFrame (frame : ProtocolResult Frame) (onError : OnError)
  | awaitResponse (protocol : FlowProtocol) (flowId : Nat)
  | removeFlow (flowId : Nat)
  | dropReceiver (flowId : Nat)
  | finishOpen (outcome : Except OpenError OpenOutcome)
  | swapClosed
  | clearFlows
  | shutdownCarrier
  | swapDraining
  | checkDrained
  | checkEmpty
  | handleFrame (frame : Frame)
  deriving DecidableEq

abbrev Program := List Op

inductive Choice
  | proceed
  | fail
  /-- The listener shuts down, or the local side goes away. -/
  | cancel
  /-- The open timeout passes, or the local buffer is full. -/
  | giveUp
  deriving DecidableEq, Repr

def reportProtocolError : Op := .writeFrame (connectionErrorFrame .protocol) .ignore

def abandonOpen (flowId : Nat) (outcome : Except OpenError OpenOutcome) : Program :=
  [.removeFlow flowId, .dropReceiver flowId, .finishOpen outcome]

def OnError.program (rest : Program) : OnError → Program
  | .ignore => rest
  | .failOpen flowId => abandonOpen flowId (.error .send)
  | .endReader => [.swapClosed]

def openReserved (protocol : FlowProtocol) (flowId : Nat) (target : Target) : Program :=
  [.recheckClosed flowId,
    .writeFrame (protocol.openFrame flowId target) (.failOpen flowId),
    .awaitResponse protocol flowId]

def cancelPendingOpen (protocol : FlowProtocol) (flowId : Nat) (outcome : OpenOutcome) : Program :=
  .writeFrame (protocol.closeFrame flowId protocol.closeError) .ignore ::
    abandonOpen flowId (.ok outcome)

def answerOpen (protocol : FlowProtocol) (flowId : Nat) (frame : Frame) : Program :=
  match protocol.decodeResponse frame with
  | .ok .accepted => [.finishOpen (.ok (.opened flowId))]
  | .ok (.rejected reply) => abandonOpen flowId (.ok (.rejected reply))
  | .error error =>
    [.removeFlow flowId, reportProtocolError, .dropReceiver flowId,
      .finishOpen (.error (.response error))]

def finishProgram : Except OpenError OpenOutcome → Program
  | .ok _ | .error .draining => []
  | .error _ => [.swapClosed]

def afterRoute (frame : Frame) (protocol : Option FlowProtocol) :
    Session.FlowFrameRoute → Program
  | .invalidFlowId => [reportProtocolError, .swapClosed]
  | .protocolMismatch =>
    [.writeFrame (statusFrame .error frame.header.id .protocol) .endReader,
      .writeFrame (flowErrorCloseFrame frame.header.id protocol frame.header.frameType) .endReader,
      .checkDrained]
  | .flowQueueFull | .sessionQueueFull =>
    [.writeFrame (resourceLimitFrame frame.header.id) .endReader,
      .writeFrame (flowErrorCloseFrame frame.header.id protocol frame.header.frameType) .endReader,
      .checkDrained]
  | .flowClosed => [.checkDrained]
  | .unknownFlow | .enqueued => []

namespace Session

def handleFrame (limits : SessionLimits) (s : Session) (frame : Frame) : Session × Program :=
  match frame.header.frameType with
  | .tcpData | .tcpClose | .udpData | .udpClose | .error | .policyDenied | .resourceLimit =>
    match validateServerFlowFrame frame with
    | .error _ => (s, [reportProtocolError, .swapClosed])
    | .ok () =>
      if isConnectionErrorFrame frame then (s, [.swapClosed])
      else
        let (s, protocol, route) := s.routeFlowFrame limits frame
        (s, afterRoute frame protocol route)
  | .ping =>
    match validateConnectionFrame frame .ping with
    | .error _ => (s, [reportProtocolError, .swapClosed])
    | .ok () => (s, [.writeFrame (pongFrame frame) .endReader])
  | .pong =>
    match validateConnectionFrame frame .pong with
    | .error _ => (s, [reportProtocolError, .swapClosed])
    | .ok () => (s, [])
  | _ => (s, [reportProtocolError, .swapClosed])

/-- A channel without a sender ends once it is empty. -/
def awaitResponse (s : Session) (protocol : FlowProtocol) (flowId : Nat) (choice : Choice) :
    Session × Program :=
  match choice with
  | .proceed =>
    match s.queueOf flowId with
    | some ⟨_, _, buffered :: waiting⟩ =>
      (s.mapQueue flowId fun queue => { queue with opener := none, frames := waiting },
        answerOpen protocol flowId buffered.frame)
    | _ =>
      (s, if s.hasFlow flowId then [.awaitResponse protocol flowId]
          else [.dropReceiver flowId, .finishOpen (.error .closedWhileOpening)])
  | .cancel => (s, cancelPendingOpen protocol flowId .cancelled)
  | .giveUp => (s, cancelPendingOpen protocol flowId (.rejected .generalFailure))
  | .fail => (s, [.awaitResponse protocol flowId])

def finishOpen (s : Session) (task : Nat) (outcome : Except OpenError OpenOutcome) :
    Session × Program :=
  let finished := s.emit (.openFinished task outcome)
  match finishProgram outcome with
  | [] => (finished, [])
  | program => (finished.emit .invalidated, program)

def exec (limits : SessionLimits) (s : Session) (task : Nat) (op : Op) (rest : Program)
    (choice : Choice) : Session × Program :=
  match op with
  | .checkDraining => (s, if s.draining then [.finishOpen (.error .draining)] else rest)
  | .checkClosed => (s, if s.closed then [.finishOpen (.error .closed)] else rest)
  | .checkUdpRelay =>
    (s, if limits.supportsUdpRelay then rest
        else [.finishOpen (.ok (.rejected .commandNotSupported))])
  | .reserveFlow protocol target =>
    match s.reserveFlow limits task protocol with
    | (s, .error error) => (s, [.finishOpen (.error error)])
    | (s, .ok none) => (s, [.finishOpen (.ok (.rejected .generalFailure))])
    | (s, .ok (some flowId)) => (s, openReserved protocol flowId target)
  | .recheckClosed flowId => (s, if s.closed then abandonOpen flowId (.error .closed) else rest)
  | .writeFrame (.error _) onError => (s, onError.program rest)
  | .writeFrame (.ok frame) onError =>
    if s.closed ∨ choice = .fail then (s, .swapClosed :: onError.program rest)
    else (s.emit (.wrote frame), rest)
  | .awaitResponse protocol flowId => s.awaitResponse protocol flowId choice
  | .removeFlow flowId =>
    let removed := s.dropRoute flowId
    (removed,
      if s.hasFlow flowId ∧ s.draining ∧ removed.flows = [] then .swapClosed :: rest else rest)
  | .dropReceiver flowId => (s.dropQueue flowId, rest)
  | .finishOpen outcome => s.finishOpen task outcome
  | .swapClosed =>
    if s.closed then (s, rest)
    else ({ s with closed := true }.emit .closed, .clearFlows :: .shutdownCarrier :: rest)
  | .clearFlows => ({ s with flows := [] }, rest)
  | .shutdownCarrier => (s.emit .carrierShutDown, rest)
  | .swapDraining =>
    if s.draining then (s, rest) else ({ s with draining := true }, .checkDrained :: rest)
  | .checkDrained => (s, if s.draining then .checkEmpty :: rest else rest)
  | .checkEmpty => (s, if s.flows = [] then .swapClosed :: rest else rest)
  | .handleFrame frame => s.handleFrame limits frame

end Session

inductive SessionCall
  | openFlow (target : Target)
  | openUdpFlow (target : Target)
  | removeFlow (flowId : Nat)
  | carrierFrame (frame : Frame)
  /-- The reader fails; a protocol error is reported with its code. -/
  | carrierFailed (code : Option ErrorCode)
  | sendFrame (frame : ProtocolResult Frame)
  | beginDrain
  | close

def SessionCall.program : SessionCall → Program
  | .openFlow target => [.checkDraining, .checkClosed, .reserveFlow .tcp target]
  | .openUdpFlow target => [.checkDraining, .checkClosed, .checkUdpRelay, .reserveFlow .udp target]
  | .removeFlow flowId => [.removeFlow flowId]
  | .carrierFrame frame => [.handleFrame frame]
  | .carrierFailed none => [.swapClosed]
  | .carrierFailed (some code) =>
    [.writeFrame (connectionErrorFrame code) .ignore, .swapClosed]
  | .sendFrame frame => [.writeFrame frame .ignore]
  | .beginDrain => [.swapDraining]
  | .close => [.swapClosed]

inductive SessionInput
  | call (operation : SessionCall)
  | go (choice : Choice)
  | datagram (flowId : Nat) (payload : Bytes)
  | receive (flowId : Nat)
  | dropFlow (flowId : Nat)

namespace Session

/-- The open of the flow has returned it to a relay. -/
def relayed (s : Session) (flowId : Nat) : Bool :=
  (s.queueOf flowId).any (·.opener.isNone)

def receive (s : Session) (flowId : Nat) : Session :=
  s.mapQueue flowId fun queue => { queue with frames := queue.frames.tail }

def step (limits : SessionLimits) (s : Session) (task : Nat) (program : Program)
    (input : SessionInput) : Session × Program :=
  match program, input with
  | op :: rest, .go choice => s.exec limits task op rest choice
  | [], .call operation => (s, operation.program)
  | [], .datagram flowId payload => (s.routeInboundDatagram limits flowId payload, [])
  | [], .receive flowId => (if s.relayed flowId then s.receive flowId else s, [])
  | [], .dropFlow flowId => (if s.relayed flowId then s.dropQueue flowId else s, [])
  | program, _ => (s, program)

end Session

def sessionStart : Threads Session Program := ⟨{}, fun _ => []⟩

def sessionRun (limits : SessionLimits) (acts : List (Nat × SessionInput)) :
    Threads Session Program :=
  sessionStart.run (Session.step limits) acts

end UncrownedKing.Client
