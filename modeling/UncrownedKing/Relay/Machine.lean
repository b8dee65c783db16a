import UncrownedKing.Relay.Session

/-!
# A relay session at work

The session loop and the tasks of its flows. Code between two points where a
task may wait is one step, and so is each turn at the carrier. Which step comes
next, what sockets answer and which branch of a `select!` wins is not the
session's to decide. Nor is who of those waiting takes the carrier next; its
lock serves them in turn, so the runs here include the code's.
-/

namespace UncrownedKing.Relay

open Lib Net Proto Auth Server

inductive Producer
  | loop
  | task (n : Nat)
  deriving DecidableEq, Repr

/-- `running` has the rest of a handler; `stopping` has yet to close its flows. -/
inductive LoopStage
  | ready
  | running (script : Script)
  | stopping
  | closed

structure Queued where
  origin : Option FlowToken
  event : FlowEvent

structure RelaySession where
  session : Session
  events : List Queued
  shutdown : Bool
  carrier : Option Producer
  loop : LoopStage

def RelaySession.start : RelaySession := ⟨.start, [], false, none, .ready⟩

/-- `wrote` has a frame handed to the carrier, who wrote it and the open it belongs to. -/
inductive RelayEvent
  | opened (frame : Frame) (origin : FlowToken)
  | dialed (origin : FlowToken) (kind : TaskKind) (result : Except OpenFailure Socket)
  | wrote (byTask : Bool) (origin : Option FlowToken) (frame : Frame)

inductive WriteOutcome
  | written
  | failed
  | timedOut
  deriving DecidableEq, Repr

namespace RelaySession

def stop (r : RelaySession) : RelaySession :=
  { r with
    session := { r.session with state := .closing }
    shutdown := true
    loop := .stopping }

def resume (r : RelaySession) (script : Script) : RelaySession :=
  match script with
  | [] =>
    if r.session.state = .draining ∧ r.session.targetWriters.entries = [] then r.stop
    else { r with loop := .ready }
  | _ => { r with loop := .running script }

def handle (r : RelaySession) (handled : Handled) : RelaySession :=
  { r with session := handled.1 }.resume handled.2

def release (r : RelaySession) (outcome : WriteOutcome) : RelaySession :=
  { r with carrier := none, shutdown := r.shutdown || outcome == .timedOut }

def muted (r : RelaySession) (token : FlowToken) : Bool := r.shutdown || (r.session.links token).aborted

def occupant (r : RelaySession) (flowId : Nat) : Option FlowToken :=
  (r.session.targetWriters.lookup flowId).map FlowSlot.origin

end RelaySession

/-- `refused` ends because the session is closed, `skip` discards a frame. -/
inductive LoopChoice
  | acquire
  | refused
  | skip
  | finish (outcome : WriteOutcome)
  | go (now : Instant)
  deriving DecidableEq, Repr

def RelaySession.failWrite (r : RelaySession) (logged : Bool) (rest : Script) : RelaySession :=
  if logged then r.resume rest else r.stop

def RelaySession.loopStep (r : RelaySession) (instr : Instr) (rest : Script) (choice : LoopChoice) :
    RelaySession × List RelayEvent :=
  match instr, choice with
  | .write _ logged, .acquire =>
    if r.carrier ≠ none then (r, [])
    else if r.shutdown then (r.failWrite logged rest, [])
    else ({ r with carrier := some .loop }, [])
  | .write _ logged, .refused =>
    if r.carrier ≠ some .loop ∧ r.shutdown then (r.failWrite logged rest, []) else (r, [])
  | .write frame logged, .finish outcome =>
    if r.carrier ≠ some .loop then (r, [])
    else
      let after := r.release outcome
      (if outcome = .written then after.resume rest else after.failWrite logged rest,
        [.wrote false (r.occupant frame.header.id) frame])
  | .writeFlow _ token, .acquire =>
    if r.carrier ≠ none then (r, [])
    else if r.muted token then (r.resume rest, [])
    else ({ r with carrier := some .loop }, [])
  | .writeFlow _ _, .refused =>
    if r.carrier ≠ some .loop ∧ r.shutdown then (r.stop, []) else (r, [])
  | .writeFlow _ token, .skip =>
    if r.carrier ≠ some .loop ∧ r.muted token then (r.resume rest, []) else (r, [])
  | .writeFlow frame _, .finish outcome =>
    if r.carrier ≠ some .loop then (r, [])
    else
      let after := r.release outcome
      (if outcome = .written then after.resume rest else after.stop,
        [.wrote false (r.occupant frame.header.id) frame])
  | .remove flowId, .go _ => (r.handle (r.session.removeFlowSlot flowId, rest), [])
  | .establish flow, .go now => (r.handle (r.session.establish flow now, rest), [])
  | .fail _, .go _ => (r.stop, [])
  | _, _ => (r, [])

def isData (frame : Frame) : Bool :=
  frame.header.frameType == .tcpData || frame.header.frameType == .udpData

def isClose (frame : Frame) : Bool :=
  frame.header.frameType == .tcpClose || frame.header.frameType == .udpClose

namespace Task

def isUdpReader (task : Task) : Bool := task.kind == .udpReader

def openEvent (task : Task) (result : Except OpenFailure Socket) : FlowEvent :=
  match task.kind with
  | .tcpOpen target => .openCompleted task.flowId task.token target result
  | .udpOpen target => .udpOpenCompleted task.flowId task.token target result
  | _ => .activity

def closedEvent (task : Task) : FlowEvent :=
  match task.kind with
  | .targetReader => .readClosed task.flowId task.token
  | .udpReader => .udpReadClosed task.flowId task.token
  | .targetWriter => .writeClosed task.flowId task.token
  | .halfCloseTimer closedSide => .halfCloseDrainExpired task.flowId task.token closedSide
  | .tcpOpen _ | .udpOpen _ => .activity

def activityEvent (task : Task) : FlowEvent :=
  if task.isUdpReader then .udpActivity task.flowId else .activity

def dataFrame (task : Task) (bytes : Bytes) : ProtocolResult Frame :=
  Frame.new (if task.isUdpReader then .udpData else .tcpData) 0 task.flowId bytes

def closeFrame (task : Task) (closeCode : UInt16) : ProtocolResult Frame :=
  if task.isUdpReader then udpCloseFrame task.flowId closeCode
  else tcpCloseFrame task.flowId closeCode

def reportFrames (task : Task) : List Frame :=
  [statusFrame .error task.flowId .targetUnavailable, task.closeFrame closeError].filterMap
    Except.toOption

end Task

/-- `read` is what the socket gives, `datagram` a payload that goes as one or nowhere. -/
inductive TaskChoice
  | dialed (result : Except OpenFailure Socket)
  | cancelled
  | shutdown
  | read (bytes : Bytes)
  | datagram
  | failed
  | woken
  | acquire
  | refused
  | skip
  | finish (outcome : WriteOutcome)
  | writer (choice : WriterChoice)
  | go

namespace RelaySession

def setStage (r : RelaySession) (n : Nat) (task : Task) (stage : TaskStage) : RelaySession :=
  { r with session :=
    { r.session with tasks := r.session.tasks.set n { task with stage := stage } } }

def push (r : RelaySession) (task : Task) (event : FlowEvent) : RelaySession :=
  { r with events := r.events ++ [⟨some task.origin, event⟩] }

def failTask (r : RelaySession) (n : Nat) (task : Task) : RelaySession :=
  if r.shutdown then r.setStage n task (.ending task.closedEvent)
  else
    { r with session := r.session.abortLink task.token }.setStage n task
      (.reporting task.reportFrames)

/-- Activity is recorded if the event queue has room, also for a discarded frame. -/
def readOn (r : RelaySession) (n : Nat) (task : Task) (recorded : Bool) : RelaySession :=
  let r := r.setStage n task .reading
  if recorded then r.push task task.activityEvent else r

def sendRead (context : RelayContext) (r : RelaySession) (n : Nat) (task : Task) (bytes : Bytes) :
    RelaySession :=
  let frame := if bytes.isEmpty && !task.isUdpReader then task.closeFrame closeNormal
    else task.dataFrame bytes
  if bytes.length > context.limits.dataFrameSize then r
  else
    match frame with
    | .ok frame => r.setStage n task (.sending frame)
    | .error _ => r.failTask n task

end RelaySession

/-- A choice that does not fit its stage changes nothing. -/
def RelaySession.taskStep (context : RelayContext) (r : RelaySession) (n : Nat) (task : Task)
    (choice : TaskChoice) (recorded : Bool) : RelaySession × List RelayEvent :=
  match task.stage, choice with
  | .dialing, .dialed result =>
    (r.setStage n task (.dialed result), [.dialed task.origin task.kind result])
  | .dialing, .cancelled =>
    (if r.session.cancelled task.token then r.setStage n task .done else r, [])
  | .dialing, .shutdown | .sleeping, .shutdown | .ending _, .shutdown =>
    (if r.shutdown then r.setStage n task .done else r, [])
  | .dialed result, .go =>
    (if r.session.cancelled task.token then r.setStage n task .done
      else r.setStage n task (.ending (task.openEvent result)), [])
  | .sleeping, .go => (r.setStage n task (.ending task.closedEvent), [])
  | .reading, .read bytes =>
    (if r.muted task.token then r.setStage n task (.ending task.closedEvent)
      else r.sendRead context n task bytes, [])
  | .reading, .datagram =>
    (if r.muted task.token then r.setStage n task (.ending task.closedEvent)
      else if task.isUdpReader then r.readOn n task recorded else r, [])
  | .reading, .failed => (r.failTask n task, [])
  | .reading, .woken =>
    (if r.muted task.token then r.setStage n task (.ending task.closedEvent) else r, [])
  | .sending frame, .acquire =>
    (if r.carrier ≠ none then r
      else if isData frame then
        if r.muted task.token then r.readOn n task recorded
        else { r with carrier := some (.task n) }
      else if r.shutdown then r.failTask n task
      else { r with carrier := some (.task n) }, [])
  | .sending _, .refused =>
    (if r.carrier ≠ some (.task n) ∧ r.shutdown then r.failTask n task else r, [])
  | .sending frame, .skip =>
    (if r.carrier ≠ some (.task n) ∧ isData frame ∧ r.muted task.token then
        r.readOn n task recorded
      else r, [])
  | .sending frame, .finish outcome =>
    if r.carrier ≠ some (.task n) then (r, [])
    else
      let after := r.release outcome
      (if outcome ≠ .written then after.failTask n task
        else if isData frame then after.readOn n task recorded
        else after.setStage n task (.ending task.closedEvent),
        [.wrote true (some task.origin) frame])
  | .relaying writer, .writer choice =>
    let (writer, link, _) := writerStep r.shutdown (r.session.links task.token) writer choice
    let r := { r with session :=
      { r.session with links := Function.update r.session.links task.token link } }
    (match writer with
      | .ended false => r.setStage n task (.ending task.closedEvent)
      | writer => r.setStage n task (.relaying writer), [])
  -- the receiver is gone by now, the flow not yet aborted
  | .relaying (.ended true), .go => (r.failTask n task, [])
  | .reporting (_ :: rest), .acquire =>
    (if r.carrier ≠ none then r
      else if r.shutdown then r.setStage n task (.reporting rest)
      else { r with carrier := some (.task n) }, [])
  | .reporting (_ :: rest), .refused =>
    (if r.carrier ≠ some (.task n) ∧ r.shutdown then r.setStage n task (.reporting rest)
      else r, [])
  | .reporting (frame :: rest), .finish outcome =>
    if r.carrier ≠ some (.task n) then (r, [])
    else ((r.release outcome).setStage n task (.reporting rest),
      [.wrote true (some task.origin) frame])
  | .reporting [], .go => (r.setStage n task (.ending task.closedEvent), [])
  | .ending event, .go => ((r.setStage n task .done).push task event, [])
  | _, _ => (r, [])

/-- `leave` is an idle session, a peer that is gone, a drain that took too long or a carrier that
failed. -/
inductive RelayAction
  | frame (frame : Frame) (env : HandlerEnv)
  | event (env : HandlerEnv)
  | udpIdleMaintenance (order : Table.Order Nat FlowSlot) (now : Instant)
  | frameReadError (error : FrameIoError)
  | shutdown
  | leave
  | loop (choice : LoopChoice)
  | closeFlows
  | task (n : Nat) (choice : TaskChoice) (recorded : Bool)
  | abortTask (n : Nat)
  | datagram (flowId : Nat) (payload : Bytes)

def openedBy (frame : Frame) (before after : Session) : List RelayEvent :=
  if before.flowTokens < after.flowTokens then [.opened frame before.flowTokens] else []

def RelaySession.readyStep (context : RelayContext) (r : RelaySession) :
    RelayAction → RelaySession × List RelayEvent
  | .frame frame env =>
    let handled := handleSessionFrame context env frame r.session
    (r.handle handled, openedBy frame r.session handled.1)
  | .event env =>
    match r.events with
    | [] => (r, [])
    | queued :: events =>
      ({ r with events := events }.handle
        (handleFlowEvent context env queued.event r.session), [])
  | .udpIdleMaintenance order now =>
    (r.handle (r.session, closeIdleUdpFlows context order now r.session), [])
  | .frameReadError error =>
    (r.handle (r.session, reportFrameIoError error ++ [.fail (.frameIo error)]), [])
  | .shutdown =>
    let session := if r.session.state = .relaying then { r.session with state := .draining }
      else r.session
    (r.handle (session, []), [])
  | .leave => (r.stop, [])
  | _ => (r, [])

def RelaySession.step (context : RelayContext) (r : RelaySession) (action : RelayAction) :
    RelaySession × List RelayEvent :=
  match action with
  | .task n choice recorded =>
    match r.session.tasks[n]? with
    | none => (r, [])
    | some task => r.taskStep context n task choice recorded
  | .datagram flowId payload =>
    if isClientInitiatedFlowId flowId && !r.shutdown then
      ({ r with events := r.events ++ [⟨none, .inboundDatagram flowId payload⟩] }, [])
    else (r, [])
  | action =>
    match r.loop, action with
    | .ready, action => r.readyStep context action
    | .running (instr :: rest), .loop choice => r.loopStep instr rest choice
    | .stopping, .closeFlows =>
      ({ r with session := closeTargetFlows context r.session, loop := .closed }, [])
    | .closed, .abortTask n =>
      -- `drain_session_tasks` gives up on what has not ended in time
      match r.session.tasks[n]? with
      | none => (r, [])
      | some task =>
        let carrier := if r.carrier = some (.task n) then none else r.carrier
        ({ r with carrier := carrier }.setStage n task .done, [])
    | _, _ => (r, [])

end UncrownedKing.Relay
