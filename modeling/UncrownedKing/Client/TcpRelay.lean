import UncrownedKing.Client.Session
import UncrownedKing.Lib.Run

/-!
# A SOCKS connection and its TCP flow

`handle_socks_connection` from the first attempt to open a flow until it
returns. Where the task waits the session may queue frames or lose its route,
and the listener may signal shutdown. A write to the local socket is taken in
pieces; writes fail once the write side is shut down.
-/

namespace UncrownedKing.Client

open Lib Proto

structure RelayParams where
  target : Target
  dataFrameSize : Nat
  maxPendingOpenBytes : Nat
  deriving DecidableEq, Repr

structure RelayFlow where
  flowId : Nat := 0
  sent : List Frame := []
  queue : List Frame := []
  first : Option Frame := none
  /-- The relay took a frame that ends the flow. -/
  ended : Bool := false
  /-- Someone else removed the route, or the session is closed. -/
  routeClosed : Bool := false
  deriving DecidableEq, Repr

/-- `relayed` is the only one where `relay_tcp` returned `Ok`. -/
inductive SocksResult
  | rejected
  | cancelled
  | openFailed
  | replyFailed
  | relayFailed
  | relayed
  deriving DecidableEq, Repr

inductive RelayStage
  | connecting (attempt : Nat)
  | opening (attempt : Nat)
  | cancelling (result : SocksResult)
  /-- The reply to the SOCKS client. -/
  | replying
  | flushingPending (chunks : List Bytes)
  | relaying
  | sendingData (payload : Bytes)
  | sendingClose
  /-- `write_all_or_shutdown`, with what is left to write. -/
  | writing (rest : Bytes) (shuttingDown : Bool)
  | drainingUpload (chunks : List Bytes)
  | closingUpload
  /-- `flush_buffered_frames_before_shutdown`. -/
  | flushing
  | flushingWrite (rest : Bytes)
  /-- `local.shutdown()`, after which the upload stays open or not. -/
  | shuttingLocal (localToRemoteOpen : Bool)
  /-- The close after an error. -/
  | closingError (result : SocksResult)
  | returned (result : SocksResult)
  deriving DecidableEq, Repr

structure RelayConn where
  stage : RelayStage := .connecting 0
  flow : RelayFlow := {}
  /-- Flows of attempts that failed. -/
  past : List RelayFlow := []
  pendingLocalData : List Bytes := []
  localToRemoteOpen : Bool := true
  remoteToLocalOpen : Bool := true
  shutdown : Bool := false
  written : Bytes := []
  /-- What was written when the write side was first shut down. -/
  shutAfter : Option Bytes := none
  owed : Option Bytes := none
  deriving DecidableEq, Repr

inductive RelayInput
  | deliver (frame : Frame)
  | closeRoute
  | signalShutdown
  | openSent (flowId : Nat)
  | refuse
  | proceed
  | fail
  | receive
  /-- The local socket is read; nothing is the end of the stream. -/
  | read (bytes : Bytes)
  /-- The local socket takes a byte and `more` others. -/
  | accept (more : Nat)
  /-- `shutdown_rx.changed()`. -/
  | observe
  | expire
  deriving DecidableEq, Repr

def queuedData (queue : List Frame) : Bytes :=
  (queue.takeWhile (·.header.frameType = .tcpData)).flatMap (·.payload)

def tcpDataFrame (flowId : Nat) (payload : Bytes) : ProtocolResult Frame :=
  Frame.new .tcpData 0 flowId payload

def chunksOf (size : Nat) (bytes : Bytes) : List Bytes :=
  bytes.toChunks (max size 1)

namespace RelayConn

variable (params : RelayParams) (c : RelayConn)

def outcome : RelayInput → Option Bool
  | .proceed => some true
  | .fail => some false
  | _ => none

def deliver (frame : Frame) : RelayConn :=
  if c.flow.routeClosed then c
  else { c with flow := { c.flow with queue := c.flow.queue ++ [frame],
                                      first := c.flow.first.or (some frame) } }

def closeRoute : RelayConn :=
  { c with flow := { c.flow with routeClosed := true } }

def send (frame : ProtocolResult Frame) (written : Bool) : RelayConn × Bool :=
  match frame with
  | .error _ => (c, false)
  | .ok frame =>
    if written then ({ c with flow := { c.flow with sent := c.flow.sent ++ [frame] } }, true)
    else (c.closeRoute, false)

def sendClose (closeCode : UInt16) (written : Bool) : RelayConn × Bool :=
  c.send (FlowProtocol.tcp.closeFrame c.flow.flowId closeCode) written

def goto (stage : RelayStage) : RelayConn := { c with stage := stage }

def sendThen (frame : ProtocolResult Frame) (written : Bool)
    (next : RelayConn → RelayConn) : RelayConn :=
  match c.send frame written with
  | (c, true) => next c
  | (c, false) => c.goto (.closingError .relayFailed)

def attemptFailed (attempt : Nat) : RelayConn :=
  if attempt = 0 then { c with stage := .connecting 1, flow := {}, past := c.flow :: c.past }
  else c.goto (.returned .openFailed)

def pop : RelayConn :=
  { c with flow := { c.flow with queue := c.flow.queue.tail } }

def observed (unwritten : Bytes) : RelayConn :=
  { c with owed := some (c.written ++ unwritten ++ queuedData c.flow.queue) }

def write (rest : Bytes) (more : Nat) : RelayConn :=
  { c with written := c.written ++ rest.take (more + 1) }

def connecting (attempt : Nat) : RelayInput → RelayConn
  | .openSent flowId =>
    match FlowProtocol.tcp.openFrame flowId params.target with
    | .error _ => c.attemptFailed attempt
    | .ok frame =>
      { c with stage := .opening attempt, flow := { flowId := flowId, sent := [frame] } }
  | .refuse => c.goto (.returned .rejected)
  | .fail => c.attemptFailed attempt
  | .observe => if c.shutdown then c.goto (.returned .cancelled) else c
  | _ => c

def readPending (bytes : Bytes) : RelayConn :=
  let queued := (c.pendingLocalData.map List.length).sum
  if bytes = [] then c.goto (.cancelling .cancelled)
  else if params.maxPendingOpenBytes ≤ queued then c.goto (.cancelling .rejected)
  else
    let readLen := min (max params.dataFrameSize 1) (params.maxPendingOpenBytes - queued)
    { c with pendingLocalData := c.pendingLocalData ++ [bytes.take readLen] }

def opening (attempt : Nat) : RelayInput → RelayConn
  | .receive =>
    match c.flow.queue with
    | [] => if c.flow.routeClosed then c.attemptFailed attempt else c
    | frame :: _ =>
      match decodeOpenResponse frame with
      | .ok .accepted => c.pop.goto .replying
      | .ok (.rejected _) => c.pop.goto (.returned .rejected)
      | .error _ => c.pop.attemptFailed attempt
  | .read bytes => c.readPending params bytes
  | .fail => c.goto (.cancelling .cancelled)
  | .observe => if c.shutdown then c.goto (.cancelling .cancelled) else c
  | .expire => c.goto (.cancelling .rejected)
  | _ => c

def flushPending (chunks : List Bytes) : RelayConn :=
  c.goto (if chunks = [] then .relaying else .flushingPending chunks)

def relayFrame (frame : Frame) : RelayConn :=
  match frame.header.frameType with
  | .tcpData =>
    if !c.remoteToLocalOpen then c.goto (.closingError .relayFailed)
    else if frame.payload = [] then c
    else c.goto (.writing frame.payload false)
  | .tcpClose =>
    match TcpClose.decode frame.payload with
    | .error _ => c.goto (.closingError .relayFailed)
    | .ok closeCode =>
      if closeCode ≠ tcpCloseNormal ∨ !c.remoteToLocalOpen then
        { c with stage := .shuttingLocal false, flow := { c.flow with ended := true } }
      else c.goto (.shuttingLocal c.localToRemoteOpen)
  | .error | .policyDenied | .resourceLimit =>
    match validateFlowStatus frame.header.frameType frame.payload with
    | .error _ => c.goto (.closingError .relayFailed)
    | .ok () => { c with stage := .shuttingLocal false, flow := { c.flow with ended := true } }
  | _ => c.goto (.closingError .relayFailed)

def closeUpload : RelayConn :=
  { c with
    stage := if c.remoteToLocalOpen then .relaying else .returned .relayed
    localToRemoteOpen := false }

def relaying : RelayInput → RelayConn
  | .observe =>
    if c.shutdown then
      (c.observed []).goto (if c.localToRemoteOpen then .drainingUpload [] else .flushing)
    else c
  | .read bytes =>
    let read := bytes.take params.dataFrameSize
    if !c.localToRemoteOpen then c
    else if read = [] then c.goto .sendingClose
    else c.goto (.sendingData read)
  | .fail => if c.localToRemoteOpen then c.goto (.closingError .relayFailed) else c
  | .receive =>
    match c.flow.queue with
    | [] => if c.flow.routeClosed then c.goto (.shuttingLocal false) else c
    | frame :: _ => c.pop.relayFrame frame
  | _ => c

def writing (c : RelayConn) (rest : Bytes) (shuttingDown : Bool) : RelayInput → RelayConn
  | .accept more =>
    if c.shutAfter.isSome then c
    else if rest.drop (more + 1) ≠ [] then
      (c.write rest more).goto (.writing (rest.drop (more + 1)) shuttingDown)
    else if shuttingDown then (c.write rest more).goto (.shuttingLocal false)
    else if c.shutdown then ((c.write rest more).observed []).goto (.shuttingLocal false)
    else (c.write rest more).goto .relaying
  | .fail => c.goto (.closingError .relayFailed)
  | .observe => if c.shutdown ∧ !shuttingDown then (c.observed rest).goto (.writing rest true) else c
  | .expire => if shuttingDown then c.goto (.closingError .relayFailed) else c
  | _ => c

def drainingUpload (params : RelayParams) (c : RelayConn) :
    (chunks : List Bytes) → RelayInput → RelayConn
  | [], .read bytes =>
    let read := bytes.take params.dataFrameSize
    if read = [] then c.goto .closingUpload
    else c.goto (.drainingUpload (chunksOf params.dataFrameSize read))
  | [], .fail => c.goto (.closingError .relayFailed)
  | [], .expire => c.goto .closingUpload
  | [], _ => c
  | chunk :: chunks, input =>
    match outcome input with
    | none => c
    | some written =>
      c.sendThen (tcpDataFrame c.flow.flowId chunk) written (·.goto (.drainingUpload chunks))

def flushing : RelayConn :=
  match c.flow.queue with
  | [] => c.goto (.shuttingLocal false)
  | frame :: _ =>
    if frame.header.frameType ≠ .tcpData then c.pop.goto (.shuttingLocal false)
    else if frame.payload = [] then c.pop
    else c.pop.goto (.flushingWrite frame.payload)

def flushingWrite (c : RelayConn) (rest : Bytes) : RelayInput → RelayConn
  | .accept more =>
    if c.shutAfter.isSome then c
    else if rest.drop (more + 1) ≠ [] then
      (c.write rest more).goto (.flushingWrite (rest.drop (more + 1)))
    else (c.write rest more).goto .flushing
  | .fail => c.goto (.closingError .relayFailed)
  | _ => c

def shutLocal (localToRemoteOpen : Bool) : RelayConn :=
  { c with
    stage := if localToRemoteOpen then .relaying else .returned .relayed
    localToRemoteOpen := localToRemoteOpen
    remoteToLocalOpen := false
    shutAfter := c.shutAfter.or (some c.written) }

def go (input : RelayInput) : RelayConn :=
  match c.stage with
  | .connecting attempt => c.connecting params attempt input
  | .opening attempt => c.opening params attempt input
  | .cancelling result =>
    match outcome input with
    | none => c
    | some written => (c.sendClose tcpCloseError written).1.goto (.returned result)
  | .replying =>
    match outcome input with
    | none => c
    | some true => c.flushPending (c.pendingLocalData.flatMap (chunksOf params.dataFrameSize))
    | some false => c.goto (.closingError .replyFailed)
  | .flushingPending chunks =>
    match chunks, outcome input with
    | chunk :: chunks, some written =>
      c.sendThen (tcpDataFrame c.flow.flowId chunk) written (·.flushPending chunks)
    | _, _ => c
  | .relaying => c.relaying params input
  | .sendingData payload =>
    match outcome input with
    | none => c
    | some written => c.sendThen (tcpDataFrame c.flow.flowId payload) written (·.goto .relaying)
  | .sendingClose =>
    match outcome input with
    | none => c
    | some written =>
      c.sendThen (FlowProtocol.tcp.closeFrame c.flow.flowId tcpCloseNormal) written closeUpload
  | .writing rest shuttingDown => c.writing rest shuttingDown input
  | .drainingUpload chunks => c.drainingUpload params chunks input
  | .closingUpload =>
    match outcome input with
    | none => c
    | some written =>
      { (c.sendClose tcpCloseNormal written).1 with
        stage := .flushing, localToRemoteOpen := false }
  | .flushing => if input = .receive then c.flushing else c
  | .flushingWrite rest => c.flushingWrite rest input
  | .shuttingLocal localToRemoteOpen =>
    match outcome input with
    | none => c
    | some true => c.shutLocal localToRemoteOpen
    | some false => c.goto (.closingError .relayFailed)
  | .closingError result =>
    match outcome input with
    | none => c
    | some written => (c.sendClose tcpCloseError written).1.goto (.returned result)
  | .returned _ => c

def step (input : RelayInput) : RelayConn :=
  match input with
  | .deliver frame => c.deliver frame
  | .closeRoute => c.closeRoute
  | .signalShutdown => { c with shutdown := true }
  | input => c.go params input

end RelayConn

def relayRun (params : RelayParams) (inputs : List RelayInput) : RelayConn :=
  (run (silent (RelayConn.step params)) {} inputs).1

end UncrownedKing.Client
