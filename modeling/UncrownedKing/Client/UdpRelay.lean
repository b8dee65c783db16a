import UncrownedKing.Client.SessionMachine
import UncrownedKing.Client.TcpRelay
import UncrownedKing.Proto.SizeLaws

/-!
# Traffic over several sessions

The client's sessions, each with the limits its own server set, and the tasks
that write on them. A UDP worker sends a datagram on the flow it has, which may
be of an older session, or opens one.
-/

namespace UncrownedKing.Client

open Lib Proto

structure DatagramChannel where
  maxDatagramSize : Option Nat
  deriving DecidableEq, Repr

structure SessionConfig where
  maxSocksConnections : Nat
  relayBufferSize : Nat
  maxBufferedBytesPerSession : Nat
  maxBufferedBytesPerFlow : Nat
  deriving DecidableEq, Repr

/-- What the configuration says of uploads. -/
structure RelayConfig where
  maxPendingOpenBytes : Option Nat := none
  relayBufferSize : Option Nat := none
  deriving DecidableEq, Repr

def RelayConfig.maxPendingOpen (config : RelayConfig) : Nat :=
  config.maxPendingOpenBytes.getD 65536

def RelayConfig.bufferSize (config : RelayConfig) : Nat := config.relayBufferSize.getD (16 * 1024)

def RelayConfig.validate (config : RelayConfig) : Except String Unit :=
  if config.maxPendingOpen = 0 then .error "max_pending_open_bytes must be greater than zero"
  else if config.maxPendingOpen > maxFramePayloadSize then
    .error s!"max_pending_open_bytes must be at most {maxFramePayloadSize}"
  else
    match config.relayBufferSize with
    | none => .ok ()
    | some size =>
      if size < 1024 then .error "relay_buffer_size must be at least 1024"
      else if size > 1024 * 1024 then .error "relay_buffer_size must be at most 1048576"
      else .ok ()

def tcpDataFrameSize (limits : FrameLimits) (relayBufferSize : Nat) : Nat :=
  min limits.maxFrameSize relayBufferSize

structure ClientSession where
  limits : FrameLimits
  dataFrameSize : Nat
  flowLimits : SessionLimits
  supportsUdpStreamFallback : Bool
  supportsUdpDatagram : Bool
  datagrams : Option DatagramChannel
  tasks : Threads Session Program
  le_limits : minTcpRelayFrameSize ≤ limits.maxFrameSize
  dataFrameSize_le : dataFrameSize ≤ limits.maxFrameSize

def clientSettings (config : SessionConfig) (supportsUdpDatagram : Bool) : Settings :=
  let streams := min config.maxSocksConnections maxNegotiatedFlows
  Settings.empty.set .protocolRevision protocolRevisionV1
    |>.set .maxFrameSize maxFramePayloadSize
    |>.set .maxStreams streams
    |>.set .maxUdpFlows streams
    |>.set .supportsUdpDatagram supportsUdpDatagram.toNat
    |>.set .supportsUdpStreamFallback 1
    |>.set .idleTimeoutSeconds 0

def handshakeFrames (config : SessionConfig) (response : Auth.AuthResponse)
    (supportsUdpDatagram : Bool) : Option (List Frame) := do
  let response ← (Auth.AuthResponse.encode { response with clientCapabilities := [] }).toOption
  let response ← (Frame.new .authResponse 0 0 response).toOption
  let settings ← (clientSettings config supportsUdpDatagram).encode.toOption
  let settings ← (Frame.new .settings 0 0 settings).toOption
  pure [response, settings]

namespace ClientSession

def connect (config : SessionConfig) (response : Auth.AuthResponse) (settings : Settings)
    (datagrams : Option DatagramChannel) : Option ClientSession :=
  match h : settings.negotiated with
  | .error _ => none
  | .ok negotiated => do
    let frames ← handshakeFrames config response datagrams.isSome
    let datagrams := datagrams.filter (·.maxDatagramSize.isSome)
    let udp := negotiated.maxUdpFlows != 0
    let supportsUdpStreamFallback := negotiated.supportsUdpStreamFallback && udp
    let supportsUdpDatagram := negotiated.supportsUdpDatagram && datagrams.isSome && udp
    pure {
      limits := ⟨negotiated.maxFrameSize⟩
      dataFrameSize := tcpDataFrameSize ⟨negotiated.maxFrameSize⟩ config.relayBufferSize
      flowLimits := {
        maxStreams := negotiated.maxStreams
        maxUdpFlows := negotiated.maxUdpFlows
        supportsUdpRelay := supportsUdpStreamFallback || supportsUdpDatagram
        maxBufferedBytesPerFlow := config.maxBufferedBytesPerFlow
        maxBufferedBytesPerSession := config.maxBufferedBytesPerSession }
      supportsUdpStreamFallback
      supportsUdpDatagram
      datagrams
      tasks := ⟨{ log := frames.map .wrote }, fun _ => []⟩
      le_limits := Settings.negotiated_maxFrameSize h
      dataFrameSize_le := Nat.min_le_left _ _ }

def isClosed (session : ClientSession) : Bool := session.tasks.shared.closed

def isDraining (session : ClientSession) : Bool := session.tasks.shared.draining

/-- The frames written on the session, from the handshake on. -/
def written (session : ClientSession) : List Frame :=
  session.tasks.shared.log.filterMap fun
    | .wrote frame => some frame
    | _ => none

def idle (session : ClientSession) (task : Nat) : Bool := session.tasks.pc task = []

def step (session : ClientSession) (task : Nat) (input : SessionInput) : ClientSession :=
  { session with tasks := session.tasks.step (Session.step session.flowLimits) (task, input) }

def start (session : ClientSession) (task : Nat) (program : Program) : ClientSession :=
  if session.idle task then
    { session with
      tasks := ⟨session.tasks.shared, Function.update session.tasks.pc task program⟩ }
  else session

def send (session : ClientSession) (task : Nat) (frame : ProtocolResult Frame) (choice : Choice) :
    ClientSession :=
  (session.start task [.writeFrame frame .ignore]).step task (.go choice)

def sends (session : ClientSession) (frame : ProtocolResult Frame) (choice : Choice) : Bool :=
  frame.toBool && !session.isClosed && choice ≠ .fail

def openOutcome (session : ClientSession) (task : Nat) : Option (Except OpenError OpenOutcome) :=
  if session.idle task then
    session.tasks.shared.log.reverse.findSome? fun
      | .openFinished opener outcome => if opener = task then some outcome else none
      | _ => none
  else none

def maxDatagramSize (session : ClientSession) : Option Nat :=
  session.datagrams.bind (·.maxDatagramSize)

def maxUdpPayloadLenFor (session : ClientSession) (flowId : Nat) : Nat :=
  if session.supportsUdpStreamFallback then session.dataFrameSize
  else
    let datagramLimit := do
      let max ← session.maxDatagramSize
      let overhead ← (Varint.encodedLen flowId).toOption
      if overhead ≤ max then some (max - overhead) else none
    min (datagramLimit.getD 0) session.dataFrameSize

def trySendUdpDatagram (session : ClientSession) (flowId : Nat) (payload : Bytes)
    (taken : Bool) : Bool :=
  session.supportsUdpDatagram &&
    match session.maxDatagramSize, Varint.encodedLen flowId with
    | some max, .ok overhead => decide (overhead + payload.length ≤ max) && taken
    | _, _ => false

end ClientSession

inductive Traffic
  | openFlow (target : Target)
  | removeFlow (flowId : Nat)
  | readFrame (bytes : Bytes)
  | readFailed (code : Option ErrorCode)
  | tcpRead (flowId : Nat) (bytes : Bytes)
  | tcpUpload (flowId : Nat) (payload : Bytes)
  | sendClose (protocol : FlowProtocol) (flowId : Nat) (closeCode : UInt16)
  | ping (nonce : Nat)
  | beginDrain
  | close

def Traffic.program (session : ClientSession) : Traffic → Program
  | .openFlow target => (SessionCall.openFlow target).program
  | .removeFlow flowId => (SessionCall.removeFlow flowId).program
  | .readFrame bytes =>
    match Frame.decode session.limits bytes with
    | .ok (frame, _) => (SessionCall.carrierFrame frame).program
    | .error _ => []
  | .readFailed code => (SessionCall.carrierFailed code).program
  | .tcpRead flowId bytes =>
    let read := bytes.take session.dataFrameSize
    if read = [] then
      [.writeFrame (FlowProtocol.tcp.closeFrame flowId tcpCloseNormal) .ignore]
    else [.writeFrame (tcpDataFrame flowId read) .ignore]
  | .tcpUpload flowId payload =>
    (chunksOf session.dataFrameSize payload).map fun chunk =>
      .writeFrame (tcpDataFrame flowId chunk) .ignore
  | .sendClose protocol flowId closeCode =>
    [.writeFrame (protocol.closeFrame flowId closeCode) .ignore]
  | .ping nonce => [.writeFrame (Frame.new .ping 0 0 (toBe 8 nonce)) .ignore]
  | .beginDrain => SessionCall.beginDrain.program
  | .close => SessionCall.close.program

structure UdpAssociationFlow where
  session : Nat
  id : Nat
  deriving DecidableEq, Repr

inductive WorkerStage
  | waiting
  | attempt (attempt : Nat) (payload : Bytes)
  | admitting (attempt openAttempt : Nat) (payload : Bytes)
  | opening (attempt openAttempt : Nat) (payload : Bytes) (session : Nat)
  | removing (flow : UdpAssociationFlow) (next : WorkerStage)
  /-- `close_worker_flow` after the loop. -/
  | closing
  | ended
  deriving DecidableEq, Repr

structure UdpWorker where
  association : Nat
  target : Target
  queue : List Bytes
  current : Option UdpAssociationFlow := none
  cancelled : Bool := false
  stage : WorkerStage := .waiting
  deriving DecidableEq, Repr

inductive WorkerInput
  | receive
  | go (taken : Bool) (choice : Choice)
  | admitted (session : Nat)
  /-- No admission: no capacity, an error or a cancellation. -/
  | refused
  | relayEnded (flow : UdpAssociationFlow) (choice : Choice)
  | cancel
  /-- The loop ends: cancelled, without a feed, or idle. -/
  | stop
  deriving DecidableEq, Repr

structure ClientState where
  sessions : List ClientSession := []
  pool : List Nat := []
  workers : List UdpWorker := []

def udpTargetQueueCapacity : Nat := 8
def udpSendAttempts : Nat := 2
def firstClientFlowId : Nat := 1

def udpDataFrame (flowId : Nat) (payload : Bytes) : ProtocolResult Frame :=
  Frame.new .udpData 0 flowId payload

/-- The worker is done with a datagram that it could not send. -/
def UdpWorker.dropped (worker : UdpWorker) : UdpWorker :=
  { worker with stage := if worker.cancelled then .closing else .waiting }

/-- The flow is dead; the next attempt opens another. -/
def UdpWorker.failed (worker : UdpWorker) (attempt : Nat) (payload : Bytes)
    (flow : UdpAssociationFlow) : UdpWorker :=
  { worker with
    current := none
    stage := .removing flow
      (if attempt + 1 < udpSendAttempts then .attempt (attempt + 1) payload else .waiting) }

namespace ClientState

variable (c : ClientState)

def onSession (i : Nat) (f : ClientSession → ClientSession) : ClientState :=
  { c with sessions := c.sessions.modify i f }

def setWorker (w : Nat) (worker : UdpWorker) : ClientState :=
  { c with workers := c.workers.set w worker }

def isLive (i : Nat) : Bool :=
  (c.sessions[i]?).any fun session => !session.isClosed

def isAdmitting (i : Nat) : Bool :=
  (c.sessions[i]?).any fun session => !session.isClosed && !session.isDraining

def liveSessions : ClientState := { c with pool := c.pool.filter c.isLive }

def firstLiveSession : Option ClientSession := do
  let i ← c.liveSessions.pool.find? c.isAdmitting
  c.sessions[i]?

def enqueueDatagram (association : Nat) (target : Target) (payload : Bytes) : ClientState :=
  match c.workers.findIdx? fun worker =>
      worker.association = association ∧ worker.target = target ∧ worker.stage ≠ .ended with
  | none => { c with workers := c.workers ++ [⟨association, target, [payload], none, false, .waiting⟩] }
  | some w =>
    { c with
      workers := c.workers.modify w fun worker =>
        if worker.queue.length < udpTargetQueueCapacity then
          { worker with queue := worker.queue ++ [payload] }
        else worker }

def handleLocalUdpDatagram (association : Nat) (target : Target) (payload : Bytes) : ClientState :=
  match c.firstLiveSession with
  | none => c.liveSessions.enqueueDatagram association target payload
  | some session =>
    if payload.length > session.maxUdpPayloadLenFor firstClientFlowId then c.liveSessions
    else c.liveSessions.enqueueDatagram association target payload

def sendUdpData (w : Nat) (worker : UdpWorker) (attempt : Nat) (payload : Bytes)
    (flow : UdpAssociationFlow) (session : ClientSession) (taken : Bool) (choice : Choice) :
    ClientState :=
  if session.trySendUdpDatagram flow.id payload taken then
    c.setWorker w { worker with stage := .waiting }
  else if !session.supportsUdpStreamFallback then
    c.setWorker w (worker.failed attempt payload flow)
  else
    let frame := udpDataFrame flow.id payload
    (c.onSession flow.session (·.send w frame choice)).setWorker w
      (if session.sends frame choice then { worker with stage := .waiting }
        else worker.failed attempt payload flow)

def closeFlow (w : Nat) (worker : UdpWorker) (flow : UdpAssociationFlow)
    (closeCode : UInt16) (choice : Choice) (next : WorkerStage) : ClientState :=
  (c.onSession flow.session
      (·.send w (FlowProtocol.udp.closeFrame flow.id closeCode) choice)).setWorker w
    { worker with current := none, stage := .removing flow next }

def opened (c : ClientState) (w : Nat) (worker : UdpWorker) (attempt openAttempt : Nat)
    (payload : Bytes) (i : Nat) (session : ClientSession) (taken : Bool) (choice : Choice) :
    ClientState :=
  match session.openOutcome w with
  | none => c
  | some (.ok (.opened flowId)) =>
    let flow := ⟨i, flowId⟩
    if payload.length > session.maxUdpPayloadLenFor flowId then
      c.closeFlow w worker flow udpCloseError choice .waiting
    else
      c.sendUdpData w { worker with current := some flow } attempt payload flow session taken
        choice
  | some (.ok _) => c.setWorker w worker.dropped
  | some (.error _) =>
    if openAttempt = 0 then c.setWorker w { worker with stage := .admitting attempt 1 payload }
    else c.setWorker w worker.dropped

def workerGo (w : Nat) (worker : UdpWorker) (taken : Bool) (choice : Choice) : ClientState :=
  match worker.stage with
  | .attempt attempt payload =>
    if worker.cancelled then c.setWorker w { worker with stage := .closing }
    else
      match worker.current with
      | none => c.setWorker w { worker with stage := .admitting attempt 0 payload }
      | some flow =>
        match c.sessions[flow.session]? with
        | none => c
        | some session =>
          if session.isClosed then
            c.setWorker w
              { worker with
                current := none, stage := .removing flow (.admitting attempt 0 payload) }
          else c.sendUdpData w worker attempt payload flow session taken choice
  | .opening attempt openAttempt payload i =>
    match c.sessions[i]? with
    | none => c
    | some session => c.opened w worker attempt openAttempt payload i session taken choice
  | .removing flow next =>
    if (c.sessions[flow.session]?).any (·.idle w) then
      (c.onSession flow.session (·.start w (SessionCall.removeFlow flow.id).program)).setWorker w
        { worker with stage := next }
    else c
  | .closing =>
    match worker.current with
    | none => c.setWorker w { worker with stage := .ended }
    | some flow => c.closeFlow w worker flow udpCloseNormal choice .ended
  | _ => c

def workerStep (w : Nat) (worker : UdpWorker) : WorkerInput → ClientState
  | .receive =>
    match worker.stage, worker.queue with
    | .waiting, payload :: queue =>
      c.setWorker w { worker with queue := queue, stage := .attempt 0 payload }
    | _, _ => c
  | .go taken choice => c.workerGo w worker taken choice
  | .admitted i =>
    match worker.stage with
    | .admitting attempt openAttempt payload =>
      if i ∈ c.pool ∧ c.isAdmitting i ∧ (c.sessions[i]?).any (·.idle w) then
        (c.onSession i (·.start w (SessionCall.openUdpFlow worker.target).program)).setWorker w
          { worker with stage := .opening attempt openAttempt payload i }
      else c
    | _ => c
  | .refused =>
    match worker.stage with
    | .admitting _ _ _ => c.setWorker w worker.dropped
    | _ => c
  | .relayEnded flow choice =>
    if worker.stage = .waiting ∧ worker.current = some flow then
      c.closeFlow w worker flow udpCloseNormal choice .waiting
    else c
  | .cancel => c.setWorker w { worker with cancelled := true }
  | .stop => if worker.stage = .waiting then c.setWorker w { worker with stage := .closing } else c

end ClientState

inductive ClientInput
  | connect (config : SessionConfig) (response : Auth.AuthResponse) (settings : Settings)
      (datagrams : Option DatagramChannel)
  | pathChanged (session : Nat) (maxDatagramSize : Option Nat)
  | reload
  /-- `invalidate`. -/
  | unpool (session : Nat)
  | begin (session task : Nat) (traffic : Traffic)
  | go (session task : Nat) (choice : Choice)
  | inboundDatagram (session task flowId : Nat) (payload : Bytes)
  | receive (session task flowId : Nat)
  | dropFlow (session task flowId : Nat)
  | localDatagram (association : Nat) (target : Target) (payload : Bytes)
  | worker (worker : Nat) (input : WorkerInput)

def ClientState.step (c : ClientState) : ClientInput → ClientState
  | .connect config response settings datagrams =>
    match ClientSession.connect config response settings datagrams with
    | none => c
    | some session =>
      { c with sessions := c.sessions ++ [session], pool := c.pool ++ [c.sessions.length] }
  | .pathChanged i size =>
    c.onSession i fun session =>
      { session with datagrams := session.datagrams.map fun _ => ⟨size⟩ }
  | .reload => { c with pool := [] }
  | .unpool i => { c with pool := c.pool.filter (· != i) }
  | .begin i task traffic =>
    c.onSession i fun session => session.start task (traffic.program session)
  | .go i task choice => c.onSession i (·.step task (.go choice))
  | .inboundDatagram i task flowId payload =>
    c.onSession i (·.step task (.datagram flowId payload))
  | .receive i task flowId => c.onSession i (·.step task (.receive flowId))
  | .dropFlow i task flowId => c.onSession i (·.step task (.dropFlow flowId))
  | .localDatagram association target payload => c.handleLocalUdpDatagram association target payload
  | .worker w input =>
    match c.workers[w]? with
    | none => c
    | some worker => c.workerStep w worker input

def clientRun (inputs : List ClientInput) : ClientState :=
  (run (silent ClientState.step) {} inputs).1

end UncrownedKing.Client
