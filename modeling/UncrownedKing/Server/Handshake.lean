import UncrownedKing.Proto.Settings
import UncrownedKing.Server.Masking

/-!
# The handshake

Both carriers run the same exchange of frames, under one deadline and against
shutdown. The session that follows is left out: an event marks its start.
-/

namespace UncrownedKing.Server

open Lib Proto Auth

def phaseError (phase : String) (failureReason : HandshakeFailureReason) (source : AnyError) :
    AnyError :=
  .phase phase failureReason source

def mapErr (x : Except ε α) (f : ε → AnyError) : HandshakeM α := ExceptT.mk (pure (x.mapError f))

def emit (event : ConnectionEvent) : HandshakeM Unit := ExceptT.lift (Timed.emit event)

def carrierErrorWriteTimeout : Duration := fromSecs 5

def connectionErrorFrame (code : ErrorCode) : ProtocolResult Frame := do
  let payload ← code.encodePayload
  Frame.new .error 0 0 payload

variable (crypto : Crypto) (world : World)

def writeConnectionError (code : ErrorCode) : ConnectionM Unit := do
  match connectionErrorFrame code with
  | .error _ => pure ()
  | .ok frame =>
    Timed.emit (.sent frame)
    let _ ← Timed.timeout world.timers carrierErrorWriteTimeout (Timed.await world.errorWritten)
    pure ()

def reportHandshakeFrameIoError : FrameIoError → ConnectionM Unit
  | .protocol error => writeConnectionError world (.fromProtocolError error)
  | .closed | .io _ => pure ()

def failWith (code : ErrorCode) (error : AnyError) : HandshakeM α := do
  writeConnectionError world code
  throw error

def tryUnixNow (message : String) : HandshakeM UInt64 := do
  let now ← (Timed.clock : ConnectionM Instant)
  match world.wallClock now with
  | some unixNow => pure unixNow
  | none => throw (phaseError "read system clock" .auth (.text message))

def sendAuthChallenge (now : UInt64) : HandshakeM AuthChallenge := do
  let challenge : AuthChallenge := ⟨world.serverNonce, now, [], []⟩
  let payload ← mapErr challenge.encode (phaseError "encode auth challenge" .auth ∘ .auth)
  let frame ← mapErr (Frame.new .authChallenge 0 0 payload)
    (phaseError "build auth challenge frame" .auth ∘ .protocol)
  emit (.sent frame)
  let written ← (Timed.await world.challengeWritten : ConnectionM _)
  mapErr written fun err =>
    phaseError "write auth challenge" (frameIoFailureReason err) (.frameIo err)
  pure challenge

def readAuthResponse (config : ServerConfig) : HandshakeM AuthResponse := do
  let read ← (Timed.await (world.response config.maxPreAuthBytes) : ConnectionM _)
  match read with
  | .error err =>
    reportHandshakeFrameIoError world err
    throw (phaseError "read auth response" (frameIoFailureReason err) (.frameIo err))
  | .ok frame =>
    match validateConnectionFrame frame .authResponse with
    | .error err =>
      failWith world .protocol (phaseError "validate auth response" .protocol (.protocol err))
    | .ok () =>
      match AuthResponse.decode frame.payload with
      | .error err =>
        failWith world .authFailed (phaseError "decode auth response" .auth (.auth err))
      | .ok response => pure response

def refuse (phase : String) (err : AuthError) : HandshakeM α := do
  emit (.verifyFailed err)
  failWith world .authFailed (phaseError phase .auth (.auth err))

/-- Nothing here reads the cache again. -/
def checkReplay (challenge : AuthChallenge) (response : AuthResponse) : HandshakeM Unit := do
  let cache ← (Timed.await world.replayCache : ConnectionM _)
  let now ← (Timed.clock : ConnectionM Instant)
  match (cache.checkAndInsertAt now challenge.serverNonce response.clientNonce).2 with
  | .error err => refuse world "verify auth response replay" err
  | .ok () => pure ()

def authenticateCarrier (exporter : Exporter)
    (authentication : SecurityGeneration) (config : ServerConfig) :
    HandshakeM AuthenticatedIdentity := do
  let now ← tryUnixNow world "system clock is before the Unix epoch"
  let challenge ← sendAuthChallenge world now
  let response ← readAuthResponse world config
  let verifyNow ← tryUnixNow world "system clock error"
  match verifyAuthResponseIdentityStateless crypto authentication.credentials exporter challenge
      response verifyNow authentication.authSkew with
  | .error err => refuse world "verify auth response" err
  | .ok identity =>
    checkReplay world challenge response
    pure identity

def alpnProtocol : Bytes := [0x75, 0x6b, 0x2f, 0x31]

def ensureAlpn (protocol : Option Bytes) : Except String Unit :=
  if protocol = some alpnProtocol then .ok () else .error "UK ALPN protocol was not negotiated"

def completeHandshake (authentication : SecurityGeneration)
    (config : ServerConfig) (stream : CarrierStream) : HandshakeM AuthenticatedIdentity := do
  emit (.accept stream)
  let accepted ← (Timed.await (world.tlsAccept stream) : ConnectionM _)
  let session ← mapErr accepted (phaseError "tls accept" .tls ∘ .io)
  mapErr (ensureAlpn session.alpnProtocol) (phaseError "tls alpn verify" .tls ∘ .text)
  let exporter ← mapErr session.exporter (phaseError "tls exporter" .tls ∘ .text)
  authenticateCarrier crypto world exporter authentication config

def quicEnsureAlpn : Option (Option Bytes) → Except String Unit
  | none => .error "QUIC connection is missing handshake data"
  | some protocol => ensureAlpn protocol

def acceptCarrier (session : QuicSession) : HandshakeM Exporter := do
  let failed := phaseError "quic carrier" .tls ∘ AnyError.text
  mapErr (quicEnsureAlpn session.handshakeData) failed
  let exporter ← mapErr session.exporter failed
  let opened ← (Timed.await world.quicOpenBi : ConnectionM _)
  mapErr opened fun err => failed s!"failed to open QUIC control stream: {err}"
  pure exporter

def quicHandshake (authentication : SecurityGeneration)
    (config : ServerConfig) : HandshakeM AuthenticatedIdentity := do
  let incoming ← (Timed.await world.quicIncoming : ConnectionM _)
  let session ← mapErr incoming (phaseError "quic accept" .tls ∘ .text)
  let exporter ← acceptCarrier world session
  authenticateCarrier crypto world exporter authentication config

def serverSettings (config : ServerConfig) (supportsUdpDatagram : Bool) : Settings :=
  let udp := config.maxUdpFlows != 0
  Settings.empty.set .protocolRevision protocolRevisionV1
    |>.set .maxFrameSize config.maxFrameSize.toNat
    |>.set .maxStreams config.maxStreams.toNat
    |>.set .maxUdpFlows config.maxUdpFlows.toNat
    |>.set .supportsUdpDatagram (supportsUdpDatagram && udp).toNat
    |>.set .supportsUdpStreamFallback udp.toNat
    |>.set .idleTimeoutSeconds config.idleTimeoutSeconds.toNat

/-- The settings, or a refusal when all session permits are taken. -/
def greeting (config : ServerConfig) (sessionPermit supportsUdpDatagram : Bool) :
    ProtocolResult Frame :=
  if sessionPermit then do
    let payload ← (serverSettings config supportsUdpDatagram).encode
    Frame.new .settings 0 0 payload
  else connectionErrorFrame .resourceLimit

def handshakeTimeout (seconds : UInt64) : Option Duration :=
  if seconds ≠ 0 then some (fromSecs seconds.toNat) else none

def deadlineExceeded : AnyError := phaseError "handshake" .timeout (.text "deadline exceeded")

def withinDeadline (timeout : Option Duration) (handshake : HandshakeM α) :
    ConnectionM (Except AnyError α) :=
  match timeout with
  | none => handshake.run
  | some d => do
    let result ← Timed.timeout world.timers d handshake.run
    pure (result.getD (.error deadlineExceeded))

def unlessShutdown (x : ConnectionM α) : ConnectionM (Option α) :=
  match world.shutdown with
  | none => some <$> x
  | some at' => fun t => Timed.untilAt (max t at') world.beforeShutdown x t

def concludeHandshake :
    Option (Except AnyError AuthenticatedIdentity) → ConnectionM (Except AnyError Unit)
  | none => do
    Timed.emit .stopped
    pure (.ok ())
  | some (.ok identity) => do
    Timed.emit (.recordSuccess world.peer.ip)
    let now ← Timed.clock
    Timed.emit (if world.isShutdown now then .stopped else .session identity)
    pure (.ok ())
  | some (.error err) => do
    let reason := handshakeFailureReason err
    Timed.emit (.failedHandshake reason)
    if reason = .auth then Timed.emit (.recordFailure world.peer.ip)
    pure (.error err)

def serveAuthenticatedCarrier (config : ServerConfig)
    (handshake : HandshakeM AuthenticatedIdentity) : ConnectionM (Except AnyError Unit) := do
  Timed.emit .beginHandshake
  let result ← unlessShutdown world
    (withinDeadline world (handshakeTimeout config.handshakeTimeoutSeconds) handshake)
  concludeHandshake world result

def whileRunning (x : ConnectionM (Except AnyError Unit)) : ConnectionM (Except AnyError Unit) := do
  let now ← Timed.clock
  if world.isShutdown now then
    Timed.emit .stopped
    pure (.ok ())
  else x

def acquireHandshakePermit (x : ConnectionM (Except AnyError Unit)) :
    ConnectionM (Except AnyError Unit) := do
  if world.handshakePermit then x
  else
    Timed.emit .rejectedHandshake
    pure (.ok ())

def serveTcp (runtime : ServerRuntime) (world : World)
    (stream : CarrierStream) : ConnectionM (Except AnyError Unit) :=
  acquireHandshakePermit world
    (serveAuthenticatedCarrier world runtime.config
      (completeHandshake crypto world runtime.security.current runtime.config stream))

/-- A rejected connection is no error. -/
def serveMasked (runtime : ServerRuntime) (world : World) : ConnectionM (Except AnyError Unit) := do
  let admissionTimeout := fromSecs runtime.config.handshakeTimeoutSeconds.toNat
  match ← admitTcp crypto.hmac world runtime.security.current.maskKeys admissionTimeout with
  | .ok masked => serveTcp crypto runtime world masked
  | .error _ => pure (.ok ())

/-- Keepalive is best effort and left out. -/
def handleConnection (runtime : ServerRuntime) (world : World) :
    ConnectionM (Except AnyError Unit) :=
  match world.setNodelay with
  | .error err => pure (.error (.io err))
  | .ok () => whileRunning world
    (match runtime.masking with
    | some _ => serveMasked crypto runtime world
    | none => serveTcp crypto runtime world (.plain world.tcp))

/-- The permit of a QUIC connection is taken by its caller. -/
def handleQuicConnection (runtime : ServerRuntime) (world : World) :
    ConnectionM (Except AnyError Unit) :=
  whileRunning world
    (serveAuthenticatedCarrier world runtime.config
      (quicHandshake crypto world runtime.security.current runtime.config))

end UncrownedKing.Server
