import UncrownedKing.Auth.Transcript
import UncrownedKing.Client.DegradedEndpoints
import UncrownedKing.Client.UdpRelay

/-!
# The client's handshake

What the client makes of the two frames it reads before it has a session, the
challenge and the server's reply, and what it writes. A write that fails ends
the handshake and is left out.
-/

namespace UncrownedKing.Client

open Lib Proto Auth

inductive HandshakeSource
  | frameIo (error : FrameIoError)
  | protocol (error : ProtocolError)
  | auth (error : AuthError)
  deriving DecidableEq, Repr

inductive HandshakeError
  | phase (phase : String) (failurePhase : EndpointFailurePhase) (source : HandshakeSource)
  | server (code : ErrorCode)
  | text (message : String)
  deriving DecidableEq, Repr

def HandshakeError.attempt : HandshakeError → AttemptError
  | .phase _ failurePhase _ => .handshakePhase failurePhase
  | .server code => .serverHandshake code
  | .text _ => .unknown

def orFail (x : Except ε α) (source : ε → HandshakeSource) (phase : String)
    (failurePhase : EndpointFailurePhase) : Except HandshakeError α :=
  x.mapError (.phase phase failurePhase ∘ source)

/-- The nonce is drawn and the clock is read while the response is built. -/
structure ClientIdentity where
  keyId : Bytes
  secret : Bytes
  nonce : Nonce
  unixNow : UInt64

def answerChallenge (hmac : Bytes → Bytes → Tag) (client : ClientIdentity) (exporter : Exporter)
    (read : Except FrameIoError Frame) : Except HandshakeError Frame := do
  let frame ← orFail read .frameIo "read auth challenge" .auth
  orFail (validateConnectionFrame frame .authChallenge) .protocol "validate auth challenge" .protocol
  let challenge ← orFail (AuthChallenge.decode frame.payload) .auth "decode auth challenge"
    .protocol
  let response ← orFail (AuthResponse.forChallenge hmac client.keyId client.secret exporter
    challenge client.nonce client.unixNow []) .auth "build auth response" .auth
  let payload ← orFail response.encode .auth "encode auth response" .auth
  orFail (Frame.new .authResponse 0 0 payload) .protocol "build auth response frame" .auth

def decodeServerSettingsFrame (frame : Frame) : Except HandshakeError Settings :=
  match frame.header.frameType with
  | .settings => do
    orFail (validateConnectionFrame frame .settings) .protocol "validate server settings" .protocol
    let settings ← orFail (Settings.decode frame.payload) .protocol "decode server settings"
      .protocol
    let _ ← orFail settings.negotiated .protocol "negotiate server settings" .settings
    pure settings
  | .error => do
    orFail (validateConnectionFrame frame .error) .protocol "validate server handshake error"
      .protocol
    let code ← orFail (ErrorCode.decodePayload frame.payload) .protocol
      "decode server handshake error" .protocol
    throw (.server code)
  | _ => do
    orFail (validateConnectionFrame frame .settings) .protocol "validate server response" .protocol
    throw (.text "unexpected connection frame type")

def exchangeSettings (config : SessionConfig) (datagrams : Bool)
    (read : Except FrameIoError Frame) : Except HandshakeError (Settings × Frame) := do
  let frame ← orFail read .frameIo "read server settings" .auth
  let settings ← decodeServerSettingsFrame frame
  let _ ← orFail settings.negotiated .protocol "negotiate server settings" .settings
  let payload ← orFail (clientSettings config datagrams).encode .protocol "encode client settings"
    .settings
  let frame ← orFail (Frame.new .settings 0 0 payload) .protocol "build client settings frame"
    .settings
  pure (settings, frame)

/-- The frames written and the result. -/
def concluded (response : Frame) : Except HandshakeError (Settings × Frame) →
    List Frame × Except HandshakeError Settings
  | .error error => ([response], .error error)
  | .ok (settings, own) => ([response, own], .ok settings)

/-- What the two reads answer is an argument. -/
def authenticateOverCarrier (hmac : Bytes → Bytes → Tag) (config : SessionConfig)
    (client : ClientIdentity) (exporter : Exporter) (datagrams : Bool)
    (challenge reply : Except FrameIoError Frame) : List Frame × Except HandshakeError Settings :=
  match answerChallenge hmac client exporter challenge with
  | .error error => ([], .error error)
  | .ok response => concluded response (exchangeSettings config datagrams reply)

end UncrownedKing.Client
