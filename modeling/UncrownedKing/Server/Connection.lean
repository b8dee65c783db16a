import UncrownedKing.Auth.Verify
import UncrownedKing.Mask.Prelude
import UncrownedKing.Proto.Frame
import UncrownedKing.Server.CommitGate

/-!
# One connection

The errors and events of a connection handler, and the world it runs in: what it
does not decide.
-/

namespace UncrownedKing.Server

open Lib Net Proto Auth Mask

inductive HandshakeFailureReason
  | tls
  | timeout
  | auth
  | protocol
  | io
  | other
  deriving DecidableEq, Repr

/-- `phase` is a `HandshakePhaseError` with its source. -/
inductive AnyError
  | phase (phase : String) (failureReason : HandshakeFailureReason) (source : AnyError)
  | frameIo (error : FrameIoError)
  | auth (error : AuthError)
  | protocol (error : ProtocolError)
  | io (error : IoError)
  | text (message : String)
  deriving DecidableEq, Repr

def frameIoFailureReason : FrameIoError → HandshakeFailureReason
  | .protocol _ => .protocol
  | .closed | .io _ => .io

/-- Without a phase, a frame or an I/O error in the chain of sources decides. -/
def handshakeFailureReason : AnyError → HandshakeFailureReason
  | .phase _ failureReason _ => failureReason
  | .frameIo error => frameIoFailureReason error
  | .io _ => .io
  | .auth _ | .protocol _ | .text _ => .other

/-- Each byte with the instant from which it can be read, then the end if any. -/
structure TcpStream where
  arrivals : List (Instant × UInt8)
  ending : Option (Instant × Option IoError)
  deriving DecidableEq, Repr

def earlyEof : IoError := ⟨.unexpectedEof, "early eof"⟩

def lastArrival (arrivals : List (Instant × UInt8)) : Instant :=
  arrivals.foldl (fun t arrival => max t arrival.1) 0

def TcpStream.readExact (tcp : TcpStream) (n : Nat) :
    Option (Instant × Except IoError (Bytes × TcpStream)) :=
  if n ≤ tcp.arrivals.length then
    let taken := tcp.arrivals.take n
    some (lastArrival taken,
      .ok (taken.map Prod.snd, { tcp with arrivals := tcp.arrivals.drop n }))
  else
    tcp.ending.map fun (at', error) =>
      (max (lastArrival tcp.arrivals) at', .error (error.getD earlyEof))

inductive CarrierStream
  | plain (tcp : TcpStream)
  | masked (gate : CommitGate) (keys : MaskKeys) (nonce : Bytes) (tcp : TcpStream)
  deriving DecidableEq, Repr

structure TlsSession where
  alpnProtocol : Option Bytes
  exporter : Except String Exporter

structure QuicSession where
  handshakeData : Option (Option Bytes)
  exporter : Except String Exporter

/-- `prelude`, `verifyFailed` and `stopped` only say where a run went. -/
inductive ConnectionEvent
  | prelude
  | maskPreludeReject
  | maskReplayReject
  | accept (stream : CarrierStream)
  | rejectedHandshake
  | beginHandshake
  | sent (frame : Frame)
  | verifyFailed (error : AuthError)
  | failedHandshake (reason : HandshakeFailureReason)
  | recordSuccess (ip : IpAddr)
  | recordFailure (ip : IpAddr)
  | session (identity : AuthenticatedIdentity)
  | stopped
  deriving DecidableEq, Repr

abbrev ConnectionM := Timed ConnectionEvent

abbrev HandshakeM := ExceptT AnyError ConnectionM

/-- What becomes ready carries the instant from which it is, and may never be. -/
structure World where
  peer : SocketAddr
  timers : Timed.Timers
  /-- The Unix time, if the wall clock can be read. -/
  wallClock : Instant → Option UInt64
  shutdown : Option Instant
  /-- Which of two branches is polled first when both are ready. -/
  beforeShutdown : Bool
  setNodelay : Except IoError Unit
  tcp : TcpStream
  /-- The replay registry when a prelude is looked up in it. -/
  registry : SharedRegistry
  drained : List (Instant × Bool)
  handshakePermit : Bool
  tlsAccept : CarrierStream → Option (Instant × Except IoError TlsSession)
  quicIncoming : Option (Instant × Except String QuicSession)
  quicOpenBi : Option (Instant × Except String Unit)
  serverNonce : Nonce
  challengeWritten : Option (Instant × Except FrameIoError Unit)
  /-- What `read_frame` answers under a limit on the frame size. -/
  response : UInt64 → Option (Instant × Except FrameIoError Frame)
  /-- The replay cache when its lock is taken. -/
  replayCache : Option (Instant × ReplayCache)
  errorWritten : Option (Instant × Except FrameIoError Unit)

def World.isShutdown (world : World) (now : Instant) : Bool :=
  world.shutdown.any (· ≤ now)

end UncrownedKing.Server
