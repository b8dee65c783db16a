import UncrownedKing.Lib.Table
import UncrownedKing.Lib.Threads
import UncrownedKing.Lib.Timed
import UncrownedKing.Proto.Frame

/-!
# Degraded endpoints

An endpoint that times out, or whose QUIC transport fails, is dialled last for a
while. The penalties are a table under a lock and an epoch counter beside it,
which a reload advances; connects and reloads run side by side.
-/

namespace UncrownedKing.Client

open Lib Proto

structure DegradedEndpointEntry where
  deadline : Instant
  /-- The epoch of the connect that recorded the penalty. -/
  epoch : Nat
  deriving DecidableEq, Repr

def degradedCooldown : Duration := fromSecs 180

structure DegradedEndpoints where
  now : Instant := 0
  entries : Table String DegradedEndpointEntry := ∅
  epoch : Nat := 0

namespace DegradedEndpoints

variable (d : DegradedEndpoints)

def isEndpointDegraded (endpoint : String) (epoch : Nat) : DegradedEndpoints × Bool :=
  let entries := d.entries.retain fun _ entry => entry.deadline > d.now
  ({ d with entries }, (entries.lookup endpoint).any (·.epoch = epoch))

def markEndpointDegraded (endpoint : String) (epoch : Nat) : DegradedEndpoints :=
  { d with entries := d.entries.insert endpoint ⟨d.now + degradedCooldown, epoch⟩ }

def clearEndpointDegraded (endpoint : String) : DegradedEndpoints :=
  { d with entries := d.entries.erase endpoint }

/-- The epoch is a `u64`, and `fetch_add` wraps. -/
def clearDegradedEndpoints : DegradedEndpoints :=
  { d with entries := ∅, epoch := (d.epoch + 1) % 2 ^ 64 }

end DegradedEndpoints

inductive EndpointFailurePhase
  | tcp
  | tls
  | auth
  | settings
  | timeout
  | protocol
  | other
  deriving DecidableEq, Repr

/-- What the error of an attempt has in its chain of sources. -/
inductive AttemptError
  | serverHandshake (code : ErrorCode)
  | handshakePhase (failurePhase : EndpointFailurePhase)
  | unknown
  deriving DecidableEq, Repr

def endpointFailurePhase : AttemptError → EndpointFailurePhase
  | .serverHandshake _ => .auth
  | .handshakePhase failurePhase => failurePhase
  | .unknown => .other

def isCredentialRejection : AttemptError → Bool
  | .serverHandshake code => code = .authFailed
  | _ => false

inductive CarrierKind
  | tls
  | quic
  deriving DecidableEq, Repr

/-- The carrier of an endpoint; the rest of the text is its address. -/
def parseEndpoint (raw : String) : Option (CarrierKind × List Char) :=
  let text := raw.toList
  if "quic://".toList <+: text then some (.quic, text.drop 7)
  else if "tls://".toList <+: text then some (.tls, text.drop 6)
  else if "://".toList <:+: text then none
  else some (.tls, text)

def isQuicTransportFailure (endpoint : String) (failurePhase : EndpointFailurePhase) : Bool :=
  (parseEndpoint endpoint).any (·.1 = .quic) &&
    (failurePhase = .tls || failurePhase = .tcp || failurePhase = .timeout)

def degrades (endpoint : String) (error : AttemptError) : Bool :=
  let failurePhase := endpointFailurePhase error
  (failurePhase = .timeout || isQuicTransportFailure endpoint failurePhase) &&
    !isCredentialRejection error

structure EndpointAttemptError where
  index : Nat
  endpoint : String
  error : AttemptError
  deriving DecidableEq, Repr

inductive ConnectError
  /-- The CA bundle or the server name. -/
  | tls
  | attempts (attempts : List EndpointAttemptError) (credentialRejection : Bool)
  deriving DecidableEq, Repr

structure EndpointConfig where
  serverAddr : String
  serverAddrs : List String := []
  deriving DecidableEq, Repr

def EndpointConfig.serverEndpoints (config : EndpointConfig) : List String :=
  config.serverAddr :: config.serverAddrs

/-- A configuration as it was read; the other fields are history. -/
structure EndpointSnapshot where
  config : EndpointConfig
  published : Nat
  cleared : Nat
  deriving DecidableEq, Repr

structure ConnectAttempt where
  snapshot : EndpointSnapshot
  epoch : Nat
  deriving DecidableEq, Repr

/-- An endpoint was marked by a connect that read its configuration after so many reloads. -/
structure EndpointMark where
  endpoint : String
  published : Nat
  deriving DecidableEq, Repr

structure Dialling where
  degraded : DegradedEndpoints := {}
  config : EndpointConfig
  configPublishLock : Option Nat := none
  published : Nat := 0
  cleared : Nat := 0
  marks : List EndpointMark := []

inductive DialPoint
  | idle
  | loadingCa (snapshot : EndpointSnapshot)
  | capturing (snapshot : EndpointSnapshot)
  | judging (attempt : ConnectAttempt) (remaining healthy degraded : List String)
  | dialling (attempt : ConnectAttempt) (endpoints : List String)
    (attempts : List EndpointAttemptError)
  | connected (endpoint : String)
  | failed (error : ConnectError)
  | reloadCheck (candidate : EndpointConfig)
  | reloadLock (candidate : EndpointConfig)
  | reloadRefresh (candidate : EndpointConfig)
  | reloadReplace (candidate : EndpointConfig)
  | reloadClear
  | reloadDrain
  | reloadDone (applied : Bool)
  deriving DecidableEq, Repr

inductive DialInput
  | connect
  | reload (candidate : EndpointConfig)
  /-- The task goes on; what it waited for has this result. -/
  | go (result : Except AttemptError Unit)
  | elapse (time : Duration)
  deriving DecidableEq

def orderedEndpoints (healthy degraded : List String) : List String :=
  if healthy.isEmpty then degraded else healthy ++ degraded

namespace Dialling

variable (s : Dialling)

def mark (attempt : ConnectAttempt) (endpoint : String) : Dialling :=
  { s with
    degraded := s.degraded.markEndpointDegraded endpoint attempt.epoch
    marks := s.marks ++ [⟨endpoint, attempt.snapshot.published⟩] }

def judge (attempt : ConnectAttempt) (endpoint : String)
    (remaining healthy degraded : List String) : Dialling × DialPoint :=
  let (penalties, isDegraded) := s.degraded.isEndpointDegraded endpoint attempt.epoch
  ({ s with degraded := penalties },
    if isDegraded then .judging attempt remaining healthy (degraded ++ [endpoint])
    else .judging attempt remaining (healthy ++ [endpoint]) degraded)

def dial (attempt : ConnectAttempt) (endpoint : String) (rest : List String)
    (attempts : List EndpointAttemptError) (result : Except AttemptError Unit) :
    Dialling × DialPoint :=
  match result with
  | .ok () =>
    ({ s with degraded := s.degraded.clearEndpointDegraded endpoint }, .connected endpoint)
  | .error error =>
    let attempts := attempts ++ [⟨attempts.length, endpoint, error⟩]
    (if degrades endpoint error then s.mark attempt endpoint else s,
      if isCredentialRejection error then .failed (.attempts attempts true)
      else .dialling attempt rest attempts)

def step (task : Nat) (point : DialPoint) (input : DialInput) : Dialling × DialPoint :=
  match point, input with
  | point, .elapse time => ({ s with degraded.now := s.degraded.now + time }, point)
  | .idle, .connect => (s, .loadingCa ⟨s.config, s.published, s.cleared⟩)
  | .loadingCa snapshot, .go (.ok ()) => (s, .capturing snapshot)
  | .loadingCa _, .go (.error _) => (s, .failed .tls)
  | .capturing snapshot, .go _ =>
    (s, .judging ⟨snapshot, s.degraded.epoch⟩ snapshot.config.serverEndpoints [] [])
  | .judging attempt (endpoint :: remaining) healthy degraded, .go _ =>
    s.judge attempt endpoint remaining healthy degraded
  | .judging attempt [] healthy degraded, .go _ =>
    (s, .dialling attempt (orderedEndpoints healthy degraded) [])
  | .dialling attempt (endpoint :: rest) attempts, .go result =>
    s.dial attempt endpoint rest attempts result
  | .dialling _ [] attempts, .go _ => (s, .failed (.attempts attempts false))
  | .idle, .reload candidate => (s, .reloadCheck candidate)
  | .reloadCheck candidate, .go (.ok ()) => (s, .reloadLock candidate)
  | .reloadCheck _, .go (.error _) => (s, .reloadDone false)
  | .reloadLock candidate, .go _ =>
    if s.configPublishLock = none then
      ({ s with configPublishLock := some task }, .reloadRefresh candidate)
    else (s, .reloadLock candidate)
  | .reloadRefresh candidate, .go (.ok ()) => (s, .reloadReplace candidate)
  | .reloadRefresh _, .go (.error _) => ({ s with configPublishLock := none }, .reloadDone false)
  | .reloadReplace candidate, .go _ =>
    ({ s with config := candidate, published := s.published + 1 }, .reloadClear)
  | .reloadClear, .go _ =>
    ({ s with degraded := s.degraded.clearDegradedEndpoints, cleared := s.cleared + 1 },
      .reloadDrain)
  | .reloadDrain, .go _ => ({ s with configPublishLock := none }, .reloadDone true)
  | point, _ => (s, point)

end Dialling

def dialStart (config : EndpointConfig) : Threads Dialling DialPoint :=
  ⟨{ config := config }, fun _ => .idle⟩

def dialRun (config : EndpointConfig) (acts : List (Nat × DialInput)) :
    Threads Dialling DialPoint :=
  (dialStart config).run Dialling.step acts

inductive DegradedOp
  | keep
  | elapse (time : Duration)
  | judge (endpoint : String) (epoch : Nat)
  | mark (endpoint : String) (epoch : Nat)
  | clear (endpoint : String)
  | clearAll
  deriving DecidableEq, Repr

def DegradedEndpoints.apply (d : DegradedEndpoints) : DegradedOp → DegradedEndpoints
  | .keep => d
  | .elapse time => { d with now := d.now + time }
  | .judge endpoint epoch => (d.isEndpointDegraded endpoint epoch).1
  | .mark endpoint epoch => d.markEndpointDegraded endpoint epoch
  | .clear endpoint => d.clearEndpointDegraded endpoint
  | .clearAll => d.clearDegradedEndpoints

def DialPoint.operation : DialPoint → DialInput → DegradedOp
  | _, .elapse time => .elapse time
  | .judging attempt (endpoint :: _) _ _, .go _ => .judge endpoint attempt.epoch
  | .dialling _ (endpoint :: _) _, .go (.ok ()) => .clear endpoint
  | .dialling attempt (endpoint :: _) _, .go (.error error) =>
    if degrades endpoint error then .mark endpoint attempt.epoch else .keep
  | .reloadClear, .go _ => .clearAll
  | _, _ => .keep

end UncrownedKing.Client
