import UncrownedKing.Server.Runtime

/-!
# A server over time

A verification runs against the generation its connection took. Both clocks are
read at one moment: the wall clock counts the whole seconds of the monotonic
one.
-/

namespace UncrownedKing.Server

open Lib Auth

/-- `epoch` is the Unix time of the monotonic clock's origin. -/
structure AuthServer where
  now : Instant
  epoch : Duration
  config : ServerConfig
  security : SecurityState
  published : List SecurityGeneration
  cache : ReplayCache

def AuthServer.start (runtime : ServerRuntime) (now : Instant) (epoch : Duration) : AuthServer where
  now := now
  epoch := epoch
  config := runtime.config
  security := runtime.security
  published := [runtime.security.current]
  cache := runtime.replayCache

def unixSeconds (epoch : Duration) (t : Instant) : Nat := asSecs (t + epoch)

def AuthServer.unixNow (server : AuthServer) : UInt64 :=
  UInt64.ofNat (unixSeconds server.epoch server.now)

inductive AuthAction
  | wait (t : Instant)
  | reload (host : Host) (candidate : ServerConfig)
  | verify (generation : Nat) (exporter : Exporter) (challenge : AuthChallenge)
      (response : AuthResponse)

structure Verification where
  generation : SecurityGeneration
  exporter : Exporter
  challenge : AuthChallenge
  response : AuthResponse
  instant : Instant
  unixNow : UInt64

def Verification.key (v : Verification) : ReplayKey :=
  ⟨v.challenge.serverNonce, v.response.clientNonce⟩

inductive AuthEvent
  | verified (v : Verification) (result : AuthResult AuthenticatedIdentity)

/-- Clocks do not go back, and the wall clock stays in its range. -/
def AuthServer.step (crypto : Crypto) (server : AuthServer) :
    AuthAction → AuthServer × List AuthEvent
  | .wait t =>
    if server.now ≤ t ∧ unixSeconds server.epoch t < 2 ^ 64 then ({ server with now := t }, [])
    else (server, [])
  | .reload host candidate =>
    match applySecurityReload crypto.hmac host server.config server.security candidate with
    | .error _ => (server, [])
    | .ok (security, _) =>
      ({ server with
        security := security
        published := server.published ++ [security.current] }, [])
  | .verify n exporter challenge response =>
    match server.published[n]? with
    | none => (server, [])
    | some generation =>
      let (cache, result) := verifyAuthResponseIdentity crypto generation.credentials exporter
        challenge response server.unixNow generation.authSkew server.now server.cache
      ({ server with cache := cache },
        [.verified ⟨generation, exporter, challenge, response, server.now, server.unixNow⟩ result])

end UncrownedKing.Server
