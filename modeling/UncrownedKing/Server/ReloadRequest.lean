import UncrownedKing.Server.Runtime

/-!
# Reload requests

The listener loop hands a configuration to a blocking task and waits for it with
a timeout; the task goes on when the loop has stopped waiting. It publishes in
two accesses.
-/

namespace UncrownedKing.Server

open Lib Auth Mask Policy

structure CarrierHost (Acceptor QuicConfig : Type) where
  validateNetworkEndpoints : ServerConfig → Except String Unit
  validateSensitivePaths : ServerConfig → Except String Unit
  tlsAcceptor : ServerConfig → Except String Acceptor
  quicConfig : ServerConfig → Except String QuicConfig
  policySet : ServerConfig → Except String PolicySet

structure Prepared (Acceptor QuicConfig : Type) where
  tlsAcceptor : Acceptor
  quicConfig : Option QuicConfig
  credentials : List Credential
  maskKeys : List MaskKeys
  policySet : PolicySet
  authSkew : Duration

variable {Acceptor QuicConfig : Type}

def prepareReload (hmac : Hmac) (host : CarrierHost Acceptor QuicConfig) (hasQuicEndpoint : Bool)
    (current candidate : ServerConfig) : Except SetupError (Prepared Acceptor QuicConfig) := do
  ensureReloadCompatible current candidate
  (host.validateNetworkEndpoints candidate).mapError .message
  candidate.validateLimits.mapError .config
  (host.validateSensitivePaths candidate).mapError .message
  let tlsAcceptor ← (host.tlsAcceptor candidate).mapError .message
  let quicConfig ← if hasQuicEndpoint then
      ((host.quicConfig candidate).map some).mapError SetupError.message
    else pure none
  let credentials ← candidate.runtimeCredentials.mapError .auth
  let candidate := { candidate with credentials := [] }
  let maskKeys := deriveMaskKeys hmac candidate credentials
  let policySet ← (host.policySet candidate).mapError .message
  pure {
    tlsAcceptor := tlsAcceptor
    quicConfig := quicConfig
    credentials := credentials
    maskKeys := maskKeys
    policySet := policySet
    authSkew := fromSecs candidate.effectiveAuthSkewSeconds.toNat }

inductive ReloadFailure
  | setup (error : SetupError)
  | load (reason : String)
  | panicked
  /-- "security reload exceeded 30s; keeping the previous generation" -/
  | timedOut
  deriving DecidableEq, Repr

inductive ServerReloadError
  | serverStopped
  | rejected (failure : ReloadFailure)
  deriving DecidableEq, Repr

inductive ReloadStage (Acceptor QuicConfig : Type)
  | preparing (outcome : Except ReloadFailure (Prepared Acceptor QuicConfig))
  | numbered (prepared : Prepared Acceptor QuicConfig) (generation : Nat)
  | published (prepared : Prepared Acceptor QuicConfig) (generation : Nat)
  | finished (result : Except ReloadFailure Nat)

structure CarrierGeneration (Acceptor : Type) extends SecurityGeneration where
  tlsAcceptor : Acceptor

def Prepared.toGeneration (prepared : Prepared Acceptor QuicConfig) (generation : Nat) :
    CarrierGeneration Acceptor where
  generation := generation
  credentials := prepared.credentials
  maskKeys := prepared.maskKeys
  policySet := prepared.policySet
  authSkew := prepared.authSkew
  tlsAcceptor := prepared.tlsAcceptor

structure LiveState (Acceptor QuicConfig : Type) where
  current : CarrierGeneration Acceptor
  quicServerConfig : Option QuicConfig

/-- `set_server_config`, where there is an endpoint to set it on. -/
def LiveState.rotate (live : LiveState Acceptor QuicConfig) (quicConfig : Option QuicConfig) :
    LiveState Acceptor QuicConfig :=
  match live.quicServerConfig, quicConfig with
  | some _, some quicConfig => { live with quicServerConfig := some quicConfig }
  | _, _ => live

structure ReloadServer (Acceptor QuicConfig : Type) where
  config : ServerConfig
  live : LiveState Acceptor QuicConfig
  nextGeneration : Nat
  running : Bool := true
  requests : Nat := 0
  queue : List (Nat × Except String ServerConfig) := []
  handling : Option Nat := none
  tasks : Nat → Option (ReloadStage Acceptor QuicConfig) := fun _ => none

inductive ReloadAct (Acceptor QuicConfig : Type)
  /-- `reload` or `report_load_failure` -/
  | request (config : Except String ServerConfig)
  /-- The loop takes the next request. The task it spawns meets this host, or panics. -/
  | receive (host : Option (CarrierHost Acceptor QuicConfig))
  | work (request : Nat)
  | join
  | timeout
  | shutdown
  /-- The future of the whole server is dropped. -/
  | cancel

inductive ReloadEvent
  | answered (request : Nat) (result : Except ServerReloadError Nat)
  deriving DecidableEq

namespace ReloadServer

variable (server : ReloadServer Acceptor QuicConfig)

def setTask (request : Nat) (stage : ReloadStage Acceptor QuicConfig) :
    ReloadServer Acceptor QuicConfig :=
  { server with tasks := Function.update server.tasks request (some stage) }

def spawnReload (hmac : Hmac) (host : Option (CarrierHost Acceptor QuicConfig))
    (candidate : ServerConfig) : Except ReloadFailure (Prepared Acceptor QuicConfig) :=
  match host with
  | none => .error .panicked
  | some host => (prepareReload hmac host server.live.quicServerConfig.isSome server.config
      candidate).mapError .setup

def work (request : Nat) : ReloadServer Acceptor QuicConfig :=
  match server.tasks request with
  | none => server
  | some (.preparing (.error failure)) => server.setTask request (.finished (.error failure))
  | some (.preparing (.ok prepared)) =>
    { server.setTask request (.numbered prepared server.nextGeneration) with
      nextGeneration := server.nextGeneration + 1 }
  | some (.numbered prepared generation) =>
    { server.setTask request (.published prepared generation) with
      live := { server.live with current := prepared.toGeneration generation } }
  | some (.published prepared generation) =>
    { server.setTask request (.finished (.ok generation)) with
      live := server.live.rotate prepared.quicConfig }
  | some (.finished _) => server

/-- Requests that nobody will take any more. -/
def dropped (requests : List Nat) : List ReloadEvent :=
  requests.map fun request => .answered request (.error .serverStopped)

def step (hmac : Hmac) (server : ReloadServer Acceptor QuicConfig) :
    ReloadAct Acceptor QuicConfig → ReloadServer Acceptor QuicConfig × List ReloadEvent
  | .request config =>
    let next := { server with requests := server.requests + 1 }
    if server.running then
      ({ next with queue := server.queue ++ [(server.requests, config)] }, [])
    else (next, dropped [server.requests])
  | .receive host =>
    match server.handling, server.queue with
    | none, (request, .error reason) :: queue =>
      ({ server with queue := queue }, [.answered request (.error (.rejected (.load reason)))])
    | none, (request, .ok candidate) :: queue =>
      ({ server.setTask request (.preparing (server.spawnReload hmac host candidate)) with
          queue := queue
          handling := some request }, [])
    | _, _ => (server, [])
  | .work request => (server.work request, [])
  | .join =>
    match server.handling with
    | none => (server, [])
    | some request =>
      match server.tasks request with
      | some (.finished result) =>
        ({ server with handling := none }, [.answered request (result.mapError .rejected)])
      | _ => (server, [])
  | .timeout =>
    match server.handling with
    | none => (server, [])
    | some request =>
      -- the task is not aborted
      ({ server with handling := none }, [.answered request (.error (.rejected .timedOut))])
  | .shutdown =>
    if server.handling.isSome then (server, [])
    else ({ server with running := false, queue := [] }, dropped (server.queue.map Prod.fst))
  | .cancel =>
    ({ server with running := false, queue := [], handling := none },
      dropped (server.handling.toList ++ server.queue.map Prod.fst))

end ReloadServer

end UncrownedKing.Server
