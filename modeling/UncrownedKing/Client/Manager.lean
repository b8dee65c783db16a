import UncrownedKing.Lib.Threads
import Mathlib.Algebra.Group.Nat.Defs
import Mathlib.Data.List.Basic

/-!
# The client's session pool

Tasks share the pool, the published configuration and three locks. Every
lock-protected section and every read of an atomic is one step; dialling takes
place under the connect lock alone.
-/

namespace UncrownedKing.Client

open Lib

structure ClientConfig where
  observabilityListen : Option String := none
  serverConnectRetryDelayMillis : Option Nat := none
  socksHandshakeTimeoutSeconds : Option Nat := none
  shutdownTimeoutSeconds : Option Nat := none
  maxSocksConnections : Option Nat := none
  maxCarrierSessions : Option Nat := none
  deriving DecidableEq, Repr

def defaultMaxCarrierSessions : Nat := 4

def ClientConfig.retryDelayMillis (config : ClientConfig) : Nat :=
  config.serverConnectRetryDelayMillis.getD 250

def ClientConfig.changedStaticField (current candidate : ClientConfig) : Option String :=
  if current.socksHandshakeTimeoutSeconds.getD 10 ≠
      candidate.socksHandshakeTimeoutSeconds.getD 10 then
    some "socks_handshake_timeout_seconds"
  else if current.shutdownTimeoutSeconds.getD 30 ≠ candidate.shutdownTimeoutSeconds.getD 30 then
    some "shutdown_timeout_seconds"
  else if current.maxSocksConnections.getD 1024 ≠ candidate.maxSocksConnections.getD 1024 then
    some "max_socks_connections"
  else if current.observabilityListen ≠ candidate.observabilityListen then
    some "observability_listen"
  else none

structure ConfigSnapshot where
  generation : Nat
  config : ClientConfig
  deriving DecidableEq, Repr

structure PoolSession where
  generation : Nat
  closed : Bool := false
  draining : Bool := false
  health : Bool := false
  /-- It was pushed into the pool at some time. -/
  published : Bool := false
  /-- The task whose `PendingClientSession` holds it. -/
  owner : Option Nat := none
  deriving DecidableEq, Repr

structure CachedConnectFailure where
  generation : Nat
  message : String
  expiresAt : Option Nat
  deriving DecidableEq, Repr

/-- Sessions are numbered in the order they were connected. -/
structure Manager where
  current : ConfigSnapshot
  nextGeneration : Nat
  pool : List Nat := []
  sessions : List PoolSession := []
  closed : Bool := false
  connectLock : Option Nat := none
  configPublishLock : Option Nat := none
  recentConnectFailure : Option CachedConnectFailure := none
  consecutiveConnectFailures : Nat := 0
  /-- Teardowns in the background, of reapers and of dropped guards. -/
  reapers : List Nat := []
  deriving DecidableEq, Repr

def Manager.new (config : ClientConfig) : Manager where
  current := ⟨1, config⟩
  nextGeneration := 2

namespace Manager

variable (m : Manager)

def maxPoolSize : Nat := max (m.current.config.maxCarrierSessions.getD defaultMaxCarrierSessions) 1

def isClosed (session : Nat) : Bool := (m.sessions[session]?).any (·.closed)

def isDraining (session : Nat) : Bool := (m.sessions[session]?).any (·.draining)

def modify (session : Nat) (change : PoolSession → PoolSession) : Manager :=
  { m with sessions := m.sessions.modify session change }

def closeSession (session : Nat) : Manager := m.modify session ({ · with closed := true })

def markHealthSession (session : Nat) : Manager := m.modify session ({ · with health := true })

def unlockConnect (task : Nat) : Manager :=
  { m with connectLock := if m.connectLock = some task then none else m.connectLock }

def unlockPublish (task : Nat) : Manager :=
  { m with
    configPublishLock := if m.configPublishLock = some task then none else m.configPublishLock }

def prune : Manager :=
  { m with
    pool := m.pool.filter (!m.isClosed ·)
    reapers := m.reapers ++ m.pool.filter (m.isClosed ·) }

def connected (task generation : Nat) : Manager :=
  { m with sessions := m.sessions ++ [{ generation := generation, owner := some task }] }

def dropPending (session : Nat) : Manager :=
  { m.modify session ({ · with owner := none }) with reapers := m.reapers ++ [session] }

def clearConnectFailure : Manager :=
  { m with consecutiveConnectFailures := 0, recentConnectFailure := none }

def recentFailure (now : Nat) : Manager × Option CachedConnectFailure :=
  match m.recentConnectFailure with
  | none => (m, none)
  | some failure =>
    if failure.generation ≠ m.current.generation ∨ failure.expiresAt.any (· ≤ now) then
      ({ m with recentConnectFailure := none }, none)
    else (m, some failure)

end Manager

def serverConnectRetryMaxMillis : Nat := 30000

def calculateReconnectBackoffMs (baseDelayMs consecutiveFailures maxBackoffMs : Nat) : Nat :=
  min maxBackoffMs (baseDelayMs * 2 ^ min consecutiveFailures 10)

def calculateReconnectJitterRange (backoffMs : Nat) : Nat × Nat :=
  let minMs := max (backoffMs / 2) 1
  (minMs, max (backoffMs * 3 / 2) minMs)

inductive Request
  | admissionForNewFlow
  | currentSession
  | ensureHealthSession
  deriving DecidableEq, Repr

inductive Operation
  | request (request : Request)
  | reload (candidate : ClientConfig)
  | invalidate (session : Nat)
  | shutdown
  deriving DecidableEq, Repr

inductive ManagerError
  | shuttingDown
  | cachedConnectFailure (message : String)
  | connect (message : String)
  | configChanged
  | invalidConfig
  | requiresRestart (field : String)
  | refresh
  deriving DecidableEq, Repr

inductive Returned
  | nothing
  | session (session : Nat)
  | admitted
  | capacityExhausted
  | generation (generation : Nat)
  | error (error : ManagerError)
  deriving DecidableEq, Repr

/-- `locked` tells the first pass of a request from the second, under the connect lock. -/
inductive Pc
  | idle (last : Returned)
  | checkClosed (request : Request) (locked : Bool)
  | look (request : Request) (locked : Bool)
  | choose (request : Request) (locked : Bool) (live : List Nat)
  | checkFailure (request : Request) (locked : Bool)
  | lockConnect (request : Request)
  | count (request : Request)
  | compare (request : Request) (live : Nat)
  | snapshot (request : Request)
  | connecting (request : Request) (snapshot : ConfigSnapshot)
  | rememberFailure (request : Request) (snapshot : ConfigSnapshot) (message : String)
  | lockPublish (request : Request) (generation session : Nat)
  | checkGeneration (request : Request) (generation session : Nat)
  | clearFailure (request : Request) (generation session : Nat)
  | checkClosedPublishing (request : Request) (generation session : Nat)
  | push (request : Request) (generation session : Nat)
  | admitFresh
  | reloadCheck (candidate : ClientConfig)
  | reloadLock (candidate : ClientConfig)
  | reloadCompatible (candidate : ClientConfig)
  | reloadRefresh (candidate : ClientConfig)
  | reloadReplace (candidate : ClientConfig)
  | reloadClear (generation : Nat)
  | reloadDrainPool (generation : Nat)
  | reloadBeginDrain (generation : Nat) (sessions : List Nat)
  | invalidate (session : Nat)
  | shutdownStore
  | shutdownDrain
  | shutdownClose (sessions : List Nat)
  | shutdownDone
  deriving DecidableEq, Repr

def Operation.start : Operation → Pc
  | .request .ensureHealthSession => .look .ensureHealthSession false
  | .request asked => .checkClosed asked false
  | .reload candidate => .reloadCheck candidate
  | .invalidate session => .invalidate session
  | .shutdown => .shutdownStore

inductive AdmitAnswer
  | admitted
  | udpFlowLimit
  | streamLimit
  deriving DecidableEq, Repr

structure World where
  now : Nat := 0
  answer : AdmitAnswer := .streamLimit
  succeeds : Bool := true
  message : String := ""
  /-- The delay drawn, which is taken into the jitter range. -/
  jitter : Nat := 1
  unused : Bool := false
  deriving DecidableEq, Repr

inductive Input
  | call (operation : Operation)
  | go (world : World)
  | carrierCloses (session : Nat)
  | reap (session : Nat)
  deriving DecidableEq, Repr

namespace Manager

variable (m : Manager) (task : Nat)

def finish (returned : Returned) : Manager × Pc := (m.unlockConnect task, .idle returned)

def retry (request : Request) : Manager × Pc :=
  match request with
  | .ensureHealthSession => m.finish task (.error .configChanged)
  | request => (m.unlockConnect task, .checkClosed request false)

def miss (request : Request) (locked : Bool) : Pc :=
  match request, locked with
  | .currentSession, _ | .ensureHealthSession, true => .checkFailure request locked
  | .ensureHealthSession, false | .admissionForNewFlow, false => .lockConnect request
  | .admissionForNewFlow, true => .count request

def chooseSession (request : Request) (locked : Bool) (live : List Nat) (world : World) :
    Manager × Pc :=
  match request with
  | .admissionForNewFlow =>
    match world.answer with
    | .admitted => m.finish task .admitted
    | .udpFlowLimit => m.finish task .capacityExhausted
    | .streamLimit => (m, miss request locked)
  | request =>
    match live with
    | [] => (m, miss request locked)
    | session :: rest =>
      if m.isDraining session then (m, .choose request locked rest)
      else if request = .ensureHealthSession then
        (m.markHealthSession session).finish task (.session session)
      else m.finish task (.session session)

def rememberConnectFailure (snapshot : ConfigSnapshot) (message : String) (world : World) :
    Manager × Bool :=
  if m.current.generation ≠ snapshot.generation then (m, false)
  else if snapshot.config.retryDelayMillis = 0 then (m, true)
  else
    let backoffMs := calculateReconnectBackoffMs snapshot.config.retryDelayMillis
      m.consecutiveConnectFailures serverConnectRetryMaxMillis
    let (minMs, maxMs) := calculateReconnectJitterRange backoffMs
    ({ m with
      consecutiveConnectFailures := m.consecutiveConnectFailures + 1
      recentConnectFailure := some
        { generation := snapshot.generation
          message := message
          expiresAt := some (world.now + min (max world.jitter minMs) maxMs) } }, true)

def pushSession (request : Request) (session : Nat) : Manager × Pc :=
  if m.closed then
    ((m.unlockPublish task).dropPending session).finish task (.error .shuttingDown)
  else
    let m := m.modify session fun s =>
      { s with
        owner := none
        published := true
        health := s.health || request = .ensureHealthSession }
    let m := { m with pool := m.pool ++ [session] }.unlockPublish task
    match request with
    | .admissionForNewFlow => (m, .admitFresh)
    | _ => m.finish task (.session session)

def go (world : World) : Pc → Manager × Pc
  | .idle last => (m, .idle last)
  | .checkClosed request locked =>
    if m.closed then m.finish task (.error .shuttingDown) else (m, .look request locked)
  | .look request locked => (m.prune, .choose request locked m.prune.pool)
  | .choose request locked live => m.chooseSession task request locked live world
  | .checkFailure request locked =>
    match m.recentFailure world.now with
    | (m, some failure) => m.finish task (.error (.cachedConnectFailure failure.message))
    | (m, none) => (m, if locked then .snapshot request else .lockConnect request)
  | .lockConnect request =>
    if m.connectLock.isNone then ({ m with connectLock := some task }, .checkClosed request true)
    else (m, .lockConnect request)
  | .count request => (m.prune, .compare request m.prune.pool.length)
  | .compare request live =>
    if live ≥ m.maxPoolSize then m.finish task .capacityExhausted
    else (m, .checkFailure request true)
  | .snapshot request => (m, .connecting request m.current)
  | .connecting request snapshot =>
    if world.succeeds then
      (m.connected task snapshot.generation,
        .lockPublish request snapshot.generation m.sessions.length)
    else (m, .rememberFailure request snapshot world.message)
  | .rememberFailure request snapshot message =>
    if m.configPublishLock.isSome then (m, .rememberFailure request snapshot message)
    else
      match m.rememberConnectFailure snapshot message world with
      | (m, true) => m.finish task (.error (.connect message))
      | (m, false) => m.retry task request
  | .lockPublish request generation session =>
    if m.configPublishLock.isNone then
      ({ m with configPublishLock := some task }, .checkGeneration request generation session)
    else (m, .lockPublish request generation session)
  | .checkGeneration request generation session =>
    if m.current.generation ≠ generation then
      ((m.unlockPublish task).dropPending session).retry task request
    else (m, .clearFailure request generation session)
  | .clearFailure request generation session =>
    (m.clearConnectFailure, .checkClosedPublishing request generation session)
  | .checkClosedPublishing request generation session =>
    if m.closed then
      ((m.unlockPublish task).dropPending session).finish task (.error .shuttingDown)
    else (m, .push request generation session)
  | .push request _ session => m.pushSession task request session
  | .admitFresh =>
    match world.answer with
    | .admitted => m.finish task .admitted
    | .udpFlowLimit => m.finish task .capacityExhausted
    | .streamLimit => m.retry task .admissionForNewFlow
  | .reloadCheck candidate =>
    (m, if world.succeeds then .reloadLock candidate else .idle (.error .invalidConfig))
  | .reloadLock candidate =>
    if m.configPublishLock.isNone then
      ({ m with configPublishLock := some task }, .reloadCompatible candidate)
    else (m, .reloadLock candidate)
  | .reloadCompatible candidate =>
    match m.current.config.changedStaticField candidate with
    | some field => (m.unlockPublish task, .idle (.error (.requiresRestart field)))
    | none => (m, .reloadRefresh candidate)
  | .reloadRefresh candidate =>
    if world.succeeds then (m, .reloadReplace candidate)
    else (m.unlockPublish task, .idle (.error .refresh))
  | .reloadReplace candidate =>
    ({ m with current := ⟨m.nextGeneration, candidate⟩, nextGeneration := m.nextGeneration + 1 },
      .reloadClear m.nextGeneration)
  | .reloadClear generation => (m.clearConnectFailure, .reloadDrainPool generation)
  | .reloadDrainPool generation =>
    ({ m with pool := [] }, .reloadBeginDrain generation m.pool)
  | .reloadBeginDrain generation [] => (m.unlockPublish task, .idle (.generation generation))
  | .reloadBeginDrain generation (session :: rest) =>
    (m.modify session fun s => { s with draining := true, closed := s.closed || world.unused },
      .reloadBeginDrain generation rest)
  | .invalidate session =>
    if session ∈ m.pool then
      ({ m with pool := m.pool.filter (· ≠ session), reapers := m.reapers ++ [session] },
        .idle .nothing)
    else (m.closeSession session, .idle .nothing)
  | .shutdownStore => ({ m with closed := true }, .shutdownDrain)
  | .shutdownDrain => ({ m with pool := [] }, .shutdownClose m.pool)
  | .shutdownClose [] => (m, .shutdownDone)
  | .shutdownClose (session :: rest) => (m.closeSession session, .shutdownClose rest)
  | .shutdownDone => (m, .shutdownDone)

/-- What happens outside of operations is left to idle tasks. -/
def step (m : Manager) (task : Nat) (pc : Pc) (input : Input) : Manager × Pc :=
  match pc, input with
  | .idle _, .call operation => (m, operation.start)
  | .idle last, .carrierCloses session => (m.closeSession session, .idle last)
  | .idle last, .reap session =>
    if session ∈ m.reapers then
      ({ m.closeSession session with reapers := m.reapers.filter (· ≠ session) }, .idle last)
    else (m, .idle last)
  | pc, .go world => m.go task world pc
  | pc, _ => (m, pc)

end Manager

end UncrownedKing.Client
