import UncrownedKing.Auth.Payload
import UncrownedKing.Policy.Rules

/-!
# The dialer

A relay target is judged by policy, resolved, judged again with its addresses
and dialled. What the outside does is an argument: the resolver's answer and,
for each turn of the dial loop, the instant, the permits and the task that
finishes.
-/

namespace UncrownedKing.Server

open Lib Net Proto Policy Auth

inductive OpenFailure
  | policyDenied
  | resourceLimit
  | targetUnavailable (err : IoError)
  | targetTimeout
  deriving DecidableEq, Repr

def targetConnectParallelism : Nat := 4

def targetResolutionAddrLimit : Nat := 64

inductive DialEvent
  | lookup (domain : String) (port : UInt16)
  | tcpConnect (addr : SocketAddr)
  | udpConnect (bindAddr addr : SocketAddr)
  deriving DecidableEq, Repr

def DialEvent.connectAddr : DialEvent → Option SocketAddr
  | .lookup _ _ => none
  | .tcpConnect addr | .udpConnect _ addr => some addr

structure DialRun (T : Type) where
  log : List DialEvent
  result : Option (Except OpenFailure T)
  deriving DecidableEq

def policyContext (identity : AuthenticatedIdentity) (target : Target)
    (resolvedIps : List IpAddr) : PolicyContext where
  keyId := identity.keyId
  policyGroup := identity.policyGroup
  target := target
  resolvedIps := resolvedIps

def preResolvePolicyCheck (target : Target) (identity : AuthenticatedIdentity)
    (policySet : PolicySet) : Except OpenFailure Unit :=
  match policySet.evaluatePreResolve (policyContext identity target []) with
  | .deniedWithoutResolution => .error .policyDenied
  | .needsResolution => .ok ()

def collectResolvedAddrs (addrs : List SocketAddr) : Except OpenFailure (List SocketAddr) :=
  let addrs := addrs.take (targetResolutionAddrLimit + 1)
  if addrs.isEmpty then
    .error (.targetUnavailable ⟨.notFound, "target resolved to no addresses"⟩)
  else if addrs.length > targetResolutionAddrLimit then
    .error (.targetUnavailable ⟨.invalidData, "target resolved to more than 64 addresses"⟩)
  else .ok addrs

def resolveTarget (lookup : Option (Except IoError (List SocketAddr))) :
    Target → Option (Except OpenFailure (List SocketAddr))
  | .domain _ _ => lookup.map fun
    | .error err => .error (.targetUnavailable err)
    | .ok addrs => collectResolvedAddrs addrs
  | .ipv4 ip port => some (.ok [.new (.v4 ip) port])
  | .ipv6 ip port => some (.ok [.new (.v6 ip) port])

def resolveEvents : Target → List DialEvent
  | .domain domain port => [.lookup domain port]
  | .ipv4 _ _ | .ipv6 _ _ => []

def resolvedIps : Target → List SocketAddr → List IpAddr
  | .domain _ _, addrs => addrs.map SocketAddr.ip
  | .ipv4 _ _, _ | .ipv6 _ _, _ => []

def withTargetConnectDeadline (deadline : Option Instant)
    (future : Option (Except OpenFailure α)) : Option (Except OpenFailure α) :=
  match future with
  | some result => some result
  | none => if deadline.isSome then some (.error .targetTimeout) else none

def targetConnectDeadline (now : Instant) (duration : Option Duration) : Option Instant :=
  duration.bind now.checkedAdd

/-- What a connector does with the address it is handed. -/
abbrev TargetConnector := SocketAddr → DialEvent

def targetConnector : TargetConnector := .tcpConnect

def udpTargetConnector : TargetConnector
  | addr@(.v4 _ _) => .udpConnect (.new (.v4 (.new 0 0 0 0)) 0) addr
  | addr@(.v6 _ _ _ _) => .udpConnect (.new (.v6 (.new 0 0 0 0 0 0 0 0)) 0) addr

structure ConnectTasks where
  tasks : List Nat
  permits : List Nat
  deriving DecidableEq, Repr

def ConnectTasks.new : ConnectTasks := ⟨[], []⟩

def ConnectTasks.spawn (tasks : ConnectTasks) (id : Nat) : ConnectTasks :=
  ⟨tasks.tasks ++ [id], tasks.permits ++ [id]⟩

def ConnectTasks.join (tasks : ConnectTasks) (id : Nat) : ConnectTasks :=
  ⟨tasks.tasks.erase id, tasks.permits.erase id⟩

def ConnectTasks.abortAll (_ : ConnectTasks) : ConnectTasks := ⟨[], []⟩

structure DialState where
  nextIndex : Nat
  tasks : ConnectTasks
  lastError : Option IoError
  log : List DialEvent
  deriving DecidableEq, Repr

def DialState.new : DialState := ⟨0, .new, none, []⟩

inductive Joined (T : Type)
  | finished (id : Nat) (result : Except IoError T)
  | failed (id : Nat) (message : String)
  | expired
  deriving DecidableEq

structure Turn (T : Type) where
  now : Instant
  available : Nat
  joined : Joined T
  deriving DecidableEq

def spawnTargetConnects (addrs : List SocketAddr) (connector : TargetConnector) :
    (available : Nat) → DialState → DialState
  | 0, s => s
  | available + 1, s =>
    match addrs[s.nextIndex]? with
    | none => s
    | some addr =>
      if s.tasks.tasks.length < targetConnectParallelism then
        spawnTargetConnects addrs connector available
          { s with
            nextIndex := s.nextIndex + 1
            tasks := s.tasks.spawn s.nextIndex
            log := s.log ++ [connector addr] }
      else s

def DialState.abort (s : DialState) : DialState := { s with tasks := s.tasks.abortAll }

def unavailable (lastError : Option IoError) : OpenFailure :=
  .targetUnavailable (lastError.getD ⟨.notFound, "target has no socket addresses"⟩)

/-- `blocked` when the wait cannot end as the turn says. -/
inductive TurnEnd (T : Type)
  | again
  | returned (result : Except OpenFailure T)
  | blocked
  deriving DecidableEq

def dialTurn (addrs : List SocketAddr) (connector : TargetConnector) (deadline : Option Instant)
    (turn : Turn T) (s : DialState) : DialState × TurnEnd T :=
  if deadline.any (· ≤ turn.now) then (s.abort, .returned (.error .targetTimeout))
  else
    let s := spawnTargetConnects addrs connector turn.available s
    if s.tasks.tasks.isEmpty then
      if s.nextIndex < addrs.length then (s, .returned (.error .resourceLimit))
      else (s, .returned (.error (unavailable s.lastError)))
    else
      -- a join set with tasks in it never answers that it is empty
      match turn.joined with
      | .expired =>
        if deadline.isSome then (s.abort, .returned (.error .targetTimeout)) else (s, .blocked)
      | .finished id result =>
        if id ∈ s.tasks.tasks then
          let s := { s with tasks := s.tasks.join id }
          match result with
          | .ok stream => (s.abort, .returned (.ok stream))
          | .error err => ({ s with lastError := some err }, .again)
        else (s, .blocked)
      | .failed id message =>
        if id ∈ s.tasks.tasks then
          ({ s with tasks := s.tasks.join id, lastError := some ⟨.other, message⟩ }, .again)
        else (s, .blocked)

def connectFirstSuccessful (addrs : List SocketAddr) (connector : TargetConnector)
    (deadline : Option Instant) :
    List (Turn T) → DialState → DialState × Option (Except OpenFailure T)
  | [], s => (s, none)
  | turn :: turns, s =>
    match dialTurn addrs connector deadline turn s with
    | (s, .blocked) => (s, none)
    | (s, .returned result) => (s, some result)
    | (s, .again) => connectFirstSuccessful addrs connector deadline turns s

structure DialEnv (T : Type) where
  lookup : Option (Except IoError (List SocketAddr))
  turns : List (Turn T)
  deriving DecidableEq

def connectAllowed (connector : TargetConnector) (target : Target)
    (identity : AuthenticatedIdentity) (policySet : PolicySet) (deadline : Option Instant)
    (env : DialEnv T) : DialRun T :=
  match preResolvePolicyCheck target identity policySet with
  | .error failure => ⟨[], some (.error failure)⟩
  | .ok () =>
    match withTargetConnectDeadline deadline (resolveTarget env.lookup target) with
    | none => ⟨resolveEvents target, none⟩
    | some (.error failure) => ⟨resolveEvents target, some (.error failure)⟩
    | some (.ok addrs) =>
      if policySet.evaluate (policyContext identity target (resolvedIps target addrs)) ≠ .allow then
        ⟨resolveEvents target, some (.error .policyDenied)⟩
      else
        let (s, result) := connectFirstSuccessful addrs connector deadline env.turns .new
        ⟨resolveEvents target ++ s.log, result⟩

def connectAllowedTargetInner (target : Target) (identity : AuthenticatedIdentity)
    (policySet : PolicySet) (deadline : Option Instant) (env : DialEnv T) : DialRun T :=
  connectAllowed targetConnector target identity policySet deadline env

def connectAllowedUdpTargetInner (target : Target) (identity : AuthenticatedIdentity)
    (policySet : PolicySet) (deadline : Option Instant) (env : DialEnv T) : DialRun T :=
  connectAllowed udpTargetConnector target identity policySet deadline env

def connectAllowedTarget (target : Target) (identity : AuthenticatedIdentity)
    (policySet : PolicySet) (timeout : Option Duration) (now : Instant) (env : DialEnv T) :
    DialRun T :=
  connectAllowedTargetInner target identity policySet (targetConnectDeadline now timeout) env

def connectAllowedUdpTarget (target : Target) (identity : AuthenticatedIdentity)
    (policySet : PolicySet) (timeout : Option Duration) (now : Instant) (env : DialEnv T) :
    DialRun T :=
  connectAllowedUdpTargetInner target identity policySet (targetConnectDeadline now timeout) env

end UncrownedKing.Server
