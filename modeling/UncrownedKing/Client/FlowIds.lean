import UncrownedKing.Client.Session
import UncrownedKing.Lib.Threads

/-!
# Flow ids of a session

`allocate_client_flow_id` with every access to the atomic counter a step of its
own. The accesses are relaxed: a load, and an exchange that fails, may see any
value that the counter has had.
-/

namespace UncrownedKing.Client

open Lib Proto

def flowIdStep : Nat := 2

def saturatingAdd (a b : Nat) : Nat := min (a + b) (2 ^ 64 - 1)

inductive FlowIdEvent
  | allocated (result : Option Nat)
  | reserved (result : Except OpenError (Option Nat))

def allocatedIds (log : List FlowIdEvent) : List Nat :=
  log.filterMap fun
    | .allocated result => result
    | .reserved _ => none

def reservedIds (log : List FlowIdEvent) : List Nat :=
  log.filterMap fun
    | .reserved (.ok result) => result
    | _ => none

structure FlowIds where
  session : Session := {}
  flowsLock : Option Nat := none
  log : List FlowIdEvent := []

inductive FlowIdCaller
  | alone
  | slot (protocol : FlowProtocol) (attempts : Nat)

inductive FlowIdPoint
  | idle
  | lockFlows (protocol : FlowProtocol)
  | load (caller : FlowIdCaller)
  | exchange (caller : FlowIdCaller) (current : Nat)
  | insert (protocol : FlowProtocol) (attempts flowId : Nat)

inductive FlowIdInput
  | allocate
  | reserve (protocol : FlowProtocol)
  | removeFlow (flowId : Nat)
  | clearFlows
  | go (value : Nat) (fails : Bool)

namespace FlowIds

variable (s : FlowIds) (task : Nat)

def emit (event : FlowIdEvent) : FlowIds := { s with log := s.log ++ [event] }

def finish (result : Except OpenError (Option Nat)) : FlowIds × FlowIdPoint :=
  ({ s with flowsLock := none }.emit (.reserved result), .idle)

def seen (value : Nat) : Nat :=
  if value ∈ allocatedIds s.log then value else s.session.nextFlowId

def returned (caller : FlowIdCaller) (result : Option Nat) : FlowIds × FlowIdPoint :=
  let s := s.emit (.allocated result)
  match caller, result with
  | .alone, _ => (s, .idle)
  | .slot _ _, none => s.finish (.error .flowIdsExhausted)
  | .slot protocol attempts, some flowId => (s, .insert protocol attempts flowId)

def attempt (caller : FlowIdCaller) (current : Nat) : FlowIds × FlowIdPoint :=
  if current > Varint.maxVarint then s.returned caller none else (s, .exchange caller current)

def compareExchangeWeak (caller : FlowIdCaller) (current value : Nat) (fails : Bool) :
    FlowIds × FlowIdPoint :=
  if s.session.nextFlowId = current ∧ fails = false then
    { s with session.nextFlowId := saturatingAdd current flowIdStep }.returned caller (some current)
  else s.attempt caller (s.seen value)

def nextAttempt (protocol : FlowProtocol) : (attempts : Nat) → FlowIds × FlowIdPoint
  | 0 => s.finish (.error .noFlowId)
  | attempts + 1 => (s, .load (.slot protocol attempts))

def reserveFlowSlot (limits : SessionLimits) (protocol : FlowProtocol) : FlowIds × FlowIdPoint :=
  let locked := { s with flowsLock := some task }
  if s.session.flows.length ≥ limits.maxStreams then locked.finish (.ok none)
  else if protocol = .udp ∧ s.session.udpRouteCount ≥ limits.maxUdpFlows then
    locked.finish (.ok none)
  else locked.nextAttempt protocol Session.flowIdAllocationAttempts

def insertRoute (protocol : FlowProtocol) (attempts flowId : Nat) : FlowIds × FlowIdPoint :=
  if isClientInitiatedFlowId flowId && !s.session.hasFlow flowId then
    { s with session := s.session.addFlow flowId task protocol }.finish (.ok (some flowId))
  else s.nextAttempt protocol attempts

/-- Other operations take routes out of the table, under its lock. -/
def step (limits : SessionLimits) (s : FlowIds) (task : Nat) (point : FlowIdPoint)
    (input : FlowIdInput) : FlowIds × FlowIdPoint :=
  match point, input with
  | .idle, .allocate => (s, .load .alone)
  | .idle, .reserve protocol => (s, .lockFlows protocol)
  | .idle, .removeFlow flowId =>
    (if s.flowsLock.isNone then { s with session := s.session.dropRoute flowId } else s, .idle)
  | .idle, .clearFlows =>
    (if s.flowsLock.isNone then { s with session.flows := [] } else s, .idle)
  | .lockFlows protocol, .go _ _ =>
    if s.flowsLock.isNone then s.reserveFlowSlot task limits protocol
    else (s, .lockFlows protocol)
  | .load caller, .go value _ => s.attempt caller (s.seen value)
  | .exchange caller current, .go value fails => s.compareExchangeWeak caller current value fails
  | .insert protocol attempts flowId, .go _ _ => s.insertRoute task protocol attempts flowId
  | point, _ => (s, point)

end FlowIds

def flowIdRun (limits : SessionLimits) (acts : List (Nat × FlowIdInput)) :
    Threads FlowIds FlowIdPoint :=
  Threads.run (FlowIds.step limits) ⟨{}, fun _ => .idle⟩ acts

end UncrownedKing.Client
