import UncrownedKing.Relay.Machine

/-!
# UDP flows and the clock

The session of `Machine` with the time its handlers see, and for every open when
a datagram was last relayed for its flow.
-/

namespace UncrownedKing.Relay

open Lib Net Proto Auth Server

def Session.udpOrigin (s : Session) (flowId : Nat) : Option FlowToken :=
  (udpTargetFlow s.targetWriters flowId).map UdpTargetFlow.origin

def RelaySession.taskRelays (r : RelaySession) (n : Nat) (task : Task) (choice : TaskChoice)
    (sent : Bool) : Bool :=
  task.isUdpReader &&
    match task.stage, choice with
    | .sending frame, .finish .written => isData frame && r.carrier == some (.task n)
    | .reading, .datagram => sent && !r.muted task.token
    | _, _ => false

/-- What the client sends counts once it is handed to the flow's socket. -/
def RelaySession.relays (r : RelaySession) (sent : Bool) (action : RelayAction) :
    Option FlowToken :=
  match r.loop, action with
  | .ready, .frame frame _ =>
    if frame.header.frameType = .udpData then r.session.udpOrigin frame.header.id else none
  | .ready, .event _ =>
    match r.events.map Queued.event with
    | .inboundDatagram flowId _ :: _ => r.session.udpOrigin flowId
    | _ => none
  | _, .task n choice _ =>
    r.session.tasks[n]?.bind fun task =>
      if r.taskRelays n task choice sent then some task.origin else none
  | _, _ => none

/-- A payload not sent was too large, which is not recorded. -/
def RelayAction.timed (now : Instant) (sent : Bool) : RelayAction → RelayAction
  | .frame received env => .frame received { env with now := now }
  | .event env => .event { env with now := now }
  | .udpIdleMaintenance order _ => .udpIdleMaintenance order now
  | .loop (.go _) => .loop (.go now)
  | .task n .datagram recorded => .task n .datagram (recorded && sent)
  | action => action

structure ClockedAction where
  wait : Duration
  action : RelayAction
  sent : Bool

structure ClockedSession where
  relay : RelaySession
  now : Instant
  relayed : FlowToken → Option Instant

def ClockedSession.start : ClockedSession := ⟨.start, 0, fun _ => none⟩

/-- `closed` has the last time a datagram was relayed for the flow, `refreshed` the open whose
task said so. -/
inductive IdleEvent
  | closed (relayed : Option Instant) (now : Instant)
  | refreshed (flow : FlowToken) (cause : Option FlowToken)
  deriving DecidableEq, Repr

namespace ClockedSession

def closings (context : RelayContext) (c : ClockedSession) (order : Table.Order Nat FlowSlot) :
    List IdleEvent :=
  let closed := closeIdleUdpFlows context order c.now c.relay.session
  c.relay.session.targetWriters.entries.filterMap fun entry =>
    match entry.2 with
    | .udp flow =>
      if .remove entry.1 ∈ closed then some (.closed (c.relayed flow.origin) c.now) else none
    | _ => none

def refreshes (before after : Session) (cause : Option FlowToken) : List IdleEvent :=
  before.targetWriters.entries.filterMap fun entry =>
    match entry.2, after.targetWriters.lookup entry.1 with
    | .udp flow, some (.udp flow') =>
      if flow'.lastActivity ≠ flow.lastActivity then some (.refreshed flow.origin cause) else none
    | _, _ => none

def shows (context : RelayContext) (c : ClockedSession) (after : Session) (action : RelayAction) :
    List IdleEvent :=
  match c.relay.loop, action with
  | .ready, .udpIdleMaintenance order _ => c.closings context order
  | .ready, .event _ =>
    match c.relay.events with
    | [] => []
    -- the client's own, for the flow whose socket it goes to
    | ⟨_, .inboundDatagram _ _⟩ :: _ => []
    | ⟨origin, _⟩ :: _ => refreshes c.relay.session after origin
  | _, _ => []

def wait (c : ClockedSession) (d : Duration) : ClockedSession := { c with now := c.now + d }

def act (context : RelayContext) (c : ClockedSession) (action : RelayAction) (sent : Bool) :
    ClockedSession × List IdleEvent :=
  let relay := (c.relay.step context (action.timed c.now sent)).1
  let relayed := match c.relay.relays sent action with
    | some origin => Function.update c.relayed origin (some c.now)
    | none => c.relayed
  (⟨relay, c.now, relayed⟩, c.shows context relay.session action)

def step (context : RelayContext) (c : ClockedSession) (clocked : ClockedAction) :
    ClockedSession × List IdleEvent :=
  (c.wait clocked.wait).act context clocked.action clocked.sent

end ClockedSession

end UncrownedKing.Relay
