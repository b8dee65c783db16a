import UncrownedKing.Relay.Buffer
import UncrownedKing.Relay.Machine

/-!
# Sessions that share a budget of flows

Every session takes a permit from one budget for each flow it opens. A permit is
given back when the slot, the dialling task and the accepting handler have all
let go.
-/

namespace UncrownedKing.Relay

open Lib Net Proto Auth Server

def reserveBytes (bufferedBytes amount limit : Nat) : Option Nat :=
  let next := bufferedBytes + amount
  if usizeWord ≤ next then none
  else if next > limit then none
  else some next

def releaseBytes (bufferedBytes amount : Nat) : Nat := bufferedBytes - amount

structure GlobalFlowBudget where
  current : Nat
  limit : Nat
  deriving DecidableEq, Repr

namespace GlobalFlowBudget

def tryAcquire (budget : GlobalFlowBudget) : Option GlobalFlowBudget :=
  (reserveBytes budget.current 1 budget.limit).map fun current => { budget with current := current }

def dropPermit (budget : GlobalFlowBudget) : GlobalFlowBudget :=
  { budget with current := releaseBytes budget.current 1 }

end GlobalFlowBudget

abbrev PermitHandle := FlowToken × Nat

def FlowSlot.handle? (slot : FlowSlot) : Option PermitHandle :=
  slot.permit.map fun permit => (slot.origin, permit)

def Task.handle? (task : Task) : Option PermitHandle :=
  match task.stage with
  | .done => none
  | _ => task.permit.map fun permit => (task.origin, permit)

def scriptHandles : Script → List PermitHandle
  | [] => []
  | .establish flow :: rest =>
    (flow.permit.map fun permit => (flow.origin, permit)).toList ++ scriptHandles rest
  | .fail _ :: _ => []
  | _ :: rest => scriptHandles rest

def RelaySession.handles (r : RelaySession) : List PermitHandle :=
  r.session.targetWriters.entries.filterMap (·.2.handle?) ++ r.session.tasks.filterMap Task.handle? ++
    match r.loop with
    | .running script => scriptHandles script
    | _ => []

def RelaySession.holds (r : RelaySession) (permit : Nat) : Bool :=
  r.handles.any fun handle => handle.2 == permit

def RelaySession.dropped (before after : RelaySession) : List Nat :=
  ((before.handles.map Prod.snd).filter fun permit => !after.holds permit).dedup

structure ServedSession where
  context : RelayContext
  relay : RelaySession

/-- Permits go by the order in which they were taken; `grants`, which says for what, is not part
of the code. -/
structure RelayServer where
  sessions : List ServedSession
  globalFlows : GlobalFlowBudget
  grants : List (Nat × FlowToken)

def RelayServer.start (limit : Nat) : RelayServer := ⟨[], ⟨0, limit⟩, []⟩

inductive ServerAction
  | serve (context : RelayContext)
  | session (n : Nat) (action : RelayAction)

inductive PermitEvent
  | acquired (permit : Nat)
  | released (permit : Nat)
  deriving DecidableEq, Repr

def RelayAction.withPermit (permit : Option Nat) : RelayAction → RelayAction
  | .frame received env => .frame received { env with permit := permit }
  | action => action

def RelayEvent.isOpened : RelayEvent → Bool
  | .opened _ _ => true
  | _ => false

/-- The handler of an open takes the permit when it admits the open. -/
def RelayServer.sessionStep (server : RelayServer) (n : Nat) (served : ServedSession)
    (action : RelayAction) : RelayServer × List PermitEvent :=
  let permit := server.grants.length
  let acquired := server.globalFlows.tryAcquire
  let (relay, log) :=
    served.relay.step served.context (action.withPermit (acquired.map fun _ => permit))
  let opened := log.any RelayEvent.isOpened
  let globalFlows := if opened then acquired.getD server.globalFlows else server.globalFlows
  let dropped := served.relay.dropped relay
  ({ sessions := server.sessions.set n { served with relay := relay }
     globalFlows := dropped.foldl (fun budget _ => budget.dropPermit) globalFlows
     grants :=
       if opened then server.grants ++ [(n, served.relay.session.flowTokens)] else server.grants },
    (if opened then [.acquired permit] else []) ++ dropped.map .released)

def RelayServer.step (server : RelayServer) : ServerAction → RelayServer × List PermitEvent
  | .serve context => ({ server with sessions := server.sessions ++ [⟨context, .start⟩] }, [])
  | .session n action =>
    match server.sessions[n]? with
    | none => (server, [])
    | some served => server.sessionStep n served action

def RelayServer.holds (server : RelayServer) (permit : Nat) : Bool :=
  server.sessions.any fun served => served.relay.holds permit

def RelayServer.livePermits (server : RelayServer) : List Nat :=
  (List.range server.grants.length).filter server.holds

end UncrownedKing.Relay
