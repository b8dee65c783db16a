import UncrownedKing.Lib.Run
import UncrownedKing.Lib.Wire
import UncrownedKing.Mask.ReplayLaws
import UncrownedKing.Net.Addr

/-!
# The commit gate

A masked connection is admitted after a precheck; its counter commits in front
of the first write that is not an alert. All gates share one registry behind a
lock, which may be poisoned.
-/

namespace UncrownedKing.Server

open Lib Net Mask

structure SharedRegistry where
  registry : ReplayRegistry
  poisoned : Bool

/-- A poisoned registry fails closed. -/
def SharedRegistry.precheck (shared : SharedRegistry) (identity : UInt64) (counter : Nat) : Bool :=
  if shared.poisoned then false else shared.registry.precheck identity counter = .accepted

def SharedRegistry.commit (shared : SharedRegistry) (identity : UInt64) (counter : Nat) :
    SharedRegistry × Bool :=
  if shared.poisoned then (shared, false)
  else
    let after := shared.registry.commit identity counter
    ({ shared with registry := after.1 }, after.2 = .accepted)

def tlsAlertContentType : UInt8 := 21

structure CommitGate where
  pending : Option (UInt64 × Nat)
  deriving DecidableEq, Repr

def CommitGate.new (pending : UInt64 × Nat) : CommitGate := ⟨some pending⟩

inductive PollWrite
  | inner
  | failed (error : IoError)
  deriving DecidableEq, Repr

def replayedAtCommit : IoError := ⟨.invalidData, "masking prelude replayed at commit"⟩

def CommitGate.pollWrite (gate : CommitGate) (shared : SharedRegistry) (buf : Bytes) :
    CommitGate × SharedRegistry × PollWrite :=
  match gate.pending with
  | some (identity, counter) =>
    if buf.isEmpty || buf.head? = some tlsAlertContentType then
      -- the commit stays pending
      (gate, shared, .inner)
    else
      let gate := { gate with pending := none }
      match shared.commit identity counter with
      | (shared, false) => (gate, shared, .failed replayedAtCommit)
      | (shared, true) => (gate, shared, .inner)
  | none => (gate, shared, .inner)

structure MaskedConnection where
  identity : UInt64
  counter : Nat
  gate : CommitGate
  deriving DecidableEq, Repr

/-- The ledger records what was committed and is not part of the code. -/
structure Gates where
  shared : SharedRegistry
  ledger : Ledger
  connections : List MaskedConnection

def Gates.new (capacity : Nat) (h : 0 < capacity) : Gates where
  shared := ⟨.new capacity h, false⟩
  ledger := []
  connections := []

inductive GateAction
  | admitTcp (identity : UInt64) (counter : Nat)
  | write (connection : Nat) (buf : Bytes)
  | poison
  deriving DecidableEq, Repr

inductive GateEvent
  | committed (connection : Nat) (identity : UInt64) (counter : Nat)
  | refused (connection : Nat)
  | passed (connection : Nat) (buf : Bytes)
  deriving DecidableEq, Repr

def Carries (buf : Bytes) : Prop := buf ≠ [] ∧ buf.head? ≠ some tlsAlertContentType

instance (buf : Bytes) : Decidable (Carries buf) := inferInstanceAs (Decidable (_ ∧ _))

def CommitGate.commits (gate : CommitGate) (buf : Bytes) : Option (UInt64 × Nat) :=
  if Carries buf then gate.pending else none

def SharedRegistry.recordIn (shared : SharedRegistry) (ledger : Ledger) (identity : UInt64)
    (counter : Nat) : Ledger :=
  if shared.poisoned then ledger else (track (shared.registry, ledger) (.commit identity counter)).2

def Gates.write (gates : Gates) (n : Nat) (connection : MaskedConnection) (buf : Bytes) :
    Gates × List GateEvent :=
  let (gate, shared, result) := connection.gate.pollWrite gates.shared buf
  let reached := match result with
    | .inner => [GateEvent.passed n buf]
    | .failed _ => []
  let connections := gates.connections.set n { connection with gate := gate }
  match connection.gate.commits buf with
  | none => ({ gates with shared := shared, connections := connections }, reached)
  | some (identity, counter) =>
    let answer :=
      if (gates.shared.commit identity counter).2 then .committed n identity counter
      else .refused n
    (⟨shared, gates.shared.recordIn gates.ledger identity counter, connections⟩, answer :: reached)

def Gates.step (gates : Gates) : GateAction → Gates × List GateEvent
  | .admitTcp identity counter =>
    if gates.shared.precheck identity counter then
      ({ gates with
        connections := gates.connections ++ [⟨identity, counter, .new (identity, counter)⟩] }, [])
    else (gates, [])
  | .write n buf =>
    match gates.connections[n]? with
    | none => (gates, [])
    | some connection => gates.write n connection buf
  | .poison => ({ gates with shared := { gates.shared with poisoned := true } }, [])

end UncrownedKing.Server
