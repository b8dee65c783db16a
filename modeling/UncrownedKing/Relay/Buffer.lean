import UncrownedKing.Lib.Budget

/-!
# Buffered bytes

What is held of an upload or a download is charged to the flow, its session and,
on the server, the whole server, counter by counter, by loops of
`compare_exchange`.
-/

namespace UncrownedKing.Relay

open Lib

def usizeWord : Nat := 2 ^ 64

inductive TargetCounter
  | flow (session flow : Nat)
  | session (session : Nat)
  | global
  deriving DecidableEq, Repr

structure TargetBufferLimits where
  maxBufferedBytesPerFlow : Nat → Nat
  maxBufferedBytesPerSession : Nat → Nat
  globalLimit : Nat

def TargetBufferLimits.limit (limits : TargetBufferLimits) : TargetCounter → Nat
  | .flow session _ => limits.maxBufferedBytesPerFlow session
  | .session session => limits.maxBufferedBytesPerSession session
  | .global => limits.globalLimit

def targetFlowCounters (session flow : Nat) : List TargetCounter :=
  [.flow session flow, .session session, .global]

/-- `turn` is the next access to a counter. -/
inductive TargetBufferAction
  | newData (session flow payloadLen : Nat)
  | turn (data : Nat)
  | dropData (data : Nat)
  deriving DecidableEq, Repr

def TargetBufferAction.toBudget : TargetBufferAction → BudgetAction TargetCounter
  | .newData session flow payloadLen => .reserve (targetFlowCounters session flow) payloadLen
  | .turn data => .advance data false
  | .dropData data => .drop data

def targetBufferStep (limits : TargetBufferLimits) (buffers : Budgets TargetCounter)
    (action : TargetBufferAction) : Budgets TargetCounter × List Subtraction :=
  buffers.step usizeWord limits.limit action.toBudget

inductive ClientCounter
  | flow (session flow : Nat)
  | session (session : Nat)
  deriving DecidableEq, Repr

structure ClientBufferLimits where
  flowByteLimit : Nat → Nat
  sessionByteLimit : Nat → Nat

def ClientBufferLimits.limit (limits : ClientBufferLimits) : ClientCounter → Nat
  | .flow session _ => limits.flowByteLimit session
  | .session session => limits.sessionByteLimit session

def clientFlowCounters (session flow : Nat) : List ClientCounter :=
  [.flow session flow, .session session]

/-- A frame is released once. One without payload leaves the counters as they are. -/
inductive ClientBufferAction
  | newFrame (session flow payloadLen : Nat)
  | turn (frame : Nat) (spurious : Bool)
  | release (frame : Nat)
  deriving DecidableEq, Repr

def ClientBufferAction.toBudget : ClientBufferAction → BudgetAction ClientCounter
  | .newFrame session flow payloadLen => .reserve (clientFlowCounters session flow) payloadLen
  | .turn frame spurious => .advance frame spurious
  | .release frame => .drop frame

def clientBufferStep (limits : ClientBufferLimits) (buffers : Budgets ClientCounter)
    (action : ClientBufferAction) : Budgets ClientCounter × List Subtraction :=
  buffers.step usizeWord limits.limit action.toBudget

/-- No counter passes its limit or saturates, and each is the sum of what is claimed. -/
structure Accounted {κ : Type} [DecidableEq κ] (limit : κ → Nat)
    (r : Budgets κ × List Subtraction) : Prop where
  le_limit : ∀ counter, r.1.counters counter ≤ limit counter
  exact : ∀ counter, r.1.counters counter = r.1.total counter
  never_saturates : ∀ subtraction ∈ r.2, subtraction.amount ≤ subtraction.current

/-- Claim `n` found no room. -/
def IsRefused {κ : Type} (buffers : Budgets κ) (n : Nat) : Prop :=
  (buffers.claims[n]?).map Claim.stage = some .refused

theorem run_targetBufferStep (limits : TargetBufferLimits) (buffers : Budgets TargetCounter)
    (actions : List TargetBufferAction) :
    run (targetBufferStep limits) buffers actions =
      run (Budgets.step usizeWord limits.limit) buffers
        (actions.map TargetBufferAction.toBudget) :=
  run_map (Budgets.step usizeWord limits.limit) _ _ _

theorem run_clientBufferStep (limits : ClientBufferLimits) (buffers : Budgets ClientCounter)
    (actions : List ClientBufferAction) :
    run (clientBufferStep limits) buffers actions =
      run (Budgets.step usizeWord limits.limit) buffers
        (actions.map ClientBufferAction.toBudget) :=
  run_map (Budgets.step usizeWord limits.limit) _ _ _

theorem run_accounted {κ : Type} [DecidableEq κ] (limit : κ → Nat)
    (actions : List (BudgetAction κ)) :
    Accounted limit (run (Budgets.step usizeWord limit) .empty actions) :=
  have ⟨hexact, hlog⟩ := Budgets.run_exact usizeWord limit actions
  ⟨hexact.le_limit, hexact.exact, hlog⟩

/-- The counters after a run; a refused reservation leaves them as they were. -/
theorem buffer_accounting_exact (targetLimits : TargetBufferLimits)
    (clientLimits : ClientBufferLimits) (targetActions : List TargetBufferAction)
    (clientActions : List ClientBufferAction) :
    let target := run (targetBufferStep targetLimits) .empty targetActions
    let client := run (clientBufferStep clientLimits) .empty clientActions
    Accounted targetLimits.limit target ∧
      (∀ session flow payloadLen turns,
        let data := target.1.claims.length
        let after := (run (targetBufferStep targetLimits) target.1
          (.newData session flow payloadLen :: List.replicate turns (.turn data))).1
        IsRefused after data → after.counters = target.1.counters) ∧
      Accounted clientLimits.limit client ∧
      ∀ session flow payloadLen, ∀ turns : List Bool,
        let frame := client.1.claims.length
        let after := (run (clientBufferStep clientLimits) client.1
          (.newFrame session flow payloadLen :: turns.map (.turn frame))).1
        IsRefused after frame → after.counters = client.1.counters := by
  intro target client
  have htarget : target = _ := run_targetBufferStep targetLimits .empty targetActions
  have hclient : client = _ := run_clientBufferStep clientLimits .empty clientActions
  refine ⟨htarget ▸ run_accounted _ _, ?_, hclient ▸ run_accounted _ _, ?_⟩
  · intro session flow payloadLen turns data after hrefused
    have hexact : target.1.Exact targetLimits.limit :=
      htarget ▸ (Budgets.run_exact usizeWord targetLimits.limit _).1
    have hafter : after = (run (Budgets.step usizeWord targetLimits.limit) target.1
        (.reserve (targetFlowCounters session flow) payloadLen ::
          (List.replicate turns false).map (.advance data))).1 := by
      simp [after, run_targetBufferStep, TargetBufferAction.toBudget]
    rw [hafter] at hrefused ⊢
    exact hexact.refused_alone _ _ _ hrefused
  · intro session flow payloadLen turns frame after hrefused
    have hexact : client.1.Exact clientLimits.limit :=
      hclient ▸ (Budgets.run_exact usizeWord clientLimits.limit _).1
    have hafter : after = (run (Budgets.step usizeWord clientLimits.limit) client.1
        (.reserve (clientFlowCounters session flow) payloadLen ::
          turns.map (.advance frame))).1 := by
      simp [after, run_clientBufferStep, ClientBufferAction.toBudget, Function.comp_def]
    rw [hafter] at hrefused ⊢
    exact hexact.refused_alone _ _ _ hrefused

-- The server as a whole is full: the flow and the session get their bytes back.
example :
    let r := run (targetBufferStep ⟨fun _ => 9, fun _ => 9, 3⟩) .empty
      (.newData 0 1 5 :: List.replicate 10 (.turn 0))
    IsRefused r.1 0 ∧ r.2 = [⟨5, 5⟩, ⟨5, 5⟩] := by
  unfold IsRefused
  decide +kernel

end UncrownedKing.Relay
