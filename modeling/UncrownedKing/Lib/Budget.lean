import UncrownedKing.Lib.Run
import Mathlib.Logic.Function.Basic
import Mathlib.Algebra.Order.BigOperators.Group.List
import Mathlib.Algebra.Order.Group.Nat
import Mathlib.Algebra.GroupWithZero.Nat

/-!
# Nested budgets under compare-and-swap

A claim charges an amount to several counters in turn and takes back what it has
charged when one is full. Every access to a counter is one step, a load or a
compare-and-swap, which may fail without a reason.
-/

namespace UncrownedKing.Lib

variable {κ : Type} [DecidableEq κ]

inductive ClaimStage (κ : Type)
  | reserving (todo charged : List κ) (loaded : Option Nat)
  | undoing (todo : List κ) (loaded : Option Nat)
  | live
  | releasing (todo : List κ) (loaded : Option Nat)
  | refused
  | released
  deriving DecidableEq, Repr

structure Claim (κ : Type) where
  path : List κ
  amount : Nat
  stage : ClaimStage κ
  deriving DecidableEq, Repr

structure Budgets (κ : Type) where
  counters : κ → Nat
  claims : List (Claim κ)

def Budgets.empty : Budgets κ := ⟨fun _ => 0, []⟩

inductive BudgetAction (κ : Type)
  | reserve (path : List κ) (amount : Nat)
  | advance (claim : Nat) (spurious : Bool)
  | drop (claim : Nat)
  deriving DecidableEq, Repr

structure Subtraction where
  current : Nat
  amount : Nat
  deriving DecidableEq, Repr

def subtractTurn (counters : κ → Nat) (amount : Nat) (counter : κ) (spurious : Bool)
    (done : ClaimStage κ) (again : Option Nat → ClaimStage κ) :
    Option Nat → (κ → Nat) × ClaimStage κ × List Subtraction
  | none => (counters, again (some (counters counter)), [])
  | some current =>
    if counters counter = current ∧ spurious = false then
      (Function.update counters counter (current - amount), done, [⟨current, amount⟩])
    else (counters, again (some (counters counter)), [])

def ClaimStage.undo : List κ → ClaimStage κ
  | [] => .refused
  | charged => .undoing charged none

def ClaimStage.next (charged : List κ) : List κ → ClaimStage κ
  | [] => .live
  | todo => .reserving todo charged none

def ClaimStage.release : List κ → ClaimStage κ
  | [] => .released
  | todo => .releasing todo none

def claimTurn (word : Nat) (limit : κ → Nat) (counters : κ → Nat) (amount : Nat) (spurious : Bool) :
    ClaimStage κ → (κ → Nat) × ClaimStage κ × List Subtraction
  | .reserving (counter :: todo) charged none =>
    (counters, .reserving (counter :: todo) charged (some (counters counter)), [])
  | .reserving (counter :: todo) charged (some current) =>
    if word ≤ current + amount ∨ limit counter < current + amount then
      (counters, .undo charged, [])
    else if counters counter = current ∧ spurious = false then
      (Function.update counters counter (current + amount), .next (counter :: charged) todo, [])
    else (counters, .reserving (counter :: todo) charged (some (counters counter)), [])
  | .undoing (counter :: todo) loaded =>
    subtractTurn counters amount counter spurious (.undo todo) (.undoing (counter :: todo)) loaded
  | .releasing (counter :: todo) loaded =>
    subtractTurn counters amount counter spurious (.release todo) (.releasing (counter :: todo))
      loaded
  | stage => (counters, stage, [])

def Budgets.step (word : Nat) (limit : κ → Nat) (budgets : Budgets κ) :
    BudgetAction κ → Budgets κ × List Subtraction
  | .reserve path amount =>
    ({ budgets with claims := budgets.claims ++ [⟨path, amount, .next [] path⟩] }, [])
  | .advance n spurious =>
    match budgets.claims[n]? with
    | none => (budgets, [])
    | some claim =>
      let (counters, stage, log) :=
        claimTurn word limit budgets.counters claim.amount spurious claim.stage
      (⟨counters, budgets.claims.set n { claim with stage := stage }⟩, log)
  | .drop n =>
    match budgets.claims[n]? with
    | some ⟨path, amount, .live⟩ =>
      ({ budgets with claims := budgets.claims.set n ⟨path, amount, .release path⟩ }, [])
    | _ => (budgets, [])

def ClaimStage.holds (path : List κ) : ClaimStage κ → List κ
  | .reserving _ charged _ => charged
  | .undoing todo _ => todo
  | .live => path
  | .releasing todo _ => todo
  | .refused | .released => []

def Claim.held (claim : Claim κ) (counter : κ) : Nat :=
  claim.amount * (claim.stage.holds claim.path).count counter

def Budgets.total (budgets : Budgets κ) (counter : κ) : Nat :=
  (budgets.claims.map (·.held counter)).sum

def ClaimStage.Ordered (path : List κ) : ClaimStage κ → Prop
  | .reserving todo charged _ => path = charged.reverse ++ todo
  | _ => True

section

omit [DecidableEq κ]

theorem ClaimStage.holds_undo (path charged : List κ) :
    (ClaimStage.undo charged).holds path = charged := by
  cases charged <;> rfl

theorem ClaimStage.undo_ordered (path charged : List κ) :
    (ClaimStage.undo charged).Ordered path := by
  cases charged <;> trivial

theorem ClaimStage.holds_release (path todo : List κ) :
    (ClaimStage.release todo).holds path = todo := by
  cases todo <;> rfl

theorem ClaimStage.release_ordered (path todo : List κ) :
    (ClaimStage.release todo).Ordered path := by
  cases todo <;> trivial

theorem ClaimStage.next_ordered {path charged todo : List κ} (h : path = charged.reverse ++ todo) :
    (ClaimStage.next charged todo).Ordered path := by
  cases todo with
  | nil => trivial
  | cons => exact h

end

theorem ClaimStage.count_holds_next {path charged todo : List κ}
    (h : path = charged.reverse ++ todo) (k : κ) :
    ((ClaimStage.next charged todo).holds path).count k = charged.count k := by
  cases todo with
  | nil => simp [ClaimStage.next, ClaimStage.holds, h]
  | cons => rfl

/-- A turn leaves everything, or moves the amount onto or off one counter. -/
inductive Turn (limit counters : κ → Nat) (amount : Nat) (held : List κ) :
    (κ → Nat) → List κ → List Subtraction → Prop
  | idle (h : ∀ k, held'.count k = held.count k) : Turn limit counters amount held counters held' []
  | charge (counter : κ) (hle : counters counter + amount ≤ limit counter)
      (h : ∀ k, held'.count k = (counter :: held).count k) :
      Turn limit counters amount held (Function.update counters counter (counters counter + amount))
        held' []
  | discharge (counter : κ) (h : ∀ k, (counter :: held').count k = held.count k) :
      Turn limit counters amount held (Function.update counters counter (counters counter - amount))
        held' [⟨counters counter, amount⟩]

variable {word : Nat} {limit counters : κ → Nat}

theorem subtractTurn_turn (amount : Nat) (counter : κ) (spurious : Bool) (loaded : Option Nat)
    {path todo : List κ} {done : ClaimStage κ} {again : Option Nat → ClaimStage κ}
    (hdone : done.holds path = todo) (hagain : ∀ l, (again l).holds path = counter :: todo) :
    let after := subtractTurn counters amount counter spurious done again loaded
    Turn limit counters amount (counter :: todo) after.1 (after.2.1.holds path) after.2.2 := by
  cases loaded with
  | none =>
    simp only [subtractTurn, hagain]
    exact .idle fun k => rfl
  | some current =>
    simp only [subtractTurn]
    split
    · rename_i hswap
      obtain ⟨rfl, -⟩ := hswap
      simp only [hdone]
      exact .discharge counter fun k => rfl
    · simp only [hagain]
      exact .idle fun k => rfl

theorem subtractTurn_ordered {path : List κ} {done : ClaimStage κ}
    {again : Option Nat → ClaimStage κ} (hdone : done.Ordered path)
    (hagain : ∀ l, (again l).Ordered path) :
    (subtractTurn counters amount counter spurious done again loaded).2.1.Ordered path := by
  cases loaded with
  | none => exact hagain _
  | some current =>
    simp only [subtractTurn]
    split
    · exact hdone
    · exact hagain _

theorem claimTurn_turn {stage : ClaimStage κ} (path : List κ) (amount : Nat)
    (h : stage.Ordered path) (spurious : Bool) :
    let after := claimTurn word limit counters amount spurious stage
    Turn limit counters amount (stage.holds path) after.1 (after.2.1.holds path) after.2.2 := by
  match stage with
  | .live | .refused | .released | .undoing [] _ | .releasing [] _ | .reserving [] _ _ =>
    exact .idle fun k => rfl
  | .undoing (counter :: todo) loaded =>
    exact subtractTurn_turn amount counter spurious loaded (ClaimStage.holds_undo path todo)
      fun _ => rfl
  | .releasing (counter :: todo) loaded =>
    exact subtractTurn_turn amount counter spurious loaded (ClaimStage.holds_release path todo)
      fun _ => rfl
  | .reserving (counter :: todo) charged none => exact .idle fun k => rfl
  | .reserving (counter :: todo) charged (some current) =>
    simp only [claimTurn]
    split
    · refine .idle fun k => ?_
      rw [ClaimStage.holds_undo]
      rfl
    · rename_i hfits
      split
      · rename_i hswap
        obtain ⟨rfl, -⟩ := hswap
        refine .charge counter (by omega) fun k => ?_
        rw [ClaimStage.count_holds_next (by simpa [ClaimStage.Ordered] using h)]
        rfl
      · exact .idle fun k => rfl

theorem claimTurn_ordered {stage : ClaimStage κ} (path : List κ) (amount : Nat)
    (h : stage.Ordered path) (spurious : Bool) :
    (claimTurn word limit counters amount spurious stage).2.1.Ordered path := by
  match stage with
  | .live | .refused | .released | .undoing [] _ | .releasing [] _ => trivial
  | .reserving [] _ _ => exact h
  | .undoing (counter :: todo) loaded =>
    exact subtractTurn_ordered (ClaimStage.undo_ordered path todo) fun _ => trivial
  | .releasing (counter :: todo) loaded =>
    exact subtractTurn_ordered (ClaimStage.release_ordered path todo) fun _ => trivial
  | .reserving (counter :: todo) charged none => exact h
  | .reserving (counter :: todo) charged (some current) =>
    simp only [claimTurn]
    split
    · exact ClaimStage.undo_ordered path charged
    · split
      · exact ClaimStage.next_ordered (by simpa [ClaimStage.Ordered] using h)
      · exact h

theorem sum_map_set {α : Type} {l : List α} {n : Nat} {a b : α} (f : α → Nat) (h : l[n]? = some a) :
    ((l.set n b).map f).sum + f a = (l.map f).sum + f b := by
  induction l generalizing n with
  | nil => simp at h
  | cons x l ih =>
    cases n with
    | zero =>
      obtain rfl : x = a := by simpa using h
      simp only [List.set_cons_zero, List.map_cons, List.sum_cons]
      omega
    | succ n =>
      have hrest := ih (by simpa using h)
      simp only [List.set_cons_succ, List.map_cons, List.sum_cons]
      omega

structure Budgets.Exact (limit : κ → Nat) (budgets : Budgets κ) : Prop where
  ordered : ∀ claim ∈ budgets.claims, claim.stage.Ordered claim.path
  exact : ∀ counter, budgets.counters counter = budgets.total counter
  le_limit : ∀ counter, budgets.counters counter ≤ limit counter

theorem Budgets.empty_exact : (Budgets.empty : Budgets κ).Exact limit :=
  ⟨nofun, fun _ => rfl, fun _ => Nat.zero_le _⟩

section

variable {budgets : Budgets κ} (h : budgets.Exact limit)
include h

theorem Budgets.Exact.held_le (hmem : claim ∈ budgets.claims) (counter : κ) :
    claim.held counter ≤ budgets.counters counter := by
  rw [h.exact]
  exact List.single_le_sum (fun _ _ => Nat.zero_le _) _ (List.mem_map_of_mem hmem)

theorem Budgets.Exact.advance (hn : budgets.claims[n]? = some claim)
    (hturn : Turn limit budgets.counters claim.amount (claim.stage.holds claim.path) counters'
      (stage'.holds claim.path) log) (hordered : stage'.Ordered claim.path) :
    Budgets.Exact limit ⟨counters', budgets.claims.set n { claim with stage := stage' }⟩ ∧
      ∀ subtraction ∈ log, subtraction.amount ≤ subtraction.current := by
  have hmem := List.mem_of_getElem? hn
  have hle := h.held_le hmem
  have htotal : ∀ k, Budgets.total ⟨counters', budgets.claims.set n { claim with stage := stage' }⟩ k +
      claim.amount * (claim.stage.holds claim.path).count k =
        budgets.total k + claim.amount * (stage'.holds claim.path).count k := fun k =>
    sum_map_set (fun c => Claim.held c k) hn
  have hset : ∀ c ∈ budgets.claims.set n { claim with stage := stage' }, c.stage.Ordered c.path := by
    intro c hc
    rcases List.mem_or_eq_of_mem_set hc with hc | rfl
    · exact h.ordered c hc
    · exact hordered
  cases hturn with
  | idle hsame =>
    refine ⟨⟨hset, fun k => ?_, h.le_limit⟩, nofun⟩
    have hk := htotal k
    rw [hsame k] at hk
    exact (h.exact k).trans (Nat.add_right_cancel hk).symm
  | charge counter hfits hcount =>
    refine ⟨⟨hset, fun k => ?_, fun k => ?_⟩, nofun⟩
    · have hk := htotal k
      have hex := h.exact k
      rw [hcount k] at hk
      by_cases heq : k = counter
      · subst heq
        simp only [Function.update_self, List.count_cons_self, Nat.mul_add, Nat.mul_one] at hk ⊢
        omega
      · simp only [Function.update_of_ne heq, List.count_cons_of_ne (Ne.symm heq)] at hk ⊢
        omega
    · by_cases heq : k = counter
      · subst heq
        simpa using hfits
      · simpa [Function.update_of_ne heq] using h.le_limit k
  | discharge counter hcount =>
    have hamount : claim.amount ≤ budgets.counters counter := by
      refine Nat.le_trans ?_ (hle counter)
      rw [Claim.held, ← hcount counter, List.count_cons_self]
      exact Nat.le_mul_of_pos_right _ (Nat.succ_pos _)
    refine ⟨⟨hset, fun k => ?_, fun k => ?_⟩, ?_⟩
    · have hk := htotal k
      have hex := h.exact k
      rw [← hcount k] at hk
      by_cases heq : k = counter
      · subst heq
        simp only [Function.update_self, List.count_cons_self, Nat.mul_add, Nat.mul_one] at hk ⊢
        omega
      · simp only [Function.update_of_ne heq, List.count_cons_of_ne (Ne.symm heq)] at hk ⊢
        omega
    · by_cases heq : k = counter
      · subst heq
        simpa using Nat.le_trans (Nat.sub_le _ _) (h.le_limit k)
      · simpa [Function.update_of_ne heq] using h.le_limit k
    · simpa using hamount

theorem Budgets.Exact.step (action : BudgetAction κ) :
    (budgets.step word limit action).1.Exact limit ∧
      ∀ subtraction ∈ (budgets.step word limit action).2, subtraction.amount ≤ subtraction.current := by
  cases action with
  | reserve path amount =>
    refine ⟨⟨fun claim hclaim => ?_, fun k => ?_, h.le_limit⟩, nofun⟩
    · rcases List.mem_append.mp hclaim with hclaim | hclaim
      · exact h.ordered claim hclaim
      · obtain rfl := List.mem_singleton.mp hclaim
        exact ClaimStage.next_ordered rfl
    · have hnew : Claim.held ⟨path, amount, .next [] path⟩ k = 0 := by
        have hcount : ((ClaimStage.next [] path).holds path).count k = 0 :=
          ClaimStage.count_holds_next rfl k
        simp only [Claim.held, hcount, Nat.mul_zero]
      simpa [Budgets.step, Budgets.total, hnew] using h.exact k
  | advance n spurious =>
    simp only [Budgets.step]
    cases hn : budgets.claims[n]? with
    | none => exact ⟨h, nofun⟩
    | some claim =>
      have hclaim := h.ordered claim (List.mem_of_getElem? hn)
      exact h.advance hn (claimTurn_turn claim.path claim.amount hclaim spurious)
        (claimTurn_ordered claim.path claim.amount hclaim spurious)
  | drop n =>
    simp only [Budgets.step]
    split
    · rename_i path amount hn
      have hidle : Turn limit budgets.counters amount path budgets.counters
          ((ClaimStage.release path).holds path) [] := .idle fun k => by
        rw [ClaimStage.holds_release]
      exact ⟨(h.advance hn hidle (ClaimStage.release_ordered path path)).1, nofun⟩
    · exact ⟨h, nofun⟩

end

theorem Budgets.run_exact (word : Nat) (limit : κ → Nat) (actions : List (BudgetAction κ)) :
    (run (Budgets.step word limit) .empty actions).1.Exact limit ∧
      ∀ subtraction ∈ (run (Budgets.step word limit) .empty actions).2,
        subtraction.amount ≤ subtraction.current := by
  refine run_invariant (fun (log : List Subtraction) (budgets : Budgets κ) =>
    budgets.Exact limit ∧ ∀ subtraction ∈ log, subtraction.amount ≤ subtraction.current) ?_
    ⟨Budgets.empty_exact, nofun⟩ (along_true _ _)
  rintro seen budgets action - ⟨h, hseen⟩
  obtain ⟨hnext, hlog⟩ := h.step action
  refine ⟨hnext, fun subtraction hmem => ?_⟩
  rcases List.mem_append.mp hmem with hmem | hmem
  · exact hseen subtraction hmem
  · exact hlog subtraction hmem

theorem run_advance_last (h : budgets.claims = others ++ [claim]) (turns : List Bool) :
    ∃ claim', (run (Budgets.step word limit) budgets
      (turns.map (.advance others.length))).1.claims = others ++ [claim'] := by
  induction turns generalizing budgets claim with
  | nil => exact ⟨claim, h⟩
  | cons spurious turns ih =>
    have hnext : (budgets.step word limit (.advance others.length spurious)).1.claims =
        others ++ [{ claim with stage :=
          (claimTurn word limit budgets.counters claim.amount spurious claim.stage).2.1 }] := by
      simp [Budgets.step, h]
    exact ih hnext

theorem Budgets.Exact.refused_alone {budgets : Budgets κ} (h : budgets.Exact limit)
    (path : List κ) (amount : Nat) (turns : List Bool) :
    let after := (run (Budgets.step word limit) budgets
      (.reserve path amount :: turns.map (.advance budgets.claims.length))).1
    (after.claims[budgets.claims.length]?).map Claim.stage = some .refused →
      after.counters = budgets.counters := by
  intro after hrefused
  have hafter : after.Exact limit := by
    refine run_invariant (fun (_ : List Subtraction) (budgets : Budgets κ) => budgets.Exact limit)
      ?_ h (along_true _ _)
    exact fun _ _ action _ hexact => (hexact.step action).1
  obtain ⟨claim, hclaims⟩ : ∃ claim, after.claims = budgets.claims ++ [claim] :=
    run_advance_last rfl turns
  obtain ⟨claimPath, claimAmount, stage⟩ := claim
  obtain rfl : stage = .refused := by simpa [hclaims] using hrefused
  funext k
  rw [hafter.exact, h.exact, Budgets.total, hclaims]
  simp [Budgets.total, Claim.held, ClaimStage.holds]

end UncrownedKing.Lib
