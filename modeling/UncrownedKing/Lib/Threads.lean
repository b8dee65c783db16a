import Mathlib.Logic.Function.Basic

/-!
# Threads over shared state

An action names the thread that moves. A proof outline gives an invariant of the
shared state, an assertion for each program point and what a step guarantees to
the other threads.
-/

namespace UncrownedKing.Lib

universe u v w

variable {σ : Type u} {τ : Type v} {α : Type w}

structure Threads (σ : Type u) (τ : Type v) where
  shared : σ
  pc : Nat → τ

namespace Threads

def step (f : σ → Nat → τ → α → σ × τ) (t : Threads σ τ) (act : Nat × α) : Threads σ τ where
  shared := (f t.shared act.1 (t.pc act.1) act.2).1
  pc := Function.update t.pc act.1 (f t.shared act.1 (t.pc act.1) act.2).2

def run (f : σ → Nat → τ → α → σ × τ) (t : Threads σ τ) (acts : List (Nat × α)) :
    Threads σ τ :=
  acts.foldl (step f) t

variable {f : σ → Nat → τ → α → σ × τ}

@[simp]
theorem step_shared (t : Threads σ τ) (i : Nat) (a : α) :
    (t.step f (i, a)).shared = (f t.shared i (t.pc i) a).1 := rfl

@[simp]
theorem step_pc_self (t : Threads σ τ) (i : Nat) (a : α) :
    (t.step f (i, a)).pc i = (f t.shared i (t.pc i) a).2 := by
  simp [step]

theorem step_pc_of_ne (t : Threads σ τ) (a : α) (h : j ≠ i) :
    (t.step f (i, a)).pc j = t.pc j := by
  simp [step, h]

/-- What some thread has still to do, some thread has after a step of one that took it on or did
not have it. -/
theorem exists_step {P : τ → Prop} {t : Threads σ τ} {i : Nat} {a : α}
    (h : P (f t.shared i (t.pc i) a).2 ∨ (∃ j, P (t.pc j)) ∧ ¬P (t.pc i)) :
    ∃ j, P ((t.step f (i, a)).pc j) := by
  rcases h with hnew | ⟨⟨j, hj⟩, hi⟩
  · exact ⟨i, by simpa using hnew⟩
  · have hne : j ≠ i := by
      rintro rfl
      exact hi hj
    exact ⟨j, by rwa [step_pc_of_ne t a hne]⟩

theorem run_invariant {P : Threads σ τ → Prop}
    (hstep : ∀ t act, P t → P (t.step f act)) (h : P t) (acts : List (Nat × α)) :
    P (t.run f acts) := by
  induction acts generalizing t with
  | nil => exact h
  | cons act rest ih => exact ih (hstep t act h)

/-- Every step taken satisfies the condition. -/
def Along (f : σ → Nat → τ → α → σ × τ) (Cond : Threads σ τ → Nat × α → Prop) :
    Threads σ τ → List (Nat × α) → Prop
  | _, [] => True
  | t, act :: rest => Cond t act ∧ Along f Cond (t.step f act) rest

instance decidableAlong (f : σ → Nat → τ → α → σ × τ) (Cond : Threads σ τ → Nat × α → Prop)
    [∀ t act, Decidable (Cond t act)] : ∀ t acts, Decidable (Along f Cond t acts)
  | _, [] => .isTrue trivial
  | t, act :: rest =>
    have := decidableAlong f Cond (t.step f act) rest
    inferInstanceAs (Decidable (Cond t act ∧ Along f Cond (t.step f act) rest))

theorem along_append {Cond : Threads σ τ → Nat × α → Prop} {first second : List (Nat × α)} :
    Along f Cond t (first ++ second) ↔
      Along f Cond t first ∧ Along f Cond (t.run f first) second := by
  induction first generalizing t with
  | nil => exact (and_iff_right trivial).symm
  | cons act rest ih => exact (and_congr_right fun _ => ih).trans and_assoc.symm

theorem run_invariant_along {P : Threads σ τ → Prop} {Cond : Threads σ τ → Nat × α → Prop}
    (hstep : ∀ t act, Cond t act → P t → P (t.step f act)) (h : P t)
    (hcond : Along f Cond t acts) : P (t.run f acts) := by
  induction acts generalizing t with
  | nil => exact h
  | cons act rest ih => exact ih (hstep t act hcond.1 h) hcond.2

/-- The actions of a run without those that are to be left out. -/
def erase (f : σ → Nat → τ → α → σ × τ) (skip : Threads σ τ → Nat × α → Bool) :
    Threads σ τ → List (Nat × α) → List (Nat × α)
  | _, [] => []
  | t, act :: rest =>
    let later := erase f skip (t.step f act) rest
    if skip t act then later else act :: later

/-- A relation kept by steps on both sides, and by those left out on one, relates a run to the run
without them. -/
theorem run_erase {R : Threads σ τ → Threads σ τ → Prop} {skip : Threads σ τ → Nat × α → Bool}
    {Cond : Threads σ τ → Nat × α → Prop}
    (hskip : ∀ t u act, Cond t act → R t u → skip t act = true → R (t.step f act) u)
    (hkeep : ∀ t u act, Cond t act → R t u → skip t act = false →
      R (t.step f act) (u.step f act))
    (h : R t u) (hcond : Along f Cond t acts) :
    R (t.run f acts) (u.run f (erase f skip t acts)) := by
  induction acts generalizing t u with
  | nil => exact h
  | cons act rest ih =>
    cases hact : skip t act with
    | true =>
      have hnext := ih (hskip t u act hcond.1 h hact) hcond.2
      simpa [run, erase, hact] using hnext
    | false =>
      have hnext := ih (hkeep t u act hcond.1 h hact) hcond.2
      simpa [run, erase, hact] using hnext

end Threads

structure Outline (f : σ → Nat → τ → α → σ × τ) where
  Inv : σ → Prop
  At : σ → Nat → τ → Prop
  Guarantee : Nat → σ → σ → Prop
  own : ∀ s i p a, Inv s → At s i p →
    Inv (f s i p a).1 ∧ At (f s i p a).1 i (f s i p a).2 ∧ Guarantee i s (f s i p a).1
  stable : ∀ s s' i j q, i ≠ j → Inv s → Guarantee i s s' → At s j q → At s' j q

namespace Outline

variable {f : σ → Nat → τ → α → σ × τ}

structure Holds (outline : Outline f) (t : Threads σ τ) : Prop where
  inv : outline.Inv t.shared
  pc : ∀ i, outline.At t.shared i (t.pc i)

theorem Holds.step {outline : Outline f} (h : outline.Holds t) (act : Nat × α) :
    outline.Holds (t.step f act) := by
  obtain ⟨i, a⟩ := act
  obtain ⟨hinv, hpc, hguarantee⟩ := outline.own t.shared i (t.pc i) a h.inv (h.pc i)
  refine ⟨hinv, fun j => ?_⟩
  by_cases heq : j = i
  · subst heq
    simpa using hpc
  · simpa [Threads.step_pc_of_ne t a heq] using
      outline.stable _ _ i j _ (Ne.symm heq) h.inv hguarantee (h.pc j)

theorem Holds.run {outline : Outline f} (h : outline.Holds t) (acts : List (Nat × α)) :
    outline.Holds (t.run f acts) :=
  Threads.run_invariant (fun _ act h => h.step act) h acts

end Outline

end UncrownedKing.Lib
