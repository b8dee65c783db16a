import Mathlib.Data.List.Basic

/-!
# Runs of a machine that reports what it does

A step takes a state and an action to the next state and the events it reports.
-/

namespace UncrownedKing.Lib

universe u v w

variable {σ : Type u} {α : Type v} {ε : Type w}

def run (step : σ → α → σ × List ε) : σ → List α → σ × List ε
  | s, [] => (s, [])
  | s, a :: rest =>
    let now := step s a
    let later := run step now.1 rest
    (later.1, now.2 ++ later.2)

/-- Every step taken satisfies the condition. -/
def Along (step : σ → α → σ × List ε) (Cond : σ → α → Prop) : σ → List α → Prop
  | _, [] => True
  | s, a :: rest => Cond s a ∧ Along step Cond (step s a).1 rest

instance decidableAlong (step : σ → α → σ × List ε) (Cond : σ → α → Prop)
    [∀ s a, Decidable (Cond s a)] : ∀ s as, Decidable (Along step Cond s as)
  | _, [] => .isTrue trivial
  | s, a :: rest =>
    have := decidableAlong step Cond (step s a).1 rest
    inferInstanceAs (Decidable (Cond s a ∧ Along step Cond (step s a).1 rest))

/-- Every event stands in the relation to the events before it. -/
def Each (P : List ε → ε → Prop) (log : List ε) : Prop :=
  ∀ before e after, log = before ++ e :: after → P before e

def silent (step : σ → α → σ) (s : σ) (a : α) : σ × List Empty := (step s a, [])

variable {step : σ → α → σ × List ε} {Cond : σ → α → Prop} {P : List ε → ε → Prop}

theorem each_nil : Each P [] := by
  intro before e after h
  simp at h

theorem each_cons (hhead : P [] e) (htail : Each (fun before => P (e :: before)) log) :
    Each P (e :: log) := by
  intro before e' after h
  cases before with
  | nil =>
    cases h
    exact hhead
  | cons first before =>
    cases h
    exact htail before e' after rfl

theorem each_cons_iff :
    Each P (e :: log) ↔ P [] e ∧ Each (fun before => P (e :: before)) log := by
  refine ⟨fun h => ⟨h [] e log rfl, ?_⟩, fun h => each_cons h.1 h.2⟩
  intro before e' after heq
  exact h (e :: before) e' after (by rw [heq]; rfl)

instance decidableEach : ∀ (P : List ε → ε → Prop) [∀ before e, Decidable (P before e)]
    (log : List ε), Decidable (Each P log)
  | _, _, [] => .isTrue each_nil
  | P, _, e :: log =>
    have := decidableEach (fun before => P (e :: before)) log
    decidable_of_iff _ each_cons_iff.symm

theorem each_append (hfirst : Each P first)
    (hsecond : Each (fun before => P (first ++ before)) second) : Each P (first ++ second) := by
  induction first generalizing P with
  | nil => exact hsecond
  | cons e first ih =>
    obtain ⟨hhead, htail⟩ := each_cons_iff.mp hfirst
    exact each_cons hhead (ih htail hsecond)

theorem each_append_iff : Each P (first ++ second) ↔
    Each P first ∧ Each (fun before => P (first ++ before)) second := by
  refine ⟨fun h => ⟨?_, ?_⟩, fun h => each_append h.1 h.2⟩
  · intro before e after heq
    exact h before e (after ++ second) (by simp [heq])
  · intro before e after heq
    exact h (first ++ before) e after (by simp [heq])

theorem each_forall_iff {P : ε → Prop} : Each (fun _ => P) log ↔ ∀ e ∈ log, P e := by
  refine ⟨fun h e he => ?_, fun h before e after heq => ?_⟩
  · obtain ⟨before, after, heq⟩ := List.append_of_mem he
    exact h before e after heq
  · exact h e (by simp [heq])

theorem run_map {β : Type} (step : σ → α → σ × List ε) (f : β → α) (s : σ) (as : List β) :
    run (fun s b => step s (f b)) s as = run step s (as.map f) := by
  induction as generalizing s with
  | nil => rfl
  | cons b rest ih => simp only [run, List.map_cons, ih]

theorem run_append (s : σ) (as bs : List α) :
    run step s (as ++ bs) =
      ((run step (run step s as).1 bs).1,
        (run step s as).2 ++ (run step (run step s as).1 bs).2) := by
  induction as generalizing s with
  | nil => rfl
  | cons a rest ih => simp only [List.cons_append, run, ih, List.append_assoc]

theorem along_append (h : Along step Cond s (as ++ bs)) :
    Along step Cond s as ∧ Along step Cond (run step s as).1 bs := by
  induction as generalizing s with
  | nil => exact ⟨trivial, h⟩
  | cons a rest ih =>
    obtain ⟨hrest, hbs⟩ := ih h.2
    exact ⟨⟨h.1, hrest⟩, hbs⟩

theorem along_forall_iff {Cond : α → Prop} :
    Along step (fun _ => Cond) s as ↔ ∀ a ∈ as, Cond a := by
  induction as generalizing s with
  | nil => simp [Along]
  | cons a rest ih => simp only [Along, ih, List.forall_mem_cons]

theorem along_true (s : σ) (as : List α) : Along step (fun _ _ => True) s as :=
  along_forall_iff.mpr fun _ _ => trivial

theorem along_imp {Cond' : σ → α → Prop} (himp : ∀ s a, Cond s a → Cond' s a)
    (h : Along step Cond s as) : Along step Cond' s as := by
  induction as generalizing s with
  | nil => trivial
  | cons a rest ih => exact ⟨himp s a h.1, ih h.2⟩

section

variable (Inv : List ε → σ → Prop)

theorem run_invariant_from
    (hstep : ∀ seen s a, Cond s a → Inv seen s → Inv (seen ++ (step s a).2) (step s a).1)
    (hinv : Inv seen s) (hcond : Along step Cond s as) :
    Inv (seen ++ (run step s as).2) (run step s as).1 := by
  induction as generalizing seen s with
  | nil => simpa [run] using hinv
  | cons a rest ih =>
    have h := ih (hstep seen s a hcond.1 hinv) hcond.2
    rw [List.append_assoc] at h
    exact h

theorem run_each_from
    (hstep : ∀ seen s a, Cond s a → Inv seen s → Inv (seen ++ (step s a).2) (step s a).1)
    (hemit : ∀ seen s a, Cond s a → Inv seen s →
      Each (fun before => P (seen ++ before)) (step s a).2)
    (hinv : Inv seen s) (hcond : Along step Cond s as) :
    Each (fun before => P (seen ++ before)) (run step s as).2 := by
  induction as generalizing seen s with
  | nil => exact each_nil
  | cons a rest ih =>
    refine each_append (hemit seen s a hcond.1 hinv) ?_
    have h := ih (hstep seen s a hcond.1 hinv) hcond.2
    simpa only [List.append_assoc] using h

theorem run_invariant
    (hstep : ∀ seen s a, Cond s a → Inv seen s → Inv (seen ++ (step s a).2) (step s a).1)
    (hinv : Inv [] s) (hcond : Along step Cond s as) : Inv (run step s as).2 (run step s as).1 :=
  run_invariant_from Inv hstep hinv hcond

theorem run_each
    (hstep : ∀ seen s a, Cond s a → Inv seen s → Inv (seen ++ (step s a).2) (step s a).1)
    (hemit : ∀ seen s a, Cond s a → Inv seen s →
      Each (fun before => P (seen ++ before)) (step s a).2)
    (hinv : Inv [] s) (hcond : Along step Cond s as) : Each P (run step s as).2 :=
  run_each_from Inv hstep hemit hinv hcond

theorem run_each_iff_from (hstep : ∀ seen s a, Inv seen s → Inv (seen ++ (step s a).2) (step s a).1)
    (hemit : ∀ seen s a, Inv seen s →
      (Each (fun before => P (seen ++ before)) (step s a).2 ↔ Cond s a))
    (hinv : Inv seen s) (as : List α) :
    Each (fun before => P (seen ++ before)) (run step s as).2 ↔ Along step Cond s as := by
  induction as generalizing seen s with
  | nil => exact ⟨fun _ => trivial, fun _ => each_nil⟩
  | cons a rest ih =>
    have h := ih (hstep seen s a hinv)
    simp only [List.append_assoc] at h
    simp only [run, Along, each_append_iff, hemit seen s a hinv, h]

theorem run_each_iff (hstep : ∀ seen s a, Inv seen s → Inv (seen ++ (step s a).2) (step s a).1)
    (hemit : ∀ seen s a, Inv seen s →
      (Each (fun before => P (seen ++ before)) (step s a).2 ↔ Cond s a))
    (hinv : Inv [] s) (as : List α) : Each P (run step s as).2 ↔ Along step Cond s as :=
  run_each_iff_from Inv hstep hemit hinv as

end

end UncrownedKing.Lib
