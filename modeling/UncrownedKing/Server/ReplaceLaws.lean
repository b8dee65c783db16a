import UncrownedKing.Server.Replace
import UncrownedKing.Server.ReloadRequestLaws

/-!
# The order of publications

Snapshots see generations in order exactly if no call publishes after one with a
higher number.
-/

namespace UncrownedKing.Server

open Lib Auth Mask Policy

variable {Acceptor : Type} {s : SharedSecurity Acceptor} {t : Replacing Acceptor}
  {acts : List (Nat × ReplaceAct Acceptor)}

def SharedSecurity.Shows (s : SharedSecurity Acceptor) (generation : Nat) : Prop :=
  s.authenticationSnapshot.generation = generation ∨
    ∃ identity now snapshot, s.policySnapshot identity now = some snapshot ∧
      snapshot.generation = generation

theorem SharedSecurity.shows_iff : s.Shows generation ↔ s.current.generation = generation := by
  refine ⟨?_, .inl⟩
  rintro (h | ⟨identity, now, snapshot, hsnapshot, rfl⟩)
  · exact h
  · simp only [policySnapshot, Option.bind_eq_bind, Option.bind_eq_some_iff, Option.some.injEq]
      at hsnapshot
    obtain ⟨credential, -, rfl⟩ := hsnapshot
    rfl

namespace Replacing

/-- Of two snapshots the later one shows no lower generation. -/
def SnapshotsOrdered (t : Replacing Acceptor) (acts : List (Nat × ReplaceAct Acceptor)) : Prop :=
  ∀ before middle after, acts = before ++ middle ++ after → ∀ earlier later,
    (t.run replace before).shared.Shows earlier →
    ((t.run replace before).run replace middle).shared.Shows later → earlier ≤ later

/-- With no call in progress, what is published has the highest number. -/
def Settled (t : Replacing Acceptor) : Prop :=
  (∀ i, (t.pc i).inProgress = false) → ∀ i generation, (t.pc i).assigned = some generation →
    ∃ j args highest, t.pc j = .returned args highest ∧
      t.shared.current = args.toGeneration highest ∧
      ∀ k other, (t.pc k).assigned = some other → other ≤ highest

/-- No call publishes when a higher number is published. -/
def InOrder (t : Replacing Acceptor) (act : Nat × ReplaceAct Acceptor) : Prop :=
  ∀ args generation, act.2 = .go → t.pc act.1 = .numbered args generation →
    t.shared.current.generation ≤ generation

/-- A call begins when no other is in progress, and the counter does not wrap. -/
def Alone (t : Replacing Acceptor) : Nat × ReplaceAct Acceptor → Prop
  | (_, .call _) => ∀ i, (t.pc i).inProgress = false
  | (_, .go) => t.shared.nextGeneration + 1 < 2 ^ 64

theorem step_cases (t : Replacing Acceptor) (i : Nat) (a : ReplaceAct Acceptor) :
    (∃ args generation, a = .go ∧ t.pc i = .numbered args generation ∧
      (t.step replace (i, a)).shared.current = args.toGeneration generation ∧
      (t.step replace (i, a)).pc i = .returned args generation) ∨
    ((t.step replace (i, a)).shared.current = t.shared.current ∧
      ∀ j args generation, (t.step replace (i, a)).pc j = .returned args generation ↔
        t.pc j = .returned args generation) := by
  have hother {j : Nat} (hne : j ≠ i) (args : Replacement Acceptor) (generation : Nat) :
      (t.step replace (i, a)).pc j = .returned args generation ↔
        t.pc j = .returned args generation := by
    rw [Threads.step_pc_of_ne t a hne]
  by_cases hlast : ∃ args generation, a = .go ∧ t.pc i = .numbered args generation
  · obtain ⟨args, generation, rfl, hpc⟩ := hlast
    exact .inl ⟨args, generation, rfl, hpc, by simp [hpc, replace], by simp [hpc, replace]⟩
  · refine .inr ⟨?_, fun j args generation => ?_⟩
    · cases hpc : t.pc i <;> cases a <;> simp_all [replace]
    · by_cases heq : j = i
      · subst heq
        cases hpc : t.pc j <;> cases a <;> simp_all [replace]
      · exact hother heq args generation

theorem step_current (h : InOrder t act) :
    t.shared.current.generation ≤ (t.step replace act).shared.current.generation := by
  obtain ⟨i, a⟩ := act
  rcases step_cases t i a with ⟨args, generation, rfl, hpc, hcurrent, -⟩ | ⟨hcurrent, -⟩
  · rw [hcurrent]
    exact h args generation rfl hpc
  · rw [hcurrent]

structure Topped (t : Replacing Acceptor) : Prop where
  highest : ∀ i args generation, t.pc i = .returned args generation →
    generation ≤ t.shared.current.generation
  published : ∀ i args generation, t.pc i = .returned args generation →
    ∃ j args' highest, t.pc j = .returned args' highest ∧
      t.shared.current = args'.toGeneration highest

theorem Topped.new (args : Replacement Acceptor) : (Replacing.new args).Topped where
  highest := nofun
  published := nofun

theorem Topped.step (h : t.Topped) (horder : InOrder t act) : Topped (t.step replace act) := by
  obtain ⟨i, a⟩ := act
  have hcurrent := step_current horder
  rcases step_cases t i a with ⟨args, generation, rfl, hpc, hnew, hreturned⟩ | ⟨hsame, hreturned⟩
  · refine ⟨fun j args' other hj => ?_, fun _ _ _ _ => ⟨i, args, generation, hreturned, hnew⟩⟩
    by_cases heq : j = i
    · subst heq
      cases hreturned.symm.trans hj
      rw [hnew]
      exact Nat.le_refl _
    · rw [Threads.step_pc_of_ne t ReplaceAct.go heq] at hj
      exact (h.highest j args' other hj).trans hcurrent
  · constructor
    · intro j args generation hj
      rw [hsame]
      exact h.highest j args generation ((hreturned j args generation).mp hj)
    · intro j args generation hj
      obtain ⟨k, args', highest, hk, hpublished⟩ :=
        h.published j args generation ((hreturned j args generation).mp hj)
      exact ⟨k, args', highest, (hreturned k args' highest).mpr hk, hsame.trans hpublished⟩

theorem Topped.settled (h : t.Topped) : t.Settled := by
  intro hidle i generation hassigned
  have hreturned (j : Nat) (other : Nat) (hj : (t.pc j).assigned = some other) :
      ∃ args, t.pc j = .returned args other := by
    have hdone := hidle j
    cases hpc : t.pc j <;> simp_all [ReplacePc.assigned, ReplacePc.inProgress]
  obtain ⟨args, hpc⟩ := hreturned i generation hassigned
  obtain ⟨j, args', highest, hj, hcurrent⟩ := h.published i args generation hpc
  refine ⟨j, args', highest, hj, hcurrent, fun k other hk => ?_⟩
  obtain ⟨args'', hk⟩ := hreturned k other hk
  have hle := h.highest k args'' other hk
  rwa [hcurrent] at hle

theorem SnapshotsOrdered.of_inOrder (h : Threads.Along replace InOrder t acts) :
    SnapshotsOrdered t acts := by
  rintro before middle after rfl earlier later hearlier hlater
  obtain ⟨h, -⟩ := Threads.along_append.mp h
  obtain ⟨-, hmiddle⟩ := Threads.along_append.mp h
  rw [SharedSecurity.shows_iff] at hearlier hlater
  rw [← hearlier, ← hlater]
  exact Threads.run_invariant_along (P := fun now : Replacing Acceptor =>
      (t.run replace before).shared.current.generation ≤ now.shared.current.generation)
    (fun _ _ horder hle => Nat.le_trans hle (step_current horder)) (Nat.le_refl _) hmiddle

theorem SnapshotsOrdered.inOrder (h : SnapshotsOrdered t acts) :
    Threads.Along replace InOrder t acts := by
  induction acts generalizing t with
  | nil => trivial
  | cons act rest ih =>
    constructor
    · intro args generation hgo hpc
      obtain ⟨i, a⟩ := act
      cases hgo
      have hstep := h [] [(i, .go)] rest rfl _ _ (.inl rfl) (.inl rfl)
      simpa [Threads.run, SharedSecurity.authenticationSnapshot, hpc, replace,
        Replacement.toGeneration] using hstep
    · refine ih fun before middle after hrest => ?_
      exact h (act :: before) middle after (by simp [hrest])

theorem settled_of_inOrder {initial : Replacement Acceptor}
    (h : Threads.Along replace InOrder (Replacing.new initial) acts) (before after)
    (hacts : acts = before ++ after) : Settled ((Replacing.new initial).run replace before) := by
  subst hacts
  obtain ⟨hbefore, -⟩ := Threads.along_append.mp h
  have htopped : Topped ((Replacing.new initial).run replace before) :=
    Threads.run_invariant_along (fun _ _ horder h => Topped.step h horder) (.new initial) hbefore
  exact htopped.settled

/-- One call at a time, whose number is the highest given out. -/
structure Orderly (t : Replacing Acceptor) : Prop where
  next : t.shared.current.generation < t.shared.nextGeneration
  numbered : ∀ i args generation, t.pc i = .numbered args generation →
    t.shared.current.generation ≤ generation ∧ generation < t.shared.nextGeneration
  one : ∀ i j, (t.pc i).inProgress = true → (t.pc j).inProgress = true → i = j

theorem call_progress (hnone : ∀ i, (t.pc i).inProgress = false)
    (h : ((t.step replace (i, .call args)).pc j).inProgress = true) : j = i := by
  by_contra hne
  rw [Threads.step_pc_of_ne t _ hne, hnone j] at h
  cases h

theorem go_progress (h : ((t.step replace (i, .go)).pc j).inProgress = true) :
    (t.pc j).inProgress = true := by
  by_cases heq : j = i
  · subst heq
    cases hpc : t.pc j <;> simp_all [replace, ReplacePc.inProgress]
  · rwa [Threads.step_pc_of_ne t _ heq] at h

theorem Orderly.call (h : t.Orderly) (hnone : ∀ i, (t.pc i).inProgress = false) :
    Orderly (t.step replace (i, .call args)) := by
  have hshared : (t.step replace (i, .call args)).shared = t.shared := by
    cases hpc : t.pc i <;> simp [hpc, replace]
  refine ⟨hshared ▸ h.next, fun j args' generation hj => ?_, fun j k hj hk => ?_⟩
  · have heq : j = i := call_progress hnone (by rw [hj]; rfl)
    have hi := hnone i
    subst heq
    cases hpc : t.pc j <;> simp_all [replace, ReplacePc.inProgress]
  · exact (call_progress hnone hj).trans (call_progress hnone hk).symm

theorem Orderly.go (h : t.Orderly) (hlt : t.shared.nextGeneration + 1 < 2 ^ 64) :
    Orderly (t.step replace (i, .go)) := by
  have hone (j k : Nat) (hj : ((t.step replace (i, .go)).pc j).inProgress = true)
      (hk : ((t.step replace (i, .go)).pc k).inProgress = true) : j = k :=
    h.one j k (go_progress hj) (go_progress hk)
  have hi : (t.step replace (i, .go)).pc i = (replace t.shared i (t.pc i) .go).2 := by simp
  have hshared : (t.step replace (i, .go)).shared = (replace t.shared i (t.pc i) .go).1 := rfl
  have hother {j : Nat} (hne : j ≠ i) : (t.step replace (i, .go)).pc j = t.pc j :=
    Threads.step_pc_of_ne t _ hne
  cases hpc : t.pc i with
  | idle | returned args generation =>
    rw [hpc] at hi hshared
    refine ⟨hshared ▸ h.next, fun j args' other hj => ?_, hone⟩
    rw [hshared]
    refine h.numbered j args' other (Eq.trans ?_ hj)
    by_cases heq : j = i
    · rw [heq, hi, hpc]
      rfl
    · exact (hother heq).symm
  | entered args =>
    rw [hpc] at hi hshared
    simp only [replace, Nat.mod_eq_of_lt hlt] at hi hshared
    refine ⟨?_, fun j args' other hj => ?_, hone⟩ <;> rw [hshared]
    · exact Nat.lt_succ_of_lt h.next
    · by_cases heq : j = i
      · subst heq
        cases hi.symm.trans hj
        exact ⟨h.next.le, Nat.lt_succ_self _⟩
      · obtain ⟨hle, hbelow⟩ := h.numbered j args' other ((hother heq).symm.trans hj)
        exact ⟨hle, Nat.lt_succ_of_lt hbelow⟩
  | numbered args generation =>
    rw [hpc] at hi hshared
    refine ⟨?_, fun j args' other hj => ?_, hone⟩
    · rw [hshared]
      exact (h.numbered i args generation hpc).2
    · -- the call that publishes was the only one in progress
      have heq : j = i := h.one j i (go_progress (by rw [hj]; rfl)) (by rw [hpc]; rfl)
      subst heq
      cases hi.symm.trans hj

theorem inOrder_of_alone (h : t.Orderly) (halone : Threads.Along replace Alone t acts) :
    Threads.Along replace InOrder t acts := by
  induction acts generalizing t with
  | nil => trivial
  | cons act rest ih =>
    obtain ⟨i, a⟩ := act
    refine ⟨fun args generation _ hpc => (h.numbered i args generation hpc).1, ih ?_ halone.2⟩
    cases a with
    | call args => exact h.call halone.1
    | go => exact h.go halone.1

theorem Orderly.new (args : Replacement Acceptor) : (Replacing.new args).Orderly where
  next := Nat.lt_succ_self _
  numbered := nofun
  one := nofun

/-- Snapshots see generations in order, and the last is published in the end, exactly if each call
publishes before any with a higher number; calls that do not overlap do. -/
theorem replacements_ordered_iff (initial : Replacement Acceptor)
    (acts : List (Nat × ReplaceAct Acceptor)) :
    ((SnapshotsOrdered (Replacing.new initial) acts ∧ ∀ before after, acts = before ++ after →
        Settled ((Replacing.new initial).run replace before)) ↔
      Threads.Along replace InOrder (Replacing.new initial) acts) ∧
    (Threads.Along replace Alone (Replacing.new initial) acts →
      SnapshotsOrdered (Replacing.new initial) acts ∧ ∀ before after, acts = before ++ after →
        Settled ((Replacing.new initial).run replace before)) := by
  have hboth (h : Threads.Along replace InOrder (Replacing.new initial) acts) :=
    And.intro (SnapshotsOrdered.of_inOrder h) (settled_of_inOrder h)
  exact ⟨⟨fun h => h.1.inOrder, hboth⟩, fun h => hboth (inOrder_of_alone (.new initial) h)⟩

def sampleReplacement (tlsAcceptor : Nat) : Replacement Nat := ⟨tlsAcceptor, [], [], ⟨[]⟩, 0⟩

/-- The first call takes its number first and publishes last. -/
def overtaken : List (Nat × ReplaceAct Nat) :=
  [(0, .call (sampleReplacement 1)), (0, .go), (1, .call (sampleReplacement 2)), (1, .go),
    (1, .go), (0, .go)]

open ReloadServer in
def overtakenReload : List (ReloadAct Nat Nat) :=
  [.request (.ok sampleConfig), .receive (some plainHost), .timeout, .request (.ok sampleConfig),
    .receive (some plainHost), .work 0, .work 1, .work 1, .work 0]

/-- Snapshots see the second generation after the third, and it stays. -/
theorem replacement_overtaken :
    ¬SnapshotsOrdered (Replacing.new (sampleReplacement 0)) overtaken ∧
      ¬Settled ((Replacing.new (sampleReplacement 0)).run replace overtaken) ∧
      (run (ReloadServer.step sampleCrypto.hmac) ReloadServer.plainServer
        (overtakenReload.take 8)).1.live.current.generation = 3 ∧
      (run (ReloadServer.step sampleCrypto.hmac) ReloadServer.plainServer
        overtakenReload).1.live.current.generation = 2 := by
  refine ⟨fun h => ?_, fun h => ?_, by decide +kernel, by decide +kernel⟩
  · have hstep := h (overtaken.take 5) [(0, .go)] [] rfl 3 2 (.inl rfl) (.inl rfl)
    exact absurd hstep (by decide)
  · have hidle (i : Nat) : ((Threads.run replace (Replacing.new (sampleReplacement 0))
        overtaken).pc i).inProgress = false :=
      match i with
      | 0 | 1 | _ + 2 => rfl
    obtain ⟨j, args, highest, -, hcurrent, hhighest⟩ := h hidle 0 2 rfl
    have hpublished : 2 = highest := congrArg (fun current => current.generation) hcurrent
    exact absurd (hpublished ▸ hhighest 1 3 rfl) (by decide)

end Replacing

end UncrownedKing.Server
