import UncrownedKing.Server.CommitGate

/-!
# What passes a commit gate

The gate forgets its pair before it asks the registry.
-/

namespace UncrownedKing.Server

open Lib Net Mask

variable {gates : Gates}

theorem carries_iff (buf : Bytes) :
    Carries buf ↔ (buf.isEmpty || decide (buf.head? = some tlsAlertContentType)) = false := by
  cases buf <;> simp [Carries]

theorem CommitGate.pollWrite_quiet (gate : CommitGate) (shared : SharedRegistry)
    (h : gate.commits buf = none) : gate.pollWrite shared buf = (gate, shared, .inner) := by
  unfold CommitGate.pollWrite
  cases hp : gate.pending with
  | none => rfl
  | some key =>
    have hbuf : ¬ Carries buf := by
      intro hc
      rw [CommitGate.commits, if_pos hc, hp] at h
      cases h
    rw [carries_iff, Bool.not_eq_false] at hbuf
    simp only [hbuf, if_true]

theorem CommitGate.pollWrite_commits (gate : CommitGate) (shared : SharedRegistry)
    (h : gate.commits buf = some (identity, counter)) :
    gate.pollWrite shared buf = (⟨none⟩, (shared.commit identity counter).1,
      if (shared.commit identity counter).2 then .inner else .failed replayedAtCommit) := by
  unfold CommitGate.commits at h
  split at h
  · rename_i hbuf
    rw [carries_iff] at hbuf
    simp only [CommitGate.pollWrite, h, hbuf]
    cases hc : shared.commit identity counter with
    | mk after accepted => cases accepted <;> rfl
  · cases h

theorem CommitGate.commits_some {gate : CommitGate} (h : gate.commits buf = some key) :
    Carries buf ∧ gate.pending = some key := by
  unfold CommitGate.commits at h
  split at h
  · rename_i hbuf
    exact ⟨hbuf, h⟩
  · cases h

theorem Gates.write_cases (gates : Gates) (n : Nat) (connection : MaskedConnection)
    (buf : Bytes) :
    (connection.gate.commits buf = none ∧ gates.write n connection buf =
      ({ gates with connections := gates.connections.set n connection }, [.passed n buf])) ∨
    ∃ identity counter, connection.gate.commits buf = some (identity, counter) ∧
      (gates.write n connection buf).1 =
        ⟨(gates.shared.commit identity counter).1,
          gates.shared.recordIn gates.ledger identity counter,
          gates.connections.set n { connection with gate := ⟨none⟩ }⟩ ∧
      (((gates.shared.commit identity counter).2 = true ∧ (gates.write n connection buf).2 =
        [.committed n identity counter, .passed n buf]) ∨
      ((gates.shared.commit identity counter).2 = false ∧ (gates.write n connection buf).2 =
        [.refused n])) := by
  unfold Gates.write
  cases hc : connection.gate.commits buf with
  | none =>
    rw [connection.gate.pollWrite_quiet gates.shared hc]
    exact .inl ⟨rfl, rfl⟩
  | some key =>
    obtain ⟨identity, counter⟩ := key
    rw [connection.gate.pollWrite_commits gates.shared hc]
    refine .inr ⟨identity, counter, rfl, rfl, ?_⟩
    cases ha : (gates.shared.commit identity counter).2 with
    | true => exact .inl ⟨rfl, by simp [ha]⟩
    | false => exact .inr ⟨rfl, by simp [ha]⟩

def NotAccepted (n : Nat) (seen : List GateEvent) : Prop :=
  ∀ identity counter, .committed n identity counter ∉ seen

inductive MaskedConnection.Settled (connection : MaskedConnection) (n : Nat)
    (seen : List GateEvent) : Prop
  | waiting (hp : connection.gate.pending = some (connection.identity, connection.counter))
      (hc : NotAccepted n seen) (hr : .refused n ∉ seen)
  | accepted (hp : connection.gate.pending = none)
      (hc : .committed n connection.identity connection.counter ∈ seen) (hr : .refused n ∉ seen)
  | refused (hp : connection.gate.pending = none) (hc : NotAccepted n seen)
      (hr : .refused n ∈ seen)

def GateEvent.connection : GateEvent → Nat
  | .committed n _ _ => n
  | .refused n => n
  | .passed n _ => n

structure Gates.Settled (seen : List GateEvent) (gates : Gates) : Prop where
  each : ∀ (n : Nat) (connection : MaskedConnection),
    gates.connections[n]? = some connection → connection.Settled n seen
  known : ∀ e ∈ seen, e.connection < gates.connections.length

theorem NotAccepted.append (h : NotAccepted n seen) (hnew : NotAccepted n new) :
    NotAccepted n (seen ++ new) := by
  intro identity counter hmem
  rcases List.mem_append.mp hmem with hold | hmem
  · exact h identity counter hold
  · exact hnew identity counter hmem

theorem MaskedConnection.Settled.frame {connection : MaskedConnection}
    (h : connection.Settled n seen) (hc : NotAccepted n new) (hr : .refused n ∉ new) :
    connection.Settled n (seen ++ new) := by
  have hrefused (hold : .refused n ∉ seen) : .refused n ∉ seen ++ new := by
    rw [List.mem_append, not_or]
    exact ⟨hold, hr⟩
  cases h with
  | waiting hp hold hnone => exact .waiting hp (hold.append hc) (hrefused hnone)
  | accepted hp hold hnone => exact .accepted hp (List.mem_append_left _ hold) (hrefused hnone)
  | refused hp hold hmem => exact .refused hp (hold.append hc) (List.mem_append_left _ hmem)

theorem Gates.Settled.set {gates after : Gates} (h : Gates.Settled seen gates)
    (hn : gates.connections[n]? = some connection)
    (hconns : after.connections = gates.connections.set n next)
    (hnext : next.Settled n (seen ++ later)) (hnew : ∀ e ∈ later, e.connection = n) :
    Gates.Settled (seen ++ later) after := by
  refine ⟨fun m other hm => ?_, fun e he => ?_⟩
  · rw [hconns] at hm
    by_cases hmn : n = m
    · subst hmn
      have hlt : n < gates.connections.length := (List.getElem?_eq_some_iff.mp hn).1
      rw [List.getElem?_set_self hlt] at hm
      cases hm
      exact hnext
    · rw [List.getElem?_set_ne hmn] at hm
      refine (h.each m other hm).frame (fun identity counter hmem => ?_) fun hmem => ?_
      · exact hmn (hnew _ hmem).symm
      · exact hmn (hnew _ hmem).symm
  · rw [hconns, List.length_set]
    rcases List.mem_append.mp he with hold | hmem
    · exact h.known e hold
    · rw [hnew e hmem]
      exact (List.getElem?_eq_some_iff.mp hn).1

theorem Gates.Settled.write (h : Gates.Settled seen gates)
    (hn : gates.connections[n]? = some connection) :
    Gates.Settled (seen ++ (gates.write n connection buf).2) (gates.write n connection buf).1 := by
  have hconn := h.each n connection hn
  rcases gates.write_cases n connection buf with
    ⟨-, hw⟩ | ⟨identity, counter, hcommits, hstate, hevents⟩
  · rw [hw]
    refine h.set hn rfl (hconn.frame ?_ ?_) ?_
    · intro identity counter hmem
      simp at hmem
    · simp
    · simp [GateEvent.connection]
  · obtain ⟨hbuf, hpending⟩ := CommitGate.commits_some hcommits
    cases hconn with
    | accepted hp | refused hp => rw [hp] at hpending; cases hpending
    | waiting hp hc hr =>
      obtain ⟨rfl, rfl⟩ : connection.identity = identity ∧ connection.counter = counter := by
        rw [hp] at hpending
        cases hpending
        exact ⟨rfl, rfl⟩
      have hconns := congrArg Gates.connections hstate
      rcases hevents with ⟨-, hevents⟩ | ⟨-, hevents⟩
      · rw [hevents]
        refine h.set hn hconns (.accepted rfl (by simp) ?_) (by simp [GateEvent.connection])
        simpa using hr
      · rw [hevents]
        refine h.set hn hconns (.refused rfl (hc.append ?_) (by simp))
          (by simp [GateEvent.connection])
        intro identity counter hmem
        simp at hmem

theorem Gates.Settled.step (h : Gates.Settled seen gates) (action : GateAction) :
    Gates.Settled (seen ++ (gates.step action).2) (gates.step action).1 := by
  cases action with
  | poison =>
    rw [Gates.step, List.append_nil]
    exact ⟨h.each, h.known⟩
  | write n buf =>
    rw [Gates.step]
    cases hn : gates.connections[n]? with
    | none => simpa using h
    | some connection => exact h.write hn
  | admitTcp identity counter =>
    rw [Gates.step]
    split
    · rw [List.append_nil]
      refine ⟨fun n connection hn => ?_, fun e he => ?_⟩
      · rw [List.getElem?_append] at hn
        split at hn
        · exact h.each n connection hn
        · -- the new gate: no event so far is about it
          rename_i hlen
          have hnone (e : GateEvent) (hmem : e ∈ seen) : e.connection ≠ n := by
            have := h.known e hmem
            omega
          rw [List.getElem?_singleton] at hn
          split at hn
          · cases hn
            exact .waiting rfl (fun identity counter hmem => hnone _ hmem rfl)
              fun hmem => hnone _ hmem rfl
          · cases hn
      · rw [List.length_append]
        exact Nat.lt_add_right _ (h.known e he)
    · simpa using h

theorem Gates.Settled.new (capacity : Nat) (h : 0 < capacity) :
    Gates.Settled [] (.new capacity h) :=
  ⟨nofun, nofun⟩

/-- Data passes after an accepted commit, or after a refused one. -/
def PassesAfterAnswer (before : List GateEvent) (e : GateEvent) : Prop :=
  ∀ n buf, e = .passed n buf → Carries buf →
    ((∃ identity counter, .committed n identity counter ∈ before) ↔ .refused n ∉ before)

theorem MaskedConnection.Settled.answered {connection : MaskedConnection}
    (h : connection.Settled n seen) (hp : connection.gate.pending = none) :
    (∃ identity counter, .committed n identity counter ∈ seen) ↔ .refused n ∉ seen := by
  cases h with
  | waiting hw => rw [hw] at hp; cases hp
  | accepted _ hc hr => exact ⟨fun _ => hr, fun _ => ⟨_, _, hc⟩⟩
  | refused _ hc hr =>
    exact ⟨fun ⟨identity, counter, hmem⟩ => (hc identity counter hmem).elim,
      fun hnot => (hnot hr).elim⟩

theorem each_answer (h : ∀ n buf, e ≠ .passed n buf) (htail : Each
    (fun before => PassesAfterAnswer (seen ++ e :: before)) log) :
    Each (fun before => PassesAfterAnswer (seen ++ before)) (e :: log) :=
  each_cons (fun n buf he => (h n buf he).elim) htail

theorem Gates.Settled.write_passes (h : Gates.Settled seen gates)
    (hn : gates.connections[n]? = some connection) :
    Each (fun before => PassesAfterAnswer (seen ++ before)) (gates.write n connection buf).2 := by
  have hconn := h.each n connection hn
  rcases gates.write_cases n connection buf with
    ⟨hquiet, hw⟩ | ⟨identity, counter, hcommits, -, hevents⟩
  · rw [hw]
    refine each_cons ?_ each_nil
    rintro m buf' he hbuf
    cases he
    rw [CommitGate.commits, if_pos hbuf] at hquiet
    rw [List.append_nil]
    exact hconn.answered hquiet
  · obtain ⟨hbuf, hpending⟩ := CommitGate.commits_some hcommits
    rcases hevents with ⟨-, hevents⟩ | ⟨-, hevents⟩
    · rw [hevents]
      refine each_answer nofun (each_cons ?_ each_nil)
      rintro m buf' he -
      cases he
      cases hconn with
      | accepted hp | refused hp => rw [hp] at hpending; cases hpending
      | waiting _ _ hr =>
        refine ⟨fun _ => ?_, fun _ => ⟨identity, counter, by simp⟩⟩
        simpa using hr
    · rw [hevents]
      exact each_answer nofun each_nil

theorem Gates.Settled.step_passes (h : Gates.Settled seen gates) (action : GateAction) :
    Each (fun before => PassesAfterAnswer (seen ++ before)) (gates.step action).2 := by
  cases action with
  | poison => exact each_nil
  | admitTcp identity counter =>
    rw [Gates.step]
    split <;> exact each_nil
  | write n buf =>
    rw [Gates.step]
    cases hn : gates.connections[n]? with
    | none => exact each_nil
    | some connection => exact h.write_passes hn

/-- The identity is not evicted, and the registry has the answer. -/
structure KeepsWindow (identity : UInt64) (gates : Gates) (action : GateAction) : Prop where
  kept : identity ∈ gates.shared.registry.entries →
    identity ∈ (gates.step action).1.shared.registry.entries
  trusted : ∀ n buf connection counter, action = .write n buf →
    gates.connections[n]? = some connection →
    connection.gate.commits buf = some (identity, counter) →
    ∀ r ∈ gates.ledger, r.identity = identity → r.Trusted counter

structure Gates.Recorded (identity : UInt64) (seen : List GateEvent) (gates : Gates) : Prop where
  tracks : Tracks gates.shared.registry gates.ledger
  recorded : ∀ n counter, .committed n identity counter ∈ seen →
    ∃ r ∈ gates.ledger, r.identity = identity ∧ counter ∈ r.committed

theorem SharedRegistry.commit_poisoned {shared : SharedRegistry} (identity : UInt64)
    (counter : Nat) (h : shared.poisoned = true) :
    shared.commit identity counter = (shared, false) := by
  rw [SharedRegistry.commit, if_pos h]

theorem SharedRegistry.commit_sound {shared : SharedRegistry} (identity : UInt64) (counter : Nat)
    (h : ¬ shared.poisoned = true) :
    (shared.commit identity counter).1.registry = (shared.registry.commit identity counter).1 ∧
      ((shared.commit identity counter).2 = true ↔
        (shared.registry.commit identity counter).2 = .accepted) := by
  rw [SharedRegistry.commit, if_neg h]
  exact ⟨rfl, decide_eq_true_iff⟩

theorem SharedRegistry.tracks_commit {shared : SharedRegistry} (h : Tracks shared.registry ledger)
    (identity : UInt64) (counter : Nat) :
    Tracks (shared.commit identity counter).1.registry
      (shared.recordIn ledger identity counter) := by
  by_cases hpoison : shared.poisoned = true
  · rw [SharedRegistry.commit_poisoned identity counter hpoison, SharedRegistry.recordIn,
      if_pos hpoison]
    exact h
  · rw [(SharedRegistry.commit_sound identity counter hpoison).1, SharedRegistry.recordIn,
      if_neg hpoison, ← track_commit_fst (shared.registry, ledger)]
    exact h.track (.commit identity counter)

theorem Gates.tracks_step (h : Tracks gates.shared.registry gates.ledger) (action : GateAction) :
    Tracks (gates.step action).1.shared.registry (gates.step action).1.ledger := by
  cases action with
  | poison => exact h
  | admitTcp identity counter =>
    rw [Gates.step]
    split <;> exact h
  | write n buf =>
    rw [Gates.step]
    cases gates.connections[n]? with
    | none => exact h
    | some connection =>
      dsimp only
      rcases gates.write_cases n connection buf with
        ⟨-, hw⟩ | ⟨identity, counter, -, hstate, -⟩
      · rw [hw]
        exact h
      · rw [hstate]
        exact SharedRegistry.tracks_commit h identity counter

theorem Gates.Recorded.commit (h : gates.Recorded identity seen)
    (hkept : identity ∈ gates.shared.registry.entries →
      identity ∈ (gates.shared.commit key counter).1.registry.entries)
    (hnew : ∀ m c, .committed m identity c ∈ later →
      (key = identity ∧ counter = c) ∧ (gates.shared.commit key counter).2 = true) :
    Gates.Recorded identity (seen ++ later) ⟨(gates.shared.commit key counter).1,
      gates.shared.recordIn gates.ledger key counter, others⟩ := by
  refine ⟨SharedRegistry.tracks_commit h.tracks key counter, fun m c hmem => ?_⟩
  by_cases hpoison : gates.shared.poisoned = true
  · have hcommit := SharedRegistry.commit_poisoned key counter hpoison
    rw [SharedRegistry.recordIn, if_pos hpoison]
    rcases List.mem_append.mp hmem with hold | hmem
    · exact h.recorded m c hold
    · rw [hcommit] at hnew
      cases (hnew m c hmem).2
  · obtain ⟨hreg, hacc⟩ := SharedRegistry.commit_sound key counter hpoison
    rw [SharedRegistry.recordIn, if_neg hpoison]
    rcases List.mem_append.mp hmem with hold | hmem
    · obtain ⟨r, hr, rfl, hc⟩ := h.recorded m c hold
      have hin : r.identity ∈ gates.shared.registry.entries := by
        rw [h.tracks.mem_iff, List.any_eq_true]
        exact ⟨r, hr, decide_eq_true rfl⟩
      obtain ⟨r', hr', hid, hsub⟩ := h.tracks.survives hr (hreg ▸ hkept hin)
      exact ⟨r', hr', hid, hsub hc⟩
    · obtain ⟨⟨rfl, rfl⟩, htrue⟩ := hnew m c hmem
      exact h.tracks.committed (hacc.mp htrue)

theorem Gates.Recorded.quiet {gates after : Gates} (h : gates.Recorded identity seen)
    (hshared : after.shared.registry = gates.shared.registry)
    (hledger : after.ledger = gates.ledger) (hnew : ∀ m c, .committed m identity c ∉ later) :
    after.Recorded identity (seen ++ later) := by
  refine ⟨hshared ▸ hledger ▸ h.tracks, fun m c hmem => ?_⟩
  rw [hledger]
  exact h.recorded m c ((List.mem_append.mp hmem).resolve_right (hnew m c))

theorem Gates.Recorded.write (h : gates.Recorded identity seen)
    (hkept : identity ∈ gates.shared.registry.entries →
      identity ∈ (gates.write n connection buf).1.shared.registry.entries) :
    (gates.write n connection buf).1.Recorded identity
      (seen ++ (gates.write n connection buf).2) := by
  rcases gates.write_cases n connection buf with
    ⟨-, hw⟩ | ⟨key, counter, -, hstate, hevents⟩
  · rw [hw]
    exact h.quiet rfl rfl (by simp)
  · rw [hstate] at hkept ⊢
    refine h.commit hkept fun m c hmem => ?_
    rcases hevents with ⟨hacc, hevents⟩ | ⟨-, hevents⟩
    · rw [hevents] at hmem
      simp only [List.mem_cons, GateEvent.committed.injEq, reduceCtorEq, List.not_mem_nil,
        or_false] at hmem
      exact ⟨⟨hmem.2.1.symm, hmem.2.2.symm⟩, hacc⟩
    · rw [hevents] at hmem
      simp at hmem

theorem Gates.Recorded.step (h : gates.Recorded identity seen)
    (hkept : identity ∈ gates.shared.registry.entries →
      identity ∈ (gates.step action).1.shared.registry.entries) :
    (gates.step action).1.Recorded identity (seen ++ (gates.step action).2) := by
  cases action with
  | poison => exact h.quiet rfl rfl (by simp [Gates.step])
  | admitTcp key counter =>
    rw [Gates.step]
    split <;> exact h.quiet rfl rfl (by simp)
  | write n buf =>
    rw [Gates.step] at hkept ⊢
    cases hn : gates.connections[n]? with
    | none => exact h.quiet rfl rfl (by simp)
    | some connection =>
      rw [hn] at hkept
      exact h.write hkept

def CommitsFirst (identity : UInt64) (before : List GateEvent) (e : GateEvent) : Prop :=
  ∀ n counter, e = .committed n identity counter → ∀ m, .committed m identity counter ∉ before

theorem Gates.Recorded.step_first (h : gates.Recorded identity seen)
    (hkeeps : KeepsWindow identity gates action) :
    Each (fun before => CommitsFirst identity (seen ++ before)) (gates.step action).2 := by
  cases action with
  | poison => exact each_nil
  | admitTcp key counter =>
    rw [Gates.step]
    split <;> exact each_nil
  | write n buf =>
    rw [Gates.step]
    cases hn : gates.connections[n]? with
    | none => exact each_nil
    | some connection =>
      dsimp only
      rcases gates.write_cases n connection buf with
        ⟨-, hw⟩ | ⟨key, counter, hcommits, -, hevents⟩
      · rw [hw]
        exact each_cons nofun each_nil
      · rcases hevents with ⟨hacc, hevents⟩ | ⟨-, hevents⟩
        · rw [hevents]
          refine each_cons ?_ (each_cons nofun each_nil)
          rintro m c he m' hmem
          cases he
          rw [List.append_nil] at hmem
          -- committed before means still in the registration, which answers for itself
          obtain ⟨r, hr, rfl, hc⟩ := h.recorded m' counter hmem
          have htrust := hkeeps.trusted n buf connection counter rfl hn hcommits r hr rfl
          by_cases hpoison : gates.shared.poisoned = true
          · rw [SharedRegistry.commit_poisoned _ _ hpoison] at hacc
            cases hacc
          · exact h.tracks.commit_committed hr hc htrust
              ((SharedRegistry.commit_sound _ _ hpoison).2.mp hacc)
        · rw [hevents]
          exact each_cons nofun each_nil

theorem committed_once (h : Each (CommitsFirst identity) log)
    (hn : .committed n identity counter ∈ log) (hm : .committed m identity counter ∈ log) :
    n = m := by
  obtain ⟨before, after, rfl⟩ := List.append_of_mem hn
  have hfirst := h before _ after rfl n counter rfl m
  rcases List.mem_append.mp hm with hbefore | hlater
  · exact (hfirst hbefore).elim
  · rcases List.mem_cons.mp hlater with heq | hafter
    · cases heq
      rfl
    · obtain ⟨middle, rest, rfl⟩ := List.append_of_mem hafter
      refine (h (before ++ .committed n identity counter :: middle) _ rest ?_ m counter rfl n ?_).elim
      · simp
      · simp

/-- Connection `n` wrote more than an alert before any refusal of it. -/
def PassesUnrefused (log : List GateEvent) (n : Nat) : Prop :=
  ∃ before buf after, log = before ++ .passed n buf :: after ∧ Carries buf ∧ .refused n ∉ before

section

variable (capacity : Nat) (hcap : 0 < capacity) (actions : List GateAction)
include hcap

theorem run_settled :
    Gates.Settled (run Gates.step (.new capacity hcap) actions).2
      (run Gates.step (.new capacity hcap) actions).1 := by
  refine run_invariant Gates.Settled ?_ (.new capacity hcap) (along_true _ actions)
  exact fun _ _ action _ hs => hs.step action

theorem run_passes : Each PassesAfterAnswer (run Gates.step (.new capacity hcap) actions).2 := by
  refine run_each Gates.Settled ?_ ?_ (.new capacity hcap) (along_true _ actions)
  · exact fun _ _ action _ hs => hs.step action
  · exact fun _ _ action _ hs => hs.step_passes action

theorem run_tracks :
    Tracks (run Gates.step (.new capacity hcap) actions).1.shared.registry
      (run Gates.step (.new capacity hcap) actions).1.ledger := by
  refine run_invariant (fun _ (gates : Gates) => Tracks gates.shared.registry gates.ledger) ?_
    (.new capacity hcap) (along_true _ actions)
  exact fun _ _ action _ hs => Gates.tracks_step hs action

end

theorem run_first (h : Tracks gates.shared.registry gates.ledger)
    (hkeeps : Along Gates.step (KeepsWindow identity) gates actions) :
    Each (CommitsFirst identity) (run Gates.step gates actions).2 := by
  refine run_each (Gates.Recorded identity) ?_ ?_ ⟨h, nofun⟩ hkeeps
  · exact fun _ _ _ hk hs => hs.step hk.kept
  · exact fun _ _ _ hk hs => hs.step_first hk

theorem passes_committed (hsettled : gates.Settled log)
    (hpasses : Each PassesAfterAnswer log) (hn : gates.connections[n]? = some connection)
    (h : PassesUnrefused log n) : .committed n connection.identity connection.counter ∈ log := by
  obtain ⟨before, buf, after, rfl, hbuf, hr⟩ := h
  obtain ⟨identity, counter, hc⟩ := (hpasses before _ after rfl n buf rfl hbuf).mpr hr
  have hmem := List.mem_append_left (.passed n buf :: after) hc
  cases hsettled.each n connection hn with
  | waiting _ hnone | refused _ hnone => exact (hnone identity counter hmem).elim
  | accepted _ hcommitted => exact hcommitted

/-- Data passes a gate only after its commit was accepted, unless it was refused before; one gate
at most is accepted for a counter. -/
theorem gate_passes_after_commit (capacity : Nat) (hcap : 0 < capacity)
    (past actions : List GateAction) :
    let start := run Gates.step (.new capacity hcap) past
    Each PassesAfterAnswer start.2 ∧
    (∀ identity, Along Gates.step (KeepsWindow identity) start.1 actions →
      ∀ n m counter, .committed n identity counter ∈ (run Gates.step start.1 actions).2 →
        .committed m identity counter ∈ (run Gates.step start.1 actions).2 → n = m) ∧
    (∀ identity, Along Gates.step (KeepsWindow identity) (.new capacity hcap) past →
      ∀ n m first second, start.1.connections[n]? = some first →
        start.1.connections[m]? = some second → first.identity = identity →
        second.identity = identity → first.counter = second.counter →
        PassesUnrefused start.2 n → PassesUnrefused start.2 m → n = m) := by
  intro start
  have hsettled := run_settled capacity hcap past
  have hpasses := run_passes capacity hcap past
  refine ⟨hpasses, fun identity hkeeps n m counter hn hm => ?_,
    fun identity hkeeps n m first second hn hm hid hid' hcounter hpn hpm => ?_⟩
  · exact committed_once (run_first (run_tracks capacity hcap past) hkeeps) hn hm
  · have hcn := passes_committed hsettled hpasses hn hpn
    have hcm := passes_committed hsettled hpasses hm hpm
    rw [hid] at hcn
    rw [hid', ← hcounter] at hcm
    exact committed_once (run_first (Tracks.new capacity hcap) hkeeps) hcn hcm

theorem gate_passes_first_record :
    let start := run Gates.step (.new 4 (by decide)) [.admitTcp 1 5]
    .committed 0 1 5 ∈ (run Gates.step start.1 [.write 0 [22]]).2 ∧
      ∀ n, .committed n 1 5 ∈ (run Gates.step start.1 [.write 0 [22]]).2 → n = 0 := by
  intro start
  have hmem : .committed 0 1 5 ∈ (run Gates.step start.1 [.write 0 [22]]).2 := by decide
  refine ⟨hmem, fun n hn => ?_⟩
  refine (gate_passes_after_commit 4 (by decide) [.admitTcp 1 5] [.write 0 [22]]).2.1 1 ?_
    n 0 5 hn hmem
  exact ⟨⟨fun h => (AList.notMem_empty 1 h).elim, fun _ _ _ _ _ _ _ r hr => nomatch hr⟩, trivial⟩

/-- The second connection is refused and its next record passes all the same. -/
theorem refused_gate_passes :
    let log := (run Gates.step (.new 4 (by decide))
      [.admitTcp 1 5, .admitTcp 1 5, .write 0 [22], .write 1 [22], .write 1 [23]]).2
    log = [.committed 0 1 5, .passed 0 [22], .refused 1, .passed 1 [23]] ∧ Carries [23] ∧
      ∀ identity counter, .committed 1 identity counter ∉ log := by
  intro log
  have hlog : log = [.committed 0 1 5, .passed 0 [22], .refused 1, .passed 1 [23]] := by decide
  refine ⟨hlog, by decide, fun identity counter hmem => ?_⟩
  rw [hlog] at hmem
  simp at hmem

end UncrownedKing.Server
