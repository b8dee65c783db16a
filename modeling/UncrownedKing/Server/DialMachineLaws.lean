import UncrownedKing.Server.DialMachine

/-!
# Dials, permits and what comes of them

The dial loop dials its list in order and each position once, and holds one
permit for every dial in flight.
-/

namespace UncrownedKing.Server

open Lib Net Proto

variable {context : DialContext} {limit : Nat} {log : List (Nat × DialOutcome T)}
  {s s' : DialMachine T} {id : Nat} {outcome : DialOutcome T} {pc : DialPc T}

namespace OpenDialLimiter

def rest (limiter : OpenDialLimiter) : Nat := limiter.available + limiter.elsewhere

theorem tryAcquire_rest {limiter limiter' : OpenDialLimiter}
    (h : limiter.tryAcquire = some limiter') : limiter.rest = limiter'.rest + 1 := by
  unfold tryAcquire at h
  split at h
  · cases h
  · rename_i available havailable
    cases h
    simp only [rest, havailable]
    omega

theorem give_rest (limiter : OpenDialLimiter) (permits : Nat) :
    (limiter.give permits).rest = limiter.rest + permits := by
  simp only [rest, give]
  omega

theorem lend_rest (limiter : OpenDialLimiter) : limiter.lend.rest = limiter.rest := by
  unfold lend
  split
  · rfl
  · rename_i limiter' hacquire
    have hrest := tryAcquire_rest hacquire
    simp only [rest] at hrest ⊢
    omega

theorem reclaim_rest (limiter : OpenDialLimiter) : limiter.reclaim.rest = limiter.rest := by
  unfold reclaim
  split
  · rfl
  · rename_i elsewhere helsewhere
    simp only [rest, helsewhere]
    omega

end OpenDialLimiter

def NoStream (log : List (Nat × DialOutcome T)) : Prop :=
  ∀ id outcome, (id, outcome) ∈ log → outcome.error.isSome = true

def DialPc.Justified (context : DialContext) (log : List (Nat × DialOutcome T)) (dial : DialState) :
    DialPc T → Prop
  | .check | .spawn | .wait => NoStream log
  | .abort (.ok stream) => ∃ id, (id, .finished (.ok stream)) ∈ log
  | .abort (.error failure) => failure = .targetTimeout
  | .returned (.ok stream) => dial.tasks.tasks = [] ∧ ∃ id, (id, .finished (.ok stream)) ∈ log
  | .returned (.error (.targetUnavailable _)) =>
    dial.tasks.tasks = [] ∧ dial.nextIndex = context.addrs.length ∧ NoStream log
  | .returned (.error _) => dial.tasks.tasks = []
  | .dropped => dial.tasks.tasks = []

structure DialSound (context : DialContext) (limit : Nat) (log : List (Nat × DialOutcome T))
    (s : DialMachine T) : Prop where
  within : s.dial.nextIndex ≤ context.addrs.length
  dialled : s.dial.log = (context.addrs.take s.dial.nextIndex).map context.connector
  permits : s.dial.tasks.permits = s.dial.tasks.tasks
  distinct : s.dial.tasks.tasks.Nodup
  begun : ∀ id ∈ s.dial.tasks.tasks, id < s.dial.nextIndex
  parallel : s.dial.tasks.tasks.length ≤ targetConnectParallelism
  balance : s.limiter.rest + s.dial.tasks.permits.length = limit
  known : ∀ id outcome, (id, outcome) ∈ log → id < s.dial.nextIndex
  joined : s.pc ≠ .dropped → ∀ id, id < s.dial.nextIndex → id ∈ s.dial.tasks.tasks ∨
    ∃ outcome, (id, outcome) ∈ log
  justified : s.pc.Justified context log s.dial

theorem DialPc.Justified.empty (h : pc.Justified context log dial) (hexit : pc.isExit = true) :
    dial.tasks.tasks = [] := by
  match pc, h with
  | .returned (.ok _), h | .returned (.error (.targetUnavailable _)), h => exact h.1
  | .returned (.error .policyDenied), h | .returned (.error .resourceLimit), h => exact h
  | .returned (.error .targetTimeout), h | .dropped, h => exact h

theorem DialSound.start (context : DialContext) (limiter : OpenDialLimiter) :
    DialSound (T := T) context limiter.rest [] (.start limiter) where
  within := Nat.zero_le _
  dialled := rfl
  permits := rfl
  distinct := .nil
  begun := nofun
  parallel := Nat.zero_le _
  balance := rfl
  known := nofun
  joined := nofun
  justified := nofun

section

variable (h : DialSound context limit log s)
include h

theorem DialSound.goto (hpc : s.pc ≠ .dropped) (hjustified : pc.Justified context log s.dial) :
    DialSound context limit log { s with pc := pc } :=
  { h with
    joined := fun _ => h.joined hpc
    justified := hjustified }

theorem DialSound.spawned (hpc : s.pc = .spawn) :
    DialSound context limit log (s.spawned context) := by
  have hnone : NoStream log := by
    have hjustified := h.justified
    rwa [hpc] at hjustified
  have hlive : s.pc ≠ .dropped := by simp [hpc]
  unfold DialMachine.spawned
  split
  · rename_i hempty
    have hempty := List.isEmpty_iff.mp hempty
    split
    · exact h.goto hlive hempty
    · rename_i hthrough
      exact h.goto hlive ⟨hempty, Nat.le_antisymm h.within (Nat.not_lt.mp hthrough), hnone⟩
  · exact h.goto hlive hnone

theorem DialSound.spawnNext (hpc : s.pc = .spawn) :
    DialSound context limit log (s.spawnNext context) := by
  unfold DialMachine.spawnNext
  split
  · exact h.spawned hpc
  · rename_i addr haddr
    split
    · rename_i hroom
      split
      · exact h.spawned hpc
      · rename_i limiter hacquire
        have hnext : s.dial.nextIndex < context.addrs.length :=
          (List.getElem?_eq_some_iff.mp haddr).1
        have hnew : s.dial.nextIndex ∉ s.dial.tasks.tasks :=
          fun hmem => Nat.lt_irrefl _ (h.begun _ hmem)
        refine ⟨hnext, ?_, ?_, ?_, ?_, ?_, ?_, ?_, ?_, ?_⟩
        · simp [h.dialled, List.take_add_one, haddr]
        · simp [ConnectTasks.spawn, h.permits]
        · simpa [ConnectTasks.spawn, List.nodup_append, h.distinct] using
            fun id hid (heq : id = s.dial.nextIndex) => hnew (heq ▸ hid)
        · intro id hid
          rcases List.mem_append.mp hid with hid | hid
          · exact Nat.lt_succ_of_lt (h.begun id hid)
          · rw [List.mem_singleton.mp hid]
            exact Nat.lt_succ_self _
        · simpa [ConnectTasks.spawn] using Nat.succ_le_of_lt hroom
        · have hrest := OpenDialLimiter.tryAcquire_rest hacquire
          have hbalance := h.balance
          simp only [ConnectTasks.spawn, List.length_append, List.length_singleton]
          omega
        · exact fun id outcome hlogged => Nat.lt_succ_of_lt (h.known id outcome hlogged)
        · intro _ id hid
          rcases Nat.lt_succ_iff_lt_or_eq.mp hid with hid | rfl
          · exact (h.joined (by simp [hpc]) id hid).imp (List.mem_append_left _) fun h => h
          · exact .inl (List.mem_append_right _ (List.mem_singleton_self _))
        · have hjustified := h.justified
          rw [hpc] at hjustified
          rw [hpc]
          exact hjustified
    · exact h.spawned hpc

theorem DialSound.take (hid : id ∈ s.dial.tasks.tasks)
    (hpc : s.pc ≠ .dropped) {lastError : Option IoError}
    (hjustified : pc.Justified context (log ++ [(id, outcome)])
      { (s.take id).dial with lastError := lastError }) :
    DialSound context limit (log ++ [(id, outcome)])
      { s.take id with dial := { (s.take id).dial with lastError := lastError }, pc := pc } := by
  have hpermit : id ∈ s.dial.tasks.permits := h.permits ▸ hid
  refine ⟨h.within, h.dialled, ?_, h.distinct.erase id, ?_, ?_, ?_, ?_, ?_, hjustified⟩
  · exact congrArg (·.erase id) h.permits
  · exact fun other hother => h.begun other (List.mem_of_mem_erase hother)
  · exact Nat.le_trans (List.length_erase_le ..) h.parallel
  · have hbalance := h.balance
    have hpos := List.length_pos_of_mem hpermit
    simp only [DialMachine.take, ConnectTasks.join, hpermit, if_true, OpenDialLimiter.give_rest,
      List.length_erase_of_mem]
    omega
  · intro other outcome' hlogged
    rcases List.mem_append.mp hlogged with hlogged | hlogged
    · exact h.known other outcome' hlogged
    · cases List.mem_singleton.mp hlogged
      exact h.begun id hid
  · intro _ other hother
    by_cases hsame : other = id
    · exact .inr ⟨outcome, by simp [hsame]⟩
    · rcases h.joined hpc other hother with htask | ⟨outcome', hlogged⟩
      · exact .inl ((List.mem_erase_of_ne hsame).mpr htask)
      · exact .inr ⟨outcome', List.mem_append_left _ hlogged⟩

theorem DialSound.clear (hlive : s.pc ≠ .dropped) (hempty : pc ≠ .dropped → s.dial.tasks.tasks = [])
    (hjustified : pc.Justified context log s.dial.abort) :
    DialSound context limit log (s.clear pc) := by
  refine ⟨h.within, h.dialled, rfl, .nil, nofun, Nat.zero_le _, ?_, h.known, ?_, hjustified⟩
  · have hbalance := h.balance
    simp only [DialMachine.clear, DialState.abort, ConnectTasks.abortAll, OpenDialLimiter.give_rest,
      List.length_nil]
    omega
  · intro hpc id hid
    refine (h.joined hlive id hid).imp (fun htask => ?_) fun h => h
    simp [hempty hpc] at htask

theorem DialSound.limiter {limiter : OpenDialLimiter} (hrest : limiter.rest = s.limiter.rest) :
    DialSound context limit log { s with limiter := limiter } :=
  { h with
    balance := by
      have hbalance := h.balance
      simp only [hrest]
      exact hbalance }

end

theorem NoStream.append (h : NoStream log) (houtcome : outcome.error.isSome = true) :
    NoStream (log ++ [(id, outcome)]) := by
  intro other outcome' hlogged
  rcases List.mem_append.mp hlogged with hlogged | hlogged
  · exact h other outcome' hlogged
  · cases List.mem_singleton.mp hlogged
    exact houtcome

section

variable (h : DialSound context limit log s)
include h

theorem DialSound.joinWaiting (hpc : s.pc = .wait)
    (hid : id ∈ s.dial.tasks.tasks) (outcome : DialOutcome T) :
    DialSound context limit (log ++ [(id, outcome)]) ((s.take id).joined outcome) := by
  have hnone : NoStream log := by
    have hjustified := h.justified
    rwa [hpc] at hjustified
  have hlive : s.pc ≠ .dropped := by simp [hpc]
  unfold DialMachine.joined
  split
  · exact h.take hid hlive ⟨id, by simp⟩
  · rename_i hfailure
    refine h.take hid hlive (hnone.append ?_)
    cases outcome with
    | failed message => rfl
    | finished result =>
      cases result with
      | error err => rfl
      | ok stream => exact absurd rfl (hfailure stream)

theorem DialSound.joinAborting (hpc : s.pc = .abort result)
    (hid : id ∈ s.dial.tasks.tasks) (outcome : DialOutcome T) :
    DialSound context limit (log ++ [(id, outcome)]) (s.take id) := by
  refine h.take hid (by simp [hpc]) ?_
  have hjustified := h.justified
  rw [hpc] at hjustified ⊢
  cases result with
  | ok stream =>
    obtain ⟨other, hlogged⟩ := hjustified
    exact ⟨other, List.mem_append_left _ hlogged⟩
  | error failure => exact hjustified

theorem DialSound.aborted (hpc : s.pc = .abort result) (hempty : s.dial.tasks.tasks = []) :
    DialSound context limit log (s.clear (.returned result)) := by
  refine h.clear (by simp [hpc]) (fun _ => hempty) ?_
  have hjustified := h.justified
  rw [hpc] at hjustified
  cases result with
  | ok stream => exact ⟨rfl, hjustified⟩
  | error failure =>
    cases hjustified
    rfl

theorem DialSound.step (action : DialAction T) :
    DialSound context limit (log ++ (s.step context action).2) (s.step context action).1 := by
  have hquiet {s' : DialMachine T} (h' : DialSound context limit log s') :
      DialSound context limit (log ++ []) s' := by rwa [List.append_nil]
  cases action with
  | go now =>
    simp only [DialMachine.step]
    split
    · rename_i hpc
      have hjustified := h.justified
      rw [hpc] at hjustified
      split
      · exact hquiet (h.goto (by simp [hpc]) (by rfl))
      · exact hquiet (h.goto (by simp [hpc]) (by exact hjustified))
    · rename_i hpc
      exact hquiet (h.spawnNext hpc)
    · rename_i result hpc
      split
      · rename_i hempty
        exact hquiet (h.aborted hpc (List.isEmpty_iff.mp hempty))
      · exact hquiet h
    · exact hquiet h
  | join id =>
    simp only [DialMachine.step]
    split
    · rename_i outcome hpc _
      split
      · rename_i hid
        exact h.joinWaiting hpc hid outcome
      · exact hquiet h
    · rename_i result outcome hpc _
      split
      · rename_i hid
        exact h.joinAborting hpc hid outcome
      · exact hquiet h
    · exact hquiet h
  | expire =>
    simp only [DialMachine.step]
    split
    · rename_i hpc
      split
      · exact hquiet (h.goto (by simp [hpc]) (by rfl))
      · exact hquiet h
    · exact hquiet h
  | drop =>
    simp only [DialMachine.step]
    split
    · rename_i hpc
      exact hquiet (h.clear (by simp [hpc]) (fun hlive => absurd rfl hlive) (by rfl))
    · rename_i result hpc
      exact hquiet (h.clear (by simp [hpc]) (fun hlive => absurd rfl hlive) (by rfl))
    · exact hquiet h
  | finish id outcome =>
    simp only [DialMachine.step]
    split
    · exact hquiet { h with }
    · exact hquiet h
  | lend => exact hquiet (h.limiter s.limiter.lend_rest)
  | reclaim => exact hquiet (h.limiter s.limiter.reclaim_rest)

end

theorem run_dialSound (context : DialContext) (limiter : OpenDialLimiter)
    (actions : List (DialAction T)) :
    DialSound context limiter.rest
      (run (DialMachine.step context) (DialMachine.start limiter) actions).2
      (run (DialMachine.step context) (DialMachine.start limiter) actions).1 :=
  run_invariant (DialSound context limiter.rest) (fun _ _ action _ h => h.step action)
    (.start context limiter) (along_true _ actions)

def spawnTargetConnect (addrs : List SocketAddr) (connector : TargetConnector) (d : DialState) :
    DialState :=
  spawnTargetConnects addrs connector 1 d

theorem spawnTargetConnects_succ (addrs : List SocketAddr) (connector : TargetConnector)
    (available : Nat) (d : DialState) :
    spawnTargetConnects addrs connector (available + 1) d =
      spawnTargetConnect addrs connector (spawnTargetConnects addrs connector available d) := by
  induction available generalizing d with
  | zero => rfl
  | succ available ih =>
    rw [spawnTargetConnects]
    split
    · rename_i hnone
      simp [spawnTargetConnects, spawnTargetConnect, hnone]
    · rename_i addr haddr
      split
      · rename_i hroom
        rw [ih]
        simp [spawnTargetConnects, haddr, hroom]
      · rename_i hfull
        simp [spawnTargetConnects, spawnTargetConnect, haddr, hfull]

namespace DialContext

def connects (context : DialContext) (turns : List (Turn T)) (d : DialState) :
    DialState × Option (Except OpenFailure T) :=
  connectFirstSuccessful context.addrs context.connector context.deadline turns d

def Reaches (context : DialContext) (turns : List (Turn T)) (d : DialState) : Prop :=
  ∀ more, context.connects (turns ++ more) .new = context.connects more d

/-- The turns lead to the result, with the dials of the log made. -/
def Ends (context : DialContext) (turns : List (Turn T)) (log : List DialEvent)
    (result : Except OpenFailure T) : Prop :=
  (context.connects turns .new).1.log = log ∧ (context.connects turns .new).2 = some result

def Within (context : DialContext) (turns : List (Turn T)) (now : Instant) (available : Nat)
    (d : DialState) : Prop :=
  ∃ before, context.Reaches turns before ∧ context.deadline.any (· ≤ now) = false ∧
    d = spawnTargetConnects context.addrs context.connector available before

theorem Reaches.start (context : DialContext) : context.Reaches (T := T) [] .new :=
  fun _ => rfl

theorem Reaches.turn {turns : List (Turn T)} {turn : Turn T} {d d' : DialState}
    (h : context.Reaches turns d)
    (hturn : dialTurn context.addrs context.connector context.deadline turn d = (d', .again)) :
    context.Reaches (turns ++ [turn]) d' := by
  intro more
  rw [List.append_assoc, h]
  simp [connects, connectFirstSuccessful, hturn]

theorem Reaches.ends {turns : List (Turn T)} {turn : Turn T} {d : DialState}
    (h : context.Reaches turns d) (d' : DialState)
    (hturn : dialTurn context.addrs context.connector context.deadline turn d =
      (d', .returned result)) : context.Ends (turns ++ [turn]) d'.log result := by
  have hends : context.connects (turns ++ [turn]) .new = (d', some result) := by
    rw [h]
    simp [connects, connectFirstSuccessful, hturn]
  simp [Ends, hends]

end DialContext

/-- The turns that a state of the machine stands for. -/
def DialMachine.Follows (context : DialContext) (s : DialMachine T) : Prop :=
  match s.pc with
  | .check => ∃ turns : List (Turn T), context.Reaches turns s.dial
  | .spawn => ∃ (turns : List (Turn T)) (now : Instant) (available : Nat),
    context.Within turns now available s.dial
  | .wait => s.dial.tasks.tasks.isEmpty = false ∧
    ∃ (turns : List (Turn T)) (now : Instant) (available : Nat),
      context.Within turns now available s.dial
  | .abort result | .returned result => ∃ turns, context.Ends turns s.dial.log result
  | .dropped => True

namespace DialMachine

theorem Follows.check (h : s.Follows context) (hpc : s.pc = .check) (now : Instant) :
    (if context.deadline.any (· ≤ now) then { s with pc := .abort (.error .targetTimeout) }
      else { s with pc := .spawn }).Follows context := by
  simp only [Follows, hpc] at h
  obtain ⟨turns, hreaches⟩ := h
  split
  · rename_i hexpired
    refine ⟨turns ++ [⟨now, 0, .expired⟩], ?_⟩
    exact hreaches.ends s.dial.abort (by simp [dialTurn, hexpired])
  · rename_i hlive
    exact ⟨turns, now, 0, s.dial, hreaches, by simpa using hlive, rfl⟩

theorem Follows.spawned (h : s.Follows context) (hpc : s.pc = .spawn) :
    (s.spawned context).Follows context := by
  simp only [Follows, hpc] at h
  obtain ⟨turns, now, available, before, hreaches, hlive, hdial⟩ := h
  unfold DialMachine.spawned
  split
  · rename_i hempty
    split
    · rename_i hmore
      refine ⟨turns ++ [⟨now, available, .expired⟩], hreaches.ends s.dial ?_⟩
      simp [dialTurn, hlive, ← hdial, hempty, hmore]
    · rename_i hthrough
      refine ⟨turns ++ [⟨now, available, .expired⟩], hreaches.ends s.dial ?_⟩
      simp [dialTurn, hlive, ← hdial, hempty, hthrough]
  · rename_i hbusy
    exact ⟨by simpa using hbusy, turns, now, available, before, hreaches, hlive, hdial⟩

theorem Follows.spawnNext (h : s.Follows context) (hpc : s.pc = .spawn) :
    (s.spawnNext context).Follows context := by
  unfold DialMachine.spawnNext
  split
  · exact h.spawned hpc
  · rename_i addr haddr
    split
    · rename_i hroom
      split
      · exact h.spawned hpc
      · simp only [Follows, hpc] at h ⊢
        obtain ⟨turns, now, available, before, hreaches, hlive, hdial⟩ := h
        refine ⟨turns, now, available + 1, before, hreaches, hlive, ?_⟩
        rw [spawnTargetConnects_succ, ← hdial]
        simp [spawnTargetConnect, spawnTargetConnects, haddr, hroom]
    · exact h.spawned hpc

theorem Follows.joined (h : s.Follows context) (hpc : s.pc = .wait)
    (hid : id ∈ s.dial.tasks.tasks) (outcome : DialOutcome T) :
    ((s.take id).joined outcome).Follows context := by
  simp only [Follows, hpc] at h
  obtain ⟨hbusy, turns, now, available, before, hreaches, hlive, hdial⟩ := h
  match outcome with
  | .finished (.ok stream) =>
    refine ⟨turns ++ [⟨now, available, .finished id (.ok stream)⟩], ?_⟩
    exact hreaches.ends (s.take id).dial.abort
      (by simp [dialTurn, hlive, ← hdial, hbusy, hid, take])
  | .finished (.error err) =>
    refine ⟨turns ++ [⟨now, available, .finished id (.error err)⟩], hreaches.turn ?_⟩
    simp [dialTurn, hlive, ← hdial, hbusy, hid, take, DialMachine.joined, DialOutcome.error]
  | .failed message =>
    refine ⟨turns ++ [⟨now, available, .failed id message⟩], hreaches.turn ?_⟩
    simp [dialTurn, hlive, ← hdial, hbusy, hid, take, DialMachine.joined, DialOutcome.error]

theorem Follows.expire (h : s.Follows context) (hpc : s.pc = .wait)
    (hdeadline : context.deadline.isSome = true) :
    { s with pc := .abort (.error .targetTimeout) }.Follows context := by
  simp only [Follows, hpc] at h
  obtain ⟨hbusy, turns, now, available, before, hreaches, hlive, hdial⟩ := h
  refine ⟨turns ++ [⟨now, available, .expired⟩], ?_⟩
  exact hreaches.ends s.dial.abort
    (by simp [dialTurn, hlive, ← hdial, hbusy, hdeadline])

theorem Follows.step (h : s.Follows context) (action : DialAction T) :
    (s.step context action).1.Follows context := by
  cases action with
  | go now =>
    simp only [DialMachine.step]
    split
    · rename_i hpc
      have hcheck := h.check hpc now
      split at hcheck <;> simp_all
    · rename_i hpc
      exact h.spawnNext hpc
    · rename_i result hpc
      split
      · simp only [Follows, hpc] at h
        exact h
      · exact h
    · exact h
  | join id =>
    simp only [DialMachine.step]
    split
    · rename_i outcome hpc _
      split
      · rename_i hid
        exact h.joined hpc hid outcome
      · exact h
    · rename_i result outcome hpc _
      split
      · simp only [Follows, take, hpc] at h ⊢
        exact h
      · exact h
    · exact h
  | expire =>
    simp only [DialMachine.step]
    split
    · rename_i hpc
      split
      · rename_i hdeadline
        exact h.expire hpc hdeadline
      · exact h
    · exact h
  | drop =>
    simp only [DialMachine.step]
    split
    · exact trivial
    · exact trivial
    · exact h
  | finish id outcome =>
    simp only [DialMachine.step]
    split <;> exact h
  | lend | reclaim => exact h

end DialMachine

/-- What the dial loop returns, and the dials it has made, are those of a sequence of turns of
`connectFirstSuccessful`. -/
theorem connectFirstSuccessful_refined (context : DialContext) (limiter : OpenDialLimiter)
    (actions : List (DialAction T)) (result : Except OpenFailure T) :
    let s := (run (DialMachine.step context) (DialMachine.start limiter) actions).1
    s.pc = .returned result →
      ∃ turns, (context.connects turns .new).1.log = s.dial.log ∧
        (context.connects turns .new).2 = some result := by
  intro s hpc
  have h : s.Follows context :=
    run_invariant (fun _ s => DialMachine.Follows context s) (fun _ _ action _ h => h.step action)
      ⟨[], .start context⟩ (along_true _ actions)
  simp only [DialMachine.Follows, hpc] at h
  exact h

def twoDials : DialContext := ⟨[.v4 ⟨9, 9, 9, 9⟩ 53, .v4 ⟨8, 8, 8, 8⟩ 53], .tcpConnect, none⟩

/-- Both dials are under way when the first one fails. -/
theorem second_dial_refined :
    ∃ turns : List (Turn Unit),
      (twoDials.connects turns .new).1.log = twoDials.addrs.map twoDials.connector ∧
        (twoDials.connects turns .new).2 = some (.ok ()) :=
  connectFirstSuccessful_refined twoDials (.new 2)
    [.go 0, .go 0, .go 0, .go 0, .finish 0 (.finished (.error ⟨.other, "refused"⟩)), .join 0,
      .go 0, .go 0, .finish 1 (.finished (.ok ())), .join 1, .go 0] (.ok ()) rfl

/-- The dials made are the first of the list, each once; those in flight have a permit each; and
the target is unavailable only if every dial failed. -/
theorem connectFirstSuccessful_accounted (context : DialContext) (limiter : OpenDialLimiter)
    (actions : List (DialAction T)) :
    let (s, log) := run (DialMachine.step context) (DialMachine.start limiter) actions
    s.dial.log = (context.addrs.take s.dial.nextIndex).map context.connector ∧
      s.dial.nextIndex ≤ context.addrs.length ∧
      s.dial.tasks.tasks.length ≤ targetConnectParallelism ∧
      s.dial.tasks.tasks.length = s.dial.tasks.permits.length ∧
      s.limiter.available + s.limiter.elsewhere + s.dial.tasks.permits.length =
        limiter.available + limiter.elsewhere ∧
      (s.pc.isExit = true → s.dial.tasks.tasks = [] ∧ s.dial.tasks.permits = []) ∧
      (∀ stream, s.pc = .returned (.ok stream) → ∃ id addr, context.addrs[id]? = some addr ∧
        id < s.dial.nextIndex ∧ (id, .finished (.ok stream)) ∈ log) ∧
      ∀ err, s.pc = .returned (.error (.targetUnavailable err)) →
        s.dial.nextIndex = context.addrs.length ∧ ∀ id, id < context.addrs.length →
          ∃ outcome, (id, outcome) ∈ log ∧ outcome.error.isSome = true := by
  have h := run_dialSound context limiter actions
  have hjustified := h.justified
  refine ⟨h.dialled, h.within, h.parallel, (congrArg List.length h.permits).symm, h.balance,
    ?_, ?_, ?_⟩
  · intro hexit
    rw [h.permits, and_self]
    exact hjustified.empty hexit
  · intro stream hpc
    rw [hpc] at hjustified
    obtain ⟨-, id, hlogged⟩ := hjustified
    have hid := h.known id _ hlogged
    exact ⟨id, _, List.getElem?_eq_getElem (Nat.lt_of_lt_of_le hid h.within), hid, hlogged⟩
  · intro err hpc
    rw [hpc] at hjustified
    obtain ⟨hempty, hthrough, hnone⟩ := hjustified
    refine ⟨hthrough, fun id hid => ?_⟩
    rcases h.joined (by simp [hpc]) id (hthrough ▸ hid) with htask | ⟨outcome, hlogged⟩
    · simp [hempty] at htask
    · exact ⟨outcome, hlogged, hnone id outcome hlogged⟩

end UncrownedKing.Server
