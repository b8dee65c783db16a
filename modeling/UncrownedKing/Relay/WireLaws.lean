import UncrownedKing.Relay.RunLaws

/-!
# Frames on the wire

One producer at a time holds the carrier, and it writes the frame it took the
carrier for.
-/

namespace UncrownedKing.Relay

open Lib Net Proto Auth Server

def RelayEvent.isWrite : RelayEvent → Bool
  | .wrote _ _ _ => true
  | _ => false

namespace RelaySession

def loopWrite (r : RelaySession) : Option RelayEvent :=
  match r.loop with
  | .running (instr :: _) =>
    instr.frame?.map fun frame => .wrote false (r.occupant frame.header.id) frame
  | _ => none

def taskWrite (r : RelaySession) (n : Nat) : Option RelayEvent :=
  match r.session.tasks[n]? with
  | some task => task.stage.frame?.map fun frame => .wrote true (some task.origin) frame
  | none => none

def underWay (r : RelaySession) : Option RelayEvent :=
  match r.carrier with
  | none => none
  | some .loop => r.loopWrite
  | some (.task n) => r.taskWrite n

end RelaySession

def Held (r : RelaySession) : Prop := r.carrier ≠ none → r.underWay ≠ none

inductive Takes (r : RelaySession) : RelayAction → RelayEvent → Prop
  | loop (hloop : r.loop = .running (instr :: rest)) (hframe : instr.frame? = some frame)
      (hopen : r.shutdown = false) :
      Takes r action (.wrote false (r.occupant frame.header.id) frame)
  | task {n : Nat} {task : Task} (htask : r.session.tasks[n]? = some task)
      (hframe : task.stage.frame? = some frame)
      (hguard : task.stage = .sending frame → isData frame = true → r.muted task.token = false) :
      Takes r (.task n .acquire recorded) (.wrote true (some task.origin) frame)

inductive CarrierMoves (r : RelaySession) (action : RelayAction) (r' : RelaySession)
    (evs : List RelayEvent) : Prop
  | kept (hcarrier : r'.carrier = r.carrier) (hunder : r'.underWay = r.underWay)
      (hevs : ∀ event ∈ evs, event.isWrite = false)
  | ended (hcarrier : r'.carrier = none)
      (hevs : evs = [] ∨ ∃ event, r.underWay = some event ∧ evs = [event])
  | took (htakes : Takes r action event) (hunder : r'.underWay = some event) (hevs : evs = [])

variable {r r' : RelaySession}

theorem Held.not_loop (h : Held r) (hloop : r.loopWrite = none) : r.carrier ≠ some .loop := by
  intro hcarrier
  refine h (by simp [hcarrier]) ?_
  simp [RelaySession.underWay, hcarrier, hloop]

theorem Held.not_task (h : Held r) {n : Nat} {task : Task}
    (htask : r.session.tasks[n]? = some task)
    (hfree : ∀ frame, task.stage.frame? = some frame → r.carrier ≠ some (.task n)) :
    r.carrier ≠ some (.task n) := by
  intro hcarrier
  cases hframe : task.stage.frame? with
  | none =>
    refine h (by simp [hcarrier]) ?_
    simp [RelaySession.underWay, RelaySession.taskWrite, hcarrier, htask, hframe]
  | some frame => exact hfree frame hframe hcarrier

theorem underWay_of_extends (h : Held r) (hcarrier : r'.carrier = r.carrier)
    (hloop : r.carrier ≠ some .loop) {more : List Task}
    (htasks : r'.session.tasks = r.session.tasks ++ more) : r'.underWay = r.underWay := by
  unfold RelaySession.underWay
  rw [hcarrier]
  split
  · rfl
  · contradiction
  · rename_i n hn
    have hsome := h (by simp [hn])
    unfold RelaySession.taskWrite
    cases htask : r.session.tasks[n]? with
    | none => simp [RelaySession.underWay, RelaySession.taskWrite, hn, htask] at hsome
    | some task =>
      have hlt := (List.getElem?_eq_some_iff.mp htask).1
      rw [htasks, List.getElem?_append_left hlt, htask]

theorem underWay_of_taskMoved {n : Nat} {task : Task} {stage : TaskStage}
    (hmoved : TaskMoved r n task stage r') (hn : r.carrier ≠ some (.task n)) :
    r'.underWay = r.underWay := by
  unfold RelaySession.underWay
  rw [hmoved.carrier]
  split
  · rfl
  · unfold RelaySession.loopWrite RelaySession.occupant
    rw [hmoved.loop, hmoved.table]
  · rename_i m hm
    have hne : n ≠ m := by
      rintro rfl
      exact hn hm
    unfold RelaySession.taskWrite
    rw [hmoved.tasks, List.getElem?_set_ne hne]

theorem Moves.carrier (h : Moves context r action r' evs) (hsound : Sound r) (hheld : Held r) :
    CarrierMoves r action r' evs := by
  -- a loop that has no frame to write does not hold the carrier
  have hready (hloop : r.loop = .ready) : r.carrier ≠ some .loop :=
    hheld.not_loop (by simp [RelaySession.loopWrite, hloop])
  have hrunning {instr : Instr} {rest : Script} (hloop : r.loop = .running (instr :: rest))
      (hframe : instr.frame? = none) : r.carrier ≠ some .loop :=
    hheld.not_loop (by simp [RelaySession.loopWrite, hloop, hframe])
  -- and leaves the tasks there are
  have hkept {r' : RelaySession} {more : List Task} (hcarrier : r'.carrier = r.carrier)
      (hloop : r.carrier ≠ some .loop) (htasks : r'.session.tasks = r.session.tasks ++ more) :
      CarrierMoves r action r' [] :=
    .kept hcarrier (underWay_of_extends hheld hcarrier hloop htasks) (List.forall_mem_nil _)
  have hmoved {n : Nat} {task : Task} {r' : RelaySession}
      (htask : r.session.tasks[n]? = some task) (hmoves : TaskMoves r n task r')
      (hfree : ∀ frame, task.stage.frame? = some frame → r.carrier ≠ some (.task n)) :
      CarrierMoves r action r' [] := by
    obtain ⟨stage, hmoved, -⟩ := hsound.moved htask hmoves
    exact .kept hmoved.carrier (underWay_of_taskMoved hmoved (hheld.not_task htask hfree))
      (List.forall_mem_nil _)
  cases h with
  | stay => exact .kept rfl rfl (List.forall_mem_nil _)
  | handled hloop hevents hended hkept' hmodest hneat =>
    obtain ⟨timers, htasks, -⟩ := hkept'.tasks
    exact hkept (handle_carrier _ _) (hready hloop) ((handle_alike _ _).tasks.trans htasks)
  | opened hloop hadmitted =>
    exact .kept (handle_carrier _ _) (underWay_of_extends hheld (handle_carrier _ _)
      (hready hloop) (handle_alike _ _).tasks) (by simp [RelayEvent.isWrite])
  | accepted hloop hevents hevent hslot =>
    exact hkept (handle_carrier _ _) (hready hloop)
      ((handle_alike _ _).tasks.trans (List.append_nil _).symm)
  | took hloop hframe hfree hopen =>
    refine .took (.loop hloop hframe hopen) ?_ rfl
    simp [RelaySession.underWay, RelaySession.loopWrite, hloop, hframe, RelaySession.occupant]
  | passed hloop hframe hpass hcarrier =>
    exact hkept (resume_carrier _ _) hcarrier
      ((resume_alike _ _).tasks.trans (List.append_nil _).symm)
  | wrote outcome hloop hframe hcarrier hnext =>
    refine .ended ?_ (.inr ⟨_, ?_, rfl⟩)
    · rcases hnext with rfl | rfl
      · exact resume_carrier _ _
      · rfl
    · simp [RelaySession.underWay, RelaySession.loopWrite, hcarrier, hloop, hframe]
  | removed hloop =>
    rename_i flowId rest
    have hremoved := @kept_removeFlowSlot (fun _ => False) r.session flowId
    obtain ⟨timers, htasks, -⟩ := hremoved.tasks
    exact hkept (handle_carrier _ _) (hrunning hloop rfl) ((handle_alike _ _).tasks.trans htasks)
  | established hloop now =>
    exact hkept (handle_carrier _ _) (hrunning hloop rfl) (handle_alike _ _).tasks
  | stopped hloop =>
    refine hkept rfl ?_ (List.append_nil _).symm
    rcases hloop with hloop | ⟨error, rest, hloop⟩ | ⟨script, -, hcarrier⟩
    · exact hready hloop
    · exact hrunning hloop rfl
    · exact hcarrier
  | closedFlows hloop =>
    have htasks := (closeTargetFlows_hushed context r.session).tasks
    exact hkept rfl (hheld.not_loop (by simp [RelaySession.loopWrite, hloop]))
      (htasks.trans (List.append_nil _).symm)
  | aborted hloop htask =>
    rename_i n task
    by_cases hn : r.carrier = some (.task n)
    · exact .ended (by simp [RelaySession.setStage, hn]) (.inl rfl)
    · simp only [hn, if_false]
      exact .kept rfl (underWay_of_taskMoved (r.taskMoved_done n task) hn)
        (List.forall_mem_nil _)
  | datagram flowId payload => exact .kept rfl rfl (List.forall_mem_nil _)
  | taskTook htask hframe hfree hguard =>
    refine .took (.task htask hframe hguard) ?_ rfl
    simp [RelaySession.underWay, RelaySession.taskWrite, htask, hframe]
  | taskWrote outcome htask hframe hcarrier hnext =>
    obtain ⟨stage, hmoved, -⟩ := (hsound.release outcome).1.moved htask hnext
    refine .ended hmoved.carrier (.inr ⟨_, ?_, rfl⟩)
    simp [RelaySession.underWay, RelaySession.taskWrite, hcarrier, htask, hframe]
  | taskDialed htask hstage result =>
    have hn := hheld.not_task htask fun frame hframe => by
      simp [hstage, TaskStage.frame?] at hframe
    exact .kept rfl (underWay_of_taskMoved
      (taskMoved_dialed (hsound.tagged.staged htask) hstage result) hn) (by simp [RelayEvent.isWrite])
  | taskMoved htask hfree hnext => exact hmoved htask hnext hfree

theorem loop_underWay (h : r.underWay = some (.wrote false origin frame)) :
    ∃ instr rest, r.loop = .running (instr :: rest) ∧ instr.frame? = some frame ∧
      r.occupant frame.header.id = origin := by
  unfold RelaySession.underWay at h
  split at h
  · cases h
  · unfold RelaySession.loopWrite at h
    split at h
    · rename_i hloop
      obtain ⟨written, hframe, hevent⟩ := Option.map_eq_some_iff.mp h
      obtain ⟨-, horigin, rfl⟩ := RelayEvent.wrote.inj hevent
      exact ⟨_, _, hloop, hframe, horigin⟩
    · cases h
  · unfold RelaySession.taskWrite at h
    split at h
    · obtain ⟨written, -, hevent⟩ := Option.map_eq_some_iff.mp h
      cases hevent
    · cases h

theorem CarrierMoves.held (h : CarrierMoves r action r' evs) (hheld : Held r) : Held r' := by
  cases h with
  | kept hcarrier hunder hevs =>
    unfold Held
    rw [hcarrier, hunder]
    exact hheld
  | ended hcarrier hevs => exact fun h => absurd hcarrier h
  | took htakes hunder hevs =>
    intro _
    simp [hunder]

structure OfWrites (P : List RelayEvent → RelayEvent → Prop) : Prop where
  plain : ∀ {log event}, event.isWrite = false → P log event
  mono : ∀ {log evs event}, (∀ other ∈ evs, other.isWrite = false) → P log event →
    P (log ++ evs) event

def Safe (P : List RelayEvent → RelayEvent → Prop) (log : List RelayEvent) (r : RelaySession) :
    Prop :=
  ∀ event, r.underWay = some event → P log event

variable {P : List RelayEvent → RelayEvent → Prop} {log evs : List RelayEvent}

theorem Safe.start : Safe P [] .start := fun _ hevent => by
  simp [RelaySession.underWay, RelaySession.start] at hevent

theorem CarrierMoves.safe (h : CarrierMoves r action r' evs) (hP : OfWrites P)
    (hsafe : Safe P log r)
    (htakes : ∀ event, Takes r action event → P log event) : Safe P (log ++ evs) r' := by
  intro event hevent
  cases h with
  | kept hcarrier hunder hevs =>
    rw [hunder] at hevent
    exact hP.mono hevs (hsafe event hevent)
  | ended hcarrier hevs => simp [RelaySession.underWay, hcarrier] at hevent
  | took htakes' hunder hevs =>
    cases hunder.symm.trans hevent
    rw [hevs, List.append_nil]
    exact htakes event htakes'

theorem CarrierMoves.each (h : CarrierMoves r action r' evs) (hP : OfWrites P)
    (hsafe : Safe P log r) : Each (fun before => P (log ++ before)) evs := by
  have hone {event : RelayEvent} (hevent : P log event) :
      Each (fun before => P (log ++ before)) [event] :=
    each_cons (by rwa [List.append_nil]) each_nil
  cases h with
  | kept hcarrier hunder hevs =>
    intro before event after heq
    exact hP.plain (hevs event (by simp [heq]))
  | ended hcarrier hevs =>
    rcases hevs with rfl | ⟨event, hevent, rfl⟩
    · exact each_nil
    · exact hone (hsafe event hevent)
  | took htakes hunder hevs =>
    rw [hevs]
    exact each_nil

def RelayEvent.acksLater (origin : FlowToken) (flowId : Nat) : RelayEvent → Bool
  | .wrote false (some later) frame =>
    isData frame && frame.payload.isEmpty && frame.header.id == flowId && decide (origin < later)
  | _ => false

/-- No task writes a frame for a flow id once a later open of it was answered. -/
def NotStale (looksAt : Frame → Bool) (before : List RelayEvent) : RelayEvent → Prop
  | .wrote true (some origin) frame =>
    looksAt frame = true → ∀ event ∈ before, event.acksLater origin frame.header.id = false
  | _ => True

theorem notStale_ofWrites (looksAt : Frame → Bool) : OfWrites (NotStale looksAt) where
  plain := by
    intro log event hevent
    cases event <;> trivial
  mono := by
    intro log evs event hevs h
    unfold NotStale at h ⊢
    split
    · intro hlooks other hother
      rcases List.mem_append.mp hother with hother | hother
      · exact h hlooks other hother
      · have hplain := hevs other hother
        cases other <;> simp_all [RelayEvent.isWrite, RelayEvent.acksLater]
    · trivial

def Acked (log : List RelayEvent) (r : RelaySession) : Prop :=
  ∀ later frame, .wrote false (some later) frame ∈ log → later < r.session.flowTokens ∧
    ∀ slot, r.session.targetWriters.lookup frame.header.id = some slot → later ≤ slot.origin

theorem Acked.later (h : Acked log r) (hlater : Later r r') : Acked log r' := by
  intro later frame hlogged
  obtain ⟨hlt, hslots⟩ := h later frame hlogged
  refine ⟨Nat.lt_of_lt_of_le hlt hlater.tokens.tokens, ?_⟩
  intro slot hslot
  rcases hlater.slots hslot with hnew | ⟨before, hbefore, horigin⟩
  · exact Nat.le_of_lt (Nat.lt_of_lt_of_le hlt hnew)
  · rw [← horigin]
    exact hslots before hbefore

theorem Moves.acked (h : Moves context r action r' evs) (hsound : Sound r) (hheld : Held r)
    (hacked : Acked log r) : Acked (log ++ evs) r' := by
  have hlater := (h.sound hsound).2
  -- what the loop writes is for the slot the flow id has
  have hcurrent : Acked evs r := by
    intro later frame hlogged
    cases h.carrier hsound hheld with
    | kept hcarrier hunder hevs => exact absurd (hevs _ hlogged) (by simp [RelayEvent.isWrite])
    | took htakes hunder hevs => simp [hevs] at hlogged
    | ended hcarrier hevs =>
      rcases hevs with rfl | ⟨event, hevent, rfl⟩
      · cases hlogged
      · cases List.mem_singleton.mp hlogged
        obtain ⟨-, -, -, -, hoccupant⟩ := loop_underWay hevent
        obtain ⟨slot, hslot, horigin⟩ := Option.map_eq_some_iff.mp hoccupant
        refine ⟨horigin ▸ (hsound.tagged.slotOwns hslot).origin_lt, ?_⟩
        intro slot' hslot'
        cases hslot.symm.trans hslot'
        exact horigin.ge
  intro later frame hlogged
  rcases List.mem_append.mp hlogged with hlogged | hlogged
  · exact hacked.later hlater later frame hlogged
  · exact hcurrent.later hlater later frame hlogged

theorem acksLater_true {event : RelayEvent} (h : event.acksLater origin flowId = true) :
    ∃ later frame, event = .wrote false (some later) frame ∧ frame.header.id = flowId ∧
      origin < later := by
  unfold RelayEvent.acksLater at h
  split at h
  · simp only [Bool.and_eq_true, beq_iff_eq, decide_eq_true_eq] at h
    exact ⟨_, _, rfl, h.1.2, h.2⟩
  · cases h

theorem Sound.unmuted (h : Sound r) {n : Nat} {task : Task}
    (htask : r.session.tasks[n]? = some task) (hactive : task.stage.isActive = true)
    (hmuted : r.muted task.token = false) :
    ∃ slot, r.session.targetWriters.lookup task.flowId = some slot ∧ slot.origin = task.origin := by
  simp only [RelaySession.muted, Bool.or_eq_false_iff] at hmuted
  rcases h.voiced.active htask hactive with hshutdown | haborted | ⟨slot, hslot, htoken, -⟩
  · simp [hmuted.1] at hshutdown
  · simp [hmuted.2] at haborted
  · have howns := h.tagged.slotOwns hslot
    rw [htoken] at howns
    exact ⟨slot, hslot, howns.origin_eq (h.tagged.taskOwns htask)⟩

/-- A task takes the carrier for a close or a status only while its flow has its slot: the check
that is made for data. -/
def SlotHeld (r : RelaySession) : RelayAction → Prop
  | .task n .acquire _ =>
    ∀ task ∈ r.session.tasks[n]?, ∀ frame ∈ task.stage.frame?, isData frame = false →
      r.occupant task.flowId = some task.origin
  | _ => True

theorem Takes.notStale {looksAt : Frame → Bool} (h : Takes r action event) (hsound : Sound r)
    (hacked : Acked log r)
    (hcond : (∀ frame, looksAt frame = true → isData frame = true) ∨ SlotHeld r action) :
    NotStale looksAt log event := by
  cases h with
  | loop hloop hframe hopen => trivial
  | task htask hframe hguard =>
    rename_i frame recorded n task
    intro hlooks other hother
    have hheld : ∃ slot, r.session.targetWriters.lookup task.flowId = some slot ∧
        slot.origin = task.origin := by
      cases hdata : isData frame with
      | true =>
        have hstage := (hsound.tagged.staged htask).sending_of_data hframe hdata
        exact hsound.unmuted htask (by simp [hstage, TaskStage.isActive, hdata])
          (hguard hstage hdata)
      | false =>
        rcases hcond with hall | hcond
        · simp [hall frame hlooks] at hdata
        · exact Option.map_eq_some_iff.mp (hcond task htask frame hframe hdata)
    obtain ⟨slot, hslot, horigin⟩ := hheld
    rw [Bool.eq_false_iff]
    intro hacks
    obtain ⟨later, ack, rfl, hid, hlt⟩ := acksLater_true hacks
    rw [(hsound.tagged.staged htask).writes hframe] at hid
    have hle := (hacked later ack hother).2 slot (hid ▸ hslot)
    exact absurd hlt (Nat.not_lt.mpr (horigin ▸ hle))

theorem run_notStale {context : RelayContext} {actions : List RelayAction}
    {looksAt : Frame → Bool}
    (h : Along (RelaySession.step context) (fun r action =>
      (∀ frame, looksAt frame = true → isData frame = true) ∨ SlotHeld r action) .start actions) :
    Each (NotStale looksAt) (run (RelaySession.step context) .start actions).2 := by
  refine run_each
    (fun log r => Sound r ∧ Held r ∧ Acked log r ∧ Safe (NotStale looksAt) log r) ?_ ?_ ?_ h
  · rintro log r action hc ⟨hsound, hheld, hacked, hsafe⟩
    have hmoves := step_moves context r action
    have hcarrier := hmoves.carrier hsound hheld
    exact ⟨(hmoves.sound hsound).1, hcarrier.held hheld, hmoves.acked hsound hheld hacked,
      hcarrier.safe (notStale_ofWrites _) hsafe fun _ htakes => htakes.notStale hsound hacked hc⟩
  · rintro log r action hc ⟨hsound, hheld, hacked, hsafe⟩
    exact ((step_moves context r action).carrier hsound hheld).each (notStale_ofWrites _) hsafe
  · refine ⟨Sound.start, fun h => absurd rfl h, fun _ _ hlogged => ?_, .start⟩
    exact absurd hlogged List.not_mem_nil

/-- No stale data is written, nor any other stale frame unless a task takes the carrier for it
when its flow has lost its slot. -/
theorem stale_frames_not_written (context : RelayContext) (actions : List RelayAction) :
    let log := (run (RelaySession.step context) .start actions).2
    Each (NotStale isData) log ∧
      (Along (RelaySession.step context) SlotHeld .start actions →
        Each (NotStale fun _ => true) log) :=
  ⟨run_notStale (along_imp (fun _ _ _ => .inl fun _ => id) (along_true _ _)),
    fun h => run_notStale (along_imp (fun _ _ => .inr) h)⟩

instance (looksAt : Frame → Bool) (before : List RelayEvent) (event : RelayEvent) :
    Decidable (NotStale looksAt before event) := by
  unfold NotStale
  split <;> infer_instance

instance (r : RelaySession) (action : RelayAction) : Decidable (SlotHeld r action) := by
  unfold SlotHeld
  split <;> infer_instance

def sampleEstablish (n : Nat) : List RelayAction :=
  [.frame sampleOpen sampleEnv, .task n (.dialed (.ok 7)) false, .task n .go false,
    .task n .go false, .event sampleEnv, .loop .acquire, .loop (.finish .written), .loop (.go 0)]

def sampleClose : Frame := ⟨⟨protocolVersion, .tcpClose, 0, 1, 2⟩, [0, 1]⟩

def sampleWrite (n : Nat) : List RelayAction :=
  [.task n .acquire false, .task n (.finish .written) false]

/-- The socket fails: its reader aborts the flow and reports it, then the client opens the id
again. -/
def timelyReport : List RelayAction :=
  sampleEstablish 0 ++ [.task 1 .failed false] ++ sampleWrite 1 ++ sampleWrite 1 ++
    [.frame sampleClose sampleEnv] ++ sampleEstablish 3

theorem timelyReport_not_stale :
    Along (RelaySession.step sampleContext) SlotHeld .start timelyReport ∧
      Each (NotStale fun _ => true)
        (run (RelaySession.step sampleContext) .start timelyReport).2 := by
  have halong : Along (RelaySession.step sampleContext) SlotHeld .start timelyReport := by
    decide +kernel
  exact ⟨halong, (stale_frames_not_written sampleContext timelyReport).2 halong⟩

/-- The client closes the flow and opens its id again while the reader writes the first frame of
its report. The acknowledgement is next at the carrier, the second frame comes after it. -/
def overtakenReport : List RelayAction :=
  sampleEstablish 0 ++ [.task 1 .failed false, .task 1 .acquire false] ++
    [.frame sampleClose sampleEnv] ++ (sampleEstablish 3).take 5 ++
    [.task 1 (.finish .written) false] ++ (sampleEstablish 3).drop 5 ++ sampleWrite 1

theorem overtakenReport_stale :
    ¬Each (NotStale fun _ => true)
      (run (RelaySession.step sampleContext) .start overtakenReport).2 := by
  decide +kernel

end UncrownedKing.Relay
