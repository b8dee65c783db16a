import UncrownedKing.Relay.WireLaws

/-!
# A close is the last word of a flow

No data of a flow is written after its close, unless a reader takes the carrier
before the slot is removed or a draining session's client opens a flow id that
has a slot.
-/

namespace UncrownedKing.Relay

open Lib Net Proto Auth Server

def RelayEvent.closesFlow (origin : FlowToken) : RelayEvent → Bool
  | .wrote _ (some closed) frame => isClose frame && closed == origin
  | _ => false

/-- Data is not written for a flow once its close was. -/
def NotAfterClose (before : List RelayEvent) : RelayEvent → Prop
  | .wrote _ (some origin) frame =>
    isData frame = true → ∀ event ∈ before, event.closesFlow origin = false
  | _ => True

def RelaySession.removing (r : RelaySession) : Option Nat :=
  match r.loop with
  | .running (.remove flowId :: _) => some flowId
  | _ => none

/-- No open for a flow id with a slot while draining, and no data between a close and the removal.
-/
def Undisturbed (r : RelaySession) : RelayAction → Prop
  | .task n .acquire _ =>
    ∀ task ∈ r.session.tasks[n]?, ∀ frame ∈ task.stage.frame?, isData frame = true →
      r.removing ≠ some task.flowId
  | action => ¬Reopens r.session action

theorem notAfterClose_ofWrites : OfWrites NotAfterClose where
  plain := by
    intro log event hevent
    cases event <;> simp_all [RelayEvent.isWrite, NotAfterClose]
  mono := by
    intro log evs event hevs h
    unfold NotAfterClose at h ⊢
    split
    · intro hdata other hother
      rcases List.mem_append.mp hother with hother | hother
      · exact h hdata other hother
      · have hplain := hevs other hother
        cases other <;> simp_all [RelayEvent.isWrite, RelayEvent.closesFlow]
    · trivial

theorem closesFlow_true {event : RelayEvent} (h : event.closesFlow origin = true) :
    ∃ byTask frame, event = .wrote byTask (some origin) frame ∧ isClose frame = true := by
  unfold RelayEvent.closesFlow at h
  split at h
  · simp only [Bool.and_eq_true, beq_iff_eq] at h
    obtain ⟨hclose, rfl⟩ := h
    exact ⟨_, _, rfl, hclose⟩
  · cases h

variable {r r' : RelaySession} {log evs : List RelayEvent}

/-- Nothing more comes for the open, or its slot goes next. -/
def Quiet (r : RelaySession) (origin : FlowToken) : Prop :=
  r.shutdown = true ∨ ¬r.session.Loud origin ∨
    ∃ flowId, r.removing = some flowId ∧ r.occupant flowId = some origin

theorem Sound.quiet_of_gone (h : Sound r)
    (hgone : ∀ {flowId slot}, r.session.targetWriters.lookup flowId = some slot →
      slot.origin ≠ origin) : Quiet r origin := by
  by_cases hshutdown : r.shutdown = true
  · exact .inl hshutdown
  · refine .inr (.inl ?_)
    rintro (⟨flowId, slot, hslot, -, horigin⟩ | ⟨n, task, htask, hactive, horigin, haborted⟩)
    · exact hgone hslot horigin
    · have hmuted : r.muted task.token = false := by simp_all [RelaySession.muted]
      obtain ⟨slot, hslot, hsame⟩ := h.unmuted htask hactive hmuted
      exact hgone hslot (hsame.trans horigin)

theorem removing_eq_some :
    r.removing = some flowId ↔ ∃ rest, r.loop = .running (.remove flowId :: rest) := by
  unfold RelaySession.removing
  constructor
  · intro h
    split at h
    · rename_i hloop
      cases h
      exact ⟨_, hloop⟩
    · cases h
  · rintro ⟨rest, hloop⟩
    simp [hloop]

inductive Removes (r : RelaySession) (flowId : Nat) (r' : RelaySession) : Prop
  | due (hremoving : r'.removing = some flowId)
      (htable : r'.session.targetWriters = r.session.targetWriters)
  | stopped (hshutdown : r'.shutdown = true)
  | removed (htable : r'.session.targetWriters = r.session.targetWriters.erase flowId)

theorem Moves.removes (h : Moves context r action r' evs) (hsound : Sound r)
    (hremoving : r.removing = some flowId) : Removes r flowId r' := by
  obtain ⟨rest, hloop⟩ := removing_eq_some.mp hremoving
  have hsame {r' : RelaySession} (hloop' : r'.loop = r.loop)
      (htable : r'.session.targetWriters = r.session.targetWriters) : Removes r flowId r' :=
    .due (removing_eq_some.mpr ⟨rest, hloop'.trans hloop⟩) htable
  have hclash {stage : LoopStage} {P : Prop} (hstage : r.loop = stage)
      (hne : stage ≠ .running (.remove flowId :: rest)) : P :=
    absurd (hstage.symm.trans hloop) hne
  cases h with
  | stay => exact hsame rfl rfl
  | handled hready _ _ _ _ _ | opened hready _ | accepted hready _ _ _ => exact hclash hready nofun
  | took hloop' hframe _ _ =>
    cases hloop.symm.trans hloop'
    cases hframe
  | passed hloop' hframe _ _ =>
    cases hloop.symm.trans hloop'
    cases hframe
  | wrote _ hloop' hframe _ _ =>
    cases hloop.symm.trans hloop'
    cases hframe
  | removed hloop' =>
    cases hloop.symm.trans hloop'
    refine .removed ?_
    rw [(handle_alike _ _).table, removeFlowSlot_targetWriters]
  | established hloop' _ => cases hloop.symm.trans hloop'
  | stopped _ => exact .stopped rfl
  | closedFlows hloop' | aborted hloop' _ => exact hclash hloop' nofun
  | datagram _ _ | taskTook _ _ _ _ => exact hsame rfl rfl
  | taskWrote outcome htask _ _ hnext =>
    obtain ⟨stage, hmoved, -⟩ := (hsound.release outcome).1.moved htask hnext
    exact hsame hmoved.loop hmoved.table
  | taskDialed _ _ _ => exact hsame rfl rfl
  | taskMoved htask _ hnext =>
    obtain ⟨stage, hmoved, -⟩ := hsound.moved htask hnext
    exact hsame hmoved.loop hmoved.table

theorem Moves.quiet (h : Moves context r action r' evs) (hsound : Sound r)
    (hlt : origin < r.session.flowTokens) (hquiet : Quiet r origin) : Quiet r' origin := by
  obtain ⟨hsound', hlater⟩ := h.sound hsound
  rcases hquiet with hshutdown | hsilent | ⟨flowId, hremoving, hoccupant⟩
  · exact .inl (hlater.shutdown hshutdown)
  · exact .inr (.inl fun hloud => hsilent (hlater.loud hlt hloud))
  · cases h.removes hsound hremoving with
    | due hremoving' htable =>
      refine .inr (.inr ⟨flowId, hremoving', ?_⟩)
      rw [← hoccupant, RelaySession.occupant, htable, RelaySession.occupant]
    | stopped hshutdown => exact .inl hshutdown
    | removed htable =>
      obtain ⟨slot, hslot, horigin⟩ := Option.map_eq_some_iff.mp hoccupant
      refine hsound'.quiet_of_gone ?_
      intro other slot' hslot' horigin'
      rw [htable] at hslot'
      obtain ⟨hne, hslot'⟩ := lookup_erase_iff.mp hslot'
      exact hne (hsound.tagged.slot_unique hslot' hslot (horigin'.trans horigin.symm)).1

def Tidy (r : RelaySession) : Prop :=
  ∀ script, r.loop = .running script → Modest script → Neat AnyId r.session.targetWriters script

theorem Tidy.resume (h : Modest script → Neat AnyId r.session.targetWriters script) :
    Tidy (r.resume script) := by
  intro script' hrunning hmodest
  rw [resume_running hrunning] at hmodest ⊢
  rw [(resume_alike r script).table]
  exact h hmodest

inductive LoopWrites (r : RelaySession) (frame : Frame) (rest : Script) : Prop
  | neat (hplain : isData frame = false)
      (hclose : isClose frame = true → r.session.targetWriters.lookup frame.header.id = none ∨
        rest.head? = some (.remove frame.header.id))
      (hrest : Neat AnyId r.session.targetWriters rest)
  | ack (hdata : isData frame = true) (hrest : rest = [.establish flow])
      (hslot : r.session.targetWriters.lookup frame.header.id = some slot)
      (hopening : slot.isOpening = true)

theorem Tidy.writes (h : Tidy r) (hsound : Sound r) (hloop : r.loop = .running (instr :: rest))
    (hframe : instr.frame? = some frame) : LoopWrites r frame rest := by
  have hscript := hsound.loop
  unfold LoopSound at hscript
  rw [hloop] at hscript
  rcases hscript with hmodest | ⟨flow, haccepting⟩
  · have hneat := h _ hloop hmodest
    cases instr with
    | write written logged =>
      cases hframe
      exact .neat hneat.1 (fun hclose => (hneat.2.1 hclose).2) hneat.2.2
    | writeFlow written token => exact hneat.elim
    | remove flowId | establish flow | fail error => cases hframe
  · obtain ⟨cancel, hslot, -⟩ := haccepting.slot
    rcases haccepting.script with hscript | ⟨ack, hscript, hid, hdata, -⟩ <;> cases hscript <;>
      cases hframe
    exact .ack hdata rfl (hid ▸ hslot) (by simp)

theorem LoopWrites.tidy (h : LoopWrites r frame rest) (hmodest : Modest rest) :
    Neat AnyId r.session.targetWriters rest := by
  cases h with
  | neat hplain hclose hrest => exact hrest
  | ack hdata hrest hslot hopening =>
    rw [hrest] at hmodest
    exact hmodest.elim

theorem Moves.tidy (h : Moves context r action r' evs) (hsound : Sound r) (htidy : Tidy r)
    (hreopens : ¬Reopens r.session action) : Tidy r' := by
  have hsame {r' : RelaySession} (hloop : r'.loop = r.loop)
      (htable : r'.session.targetWriters = r.session.targetWriters) : Tidy r' := by
    unfold Tidy
    rw [hloop, htable]
    exact htidy
  have hstopped {r' : RelaySession} (hloop : r'.loop = .stopping ∨ r'.loop = .closed) :
      Tidy r' := by
    intro script hrunning
    rcases hloop with hloop | hloop <;> cases hloop.symm.trans hrunning
  cases h with
  | stay => exact hsame rfl rfl
  | handled _ _ _ _ _ hneat => exact .resume fun _ => hneat hsound.tagged.client hreopens
  | opened _ _ => exact .resume fun _ => neat_nil _
  | accepted _ _ _ _ =>
    refine .resume fun hmodest => ?_
    simp only [acceptOpen, sendOpened] at hmodest ⊢
    split at hmodest
    · exact hmodest.elim
    · trivial
  | took _ _ _ _ => exact hsame rfl rfl
  | passed hloop hframe _ _ => exact .resume (htidy.writes hsound hloop hframe).tidy
  | wrote outcome hloop hframe _ hnext =>
    rcases hnext with rfl | rfl
    · exact .resume (htidy.writes hsound hloop hframe).tidy
    · exact hstopped (.inl rfl)
  | removed hloop =>
    have hmodest := hsound.loop.modest_rest hloop
    refine .resume fun _ => ?_
    rw [removeFlowSlot_targetWriters]
    exact htidy _ hloop hmodest
  | established hloop _ =>
    obtain ⟨rfl, -⟩ := hsound.loop.establish hloop
    exact .resume fun _ => neat_nil _
  | stopped _ => exact hstopped (.inl rfl)
  | closedFlows _ => exact hstopped (.inr rfl)
  | aborted _ _ | datagram _ _ | taskTook _ _ _ _ => exact hsame rfl rfl
  | taskWrote outcome htask _ _ hnext =>
    obtain ⟨stage, hmoved, -⟩ := (hsound.release outcome).1.moved htask hnext
    exact hsame hmoved.loop hmoved.table
  | taskDialed _ _ _ => exact hsame rfl rfl
  | taskMoved htask _ hnext =>
    obtain ⟨stage, hmoved, -⟩ := hsound.moved htask hnext
    exact hsame hmoved.loop hmoved.table

theorem Sound.closing_silent (h : Sound r) {n : Nat} {task : Task}
    (htask : r.session.tasks[n]? = some task) (hframe : task.stage.frame? = some frame)
    (hclose : isClose frame = true) : ¬r.session.Loud task.origin := by
  have hstaged := h.tagged.staged htask
  unfold Task.WellStaged at hstaged
  cases hstage : task.stage with
  | sending sent =>
    simp only [hstage, TaskStage.frame?, Option.some.injEq] at hframe hstaged
    subst hframe
    intro hloud
    refine h.tagged.not_live htask hstaged.1 ?_ hloud.live
    simp [hstage, TaskStage.isActive, isClose_not_data hclose]
  | reporting frames =>
    simp only [hstage] at hstaged
    have haborted := h.voiced.reporting htask hstage
    rintro (⟨flowId, slot, hslot, hopening, horigin⟩ | ⟨m, other, hother, hactive, horigin, hloud⟩)
    · simp [h.tagged.opening hslot hopening htask horigin.symm] at hstaged
    · have hreader := (h.tagged.staged hother).active hactive
      rw [h.tagged.flowTask hother htask (isReader_not_open hreader) hstaged.1 horigin] at hloud
      simp [haborted] at hloud
  | _ => simp [hstage, TaskStage.frame?] at hframe

def ClosedQuiet (log : List RelayEvent) (r : RelaySession) : Prop :=
  ∀ event ∈ log, ∀ origin, event.closesFlow origin = true →
    origin < r.session.flowTokens ∧ Quiet r origin

theorem Moves.closedQuiet (h : Moves context r action r' evs) (hsound : Sound r)
    (htidy : Tidy r) (hclosed : ClosedQuiet log r) : ClosedQuiet (log ++ evs) r' := by
  have hlater := (h.sound hsound).2
  intro event hevent origin hcloses
  rcases List.mem_append.mp hevent with hevent | hevent
  · obtain ⟨hlt, hquiet⟩ := hclosed event hevent origin hcloses
    exact ⟨Nat.lt_of_lt_of_le hlt hlater.tokens.tokens, h.quiet hsound hlt hquiet⟩
  · obtain ⟨byTask, frame, rfl, hclose⟩ := closesFlow_true hcloses
    cases h with
    | wrote outcome hloop hframe hcarrier hnext =>
      rename_i instr rest written
      obtain ⟨-, hoccupant, rfl⟩ := RelayEvent.wrote.inj (List.mem_singleton.mp hevent)
      obtain ⟨slot, hslot, horigin⟩ := Option.map_eq_some_iff.mp hoccupant.symm
      have hlt := (hsound.tagged.slotOwns hslot).origin_lt
      rw [horigin] at hlt
      refine ⟨Nat.lt_of_lt_of_le hlt hlater.tokens.tokens, ?_⟩
      rcases hnext with rfl | rfl
      · cases htidy.writes hsound hloop hframe with
        | neat hplain hremoves hrest =>
          have hhead := (hremoves hclose).resolve_left (by simp [hslot])
          refine .inr (.inr ⟨frame.header.id, ?_, ?_⟩)
          · obtain ⟨rest', rfl⟩ := List.head?_eq_some_iff.mp hhead
            rfl
          · rw [hoccupant, RelaySession.occupant, (resume_alike _ _).table]
            rfl
        | ack hdata hrest hslot hopening => simp [isClose_not_data hclose] at hdata
      · exact .inl rfl
    | taskWrote outcome htask hframe hcarrier hnext =>
      obtain ⟨-, horigin, rfl⟩ := RelayEvent.wrote.inj (List.mem_singleton.mp hevent)
      cases horigin
      have hlt := (hsound.tagged.taskOwns htask).origin_lt
      have hsilent := hsound.closing_silent htask hframe hclose
      exact ⟨Nat.lt_of_lt_of_le hlt hlater.tokens.tokens,
        .inr (.inl fun hloud => hsilent (hlater.loud hlt hloud))⟩
    | opened hready hadmitted | taskDialed htask hstage result => cases List.mem_singleton.mp hevent
    | _ => cases hevent

theorem Takes.notAfterClose (h : Takes r action event) (hsound : Sound r) (htidy : Tidy r)
    (hclosed : ClosedQuiet log r) (hcond : Undisturbed r action) : NotAfterClose log event := by
  cases h with
  | loop hloop hframe hopen =>
    rename_i instr rest frame
    unfold NotAfterClose
    split
    · rename_i heq
      obtain ⟨-, hoccupant, rfl⟩ := RelayEvent.wrote.inj heq
      intro hdata other hother
      cases htidy.writes hsound hloop hframe with
      | neat hplain hremoves hrest => simp [hdata] at hplain
      | ack hack hrest hslot hopening =>
        obtain ⟨slot, hslot', horigin⟩ := Option.map_eq_some_iff.mp hoccupant
        cases hslot.symm.trans hslot'
        rw [Bool.eq_false_iff]
        intro hcloses
        rcases (hclosed other hother _ hcloses).2 with hshutdown | hsilent | ⟨flowId, hremoving, -⟩
        · simp [hopen] at hshutdown
        · exact hsilent (.inl ⟨_, _, hslot, hopening, horigin⟩)
        · obtain ⟨rest', hremove⟩ := removing_eq_some.mp hremoving
          cases hloop.symm.trans hremove
          cases hframe
    · trivial
  | task htask hframe hguard =>
    rename_i frame recorded n task
    intro hdata other hother
    have hstage := (hsound.tagged.staged htask).sending_of_data hframe hdata
    have hmuted := hguard hstage hdata
    have hactive : task.stage.isActive = true := by simp [hstage, TaskStage.isActive, hdata]
    rw [Bool.eq_false_iff]
    intro hcloses
    simp only [RelaySession.muted, Bool.or_eq_false_iff] at hmuted
    rcases (hclosed other hother _ hcloses).2 with hshutdown | hsilent | ⟨flowId, hremoving, hoccupant⟩
    · simp [hmuted.1] at hshutdown
    · exact hsilent (.inr ⟨n, task, htask, hactive, rfl, hmuted.2⟩)
    · obtain ⟨slot, hslot, horigin⟩ := Option.map_eq_some_iff.mp hoccupant
      have hslotOwns := hsound.tagged.slotOwns hslot
      rw [horigin] at hslotOwns
      have hid := hslotOwns.flowId_eq (hsound.tagged.taskOwns htask)
      exact hcond task htask frame hframe hdata (hid ▸ hremoving)

theorem Undisturbed.not_reopens (h : Undisturbed r action) : ¬Reopens r.session action := by
  unfold Undisturbed at h
  split at h
  · exact id
  · exact h

/-- In an undisturbed run no data is written for a flow after its close. -/
theorem close_ends_sending (context : RelayContext) (actions : List RelayAction)
    (h : Along (RelaySession.step context) Undisturbed .start actions) :
    Each NotAfterClose (run (RelaySession.step context) .start actions).2 := by
  refine run_each (fun log r => Sound r ∧ Held r ∧ Tidy r ∧ ClosedQuiet log r ∧
    Safe NotAfterClose log r) ?_ ?_ ?_ h
  · rintro log r action hcond ⟨hsound, hheld, htidy, hclosed, hsafe⟩
    have hmoves := step_moves context r action
    have hcarrier := hmoves.carrier hsound hheld
    exact ⟨(hmoves.sound hsound).1, hcarrier.held hheld,
      hmoves.tidy hsound htidy hcond.not_reopens, hmoves.closedQuiet hsound htidy hclosed,
      hcarrier.safe notAfterClose_ofWrites hsafe fun _ htakes =>
        htakes.notAfterClose hsound htidy hclosed hcond⟩
  · rintro log r action - ⟨hsound, hheld, -, -, hsafe⟩
    exact ((step_moves context r action).carrier hsound hheld).each notAfterClose_ofWrites hsafe
  · refine ⟨Sound.start, fun h => absurd rfl h, fun script hrunning => ?_, List.forall_mem_nil _, .start⟩
    simp [RelaySession.start] at hrunning

instance (before : List RelayEvent) (event : RelayEvent) :
    Decidable (NotAfterClose before event) := by
  unfold NotAfterClose
  split <;> infer_instance

instance (s : Session) (action : RelayAction) : Decidable (Reopens s action) := by
  unfold Reopens
  split <;> infer_instance

instance (r : RelaySession) (action : RelayAction) : Decidable (Undisturbed r action) := by
  cases action with
  | task n choice recorded => cases choice <;> dsimp only [Undisturbed] <;> infer_instance
  | _ => dsimp only [Undisturbed]; infer_instance

def sampleRefusal : List RelayAction :=
  [.frame sampleOpen sampleEnv, .loop .acquire, .loop (.finish .written), .loop .acquire,
    .loop (.finish .written)]

/-- A second open for a flow whose reader has data. -/
def quietReopen : List RelayAction :=
  sampleEstablish 0 ++ sampleRefusal ++ [.task 1 (.read [5]) false, .loop (.go 0)] ++
    sampleWrite 1

theorem quietReopen_silent :
    Along (RelaySession.step sampleContext) Undisturbed .start quietReopen ∧
      Each NotAfterClose (run (RelaySession.step sampleContext) .start quietReopen).2 := by
  have halong : Along (RelaySession.step sampleContext) Undisturbed .start quietReopen := by
    decide +kernel
  exact ⟨halong, close_ends_sending sampleContext quietReopen halong⟩

/-- The reader asks for the carrier once the loop has written the close. -/
def overtakenRemoval : List RelayAction :=
  sampleEstablish 0 ++ sampleRefusal ++ [.task 1 (.read [5]) false] ++ sampleWrite 1

/-- The same open while draining: the flow's reader reads on. -/
def drainingReopen : List RelayAction :=
  sampleEstablish 0 ++ [.shutdown] ++ sampleRefusal ++ [.task 1 (.read [5]) false] ++
    sampleWrite 1

theorem data_written_after_close :
    ¬Each NotAfterClose (run (RelaySession.step sampleContext) .start overtakenRemoval).2 ∧
      ¬Each NotAfterClose (run (RelaySession.step sampleContext) .start drainingReopen).2 := by
  decide +kernel

end UncrownedKing.Relay
