import UncrownedKing.Relay.FlowLaws

/-!
# What holds along every run

The invariants of a session with its loop, its queue of events and its tasks.
`Later` says what of the past still holds after a move.
-/

namespace UncrownedKing.Relay

open Lib Net Proto Auth Server

variable {task : Task}

/-- The same flows, tasks and links; the loop and the queue may differ. -/
structure Alike (r r' : RelaySession) : Prop where
  table : r'.session.targetWriters = r.session.targetWriters
  tasks : r'.session.tasks = r.session.tasks
  links : r'.session.links = r.session.links
  owner : r'.session.owner = r.session.owner
  tokens : r'.session.flowTokens = r.session.flowTokens
  shutdown : r.shutdown = true → r'.shutdown = true

theorem Alike.trans {r r' r'' : RelaySession} (h : Alike r r') (h' : Alike r' r'') :
    Alike r r'' where
  table := h'.table.trans h.table
  tasks := h'.tasks.trans h.tasks
  links := h'.links.trans h.links
  owner := h'.owner.trans h.owner
  tokens := h'.tokens.trans h.tokens
  shutdown := fun hshutdown => h'.shutdown (h.shutdown hshutdown)

section

variable (r : RelaySession)

theorem stop_alike : Alike r r.stop :=
  ⟨rfl, rfl, rfl, rfl, rfl, fun _ => rfl⟩

theorem resume_alike (script : Script) : Alike r (r.resume script) := by
  unfold RelaySession.resume
  split
  · split
    · exact stop_alike r
    · exact ⟨rfl, rfl, rfl, rfl, rfl, id⟩
  · exact ⟨rfl, rfl, rfl, rfl, rfl, id⟩

theorem release_alike (outcome : WriteOutcome) : Alike r (r.release outcome) :=
  ⟨rfl, rfl, rfl, rfl, rfl, fun h => by simp [RelaySession.release, h]⟩

@[simp] theorem resume_events (script : Script) : (r.resume script).events = r.events := by
  unfold RelaySession.resume
  split
  · split <;> rfl
  · rfl

@[simp] theorem resume_carrier (script : Script) : (r.resume script).carrier = r.carrier := by
  unfold RelaySession.resume
  split
  · split <;> rfl
  · rfl

end

theorem resume_running {r : RelaySession}
    (h : (r.resume script).loop = .running script') : script' = script := by
  unfold RelaySession.resume at h
  split at h
  · split at h <;> cases h
  · cases h
    rfl

theorem handle_alike (r : RelaySession) (handled : Handled) :
    Alike { r with session := handled.1 } (r.handle handled) :=
  resume_alike _ _

@[simp] theorem handle_events (r : RelaySession) (handled : Handled) :
    (r.handle handled).events = r.events :=
  resume_events _ _

@[simp] theorem handle_carrier (r : RelaySession) (handled : Handled) :
    (r.handle handled).carrier = r.carrier :=
  resume_carrier _ _

namespace Session

/-- The open has a slot and is not established. -/
def Opening (s : Session) (origin : FlowToken) : Prop :=
  ∃ flowId slot, s.targetWriters.lookup flowId = some slot ∧ slot.isOpening = true ∧
    slot.origin = origin

/-- The open may still report for its flow. -/
def Live (s : Session) (origin : FlowToken) : Prop :=
  s.Opening origin ∨ ∃ (n : Nat) (task : Task), s.tasks[n]? = some task ∧
    task.stage.isActive = true ∧ task.origin = origin

/-- Live, and not told to stop. -/
def Loud (s : Session) (origin : FlowToken) : Prop :=
  s.Opening origin ∨ ∃ (n : Nat) (task : Task), s.tasks[n]? = some task ∧
    task.stage.isActive = true ∧ task.origin = origin ∧ (s.links task.token).aborted = false

theorem Loud.live {s : Session} (h : s.Loud origin) : s.Live origin := by
  rcases h with hopening | ⟨n, task, htask, hactive, horigin, -⟩
  · exact .inl hopening
  · exact .inr ⟨n, task, htask, hactive, horigin⟩

end Session

/-- No open comes back: what has ended or was removed stays so. -/
structure Later (r r' : RelaySession) : Prop where
  tokens : r.session.Extends r'.session
  shutdown : r.shutdown = true → r'.shutdown = true
  slots : ∀ {flowId slot'}, r'.session.targetWriters.lookup flowId = some slot' →
    r.session.flowTokens ≤ slot'.origin ∨
      ∃ slot, r.session.targetWriters.lookup flowId = some slot ∧ slot.origin = slot'.origin
  live : ∀ {origin}, origin < r.session.flowTokens → r'.session.Live origin →
    r.session.Live origin
  loud : ∀ {origin}, origin < r.session.flowTokens → r'.session.Loud origin →
    r.session.Loud origin

variable {r r' r'' : RelaySession}

theorem Alike.opening (h : Alike r r') : r'.session.Opening origin ↔ r.session.Opening origin := by
  simp only [Session.Opening, h.table]

theorem Alike.live (h : Alike r r') : r'.session.Live origin ↔ r.session.Live origin := by
  simp only [Session.Live, h.opening, h.tasks]

theorem Alike.loud (h : Alike r r') : r'.session.Loud origin ↔ r.session.Loud origin := by
  simp only [Session.Loud, h.opening, h.tasks, h.links]

theorem Later.alike (h : Later r r') (ha : Alike r' r'') : Later r r'' where
  tokens := ⟨ha.tokens ▸ h.tokens.tokens, ha.owner ▸ h.tokens.owner⟩
  shutdown := fun hshutdown => ha.shutdown (h.shutdown hshutdown)
  slots := fun hslot => h.slots (ha.table ▸ hslot)
  live := fun hlt hlive => h.live hlt (ha.live.mp hlive)
  loud := fun hlt hloud => h.loud hlt (ha.loud.mp hloud)

theorem Later.refl (r : RelaySession) : Later r r where
  tokens := ⟨Nat.le_refl _, fun _ _ => rfl⟩
  shutdown := id
  slots := fun hslot => .inr ⟨_, hslot, rfl⟩
  live := fun _ => id
  loud := fun _ => id

theorem later_of_slots (hext : r.session.Extends r'.session)
    (hshutdown : r.shutdown = true → r'.shutdown = true)
    (haborts : AbortsStay r.session r'.session)
    (hslots : ∀ {flowId slot'}, r'.session.targetWriters.lookup flowId = some slot' →
      ∃ slot, r.session.targetWriters.lookup flowId = some slot ∧ slot.Same slot')
    (htasks : ∀ {n : Nat} {task'}, r'.session.tasks[n]? = some task' →
      task'.stage.isActive = true → ∃ task, r.session.tasks[n]? = some task ∧
        task.stage.isActive = true ∧ task.origin = task'.origin ∧ task.token = task'.token) :
    Later r r' := by
  have hopening {origin : FlowToken} (h : r'.session.Opening origin) :
      r.session.Opening origin := by
    obtain ⟨flowId, slot', hslot', hopening, horigin⟩ := h
    obtain ⟨slot, hslot, hsame⟩ := hslots hslot'
    exact ⟨flowId, slot, hslot, hsame.isOpening ▸ hopening, hsame.origin ▸ horigin⟩
  refine ⟨hext, hshutdown, ?_, ?_, ?_⟩
  · intro flowId slot' hslot'
    obtain ⟨slot, hslot, hsame⟩ := hslots hslot'
    exact .inr ⟨slot, hslot, hsame.origin.symm⟩
  · rintro origin - (h | ⟨n, task', htask', hactive, horigin⟩)
    · exact .inl (hopening h)
    · obtain ⟨task, htask, hactive', horigin', -⟩ := htasks htask' hactive
      exact .inr ⟨n, task, htask, hactive', horigin'.trans horigin⟩
  · rintro origin - (h | ⟨n, task', htask', hactive, horigin, haborted⟩)
    · exact .inl (hopening h)
    · obtain ⟨task, htask, hactive', horigin', htoken⟩ := htasks htask' hactive
      refine .inr ⟨n, task, htask, hactive', horigin'.trans horigin, ?_⟩
      rw [Bool.eq_false_iff] at haborted ⊢
      exact fun h => haborted (htoken ▸ haborts _ h)

def FlowEvent.tag : FlowEvent → Option (Nat × FlowToken)
  | .openCompleted flowId token _ _ | .udpOpenCompleted flowId token _ _ => some (flowId, token)
  | .readClosed flowId token | .udpReadClosed flowId token => some (flowId, token)
  | .halfCloseDrainExpired flowId token _ | .writeClosed flowId token => some (flowId, token)
  | .udpActivity _ | .inboundDatagram _ _ | .activity => none

/-- A queued event belongs to the flow it names, and a last one to a flow that has ended. -/
def Queued.Sound (s : Session) (queued : Queued) : Prop :=
  ∀ flowId token, queued.event.tag = some (flowId, token) →
    ∃ origin, queued.origin = some origin ∧ s.Owns token origin flowId ∧
      (queued.event.EndsReader token → ¬s.Live origin)

theorem Queued.Sound.later {queued : Queued} (h : queued.Sound r.session) (hlater : Later r r') :
    queued.Sound r'.session := by
  intro flowId token htag
  obtain ⟨origin, horigin, howns, hended⟩ := h flowId token htag
  exact ⟨origin, horigin, howns.extends hlater.tokens,
    fun hends hlive => hended hends (hlater.live howns.origin_lt hlive)⟩

/-- The loop is about to replace an opening slot with its flow. -/
structure Accepting (s : Session) (flow : Established) (script : Script) : Prop where
  script : script = [.establish flow] ∨ ∃ ack, script = [.writeFlow ack flow.token, .establish flow] ∧
    ack.header.id = flow.flowId ∧ isData ack = true ∧ ack.payload = []
  owns : s.Owns flow.token flow.origin flow.flowId
  slot : ∃ cancel, s.targetWriters.lookup flow.flowId = some (openingSlot flow.udp cancel) ∧
    cancel.token = flow.origin ∧ cancel.permit = flow.permit

def ScriptSound (s : Session) (script : Script) : Prop :=
  Modest script ∨ ∃ flow, Accepting s flow script

def LoopSound (r : RelaySession) : Prop :=
  match r.loop with
  | .ready => True
  | .running script => ScriptSound r.session script
  | .stopping | .closed => r.shutdown = true

theorem scriptSound_alike (h : Alike r r') (hscript : ScriptSound r.session script) :
    ScriptSound r'.session script := by
  refine hscript.imp id ?_
  rintro ⟨flow, haccepting⟩
  refine ⟨flow, haccepting.script, ?_, ?_⟩
  · simpa only [Session.Owns, h.tokens, h.owner] using haccepting.owns
  · simpa only [h.table] using haccepting.slot

theorem loopSound_stop (r : RelaySession) : LoopSound r.stop := rfl

theorem loopSound_resume (hscript : ScriptSound r.session script) :
    LoopSound (r.resume script) := by
  unfold RelaySession.resume
  split
  · split
    · rfl
    · trivial
  · exact hscript

theorem LoopSound.tail (h : LoopSound r) (hloop : r.loop = .running (instr :: rest))
    (hinstr : ∀ error, instr ≠ .fail error) : ScriptSound r.session rest := by
  unfold LoopSound at h
  rw [hloop] at h
  rcases h with hmodest | ⟨flow, haccepting⟩
  · cases instr with
    | write frame logged | remove flowId => exact .inl hmodest
    | writeFlow frame token | establish flow => exact hmodest.elim
    | fail error => exact absurd rfl (hinstr error)
  · rcases haccepting.script with hscript | ⟨ack, hscript, -⟩
    · cases hscript
      exact .inl trivial
    · cases hscript
      exact .inr ⟨flow, .inl rfl, haccepting.owns, haccepting.slot⟩

theorem LoopSound.tail_frame (h : LoopSound r) (hloop : r.loop = .running (instr :: rest))
    (hframe : instr.frame? = some frame) : ScriptSound r.session rest :=
  h.tail hloop fun error heq => by simp [heq, Instr.frame?] at hframe

theorem LoopSound.establish (h : LoopSound r) (hloop : r.loop = .running (.establish flow :: rest)) :
    rest = [] ∧ r.session.Owns flow.token flow.origin flow.flowId ∧
      ∃ cancel, r.session.targetWriters.lookup flow.flowId = some (openingSlot flow.udp cancel) ∧
        cancel.token = flow.origin ∧ cancel.permit = flow.permit := by
  unfold LoopSound at h
  rw [hloop] at h
  rcases h with hmodest | ⟨flow', haccepting⟩
  · exact hmodest.elim
  · rcases haccepting.script with hscript | ⟨ack, hscript, -⟩
    · cases hscript
      exact ⟨rfl, haccepting.owns, haccepting.slot⟩
    · cases hscript

theorem LoopSound.modest_rest (h : LoopSound r)
    (hloop : r.loop = .running (.remove flowId :: rest)) : Modest rest := by
  unfold LoopSound at h
  rw [hloop] at h
  rcases h with hmodest | ⟨flow, haccepting⟩
  · exact hmodest
  · rcases haccepting.script with hscript | ⟨ack, hscript, -⟩ <;> cases hscript

/-- The invariant of every run. -/
structure Sound (r : RelaySession) : Prop where
  tagged : Tagged r.session
  voiced : Voiced r.shutdown r.session
  events : ∀ queued ∈ r.events, queued.Sound r.session
  loop : LoopSound r

theorem Sound.start : Sound .start where
  tagged := .start
  voiced := .start
  events := fun queued h => by cases h
  loop := trivial

theorem Sound.move (h : Sound r) (hlater : Later r r') (htagged : Tagged r'.session)
    (hvoiced : Voiced r'.shutdown r'.session)
    (hevents : ∀ queued ∈ r'.events, queued ∈ r.events ∨ queued.Sound r'.session)
    (hloop : LoopSound r') : Sound r' where
  tagged := htagged
  voiced := hvoiced
  events := fun queued hqueued => by
    rcases hevents queued hqueued with hold | hnew
    · exact (h.events queued hold).later hlater
    · exact hnew
  loop := hloop

theorem Sound.alike (h : Sound r) (ha : Alike r r')
    (hevents : ∀ queued ∈ r'.events, queued ∈ r.events ∨ queued.Sound r'.session)
    (hloop : LoopSound r') : Sound r' ∧ Later r r' := by
  have hlater : Later r r' := (Later.refl r).alike ha
  have htagged : Tagged r'.session :=
    h.tagged.extends hlater.tokens ha.table ha.tasks
  refine ⟨h.move hlater htagged ?_ hevents hloop, hlater⟩
  constructor
  · intro n task htask hactive
    rw [ha.tasks] at htask
    rw [ha.links, ha.table]
    exact (h.voiced.active htask hactive).imp ha.shutdown id
  · intro n task frames htask hstage
    rw [ha.tasks] at htask
    rw [ha.links]
    exact h.voiced.reporting htask hstage

theorem LoopSound.same (h : LoopSound r) (ha : Alike r r') (hloop : r'.loop = r.loop) :
    LoopSound r' := by
  unfold LoopSound at h ⊢
  rw [hloop]
  cases hstage : r.loop with
  | ready => trivial
  | running script =>
    rw [hstage] at h
    exact scriptSound_alike ha h
  | stopping =>
    rw [hstage] at h
    exact ha.shutdown h
  | closed =>
    rw [hstage] at h
    exact ha.shutdown h

theorem Sound.ended (h : Sound r) {ended : FlowToken → Prop}
    (hended : ∀ token, ended token → ∃ queued ∈ r.events, queued.event.EndsReader token)
    (htoken : ended token) {n : Nat} (htask : r.session.tasks[n]? = some task)
    (hactive : task.stage.isActive = true) : task.token ≠ token := by
  obtain ⟨queued, hqueued, flowId, hevent⟩ := hended token htoken
  obtain ⟨origin, -, howns, hquiet⟩ :=
    h.events queued hqueued flowId token (by simp [hevent, FlowEvent.tag])
  rintro rfl
  have horigin := (h.tagged.taskOwns htask).origin_eq howns
  exact hquiet ⟨flowId, hevent⟩ (.inr ⟨n, task, htask, hactive, horigin⟩)

theorem Sound.resume (h : Sound { r with loop := .ready }) (hscript : ScriptSound r.session script) :
    Sound (r.resume script) := by
  have halike := resume_alike r script
  refine (h.alike ⟨halike.table, halike.tasks, halike.links, halike.owner, halike.tokens,
    halike.shutdown⟩ ?_ (loopSound_resume hscript)).1
  intro queued hqueued
  rw [resume_events] at hqueued
  exact .inl hqueued

theorem Later.idle (h : Later r r') : Later r { r' with loop := .ready } :=
  ⟨h.tokens, h.shutdown, h.slots, h.live, h.loud⟩

theorem Sound.kept (h : Sound r) {ended : FlowToken → Prop} {s' : Session} {events : List Queued}
    {script : Script} (hevents : events <:+ r.events)
    (hended : ∀ token, ended token → ∃ queued ∈ r.events, queued.event.EndsReader token)
    (hkept : Kept ended r.session s') (hscript : ScriptSound s' script) :
    Sound ({ r with events := events }.handle (s', script)) ∧
      Later r ({ r with events := events }.handle (s', script)) := by
  let handled : RelaySession := { r with events := events, session := s' }
  have hlater : Later r handled := by
    refine later_of_slots hkept.extends id hkept.aborts hkept.slots ?_
    obtain ⟨timers, htasks, htimers⟩ := hkept.tasks
    intro n task' htask' hactive
    rw [show handled.session.tasks = _ from htasks] at htask'
    rcases timers_quiet htimers htask' with htask | hsleeping
    · exact ⟨task', htask, hactive, rfl, rfl⟩
    · simp [hsleeping, TaskStage.isActive] at hactive
  have hvoiced : Voiced r.shutdown s' :=
    h.voiced.kept hkept fun token htoken => h.ended hended htoken
  have hsound : Sound { handled with loop := .ready } :=
    h.move hlater.idle (h.tagged.kept hkept) hvoiced
      (fun queued hqueued => .inl (hevents.subset hqueued)) trivial
  exact ⟨hsound.resume hscript, hlater.alike (resume_alike handled script)⟩

theorem Sound.opened (h : Sound r) {frame : Frame}
    (hadmitted : Admitted context env frame r.session udp target permit) :
    let opened := r.handle (r.session.openSlot udp frame.header.id target permit, [])
    Sound opened ∧ Later r opened := by
  let opened : RelaySession :=
    { r with session := r.session.openSlot udp frame.header.id target permit }
  have hopening {origin : FlowToken} (hlt : origin < r.session.flowTokens)
      (hopening : opened.session.Opening origin) : r.session.Opening origin := by
    obtain ⟨flowId, slot, hslot, hslotOpening, horigin⟩ := hopening
    rcases openSlot_lookup.mp hslot with ⟨-, rfl⟩ | ⟨-, hslot⟩
    · rw [openingSlot_origin] at horigin
      exact absurd horigin.symm (Nat.ne_of_lt hlt)
    · exact ⟨flowId, slot, hslot, hslotOpening, horigin⟩
  have hlater : Later r opened := by
    refine ⟨openSlot_extends _ _ _ _ _, id, ?_, ?_, ?_⟩
    · intro flowId slot hslot
      rcases openSlot_lookup.mp hslot with ⟨-, rfl⟩ | ⟨-, hslot⟩
      · exact .inl (by simp)
      · exact .inr ⟨slot, hslot, rfl⟩
    · rintro origin hlt (hopen | ⟨n, task, htask, hactive, horigin⟩)
      · exact .inl (hopening hlt hopen)
      · rcases openSlot_tasks htask with htask | ⟨-, -, -, -, hstage⟩
        · exact .inr ⟨n, task, htask, hactive, horigin⟩
        · simp [hstage, TaskStage.isActive] at hactive
    · rintro origin hlt (hopen | ⟨n, task, htask, hactive, horigin, haborted⟩)
      · exact .inl (hopening hlt hopen)
      · rcases openSlot_tasks htask with htask | ⟨-, -, -, -, hstage⟩
        · exact .inr ⟨n, task, htask, hactive, horigin, haborted⟩
        · simp [hstage, TaskStage.isActive] at hactive
  have hsound : Sound { opened with loop := .ready } :=
    h.move hlater.idle (h.tagged.openSlot hadmitted.client udp target permit)
      (h.voiced.openSlot hadmitted.free udp target permit) (fun _ hqueued => .inl hqueued) trivial
  exact ⟨hsound.resume (.inl trivial), hlater.alike (resume_alike opened [])⟩

theorem acceptOpen_script {cancel : OpenFlowCancel} {s : Session} (htagged : Tagged s)
    (hslot : s.targetWriters.lookup flowId = some (openingSlot udp cancel)) (socket : Socket) :
    ScriptSound (acceptOpen udp flowId cancel socket s).1
      (acceptOpen udp flowId cancel socket s).2 := by
  have howns := htagged.slotOwns hslot
  rw [openingSlot_token, openingSlot_origin] at howns
  have hext := allocate_extends s cancel.token flowId
  simp only [acceptOpen, sendOpened]
  split
  · rename_i ack hack
    obtain ⟨htype, hid, -, hpayload⟩ := frame_new_ok hack
    refine .inr ⟨⟨udp, flowId, s.flowTokens, cancel.token, cancel.permit, socket⟩,
      .inr ⟨ack, rfl, hid, ?_, hpayload⟩, ⟨?_, ?_, ?_, ?_⟩, cancel, hslot, rfl, rfl⟩
    · unfold isData
      rw [htype]
      split <;> rfl
    · exact Nat.lt_succ_self _
    · exact (howns.extends hext).origin_lt
    · exact allocate_owner s cancel.token flowId
    · exact (howns.extends hext).origin_owner
  · exact .inl trivial

theorem Sound.accept (h : Sound r) {cancel : OpenFlowCancel} {events : List Queued}
    (hevents : r.events = queued :: events)
    (hslot : r.session.targetWriters.lookup flowId = some (openingSlot udp cancel))
    (socket : Socket) :
    let accepted := { r with events := events }.handle
      (acceptOpen udp flowId cancel socket r.session)
    Sound accepted ∧ Later r accepted := by
  let accepted : RelaySession :=
    { r with events := events, session := (acceptOpen udp flowId cancel socket r.session).1 }
  have hext : r.session.Extends accepted.session :=
    ⟨(allocate_extends r.session cancel.token flowId).tokens,
      (allocate_extends r.session cancel.token flowId).owner⟩
  have hlater : Later r accepted := by
    refine ⟨hext, id, fun hslot => .inr ⟨_, hslot, rfl⟩, fun _ hlive => hlive, ?_⟩
    rintro origin - (hopening | ⟨n, task, htask, hactive, horigin, haborted⟩)
    · exact .inl hopening
    · refine .inr ⟨n, task, htask, hactive, horigin, ?_⟩
      rwa [show accepted.session.links task.token = r.session.links task.token from
        Function.update_of_ne (Nat.ne_of_lt (h.tagged.taskOwns htask).token_lt) _ _] at haborted
  have hsound : Sound { accepted with loop := .ready } := by
    refine h.move hlater.idle (h.tagged.extends hext rfl rfl)
      (h.voiced.newLink h.tagged cancel.token flowId .new) ?_ trivial
    intro queued' hqueued
    rw [hevents]
    exact .inl (List.mem_cons_of_mem _ hqueued)
  exact ⟨hsound.resume (acceptOpen_script h.tagged hslot socket),
    hlater.alike (resume_alike accepted _)⟩

theorem Sound.establish (h : Sound r) (hloop : r.loop = .running (.establish flow :: rest))
    (now : Instant) :
    let established := r.handle (r.session.establish flow now, rest)
    Sound established ∧ Later r established := by
  obtain ⟨rfl, howns, cancel, hslot, hcancel, -⟩ := h.loop.establish hloop
  let established : RelaySession := { r with session := r.session.establish flow now }
  have horigin : flow.origin = (openingSlot flow.udp cancel).origin := by simp [hcancel]
  have hopening {origin : FlowToken} (hopening : established.session.Opening origin) :
      r.session.Opening origin := by
    obtain ⟨flowId, slot, hslot', hslotOpening, hslotOrigin⟩ := hopening
    rcases establish_lookup.mp hslot' with ⟨-, rfl⟩ | ⟨-, hslot'⟩
    · simp at hslotOpening
    · exact ⟨flowId, slot, hslot', hslotOpening, hslotOrigin⟩
  have hpending : r.session.Opening flow.origin :=
    ⟨flow.flowId, _, hslot, by simp, horigin.symm⟩
  have hlater : Later r established := by
    refine ⟨⟨Nat.le_refl _, fun _ _ => rfl⟩, id, ?_, ?_, ?_⟩
    · intro flowId slot hslot'
      rcases establish_lookup.mp hslot' with ⟨rfl, rfl⟩ | ⟨-, hslot'⟩
      · exact .inr ⟨_, hslot, by simp [hcancel]⟩
      · exact .inr ⟨slot, hslot', rfl⟩
    · rintro origin - (hopen | ⟨n, task, htask, hactive, htaskOrigin⟩)
      · exact .inl (hopening hopen)
      · rcases establish_tasks htask with htask | ⟨-, -, hnew, -⟩
        · exact .inr ⟨n, task, htask, hactive, htaskOrigin⟩
        · exact .inl (htaskOrigin ▸ hnew ▸ hpending)
    · rintro origin - (hopen | ⟨n, task, htask, hactive, htaskOrigin, haborted⟩)
      · exact .inl (hopening hopen)
      · rcases establish_tasks htask with htask | ⟨-, -, hnew, -⟩
        · exact .inr ⟨n, task, htask, hactive, htaskOrigin, haborted⟩
        · exact .inl (htaskOrigin ▸ hnew ▸ hpending)
  have hsound : Sound { established with loop := .ready } :=
    h.move hlater.idle (h.tagged.establish hslot (by simp) howns horigin now)
      (h.voiced.establish hslot (by simp) now) (fun _ hqueued => .inl hqueued) trivial
  exact ⟨hsound.resume (.inl trivial), hlater.alike (resume_alike established [])⟩

theorem Sound.closeFlows (h : Sound r) (hloop : r.loop = .stopping) (context : RelayContext) :
    let closed : RelaySession :=
      { r with session := closeTargetFlows context r.session, loop := .closed }
    Sound closed ∧ Later r closed := by
  have hshutdown : r.shutdown = true := by
    have hloopSound := h.loop
    unfold LoopSound at hloopSound
    rwa [hloop] at hloopSound
  have hhushed := closeTargetFlows_hushed context r.session
  have hempty {flowId : Nat} {slot : FlowSlot}
      (hslot : (closeTargetFlows context r.session).targetWriters.lookup flowId = some slot) :
      False := by simp [closeTargetFlows] at hslot
  have hlater : Later r { r with session := closeTargetFlows context r.session, loop := .closed } := by
    refine later_of_slots ⟨hhushed.tokens.ge, fun _ _ => congrFun hhushed.owner _⟩ id
      hhushed.aborts (fun hslot => (hempty hslot).elim) ?_
    intro n task htask hactive
    rw [show (closeTargetFlows context r.session).tasks = _ from hhushed.tasks] at htask
    exact ⟨task, htask, hactive, rfl, rfl⟩
  refine ⟨h.move hlater (h.tagged.closeTargetFlows context) ?_ (fun _ hqueued => .inl hqueued)
    hshutdown, hlater⟩
  simp only [hshutdown]
  exact (h.voiced.mono fun _ => rfl).closeTargetFlows context

/-- One move of task `n`, which may queue one event. -/
structure TaskMoved (r : RelaySession) (n : Nat) (task : Task) (stage : TaskStage)
    (r' : RelaySession) : Prop where
  tasks : r'.session.tasks = r.session.tasks.set n { task with stage := stage }
  table : r'.session.targetWriters = r.session.targetWriters
  owner : r'.session.owner = r.session.owner
  tokens : r'.session.flowTokens = r.session.flowTokens
  aborts : AbortsStay r.session r'.session
  staged : { task with stage := stage }.WellStaged
  active : stage.isActive = true → task.stage.isActive = true
  ending : ∀ event, stage = .ending event → task.isOpen = true →
    ∃ result, task.stage = .dialed result ∧ event = task.openEvent result
  reporting : ∀ frames, stage = .reporting frames →
    (r'.session.links task.token).aborted = true
  told : r'.events = r.events ∨ (∃ event, r'.events = r.events ++ [⟨some task.origin, event⟩] ∧
    (event.tag = none ∨ task.stage = .ending event ∧ stage = .done))
  loop : r'.loop = r.loop
  carrier : r'.carrier = r.carrier
  shutdown : r'.shutdown = r.shutdown

section

variable {task : Task} {stage : TaskStage} (h : task.Next shutdown stage)
include h

theorem Task.Next.staged (hstaged : task.WellStaged) : { task with stage := stage }.WellStaged := by
  unfold Task.WellStaged at hstaged
  cases h with
  | done h => trivial
  | dialed h =>
    rw [h] at hstaged
    exact .inl ⟨hstaged, _, rfl⟩
  | woken h =>
    rcases h with h | h | h <;> rw [h] at hstaged
    · exact .inr ⟨isTimer_not_open hstaged, rfl⟩
    · exact .inr ⟨isReader_not_open hstaged, rfl⟩
    · exact .inr ⟨hstaged.1, rfl⟩
  | sends h hframe =>
    rw [h] at hstaged
    exact ⟨hstaged, hframe⟩
  | sent h hframe =>
    rw [h] at hstaged
    exact .inr ⟨isReader_not_open hstaged.1, rfl⟩
  | reported h =>
    rw [h] at hstaged
    exact ⟨hstaged.1, fun frame hframe => hstaged.2 frame (List.mem_cons_of_mem _ hframe)⟩

theorem Task.Next.active (hactive : stage.isActive = true) : task.stage.isActive = true := by
  cases h with
  | sends h hframe => simp [h, TaskStage.isActive]
  | _ => simp [TaskStage.isActive] at hactive

theorem Task.Next.ending
    (hstaged : task.WellStaged) (event : FlowEvent) (hstage : stage = .ending event)
    (hopen : task.isOpen = true) :
    ∃ result, task.stage = .dialed result ∧ event = task.openEvent result := by
  unfold Task.WellStaged at hstaged
  cases h with
  | dialed h =>
    cases hstage
    exact ⟨_, h, rfl⟩
  | woken h =>
    rcases h with h | h | h <;> rw [h] at hstaged
    · simp [isTimer_not_open hstaged] at hopen
    · simp [isReader_not_open hstaged] at hopen
    · simp [hstaged.1] at hopen
  | sent h hframe =>
    rw [h] at hstaged
    simp [isReader_not_open hstaged.1] at hopen
  | _ => cases hstage

end

theorem taskMoved_setStage {n : Nat} {stage : TaskStage} (links : FlowToken → TargetLink)
    (haborts : AbortsStay r.session { r.session with links := links })
    (hstaged : { task with stage := stage }.WellStaged)
    (hactive : stage.isActive = true → task.stage.isActive = true)
    (hending : ∀ event, stage = .ending event → task.isOpen = true →
      ∃ result, task.stage = .dialed result ∧ event = task.openEvent result)
    (hreporting : ∀ frames, stage = .reporting frames → (links task.token).aborted = true) :
    TaskMoved r n task stage
      ({ r with session := { r.session with links := links } }.setStage n task stage) :=
  ⟨rfl, rfl, rfl, rfl, haborts, hstaged, hactive, hending, hreporting, .inl rfl, rfl, rfl, rfl⟩

theorem TaskMoved.push {n : Nat} {stage : TaskStage} {event : FlowEvent}
    (h : TaskMoved r n task stage r') (hevents : r'.events = r.events)
    (htag : event.tag = none ∨ task.stage = .ending event ∧ stage = .done) :
    TaskMoved r n task stage (r'.push task event) where
  tasks := h.tasks
  table := h.table
  owner := h.owner
  tokens := h.tokens
  aborts := h.aborts
  staged := h.staged
  active := h.active
  ending := h.ending
  reporting := h.reporting
  told := .inr ⟨event, by rw [← hevents]; rfl, htag⟩
  loop := h.loop
  carrier := h.carrier
  shutdown := h.shutdown

theorem RelaySession.taskMoved_done (r : RelaySession) (n : Nat) (task : Task) :
    TaskMoved r n task .done (r.setStage n task .done) :=
  taskMoved_setStage r.session.links (fun _ h => h) trivial (by simp [TaskStage.isActive])
    (by simp) (by simp)

theorem failTask_moved {n : Nat} (hstaged : task.WellStaged) (h : task.stage.isRelaying = true) :
    ∃ stage, TaskMoved r n task stage (r.failTask n task) ∧ ∀ result, stage ≠ .dialed result := by
  have hopen := hstaged.relaying h
  unfold RelaySession.failTask
  split
  · refine ⟨_, taskMoved_setStage r.session.links (fun _ h => h) (.inr ⟨hopen, rfl⟩) ?_ ?_ ?_, ?_⟩
    · simp [TaskStage.isActive]
    · simp [hopen]
    · simp
    · simp
  · refine ⟨_, taskMoved_setStage _ (abortsStay_update task.token rfl fun _ => rfl)
      ⟨hopen, reportFrames_reports task⟩ ?_ ?_ ?_, ?_⟩
    · simp [TaskStage.isActive]
    · simp
    · simp [TargetLink.abort]
    · simp

theorem writerStep_aborted {shutdown : Bool} {link link' : TargetLink}
    (h : writerStep shutdown link writer choice = (writer', link', events))
    (haborted : link.aborted = true) : link'.aborted = true := by
  unfold writerStep at h
  repeat' split at h
  all_goals
    cases h
    exact haborted

theorem TaskMoves.moved {n : Nat} (h : TaskMoves r n task r') (hstaged : task.WellStaged)
    (hreporting : ∀ frames, task.stage = .reporting frames →
      (r.session.links task.token).aborted = true) :
    ∃ stage, TaskMoved r n task stage r' ∧ ∀ result, stage ≠ .dialed result := by
  cases h with
  | next h =>
    refine ⟨_, ⟨rfl, rfl, rfl, rfl, fun _ h => h, h.staged hstaged, h.active, h.ending hstaged,
      ?_, .inl rfl, rfl, rfl, rfl⟩, ?_⟩
    · rintro frames rfl
      cases h with
      | reported h => exact hreporting _ h
    · rintro result rfl
      cases h
  | read h recorded =>
    have hreading : TaskMoved r n task .reading (r.setStage n task .reading) :=
      taskMoved_setStage r.session.links (fun _ h => h) (hstaged.active h) (fun _ => h) (by simp)
        (by simp)
    refine ⟨.reading, ?_, by simp⟩
    cases recorded with
    | false => exact hreading
    | true =>
      refine hreading.push rfl (.inl ?_)
      unfold Task.activityEvent
      split <;> rfl
  | failed h => exact failTask_moved hstaged h
  | relayed h choice hwriter hnext =>
    rename_i writer writer' link events
    have hkind : task.kind = .targetWriter := by
      unfold Task.WellStaged at hstaged
      rwa [h] at hstaged
    have hopen : task.isOpen = false := by simp [Task.isOpen, hkind]
    let linked : RelaySession := { r with session :=
      { r.session with links := Function.update r.session.links task.token link } }
    have haborts : AbortsStay r.session linked.session :=
      abortsStay_update task.token rfl (writerStep_aborted hwriter)
    rcases hnext with ⟨-, rfl⟩ | rfl
    · refine ⟨_, taskMoved_setStage linked.session.links haborts (.inr ⟨hopen, rfl⟩) ?_ ?_ ?_, ?_⟩
      · simp [TaskStage.isActive]
      · simp [hopen]
      · simp
      · simp
    · refine ⟨_, taskMoved_setStage linked.session.links haborts hkind ?_ ?_ ?_, ?_⟩
      · simp [TaskStage.isActive]
      · simp
      · simp
      · simp
  | told h =>
    exact ⟨.done, (r.taskMoved_done n task).push rfl (.inr ⟨h, rfl⟩), by simp⟩

theorem taskMoved_dialed {n : Nat} (hstaged : task.WellStaged)
    (hstage : task.stage = .dialing) (result : Except OpenFailure Socket) :
    TaskMoved r n task (.dialed result) (r.setStage n task (.dialed result)) := by
  unfold Task.WellStaged at hstaged
  rw [hstage] at hstaged
  exact taskMoved_setStage r.session.links (fun _ h => h) hstaged (by simp [TaskStage.isActive])
    (by simp) (by simp)

theorem Task.WellStaged.told {event : FlowEvent} {flowId : Nat} {token : FlowToken}
    (h : task.WellStaged) (hstage : task.stage = .ending event)
    (htag : event.tag = some (flowId, token)) :
    flowId = task.flowId ∧ token = task.token ∧
      (event.EndsReader token → task.isReader = true) := by
  unfold Task.WellStaged at h
  rw [hstage] at h
  rcases h with ⟨-, result, rfl⟩ | ⟨-, rfl⟩
  · unfold Task.openEvent at htag ⊢
    split at htag
    · cases htag
      exact ⟨rfl, rfl, nofun⟩
    · cases htag
      exact ⟨rfl, rfl, nofun⟩
    · cases htag
  · unfold Task.closedEvent at htag ⊢
    unfold Task.isReader
    split at htag <;> rename_i hkind <;> cases htag
    · exact ⟨rfl, rfl, fun _ => by simp [hkind]⟩
    · exact ⟨rfl, rfl, fun _ => by simp [hkind]⟩
    · exact ⟨rfl, rfl, nofun⟩
    · exact ⟨rfl, rfl, nofun⟩

theorem Tagged.not_live {s : Session} (h : Tagged s) {n : Nat}
    (htask : s.tasks[n]? = some task) (hreader : task.isReader = true)
    (hactive : task.stage.isActive = false) : ¬s.Live task.origin := by
  rintro (⟨flowId, slot, hslot, hopening, horigin⟩ | ⟨m, other, hother, hactive', horigin⟩)
  · have hopen := h.opening hslot hopening htask horigin.symm
    simp [isOpen_not_reader hopen] at hreader
  · have hindex := h.reader hother htask ((h.staged hother).active hactive') hreader horigin
    subst hindex
    cases htask.symm.trans hother
    simp [hactive] at hactive'

theorem Sound.taskMoved (h : Sound r) {n : Nat} {stage : TaskStage}
    (htask : r.session.tasks[n]? = some task) (hmoved : TaskMoved r n task stage r') :
    Sound r' ∧ Later r r' := by
  have hext : r.session.Extends r'.session :=
    ⟨hmoved.tokens.ge, fun _ _ => congrFun hmoved.owner _⟩
  have hlater : Later r r' := by
    refine later_of_slots hext (fun hshutdown => hmoved.shutdown.trans hshutdown) hmoved.aborts ?_ ?_
    · intro flowId slot' hslot'
      rw [hmoved.table] at hslot'
      exact ⟨slot', hslot', .refl slot'⟩
    · intro m task' htask' hactive
      rw [hmoved.tasks] at htask'
      rcases getElem?_set_cases htask' with ⟨rfl, rfl⟩ | ⟨-, htask'⟩
      · exact ⟨task, htask, hmoved.active hactive, rfl, rfl⟩
      · exact ⟨task', htask', hactive, rfl, rfl⟩
  have htagged : Tagged r'.session :=
    (h.tagged.setStage htask hmoved.staged).extends ⟨hext.tokens, hext.owner⟩ hmoved.table
      hmoved.tasks
  have hvoiced : Voiced r'.shutdown r'.session := by
    rw [hmoved.shutdown]
    exact h.voiced.setStage htask hmoved.tasks hmoved.table hmoved.aborts hmoved.active
      hmoved.reporting
  have halike : LoopSound r' := by
    have hloop := h.loop
    unfold LoopSound at hloop ⊢
    rw [hmoved.loop, hmoved.shutdown]
    cases hstage : r.loop with
    | ready => trivial
    | running script =>
      rw [hstage] at hloop
      refine hloop.imp id ?_
      rintro ⟨flow, haccepting⟩
      refine ⟨flow, haccepting.script, ?_, ?_⟩
      · exact haccepting.owns.extends hext
      · rw [hmoved.table]
        exact haccepting.slot
    | stopping => rwa [hstage] at hloop
    | closed => rwa [hstage] at hloop
  refine ⟨h.move hlater htagged hvoiced ?_ halike, hlater⟩
  intro queued hqueued
  rcases hmoved.told with hevents | ⟨event, hevents, hevent⟩
  · exact .inl (hevents ▸ hqueued)
  · rw [hevents] at hqueued
    rcases List.mem_append.mp hqueued with hqueued | hqueued
    · exact .inl hqueued
    · rw [List.mem_singleton.mp hqueued]
      refine .inr ?_
      intro flowId token htag
      rcases hevent with hnone | ⟨hending, hdone⟩
      · simp [hnone] at htag
      · obtain ⟨rfl, rfl, hends⟩ := (h.tagged.staged htask).told hending htag
        refine ⟨task.origin, rfl, (h.tagged.taskOwns htask).extends hext, ?_⟩
        intro hreader
        have hset : r'.session.tasks[n]? = some { task with stage := stage } := by
          rw [hmoved.tasks, List.getElem?_set_self]
          exact (List.getElem?_eq_some_iff.mp htask).1
        have hquiet : ¬r'.session.Live { task with stage := stage }.origin :=
          htagged.not_live hset (hends hreader) (by simp [hdone, TaskStage.isActive])
        exact hquiet

theorem Sound.moved (h : Sound r) {n : Nat}
    (htask : r.session.tasks[n]? = some task) (hmoves : TaskMoves r n task r') :
    ∃ stage, TaskMoved r n task stage r' ∧ ∀ result, stage ≠ .dialed result :=
  hmoves.moved (h.tagged.staged htask) fun _ => h.voiced.reporting htask

theorem Sound.release (h : Sound r) (outcome : WriteOutcome) :
    Sound (r.release outcome) ∧ Later r (r.release outcome) :=
  have halike := release_alike r outcome
  h.alike halike (fun _ h => .inl h) (h.loop.same halike rfl)

theorem Later.trans (h : Later r r') (h' : Later r' r'') : Later r r'' where
  tokens := ⟨h.tokens.tokens.trans h'.tokens.tokens, fun token hlt =>
    (h'.tokens.owner token (hlt.trans_le h.tokens.tokens)).trans (h.tokens.owner token hlt)⟩
  shutdown := fun hshutdown => h'.shutdown (h.shutdown hshutdown)
  slots := fun hslot => by
    rcases h'.slots hslot with hnew | ⟨slot', hslot', horigin⟩
    · exact .inl (h.tokens.tokens.trans hnew)
    · rw [← horigin]
      exact h.slots hslot'
  live := fun hlt hlive => h.live hlt (h'.live (hlt.trans_le h.tokens.tokens) hlive)
  loud := fun hlt hloud => h.loud hlt (h'.loud (hlt.trans_le h.tokens.tokens) hloud)

theorem Moves.sound (h : Moves context r action r' log) (hsound : Sound r) :
    Sound r' ∧ Later r r' := by
  cases h with
  | stay => exact ⟨hsound, .refl r⟩
  | handled hready hevents hended hkept hmodest hneat =>
    exact hsound.kept hevents hended hkept (.inl hmodest)
  | opened hready hadmitted => exact hsound.opened hadmitted
  | accepted hready hevents hevent hslot => exact hsound.accept hevents hslot _
  | took hloop hframe hfree =>
    have halike : Alike r { r with carrier := some .loop } := ⟨rfl, rfl, rfl, rfl, rfl, id⟩
    exact hsound.alike halike (fun _ h => .inl h) (hsound.loop.same halike rfl)
  | passed hloop hframe hpass =>
    refine hsound.alike (resume_alike r _) ?_
      (loopSound_resume (hsound.loop.tail_frame hloop hframe))
    intro queued hqueued
    rw [resume_events] at hqueued
    exact .inl hqueued
  | wrote outcome hloop hframe hcarrier hnext =>
    have hrest := scriptSound_alike (release_alike r outcome)
      (hsound.loop.tail_frame hloop hframe)
    rcases hnext with rfl | rfl
    · refine hsound.alike ((release_alike r outcome).trans (resume_alike _ _)) ?_
        (loopSound_resume hrest)
      intro queued hqueued
      rw [resume_events] at hqueued
      exact .inl hqueued
    · exact hsound.alike ((release_alike r outcome).trans (stop_alike _)) (fun _ h => .inl h)
        (loopSound_stop _)
  | removed hloop =>
    rename_i flowId rest
    have hkept := @kept_removeFlowSlot (fun _ => False) r.session flowId
    exact hsound.kept List.suffix_rfl (fun _ h => False.elim h) hkept
      (.inl (hsound.loop.modest_rest hloop))
  | established hloop now => exact hsound.establish hloop now
  | stopped hloop =>
    exact hsound.alike (stop_alike r) (fun _ h => .inl h) (loopSound_stop r)
  | closedFlows hloop => exact hsound.closeFlows hloop context
  | aborted hloop htask =>
    rename_i n task
    let freed : RelaySession :=
      { r with carrier := if r.carrier = some (Producer.task n) then none else r.carrier }
    have halike : Alike r freed := ⟨rfl, rfl, rfl, rfl, rfl, id⟩
    obtain ⟨hfreed, hlater⟩ :=
      hsound.alike halike (fun _ h => .inl h) (hsound.loop.same halike rfl)
    obtain ⟨hdone, hlater'⟩ := hfreed.taskMoved htask (freed.taskMoved_done n task)
    exact ⟨hdone, hlater.trans hlater'⟩
  | datagram flowId payload =>
    have halike : Alike r
        { r with events := r.events ++ [⟨none, .inboundDatagram flowId payload⟩] } :=
      ⟨rfl, rfl, rfl, rfl, rfl, id⟩
    refine hsound.alike halike ?_ (hsound.loop.same halike rfl)
    intro queued hqueued
    rcases List.mem_append.mp hqueued with hqueued | hqueued
    · exact .inl hqueued
    · rw [List.mem_singleton.mp hqueued]
      exact .inr nofun
  | taskTook htask hframe hfree hguard =>
    rename_i n frame recorded task
    have halike : Alike r { r with carrier := some (.task n) } := ⟨rfl, rfl, rfl, rfl, rfl, id⟩
    exact hsound.alike halike (fun _ h => .inl h) (hsound.loop.same halike rfl)
  | taskWrote outcome htask hframe hcarrier hnext =>
    obtain ⟨hreleased, hlater⟩ := hsound.release outcome
    obtain ⟨stage, hmoved, -⟩ := hreleased.moved htask hnext
    obtain ⟨hsound', hlater'⟩ := hreleased.taskMoved htask hmoved
    exact ⟨hsound', hlater.trans hlater'⟩
  | taskDialed htask hstage result =>
    exact hsound.taskMoved htask (taskMoved_dialed (hsound.tagged.staged htask) hstage result)
  | taskMoved htask hfree hnext =>
    obtain ⟨stage, hmoved, -⟩ := hsound.moved htask hnext
    exact hsound.taskMoved htask hmoved

theorem run_sound (context : RelayContext) (actions : List RelayAction) :
    Sound (run (RelaySession.step context) .start actions).1 :=
  run_invariant (fun _ r => Sound r)
    (fun _ r action _ h => ((step_moves context r action).sound h).1) Sound.start
    (along_true RelaySession.start actions)

end UncrownedKing.Relay
