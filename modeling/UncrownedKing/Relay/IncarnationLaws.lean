import UncrownedKing.Relay.RunLaws

/-!
# Incarnations of a flow id

Events of tasks of a flow id's earlier flow change nothing.
-/

namespace UncrownedKing.Relay

open Lib Net Proto Auth Server

variable {task : Task}

theorem Sound.event_origin {r : RelaySession} (h : Sound r) {queued : Queued}
    (hqueued : queued ∈ r.events) (htag : queued.event.tag = some (flowId, token))
    (hslot : r.session.targetWriters.lookup flowId = some slot) (htoken : slot.token = token) :
    queued.origin = r.occupant flowId := by
  obtain ⟨origin, horigin, howns, -⟩ := h.events queued hqueued flowId token htag
  have hslotOwns := h.tagged.slotOwns hslot
  rw [htoken] at hslotOwns
  rw [horigin, RelaySession.occupant, hslot, Option.map_some, howns.origin_eq hslotOwns]

theorem stale_event_ignored {r : RelaySession} (h : Sound r) {queued : Queued}
    (hqueued : queued ∈ r.events) (htag : queued.event.tag = some (flowId, token))
    (hstale : queued.origin ≠ r.occupant flowId) (context : RelayContext) (env : HandlerEnv) :
    handleFlowEvent context env queued.event r.session = (r.session, []) := by
  have hforeign {slot : FlowSlot} (hslot : r.session.targetWriters.lookup flowId = some slot) :
      slot.token ≠ token :=
    fun htoken => hstale (h.event_origin hqueued htag hslot htoken)
  cases hevent : queued.event <;> rw [hevent] at htag <;> cases htag <;>
    simp only [handleFlowEvent]
  case openCompleted.refl =>
    unfold handleTcpOpenCompleted
    split
    · rename_i hslot
      exact if_neg (hforeign hslot)
    · rfl
  case udpOpenCompleted.refl =>
    unfold handleUdpOpenCompleted
    split
    · rename_i hslot
      exact if_neg (hforeign hslot)
    · rfl
  case readClosed.refl =>
    unfold handleTargetReadClosed
    split
    · rfl
    · rename_i flow hflow
      have hne : flow.token ≠ token := hforeign (openTargetFlow_eq_some.mp hflow)
      rw [if_pos hne]
  case udpReadClosed.refl =>
    unfold handleUdpReadClosed
    split
    · rfl
    · rename_i flow hflow
      have hne : flow.token ≠ token := hforeign (udpTargetFlow_eq_some.mp hflow)
      rw [if_neg hne]
  case halfCloseDrainExpired.refl =>
    unfold handleHalfCloseDrainExpired
    split
    · rfl
    · rename_i flow hflow
      have hne : flow.token ≠ token := hforeign (openTargetFlow_eq_some.mp hflow)
      rw [if_pos (by simp [hne])]
  case writeClosed.refl =>
    unfold handleTargetWriteClosed
    split
    · rfl
    · rename_i flow hflow
      have hne : flow.token ≠ token := hforeign (openTargetFlow_eq_some.mp hflow)
      rw [if_pos hne]

def openKind (udp : Bool) (target : Target) : TaskKind :=
  if udp then .udpOpen target else .tcpOpen target

def OpenedFor (log : List RelayEvent) (origin : FlowToken) (udp : Bool) (flowId : Nat)
    (target : Target) : Prop :=
  ∃ frame, .opened frame origin ∈ log ∧
    (∀ other, .opened other origin ∈ log → other = frame) ∧ frame.header.id = flowId ∧
    frame.header.frameType = (if udp then .udpOpen else .tcpOpen) ∧
    ∃ openFlags, (openProtocol udp).decode frame.payload = .ok (target, openFlags)

/-- The socket came from the dial that the OPEN of `origin` asked for. -/
def DialedFor (log : List RelayEvent) (origin : FlowToken) (udp : Bool) (flowId : Nat)
    (socket : Socket) : Prop :=
  ∃ target, OpenedFor log origin udp flowId target ∧
    .dialed origin (openKind udp target) (.ok socket) ∈ log

def Queued.Dialed (log : List RelayEvent) (queued : Queued) : Prop :=
  ∀ udp flowId token target result, queued.event = dialEvent udp flowId token target result →
    ∃ origin, queued.origin = some origin ∧ OpenedFor log origin udp flowId target ∧
      .dialed origin (openKind udp target) result ∈ log

structure Task.Dialed (log : List RelayEvent) (task : Task) : Prop where
  opened : ∀ udp target, task.kind = openKind udp target →
    OpenedFor log task.origin udp task.flowId target
  dialed : ∀ result, task.stage = .dialed result → .dialed task.origin task.kind result ∈ log
  ending : ∀ event, task.stage = .ending event → task.isOpen = true →
    ∃ result, event = task.openEvent result ∧ .dialed task.origin task.kind result ∈ log

def Installs (script : Script) (flow : Established) : Prop :=
  script = [.establish flow] ∨ ∃ ack token, script = [.writeFlow ack token, .establish flow]

structure Dials (log : List RelayEvent) (r : RelaySession) : Prop where
  tokens : ∀ frame origin, .opened frame origin ∈ log → origin < r.session.flowTokens
  task : ∀ {n : Nat} {task}, r.session.tasks[n]? = some task → task.Dialed log
  events : ∀ queued ∈ r.events, queued.Dialed log
  loop : ∀ script flow, r.loop = .running script → Installs script flow →
    DialedFor log flow.origin flow.udp flow.flowId flow.socket
  slot : ∀ {flowId slot socket}, r.session.targetWriters.lookup flowId = some slot →
    slot.socket = some socket → DialedFor log slot.origin slot.isUdp flowId socket

def Fresh (s : Session) (log : List RelayEvent) : Prop :=
  ∀ frame origin, .opened frame origin ∈ log → s.flowTokens ≤ origin

variable {log evs : List RelayEvent} {r r' : RelaySession}

section

variable (h : Dials log r) (hfresh : Fresh r.session evs)
include h hfresh

theorem Dials.openedFor (hopenedFor : OpenedFor log origin udp flowId target) :
    OpenedFor (log ++ evs) origin udp flowId target := by
  obtain ⟨frame, hopened, hunique, hrest⟩ := hopenedFor
  refine ⟨frame, List.mem_append_left _ hopened, ?_, hrest⟩
  intro other hother
  rcases List.mem_append.mp hother with hother | hother
  · exact hunique other hother
  · exact absurd (hfresh other origin hother) (Nat.not_le.mpr (h.tokens frame origin hopened))

theorem Dials.dialedFor (hdialedFor : DialedFor log origin udp flowId socket) :
    DialedFor (log ++ evs) origin udp flowId socket := by
  obtain ⟨target, hopenedFor, hdialed⟩ := hdialedFor
  exact ⟨target, h.openedFor hfresh hopenedFor, List.mem_append_left _ hdialed⟩

theorem Dials.queued {queued : Queued}
    (hqueued : queued.Dialed log) : queued.Dialed (log ++ evs) := by
  intro udp flowId token target result hevent
  obtain ⟨origin, horigin, hopenedFor, hdialed⟩ := hqueued udp flowId token target result hevent
  exact ⟨origin, horigin, h.openedFor hfresh hopenedFor, List.mem_append_left _ hdialed⟩

theorem Dials.tasked (htask : task.Dialed log) : task.Dialed (log ++ evs) where
  opened := fun udp target hkind => h.openedFor hfresh (htask.opened udp target hkind)
  dialed := fun result hstage => List.mem_append_left _ (htask.dialed result hstage)
  ending := fun event hstage hopen => by
    obtain ⟨result, hevent, hdialed⟩ := htask.ending event hstage hopen
    exact ⟨result, hevent, List.mem_append_left _ hdialed⟩

theorem Dials.move (htokens : r.session.flowTokens ≤ r'.session.flowTokens)
    (hopened : ∀ frame origin, .opened frame origin ∈ evs → origin < r'.session.flowTokens)
    (htask : ∀ {n : Nat} {task}, r'.session.tasks[n]? = some task →
      r.session.tasks[n]? = some task ∨ task.Dialed (log ++ evs))
    (hevents : ∀ queued ∈ r'.events, queued ∈ r.events ∨ queued.Dialed (log ++ evs))
    (hloop : ∀ script flow, r'.loop = .running script → Installs script flow →
      DialedFor (log ++ evs) flow.origin flow.udp flow.flowId flow.socket)
    (hslot : ∀ {flowId slot' socket}, r'.session.targetWriters.lookup flowId = some slot' →
      slot'.socket = some socket →
      (∃ slot, r.session.targetWriters.lookup flowId = some slot ∧ slot.Same slot') ∨
        DialedFor (log ++ evs) slot'.origin slot'.isUdp flowId socket) : Dials (log ++ evs) r' where
  tokens := fun frame origin hlogged => by
    rcases List.mem_append.mp hlogged with hlogged | hlogged
    · exact Nat.lt_of_lt_of_le (h.tokens frame origin hlogged) htokens
    · exact hopened frame origin hlogged
  task := fun htask' => by
    rcases htask htask' with hold | hnew
    · exact h.tasked hfresh (h.task hold)
    · exact hnew
  events := fun queued hqueued => by
    rcases hevents queued hqueued with hold | hnew
    · exact h.queued hfresh (h.events queued hold)
    · exact hnew
  loop := hloop
  slot := fun hslot' hsocket => by
    rcases hslot hslot' hsocket with ⟨slot, hold, hsame⟩ | hnew
    · rw [hsame.origin, hsame.isUdp]
      exact h.dialedFor hfresh (h.slot hold (hsame.socket ▸ hsocket))
    · exact hnew

end

theorem Modest.not_installs (h : Modest script) : ¬Installs script flow := by
  rintro (rfl | ⟨ack, token, rfl⟩) <;> exact h

theorem LoopSound.installs (h : LoopSound r) (hloop : r.loop = .running (instr :: rest))
    (hinstr : ∀ error, instr ≠ .fail error) {flow : Established} (hinstalls : Installs rest flow) :
    Installs (instr :: rest) flow := by
  unfold LoopSound at h
  rw [hloop] at h
  rcases h with hmodest | ⟨accepted, haccepting⟩
  · refine absurd hinstalls (Modest.not_installs ?_)
    cases instr with
    | write frame logged | remove flowId => exact hmodest
    | writeFlow frame token | establish flow => exact hmodest.elim
    | fail error => exact absurd rfl (hinstr error)
  · rcases haccepting.script with hscript | ⟨ack, hscript, -⟩ <;> cases hscript
    · rcases hinstalls with hnil | ⟨ack, token, hnil⟩ <;> cases hnil
    · rcases hinstalls with hone | ⟨ack, token, htwo⟩
      · cases hone
        exact .inr ⟨ack, _, rfl⟩
      · cases htwo

theorem Dials.alike (h : Dials log r) (halike : Alike r r')
    (hquiet : ∀ frame origin, .opened frame origin ∉ evs)
    (hevents : ∀ queued ∈ r'.events, queued ∈ r.events ∨ queued.event.tag = none)
    (hloop : ∀ script flow, r'.loop = .running script → Installs script flow →
      ∃ script', r.loop = .running script' ∧ Installs script' flow) :
    Dials (log ++ evs) r' := by
  have hfresh : Fresh r.session evs := fun frame origin h => absurd h (hquiet frame origin)
  refine h.move hfresh halike.tokens.ge (fun frame origin h => absurd h (hquiet frame origin))
    ?_ ?_ ?_ ?_
  · intro n task htask
    exact .inl (halike.tasks ▸ htask)
  · intro queued hqueued
    refine (hevents queued hqueued).imp id fun hnone => ?_
    intro udp flowId token target result hevent
    cases udp <;> simp [hevent, dialEvent, FlowEvent.tag] at hnone
  · intro script flow hrunning hinstalls
    obtain ⟨script', hrunning', hinstalls'⟩ := hloop script flow hrunning hinstalls
    exact h.dialedFor hfresh (h.loop script' flow hrunning' hinstalls')
  · intro flowId slot socket hslot hsocket
    exact .inl ⟨slot, halike.table ▸ hslot, .refl slot⟩

theorem Task.dialed_of_not_open (hopen : task.isOpen = false)
    (hstage : ∀ result, task.stage ≠ .dialed result) : task.Dialed log where
  opened := fun udp target hkind => by cases udp <;> simp [Task.isOpen, hkind, openKind] at hopen
  dialed := fun result h => absurd h (hstage result)
  ending := fun _ _ h => by simp [hopen] at h

theorem Dials.kept (h : Dials log r) {s' : Session} {events : List Queued} {script : Script}
    (hevents : events <:+ r.events) (hkept : Kept ended r.session s') (hmodest : Modest script) :
    Dials log ({ r with events := events }.handle (s', script)) := by
  have halike := resume_alike { r with events := events, session := s' } script
  have hmove : Dials (log ++ []) ({ r with events := events }.handle (s', script)) := by
    refine h.move nofun ?_ nofun ?_ ?_ ?_ ?_
    · rw [RelaySession.handle, halike.tokens]
      exact hkept.tokens.ge
    · obtain ⟨timers, htasks, htimers⟩ := hkept.tasks
      intro n task htask
      rw [RelaySession.handle, halike.tasks, htasks, List.getElem?_append] at htask
      split at htask
      · exact .inl htask
      · obtain ⟨slot, -, htimer⟩ := htimers task (List.mem_of_getElem? htask)
        obtain ⟨closedSide, hkind⟩ := htimer.kind
        refine .inr (Task.dialed_of_not_open (by simp [Task.isOpen, hkind]) ?_)
        simp [htimer.stage]
    · intro queued hqueued
      rw [RelaySession.handle, resume_events] at hqueued
      exact .inl (hevents.subset hqueued)
    · intro script' flow hrunning hinstalls
      rw [resume_running hrunning] at hinstalls
      exact absurd hinstalls hmodest.not_installs
    · intro flowId slot' socket hslot' _
      rw [RelaySession.handle, halike.table] at hslot'
      exact .inl (hkept.slots hslot')
  simpa using hmove

theorem Dials.opened (h : Dials log r) {frame : Frame}
    (hadmitted : Admitted context env frame r.session udp target permit) :
    Dials (log ++ [.opened frame r.session.flowTokens])
      (r.handle (r.session.openSlot udp frame.header.id target permit, [])) := by
  have halike :=
    resume_alike { r with session := r.session.openSlot udp frame.header.id target permit } []
  have hext := openSlot_extends r.session udp frame.header.id target permit
  have hopenedFor : OpenedFor (log ++ [.opened frame r.session.flowTokens]) r.session.flowTokens
      udp frame.header.id target := by
    refine ⟨frame, by simp, ?_, rfl, hadmitted.frameType, hadmitted.decoded⟩
    intro other hother
    rcases List.mem_append.mp hother with hother | hother
    · exact absurd (h.tokens other _ hother) (Nat.lt_irrefl _)
    · cases List.mem_singleton.mp hother
      rfl
  refine h.move ?_ ?_ ?_ ?_ ?_ ?_ ?_
  · intro other origin hother
    cases List.mem_singleton.mp hother
    exact Nat.le_refl _
  · rw [RelaySession.handle, halike.tokens]
    exact hext.tokens
  · intro other origin hother
    cases List.mem_singleton.mp hother
    rw [RelaySession.handle, halike.tokens]
    exact Nat.lt_succ_self _
  · intro n task htask
    rw [RelaySession.handle, halike.tasks] at htask
    rcases getElem?_concat htask with hold | ⟨-, rfl⟩
    · exact .inl hold
    · refine .inr ⟨?_, nofun, nofun⟩
      intro udp' target' hkind
      have hsame : udp' = udp ∧ target' = target := by
        cases udp <;> cases udp' <;> simp_all [openKind]
      rw [hsame.1, hsame.2]
      exact hopenedFor
  · intro queued hqueued
    rw [RelaySession.handle, resume_events] at hqueued
    exact .inl hqueued
  · intro script flow hrunning hinstalls
    rw [resume_running hrunning] at hinstalls
    exact absurd hinstalls (Modest.not_installs (show Modest [] from trivial))
  · intro flowId slot socket hslot hsocket
    rw [RelaySession.handle, halike.table] at hslot
    rcases openSlot_lookup.mp hslot with ⟨-, rfl⟩ | ⟨-, hslot⟩
    · cases udp <;> cases hsocket
    · exact .inl ⟨slot, hslot, .refl slot⟩

theorem dialEvent_tag (udp : Bool) (flowId : Nat) (token : FlowToken) (target : Target)
    (result : Except OpenFailure Socket) :
    (dialEvent udp flowId token target result).tag = some (flowId, token) := by
  cases udp <;> rfl

theorem Dials.accepted (h : Dials log r) (hsound : Sound r) {cancel : OpenFlowCancel}
    {queued : Queued} {events : List Queued} (hevents : r.events = queued :: events)
    (hevent : queued.event = dialEvent udp flowId cancel.token target (.ok socket))
    (hslot : r.session.targetWriters.lookup flowId = some (openingSlot udp cancel)) :
    Dials log ({ r with events := events }.handle
      (acceptOpen udp flowId cancel socket r.session)) := by
  have hqueued : queued ∈ r.events := by simp [hevents]
  have hdialedFor : DialedFor log cancel.token udp flowId socket := by
    obtain ⟨origin, horigin, hopenedFor, hdialed⟩ :=
      h.events queued hqueued udp flowId cancel.token target (.ok socket) hevent
    have htag : queued.event.tag = some (flowId, cancel.token) := by
      rw [hevent, dialEvent_tag]
    have hoccupant := hsound.event_origin hqueued htag hslot (by simp)
    rw [horigin, RelaySession.occupant, hslot, Option.map_some, openingSlot_origin] at hoccupant
    cases hoccupant
    exact ⟨target, hopenedFor, hdialed⟩
  have halike := resume_alike
    { r with events := events, session := (acceptOpen udp flowId cancel socket r.session).1 }
    (acceptOpen udp flowId cancel socket r.session).2
  have hmove : Dials (log ++ []) ({ r with events := events }.handle
      (acceptOpen udp flowId cancel socket r.session)) := by
    refine h.move nofun ?_ nofun ?_ ?_ ?_ ?_
    · rw [RelaySession.handle, halike.tokens]
      exact Nat.le_succ _
    · intro n task htask
      rw [RelaySession.handle, halike.tasks] at htask
      exact .inl htask
    · intro other hother
      rw [RelaySession.handle, resume_events] at hother
      rw [hevents]
      exact .inl (List.mem_cons_of_mem _ hother)
    · intro script flow hrunning hinstalls
      rw [resume_running hrunning, List.append_nil] at *
      simp only [acceptOpen, sendOpened] at hinstalls
      split at hinstalls
      · rcases hinstalls with hone | ⟨ack, token, htwo⟩
        · cases hone
        · cases htwo
          exact hdialedFor
      · rcases hinstalls with hone | ⟨ack, token, htwo⟩
        · cases hone
        · cases htwo
    · intro other slot found hother _
      rw [RelaySession.handle, halike.table] at hother
      exact .inl ⟨slot, hother, .refl slot⟩
  simpa using hmove

@[simp] theorem slot_socket (flow : Established) (now : Instant) :
    (flow.slot now).socket = some flow.socket := by
  unfold Established.slot
  split <;> rfl

theorem Dials.established (h : Dials log r) (hsound : Sound r)
    (hloop : r.loop = .running (.establish flow :: rest)) (now : Instant) :
    Dials log (r.handle (r.session.establish flow now, rest)) := by
  obtain ⟨rfl, -⟩ := hsound.loop.establish hloop
  have hdialedFor := h.loop _ flow hloop (.inl rfl)
  have halike := resume_alike { r with session := r.session.establish flow now } []
  have hmove : Dials (log ++ []) (r.handle (r.session.establish flow now, [])) := by
    refine h.move nofun ?_ nofun ?_ ?_ ?_ ?_
    · rw [RelaySession.handle, halike.tokens]
      exact Nat.le_refl _
    · intro n task htask
      rw [RelaySession.handle, halike.tasks] at htask
      rcases establish_tasks htask with hold | ⟨-, -, -, -, hopen, hstage⟩
      · exact .inl hold
      · refine .inr (Task.dialed_of_not_open hopen ?_)
        rcases hstage with ⟨-, hstage⟩ | hstage <;> simp [hstage]
    · intro queued hqueued
      rw [RelaySession.handle, resume_events] at hqueued
      exact .inl hqueued
    · intro script flow hrunning hinstalls
      rw [resume_running hrunning] at hinstalls
      exact absurd hinstalls (Modest.not_installs (show Modest [] from trivial))
    · intro flowId slot socket hslot hsocket
      rw [RelaySession.handle, halike.table] at hslot
      rcases establish_lookup.mp hslot with ⟨rfl, rfl⟩ | ⟨-, hslot⟩
      · rw [slot_socket] at hsocket
        cases hsocket
        simpa using .inr hdialedFor
      · exact .inl ⟨slot, hslot, .refl slot⟩
  simpa using hmove

theorem openEvent_eq_dialEvent (hopen : task.isOpen = true)
    (h : task.openEvent result' = dialEvent udp flowId token target result) :
    task.kind = openKind udp target ∧ task.flowId = flowId ∧ result' = result := by
  unfold Task.isOpen at hopen
  unfold Task.openEvent at h
  cases udp <;> split at h <;> simp_all [dialEvent, openKind]

theorem closedEvent_ne_dialEvent (task : Task) :
    task.closedEvent ≠ dialEvent udp flowId token target result := by
  unfold Task.closedEvent
  cases udp <;> split <;> simp [dialEvent]

theorem Dials.taskMoved (h : Dials log r) (hsound : Sound r) {n : Nat}
    {stage : TaskStage} (htask : r.session.tasks[n]? = some task)
    (hmoved : TaskMoved r n task stage r') (hquiet : ∀ frame origin, .opened frame origin ∉ evs)
    (hdialed : ∀ result, stage = .dialed result →
      .dialed task.origin task.kind result ∈ log ++ evs) : Dials (log ++ evs) r' := by
  have hfresh : Fresh r.session evs := fun frame origin h => absurd h (hquiet frame origin)
  have hbefore := h.tasked hfresh (h.task htask)
  refine h.move hfresh hmoved.tokens.ge (fun frame origin h => absurd h (hquiet frame origin))
    ?_ ?_ ?_ ?_
  · intro m moved hmovedTask
    rw [hmoved.tasks] at hmovedTask
    rcases getElem?_set_cases hmovedTask with ⟨-, rfl⟩ | ⟨-, hold⟩
    · refine .inr ⟨hbefore.opened, hdialed, ?_⟩
      intro event hstage hopen
      obtain ⟨result, hold, hevent⟩ := hmoved.ending event hstage hopen
      exact ⟨result, hevent, hbefore.dialed result hold⟩
    · exact .inl hold
  · intro queued hqueued
    rcases hmoved.told with hevents | ⟨event, hevents, hevent⟩
    · exact .inl (hevents ▸ hqueued)
    · rw [hevents] at hqueued
      rcases List.mem_append.mp hqueued with hqueued | hqueued
      · exact .inl hqueued
      · rw [List.mem_singleton.mp hqueued]
        refine .inr ?_
        intro udp flowId token target result hdialEvent
        rcases hevent with hnone | ⟨hending, -⟩
        · rw [show event = _ from hdialEvent, dialEvent_tag] at hnone
          cases hnone
        · have hstaged := hsound.tagged.staged htask
          unfold Task.WellStaged at hstaged
          rw [hending] at hstaged
          rcases hstaged with ⟨hopen, -⟩ | ⟨-, hclosed⟩
          · obtain ⟨result', hopenEvent, hlogged⟩ := hbefore.ending event hending hopen
            obtain ⟨hkind, rfl, rfl⟩ :=
              openEvent_eq_dialEvent hopen (hopenEvent.symm.trans hdialEvent)
            exact ⟨task.origin, rfl, hbefore.opened udp target hkind, hkind ▸ hlogged⟩
          · exact absurd (hclosed.symm.trans hdialEvent) (closedEvent_ne_dialEvent task)
  · intro script flow hrunning hinstalls
    rw [hmoved.loop] at hrunning
    exact h.dialedFor hfresh (h.loop script flow hrunning hinstalls)
  · intro flowId slot socket hslot _
    rw [hmoved.table] at hslot
    exact .inl ⟨slot, hslot, .refl slot⟩

theorem Dials.taskMoves (h : Dials log r) (hsound : Sound r) {n : Nat}
    (htask : r.session.tasks[n]? = some task) (hmoves : TaskMoves r n task r')
    (hquiet : ∀ frame origin, .opened frame origin ∉ evs) : Dials (log ++ evs) r' := by
  obtain ⟨stage, hmoved, hdialed⟩ := hsound.moved htask hmoves
  exact h.taskMoved hsound htask hmoved hquiet fun result hstage => absurd hstage (hdialed result)

theorem Moves.dials (h : Moves context r action r' evs) (hsound : Sound r) (hdials : Dials log r) :
    Dials (log ++ evs) r' := by
  -- the loop pops an instruction that is not the last word of its script
  have hrest {instr : Instr} {rest script : Script} {flow : Established} {frame : Frame}
      (hloop : r.loop = .running (instr :: rest)) (hframe : instr.frame? = some frame)
      (hscript : script = rest) (hinstalls : Installs script flow) :
      ∃ script', r.loop = .running script' ∧ Installs script' flow := by
    subst hscript
    refine ⟨_, hloop, hsound.loop.installs hloop ?_ hinstalls⟩
    rintro error rfl
    cases hframe
  cases h with
  | stay => simpa using hdials
  | handled hready hevents hended hkept hmodest hneat =>
    simpa using hdials.kept hevents hkept hmodest
  | opened hready hadmitted => exact hdials.opened hadmitted
  | accepted hready hevents hevent hslot =>
    simpa using hdials.accepted hsound hevents hevent hslot
  | took hloop hframe hfree =>
    exact hdials.alike ⟨rfl, rfl, rfl, rfl, rfl, id⟩ nofun (fun _ h => .inl h)
      fun _ _ hrunning hinstalls => ⟨_, hrunning, hinstalls⟩
  | passed hloop hframe hpass =>
    refine hdials.alike (resume_alike r _) nofun ?_ ?_
    · intro queued hqueued
      rw [resume_events] at hqueued
      exact .inl hqueued
    · intro script flow hrunning
      exact hrest hloop hframe (resume_running hrunning)
  | wrote outcome hloop hframe hcarrier hnext =>
    have halike := release_alike r outcome
    rcases hnext with rfl | rfl
    · refine hdials.alike (halike.trans (resume_alike _ _)) (by simp) ?_ ?_
      · intro queued hqueued
        rw [resume_events] at hqueued
        exact .inl hqueued
      · intro script flow hrunning
        exact hrest hloop hframe (resume_running hrunning)
    · exact hdials.alike (halike.trans (stop_alike _)) (by simp) (fun _ h => .inl h) nofun
  | removed hloop =>
    rename_i flowId rest
    have hkept := @kept_removeFlowSlot (fun _ => False) r.session flowId
    simpa using hdials.kept List.suffix_rfl hkept (hsound.loop.modest_rest hloop)
  | established hloop now => simpa using hdials.established hsound hloop now
  | stopped hloop => exact hdials.alike (stop_alike r) nofun (fun _ h => .inl h) nofun
  | closedFlows hloop =>
    have hhushed := closeTargetFlows_hushed context r.session
    refine hdials.move nofun hhushed.tokens.ge nofun ?_ (fun _ h => .inl h) nofun ?_
    · intro n task htask
      rw [show (closeTargetFlows context r.session).tasks = _ from hhushed.tasks] at htask
      exact .inl htask
    · intro flowId slot socket hslot
      simp [closeTargetFlows] at hslot
  | aborted hloop htask =>
    rename_i n task
    let freed : RelaySession :=
      { r with carrier := if r.carrier = some (Producer.task n) then none else r.carrier }
    have halike : Alike r freed := ⟨rfl, rfl, rfl, rfl, rfl, id⟩
    have hfreed : Dials (log ++ []) freed :=
      hdials.alike halike nofun (fun _ h => .inl h)
        fun _ _ hrunning hinstalls => ⟨_, hrunning, hinstalls⟩
    rw [List.append_nil] at hfreed
    have hfreedSound := (hsound.alike halike (fun _ h => .inl h) (hsound.loop.same halike rfl)).1
    exact hfreed.taskMoved hfreedSound htask (freed.taskMoved_done n task) nofun
      fun _ hstage => by cases hstage
  | datagram flowId payload =>
    refine hdials.alike ⟨rfl, rfl, rfl, rfl, rfl, id⟩ nofun ?_
      fun _ _ hrunning hinstalls => ⟨_, hrunning, hinstalls⟩
    intro queued hqueued
    rcases List.mem_append.mp hqueued with hqueued | hqueued
    · exact .inl hqueued
    · rw [List.mem_singleton.mp hqueued]
      exact .inr rfl
  | taskTook htask hframe hfree hguard =>
    exact hdials.alike ⟨rfl, rfl, rfl, rfl, rfl, id⟩ nofun (fun _ h => .inl h)
      fun _ _ hrunning hinstalls => ⟨_, hrunning, hinstalls⟩
  | taskWrote outcome htask hframe hcarrier hnext =>
    have halike := release_alike r outcome
    have hreleased : Dials (log ++ []) (r.release outcome) :=
      hdials.alike halike nofun (fun _ h => .inl h)
        fun _ _ hrunning hinstalls => ⟨_, hrunning, hinstalls⟩
    rw [List.append_nil] at hreleased
    exact hreleased.taskMoves (hsound.release outcome).1 htask hnext (by simp)
  | taskDialed htask hstage result =>
    refine hdials.taskMoved hsound htask
      (taskMoved_dialed (hsound.tagged.staged htask) hstage result) (by simp) ?_
    rintro result' heq
    cases heq
    simp
  | taskMoved htask hfree hnext => exact hdials.taskMoves hsound htask hnext nofun

theorem Dials.start : Dials [] .start where
  tokens := fun _ _ hopened => absurd hopened List.not_mem_nil
  task := fun h => by simp [RelaySession.start, Session.start] at h
  events := List.forall_mem_nil _
  loop := fun script flow hloop => by simp [RelaySession.start] at hloop
  slot := fun h => by simp [RelaySession.start, Session.start] at h

theorem run_dials (context : RelayContext) (actions : List RelayAction) :
    Sound (run (RelaySession.step context) .start actions).1 ∧
      Dials (run (RelaySession.step context) .start actions).2
        (run (RelaySession.step context) .start actions).1 :=
  run_invariant (fun log r => Sound r ∧ Dials log r)
    (fun _ r action _ h =>
      have hmoves := step_moves context r action
      ⟨(hmoves.sound h.1).1, hmoves.dials h.1 h.2⟩)
    ⟨Sound.start, Dials.start⟩ (along_true RelaySession.start actions)

/-- An event that is not of the flow that holds its flow id changes nothing, and every flow has
the socket dialed for its open. -/
theorem incarnations_kept_apart (context : RelayContext) (actions : List RelayAction) :
    let (r, log) := run (RelaySession.step context) .start actions
    (∀ queued ∈ r.events, ∀ flowId token, queued.event.tag = some (flowId, token) →
      queued.origin ≠ r.occupant flowId →
      ∀ env, handleFlowEvent context env queued.event r.session = (r.session, [])) ∧
    ∀ flowId slot socket, r.session.targetWriters.lookup flowId = some slot →
      slot.socket = some socket → DialedFor log slot.origin slot.isUdp flowId socket := by
  obtain ⟨hsound, hdials⟩ := run_dials context actions
  refine ⟨?_, fun flowId slot socket => hdials.slot⟩
  intro queued hqueued flowId token htag hstale env
  exact stale_event_ignored hsound hqueued htag hstale context env

end UncrownedKing.Relay
