import UncrownedKing.Relay.CloseLaws
import UncrownedKing.Relay.SessionLaws

/-!
# What a step of the session does

`Moves` says what one step can do; every invariant of the session is kept move
by move.
-/

namespace UncrownedKing.Relay

open Lib Net Proto Auth Server

def Modest : Script → Prop
  | [] => True
  | .write _ _ :: rest | .remove _ :: rest => Modest rest
  | .fail _ :: _ => True
  | .writeFlow _ _ :: _ | .establish _ :: _ => False

theorem Neat.modest {Fit : Nat → Prop} (h : Neat Fit table script) : Modest script := by
  induction script generalizing table with
  | nil => trivial
  | cons instr rest ih =>
    cases instr with
    | write frame logged => exact ih h.2.2
    | writeFlow frame token => exact h
    | remove flowId => exact ih h
    | establish flow => exact h
    | fail error => trivial

theorem handleSessionFrame_modest (context : RelayContext) (env : HandlerEnv) (frame : Frame)
    (s : Session) : Modest (handleSessionFrame context env frame s).2 := by
  by_cases h : ClosesOccupied frame s
  · obtain ⟨status, reply, hhandled, -⟩ := closesOccupied_refuses h context env
    rw [hhandled]
    trivial
  · exact (handleSessionFrame_neat_of_not h context env).modest

namespace Task

def isOpen (task : Task) : Bool :=
  match task.kind with
  | .tcpOpen _ | .udpOpen _ => true
  | _ => false

def isReader (task : Task) : Bool := task.kind == .targetReader || task.kind == .udpReader

end Task

namespace TaskStage

def isActive : TaskStage → Bool
  | .reading => true
  | .sending frame => isData frame
  | _ => false

def frame? : TaskStage → Option Frame
  | .sending frame | .reporting (frame :: _) => some frame
  | _ => none

def isLoose : TaskStage → Bool
  | .sleeping | .ending _ | .relaying _ => false
  | _ => true

end TaskStage

def Instr.frame? : Instr → Option Frame
  | .write frame _ | .writeFlow frame _ => some frame
  | _ => none

def Task.Sends (task : Task) (frame : Frame) : Prop :=
  frame.header.id = task.flowId ∧ (isData frame = true ∨ isClose frame = true)

/-- Where a task may go on its own. -/
inductive Task.Next (task : Task) (shutdown : Bool) : TaskStage → Prop
  | done (h : task.stage.frame? = none) (hend : shutdown = true ∨ task.stage.isLoose = true) :
      task.Next shutdown .done
  | dialed (h : task.stage = .dialed result) :
      task.Next shutdown (.ending (task.openEvent result))
  | woken (h : task.stage = .sleeping ∨ task.stage = .reading ∨ task.stage = .reporting []) :
      task.Next shutdown (.ending task.closedEvent)
  | sends (h : task.stage = .reading) (hframe : task.Sends frame) :
      task.Next shutdown (.sending frame)
  | sent (h : task.stage = .sending frame) (hframe : isData frame = false) :
      task.Next shutdown (.ending task.closedEvent)
  | reported (h : task.stage = .reporting (frame :: rest)) : task.Next shutdown (.reporting rest)

def TaskStage.isRelaying : TaskStage → Bool
  | .reading | .sending _ | .relaying _ => true
  | _ => false

inductive TaskMoves (r : RelaySession) (n : Nat) (task : Task) : RelaySession → Prop
  | next (h : task.Next r.shutdown stage) : TaskMoves r n task (r.setStage n task stage)
  | read (h : task.stage.isActive = true) (recorded : Bool) :
      TaskMoves r n task (r.readOn n task recorded)
  | failed (h : task.stage.isRelaying = true) : TaskMoves r n task (r.failTask n task)
  | relayed (h : task.stage = .relaying writer) (choice : WriterChoice) {writer' : WriterStage}
      {link : TargetLink} {r' : RelaySession} {events : List UploadEvent}
      (hwriter : writerStep r.shutdown (r.session.links task.token) writer choice =
        (writer', link, events))
      (hnext : let linked := { r with session :=
          { r.session with links := Function.update r.session.links task.token link } }
        writer' = .ended false ∧ r' = linked.setStage n task (.ending task.closedEvent) ∨
          r' = linked.setStage n task (.relaying writer')) :
      TaskMoves r n task r'
  | told (h : task.stage = .ending event) :
      TaskMoves r n task ((r.setStage n task .done).push task event)

def Reopens (s : Session) : RelayAction → Prop
  | .frame frame _ =>
    s.state = .draining ∧ isOpen frame = true ∧
      (s.targetWriters.lookup frame.header.id).isSome = true
  | _ => False

/-- Only ids a client may open have a slot. -/
def ClientIds (table : FlowTable) : Prop :=
  ∀ {flowId slot}, table.lookup flowId = some slot → isClientInitiatedFlowId flowId = true

/-- All that an action can do. Invariants are proved over these cases. -/
inductive Moves (context : RelayContext) (r : RelaySession) :
    RelayAction → RelaySession → List RelayEvent → Prop
  | stay : Moves context r action r []
  | handled {ended : FlowToken → Prop} {s' : Session} {script : Script} {events : List Queued}
      (hready : r.loop = .ready) (hevents : events <:+ r.events)
      (hended : ∀ token, ended token → ∃ queued ∈ r.events, queued.event.EndsReader token)
      (hkept : Kept ended r.session s') (hmodest : Modest script)
      (hneat : ClientIds r.session.targetWriters → ¬Reopens r.session action →
        Neat AnyId s'.targetWriters script) :
      Moves context r action ({ r with events := events }.handle (s', script)) []
  | opened {frame : Frame} (hready : r.loop = .ready)
      (hadmitted : Admitted context env frame r.session udp target permit) :
      Moves context r (.frame frame env)
        (r.handle (r.session.openSlot udp frame.header.id target permit, []))
        [.opened frame r.session.flowTokens]
  | accepted {cancel : OpenFlowCancel} (hready : r.loop = .ready)
      (hevents : r.events = queued :: events)
      (hevent : queued.event = dialEvent udp flowId cancel.token target (.ok socket))
      (hslot : r.session.targetWriters.lookup flowId = some (openingSlot udp cancel)) :
      Moves context r action
        ({ r with events := events }.handle (acceptOpen udp flowId cancel socket r.session)) []
  | took (hloop : r.loop = .running (instr :: rest)) (hframe : instr.frame? = some frame)
      (hfree : r.carrier = none) (hopen : r.shutdown = false) :
      Moves context r action { r with carrier := some .loop } []
  | passed (hloop : r.loop = .running (instr :: rest)) (hframe : instr.frame? = some frame)
      (hpass : r.shutdown = true ∨ ∃ frame token, instr = .writeFlow frame token)
      (hcarrier : r.carrier ≠ some .loop) : Moves context r action (r.resume rest) []
  | wrote (outcome : WriteOutcome) (hloop : r.loop = .running (instr :: rest))
      (hframe : instr.frame? = some frame) (hcarrier : r.carrier = some .loop)
      (hnext : r' = (r.release outcome).resume rest ∨ r' = (r.release outcome).stop) :
      Moves context r action r' [.wrote false (r.occupant frame.header.id) frame]
  | removed (hloop : r.loop = .running (.remove flowId :: rest)) :
      Moves context r action (r.handle (r.session.removeFlowSlot flowId, rest)) []
  | established (hloop : r.loop = .running (.establish flow :: rest)) (now : Instant) :
      Moves context r action (r.handle (r.session.establish flow now, rest)) []
  | stopped (hloop : r.loop = .ready ∨
        (∃ error rest, r.loop = .running (.fail error :: rest)) ∨
        ∃ script, r.loop = .running script ∧ r.carrier ≠ some .loop) :
      Moves context r action r.stop []
  | closedFlows (hloop : r.loop = .stopping) :
      Moves context r action
        { r with session := closeTargetFlows context r.session, loop := .closed } []
  | aborted {task : Task} (hloop : r.loop = .closed) (htask : r.session.tasks[n]? = some task) :
      Moves context r action
        ({ r with carrier := if r.carrier = some (Producer.task n) then none else r.carrier }.setStage
          n task .done) []
  | datagram (flowId : Nat) (payload : Bytes) :
      Moves context r action
        { r with events := r.events ++ [⟨none, .inboundDatagram flowId payload⟩] } []
  | taskTook {task : Task} (htask : r.session.tasks[n]? = some task)
      (hframe : task.stage.frame? = some frame) (hfree : r.carrier = none)
      (hguard : task.stage = .sending frame → isData frame = true → r.muted task.token = false) :
      Moves context r (.task n .acquire recorded) { r with carrier := some (.task n) } []
  | taskWrote {task : Task} (outcome : WriteOutcome) (htask : r.session.tasks[n]? = some task)
      (hframe : task.stage.frame? = some frame) (hcarrier : r.carrier = some (.task n))
      (hnext : TaskMoves (r.release outcome) n task r') :
      Moves context r action r' [.wrote true (some task.origin) frame]
  | taskDialed {task : Task} (htask : r.session.tasks[n]? = some task)
      (hstage : task.stage = .dialing) (result : Except OpenFailure Socket) :
      Moves context r action (r.setStage n task (.dialed result))
        [.dialed task.origin task.kind result]
  | taskMoved {task : Task} (htask : r.session.tasks[n]? = some task)
      (hfree : ∀ frame, task.stage.frame? = some frame → r.carrier ≠ some (.task n))
      (hnext : TaskMoves r n task r') : Moves context r action r' []

inductive LoopMoves (r : RelaySession) (instr : Instr) (rest : Script) (choice : LoopChoice) :
    RelaySession → List RelayEvent → Prop
  | stay : LoopMoves r instr rest choice r []
  | took (hframe : instr.frame? = some frame) (hfree : r.carrier = none)
      (hopen : r.shutdown = false) :
      LoopMoves r instr rest choice { r with carrier := some .loop } []
  | passed (hframe : instr.frame? = some frame)
      (hpass : r.shutdown = true ∨ ∃ frame token, instr = .writeFlow frame token)
      (hcarrier : r.carrier ≠ some .loop) : LoopMoves r instr rest choice (r.resume rest) []
  | wrote (outcome : WriteOutcome) (hframe : instr.frame? = some frame)
      (hcarrier : r.carrier = some .loop)
      (hnext : r' = (r.release outcome).resume rest ∨ r' = (r.release outcome).stop) :
      LoopMoves r instr rest choice r' [.wrote false (r.occupant frame.header.id) frame]
  | removed (hinstr : instr = .remove flowId) :
      LoopMoves r instr rest choice (r.handle (r.session.removeFlowSlot flowId, rest)) []
  | established (hinstr : instr = .establish flow) (hgo : choice = .go now) :
      LoopMoves r instr rest choice (r.handle (r.session.establish flow now, rest)) []
  | stopped (h : (∃ error, instr = .fail error) ∨ r.carrier ≠ some .loop) :
      LoopMoves r instr rest choice r.stop []

inductive TaskSteps (r : RelaySession) (n : Nat) (task : Task) (choice : TaskChoice) :
    RelaySession → List RelayEvent → Prop
  | stay : TaskSteps r n task choice r []
  | took (hchoice : choice = .acquire) (hframe : task.stage.frame? = some frame)
      (hfree : r.carrier = none)
      (hguard : task.stage = .sending frame → isData frame = true → r.muted task.token = false) :
      TaskSteps r n task choice { r with carrier := some (.task n) } []
  | wrote (outcome : WriteOutcome) (hframe : task.stage.frame? = some frame)
      (hcarrier : r.carrier = some (.task n)) (hnext : TaskMoves (r.release outcome) n task r') :
      TaskSteps r n task choice r' [.wrote true (some task.origin) frame]
  | dialed (hstage : task.stage = .dialing) (result : Except OpenFailure Socket) :
      TaskSteps r n task choice (r.setStage n task (.dialed result))
        [.dialed task.origin task.kind result]
  | moved (hfree : ∀ frame, task.stage.frame? = some frame → r.carrier ≠ some (.task n))
      (hnext : TaskMoves r n task r') : TaskSteps r n task choice r' []

variable {context : RelayContext} {r : RelaySession}

theorem dataFrame_sends {task : Task} (h : task.dataFrame bytes = .ok frame) :
    task.Sends frame := by
  obtain ⟨htype, hid, -⟩ := frame_new_ok h
  refine ⟨hid, .inl ?_⟩
  unfold isData
  rw [htype]
  split <;> rfl

theorem closeFrame_sends {task : Task} (h : task.closeFrame closeCode = .ok frame) :
    task.Sends frame := by
  unfold Task.closeFrame at h
  split at h
  · obtain ⟨hclose, hid, -⟩ := udpCloseFrame_closes _ _ frame h
    exact ⟨hid, .inr hclose⟩
  · obtain ⟨hclose, hid, -⟩ := tcpCloseFrame_closes _ _ frame h
    exact ⟨hid, .inr hclose⟩

theorem readyStep_moves (hready : r.loop = .ready) (action : RelayAction) :
    Moves context r action (r.readyStep context action).1 (r.readyStep context action).2 := by
  cases action with
  | frame frame env =>
    simp only [RelaySession.readyStep]
    rcases handleSessionFrame_cases context env frame r.session with
      ⟨udp, target, permit, hadmitted, hhandled⟩ | hkept
    · rw [hhandled]
      have hopened : openedBy frame r.session
          (r.session.openSlot udp frame.header.id target permit) =
            [.opened frame r.session.flowTokens] := by
        simp [openedBy, Session.openSlot, Session.allocate]
      rw [hopened]
      exact .opened hready hadmitted
    · have hopened : openedBy frame r.session (handleSessionFrame context env frame r.session).1 =
          [] := by
        simp [openedBy, hkept.tokens]
      rw [hopened]
      refine .handled hready List.suffix_rfl (fun _ h => h.elim) hkept
        (handleSessionFrame_modest context env frame r.session) ?_
      intro hclient hreopens
      refine handleSessionFrame_neat (fun _ _ => trivial) context env ?_ ?_
      · intro _ _ hreserved _
        cases hslot : r.session.targetWriters.lookup frame.header.id with
        | none => rfl
        | some slot => simp [hclient hslot] at hreserved
      · intro hstate hopen _
        refine ⟨trivial, ?_⟩
        rw [← Option.not_isSome_iff_eq_none]
        exact fun hsome => hreopens ⟨hstate, hopen, hsome⟩
  | event env =>
    simp only [RelaySession.readyStep]
    split
    · exact .stay
    · rename_i queued events hevents
      rcases handleFlowEvent_cases context env queued.event r.session with
        ⟨udp, flowId, target, socket, cancel, hevent, hslot, hhandled⟩ | ⟨hchange, hneat⟩
      · rw [hhandled]
        exact .accepted hready hevents hevent hslot
      · refine .handled hready ?_ ?_ hchange.kept hneat.modest fun _ _ => hneat
        · rw [hevents]
          exact List.suffix_cons queued events
        · intro token hended
          exact ⟨queued, by simp [hevents], hended⟩
  | udpIdleMaintenance order now =>
    have hneat := closeIdleUdpFlows_neat context order now r.session
    exact .handled hready List.suffix_rfl (fun _ h => False.elim h) (.refl _) hneat.modest
      fun _ _ => hneat
  | frameReadError error =>
    have hneat := reportFrameIoError_neat r.session.targetWriters error
    exact .handled hready List.suffix_rfl (fun _ h => False.elim h) (.refl _) hneat.modest
      fun _ _ => hneat
  | shutdown =>
    refine .handled hready List.suffix_rfl (fun _ h => False.elim h) ?_
      (show Modest [] from trivial) fun _ _ => neat_nil _
    have h : Kept (fun _ => False) r.session r.session := .refl _
    split
    · exact ⟨h.tokens, h.owner, h.aborts, h.slots, h.voices, h.tasks⟩
    · exact h
  | leave => exact .stopped (.inl hready)
  | loop choice | closeFlows | task n choice recorded | abortTask n => exact .stay
  | datagram flowId payload => exact .stay

theorem failWrite_moves (hframe : instr.frame? = some frame) (hshutdown : r.shutdown = true)
    (hcarrier : r.carrier ≠ some .loop) (logged : Bool) :
    LoopMoves r instr rest choice (r.failWrite logged rest) [] := by
  unfold RelaySession.failWrite
  split
  · exact .passed hframe (.inl hshutdown) hcarrier
  · exact .stopped (.inr hcarrier)

theorem loopStep_moves (r : RelaySession) (instr : Instr) (rest : Script) (choice : LoopChoice) :
    LoopMoves r instr rest choice (r.loopStep instr rest choice).1
      (r.loopStep instr rest choice).2 := by
  have hnone (hfree : ¬r.carrier ≠ none) : r.carrier ≠ some .loop := by simp [not_not.mp hfree]
  unfold RelaySession.loopStep
  split
  · split
    · exact .stay
    · rename_i hfree
      split
      · rename_i hshutdown
        exact failWrite_moves rfl hshutdown (hnone hfree) _
      · rename_i hopen
        exact .took rfl (not_not.mp hfree) (by simpa using hopen)
  · split
    · rename_i h
      exact failWrite_moves rfl h.2 h.1 _
    · exact .stay
  · split
    · exact .stay
    · rename_i outcome hcarrier
      refine .wrote outcome rfl (not_not.mp hcarrier) ?_
      split
      · exact .inl rfl
      · unfold RelaySession.failWrite
        split
        · exact .inl rfl
        · exact .inr rfl
  · split
    · exact .stay
    · rename_i hfree
      split
      · exact .passed rfl (.inr ⟨_, _, rfl⟩) (hnone hfree)
      · rename_i hmuted
        have hopen : r.shutdown = false := by simp_all [RelaySession.muted]
        exact .took rfl (not_not.mp hfree) hopen
  · split
    · rename_i h
      exact .stopped (.inr h.1)
    · exact .stay
  · split
    · rename_i h
      exact .passed rfl (.inr ⟨_, _, rfl⟩) h.1
    · exact .stay
  · split
    · exact .stay
    · rename_i outcome hcarrier
      refine .wrote outcome rfl (not_not.mp hcarrier) ?_
      split
      · exact .inl rfl
      · exact .inr rfl
  · exact .removed rfl
  · exact .established rfl rfl
  · exact .stopped (.inl ⟨_, rfl⟩)
  · exact .stay

theorem LoopMoves.moves (h : LoopMoves r instr rest choice r' evs)
    (hloop : r.loop = .running (instr :: rest)) : Moves context r action r' evs := by
  cases h with
  | stay => exact .stay
  | took hframe hfree hopen => exact .took hloop hframe hfree hopen
  | passed hframe hpass hcarrier => exact .passed hloop hframe hpass hcarrier
  | wrote outcome hframe hcarrier hnext => exact .wrote outcome hloop hframe hcarrier hnext
  | removed hinstr => exact .removed (hinstr ▸ hloop)
  | established hinstr => exact .established (hinstr ▸ hloop) _
  | stopped h =>
    obtain ⟨error, rfl⟩ | hcarrier := h
    · exact .stopped (.inr (.inl ⟨_, _, hloop⟩))
    · exact .stopped (.inr (.inr ⟨_, hloop, hcarrier⟩))

theorem sendRead_moves {task : Task} (hstage : task.stage = .reading) (n : Nat) (bytes : Bytes) :
    r.sendRead context n task bytes = r ∨
      TaskMoves r n task (r.sendRead context n task bytes) := by
  simp only [RelaySession.sendRead]
  split
  · exact .inl rfl
  · refine .inr ?_
    split
    · rename_i frame hframe
      refine .next (.sends hstage ?_)
      split at hframe
      · exact closeFrame_sends hframe
      · exact dataFrame_sends hframe
    · exact .failed (by simp [hstage, TaskStage.isRelaying])

theorem taskStep_moves (context : RelayContext) (r : RelaySession) (n : Nat) (task : Task)
    (choice : TaskChoice) (recorded : Bool) :
    TaskSteps r n task choice (r.taskStep context n task choice recorded).1
      (r.taskStep context n task choice recorded).2 := by
  -- a task with nothing to write does not hold the carrier
  have hmove {r' : RelaySession} (hnone : task.stage.frame? = none)
      (h : TaskMoves r n task r') : TaskSteps r n task choice r' [] :=
    .moved (fun frame hframe => by simp [hnone] at hframe) h
  -- nor does one that finds it free or someone else's
  have hwait {r' : RelaySession} (hcarrier : r.carrier ≠ some (.task n))
      (h : TaskMoves r n task r') : TaskSteps r n task choice r' [] :=
    .moved (fun _ _ => hcarrier) h
  unfold RelaySession.taskStep
  split <;> rename_i hstage
  case h_1 => exact .dialed hstage _
  case h_2 =>
    have hnone : task.stage.frame? = none := by simp [hstage, TaskStage.frame?]
    split
    · exact hmove hnone (.next (.done hnone (.inr (by rw [hstage]; rfl))))
    · exact .stay
  case h_3 | h_4 | h_5 =>
    have hnone : task.stage.frame? = none := by simp [hstage, TaskStage.frame?]
    split
    · exact hmove hnone (.next (.done hnone (.inl ‹_›)))
    · exact .stay
  case h_6 =>
    have hnone : task.stage.frame? = none := by simp [hstage, TaskStage.frame?]
    split
    · exact hmove hnone (.next (.done hnone (.inr (by rw [hstage]; rfl))))
    · exact hmove hnone (.next (.dialed hstage))
  case h_7 =>
    exact hmove (by simp [hstage, TaskStage.frame?]) (.next (.woken (.inl hstage)))
  case h_8 =>
    have hnone : task.stage.frame? = none := by simp [hstage, TaskStage.frame?]
    split
    · exact hmove hnone (.next (.woken (.inr (.inl hstage))))
    · rcases sendRead_moves hstage n _ with hsame | hsend
      · rw [hsame]
        exact .stay
      · exact hmove hnone hsend
  case h_9 =>
    have hnone : task.stage.frame? = none := by simp [hstage, TaskStage.frame?]
    split
    · exact hmove hnone (.next (.woken (.inr (.inl hstage))))
    · split
      · exact hmove hnone (.read (by simp [hstage, TaskStage.isActive]) recorded)
      · exact .stay
  case h_10 =>
    exact hmove (by simp [hstage, TaskStage.frame?])
      (.failed (by simp [hstage, TaskStage.isRelaying]))
  case h_11 =>
    split
    · exact hmove (by simp [hstage, TaskStage.frame?]) (.next (.woken (.inr (.inl hstage))))
    · exact .stay
  case h_12 frame =>
    have hframe : task.stage.frame? = some frame := by simp [hstage, TaskStage.frame?]
    split
    · exact .stay
    · rename_i hfree
      have hfree := not_not.mp hfree
      have hnot : r.carrier ≠ some (.task n) := by simp [hfree]
      split
      · rename_i hdata
        split
        · exact hwait hnot (.read (by simp [hstage, TaskStage.isActive, hdata]) recorded)
        · rename_i hmuted
          exact .took rfl hframe hfree fun _ _ => by simpa using hmuted
      · rename_i hdata
        split
        · exact hwait hnot (.failed (by simp [hstage, TaskStage.isRelaying]))
        · exact .took rfl hframe hfree fun _ h => absurd h hdata
  case h_13 =>
    split
    · rename_i h
      exact hwait h.1 (.failed (by simp [hstage, TaskStage.isRelaying]))
    · exact .stay
  case h_14 =>
    split
    · rename_i h
      exact hwait h.1 (.read (by simp [hstage, TaskStage.isActive, h.2.1]) recorded)
    · exact .stay
  case h_15 frame outcome =>
    split
    · exact .stay
    · rename_i hcarrier
      refine .wrote outcome (by simp [hstage, TaskStage.frame?])
        (not_not.mp hcarrier) ?_
      split
      · exact .failed (by simp [hstage, TaskStage.isRelaying])
      · split
        · rename_i hdata
          exact .read (by simp [hstage, TaskStage.isActive, hdata]) recorded
        · rename_i hdata
          exact .next (.sent hstage (by simpa using hdata))
  case h_16 writer choice =>
    obtain ⟨writer', link, log, hwriter⟩ : ∃ writer' link log,
        writerStep r.shutdown (r.session.links task.token) writer choice = (writer', link, log) :=
      ⟨_, _, _, rfl⟩
    rw [hwriter]
    refine hmove (by simp [hstage, TaskStage.frame?]) (.relayed hstage choice hwriter ?_)
    dsimp only
    split
    · exact .inl ⟨rfl, rfl⟩
    · exact .inr rfl
  case h_17 =>
    exact hmove (by simp [hstage, TaskStage.frame?])
      (.failed (by simp [hstage, TaskStage.isRelaying]))
  case h_18 frame rest =>
    have hframe : task.stage.frame? = some frame := by simp [hstage, TaskStage.frame?]
    split
    · exact .stay
    · rename_i hfree
      have hfree := not_not.mp hfree
      split
      · exact hwait (by simp [hfree]) (.next (.reported hstage))
      · exact .took rfl hframe hfree fun h => by simp [hstage] at h
  case h_19 =>
    split
    · rename_i h
      exact hwait h.1 (.next (.reported hstage))
    · exact .stay
  case h_20 frame rest outcome =>
    split
    · exact .stay
    · rename_i hcarrier
      exact .wrote outcome (by simp [hstage, TaskStage.frame?])
        (not_not.mp hcarrier) (.next (.reported hstage))
  case h_21 =>
    exact hmove (by simp [hstage, TaskStage.frame?]) (.next (.woken (.inr (.inr hstage))))
  case h_22 => exact hmove (by simp [hstage, TaskStage.frame?]) (.told hstage)
  case h_23 => exact .stay

theorem TaskSteps.moves (h : TaskSteps r n task choice r' evs)
    (htask : r.session.tasks[n]? = some task) :
    Moves context r (.task n choice recorded) r' evs := by
  cases h with
  | stay => exact .stay
  | took hchoice hframe hfree hguard =>
    subst hchoice
    exact .taskTook htask hframe hfree hguard
  | wrote outcome hframe hcarrier hnext => exact .taskWrote outcome htask hframe hcarrier hnext
  | dialed hstage result => exact .taskDialed htask hstage result
  | moved hfree hnext => exact .taskMoved htask hfree hnext

theorem step_moves (context : RelayContext) (r : RelaySession) (action : RelayAction) :
    Moves context r action (r.step context action).1 (r.step context action).2 := by
  unfold RelaySession.step
  split
  · split
    · exact .stay
    · rename_i htask
      exact (taskStep_moves context r _ _ _ _).moves htask
  · split
    · exact .datagram _ _
    · exact .stay
  · split
    · exact readyStep_moves ‹_› _
    · exact (loopStep_moves r _ _ _).moves ‹_›
    · exact .closedFlows ‹_›
    · split
      · exact .stay
      · rename_i htask
        exact .aborted ‹_› htask
    · exact .stay

end UncrownedKing.Relay
