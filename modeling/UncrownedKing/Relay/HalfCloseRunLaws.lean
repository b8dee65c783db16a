import UncrownedKing.Relay.HalfCloseLaws
import UncrownedKing.Relay.WireLaws

/-!
# Half-closed flows along a run

The tasks of a flow keep what the handlers rely on.
-/

namespace UncrownedKing.Relay

open Lib Net Proto Auth Server

/-- A timer has its event to send or has sent it, and a writer stays one, unless the flow is
aborted. -/
structure StageKept (shutdown : Bool) (events : List Queued) (link : TargetLink) (task : Task)
    (stage : TaskStage) : Prop where
  timer : shutdown = false → task.stage = .sleeping ∨ task.stage = .ending task.closedEvent →
    stage = .sleeping ∨ stage = .ending task.closedEvent ∨
      ∃ queued ∈ events, queued.event = task.closedEvent
  writer : shutdown = false → link.aborted = false → ∀ writer, task.stage ≠ .relaying writer

theorem StageKept.of_shutdown : StageKept true events link task stage := ⟨nofun, nofun⟩

theorem StageKept.of_loose (h : task.stage.isLoose = true) :
    StageKept shutdown events link task stage where
  timer := fun _ hstage => by
    rcases hstage with hstage | hstage <;> simp [hstage, TaskStage.isLoose] at h
  writer := fun _ _ writer hstage => by simp [hstage, TaskStage.isLoose] at h

theorem isLoose_of_isActive {stage : TaskStage} (h : stage.isActive = true) :
    stage.isLoose = true := by
  cases stage <;> first | rfl | cases h

theorem StageKept.of_next (h : task.Next shutdown stage) :
    StageKept shutdown events link task stage := by
  cases h with
  | done h hend =>
    obtain rfl | hloose := hend
    · exact .of_shutdown
    · exact .of_loose hloose
  | woken h =>
    obtain h | h | h := h
    · refine ⟨fun _ _ => .inr (.inl rfl), fun _ _ writer hrelaying => ?_⟩
      cases h.symm.trans hrelaying
    · exact .of_loose (by rw [h]; rfl)
    · exact .of_loose (by rw [h]; rfl)
  | dialed h | sends h | sent h | reported h => exact .of_loose (by rw [h]; rfl)

section

variable {context : RelayContext} {shutdown : Bool} {events : List Queued} {s : Session}
  {n : Nat} {task : Task} {stage : TaskStage}

theorem Timed.setStage (h : Timed context shutdown events s) (htask : s.tasks[n]? = some task)
    (hkept : StageKept shutdown events (s.links task.token) task stage) :
    Timed context shutdown events
      { s with tasks := s.tasks.set n { task with stage := stage } } := by
  intro flowId flow hslot
  have hold := h hslot
  have hbefore (hopen : shutdown = false)
      (hhale : Hale (s.tasks.set n { task with stage := stage }) (s.links flow.token) flow.token) :
      Hale s.tasks (s.links flow.token) flow.token :=
    hhale.of_set htask fun htoken hfailed =>
      absurd hfailed (hkept.writer hopen (htoken ▸ hhale.1) _)
  refine ⟨hold.write, ?_, ?_⟩
  · intro hopen hhale hclient
    have hupload := hold.upload hopen (hbefore hopen hhale) hclient
    refine ⟨hupload.closed, hupload.sender, hupload.receiver, hupload.queue, ?_, hupload.event⟩
    intro other hother hkind htoken
    rcases List.mem_or_eq_of_mem_set hother with hother | rfl
    · exact hupload.writer other hother hkind htoken
    · have htoken : task.token = flow.token := htoken
      obtain ⟨writer, hstage, -⟩ :=
        hupload.writer task (List.mem_of_getElem? htask) hkind htoken
      exact absurd hstage (hkept.writer hopen (htoken ▸ hhale.1) writer)
  · intro htimeout hopen hhale closedSide hdrains
    obtain ⟨m, timer, htimer, hmember, hkind, hid, htoken, hpending⟩ :=
      hold.timer htimeout hopen (hbefore hopen hhale) closedSide hdrains
    by_cases hsame : n = m
    · subst hsame
      cases htask.symm.trans hmember
      have hlt := (List.getElem?_eq_some_iff.mp htask).1
      refine ⟨n, { task with stage := stage }, htimer, by simp [hlt], hkind, hid, htoken, ?_⟩
      rcases hpending with hstage | hstage | hevent
      · exact hkept.timer hopen (.inl hstage)
      · exact hkept.timer hopen (.inr hstage)
      · exact .inr (.inr hevent)
    · refine ⟨m, timer, htimer, ?_, hkind, hid, htoken, hpending⟩
      exact (List.getElem?_set_ne hsame).trans hmember

theorem told_writer {flowId : Nat} {token : FlowToken} (h : task.WellStaged)
    (hstage : task.stage = .ending event) (hevent : event = .writeClosed flowId token) :
    task.kind = .targetWriter := by
  have hends : task.isOpen = true ∧ (∃ result, event = task.openEvent result) ∨
      task.isOpen = false ∧ event = task.closedEvent := by
    simpa [Task.WellStaged, hstage] using h
  rw [hevent] at hends
  rcases hends with ⟨-, result, hevent⟩ | ⟨-, hevent⟩
  · unfold Task.openEvent at hevent
    split at hevent <;> cases hevent
  · unfold Task.closedEvent at hevent
    split at hevent <;> first | assumption | cases hevent

theorem Timed.push (h : Timed context shutdown events s) {queued : Queued}
    (hevent : ∀ flowId token, queued.event = .writeClosed flowId token → ∃ task ∈ s.tasks,
      task.kind = .targetWriter ∧ task.token = token ∧ ∀ writer, task.stage ≠ .relaying writer) :
    Timed context shutdown (events ++ [queued]) s := by
  intro flowId flow hslot
  have hold := h hslot
  refine ⟨hold.write, ?_, ?_⟩
  · intro hopen hhale hclient
    have hupload := hold.upload hopen hhale hclient
    refine ⟨hupload.closed, hupload.sender, hupload.receiver, hupload.queue, hupload.writer, ?_⟩
    intro other hother
    rcases List.mem_append.mp hother with hother | hother
    · exact hupload.event other hother
    · rw [List.mem_singleton.mp hother]
      intro hclosed
      obtain ⟨task, htask, hkind, htoken, hstage⟩ := hevent _ _ hclosed
      obtain ⟨writer, hrelaying, -⟩ := hupload.writer task htask hkind htoken
      exact hstage writer hrelaying
  · intro htimeout hopen hhale closedSide hdrains
    obtain ⟨m, timer, htimer, hmember, hkind, hid, htoken, hpending⟩ :=
      hold.timer htimeout hopen hhale closedSide hdrains
    refine ⟨m, timer, htimer, hmember, hkind, hid, htoken, hpending.imp id (Or.imp id ?_)⟩
    rintro ⟨queued', hqueued, hevent'⟩
    exact ⟨queued', List.mem_append_left _ hqueued, hevent'⟩

theorem Timed.told (h : Timed context shutdown events s) (htask : s.tasks[n]? = some task)
    (hstaged : task.WellStaged) (hstage : task.stage = .ending event) (origin : Option FlowToken) :
    Timed context shutdown (events ++ [⟨origin, event⟩])
      { s with tasks := s.tasks.set n { task with stage := .done } } := by
  have hpushed : Timed context shutdown (events ++ [⟨origin, event⟩]) s := by
    refine h.push fun flowId token hclosed => ⟨task, List.mem_of_getElem? htask, ?_, ?_, ?_⟩
    · exact told_writer hstaged hstage hclosed
    · have htag : event.tag = some (flowId, token) := congrArg FlowEvent.tag hclosed
      exact (hstaged.told hstage htag).2.1.symm
    · simp [hstage]
  refine hpushed.setStage htask ⟨fun _ hpending => ?_, fun _ _ writer hrelaying => ?_⟩
  · rcases hpending with hpending | hpending
    · cases hstage.symm.trans hpending
    · cases hstage.symm.trans hpending
      exact .inr (.inr ⟨_, List.mem_append_right _ (List.mem_singleton_self _), rfl⟩)
  · cases hstage.symm.trans hrelaying

theorem Timed.abortLink (h : Timed context shutdown events s) (token : FlowToken) :
    Timed context shutdown events (s.abortLink token) := by
  intro flowId flow hslot
  have hold : FlowTimed context shutdown s.tasks events flowId flow (s.links flow.token) := h hslot
  by_cases htoken : flow.token = token
  · refine .of_aborted ?_ hold.write
    simp [Session.abortLink, htoken, TargetLink.abort]
  · rw [show (s.abortLink token).links flow.token = s.links flow.token from
      Function.update_of_ne htoken _ _]
    exact hold

theorem isBusy_writing (rest : Bytes) (draining : Bool) :
    (WriterStage.writing rest draining).isBusy = !draining := by
  cases draining <;> rfl

theorem writerStep_busy {link : TargetLink} (hbusy : writer.isBusy = true)
    (haborted : link.aborted = false) (hclosed : link.closed = false)
    (hsender : link.sender = true) (hqueue : .close ∉ link.queue)
    (h : writerStep false link writer choice = (writer', link', log)) :
    writer' = .ended true ∨ writer'.isBusy = true ∧ link'.closed = false ∧
      link'.sender = true ∧ link'.receiver = link.receiver ∧ .close ∉ link'.queue := by
  have hstay : writer.isBusy = true ∧ link.closed = false ∧ link.sender = true ∧
      link.receiver = link.receiver ∧ .close ∉ link.queue :=
    ⟨hbusy, hclosed, hsender, rfl, hqueue⟩
  unfold writerStep at h
  split at h
  case h_1 =>
    simp only [haborted, Bool.false_eq_true, if_false, Prod.mk.injEq] at h
    obtain ⟨rfl, rfl, -⟩ := h
    exact .inr ⟨rfl, hclosed, hsender, rfl, hqueue⟩
  case h_2 | h_4 | h_10 =>
    simp only [haborted, Bool.false_eq_true, if_false, Prod.mk.injEq] at h
    obtain ⟨rfl, rfl, -⟩ := h
    exact .inr hstay
  case h_3 =>
    split at h
    · rename_i command queue hhead
      cases h
      rw [hhead] at hqueue
      cases command with
      | data payload => exact .inr ⟨rfl, hclosed, hsender, rfl, fun h => hqueue (by simp [h])⟩
      | close => simp at hqueue
    · simp only [hsender, if_true, Prod.mk.injEq] at h
      obtain ⟨rfl, rfl, -⟩ := h
      exact .inr hstay
  case h_6 payload draining =>
    simp only [haborted, Bool.false_eq_true, if_false, Prod.mk.injEq] at h
    obtain ⟨rfl, rfl, -⟩ := h
    cases draining with
    | false => exact .inr ⟨rfl, hclosed, hsender, rfl, hqueue⟩
    | true => cases hbusy
  case h_8 draining =>
    cases h
    cases draining with
    | false => exact .inr ⟨rfl, hclosed, hsender, rfl, hqueue⟩
    | true => cases hbusy
  case h_9 =>
    cases h
    exact .inr ⟨by simpa [isBusy_writing] using hbusy, hclosed, hsender, rfl, hqueue⟩
  case h_11 =>
    cases h
    exact .inl rfl
  case h_16 =>
    cases h
    exact .inr hstay
  all_goals cases hbusy

theorem Timed.writerMoved (h : Timed context shutdown events s) (htask : s.tasks[n]? = some task)
    (hkind : task.kind = .targetWriter)
    (haborted : (s.links task.token).aborted = true → link.aborted = true)
    (hfailed : task.stage = .relaying (.ended true) → stage = .relaying (.ended true))
    (hupload : ∀ {flowId}, shutdown = false → link.aborted = false →
      stage ≠ .relaying (.ended true) → Uploading s.tasks events flowId task.token (s.links task.token) →
      (∃ writer, stage = .relaying writer ∧ writer.isBusy = true) ∧ link.closed = false ∧
        link.sender = true ∧ link.receiver = true ∧ .close ∉ link.queue) :
    Timed context shutdown events
      { s with
        links := Function.update s.links task.token link
        tasks := s.tasks.set n { task with stage := stage } } := by
  intro flowId flow hslot
  have hold : FlowTimed context shutdown s.tasks events flowId flow (s.links flow.token) := h hslot
  have hlinks : Function.update s.links task.token link flow.token =
      if flow.token = task.token then link else s.links flow.token := by
    simp [Function.update_apply]
  have hbefore (hhale : Hale (s.tasks.set n { task with stage := stage })
      (Function.update s.links task.token link flow.token) flow.token) :
      Hale s.tasks (s.links flow.token) flow.token := by
    have hlink := hhale.1
    refine ⟨?_, (hhale.of_set htask fun _ => hfailed).2⟩
    rw [hlinks] at hlink
    split at hlink
    · rename_i htoken
      rw [htoken, Bool.eq_false_iff]
      intro hold
      simp [haborted hold] at hlink
    · exact hlink
  refine ⟨hold.write, ?_, ?_⟩
  · intro hopen hhale hclient
    have hbusy := hold.upload hopen (hbefore hhale) hclient
    dsimp only at hhale ⊢
    rw [hlinks] at hhale ⊢
    split
    · rename_i htoken
      rw [if_pos htoken] at hhale
      rw [htoken] at hbusy
      have hlt := (List.getElem?_eq_some_iff.mp htask).1
      obtain ⟨hstage, hclosed, hsender, hreceiver, hqueue⟩ :=
        hupload hopen hhale.1 (fun hstage => hhale.2 ⟨{ task with stage := stage },
          List.mem_set hlt _, hkind, htoken.symm, hstage⟩) hbusy
      refine ⟨hclosed, hsender, hreceiver, hqueue, ?_, htoken ▸ hbusy.event⟩
      intro other hother hother' htoken'
      rcases List.mem_or_eq_of_mem_set hother with hother | rfl
      · exact hbusy.writer other hother hother' (htoken'.trans htoken)
      · exact hstage
    · rename_i htoken
      refine ⟨hbusy.closed, hbusy.sender, hbusy.receiver, hbusy.queue, ?_, hbusy.event⟩
      intro other hother hother' htoken'
      rcases List.mem_or_eq_of_mem_set hother with hother | rfl
      · exact hbusy.writer other hother hother' htoken'
      · exact absurd htoken'.symm htoken
  · intro htimeout hopen hhale closedSide hdrains
    obtain ⟨m, timer, htimer, hmember, htimerKind, hpending⟩ :=
      hold.timer htimeout hopen (hbefore hhale) closedSide hdrains
    have hne : n ≠ m := by
      rintro rfl
      cases htask.symm.trans hmember
      cases hkind.symm.trans htimerKind
    exact ⟨m, timer, htimer, (List.getElem?_set_ne hne).trans hmember, htimerKind, hpending⟩

end

def RelaySession.Timed (context : RelayContext) (r : RelaySession) : Prop :=
  Relay.Timed context r.shutdown r.events r.session

namespace RelaySession.Timed

variable {context : RelayContext} {r r' : RelaySession} {n : Nat} {task : Task}

section

variable (h : r.Timed context)
include h

theorem release (outcome : WriteOutcome) : (r.release outcome).Timed context := by
  intro flowId flow hslot
  have hold := h hslot
  cases hshutdown : (r.release outcome).shutdown with
  | true => exact .of_shutdown hold.write
  | false =>
    have hopen : r.shutdown = false := by
      simp only [RelaySession.release, Bool.or_eq_false_iff] at hshutdown
      exact hshutdown.1
    rw [hopen] at hold
    exact hold

theorem setStage (htask : r.session.tasks[n]? = some task)
    (hkept : StageKept r.shutdown r.events (r.session.links task.token) task stage) :
    (r.setStage n task stage).Timed context :=
  Relay.Timed.setStage h htask hkept

theorem loose (htask : r.session.tasks[n]? = some task)
    (hloose : task.stage.isLoose = true) (stage : TaskStage) :
    (r.setStage n task stage).Timed context :=
  h.setStage htask (.of_loose hloose)

theorem failTask (htask : r.session.tasks[n]? = some task)
    (hstage : task.stage.isRelaying = true) : (r.failTask n task).Timed context := by
  unfold RelaySession.failTask
  split
  · rename_i hshutdown
    exact h.setStage htask (hshutdown ▸ .of_shutdown)
  · have haborted : { r with session := r.session.abortLink task.token }.Timed context :=
      Relay.Timed.abortLink h task.token
    refine haborted.setStage htask ⟨fun _ hpending => ?_, fun _ hlink => ?_⟩
    · rcases hpending with hpending | hpending <;>
        simp [hpending, TaskStage.isRelaying] at hstage
    · simp [Session.abortLink, TargetLink.abort] at hlink

theorem activity (task : Task) : (r.push task task.activityEvent).Timed context := by
  refine Relay.Timed.push h fun flowId token hclosed => ?_
  unfold Task.activityEvent at hclosed
  split at hclosed <;> cases hclosed

section

variable (htask : r.session.tasks[n]? = some task)
include htask

theorem readOn (hloose : task.stage.isLoose = true) (recorded : Bool) :
    (r.readOn n task recorded).Timed context := by
  have hreading := h.loose htask hloose .reading
  cases recorded with
  | false => exact hreading
  | true => exact hreading.activity task

theorem relayed (hkind : task.kind = .targetWriter) (hstage : task.stage = .relaying writer)
    (hwriter : writerStep r.shutdown (r.session.links task.token) writer choice =
      (writer', link, log)) (hnext : let linked := { r with session :=
        { r.session with links := Function.update r.session.links task.token link } }
      writer' = .ended false ∧ r' = linked.setStage n task (.ending task.closedEvent) ∨
        r' = linked.setStage n task (.relaying writer')) :
    r'.Timed context := by
  have haborted := writerStep_aborted hwriter
  have hfailed (hended : task.stage = .relaying (.ended true)) : writer' = .ended true := by
    cases hstage.symm.trans hended
    cases choice <;> exact (congrArg Prod.fst hwriter).symm
  have hbusy {flowId : Nat} (hopen : r.shutdown = false) (hlink : link.aborted = false)
      (hupload : Uploading r.session.tasks r.events flowId task.token
        (r.session.links task.token)) :
      writer' = .ended true ∨ writer'.isBusy = true ∧ link.closed = false ∧
        link.sender = true ∧ link.receiver = true ∧ .close ∉ link.queue := by
    obtain ⟨other, hother, hbusy⟩ := hupload.writer task (List.mem_of_getElem? htask) hkind rfl
    cases hstage.symm.trans hother
    have hbefore : (r.session.links task.token).aborted = false := by
      rw [Bool.eq_false_iff]
      intro hold
      simp [haborted hold] at hlink
    rw [hopen] at hwriter
    have hnext := writerStep_busy hbusy hbefore hupload.closed hupload.sender hupload.queue hwriter
    rwa [hupload.receiver] at hnext
  obtain ⟨rfl, rfl⟩ | rfl := hnext
  · refine Relay.Timed.writerMoved h htask hkind haborted (fun hended => nomatch hfailed hended)
      fun hopen hlink _ hupload => ?_
    rcases hbusy hopen hlink hupload with hended | hgood
    · cases hended
    · cases hgood.1
  · refine Relay.Timed.writerMoved h htask hkind haborted
      (fun hended => congrArg TaskStage.relaying (hfailed hended)) fun hopen hlink hended hupload => ?_
    obtain ⟨hbusy, hlinked⟩ := (hbusy hopen hlink hupload).resolve_left
      fun hfail => hended (congrArg TaskStage.relaying hfail)
    exact ⟨⟨writer', rfl, hbusy⟩, hlinked⟩

theorem taskMoves
    (hstaged : task.WellStaged) (hmoves : TaskMoves r n task r') : r'.Timed context := by
  cases hmoves with
  | next hnext => exact h.setStage htask (.of_next hnext)
  | read hactive recorded => exact h.readOn htask (isLoose_of_isActive hactive) recorded
  | failed hstage => exact h.failTask htask hstage
  | relayed hstage choice hwriter hnext =>
    have hkind : task.kind = .targetWriter := by simpa [Task.WellStaged, hstage] using hstaged
    exact h.relayed htask hkind hstage hwriter hnext
  | told hstage => exact Relay.Timed.told h htask hstaged hstage _

theorem taskSteps (hstaged : task.WellStaged) (hsteps : TaskSteps r n task choice r' evs) :
    r'.Timed context := by
  cases hsteps with
  | stay | took => exact h
  | wrote outcome _ _ hnext => exact (h.release outcome).taskMoves htask hstaged hnext
  | dialed hstage result => exact h.loose htask (by rw [hstage]; rfl) _
  | moved _ hnext => exact h.taskMoves htask hstaged hnext

end

end

end RelaySession.Timed

structure TaskLocal (task : Task) (r r' : RelaySession) : Prop where
  table : r'.session.targetWriters = r.session.targetWriters
  loop : r'.loop = r.loop
  links : ∀ token, token ≠ task.token → r'.session.links token = r.session.links token
  tasks : ∀ other ∈ r'.session.tasks, other ∈ r.session.tasks ∨ other.token = task.token
  events : ∀ queued ∈ r'.events, queued ∈ r.events ∨
    ∀ flowId token, queued.event = .writeClosed flowId token → token = task.token

namespace TaskLocal

variable {task : Task} {r r' r'' : RelaySession}

theorem refl (task : Task) (r : RelaySession) : TaskLocal task r r :=
  ⟨rfl, rfl, fun _ _ => rfl, fun _ h => .inl h, fun _ h => .inl h⟩

theorem trans (h : TaskLocal task r r') (h' : TaskLocal task r' r'') : TaskLocal task r r'' where
  table := h'.table.trans h.table
  loop := h'.loop.trans h.loop
  links := fun token hne => (h'.links token hne).trans (h.links token hne)
  tasks := fun other hother => (h'.tasks other hother).elim (h.tasks other) .inr
  events := fun queued hqueued => (h'.events queued hqueued).elim (h.events queued) .inr

theorem linked (task : Task) (r : RelaySession) (link : TargetLink) :
    TaskLocal task r { r with session :=
      { r.session with links := Function.update r.session.links task.token link } } :=
  ⟨rfl, rfl, fun _ hne => Function.update_of_ne hne _ _, fun _ h => .inl h, fun _ h => .inl h⟩

theorem setStage (task : Task) (r : RelaySession) (n : Nat) (stage : TaskStage) :
    TaskLocal task r (r.setStage n task stage) := by
  refine ⟨rfl, rfl, fun _ _ => rfl, fun other hother => ?_, fun _ h => .inl h⟩
  refine (List.mem_or_eq_of_mem_set hother).imp id ?_
  rintro rfl
  rfl

theorem push (r : RelaySession) (event : FlowEvent)
    (hevent : ∀ flowId token, event = .writeClosed flowId token → token = task.token) :
    TaskLocal task r (r.push task event) := by
  refine ⟨rfl, rfl, fun _ _ => rfl, fun _ h => .inl h, fun queued hqueued => ?_⟩
  refine (List.mem_append.mp hqueued).imp id fun hqueued => ?_
  rw [List.mem_singleton.mp hqueued]
  exact hevent

theorem failTask (task : Task) (r : RelaySession) (n : Nat) :
    TaskLocal task r (r.failTask n task) := by
  unfold RelaySession.failTask
  split
  · exact .setStage task r n _
  · exact (linked task r (r.session.links task.token).abort).trans (.setStage task _ n _)

theorem readOn (task : Task) (r : RelaySession) (n : Nat) (recorded : Bool) :
    TaskLocal task r (r.readOn n task recorded) := by
  refine (setStage task r n .reading).trans ?_
  unfold RelaySession.readOn
  split
  · refine .push _ _ fun flowId token hevent => ?_
    unfold Task.activityEvent at hevent
    split at hevent <;> cases hevent
  · exact .refl _ _

theorem release (task : Task) (r : RelaySession) (outcome : WriteOutcome) :
    TaskLocal task r (r.release outcome) :=
  ⟨rfl, rfl, fun _ _ => rfl, fun _ h => .inl h, fun _ h => .inl h⟩

theorem taskMoves (hstaged : task.WellStaged) (hmoves : TaskMoves r n task r') :
    TaskLocal task r r' := by
  cases hmoves with
  | next => exact .setStage task r n _
  | read _ recorded => exact .readOn task r n recorded
  | failed => exact .failTask task r n
  | relayed _ _ _ hnext =>
    obtain ⟨-, rfl⟩ | rfl := hnext
    · exact (linked task r _).trans (.setStage _ _ _ _)
    · exact (linked task r _).trans (.setStage _ _ _ _)
  | told hending =>
    refine (setStage task r n .done).trans (.push _ _ ?_)
    rintro flowId token rfl
    exact (hstaged.told hending rfl).2.1

theorem taskSteps (hstaged : task.WellStaged) (hsteps : TaskSteps r n task choice r' evs) :
    TaskLocal task r r' := by
  cases hsteps with
  | stay => exact .refl task r
  | took => exact ⟨rfl, rfl, fun _ _ => rfl, fun _ h => .inl h, fun _ h => .inl h⟩
  | wrote outcome _ _ hnext => exact (release task r outcome).trans (.taskMoves hstaged hnext)
  | dialed => exact .setStage task r n _
  | moved _ hnext => exact .taskMoves hstaged hnext

end TaskLocal

def LoopStage.script? : LoopStage → Option Script
  | .ready => some []
  | .running script => some script
  | .stopping | .closed => none

structure Installing (r : RelaySession) (token : FlowToken) : Prop where
  link : r.session.links token = .new
  tasks : ∀ task ∈ r.session.tasks, task.token ≠ token
  events : ∀ queued ∈ r.events, ∀ flowId, queued.event ≠ .writeClosed flowId token

structure Watched (context : RelayContext) (r : RelaySession) : Prop where
  timed : r.Timed context
  gone : ∀ script, r.loop.script? = some script → GoneSoon script r.session
  installing : ∀ script flow, r.loop = .running script → Installs script flow →
    Installing r flow.token

section

variable {context : RelayContext} {r r' : RelaySession}

theorem GoneSoon.weaken (h : GoneSoon [] s) (script : Script) : GoneSoon script s :=
  fun _ _ hslot hremovable => absurd (h hslot hremovable) (by simp)

theorem Watched.start (context : RelayContext) : Watched context .start where
  timed := fun _ _ hslot => by simp [RelaySession.start, Session.start] at hslot
  gone := fun _ _ _ _ hslot => by simp [RelaySession.start, Session.start] at hslot
  installing := nofun

theorem RelaySession.Timed.of_shutdown (h : r.Timed context) (hshutdown : r'.shutdown = true)
    (htable : r'.session.targetWriters = r.session.targetWriters) : r'.Timed context := by
  intro flowId flow hslot
  rw [htable] at hslot
  rw [hshutdown]
  exact .of_shutdown (h hslot).write

theorem Watched.stop (h : r.Timed context) : Watched context r.stop where
  timed := h.of_shutdown rfl rfl
  gone := nofun
  installing := nofun

theorem Watched.resume (h : r.Timed context) (hgone : GoneSoon script r.session)
    (hinstalling : ∀ flow, Installs script flow → Installing r flow.token) :
    Watched context (r.resume script) := by
  cases script with
  | nil =>
    simp only [RelaySession.resume]
    split
    · exact .stop h
    · refine ⟨h, fun script hscript => ?_, nofun⟩
      cases hscript
      exact hgone
  | cons instr rest =>
    refine ⟨h, fun script hscript => ?_, fun script flow hloop => ?_⟩
    · cases hscript
      exact hgone
    · cases hloop
      intro hinstalls
      have hnew := hinstalling flow hinstalls
      exact ⟨hnew.link, hnew.tasks, hnew.events⟩

theorem Watched.handled {handled : Handled} {events : List Queued}
    (h : Relay.Timed context r.shutdown events handled.1)
    (hgone : GoneSoon handled.2 handled.1) (hmodest : Modest handled.2) :
    Watched context ({ r with events := events }.handle handled) :=
  .resume h hgone fun _ hinstalls => absurd hinstalls hmodest.not_installs

theorem Watched.moved (h : Watched context r) {n : Nat} {task : Task}
    (htask : r.session.tasks[n]? = some task) (htimed : r'.Timed context)
    (hlocal : TaskLocal task r r') : Watched context r' where
  timed := htimed
  gone := fun script hscript flowId flow hslot => by
    rw [hlocal.loop] at hscript
    rw [hlocal.table] at hslot
    exact h.gone script hscript hslot
  installing := fun script flow hloop hinstalls => by
    rw [hlocal.loop] at hloop
    have hold := h.installing script flow hloop hinstalls
    have hne := hold.tasks task (List.mem_of_getElem? htask)
    refine ⟨(hlocal.links flow.token hne.symm).trans hold.link, fun other hother => ?_, ?_⟩
    · rcases hlocal.tasks other hother with hother | htoken
      · exact hold.tasks other hother
      · exact htoken ▸ hne
    · intro queued hqueued flowId hevent
      rcases hlocal.events queued hqueued with hqueued | htoken
      · exact hold.events queued hqueued flowId hevent
      · exact hne (htoken flowId flow.token hevent).symm

theorem Watched.datagram (h : Watched context r) (flowId : Nat) (payload : Bytes) :
    Watched context
      { r with events := r.events ++ [⟨none, .inboundDatagram flowId payload⟩] } where
  timed := Relay.Timed.push h.timed nofun
  gone := h.gone
  installing := fun script flow hloop hinstalls => by
    have hold := h.installing script flow hloop hinstalls
    refine ⟨hold.link, hold.tasks, fun queued hqueued => ?_⟩
    rcases List.mem_append.mp hqueued with hqueued | hqueued
    · exact hold.events queued hqueued
    · rw [List.mem_singleton.mp hqueued]
      exact nofun

theorem Timed.openSlot (h : Timed context shutdown events s) (udp : Bool) (flowId : Nat)
    (target : Target) (permit : Nat) :
    Timed context shutdown events (s.openSlot udp flowId target permit) := by
  intro other flow hslot
  rcases openSlot_lookup.mp hslot with ⟨-, hopening⟩ | ⟨-, hslot⟩
  · cases udp <;> cases hopening
  · have hadded : Added s.tasks (s.openSlot udp flowId target permit).tasks := by
      refine ⟨_, rfl, fun task htask => ?_⟩
      rw [List.mem_singleton.mp htask]
      cases udp <;> exact nofun
    exact (h hslot).elsewhere hadded (.refl (other + 1) events) (Nat.ne_of_lt (Nat.lt_succ_self _))

theorem GoneSoon.openSlot (h : GoneSoon [] s) (udp : Bool) (flowId : Nat) (target : Target)
    (permit : Nat) : GoneSoon [] (s.openSlot udp flowId target permit) := by
  intro other flow hslot
  rcases openSlot_lookup.mp hslot with ⟨-, hopening⟩ | ⟨-, hslot⟩
  · cases udp <;> cases hopening
  · exact h hslot

section

variable (h : Watched context r) (hsound : Sound r)
include h hsound

theorem Watched.accepted (hready : r.loop = .ready) (hevents : r.events = queued :: events)
    (hevent : queued.event = dialEvent udp flowId cancel.token target (.ok socket)) :
    Watched context
      ({ r with events := events }.handle (acceptOpen udp flowId cancel socket r.session)) := by
  have hgone : GoneSoon [] r.session := h.gone [] (by rw [hready]; rfl)
  have hheard : Relay.Timed context r.shutdown events r.session := by
    have htimed : Relay.Timed context r.shutdown (queued :: events) r.session :=
      hevents ▸ h.timed
    refine htimed.heard fun _ _ _ => ?_
    rw [hevent]
    cases udp <;> exact nofun
  refine .resume ?_ ?_ ?_
  · intro other flow hslot
    have hne : flow.token ≠ r.session.flowTokens :=
      Nat.ne_of_lt (hsound.tagged.slotOwns hslot).token_lt
    have hlink : (acceptOpen udp flowId cancel socket r.session).1.links flow.token =
        r.session.links flow.token := Function.update_of_ne hne _ _
    dsimp only
    rw [hlink]
    exact hheard hslot
  · exact hgone.weaken _
  · intro flow hinstalls
    have htoken : flow.token = r.session.flowTokens := by
      simp only [acceptOpen, sendOpened] at hinstalls
      split at hinstalls <;> rcases hinstalls with hone | ⟨ack, token, htwo⟩
      · cases hone
      · cases htwo
        rfl
      · cases hone
      · cases htwo
    rw [htoken]
    refine ⟨Function.update_self _ _ _, fun task htask => ?_, fun other hother flowId' hclosed => ?_⟩
    · obtain ⟨n, hn⟩ := List.mem_iff_getElem?.mp htask
      exact Nat.ne_of_lt (hsound.tagged.taskOwns hn).token_lt
    · have hmem : other ∈ r.events := hevents ▸ List.mem_cons_of_mem _ hother
      have htag : other.event.tag = some (flowId', r.session.flowTokens) := by rw [hclosed]; rfl
      obtain ⟨origin, -, howns, -⟩ := hsound.events other hmem flowId' _ htag
      exact absurd howns.token_lt (Nat.lt_irrefl _)

theorem Watched.removed (hloop : r.loop = .running (.remove flowId :: rest)) :
    Watched context (r.handle (r.session.removeFlowSlot flowId, rest)) := by
  have helsewhere := (Elsewhere.refl flowId r.session).remove hsound.tagged
  have hgone := h.gone _ (by rw [hloop]; rfl)
  refine .handled (r := r) ?_ ?_ (hsound.loop.modest_rest hloop)
  · refine Relay.Timed.elsewhere h.timed helsewhere (.refl flowId _) fun hslot => ?_
    simp at hslot
  · intro other flow hslot hremovable
    by_cases hne : other = flowId
    · subst hne
      simp at hslot
    · have hremove := hgone (helsewhere.slots hne hslot) hremovable
      rcases List.mem_cons.mp hremove with hsame | hremove
      · cases hsame
        exact absurd rfl hne
      · exact hremove

theorem Watched.established (hloop : r.loop = .running (.establish flow :: rest)) (now : Instant) :
    Watched context (r.handle (r.session.establish flow now, rest)) := by
  obtain ⟨rfl, howns, -⟩ := hsound.loop.establish hloop
  have hgone := h.gone _ (by rw [hloop]; rfl)
  have hnew := h.installing _ flow hloop (.inl rfl)
  refine .handled (r := r) ?_ ?_ (show Modest [] from trivial)
  · intro flowId found hslot
    rcases establish_lookup.mp hslot with ⟨rfl, hfound⟩ | ⟨hne, hslot⟩
    · unfold Established.slot at hfound
      split at hfound
      · cases hfound
      · rename_i hudp
        cases hfound
        refine ⟨nofun, fun _ _ _ => ?_, fun _ _ _ closedSide hdrains => ?_⟩
        · have hlink : (r.session.establish flow now).links flow.token = .new := hnew.link
          rw [show (TargetFlow.new flow.token flow.permit flow.origin flow.socket).token =
            flow.token from rfl, hlink]
          refine ⟨rfl, rfl, rfl, nofun, fun task htask hkind htoken => ?_, fun queued hqueued => ?_⟩
          · rcases List.mem_append.mp htask with htask | htask
            · exact absurd htoken (hnew.tasks task htask)
            · simp only [Established.tasks, hudp] at htask
              rcases List.mem_cons.mp htask with rfl | htask
              · cases hkind
              · rw [List.mem_singleton.mp htask]
                exact ⟨.head, rfl, rfl⟩
          · exact hnew.events queued hqueued flow.flowId
        · cases closedSide <;> cases hdrains
    · have hold := h.timed hslot
      have htoken : found.token ≠ flow.token := by
        intro htoken
        have hslotOwns := hsound.tagged.slotOwns hslot
        rw [show (FlowSlot.tcp found).token = found.token from rfl, htoken] at hslotOwns
        exact hne (congrArg Prod.snd (hslotOwns.token_owner.symm.trans howns.token_owner))
      refine ⟨hold.write, fun hopen hhale hclient => ?_,
        fun htimeout hopen hhale closedSide hdrains => ?_⟩
      · have hupload := hold.upload hopen (hhale.mono (List.subset_append_left _ _)) hclient
        refine ⟨hupload.closed, hupload.sender, hupload.receiver, hupload.queue, ?_, hupload.event⟩
        intro task htask hkind htaskToken
        obtain ⟨n, hn⟩ := List.mem_iff_getElem?.mp htask
        rcases establish_tasks hn with hn | ⟨-, hother, -⟩
        · exact hupload.writer task (List.mem_of_getElem? hn) hkind htaskToken
        · exact absurd (htaskToken.symm.trans hother) htoken
      · obtain ⟨n, timer, htimer, hmember, hpending⟩ :=
          hold.timer htimeout hopen (hhale.mono (List.subset_append_left _ _)) closedSide hdrains
        refine ⟨n, timer, htimer, ?_, hpending⟩
        exact (List.getElem?_append_left (List.getElem?_eq_some_iff.mp hmember).1).trans hmember
  · intro flowId found hslot hremovable
    rcases establish_lookup.mp hslot with ⟨-, hfound⟩ | ⟨-, hslot⟩
    · unfold Established.slot at hfound
      split at hfound
      · cases hfound
      · cases hfound
        cases hremovable
    · exact absurd (hgone hslot hremovable) (by simp)

theorem Watched.readyStep (hready : r.loop = .ready)
    (action : RelayAction) : Watched context (r.readyStep context action).1 := by
  have hgone : GoneSoon [] r.session := h.gone [] (by rw [hready]; rfl)
  cases action with
  | frame frame env =>
    simp only [RelaySession.readyStep]
    have hmodest := handleSessionFrame_modest context env frame r.session
    have htimed : Relay.Timed context r.shutdown r.events r.session := h.timed
    rcases handleSessionFrame_settles htimed hsound.tagged hgone env frame with
      ⟨udp, target, permit, -, hhandled⟩ | hsettles
    · rw [hhandled]
      exact .handled (r := r) (Relay.Timed.openSlot h.timed _ _ _ _) (hgone.openSlot _ _ _ _) trivial
    · exact .handled (r := r) (hsettles.timedAll h.timed (.refl _ _)) (hsettles.goneSoon hgone)
        hmodest
  | event env =>
    simp only [RelaySession.readyStep]
    split
    · exact h
    · rename_i queued events hevents
      have htimed : Relay.Timed context r.shutdown (queued :: events) r.session :=
        hevents ▸ h.timed
      rcases handleFlowEvent_cases context env queued.event r.session with
        ⟨udp, flowId, target, socket, cancel, hevent, -, hhandled⟩ | ⟨-, hneat⟩
      · rw [hhandled]
        exact h.accepted hsound hready hevents hevent
      · rcases handleFlowEvent_settles htimed hsound.tagged hgone env with
          ⟨udp, flowId, target, socket, cancel, hevent, -, hhandled⟩ | ⟨flowId, hheard, hsettles⟩
        · rw [hhandled]
          exact h.accepted hsound hready hevents hevent
        · exact .handled (hsettles.timedAll htimed hheard) (hsettles.goneSoon hgone) hneat.modest
  | udpIdleMaintenance order now =>
    exact .handled (r := r) h.timed (hgone.weaken _)
      (closeIdleUdpFlows_neat context order now r.session).modest
  | frameReadError error =>
    exact .handled (r := r) h.timed (hgone.weaken _)
      (reportFrameIoError_neat r.session.targetWriters error).modest
  | shutdown =>
    have hdraining : ∀ session, session = r.session ∨
        session = { r.session with state := .draining } →
        Watched context (r.handle (session, [])) := by
      rintro session (rfl | rfl)
      · exact .handled (r := r) h.timed hgone trivial
      · exact .handled (r := r) h.timed hgone trivial
    refine hdraining _ ?_
    split
    · exact .inr rfl
    · exact .inl rfl
  | leave => exact .stop h.timed
  | loop choice | closeFlows | task n choice recorded | abortTask n => exact h
  | datagram flowId payload => exact h

theorem Watched.resumed
    (hloop : r.loop = .running (instr :: rest)) (hframe : instr.frame? = some frame)
    (htimed : r'.Timed context) (hsession : r'.session = r.session) (hevents : r'.events = r.events) :
    Watched context (r'.resume rest) := by
  refine .resume htimed ?_ ?_
  · intro flowId flow hslot hremovable
    rw [hsession] at hslot
    have hremove := h.gone _ (by rw [hloop]; rfl) hslot hremovable
    rcases List.mem_cons.mp hremove with hsame | hremove
    · rw [← hsame] at hframe
      cases hframe
    · exact hremove
  · intro flow hinstalls
    have hnew := h.installing _ flow hloop (hsound.loop.installs hloop ?_ hinstalls)
    · refine ⟨?_, ?_, ?_⟩
      · rw [hsession]
        exact hnew.link
      · rw [hsession]
        exact hnew.tasks
      · rw [hevents]
        exact hnew.events
    · rintro error rfl
      cases hframe

theorem Watched.loopMoves
    (hloop : r.loop = .running (instr :: rest)) (hmoves : LoopMoves r instr rest choice r' evs) :
    Watched context r' := by
  cases hmoves with
  | stay => exact h
  | took =>
    refine ⟨h.timed, h.gone, fun script flow hloop hinstalls => ?_⟩
    have hnew := h.installing script flow hloop hinstalls
    exact ⟨hnew.link, hnew.tasks, hnew.events⟩
  | passed hframe => exact h.resumed hsound hloop hframe h.timed rfl rfl
  | wrote outcome hframe _ hnext =>
    obtain rfl | rfl := hnext
    · exact h.resumed hsound hloop hframe (h.timed.release outcome) rfl rfl
    · exact .stop (h.timed.release outcome)
  | removed hinstr => exact h.removed hsound (hinstr ▸ hloop)
  | established hinstr => exact h.established hsound (hinstr ▸ hloop) _
  | stopped => exact .stop h.timed

theorem Watched.step (action : RelayAction) : Watched context (r.step context action).1 := by
  unfold RelaySession.step
  split
  · rename_i n choice recorded
    split
    · exact h
    · rename_i task htask
      have hstaged := hsound.tagged.staged htask
      have hsteps := taskStep_moves context r n task choice recorded
      exact h.moved htask (h.timed.taskSteps htask hstaged hsteps) (.taskSteps hstaged hsteps)
  · rename_i flowId payload
    split
    · exact h.datagram flowId payload
    · exact h
  · split
    · rename_i hready _ _
      exact h.readyStep hsound hready _
    · rename_i hloop _ _
      exact h.loopMoves hsound hloop (loopStep_moves r _ _ _)
    · refine ⟨fun _ _ hslot => ?_, nofun, nofun⟩
      simp [closeTargetFlows] at hslot
    · rename_i hloop _ _
      have hshutdown : r.shutdown = true := by
        have hclosed := hsound.loop
        unfold LoopSound at hclosed
        rwa [hloop] at hclosed
      split
      · exact h
      · refine ⟨h.timed.of_shutdown hshutdown rfl, ?_, ?_⟩
        · intro script hscript
          rw [show _ = r.loop from rfl, hloop] at hscript
          cases hscript
        · intro script flow hrunning
          cases hloop.symm.trans hrunning
    · exact h

end

theorem run_watched (context : RelayContext) (actions : List RelayAction) :
    Sound (run (RelaySession.step context) .start actions).1 ∧
      Watched context (run (RelaySession.step context) .start actions).1 :=
  run_invariant (fun _ r => Sound r ∧ Watched context r)
    (fun _ r action _ h => ⟨((step_moves context r action).sound h.1).1, h.2.step h.1 action⟩)
    ⟨Sound.start, .start context⟩ (along_true RelaySession.start actions)

theorem drains_of_half_open {flow : TargetFlow}
    (h : flow.targetToClientOpen ≠ flow.clientToTargetOpen) :
    ∃ closedSide : HalfCloseSide, closedSide.drains flow = true := by
  cases hclient : flow.clientToTargetOpen with
  | false =>
    refine ⟨.clientToTarget, ?_⟩
    simp_all [HalfCloseSide.drains]
  | true =>
    refine ⟨.targetToClient, ?_⟩
    simp_all [HalfCloseSide.drains]

/-- A timer is heard by its own flow only, for the side it was started for. -/
theorem handleHalfCloseDrainExpired_cases (context : RelayContext) (flowId : Nat)
    (token : FlowToken) (closedSide : HalfCloseSide) (s : Session) :
    handleHalfCloseDrainExpired context flowId token closedSide s = (s, []) ∨
      ∃ flow, s.targetWriters.lookup flowId = some (.tcp flow) ∧ flow.token = token ∧
        closedSide.drains flow = true ∧ ∀ other, other ≠ flowId →
        (handleHalfCloseDrainExpired context flowId token closedSide s).1.targetWriters.lookup
            other = s.targetWriters.lookup other ∧
        .remove other ∉ (handleHalfCloseDrainExpired context flowId token closedSide s).2 := by
  unfold handleHalfCloseDrainExpired
  split
  · exact .inl rfl
  · rename_i flow hflow
    split
    · exact .inl rfl
    · rename_i hheard
      simp only [Bool.or_eq_true, decide_eq_true_eq, Bool.not_eq_true', not_or, not_not,
        Bool.not_eq_false] at hheard
      refine .inr ⟨flow, openTargetFlow_eq_some.mp hflow, hheard.1, hheard.2, ?_⟩
      intro other hne
      refine ⟨AList.lookup_insert_ne hne, fun hremove => ?_⟩
      rcases List.mem_append.mp hremove with htell | hremove
      · cases closedSide with
        | targetToClient =>
          simp only [sendFrameOrLog] at htell
          split at htell <;> simp at htell
        | clientToTarget =>
          simp only [sendTcpClose, sendFrame] at htell
          split at htell <;> simp at htell
      · split at hremove
        · cases List.mem_singleton.mp hremove
          exact hne rfl
        · cases hremove

end

/-- A flow whose write side is closed takes no more data, a half-closed one waits for its timer,
and one that is closed is about to be removed. -/
theorem half_closed_flows_timed (context : RelayContext) (actions : List RelayAction) :
    let r := (run (RelaySession.step context) .start actions).1
    (∀ flowId flow, r.session.targetWriters.lookup flowId = some (.tcp flow) →
      (flow.targetWriteOpen = false → flow.clientToTargetOpen = false) ∧
      (r.loop = .ready → flow.isRemovable = false) ∧
      (∀ script, r.loop = .running script → flow.isRemovable = true → .remove flowId ∈ script) ∧
      (context.limits.tcpHalfCloseTimeout.isSome = true → r.shutdown = false →
        flow.targetToClientOpen ≠ flow.clientToTargetOpen →
        (r.session.links flow.token).aborted = true ∨ WriterFailed r.session.tasks flow.token ∨
          ∃ closedSide, closedSide.drains flow = true ∧
            TimerPending r.session.tasks r.events flowId flow closedSide)) ∧
    ∀ flowId token closedSide env,
      let handled := handleFlowEvent context env (.halfCloseDrainExpired flowId token closedSide)
        r.session
      handled = (r.session, []) ∨
        ∃ flow, r.session.targetWriters.lookup flowId = some (.tcp flow) ∧ flow.token = token ∧
          closedSide.drains flow = true ∧ ∀ other, other ≠ flowId →
          handled.1.targetWriters.lookup other = r.session.targetWriters.lookup other ∧
            .remove other ∉ handled.2 := by
  obtain ⟨-, hwatched⟩ := run_watched context actions
  refine ⟨fun flowId flow hslot => ⟨(hwatched.timed hslot).write, ?_, ?_, ?_⟩,
    fun flowId token closedSide _ =>
      handleHalfCloseDrainExpired_cases context flowId token closedSide _⟩
  · intro hready
    rw [Bool.eq_false_iff]
    intro hremovable
    have hremove := hwatched.gone [] (by rw [hready]; rfl) hslot hremovable
    simp at hremove
  · intro script hrunning hremovable
    exact hwatched.gone script (by rw [hrunning]; rfl) hslot hremovable
  · intro htimeout hopen hhalf
    obtain ⟨closedSide, hdrains⟩ := drains_of_half_open hhalf
    cases haborted :
        ((run (RelaySession.step context) .start actions).1.session.links flow.token).aborted with
    | true => exact .inl rfl
    | false =>
      refine .inr (or_iff_not_imp_left.mpr fun hfailed => ⟨closedSide, hdrains, ?_⟩)
      exact (hwatched.timed hslot).timer htimeout hopen ⟨haborted, hfailed⟩ closedSide hdrains

def timedContext : RelayContext :=
  { sampleContext with limits := { sampleContext.limits with tcpHalfCloseTimeout := some 30 } }

/-- The writer sees the shutdown and ends; the frame the loop takes before it does is data for it.
-/
def dataAfterShutdown : List RelayAction :=
  sampleEstablish 0 ++
    [.task 1 (.read [5]) false, .task 1 .acquire false, .task 1 (.finish .timedOut) false,
      .task 2 (.writer .go) false, .task 2 (.writer .shutdown) false, .task 2 (.writer .go) false,
      .task 2 (.writer .go) false,
      .frame ⟨⟨protocolVersion, .tcpData, 0, 1, 1⟩, [9]⟩ sampleEnv]

/-- A write fails; the loop takes data for the flow before the writer aborts it. -/
def dataAfterFailure : List RelayAction :=
  sampleEstablish 0 ++
    [.frame ⟨⟨protocolVersion, .tcpData, 0, 1, 1⟩, [8]⟩ sampleEnv, .task 2 (.writer .go) false,
      .task 2 (.writer .command) false, .task 2 (.writer .go) false,
      .task 2 (.writer .failed) false,
      .frame ⟨⟨protocolVersion, .tcpData, 0, 1, 1⟩, [9]⟩ sampleEnv]

theorem half_closed_without_timer :
    (run (RelaySession.step timedContext) .start dataAfterFailure).1.shutdown = false ∧
    ∀ actions ∈ [dataAfterShutdown, dataAfterFailure],
      let r := (run (RelaySession.step timedContext) .start actions).1
      ∃ flow, r.session.targetWriters.lookup 1 = some (.tcp flow) ∧
        flow.targetToClientOpen = true ∧ flow.clientToTargetOpen = false ∧
        flow.halfCloseTimer = none ∧ (r.session.links flow.token).aborted = false := by
  refine ⟨by decide +kernel, fun actions hactions => ⟨⟨2, true, false, true, none, some 0, 1, 7⟩, ?_⟩⟩
  revert actions
  decide +kernel

end UncrownedKing.Relay
