import UncrownedKing.Relay.IncarnationLaws

/-!
# Half-closed flows

Each direction of a TCP flow closes on its own, and a timer bounds how long the
other may stay open.
-/

namespace UncrownedKing.Relay

open Lib Net Proto Auth Server

def WriterStage.isBusy : WriterStage → Bool
  | .head | .selecting | .received (.data _) false | .writing _ false => true
  | _ => false

structure Uploading (tasks : List Task) (events : List Queued) (flowId : Nat) (token : FlowToken)
    (link : TargetLink) : Prop where
  closed : link.closed = false
  sender : link.sender = true
  receiver : link.receiver = true
  queue : .close ∉ link.queue
  writer : ∀ task ∈ tasks, task.kind = .targetWriter → task.token = token →
    ∃ writer, task.stage = .relaying writer ∧ writer.isBusy = true
  event : ∀ queued ∈ events, queued.event ≠ .writeClosed flowId token

/-- The flow's timer for the closed side has not been heard yet. -/
def TimerPending (tasks : List Task) (events : List Queued) (flowId : Nat) (flow : TargetFlow)
    (closedSide : HalfCloseSide) : Prop :=
  ∃ n task, flow.halfCloseTimer = some n ∧ tasks[n]? = some task ∧
    task.kind = .halfCloseTimer closedSide ∧ task.flowId = flowId ∧ task.token = flow.token ∧
    (task.stage = .sleeping ∨ task.stage = .ending task.closedEvent ∨
      ∃ queued ∈ events, queued.event = task.closedEvent)

/-- The flow's writer has failed and dropped its receiver; it has yet to abort the flow. -/
def WriterFailed (tasks : List Task) (token : FlowToken) : Prop :=
  ∃ task ∈ tasks, task.kind = .targetWriter ∧ task.token = token ∧
    task.stage = .relaying (.ended true)

def Hale (tasks : List Task) (link : TargetLink) (token : FlowToken) : Prop :=
  link.aborted = false ∧ ¬WriterFailed tasks token

/-- While nothing has gone wrong, an open upload has a busy writer and a half-closed flow a timer.
-/
structure FlowTimed (context : RelayContext) (shutdown : Bool) (tasks : List Task)
    (events : List Queued) (flowId : Nat) (flow : TargetFlow) (link : TargetLink) : Prop where
  write : flow.targetWriteOpen = false → flow.clientToTargetOpen = false
  upload : shutdown = false → Hale tasks link flow.token → flow.clientToTargetOpen = true →
    Uploading tasks events flowId flow.token link
  timer : context.limits.tcpHalfCloseTimeout.isSome = true → shutdown = false →
    Hale tasks link flow.token → ∀ closedSide, closedSide.drains flow = true →
    TimerPending tasks events flowId flow closedSide

section

variable {context : RelayContext} {shutdown : Bool} {tasks tasks' : List Task}
  {events events' : List Queued} {flowId : Nat} {flow : TargetFlow} {link : TargetLink}

theorem Hale.mono (h : Hale tasks' link token) (hsub : tasks ⊆ tasks') : Hale tasks link token := by
  refine ⟨h.1, ?_⟩
  rintro ⟨task, htask, hfailed⟩
  exact h.2 ⟨task, hsub htask, hfailed⟩

theorem Hale.of_set {n : Nat} (h : Hale (tasks.set n { task with stage := stage }) link token)
    (htask : tasks[n]? = some task)
    (hkept : task.token = token → task.stage = .relaying (.ended true) →
      stage = .relaying (.ended true)) : Hale tasks link token := by
  refine ⟨h.1, ?_⟩
  rintro ⟨other, hother, hkind, htoken, hfailed⟩
  obtain ⟨m, hm⟩ := List.mem_iff_getElem?.mp hother
  by_cases hsame : n = m
  · subst hsame
    cases htask.symm.trans hm
    have hlt := (List.getElem?_eq_some_iff.mp htask).1
    exact h.2 ⟨{ task with stage := stage }, List.mem_set hlt _, hkind, htoken,
      hkept htoken hfailed⟩
  · exact h.2 ⟨other, List.mem_of_getElem? ((List.getElem?_set_ne hsame).trans hm), hkind, htoken,
      hfailed⟩

theorem FlowTimed.of_aborted (haborted : link.aborted = true)
    (hwrite : flow.targetWriteOpen = false → flow.clientToTargetOpen = false) :
    FlowTimed context shutdown tasks events flowId flow link where
  write := hwrite
  upload := fun _ h => absurd haborted (by simp [h.1])
  timer := fun _ _ h => absurd haborted (by simp [h.1])

theorem FlowTimed.of_shutdown
    (hwrite : flow.targetWriteOpen = false → flow.clientToTargetOpen = false) :
    FlowTimed context true tasks events flowId flow link where
  write := hwrite
  upload := nofun
  timer := nofun

structure Heard (flowId : Nat) (events events' : List Queued) : Prop where
  fewer : ∀ queued ∈ events', queued ∈ events
  rest : ∀ queued ∈ events, queued ∈ events' ∨ ∀ other token closedSide,
    queued.event = .halfCloseDrainExpired other token closedSide → other = flowId

theorem Heard.refl (flowId : Nat) (events : List Queued) : Heard flowId events events :=
  ⟨fun _ h => h, fun _ h => .inl h⟩

def Added (tasks tasks' : List Task) : Prop :=
  ∃ more, tasks' = tasks ++ more ∧ ∀ task ∈ more, task.kind ≠ .targetWriter

theorem Added.refl (tasks : List Task) : Added tasks tasks := ⟨[], by simp, by simp⟩

theorem Added.trans (h : Added tasks tasks') (h' : Added tasks' tasks'') : Added tasks tasks'' := by
  obtain ⟨more, rfl, hmore⟩ := h
  obtain ⟨more', rfl, hmore'⟩ := h'
  refine ⟨more ++ more', by simp, fun task htask => ?_⟩
  exact (List.mem_append.mp htask).elim (hmore task) (hmore' task)

theorem Added.getElem? {n : Nat} (h : Added tasks tasks') (htask : tasks[n]? = some task) :
    tasks'[n]? = some task := by
  obtain ⟨more, rfl, -⟩ := h
  rw [List.getElem?_append_left (List.getElem?_eq_some_iff.mp htask).1]
  exact htask

theorem Added.subset (h : Added tasks tasks') : tasks ⊆ tasks' := by
  obtain ⟨more, rfl, -⟩ := h
  exact List.subset_append_left tasks more

theorem Added.writer (h : Added tasks tasks') (htask : task ∈ tasks')
    (hkind : task.kind = .targetWriter) : task ∈ tasks := by
  obtain ⟨more, rfl, hmore⟩ := h
  exact (List.mem_append.mp htask).elim id fun htask => absurd hkind (hmore task htask)

theorem Uploading.later (h : Uploading tasks events flowId token link)
    (hadded : Added tasks tasks') (hfewer : ∀ queued ∈ events', queued ∈ events) :
    Uploading tasks' events' flowId token link where
  closed := h.closed
  sender := h.sender
  receiver := h.receiver
  queue := h.queue
  writer := fun task htask hkind => h.writer task (hadded.writer htask hkind) hkind
  event := fun queued hqueued => h.event queued (hfewer queued hqueued)

theorem FlowTimed.elsewhere (h : FlowTimed context shutdown tasks events other flow link)
    (hadded : Added tasks tasks') (hheard : Heard flowId events events') (hne : other ≠ flowId) :
    FlowTimed context shutdown tasks' events' other flow link where
  write := h.write
  upload := fun hopen hhale hclient =>
    (h.upload hopen (hhale.mono hadded.subset) hclient).later hadded hheard.fewer
  timer := by
    intro htimeout hopen hhale closedSide hdrains
    obtain ⟨n, task, htimer, htask, hkind, hid, htoken, hpending⟩ :=
      h.timer htimeout hopen (hhale.mono hadded.subset) closedSide hdrains
    refine ⟨n, task, htimer, hadded.getElem? htask, hkind, hid, htoken, ?_⟩
    refine hpending.imp id (Or.imp id ?_)
    rintro ⟨queued, hqueued, hevent⟩
    refine ⟨queued, (hheard.rest queued hqueued).resolve_right ?_, hevent⟩
    intro hflow
    have hclosed : task.closedEvent = .halfCloseDrainExpired task.flowId task.token closedSide := by
      simp [Task.closedEvent, hkind]
    exact hne (hid.symm.trans (hflow _ _ _ (hevent.trans hclosed)))

end

def Timed (context : RelayContext) (shutdown : Bool) (events : List Queued) (s : Session) : Prop :=
  ∀ ⦃flowId flow⦄, s.targetWriters.lookup flowId = some (.tcp flow) →
    FlowTimed context shutdown s.tasks events flowId flow (s.links flow.token)

structure Elsewhere (flowId : Nat) (s s' : Session) : Prop where
  slots : ∀ {other slot}, other ≠ flowId → s'.targetWriters.lookup other = some slot →
    s.targetWriters.lookup other = some slot
  here : ∀ {slot'}, s'.targetWriters.lookup flowId = some slot' →
    ∃ slot, s.targetWriters.lookup flowId = some slot ∧ slot'.token = slot.token
  links : ∀ {other slot}, other ≠ flowId → s.targetWriters.lookup other = some slot →
    s'.links slot.token = s.links slot.token
  tasks : Added s.tasks s'.tasks

section

variable {context : RelayContext} {shutdown : Bool} {events events' : List Queued}
  {s s' s'' : Session} {flowId : Nat} {flow flow' : TargetFlow} {link : TargetLink}

theorem Tagged.token_ne (h : Tagged s) (hslot : s.targetWriters.lookup flowId = some slot)
    (hother : s.targetWriters.lookup other = some slot') (hne : other ≠ flowId) :
    slot'.token ≠ slot.token := by
  intro htoken
  have howns := h.slotOwns hslot
  have howns' := h.slotOwns hother
  rw [htoken] at howns'
  exact hne (congrArg Prod.snd (howns'.token_owner.symm.trans howns.token_owner))

theorem Elsewhere.refl (flowId : Nat) (s : Session) : Elsewhere flowId s s where
  slots := fun _ h => h
  here := fun h => ⟨_, h, rfl⟩
  links := fun _ _ => rfl
  tasks := .refl _

theorem Elsewhere.setTcp (h : Elsewhere flowId s s') (htagged : Tagged s)
    (hslot : s.targetWriters.lookup flowId = some slot) (htoken : flow.token = slot.token)
    (link : TargetLink) : Elsewhere flowId s (s'.setTcp flowId flow link) where
  slots := fun hne hother => by
    rcases lookup_insert_iff.mp hother with ⟨rfl, -⟩ | ⟨-, hother⟩
    · exact absurd rfl hne
    · exact h.slots hne hother
  here := fun hhere => by
    rcases lookup_insert_iff.mp hhere with ⟨-, rfl⟩ | ⟨hne, -⟩
    · exact ⟨slot, hslot, htoken⟩
    · exact absurd rfl hne
  links := fun hne hother => by
    have hdistinct := htagged.token_ne hslot hother hne
    rw [← htoken] at hdistinct
    exact (Function.update_of_ne hdistinct _ _).trans (h.links hne hother)
  tasks := h.tasks

theorem Elsewhere.setUdp (h : Elsewhere flowId s s')
    (hslot : s.targetWriters.lookup flowId = some slot) {flow : UdpTargetFlow}
    (htoken : flow.token = slot.token) : Elsewhere flowId s (s'.setUdp flowId flow) where
  slots := fun hne hother => by
    rcases lookup_insert_iff.mp hother with ⟨rfl, -⟩ | ⟨-, hother⟩
    · exact absurd rfl hne
    · exact h.slots hne hother
  here := fun hhere => by
    rcases lookup_insert_iff.mp hhere with ⟨-, rfl⟩ | ⟨hne, -⟩
    · exact ⟨slot, hslot, htoken⟩
    · exact absurd rfl hne
  links := h.links
  tasks := h.tasks

theorem Elsewhere.abortLink (h : Elsewhere flowId s s') (htagged : Tagged s)
    (hslot : s.targetWriters.lookup flowId = some slot) :
    Elsewhere flowId s (s'.abortLink slot.token) where
  slots := h.slots
  here := h.here
  links := fun hne hother =>
    (Function.update_of_ne (htagged.token_ne hslot hother hne) _ _).trans (h.links hne hother)
  tasks := h.tasks

theorem dropSlot_links (s : Session) (slot : FlowSlot) (hne : token ≠ slot.token) :
    (s.dropSlot slot).links token = s.links token := by
  cases slot with
  | openingTcp cancel | openingUdp cancel => rfl
  | tcp flow | udp flow => exact Function.update_of_ne hne _ _

theorem dropSlot_tasks (s : Session) (slot : FlowSlot) : (s.dropSlot slot).tasks = s.tasks := by
  cases slot <;> rfl

theorem Elsewhere.remove (h : Elsewhere flowId s s') (htagged : Tagged s) :
    Elsewhere flowId s (s'.removeFlowSlot flowId) := by
  cases hslot' : s'.targetWriters.lookup flowId with
  | none =>
    rw [show s'.removeFlowSlot flowId = s' by simp [Session.removeFlowSlot, hslot']]
    exact h
  | some slot' =>
    obtain ⟨slot, hslot, htoken⟩ := h.here hslot'
    have hremove : s'.removeFlowSlot flowId =
        { s'.dropSlot slot' with targetWriters := s'.targetWriters.erase flowId } := by
      simp [Session.removeFlowSlot, hslot']
    rw [hremove]
    refine ⟨fun hne hother => h.slots hne (lookup_erase_iff.mp hother).2, ?_, ?_, ?_⟩
    · intro _ hhere
      exact absurd rfl (lookup_erase_iff.mp hhere).1
    · intro other slot'' hne hother
      have hdistinct := htagged.token_ne hslot hother hne
      rw [← htoken] at hdistinct
      exact (dropSlot_links s' slot' hdistinct).trans (h.links hne hother)
    · have htasks := h.tasks
      rwa [← dropSlot_tasks s' slot'] at htasks

structure Settles (context : RelayContext) (shutdown : Bool) (events : List Queued) (flowId : Nat)
    (s : Session) (handled : Handled) : Prop where
  elsewhere : Elsewhere flowId s handled.1
  timed : ∀ {flow}, handled.1.targetWriters.lookup flowId = some (.tcp flow) →
    FlowTimed context shutdown handled.1.tasks events flowId flow (handled.1.links flow.token)
  gone : ∀ {flow}, handled.1.targetWriters.lookup flowId = some (.tcp flow) →
    flow.isRemovable = true → .remove flowId ∈ handled.2

def GoneSoon (script : Script) (s : Session) : Prop :=
  ∀ ⦃flowId flow⦄, s.targetWriters.lookup flowId = some (.tcp flow) → flow.isRemovable = true →
    .remove flowId ∈ script

theorem Timed.elsewhere (h : Timed context shutdown events s) (helsewhere : Elsewhere flowId s s')
    (hheard : Heard flowId events events')
    (hhere : ∀ {flow}, s'.targetWriters.lookup flowId = some (.tcp flow) →
      FlowTimed context shutdown s'.tasks events' flowId flow (s'.links flow.token)) :
    Timed context shutdown events' s' := by
  intro other flow hslot
  by_cases hne : other = flowId
  · subst hne
    exact hhere hslot
  · have hold := helsewhere.slots hne hslot
    rw [show s'.links flow.token = s.links flow.token from helsewhere.links hne hold]
    exact (h hold).elsewhere helsewhere.tasks hheard hne

theorem Settles.timedAll {handled : Handled}
    (h : Settles context shutdown events' flowId s handled) (htimed : Timed context shutdown events s)
    (hheard : Heard flowId events events') : Timed context shutdown events' handled.1 :=
  htimed.elsewhere h.elsewhere hheard h.timed

theorem Settles.goneSoon {handled : Handled}
    (h : Settles context shutdown events flowId s handled) (hgone : GoneSoon [] s) :
    GoneSoon handled.2 handled.1 := by
  intro other flow hslot hremovable
  by_cases hne : other = flowId
  · subst hne
    exact h.gone hslot hremovable
  · exact absurd (hgone (h.elsewhere.slots hne hslot) hremovable) (by simp)

theorem Settles.same (hgone : GoneSoon [] s) (htimed : Timed context shutdown events s)
    (flowId : Nat) (script : Script) : Settles context shutdown events flowId s (s, script) where
  elsewhere := .refl flowId s
  timed := fun hslot => htimed hslot
  gone := fun hslot hremovable => absurd (hgone hslot hremovable) (by simp)

theorem Settles.removed (h : Elsewhere flowId s s') (htagged : Tagged s) (script : Script) :
    Settles context shutdown events flowId s (s'.removeFlowSlot flowId, script) where
  elsewhere := h.remove htagged
  timed := fun hslot => by simp at hslot
  gone := fun hslot => by simp at hslot

theorem Settles.setRemoved (htagged : Tagged s)
    (hslot : s.targetWriters.lookup flowId = some (.tcp flow)) (htoken : flow'.token = flow.token)
    (script : Script) : Settles context shutdown events flowId s
      ((s.setTcp flowId flow' link).removeFlowSlot flowId, script) :=
  .removed ((Elsewhere.refl flowId s).setTcp htagged hslot htoken link) htagged script

theorem Settles.setTcp (h : Elsewhere flowId s s') (htagged : Tagged s)
    (hslot : s.targetWriters.lookup flowId = some (.tcp flow)) (htoken : flow'.token = flow.token)
    (htimed : FlowTimed context shutdown s'.tasks events flowId flow' link)
    (hgone : flow'.isRemovable = true → .remove flowId ∈ script) :
    Settles context shutdown events flowId s (s'.setTcp flowId flow' link, script) where
  elsewhere := h.setTcp htagged hslot htoken link
  timed := fun hnew => by
    rcases lookup_insert_iff.mp hnew with ⟨-, hsame⟩ | ⟨hne, -⟩
    · cases hsame
      rw [show (s'.setTcp flowId flow' link).links flow'.token = link from
        Function.update_self _ _ _]
      exact htimed
    · exact absurd rfl hne
  gone := fun hnew hremovable => by
    rcases lookup_insert_iff.mp hnew with ⟨-, hsame⟩ | ⟨hne, -⟩
    · cases hsame
      exact hgone hremovable
    · exact absurd rfl hne

end

theorem HalfCloseSide.drains_unique {side side' : HalfCloseSide} {flow : TargetFlow}
    (h : side.drains flow = true) (h' : side'.drains flow = true) : side = side' := by
  cases side <;> cases side' <;> simp_all [HalfCloseSide.drains]

namespace TargetLink

theorem enqueueData_ok {link link' : TargetLink}
    (h : link.enqueueData capacity payload reserved = (.ok (), link')) :
    link' = { link with queue := link.queue ++ [.data payload] } := by
  unfold enqueueData at h
  split at h
  · cases h
  · rcases link.enqueueOpen_cases capacity payload reserved with
      ⟨-, hopen⟩ | ⟨error, closing, hopen, -⟩
    · rw [hopen] at h
      cases h
      rfl
    · rw [hopen] at h
      cases h

theorem enqueueData_closed {link link' : TargetLink}
    (h : link.enqueueData capacity payload reserved = (.error .closed, link')) :
    link' = link ∧ (link.closed = true ∨ link.sender = false ∨ link.receiver = false) := by
  unfold enqueueData at h
  split at h
  · rename_i hclosed
    cases h
    exact ⟨rfl, .inl hclosed⟩
  · unfold enqueueOpen at h
    split at h
    · cases h
    · split at h
      · rename_i hsender
        cases h
        exact ⟨rfl, .inr (.inl (by simpa using hsender))⟩
      · unfold trySend at h
        split at h
        · cases h
        · rename_i hsend
          split at hsend
          · rename_i hreceiver
            cases h
            exact ⟨rfl, .inr (.inr (by simpa using hreceiver))⟩
          · split at hsend <;> cases hsend
        · cases h

end TargetLink

section

variable {context : RelayContext} {shutdown : Bool} {tasks : List Task} {events : List Queued}
  {flowId : Nat} {flow : TargetFlow} {link : TargetLink}

theorem Uploading.not_closed (h : Uploading tasks events flowId token link) :
    ¬(link.closed = true ∨ link.sender = false ∨ link.receiver = false) := by
  simp [h.closed, h.sender, h.receiver]

theorem FlowTimed.enqueued (h : FlowTimed context shutdown tasks events flowId flow link)
    (payload : Bytes) :
    FlowTimed context shutdown tasks events flowId flow
      { link with queue := link.queue ++ [.data payload] } where
  write := h.write
  upload := fun hopen hhale hclient => by
    have hupload := h.upload hopen hhale hclient
    exact ⟨hupload.closed, hupload.sender, hupload.receiver, by simp [hupload.queue],
      hupload.writer, hupload.event⟩
  timer := h.timer

theorem FlowTimed.clientClosed (h : FlowTimed context shutdown tasks events flowId flow link)
    (hended : shutdown = false → Hale tasks link flow.token → flow.clientToTargetOpen = false) :
    FlowTimed context shutdown tasks events flowId { flow with clientToTargetOpen := false }
      link.close where
  write := fun _ => rfl
  upload := nofun
  timer := fun htimeout hopen hhale closedSide hdrains => by
    have hclosed := hended hopen hhale
    refine h.timer htimeout hopen hhale closedSide ?_
    cases closedSide <;> simp_all [HalfCloseSide.drains]

theorem FlowTimed.timerStarted {timer : Task}
    (hwrite : flow.targetWriteOpen = false → flow.clientToTargetOpen = false)
    (hupload : shutdown = false → Hale tasks link flow.token → flow.clientToTargetOpen = true →
      Uploading tasks events flowId flow.token link)
    (hdrains : closedSide.drains flow = true) (hkind : timer.kind = .halfCloseTimer closedSide)
    (hid : timer.flowId = flowId) (htoken : timer.token = flow.token)
    (hstage : timer.stage = .sleeping) :
    FlowTimed context shutdown (tasks ++ [timer]) events flowId
      { flow with halfCloseTimer := some tasks.length } link where
  write := hwrite
  upload := fun hopen hhale hclient =>
    (hupload hopen (hhale.mono (List.subset_append_left _ _)) hclient).later ⟨[timer], rfl, by simp [hkind]⟩ fun _ h => h
  timer := fun _ _ _ side hside => by
    have hsame : side = closedSide := by
      refine HalfCloseSide.drains_unique ?_ hdrains
      cases side <;> exact hside
    subst hsame
    exact ⟨tasks.length, timer, rfl, by simp, hkind, hid, htoken, .inl hstage⟩

end

theorem Settles.setUdp {s : Session} {flow flow' : UdpTargetFlow}
    (hslot : s.targetWriters.lookup flowId = some (.udp flow)) (htoken : flow'.token = flow.token)
    (script : Script) :
    Settles context shutdown events flowId s (s.setUdp flowId flow', script) := by
  refine ⟨(Elsewhere.refl flowId s).setUdp hslot htoken, fun hfound => ?_, fun hfound => ?_⟩ <;>
    rcases lookup_insert_iff.mp hfound with ⟨-, hsame⟩ | ⟨hne, -⟩
  · cases hsame
  · exact absurd rfl hne
  · cases hsame
  · exact absurd rfl hne

theorem Settles.startTimer {s : Session} {flow flow' : TargetFlow} (htagged : Tagged s)
    (hslot : s.targetWriters.lookup flowId = some (.tcp flow)) (htoken : flow'.token = flow.token)
    (hwrite : flow'.targetWriteOpen = false → flow'.clientToTargetOpen = false)
    (hupload : shutdown = false → Hale s.tasks link flow'.token → flow'.clientToTargetOpen = true →
      Uploading s.tasks events flowId flow'.token link)
    (hdrains : closedSide.drains flow' = true) (hkept : flow'.isRemovable ≠ true) :
    Settles context shutdown events flowId s
      (s.startHalfCloseTimer flowId flow' closedSide link, script) := by
  have htable {found : FlowSlot}
      (hfound : (s.startHalfCloseTimer flowId flow' closedSide link).targetWriters.lookup flowId =
        some found) : found = .tcp { flow' with halfCloseTimer := some s.tasks.length } := by
    rcases lookup_insert_iff.mp hfound with ⟨-, rfl⟩ | ⟨hne, -⟩
    · rfl
    · exact absurd rfl hne
  refine ⟨?_, fun hfound => ?_, fun hfound hremovable => ?_⟩
  · have helsewhere := (Elsewhere.refl flowId s).setTcp htagged hslot
      (show { flow' with halfCloseTimer := some s.tasks.length }.token = flow.token from htoken) link
    exact ⟨helsewhere.slots, helsewhere.here, helsewhere.links,
      helsewhere.tasks.trans ⟨_, rfl, by simp⟩⟩
  · cases htable hfound
    rw [show (s.startHalfCloseTimer flowId flow' closedSide link).links flow'.token = link from
      Function.update_self _ _ _]
    exact FlowTimed.timerStarted hwrite hupload hdrains rfl rfl rfl rfl
  · cases htable hfound
    exact absurd hremovable hkept

section

variable {context : RelayContext} {shutdown : Bool} {events : List Queued} {s : Session}
  (htimed : Timed context shutdown events s) (htagged : Tagged s) (hgone : GoneSoon [] s)

include htimed htagged hgone

theorem Clears.settles (h : Clears ended active flowId s s') (script : Script) :
    Settles context shutdown events flowId s (s', script) := by
  cases h with
  | same => exact .same hgone htimed _ _
  | removed => exact .removed (.refl _ _) htagged _
  | aborted hslot => exact .removed ((Elsewhere.refl _ s).abortLink htagged hslot) htagged _
  | touched hnow hslot => exact .setUdp hslot (by rfl) _
  | setRemoved hslot h => exact .setRemoved htagged hslot h.same.token _

theorem forwardTcpDataFrame_settles (env : HandlerEnv) (flowId : Nat) (payload : Bytes) :
    Settles context shutdown events flowId s (forwardTcpDataFrame context env flowId payload s) := by
  unfold forwardTcpDataFrame
  split
  · exact .same hgone htimed _ _
  · rename_i flow hflow
    have hslot := openTargetFlow_eq_some.mp hflow
    have hold := htimed hslot
    have hopen : flow.isRemovable = true → False := fun hremovable => by
      simpa using hgone hslot hremovable
    split
    · rename_i link henqueue
      rw [TargetLink.enqueueData_ok henqueue]
      exact .setTcp (.refl _ _) htagged hslot rfl (hold.enqueued payload) fun h => (hopen h).elim
    · rename_i link henqueue
      obtain ⟨rfl, hclosed⟩ := TargetLink.enqueueData_closed henqueue
      have hset : FlowTimed context shutdown s.tasks events flowId
          { flow with clientToTargetOpen := false } (s.links flow.token).close := by
        refine hold.clientClosed fun hshutdown hhale => ?_
        rw [Bool.eq_false_iff]
        exact fun hclient => (hold.upload hshutdown hhale hclient).not_closed hclosed
      dsimp only [TargetFlow.markClientToTargetClosed]
      split
      · exact .setRemoved htagged hslot (by rfl) _
      · rename_i hkept
        exact .setTcp (.refl _ _) htagged hslot rfl hset fun h => absurd h hkept
    · refine .setTcp (.refl _ _) htagged hslot rfl ?_ fun _ => by simp
      exact .of_aborted (flow.abort_aborted _ _) fun _ => rfl

theorem handleTcpDataFrame_settles (env : HandlerEnv) (frame : Frame) :
    Settles context shutdown events frame.header.id s (handleTcpDataFrame context env frame s) := by
  simp only [handleTcpDataFrame]
  split
  · exact .same hgone htimed _ _
  · split
    · exact .same hgone htimed _ _
    · exact .same hgone htimed _ _
    · exact .same hgone htimed _ _
    · exact .same hgone htimed _ _
    · split
      · exact .same hgone htimed _ _
      · exact forwardTcpDataFrame_settles htimed htagged hgone env _ _

omit hgone in
theorem halfCloseTcp_settles (hslot : s.targetWriters.lookup flowId = some (.tcp flow)) :
    Settles context shutdown events flowId s (halfCloseTcp context flowId flow s, []) := by
  have hold := htimed hslot
  have hclosed : (flow.closeClientToTarget context.capacity (s.links flow.token)).1 =
      { flow with clientToTargetOpen := false } := by
    unfold TargetFlow.closeClientToTarget
    split
    · rfl
    · rename_i hclient
      cases flow
      simp_all
  simp only [halfCloseTcp, hclosed]
  split
  · rename_i hspeaks
    have hspeaking : ({ flow with clientToTargetOpen := false } : TargetFlow).isRemovable ≠ true := by
      simp [TargetFlow.isRemovable, hspeaks]
    split
    · refine .startTimer htagged hslot rfl (fun _ => rfl)
        (fun _ _ h => absurd h Bool.false_ne_true) ?_ hspeaking
      simp [HalfCloseSide.drains, hspeaks]
    · rename_i hidle
      refine .setTcp (.refl _ _) htagged hslot rfl
        ⟨fun _ => rfl, fun _ _ h => absurd h Bool.false_ne_true, ?_⟩ fun h => absurd h hspeaking
      -- without a new timer the client had closed its direction before
      intro htimeout hopen hhale closedSide hdrains
      have hclient : flow.clientToTargetOpen = false := by
        simpa [shouldStartHalfCloseDrain, hspeaks, htimeout] using hidle
      simp only [TargetFlow.closeClientToTarget, hclient, Bool.false_eq_true, if_false] at hhale
      refine hold.timer htimeout hopen hhale closedSide ?_
      cases closedSide <;> simp_all [HalfCloseSide.drains]
  · rename_i hsilent
    split
    · exact .setRemoved htagged hslot (by rfl) _
    · rename_i hkept
      refine .setTcp (.refl _ _) htagged hslot rfl
        ⟨fun _ => rfl, fun _ _ h => absurd h Bool.false_ne_true, ?_⟩ fun h => absurd h hkept
      intro _ _ _ closedSide hdrains
      cases closedSide <;> simp_all [HalfCloseSide.drains]

theorem handleTcpCloseFrame_settles (frame : Frame) :
    Settles context shutdown events frame.header.id s (handleTcpCloseFrame context frame s) := by
  simp only [handleTcpCloseFrame]
  split
  · exact .same hgone htimed _ _
  · split
    · exact .same hgone htimed _ _
    · split
      · exact .removed (.refl _ _) htagged _
      · rename_i hslot
        split
        · exact halfCloseTcp_settles htimed htagged hslot
        · exact .setRemoved htagged hslot (by rfl) _
      · exact .same hgone htimed _ _
      · exact .same hgone htimed _ _
      · exact .same hgone htimed _ _

theorem handleSessionFrame_settles (env : HandlerEnv) (frame : Frame) :
    (∃ udp target permit, Admitted context env frame s udp target permit ∧
        handleSessionFrame context env frame s =
          (s.openSlot udp frame.header.id target permit, [])) ∨
      Settles context shutdown events frame.header.id s
        (handleSessionFrame context env frame s) := by
  have h := handleSessionFrame_handled context env frame s
  generalize handleSessionFrame context env frame s = handled at h
  cases h with
  | opened h => exact .inl ⟨_, _, _, h, rfl⟩
  | settings htype =>
    refine .inr ⟨⟨fun _ h => h, fun h => ⟨_, h, rfl⟩, fun _ _ => rfl, .refl _⟩, ?_, ?_⟩
    · exact fun hslot => htimed hslot
    · exact fun hslot hremovable => absurd (hgone hslot hremovable) (by simp)
  | cleared h script => exact .inr (h.settles htimed htagged hgone script)
  | data => exact .inr (handleTcpDataFrame_settles htimed htagged hgone env frame)
  | close => exact .inr (handleTcpCloseFrame_settles htimed htagged hgone frame)

end

theorem heard_head (queued : Queued) (events : List Queued)
    (h : ∀ other token closedSide, queued.event = .halfCloseDrainExpired other token closedSide →
      other = flowId) : Heard flowId (queued :: events) events where
  fewer := fun _ hqueued => List.mem_cons_of_mem _ hqueued
  rest := fun _ hother => (List.mem_cons.mp hother).elim (fun heq => .inr (heq ▸ h)) .inl

theorem FlowTimed.heard (h : FlowTimed context shutdown tasks (queued :: events) flowId flow link)
    (hother : ∀ closedSide, closedSide.drains flow = true →
      queued.event ≠ .halfCloseDrainExpired flowId flow.token closedSide) :
    FlowTimed context shutdown tasks events flowId flow link where
  write := h.write
  upload := fun hopen hhale hclient =>
    (h.upload hopen hhale hclient).later (.refl _) fun _ => List.mem_cons_of_mem _
  timer := by
    intro htimeout hopen hhale closedSide hdrains
    obtain ⟨n, task, htimer, htask, hkind, hid, htoken, hpending⟩ :=
      h.timer htimeout hopen hhale closedSide hdrains
    refine ⟨n, task, htimer, htask, hkind, hid, htoken, hpending.imp id (Or.imp id ?_)⟩
    rintro ⟨other, hmem, hevent⟩
    rcases List.mem_cons.mp hmem with rfl | hmem
    · refine absurd (hevent.trans ?_) (hother closedSide hdrains)
      simp [Task.closedEvent, hkind, hid, htoken]
    · exact ⟨other, hmem, hevent⟩

section

variable {context : RelayContext} {shutdown : Bool} {queued : Queued} {events : List Queued}
  {s : Session}

theorem Timed.heard (h : Timed context shutdown (queued :: events) s)
    (hother : ∀ flowId token closedSide,
      queued.event ≠ .halfCloseDrainExpired flowId token closedSide) :
    Timed context shutdown events s :=
  fun _ _ hslot => (h hslot).heard fun closedSide _ => hother _ _ closedSide

theorem handleTargetReadClosed_settles (htimed : Timed context shutdown events s)
    (htagged : Tagged s) (hgone : GoneSoon [] s) (flowId : Nat) (token : FlowToken) :
    Settles context shutdown events flowId s
      (handleTargetReadClosed context flowId token s, []) := by
  simp only [handleTargetReadClosed]
  split
  · exact .same hgone htimed _ _
  · rename_i flow hflow
    have hslot := openTargetFlow_eq_some.mp hflow
    have hold := htimed hslot
    split
    · exact .same hgone htimed _ _
    · split
      · exact .setRemoved htagged hslot (by rfl) _
      · split
        · rename_i htimer
          obtain ⟨hclient, -⟩ := Bool.and_eq_true_iff.mp htimer
          refine .startTimer htagged hslot rfl hold.write ?_ ?_ ?_
          · exact hold.upload
          · simpa [HalfCloseSide.drains, TargetFlow.markTargetToClientClosed] using hclient
          · simpa [TargetFlow.isRemovable, TargetFlow.markTargetToClientClosed] using
              fun h => by simp_all [TargetFlow.markTargetToClientClosed]
        · rename_i htimer
          split
          · exact .setRemoved htagged hslot (by rfl) _
          · rename_i hkept
            refine .setTcp (.refl _ _) htagged hslot rfl ⟨hold.write, hold.upload, ?_⟩
              fun h => absurd h hkept
            -- the client has closed its direction, or there are no timers
            intro htimeout _ _ closedSide hdrains
            cases closedSide <;>
              simp_all [HalfCloseSide.drains, TargetFlow.markTargetToClientClosed]

section

variable (htimed : Timed context shutdown (queued :: events) s) (htagged : Tagged s)
  (hgone : GoneSoon [] s)
include htimed htagged hgone

theorem handleTargetWriteClosed_settles (hevent : queued.event = .writeClosed flowId token) :
    Settles context shutdown events flowId s
      (handleTargetWriteClosed context flowId token s, []) := by
  have hheard : Timed context shutdown events s := htimed.heard (by simp [hevent])
  simp only [handleTargetWriteClosed]
  split
  · exact .same hgone hheard _ _
  · rename_i flow hflow
    have hslot := openTargetFlow_eq_some.mp hflow
    split
    · exact .same hgone hheard _ _
    · rename_i htoken
      have htoken := not_not.mp htoken
      simp only [TargetFlow.markTargetWriteClosed]
      have hmarked : FlowTimed context shutdown s.tasks events flowId
          { flow with clientToTargetOpen := false, targetWriteOpen := false }
          (s.links flow.token).close := by
        have hended : FlowTimed context shutdown s.tasks events flowId
            { flow with clientToTargetOpen := false } (s.links flow.token).close := by
          refine (hheard hslot).clientClosed fun hopen hhale => ?_
          rw [Bool.eq_false_iff]
          intro hclient
          have hupload := (htimed hslot).upload hopen hhale hclient
          exact hupload.event queued List.mem_cons_self (htoken ▸ hevent)
        exact ⟨fun _ => rfl, fun _ _ h => absurd h Bool.false_ne_true, hended.timer⟩
      by_cases haborted : (s.links flow.token).close.aborted = true
      · simp only [haborted, if_true]
        split
        · exact .setRemoved htagged hslot (by rfl) _
        · rename_i hkept
          refine .setTcp (.refl _ _) htagged hslot rfl ?_ fun h => absurd h hkept
          exact .of_aborted (TargetFlow.abort_aborted _ _ _) fun _ => rfl
      · simp only [haborted, Bool.false_eq_true, if_false]
        split
        · exact .setRemoved htagged hslot (by rfl) _
        · rename_i hkept
          exact .setTcp (.refl _ _) htagged hslot rfl hmarked fun h => absurd h hkept

theorem handleHalfCloseDrainExpired_settles
    (hevent : queued.event = .halfCloseDrainExpired flowId token closedSide) :
    Settles context shutdown events flowId s
      (handleHalfCloseDrainExpired context flowId token closedSide s) := by
  simp only [handleHalfCloseDrainExpired]
  split
  · rename_i hnone
    refine ⟨.refl _ _, fun hslot => ?_, fun hslot => ?_⟩ <;>
      simp [openTargetFlow_eq_some.mpr hslot] at hnone
  · rename_i flow hflow
    have hslot := openTargetFlow_eq_some.mp hflow
    split
    · rename_i hignored
      refine ⟨.refl _ _, fun hslot' => ?_, fun hslot' hremovable => ?_⟩
      · cases hslot.symm.trans hslot'
        refine (htimed hslot).heard fun side hdrains hexpired => ?_
        cases hevent.symm.trans hexpired
        simp [hdrains] at hignored
      · exact absurd (hgone hslot' hremovable) (by simp)
    · refine .setTcp (.refl _ _) htagged hslot rfl ?_ ?_
      · exact .of_aborted (flow.abort_aborted _ _) fun _ => rfl
      · intro hremovable
        simp [hremovable]

theorem handleFlowEvent_settles (env : HandlerEnv) :
    (∃ udp flowId target socket cancel,
        queued.event = dialEvent udp flowId cancel.token target (.ok socket) ∧
        s.targetWriters.lookup flowId = some (openingSlot udp cancel) ∧
        handleFlowEvent context env queued.event s = acceptOpen udp flowId cancel socket s) ∨
      ∃ flowId, Heard flowId (queued :: events) events ∧
        Settles context shutdown events flowId s
          (handleFlowEvent context env queued.event s) := by
  have hquiet (hother : ∀ flowId token closedSide,
        queued.event ≠ .halfCloseDrainExpired flowId token closedSide) (flowId : Nat) :
      Heard flowId (queued :: events) events ∧ Timed context shutdown events s :=
    ⟨heard_head queued events fun _ _ _ h => absurd h (hother _ _ _), htimed.heard hother⟩
  have h := handleFlowEvent_handled context env queued.event s
  generalize handleFlowEvent context env queued.event s = handled at h
  generalize hevent : queued.event = event at h hquiet
  cases h with
  | accepted udp hslot => exact .inl ⟨_, _, _, _, _, rfl, hslot, rfl⟩
  | cleared h hneat hother =>
    obtain ⟨hheard, htimed'⟩ := hquiet hother event.flowId
    exact .inr ⟨event.flowId, hheard, h.settles htimed' htagged hgone _⟩
  | readClosed =>
    obtain ⟨hheard, htimed'⟩ := hquiet nofun _
    exact .inr ⟨_, hheard, handleTargetReadClosed_settles htimed' htagged hgone _ _⟩
  | writeClosed =>
    obtain ⟨hheard, -⟩ := hquiet nofun _
    exact .inr ⟨_, hheard, handleTargetWriteClosed_settles htimed htagged hgone hevent⟩
  | expired =>
    refine .inr ⟨_, heard_head queued events ?_,
      handleHalfCloseDrainExpired_settles htimed htagged hgone hevent⟩
    intro other token' closedSide' hother
    cases hevent.symm.trans hother
    rfl

end

end

end UncrownedKing.Relay
