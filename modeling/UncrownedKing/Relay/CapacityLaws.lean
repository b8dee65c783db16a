import UncrownedKing.Relay.Capacity
import UncrownedKing.Relay.RunLaws

/-!
# No more flows than there may be

Slots come with an admitted open only, and the budget of the server counts the
permits its sessions hold.
-/

namespace UncrownedKing.Relay

open Lib Net Proto Auth Server

variable {limit : Nat}

structure FlowSlot.Continues (slot slot' : FlowSlot) : Prop where
  origin : slot'.origin = slot.origin
  permit : slot'.permit = slot.permit
  isUdp : slot'.isUdp = slot.isUdp

/-- Slots went at most. -/
def Fewer (table table' : FlowTable) : Prop :=
  ∀ flowId slot', table'.lookup flowId = some slot' →
    ∃ slot, table.lookup flowId = some slot ∧ slot.Continues slot'

theorem Fewer.refl (table : FlowTable) : Fewer table table :=
  fun _ slot hslot => ⟨slot, hslot, rfl, rfl, rfl⟩

theorem Kept.fewer (h : Kept ended s s') : Fewer s.targetWriters s'.targetWriters := by
  intro flowId slot' hslot'
  obtain ⟨slot, hslot, hsame⟩ := h.slots hslot'
  exact ⟨slot, hslot, hsame.origin, hsame.permit, hsame.isUdp⟩

theorem Fewer.countP_le {table table' : FlowTable} (h : Fewer table table') (p : FlowSlot → Bool)
    (hp : ∀ {slot slot'}, slot.Continues slot' → p slot' = p slot) :
    table'.entries.countP (p ·.2) ≤ table.entries.countP (p ·.2) := by
  rw [List.countP_eq_length_filter, List.countP_eq_length_filter]
  have hnodup : ((table'.entries.filter (p ·.2)).map Sigma.fst).Nodup :=
    (List.filter_sublist.map Sigma.fst).nodup table'.nodupKeys
  have hsubset : (table'.entries.filter (p ·.2)).map Sigma.fst ⊆
      (table.entries.filter (p ·.2)).map Sigma.fst := by
    intro flowId hmem
    obtain ⟨⟨_, slot'⟩, hentry, rfl⟩ := List.mem_map.mp hmem
    obtain ⟨hentry, hp'⟩ := List.mem_filter.mp hentry
    obtain ⟨slot, hslot, hcontinues⟩ := h _ slot' (AList.mem_lookup_iff.mpr hentry)
    refine List.mem_map.mpr ⟨⟨_, slot⟩, List.mem_filter.mpr ⟨AList.mem_lookup_iff.mp hslot, ?_⟩, rfl⟩
    rw [← hp hcontinues]
    exact hp'
  simpa using (List.subperm_of_subset hnodup hsubset).length_le

structure InBounds (limits : RelayLimits) (table : FlowTable) : Prop where
  streams : table.entries.length ≤ limits.maxStreams
  udpFlows : udpFlowCount table ≤ limits.maxUdpFlows

theorem InBounds.fewer (h : InBounds limits table) (hfewer : Fewer table table') :
    InBounds limits table' where
  streams := by
    have hcount := hfewer.countP_le (fun _ => true) fun _ => rfl
    simp only [List.countP_true] at hcount
    exact hcount.trans h.streams
  udpFlows := (hfewer.countP_le FlowSlot.isUdp fun hcontinues => hcontinues.isUdp).trans h.udpFlows

theorem InBounds.openSlot {s : Session} (h : InBounds context.limits s.targetWriters)
    {frame : Frame} (hadmitted : Admitted context env frame s udp target permit) :
    InBounds context.limits (s.openSlot udp frame.header.id target permit).targetWriters := by
  have hentries : (s.openSlot udp frame.header.id target permit).targetWriters.entries =
      ⟨frame.header.id, openingSlot udp ⟨s.flowTokens, some permit⟩⟩ :: s.targetWriters.entries :=
    AList.entries_insert_of_notMem (AList.lookup_eq_none.mp hadmitted.free)
  constructor
  · rw [hentries]
    exact hadmitted.room
  · rw [udpFlowCount, hentries, List.countP_cons]
    cases udp with
    | true => exact hadmitted.udpRoom rfl
    | false => exact h.udpFlows

variable {r r' : RelaySession}

theorem Moves.table (h : Moves context r action r' evs) (hsound : Sound r) :
    (Fewer r.session.targetWriters r'.session.targetWriters ∧
        evs.any RelayEvent.isOpened = false) ∨
      ∃ frame env udp target permit, action = .frame frame env ∧
        Admitted context env frame r.session udp target permit ∧
        r' = r.handle (r.session.openSlot udp frame.header.id target permit, []) ∧
        evs = [.opened frame r.session.flowTokens] := by
  have hsame {r' : RelaySession} (htable : r'.session.targetWriters = r.session.targetWriters) :
      Fewer r.session.targetWriters r'.session.targetWriters := by
    rw [htable]
    exact .refl _
  cases h with
  | stay => exact .inl ⟨.refl _, rfl⟩
  | handled _ _ _ hkept _ _ =>
    refine .inl ⟨?_, rfl⟩
    rw [(handle_alike _ _).table]
    exact hkept.fewer
  | opened hready hadmitted => exact .inr ⟨_, _, _, _, _, rfl, hadmitted, rfl, rfl⟩
  | accepted _ _ _ _ => exact .inl ⟨hsame (handle_alike _ _).table, rfl⟩
  | took _ _ _ _ => exact .inl ⟨.refl _, rfl⟩
  | passed _ _ _ _ => exact .inl ⟨hsame (resume_alike _ _).table, rfl⟩
  | wrote outcome _ _ _ hnext =>
    rcases hnext with rfl | rfl
    · exact .inl ⟨hsame ((release_alike r outcome).trans (resume_alike _ _)).table, rfl⟩
    · exact .inl ⟨.refl _, rfl⟩
  | removed hloop =>
    rename_i flowId rest
    have hkept := @kept_removeFlowSlot (fun _ => False) r.session flowId
    refine .inl ⟨?_, rfl⟩
    rw [(handle_alike _ _).table]
    exact hkept.fewer
  | established hloop now =>
    obtain ⟨-, -, cancel, hslot, hcancel, hpermit⟩ := hsound.loop.establish hloop
    refine .inl ⟨?_, rfl⟩
    rw [(handle_alike _ _).table]
    intro flowId slot' hslot'
    rcases establish_lookup.mp hslot' with ⟨rfl, rfl⟩ | ⟨-, hslot'⟩
    · exact ⟨_, hslot, by simp [hcancel], by simp [hpermit], by simp⟩
    · exact ⟨slot', hslot', rfl, rfl, rfl⟩
  | stopped _ => exact .inl ⟨.refl _, rfl⟩
  | closedFlows _ => exact .inl ⟨fun _ _ hslot => by simp [closeTargetFlows] at hslot, rfl⟩
  | aborted _ _ | datagram _ _ | taskTook _ _ _ _ => exact .inl ⟨.refl _, rfl⟩
  | taskWrote outcome htask _ _ hnext =>
    obtain ⟨stage, hmoved, -⟩ := (hsound.release outcome).1.moved htask hnext
    exact .inl ⟨hsame hmoved.table, rfl⟩
  | taskDialed _ _ _ => exact .inl ⟨.refl _, rfl⟩
  | taskMoved htask _ hnext =>
    obtain ⟨stage, hmoved, -⟩ := hsound.moved htask hnext
    exact .inl ⟨hsame hmoved.table, rfl⟩

/-- A slot holds the permit for its open, or a task does. -/
def RelaySession.Holds (r : RelaySession) (origin : FlowToken) (permit : Nat) : Prop :=
  (∃ flowId slot, r.session.targetWriters.lookup flowId = some slot ∧
      slot.handle? = some (origin, permit)) ∨
    ∃ (n : Nat) (task : Task), r.session.tasks[n]? = some task ∧
      task.handle? = some (origin, permit)

theorem slot_handle_eq_some {slot : FlowSlot} :
    slot.handle? = some (origin, permit) ↔ slot.origin = origin ∧ slot.permit = some permit := by
  unfold FlowSlot.handle?
  cases slot.permit <;> simp

theorem Modest.handles (h : Modest script) : scriptHandles script = [] := by
  induction script with
  | nil => rfl
  | cons instr rest ih =>
    cases instr with
    | write frame logged => exact ih h
    | writeFlow frame token => exact h.elim
    | remove flowId => exact ih h
    | establish flow => exact h.elim
    | fail error => rfl

theorem ScriptSound.handles {s : Session} (h : ScriptSound s script)
    (hhandle : (origin, permit) ∈ scriptHandles script) :
    ∃ flowId slot, s.targetWriters.lookup flowId = some slot ∧
      slot.handle? = some (origin, permit) := by
  rcases h with hmodest | ⟨flow, haccepting⟩
  · simp [hmodest.handles] at hhandle
  · obtain ⟨cancel, hslot, hcancel, hpermit⟩ := haccepting.slot
    refine ⟨flow.flowId, _, hslot, slot_handle_eq_some.mpr ?_⟩
    rw [openingSlot_origin, openingSlot_permit, hcancel, hpermit]
    rcases haccepting.script with rfl | ⟨ack, rfl, -⟩ <;>
      simpa [scriptHandles, eq_comm, and_comm] using hhandle

theorem Sound.mem_handles (h : Sound r) :
    (origin, permit) ∈ r.handles ↔ r.Holds origin permit := by
  have hentry : (origin, permit) ∈ r.session.targetWriters.entries.filterMap (·.2.handle?) ↔
      ∃ flowId slot, r.session.targetWriters.lookup flowId = some slot ∧
        slot.handle? = some (origin, permit) := by
    simp only [List.mem_filterMap, Sigma.exists]
    exact exists₂_congr fun _ _ => and_congr_left fun _ => AList.mem_lookup_iff.symm
  have htask : (origin, permit) ∈ r.session.tasks.filterMap Task.handle? ↔
      ∃ (n : Nat) (task : Task), r.session.tasks[n]? = some task ∧
        task.handle? = some (origin, permit) := by
    rw [List.mem_filterMap]
    constructor
    · rintro ⟨task, hmem, hhandle⟩
      obtain ⟨n, hn⟩ := List.mem_iff_getElem?.mp hmem
      exact ⟨n, task, hn, hhandle⟩
    · rintro ⟨n, task, hn, hhandle⟩
      exact ⟨task, List.mem_of_getElem? hn, hhandle⟩
  unfold RelaySession.handles RelaySession.Holds
  rw [List.mem_append, List.mem_append, hentry, htask]
  refine ⟨?_, .inl⟩
  rintro (hholds | hscript)
  · exact hholds
  · have hloop := h.loop
    unfold LoopSound at hloop
    cases hstage : r.loop with
    | running script =>
      rw [hstage] at hloop hscript
      exact .inl (hloop.handles hscript)
    | ready | stopping | closed => simp [hstage] at hscript

theorem Sound.holds_iff (h : Sound r) :
    r.holds permit = true ↔ ∃ origin, r.Holds origin permit := by
  simp only [RelaySession.holds, List.any_eq_true, beq_iff_eq, Prod.exists, ← h.mem_handles]
  constructor
  · rintro ⟨origin, _, hmem, rfl⟩
    exact ⟨origin, hmem⟩
  · rintro ⟨origin, hmem⟩
    exact ⟨origin, permit, hmem, rfl⟩

theorem TaskMoves.of_done {n : Nat} {task : Task} (h : TaskMoves r n task r')
    (hdone : task.stage = .done) : r' = r.setStage n task .done := by
  cases h with
  | next h => cases h <;> simp_all
  | read h recorded => simp [hdone, TaskStage.isActive] at h
  | failed h => simp [hdone, TaskStage.isRelaying] at h
  | relayed h choice hwriter hnext | told h => simp [hdone] at h

theorem handle_setStage {tasks : List Task} {n m : Nat} {task task' : Task}
    (htask : tasks[n]? = some task) (hdone : task.stage = .done → stage = .done)
    (h : (tasks.set n { task with stage := stage })[m]? = some task')
    (hhandle : task'.handle? = some handle) :
    ∃ old, tasks[m]? = some old ∧ old.handle? = some handle := by
  rcases getElem?_set_cases h with ⟨rfl, rfl⟩ | ⟨-, h⟩
  · refine ⟨task, htask, ?_⟩
    unfold Task.handle? at hhandle ⊢
    split at hhandle
    · cases hhandle
    · rename_i hrunning
      split
      · rename_i hended
        exact absurd (hdone hended) hrunning
      · exact hhandle
  · exact ⟨task', h, hhandle⟩

theorem handle_of_permit_none {task : Task} (h : task.permit = none) : task.handle? = none := by
  unfold Task.handle?
  rw [h]
  split <;> rfl

theorem Sound.handle_moved (hsound : Sound r) {n m : Nat} {task task' : Task}
    (htask : r.session.tasks[n]? = some task) (hnext : TaskMoves r n task r')
    (h : r'.session.tasks[m]? = some task') (hhandle : task'.handle? = some handle) :
    ∃ old, r.session.tasks[m]? = some old ∧ old.handle? = some handle := by
  by_cases hdone : task.stage = .done
  · rw [hnext.of_done hdone] at h
    exact handle_setStage htask (fun _ => rfl) h hhandle
  · obtain ⟨stage, hmoved, -⟩ := hsound.moved htask hnext
    rw [hmoved.tasks] at h
    exact handle_setStage htask (fun hended => absurd hended hdone) h hhandle

theorem Kept.taskHandle {s s' : Session} (hkept : Kept ended s s') {n : Nat} {task' : Task}
    (h : s'.tasks[n]? = some task') (hhandle : task'.handle? = some handle) :
    ∃ old, s.tasks[n]? = some old ∧ old.handle? = some handle := by
  obtain ⟨timers, htasks, htimers⟩ := hkept.tasks
  rw [htasks, List.getElem?_append] at h
  split at h
  · exact ⟨task', h, hhandle⟩
  · obtain ⟨slot, -, htimer⟩ := htimers task' (List.mem_of_getElem? h)
    simp [handle_of_permit_none htimer.permit] at hhandle

section

variable (h : Moves context r action r' evs) (hsound : Sound r)
include h hsound

theorem Moves.taskHandle {n : Nat} {task' : Task} (htask' : r'.session.tasks[n]? = some task')
    (hhandle : task'.handle? = some handle) :
    (∃ task, r.session.tasks[n]? = some task ∧ task.handle? = some handle) ∨
      evs.any RelayEvent.isOpened = true ∧ ∃ frame env permit, action = .frame frame env ∧
        env.permit = some permit ∧ handle = (r.session.flowTokens, permit) := by
  have hsame (htasks : r'.session.tasks = r.session.tasks) :
      ∃ task, r.session.tasks[n]? = some task ∧ task.handle? = some handle :=
    ⟨task', htasks ▸ htask', hhandle⟩
  cases h with
  | stay => exact .inl (hsame rfl)
  | handled _ _ _ hkept _ _ =>
    rw [(handle_alike _ _).tasks] at htask'
    exact .inl (hkept.taskHandle htask' hhandle)
  | opened _ hadmitted =>
    rw [(handle_alike _ _).tasks] at htask'
    rcases getElem?_concat htask' with htask | ⟨-, rfl⟩
    · exact .inl ⟨task', htask, hhandle⟩
    · exact .inr ⟨rfl, _, _, _, rfl, hadmitted.permit, by simpa [Task.handle?] using hhandle.symm⟩
  | accepted _ _ _ _ => exact .inl (hsame (handle_alike _ _).tasks)
  | took _ _ _ _ => exact .inl (hsame rfl)
  | passed _ _ _ _ => exact .inl (hsame (resume_alike _ _).tasks)
  | wrote outcome _ _ _ hnext =>
    rcases hnext with rfl | rfl
    · exact .inl (hsame ((release_alike r outcome).trans (resume_alike _ _)).tasks)
    · exact .inl (hsame rfl)
  | removed hloop =>
    rename_i flowId rest
    have hkept := @kept_removeFlowSlot (fun _ => False) r.session flowId
    rw [(handle_alike _ _).tasks] at htask'
    exact .inl (hkept.taskHandle htask' hhandle)
  | established _ now =>
    rw [(handle_alike _ _).tasks] at htask'
    rcases establish_tasks htask' with htask | ⟨-, -, -, hpermit, -⟩
    · exact .inl ⟨task', htask, hhandle⟩
    · simp [handle_of_permit_none hpermit] at hhandle
  | stopped _ => exact .inl (hsame rfl)
  | closedFlows _ => exact .inl (hsame (closeTargetFlows_hushed context r.session).tasks)
  | aborted _ htask => exact .inl (handle_setStage htask (fun _ => rfl) htask' hhandle)
  | datagram _ _ | taskTook _ _ _ _ => exact .inl (hsame rfl)
  | taskWrote outcome htask _ _ hnext =>
    exact .inl ((hsound.release outcome).1.handle_moved htask hnext htask' hhandle)
  | taskDialed htask hstage _ =>
    exact .inl (handle_setStage htask (fun hdone => by simp [hstage] at hdone) htask' hhandle)
  | taskMoved htask _ hnext => exact .inl (hsound.handle_moved htask hnext htask' hhandle)

theorem Moves.holds (hholds : r'.Holds origin permit) :
    r.Holds origin permit ∨ evs.any RelayEvent.isOpened = true ∧ ∃ frame env,
      action = .frame frame env ∧ env.permit = some permit ∧ origin = r.session.flowTokens := by
  rcases hholds with ⟨flowId, slot', hslot', hhandle⟩ | ⟨n, task', htask', hhandle⟩
  · rcases h.table hsound with ⟨hfewer, -⟩ | ⟨frame, env, udp, target, _, rfl, hadmitted, rfl, rfl⟩
    · obtain ⟨slot, hslot, hcontinues⟩ := hfewer flowId slot' hslot'
      refine .inl (.inl ⟨flowId, slot, hslot, ?_⟩)
      rw [slot_handle_eq_some] at hhandle ⊢
      rwa [hcontinues.origin, hcontinues.permit] at hhandle
    · rw [(handle_alike _ _).table] at hslot'
      rcases openSlot_lookup.mp hslot' with ⟨-, rfl⟩ | ⟨-, hslot⟩
      · obtain ⟨horigin, hpermit⟩ := slot_handle_eq_some.mp hhandle
        rw [openingSlot_origin] at horigin
        rw [openingSlot_permit] at hpermit
        exact .inr ⟨rfl, frame, env, rfl, hadmitted.permit.trans hpermit, horigin.symm⟩
      · exact .inl (.inl ⟨flowId, slot', hslot, hhandle⟩)
  · rcases h.taskHandle hsound htask' hhandle with
      ⟨task, htask, hhandle⟩ | ⟨hopened, frame, env, _, haction, hpermit, heq⟩
    · exact .inl (.inr ⟨n, task, htask, hhandle⟩)
    · cases heq
      exact .inr ⟨hopened, frame, env, haction, hpermit, rfl⟩

theorem Moves.opens (hopened : evs.any RelayEvent.isOpened = true) :
    ∃ frame env permit, action = .frame frame env ∧ env.permit = some permit ∧
      r'.Holds r.session.flowTokens permit ∧
      r.session.flowTokens < r'.session.flowTokens := by
  rcases h.table hsound with ⟨-, hnone⟩ | ⟨frame, env, udp, target, permit, rfl, hadmitted, rfl, rfl⟩
  · simp [hnone] at hopened
  · refine ⟨frame, env, permit, rfl, hadmitted.permit, .inl ⟨frame.header.id,
      openingSlot udp ⟨r.session.flowTokens, some permit⟩, ?_, ?_⟩, ?_⟩
    · rw [(handle_alike _ _).table]
      exact openSlot_lookup.mpr (.inl ⟨rfl, rfl⟩)
    · exact slot_handle_eq_some.mpr ⟨openingSlot_origin _ _, openingSlot_permit _ _⟩
    · rw [(handle_alike _ _).tokens]
      exact Nat.lt_succ_self _

end

theorem withPermit_frame {action : RelayAction} (h : action.withPermit permit = .frame frame env) :
    env.permit = permit := by
  cases action <;> cases h
  rfl

theorem tryAcquire_eq_some {budget budget' : GlobalFlowBudget}
    (h : budget.tryAcquire = some budget') :
    budget'.current = budget.current + 1 ∧ budget.current + 1 ≤ budget.limit ∧
      budget'.limit = budget.limit := by
  simp only [GlobalFlowBudget.tryAcquire, reserveBytes, Option.map_eq_some_iff] at h
  obtain ⟨current, hcurrent, rfl⟩ := h
  split at hcurrent
  · cases hcurrent
  · split at hcurrent
    · cases hcurrent
    · cases hcurrent
      exact ⟨rfl, by omega, rfl⟩

theorem foldl_dropPermit (permits : List Nat) (budget : GlobalFlowBudget) :
    permits.foldl (fun budget _ => budget.dropPermit) budget =
      { budget with current := budget.current - permits.length } := by
  induction permits generalizing budget with
  | nil => rfl
  | cons permit rest ih =>
    rw [List.foldl_cons, ih]
    simp [GlobalFlowBudget.dropPermit, releaseBytes, Nat.sub_sub, Nat.add_comm]

/-- The invariant of one session among those that share the permits. -/
structure ServedSession.Sound (grants : List (Nat × FlowToken)) (n : Nat)
    (served : ServedSession) : Prop where
  relay : Relay.Sound served.relay
  bounds : InBounds served.context.limits served.relay.session.targetWriters
  permits : ∀ flowId slot, served.relay.session.targetWriters.lookup flowId = some slot →
    slot.permit.isSome = true
  granted : ∀ origin permit, served.relay.Holds origin permit → grants[permit]? = some (n, origin)
  earlier : ∀ origin, (n, origin) ∈ grants → origin < served.relay.session.flowTokens

structure ServedSession.Moved (fresh : Nat) (served : ServedSession) (relay : RelaySession)
    (opened : Bool) : Prop where
  sound : Relay.Sound relay
  bounds : InBounds served.context.limits relay.session.targetWriters
  permits : ∀ flowId slot, relay.session.targetWriters.lookup flowId = some slot →
    slot.permit.isSome = true
  tokens : served.relay.session.flowTokens ≤ relay.session.flowTokens
  holds : ∀ origin permit, relay.Holds origin permit → served.relay.Holds origin permit ∨
    opened = true ∧ permit = fresh ∧ origin = served.relay.session.flowTokens
  opens : opened = true → relay.Holds served.relay.session.flowTokens fresh ∧
    served.relay.session.flowTokens < relay.session.flowTokens

theorem ServedSession.Sound.moved {served : ServedSession} (h : served.Sound grants n)
    (action : RelayAction) (acquired : Option GlobalFlowBudget) (fresh : Nat) :
    let stepped := served.relay.step served.context (action.withPermit (acquired.map fun _ => fresh))
    let opened := stepped.2.any RelayEvent.isOpened
    served.Moved fresh stepped.1 opened ∧ (opened = true → acquired.isSome = true) := by
  intro stepped opened
  have hmoves := step_moves served.context served.relay
    (action.withPermit (acquired.map fun _ => fresh))
  obtain ⟨hsound, hlater⟩ := hmoves.sound h.relay
  -- the permit of an open is the one the step was given
  have hfresh {frame : Frame} {env : HandlerEnv} {permit : Nat}
      (haction : action.withPermit (acquired.map fun _ => fresh) = .frame frame env)
      (hpermit : env.permit = some permit) : permit = fresh ∧ acquired.isSome = true := by
    rw [withPermit_frame haction] at hpermit
    obtain ⟨budget, rfl, rfl⟩ := Option.map_eq_some_iff.mp hpermit
    exact ⟨rfl, rfl⟩
  refine ⟨⟨hsound, ?_, ?_, hlater.tokens.tokens, ?_, ?_⟩, ?_⟩
  · rcases hmoves.table h.relay with ⟨hfewer, -⟩ |
      ⟨frame, env, udp, target, permit, -, hadmitted, hopen, -⟩
    · exact h.bounds.fewer hfewer
    · rw [hopen, (handle_alike _ _).table]
      exact h.bounds.openSlot hadmitted
  · intro flowId slot' hslot'
    rcases hmoves.table h.relay with ⟨hfewer, -⟩ |
      ⟨frame, env, udp, target, permit, -, hadmitted, hopen, -⟩
    · obtain ⟨slot, hslot, hcontinues⟩ := hfewer flowId slot' hslot'
      rw [hcontinues.permit]
      exact h.permits flowId slot hslot
    · rw [hopen, (handle_alike _ _).table] at hslot'
      rcases openSlot_lookup.mp hslot' with ⟨-, rfl⟩ | ⟨-, hslot⟩
      · simp
      · exact h.permits flowId slot' hslot
  · intro origin permit hholds
    rcases hmoves.holds h.relay hholds with hbefore | ⟨hopened, frame, env, haction, hpermit, rfl⟩
    · exact .inl hbefore
    · exact .inr ⟨hopened, (hfresh haction hpermit).1, rfl⟩
  · intro hopened
    obtain ⟨frame, env, permit, haction, hpermit, hholds, hlt⟩ := hmoves.opens h.relay hopened
    rw [(hfresh haction hpermit).1] at hholds
    exact ⟨hholds, hlt⟩
  · intro hopened
    obtain ⟨frame, env, permit, haction, hpermit, -⟩ := hmoves.opens h.relay hopened
    exact (hfresh haction hpermit).2

theorem RelayServer.holds_iff (server : RelayServer)
    (hsound : ∀ (n : Nat) (served : ServedSession), server.sessions[n]? = some served →
      served.Sound server.grants n) :
    server.holds permit = true ↔ ∃ (n : Nat) (served : ServedSession) (origin : FlowToken),
      server.sessions[n]? = some served ∧ served.relay.Holds origin permit := by
  simp only [RelayServer.holds, List.any_eq_true]
  constructor
  · rintro ⟨served, hmem, hholds⟩
    obtain ⟨n, hn⟩ := List.mem_iff_getElem?.mp hmem
    obtain ⟨origin, horigin⟩ := (hsound n served hn).relay.holds_iff.mp hholds
    exact ⟨n, served, origin, hn, horigin⟩
  · rintro ⟨n, served, origin, hn, horigin⟩
    exact ⟨served, List.mem_of_getElem? hn,
      (hsound n served hn).relay.holds_iff.mpr ⟨origin, horigin⟩⟩

/-- A permit is acquired once, and released once unless a flow still holds it. -/
structure PermitsAccounted (log : List PermitEvent) (server : RelayServer) : Prop where
  acquired : ∀ permit, log.count (.acquired permit) =
    if permit < server.grants.length then 1 else 0
  released : ∀ permit, log.count (.released permit) =
    if permit < server.grants.length ∧ server.holds permit = false then 1 else 0

structure Balanced (limit : Nat) (log : List PermitEvent) (server : RelayServer) : Prop where
  sessions : ∀ (n : Nat) (served : ServedSession), server.sessions[n]? = some served →
    served.Sound server.grants n
  served : ∀ n origin, (n, origin) ∈ server.grants → n < server.sessions.length
  unique : server.grants.Nodup
  sameLimit : server.globalFlows.limit = limit
  counted : server.globalFlows.current = server.livePermits.length
  withinLimit : server.globalFlows.current ≤ limit
  accounted : PermitsAccounted log server

theorem Balanced.start (limit : Nat) : Balanced limit [] (.start limit) where
  sessions := fun n served h => by simp [RelayServer.start] at h
  served := fun n origin h => by simp [RelayServer.start] at h
  unique := List.nodup_nil
  sameLimit := rfl
  counted := rfl
  withinLimit := Nat.zero_le limit
  accounted := ⟨fun _ => rfl, fun _ => rfl⟩

section SessionStep

variable {server : RelayServer} {n : Nat} {served : ServedSession} {relay : RelaySession}
  {opened : Bool}

def RelayServer.grant (server : RelayServer) (n : Nat) (served : ServedSession) (opened : Bool) :
    List (Nat × FlowToken) :=
  if opened then server.grants ++ [(n, served.relay.session.flowTokens)] else server.grants

theorem Balanced.sessions_set (h : Balanced limit log server)
    (hn : server.sessions[n]? = some served)
    (hmoved : served.Moved server.grants.length relay opened) (m : Nat) (other : ServedSession)
    (hm : (server.sessions.set n { served with relay := relay })[m]? = some other) :
    other.Sound (server.grant n served opened) m := by
  have hold {permit : Nat} {grant : Nat × FlowToken} (hgrant : server.grants[permit]? = some grant) :
      (server.grant n served opened)[permit]? = some grant := by
    unfold RelayServer.grant
    split
    · exact (List.getElem?_append_left (List.getElem?_eq_some_iff.mp hgrant).1).trans hgrant
    · exact hgrant
  have hback {grant : Nat × FlowToken} (hgrant : grant ∈ server.grant n served opened) :
      grant ∈ server.grants ∨ opened = true ∧ grant = (n, served.relay.session.flowTokens) := by
    unfold RelayServer.grant at hgrant
    split at hgrant
    · rename_i hopened
      simpa [hopened] using hgrant
    · exact .inl hgrant
  rcases getElem?_set_cases hm with ⟨rfl, rfl⟩ | ⟨hne, hm⟩
  · have hsound := h.sessions m served hn
    refine ⟨hmoved.sound, hmoved.bounds, hmoved.permits, ?_, ?_⟩
    · intro origin permit hholds
      rcases hmoved.holds origin permit hholds with hbefore | ⟨hopened, rfl, rfl⟩
      · exact hold (hsound.granted origin permit hbefore)
      · simp [RelayServer.grant, hopened]
    · intro origin hgrant
      rcases hback hgrant with hgrant | ⟨hopened, heq⟩
      · exact (hsound.earlier origin hgrant).trans_le hmoved.tokens
      · cases heq
        exact (hmoved.opens hopened).2
  · have hsound := h.sessions m other hm
    refine ⟨hsound.relay, hsound.bounds, hsound.permits, ?_, ?_⟩
    · intro origin permit hholds
      exact hold (hsound.granted origin permit hholds)
    · intro origin hgrant
      rcases hback hgrant with hgrant | ⟨-, heq⟩
      · exact hsound.earlier origin hgrant
      · cases heq
        exact absurd rfl hne

theorem Balanced.grant_nodup (h : Balanced limit log server)
    (hn : server.sessions[n]? = some served) : (server.grant n served opened).Nodup := by
  unfold RelayServer.grant
  split
  · refine List.nodup_append.mpr ⟨h.unique, List.nodup_singleton _, ?_⟩
    rintro grant hgrant _ hfresh rfl
    rw [List.mem_singleton.mp hfresh] at hgrant
    exact Nat.lt_irrefl _ ((h.sessions n served hn).earlier _ hgrant)
  · exact h.unique

theorem mem_dropped {before after : RelaySession} (h : Sound before) :
    permit ∈ before.dropped after ↔
      (∃ origin, before.Holds origin permit) ∧ after.holds permit = false := by
  simp only [RelaySession.dropped, List.mem_dedup, List.mem_filter, List.mem_map, Prod.exists,
    exists_eq_right, h.mem_handles, Bool.not_eq_true']

theorem Balanced.holds_set (h : Balanced limit log server) (hn : server.sessions[n]? = some served)
    (hmoved : served.Moved server.grants.length relay opened) {server' : RelayServer}
    (hsessions : server'.sessions = server.sessions.set n { served with relay := relay })
    (hgrants : server'.grants = server.grant n served opened) (permit : Nat) :
    server'.holds permit = true ↔
      (server.holds permit = true ∧ permit ∉ served.relay.dropped relay) ∨
        (opened = true ∧ permit = server.grants.length) := by
  have hserved := h.sessions n served hn
  have hset : (server.sessions.set n { served with relay := relay })[n]? =
      some { served with relay := relay } :=
    List.getElem?_set_self (List.getElem?_eq_some_iff.mp hn).1
  rw [server'.holds_iff (hsessions ▸ hgrants ▸ h.sessions_set hn hmoved),
    server.holds_iff h.sessions, hsessions, mem_dropped hserved.relay]
  constructor
  · rintro ⟨m, other, origin, hm, hholds⟩
    rcases getElem?_set_cases hm with ⟨rfl, rfl⟩ | ⟨hne, hm⟩
    · rcases hmoved.holds origin permit hholds with hbefore | ⟨hopened, rfl, -⟩
      · refine .inl ⟨⟨m, served, origin, hn, hbefore⟩, ?_⟩
        rintro ⟨-, hnot⟩
        exact absurd (hmoved.sound.holds_iff.mpr ⟨origin, hholds⟩) (by simp [hnot])
      · exact .inr ⟨hopened, rfl⟩
    · refine .inl ⟨⟨m, other, origin, hm, hholds⟩, ?_⟩
      rintro ⟨⟨origin', hheld⟩, -⟩
      -- a permit is granted to one session only
      have hgrant := (h.sessions m other hm).granted origin permit hholds
      rw [hserved.granted origin' permit hheld] at hgrant
      cases hgrant
      exact hne rfl
  · rintro (⟨⟨m, other, origin, hm, hholds⟩, hkept⟩ | ⟨hopened, rfl⟩)
    · by_cases hne : m = n
      · subst hne
        cases hn.symm.trans hm
        have hheld : relay.holds permit = true := by
          by_contra hnot
          exact hkept ⟨⟨origin, hholds⟩, by simpa using hnot⟩
        obtain ⟨origin', hholds'⟩ := hmoved.sound.holds_iff.mp hheld
        exact ⟨m, _, origin', hset, hholds'⟩
      · exact ⟨m, other, origin, (List.getElem?_set_ne (Ne.symm hne)).trans hm, hholds⟩
    · exact ⟨n, _, _, hset, (hmoved.opens hopened).1⟩

theorem Balanced.lt_of_holds (h : Balanced limit log server)
    (hholds : server.holds permit = true) : permit < server.grants.length := by
  obtain ⟨n, served, origin, hn, hholds⟩ := (server.holds_iff h.sessions).mp hholds
  exact (List.getElem?_eq_some_iff.mp ((h.sessions n served hn).granted origin permit hholds)).1

theorem Balanced.holds_of_dropped (h : Balanced limit log server)
    (hn : server.sessions[n]? = some served) (hdropped : permit ∈ served.relay.dropped relay) :
    server.holds permit = true := by
  obtain ⟨⟨origin, hholds⟩, -⟩ := (mem_dropped (h.sessions n served hn).relay).mp hdropped
  exact (server.holds_iff h.sessions).mpr ⟨n, served, origin, hn, hholds⟩

theorem length_filter_notMem {l dropped : List Nat} (hl : l.Nodup) (hdropped : dropped.Nodup)
    (hsubset : dropped ⊆ l) :
    (l.filter (· ∉ dropped)).length + dropped.length = l.length := by
  have hin : (l.filter (· ∈ dropped)).Perm dropped := by
    refine (List.perm_ext_iff_of_nodup (hl.filter _) hdropped).mpr fun permit => ?_
    simpa using fun hmem => hsubset hmem
  have hsplit := (List.filter_append_perm (fun permit => decide (permit ∈ dropped)) l).length_eq
  rw [List.length_append, hin.length_eq] at hsplit
  simpa [Nat.add_comm] using hsplit

section

variable {limit : Nat} (h : Balanced limit log server) (hn : server.sessions[n]? = some served)
include h hn

theorem Balanced.livePermits_set
    (hmoved : served.Moved server.grants.length relay opened) {server' : RelayServer}
    (hsessions : server'.sessions = server.sessions.set n { served with relay := relay })
    (hgrants : server'.grants = server.grant n served opened) :
    server'.livePermits = server.livePermits.filter (· ∉ served.relay.dropped relay) ++
      if opened then [server.grants.length] else [] := by
  have hholds := h.holds_set hn hmoved hsessions hgrants
  have hold : (List.range server.grants.length).filter server'.holds =
      server.livePermits.filter (· ∉ served.relay.dropped relay) := by
    rw [RelayServer.livePermits, List.filter_filter]
    refine List.filter_congr fun permit hpermit => ?_
    have hne : permit ≠ server.grants.length := Nat.ne_of_lt (List.mem_range.mp hpermit)
    rw [Bool.eq_iff_iff, hholds permit]
    simp [hne, and_comm]
  unfold RelayServer.livePermits at hold ⊢
  rw [hgrants, RelayServer.grant]
  cases opened with
  | false => simpa using hold
  | true =>
    have hfresh : server'.holds server.grants.length = true := (hholds _).mpr (.inr ⟨rfl, rfl⟩)
    simp [List.range_succ, List.filter_append, hold, hfresh]

theorem Balanced.accounted_set
    (hmoved : served.Moved server.grants.length relay opened) {server' : RelayServer}
    (hsessions : server'.sessions = server.sessions.set n { served with relay := relay })
    (hgrants : server'.grants = server.grant n served opened) :
    PermitsAccounted (log ++ ((if opened then [.acquired server.grants.length] else []) ++
      (served.relay.dropped relay).map .released)) server' := by
  have hlength : server'.grants.length =
      server.grants.length + if opened then 1 else 0 := by
    rw [hgrants, RelayServer.grant]
    split <;> simp
  have hreleased (permit : Nat) :
      ((served.relay.dropped relay).map PermitEvent.released).count (.released permit) =
        if permit ∈ served.relay.dropped relay then 1 else 0 := by
    rw [List.count_map_of_injective _ _ fun _ _ heq => PermitEvent.released.inj heq]
    exact List.Nodup.count (List.nodup_dedup _)
  have hacquired (permit : Nat) :
      ((served.relay.dropped relay).map PermitEvent.released).count (.acquired permit) = 0 := by
    simp [List.count_eq_zero]
  constructor
  · intro permit
    rw [List.count_append, List.count_append, h.accounted.acquired, hacquired, hlength]
    cases opened with
    | false => simp
    | true => by_cases heq : permit = server.grants.length <;> grind
  · intro permit
    have hholds := h.holds_set hn hmoved hsessions hgrants permit
    rw [List.count_append, List.count_append, h.accounted.released, hreleased, hlength]
    have hnone : (if opened then [PermitEvent.acquired server.grants.length] else []).count
        (.released permit) = 0 := by
      cases opened <;> simp
    rw [hnone]
    by_cases hdropped : permit ∈ served.relay.dropped relay
    · have hheld := h.holds_of_dropped hn hdropped
      have hlt := h.lt_of_holds hheld
      have hgone : server'.holds permit = false := by
        rw [Bool.eq_false_iff, ne_eq, hholds]
        rintro (⟨-, hkept⟩ | ⟨-, rfl⟩)
        · exact hkept hdropped
        · exact Nat.lt_irrefl _ hlt
      simp [hdropped, hheld, hgone, Nat.lt_add_right _ hlt]
    · have hlt : server.holds permit = true → permit < server.grants.length := h.lt_of_holds
      grind

theorem Balanced.sessionStep (action : RelayAction) :
    Balanced limit (log ++ (server.sessionStep n served action).2)
      (server.sessionStep n served action).1 := by
  have hserved := h.sessions n served hn
  obtain ⟨hmoved, hacquired⟩ := hserved.moved action server.globalFlows.tryAcquire
    server.grants.length
  simp only [RelayServer.sessionStep]
  generalize served.relay.step served.context
    (action.withPermit (server.globalFlows.tryAcquire.map fun _ => server.grants.length)) =
    stepped at hmoved hacquired ⊢
  obtain ⟨relay, evs⟩ := stepped
  generalize evs.any RelayEvent.isOpened = opened at hmoved hacquired ⊢
  let server' : RelayServer :=
    ⟨server.sessions.set n { served with relay := relay },
      (served.relay.dropped relay).foldl (fun budget _ => budget.dropPermit)
        (if opened then server.globalFlows.tryAcquire.getD server.globalFlows
          else server.globalFlows), server.grant n served opened⟩
  have hlive : server'.livePermits = _ := h.livePermits_set hn hmoved rfl rfl
  have hsubset : served.relay.dropped relay ⊆ server.livePermits := fun permit hdropped =>
    have hheld := h.holds_of_dropped hn hdropped
    List.mem_filter.mpr ⟨List.mem_range.mpr (h.lt_of_holds hheld), hheld⟩
  have hdropped : (server.livePermits.filter (· ∉ served.relay.dropped relay)).length +
      (served.relay.dropped relay).length = server.livePermits.length :=
    length_filter_notMem (List.nodup_range.filter server.holds) (List.nodup_dedup _) hsubset
  have hbudget : server'.globalFlows.limit = limit ∧
      server'.globalFlows.current = server'.livePermits.length ∧
      server'.globalFlows.current ≤ limit := by
    have hcounted := h.counted
    have hwithin := h.withinLimit
    rw [hlive, List.length_append]
    simp only [server', foldl_dropPermit]
    cases opened with
    | false =>
      simp only [Bool.false_eq_true, if_false, List.length_nil]
      exact ⟨h.sameLimit, by omega, by omega⟩
    | true =>
      obtain ⟨budget, hbudget⟩ := Option.isSome_iff_exists.mp (hacquired rfl)
      obtain ⟨hcurrent, hroom, hlimit⟩ := tryAcquire_eq_some hbudget
      rw [h.sameLimit] at hroom hlimit
      simp only [hbudget, if_true, Option.getD_some, List.length_singleton]
      exact ⟨hlimit, by omega, by omega⟩
  refine ⟨h.sessions_set hn hmoved, ?_, h.grant_nodup hn, hbudget.1, hbudget.2.1, hbudget.2.2,
    h.accounted_set hn hmoved rfl rfl⟩
  intro m origin hgrant
  have hlength : n < server.sessions.length := (List.getElem?_eq_some_iff.mp hn).1
  rw [List.length_set]
  split at hgrant
  · rcases List.mem_append.mp hgrant with hgrant | hgrant
    · exact h.served m origin hgrant
    · cases List.mem_singleton.mp hgrant
      exact hlength
  · exact h.served m origin hgrant

end

end SessionStep

theorem RelaySession.not_holds_start : ¬RelaySession.start.Holds origin permit := by
  rintro (⟨flowId, slot, hslot, -⟩ | ⟨n, task, htask, -⟩)
  · simp [RelaySession.start, Session.start] at hslot
  · simp [RelaySession.start, Session.start] at htask

theorem Balanced.serve (h : Balanced limit log server) (context : RelayContext) :
    Balanced limit log { server with sessions := server.sessions ++ [⟨context, .start⟩] } := by
  let server' : RelayServer := { server with sessions := server.sessions ++ [⟨context, .start⟩] }
  have hholds : server'.holds = server.holds := by
    funext permit
    have hnone : RelaySession.start.holds permit = false := by
      simp [RelaySession.holds, RelaySession.handles, RelaySession.start, Session.start]
    simp [server', RelayServer.holds, hnone]
  have hlive : server'.livePermits = server.livePermits := by
    simp only [RelayServer.livePermits, hholds]
    rfl
  refine ⟨?_, ?_, h.unique, h.sameLimit, h.counted.trans (congrArg _ hlive.symm), h.withinLimit,
    h.accounted.acquired, fun permit => ?_⟩
  · intro n served hn
    rcases getElem?_concat hn with hn | ⟨rfl, rfl⟩
    · exact h.sessions n served hn
    · refine ⟨.start, ⟨Nat.zero_le _, Nat.zero_le _⟩, fun flowId slot hslot => ?_, ?_, ?_⟩
      · simp [RelaySession.start, Session.start] at hslot
      · exact fun origin permit hholds => absurd hholds RelaySession.not_holds_start
      · exact fun origin hgrant => absurd (h.served _ origin hgrant) (Nat.lt_irrefl _)
  · intro n origin hgrant
    rw [List.length_append]
    exact Nat.lt_add_right _ (h.served n origin hgrant)
  · rw [h.accounted.released, ← hholds]

theorem run_balanced (limit : Nat) (actions : List ServerAction) :
    Balanced limit (run RelayServer.step (.start limit) actions).2
      (run RelayServer.step (.start limit) actions).1 := by
  refine run_invariant (Balanced limit) ?_ (.start limit) (along_true _ actions)
  intro log server action _ h
  cases action with
  | serve context => simpa [RelayServer.step] using h.serve context
  | session n action =>
    simp only [RelayServer.step]
    split
    · simpa using h
    · rename_i served hn
      exact h.sessionStep hn action

/-- The limits of every session and of the budget hold. -/
theorem flows_within_limits (limit : Nat) (actions : List ServerAction) :
    let server := (run RelayServer.step (.start limit) actions).1
    let log := (run RelayServer.step (.start limit) actions).2
    (∀ (n : Nat) (served : ServedSession), server.sessions[n]? = some served →
      let table := served.relay.session.targetWriters
      (∀ flowId slot, table.lookup flowId = some slot →
        flowId ≠ 0 ∧ flowId % 2 = 1 ∧
        ∃ permit, slot.permit = some permit ∧
          server.grants[permit]? = some (n, slot.origin)) ∧
      table.entries.length ≤ served.context.limits.maxStreams ∧
      udpFlowCount table ≤ served.context.limits.maxUdpFlows ∧
      (served.relay.session.state = .draining → ∀ action,
        Fewer table (served.relay.step served.context action).1.session.targetWriters)) ∧
    server.grants.Nodup ∧
    server.globalFlows.current = server.livePermits.length ∧
    server.globalFlows.current ≤ limit ∧
    PermitsAccounted log server := by
  intro server log
  have h : Balanced limit log server := run_balanced limit actions
  refine ⟨?_, h.unique, h.counted, h.withinLimit, h.accounted⟩
  intro n served hn table
  have hserved := h.sessions n served hn
  refine ⟨?_, hserved.bounds.streams, hserved.bounds.udpFlows, ?_⟩
  · intro flowId slot hslot
    have hclient := hserved.relay.tagged.client hslot
    obtain ⟨permit, hpermit⟩ := Option.isSome_iff_exists.mp (hserved.permits flowId slot hslot)
    have hholds : served.relay.Holds slot.origin permit :=
      .inl ⟨flowId, slot, hslot, slot_handle_eq_some.mpr ⟨rfl, hpermit⟩⟩
    have hodd : flowId % 2 = 1 := by
      simp only [isClientInitiatedFlowId, Bool.and_eq_true, beq_iff_eq] at hclient
      exact hclient.2
    exact ⟨client_ne_zero hclient, hodd, permit, hpermit,
      hserved.granted slot.origin permit hholds⟩
  · intro hdraining action
    rcases (step_moves served.context served.relay action).table hserved.relay with
      ⟨hfewer, -⟩ | ⟨frame, env, udp, target, permit, -, hadmitted, -⟩
    · exact hfewer
    · exact absurd hdraining hadmitted.state

end UncrownedKing.Relay
