import UncrownedKing.Relay.MachineLaws

/-!
# Flows and their tasks

Each token was given out once, for one open and one flow id.
-/

namespace UncrownedKing.Relay

open Lib Net Proto Auth Server

variable {task : Task} {flow : Established} {s : Session}

/-- The token belongs to the flow that `origin` opened. -/
structure Owned (flowTokens : FlowToken) (owner : FlowToken → FlowToken × Nat)
    (token origin : FlowToken) (flowId : Nat) : Prop where
  token_lt : token < flowTokens
  origin_lt : origin < flowTokens
  token_owner : owner token = (origin, flowId)
  origin_owner : owner origin = (origin, flowId)

abbrev Session.Owns (s : Session) : FlowToken → FlowToken → Nat → Prop :=
  Owned s.flowTokens s.owner

/-- Tokens are only added. -/
structure Session.Extends (s s' : Session) : Prop where
  tokens : s.flowTokens ≤ s'.flowTokens
  owner : ∀ token, token < s.flowTokens → s'.owner token = s.owner token

variable {s s' : Session}

theorem Owned.extends (h : s.Owns token origin flowId) (hext : s.Extends s') :
    s'.Owns token origin flowId where
  token_lt := Nat.lt_of_lt_of_le h.token_lt hext.tokens
  origin_lt := Nat.lt_of_lt_of_le h.origin_lt hext.tokens
  token_owner := (hext.owner token h.token_lt).trans h.token_owner
  origin_owner := (hext.owner origin h.origin_lt).trans h.origin_owner

theorem Owned.origin_eq (h : s.Owns token origin flowId) (h' : s.Owns token origin' flowId') :
    origin = origin' :=
  congrArg Prod.fst (h.token_owner.symm.trans h'.token_owner)

theorem Owned.flowId_eq (h : s.Owns token origin flowId) (h' : s.Owns token' origin flowId') :
    flowId = flowId' :=
  congrArg Prod.snd (h.origin_owner.symm.trans h'.origin_owner)

theorem allocate_extends (s : Session) (origin : FlowToken) (flowId : Nat) :
    s.Extends (s.allocate origin flowId) where
  tokens := Nat.le_succ _
  owner := fun _ hlt => Function.update_of_ne (Nat.ne_of_lt hlt) _ _

theorem allocate_owner (s : Session) (origin : FlowToken) (flowId : Nat) :
    (s.allocate origin flowId).owner s.flowTokens = (origin, flowId) :=
  Function.update_self _ _ _

theorem Kept.extends (h : Kept ended s s') : s.Extends s' :=
  ⟨h.tokens.ge, fun _ _ => congrFun h.owner _⟩

def Task.isTimer (task : Task) : Bool :=
  match task.kind with
  | .halfCloseTimer _ => true
  | _ => false

def Task.Reports (task : Task) (frame : Frame) : Prop :=
  frame.header.id = task.flowId ∧ isData frame = false

def Task.WellStaged (task : Task) : Prop :=
  match task.stage with
  | .dialing | .dialed _ => task.isOpen = true
  | .reading => task.isReader = true
  | .sending frame => task.isReader = true ∧ task.Sends frame
  | .relaying _ => task.kind = .targetWriter
  | .sleeping => task.isTimer = true
  | .reporting frames => task.isOpen = false ∧ ∀ frame ∈ frames, task.Reports frame
  | .ending event =>
    task.isOpen = true ∧ (∃ result, event = task.openEvent result) ∨
      task.isOpen = false ∧ event = task.closedEvent
  | .done => True

theorem isReader_not_open (h : task.isReader = true) : task.isOpen = false := by
  unfold Task.isReader at h
  unfold Task.isOpen
  cases hkind : task.kind <;> simp_all

theorem isTimer_not_open (h : task.isTimer = true) : task.isOpen = false := by
  unfold Task.isTimer at h
  unfold Task.isOpen
  cases hkind : task.kind <;> simp_all

theorem Task.WellStaged.active (h : task.WellStaged)
    (hactive : task.stage.isActive = true) : task.isReader = true := by
  unfold Task.WellStaged at h
  cases hstage : task.stage <;> simp_all [TaskStage.isActive]

theorem Task.WellStaged.relaying (h : task.WellStaged)
    (hrelaying : task.stage.isRelaying = true) : task.isOpen = false := by
  unfold Task.WellStaged at h
  cases hstage : task.stage <;> simp_all [TaskStage.isRelaying]
  · exact isReader_not_open h
  · exact isReader_not_open h.1
  · simp [Task.isOpen, h]

theorem Task.WellStaged.writes (h : task.WellStaged)
    (hframe : task.stage.frame? = some frame) : frame.header.id = task.flowId := by
  unfold Task.WellStaged at h
  cases hstage : task.stage with
  | sending sent =>
    simp only [hstage, TaskStage.frame?, Option.some.injEq] at h hframe
    exact hframe ▸ h.2.1
  | reporting frames =>
    cases frames with
    | nil => simp [hstage, TaskStage.frame?] at hframe
    | cons first rest =>
      simp only [hstage, TaskStage.frame?, Option.some.injEq] at h hframe
      exact hframe ▸ (h.2 first List.mem_cons_self).1
  | _ => simp [hstage, TaskStage.frame?] at hframe

theorem Task.WellStaged.sending_of_data (h : task.WellStaged)
    (hframe : task.stage.frame? = some frame) (hdata : isData frame = true) :
    task.stage = .sending frame := by
  unfold Task.WellStaged at h
  cases hstage : task.stage with
  | sending sent =>
    simp only [hstage, TaskStage.frame?, Option.some.injEq] at hframe
    rw [hframe]
  | reporting frames =>
    cases frames with
    | nil => simp [hstage, TaskStage.frame?] at hframe
    | cons first rest =>
      simp only [hstage, TaskStage.frame?, Option.some.injEq] at h hframe
      have hplain := (h.2 first List.mem_cons_self).2
      rw [hframe, hdata] at hplain
      cases hplain
  | _ => simp [hstage, TaskStage.frame?] at hframe

theorem reportFrames_reports (task : Task) : ∀ frame ∈ task.reportFrames, task.Reports frame := by
  intro frame hframe
  have hstatus : ∀ frame, statusFrame .error task.flowId .targetUnavailable = .ok frame →
      task.Reports frame := by
    intro frame h
    obtain ⟨payload, -, h⟩ := bind_eq_ok.mp h
    obtain ⟨htype, hid, -⟩ := frame_new_ok h
    exact ⟨hid, by simp [isData, htype]⟩
  have hclose : ∀ frame, task.closeFrame closeError = .ok frame → task.Reports frame := by
    intro frame h
    unfold Task.closeFrame at h
    split at h
    · obtain ⟨payload, -, h⟩ := bind_eq_ok.mp h
      obtain ⟨htype, hid, -⟩ := frame_new_ok h
      exact ⟨hid, by simp [isData, htype]⟩
    · obtain ⟨payload, -, h⟩ := bind_eq_ok.mp h
      obtain ⟨htype, hid, -⟩ := frame_new_ok h
      exact ⟨hid, by simp [isData, htype]⟩
  simp only [Task.reportFrames, List.mem_filterMap] at hframe
  obtain ⟨result, hresult, hok⟩ := hframe
  cases result with
  | error error => cases hok
  | ok built =>
    cases hok
    rcases List.mem_cons.mp hresult with hresult | hresult
    · exact hstatus frame hresult.symm
    · exact hclose frame (List.mem_singleton.mp hresult).symm

/-- Slots and tasks carry tokens of their own flow. -/
structure Tagged (s : Session) : Prop where
  client : ClientIds s.targetWriters
  slotOwns : ∀ {flowId slot}, s.targetWriters.lookup flowId = some slot →
    s.Owns slot.token slot.origin flowId
  taskOwns : ∀ {n : Nat} {task}, s.tasks[n]? = some task →
    s.Owns task.token task.origin task.flowId
  staged : ∀ {n : Nat} {task}, s.tasks[n]? = some task → task.WellStaged
  opening : ∀ {flowId slot} {n : Nat} {task}, s.targetWriters.lookup flowId = some slot →
    slot.isOpening = true → s.tasks[n]? = some task → task.origin = slot.origin →
    task.isOpen = true
  reader : ∀ {n m : Nat} {a b}, s.tasks[n]? = some a → s.tasks[m]? = some b →
    a.isReader = true → b.isReader = true → a.origin = b.origin → n = m
  flowTask : ∀ {n m : Nat} {a b}, s.tasks[n]? = some a → s.tasks[m]? = some b →
    a.isOpen = false → b.isOpen = false → a.origin = b.origin → a.token = b.token
  flowSlot : ∀ {flowId slot} {n : Nat} {task}, s.targetWriters.lookup flowId = some slot →
    slot.isOpening = false → s.tasks[n]? = some task → task.isOpen = false →
    task.origin = slot.origin → task.token = slot.token

theorem Tagged.start : Tagged .start where
  client := fun h => by simp [Session.start] at h
  slotOwns := fun h => by simp [Session.start] at h
  taskOwns := fun h => by simp [Session.start] at h
  staged := fun h => by simp [Session.start] at h
  opening := fun h => by simp [Session.start] at h
  reader := fun h => by simp [Session.start] at h
  flowTask := fun h => by simp [Session.start] at h
  flowSlot := fun h => by simp [Session.start] at h

theorem Tagged.slot_unique (h : Tagged s) (hslot : s.targetWriters.lookup flowId = some slot)
    (hslot' : s.targetWriters.lookup flowId' = some slot') (horigin : slot.origin = slot'.origin) :
    flowId = flowId' ∧ slot = slot' := by
  have hid : flowId = flowId' := (h.slotOwns hslot).flowId_eq (horigin ▸ h.slotOwns hslot')
  subst hid
  exact ⟨rfl, Option.some.inj (hslot.symm.trans hslot')⟩

theorem Tagged.extends (h : Tagged s) (hext : s.Extends s')
    (htable : s'.targetWriters = s.targetWriters) (htasks : s'.tasks = s.tasks) : Tagged s' where
  client := htable ▸ h.client
  slotOwns := fun hslot => (h.slotOwns (htable ▸ hslot)).extends hext
  taskOwns := fun htask => (h.taskOwns (htasks ▸ htask)).extends hext
  staged := fun htask => h.staged (htasks ▸ htask)
  opening := fun hslot hopening htask => h.opening (htable ▸ hslot) hopening (htasks ▸ htask)
  reader := fun ha hb => h.reader (htasks ▸ ha) (htasks ▸ hb)
  flowTask := fun ha hb => h.flowTask (htasks ▸ ha) (htasks ▸ hb)
  flowSlot := fun hslot hopening htask => h.flowSlot (htable ▸ hslot) hopening (htasks ▸ htask)

theorem Tagged.dropSlots (h : Tagged s) {table : FlowTable}
    (hslots : ∀ {flowId slot'}, table.lookup flowId = some slot' →
      ∃ slot, s.targetWriters.lookup flowId = some slot ∧ slot.Same slot') :
    Tagged { s with targetWriters := table } where
  client := fun hslot => by
    obtain ⟨slot, hslot, -⟩ := hslots hslot
    exact h.client hslot
  slotOwns := fun hslot => by
    obtain ⟨slot, hslot, hsame⟩ := hslots hslot
    rw [hsame.token, hsame.origin]
    exact h.slotOwns hslot
  taskOwns := h.taskOwns
  staged := h.staged
  opening := fun hslot hopening htask horigin => by
    obtain ⟨slot, hslot, hsame⟩ := hslots hslot
    exact h.opening hslot (hsame.isOpening ▸ hopening) htask (horigin.trans hsame.origin)
  reader := h.reader
  flowTask := h.flowTask
  flowSlot := fun hslot hopening htask hopen horigin => by
    obtain ⟨slot, hslot, hsame⟩ := hslots hslot
    rw [hsame.token]
    exact h.flowSlot hslot (hsame.isOpening ▸ hopening) htask hopen
      (horigin.trans hsame.origin)

theorem getElem?_concat {α : Type} {l : List α} {a b : α} (h : (l ++ [a])[n]? = some b) :
    l[n]? = some b ∨ n = l.length ∧ b = a := by
  rw [List.getElem?_append] at h
  split at h
  · exact .inl h
  · rename_i hlen
    obtain ⟨hn, hb⟩ := List.getElem?_eq_some_iff.mp h
    simp only [List.length_singleton, Nat.lt_one_iff] at hn
    exact .inr ⟨by omega, by simpa [hn] using hb.symm⟩

theorem Tagged.addTask (h : Tagged s) (hslot : s.targetWriters.lookup task.flowId = some slot)
    (hestablished : slot.isOpening = false) (htoken : task.token = slot.token)
    (horigin : task.origin = slot.origin) (hopen : task.isOpen = false) (hstaged : task.WellStaged)
    (hreader : task.isReader = true → ∀ {n : Nat} {a}, s.tasks[n]? = some a → a.isReader = true →
      a.origin ≠ task.origin) :
    Tagged { s with tasks := s.tasks ++ [task] } where
  client := h.client
  slotOwns := h.slotOwns
  taskOwns := fun ha => by
    rcases getElem?_concat ha with ha | ⟨-, rfl⟩
    · exact h.taskOwns ha
    · rw [htoken, horigin]
      exact h.slotOwns hslot
  staged := fun ha => by
    rcases getElem?_concat ha with ha | ⟨-, rfl⟩
    · exact h.staged ha
    · exact hstaged
  opening := fun hother hopening ha haorigin => by
    rcases getElem?_concat ha with ha | ⟨-, rfl⟩
    · exact h.opening hother hopening ha haorigin
    · have hunique := (h.slot_unique hslot hother (horigin.symm.trans haorigin)).2
      rw [← hunique, hestablished] at hopening
      cases hopening
  reader := fun ha hb hareader hbreader hab => by
    rcases getElem?_concat ha with hold | ⟨hn, rfl⟩ <;>
      rcases getElem?_concat hb with hold' | ⟨hm, rfl⟩
    · exact h.reader hold hold' hareader hbreader hab
    · exact absurd hab (hreader hbreader hold hareader)
    · exact absurd hab.symm (hreader hareader hold' hbreader)
    · exact hn.trans hm.symm
  flowTask := fun ha hb haopen hbopen hab => by
    rcases getElem?_concat ha with hold | ⟨-, rfl⟩ <;>
      rcases getElem?_concat hb with hold' | ⟨-, rfl⟩
    · exact h.flowTask hold hold' haopen hbopen hab
    · exact (h.flowSlot hslot hestablished hold haopen (hab.trans horigin)).trans htoken.symm
    · exact htoken.trans
        (h.flowSlot hslot hestablished hold' hbopen (hab.symm.trans horigin)).symm
    · rfl
  flowSlot := fun hother hopening ha haopen haorigin => by
    rcases getElem?_concat ha with ha | ⟨-, rfl⟩
    · exact h.flowSlot hother hopening ha haopen haorigin
    · rw [htoken, (h.slot_unique hslot hother (horigin.symm.trans haorigin)).2]

theorem Tagged.addTimers (h : Tagged s) {timers : List Task}
    (htimers : ∀ timer ∈ timers, ∃ slot, s.targetWriters.lookup timer.flowId = some slot ∧
      timer.TimerOf slot) : Tagged { s with tasks := s.tasks ++ timers } := by
  induction timers generalizing s with
  | nil => simpa using h
  | cons timer timers ih =>
    obtain ⟨slot, hslot, htimer⟩ := htimers timer List.mem_cons_self
    obtain ⟨closedSide, hkind⟩ := htimer.kind
    have hadd : Tagged { s with tasks := s.tasks ++ [timer] } := by
      refine h.addTask hslot htimer.established htimer.token htimer.origin ?_ ?_ ?_
      · simp [Task.isOpen, hkind]
      · simp [Task.WellStaged, htimer.stage, Task.isTimer, hkind]
      · intro hreader
        simp [Task.isReader, hkind] at hreader
    have hrest := ih hadd fun other hother => htimers other (List.mem_cons_of_mem _ hother)
    simpa [List.append_assoc] using hrest

theorem Tagged.kept (h : Tagged s) (hkept : Kept ended s s') : Tagged s' := by
  obtain ⟨timers, htasks, htimers⟩ := hkept.tasks
  have htimed : Tagged { s with tasks := s.tasks ++ timers } := h.addTimers htimers
  have hdropped : Tagged { s with tasks := s.tasks ++ timers, targetWriters := s'.targetWriters } :=
    htimed.dropSlots hkept.slots
  exact hdropped.extends ⟨hkept.tokens.ge, fun _ _ => congrFun hkept.owner _⟩ rfl htasks

section

variable (udp : Bool) (cancel : OpenFlowCancel)

@[simp] theorem openingSlot_isOpening : (openingSlot udp cancel).isOpening = true := by
  cases udp <;> rfl

@[simp] theorem openingSlot_token : (openingSlot udp cancel).token = cancel.token := by
  cases udp <;> rfl

@[simp] theorem openingSlot_origin : (openingSlot udp cancel).origin = cancel.token := by
  cases udp <;> rfl

@[simp] theorem openingSlot_permit : (openingSlot udp cancel).permit = cancel.permit := by
  cases udp <;> rfl

@[simp] theorem openingSlot_isUdp : (openingSlot udp cancel).isUdp = udp := by
  cases udp <;> rfl

end

theorem openSlot_extends (s : Session) (udp : Bool) (flowId : Nat) (target : Target)
    (permit : Nat) : s.Extends (s.openSlot udp flowId target permit) :=
  have h := allocate_extends s s.flowTokens flowId
  ⟨h.tokens, h.owner⟩

theorem openSlot_owns (s : Session) (udp : Bool) (flowId : Nat) (target : Target) (permit : Nat) :
    (s.openSlot udp flowId target permit).Owns s.flowTokens s.flowTokens flowId :=
  ⟨Nat.lt_succ_self _, Nat.lt_succ_self _, allocate_owner s _ flowId, allocate_owner s _ flowId⟩

theorem openSlot_lookup {target : Target} {permit : Nat} :
    (s.openSlot udp flowId target permit).targetWriters.lookup other = some slot ↔
      other = flowId ∧ slot = openingSlot udp ⟨s.flowTokens, some permit⟩ ∨
        other ≠ flowId ∧ s.targetWriters.lookup other = some slot :=
  lookup_insert_iff

theorem openSlot_tasks {target : Target} {permit n : Nat}
    (h : (s.openSlot udp flowId target permit).tasks[n]? = some task) :
    s.tasks[n]? = some task ∨ task.isOpen = true ∧ task.flowId = flowId ∧
      task.token = s.flowTokens ∧ task.origin = s.flowTokens ∧ task.stage = .dialing := by
  rcases getElem?_concat h with h | ⟨-, rfl⟩
  · exact .inl h
  · exact .inr ⟨by cases udp <;> rfl, rfl, rfl, rfl, rfl⟩

theorem isOpen_not_reader (h : task.isOpen = true) : task.isReader = false := by
  cases hreader : task.isReader with
  | false => rfl
  | true => simp [isReader_not_open hreader] at h

theorem Tagged.openSlot (h : Tagged s) (hclient : isClientInitiatedFlowId flowId = true)
    (udp : Bool) (target : Target) (permit : Nat) :
    Tagged (s.openSlot udp flowId target permit) where
  client := fun hslot => by
    rcases openSlot_lookup.mp hslot with ⟨rfl, -⟩ | ⟨-, hslot⟩
    · exact hclient
    · exact h.client hslot
  slotOwns := fun hslot => by
    rcases openSlot_lookup.mp hslot with ⟨rfl, rfl⟩ | ⟨-, hslot⟩
    · rw [openingSlot_token, openingSlot_origin]
      exact openSlot_owns s udp _ target permit
    · exact (h.slotOwns hslot).extends (openSlot_extends s udp flowId target permit)
  taskOwns := fun htask => by
    rcases openSlot_tasks htask with htask | ⟨-, hid, htoken, horigin, -⟩
    · exact (h.taskOwns htask).extends (openSlot_extends s udp flowId target permit)
    · rw [hid, htoken, horigin]
      exact openSlot_owns s udp flowId target permit
  staged := fun htask => by
    rcases openSlot_tasks htask with htask | ⟨hopen, -, -, -, hstage⟩
    · exact h.staged htask
    · simpa [Task.WellStaged, hstage] using hopen
  opening := fun hslot hopening htask horigin => by
    rcases openSlot_tasks htask with htask | ⟨hopen, -⟩
    · rcases openSlot_lookup.mp hslot with ⟨-, rfl⟩ | ⟨-, hslot⟩
      · rw [openingSlot_origin] at horigin
        exact absurd horigin (Nat.ne_of_lt (h.taskOwns htask).origin_lt)
      · exact h.opening hslot hopening htask horigin
    · exact hopen
  reader := fun ha hb hareader hbreader hab => by
    rcases openSlot_tasks ha with ha | ⟨hopen, -⟩
    · rcases openSlot_tasks hb with hb | ⟨hopen, -⟩
      · exact h.reader ha hb hareader hbreader hab
      · simp [isOpen_not_reader hopen] at hbreader
    · simp [isOpen_not_reader hopen] at hareader
  flowTask := fun ha hb haopen hbopen hab => by
    rcases openSlot_tasks ha with ha | ⟨hopen, -⟩
    · rcases openSlot_tasks hb with hb | ⟨hopen, -⟩
      · exact h.flowTask ha hb haopen hbopen hab
      · simp [hopen] at hbopen
    · simp [hopen] at haopen
  flowSlot := fun hslot hopening htask hopen horigin => by
    rcases openSlot_tasks htask with htask | ⟨hopen', -⟩
    · rcases openSlot_lookup.mp hslot with ⟨-, rfl⟩ | ⟨-, hslot⟩
      · simp at hopening
      · exact h.flowSlot hslot hopening htask hopen horigin
    · simp [hopen'] at hopen

theorem Tagged.settle (h : Tagged s)
    (hslot : s.targetWriters.lookup flowId = some slot) (hopening : slot.isOpening = true)
    (howns : s.Owns slot'.token slot'.origin flowId) (horigin : slot'.origin = slot.origin)
    (hestablished : slot'.isOpening = false) :
    Tagged { s with targetWriters := s.targetWriters.insert flowId slot' } where
  client := fun hother => by
    rcases lookup_insert_iff.mp hother with ⟨rfl, -⟩ | ⟨-, hother⟩
    · exact h.client hslot
    · exact h.client hother
  slotOwns := fun hother => by
    rcases lookup_insert_iff.mp hother with ⟨rfl, rfl⟩ | ⟨-, hother⟩
    · exact howns
    · exact h.slotOwns hother
  taskOwns := h.taskOwns
  staged := h.staged
  opening := fun hother hopening' htask => by
    rcases lookup_insert_iff.mp hother with ⟨rfl, rfl⟩ | ⟨-, hother⟩
    · simp [hestablished] at hopening'
    · exact h.opening hother hopening' htask
  reader := h.reader
  flowTask := h.flowTask
  flowSlot := fun hother hopening' htask hopen htaskorigin => by
    rcases lookup_insert_iff.mp hother with ⟨rfl, rfl⟩ | ⟨-, hother⟩
    · have := h.opening hslot hopening htask (htaskorigin.trans horigin)
      simp [this] at hopen
    · exact h.flowSlot hother hopening' htask hopen htaskorigin

section

variable (flow : Established) (now : Instant)

@[simp] theorem slot_token : (flow.slot now).token = flow.token := by
  unfold Established.slot
  split <;> rfl

@[simp] theorem slot_origin : (flow.slot now).origin = flow.origin := by
  unfold Established.slot
  split <;> rfl

@[simp] theorem slot_isOpening : (flow.slot now).isOpening = false := by
  unfold Established.slot
  split <;> rfl

@[simp] theorem slot_speaks : (flow.slot now).speaks = true := by
  unfold Established.slot
  split <;> rfl

@[simp] theorem slot_isUdp : (flow.slot now).isUdp = flow.udp := by
  unfold Established.slot
  split <;> simp_all [FlowSlot.isUdp]

@[simp] theorem slot_permit : (flow.slot now).permit = flow.permit := by
  unfold Established.slot
  split <;> rfl

end

theorem Tagged.establish (h : Tagged s) {slot : FlowSlot}
    (hslot : s.targetWriters.lookup flow.flowId = some slot) (hopening : slot.isOpening = true)
    (howns : s.Owns flow.token flow.origin flow.flowId) (horigin : flow.origin = slot.origin)
    (now : Instant) : Tagged (s.establish flow now) := by
  have hsettled : Tagged
      { s with targetWriters := s.targetWriters.insert flow.flowId (flow.slot now) } :=
    h.settle hslot hopening (by simpa using howns) (by simpa using horigin) (by simp)
  have hnew : (s.targetWriters.insert flow.flowId (flow.slot now)).lookup flow.flowId =
      some (flow.slot now) := AList.lookup_insert _
  -- the tasks of the open are no readers
  have hfresh {n : Nat} {a : Task} (ha : s.tasks[n]? = some a) (hareader : a.isReader = true) :
      a.origin ≠ flow.origin := by
    intro heq
    have hopen := h.opening hslot hopening ha (heq.trans horigin)
    simp [isOpen_not_reader hopen] at hareader
  unfold Session.establish Established.tasks
  split
  · exact hsettled.addTask hnew (by simp) (by simp) (by simp) rfl rfl fun _ => hfresh
  · let reader : Task := ⟨.targetReader, flow.flowId, flow.token, flow.origin, none, .reading⟩
    let writer : Task :=
      ⟨.targetWriter, flow.flowId, flow.token, flow.origin, none, .relaying .head⟩
    have hreader : Tagged { s with
        targetWriters := s.targetWriters.insert flow.flowId (flow.slot now)
        tasks := s.tasks ++ [reader] } :=
      hsettled.addTask hnew (by simp) (by simp [reader]) (by simp [reader]) rfl rfl fun _ => hfresh
    have hwriter : Tagged { s with
        targetWriters := s.targetWriters.insert flow.flowId (flow.slot now)
        tasks := s.tasks ++ [reader] ++ [writer] } :=
      hreader.addTask hnew (by simp) (by simp [writer]) (by simp [writer]) rfl rfl nofun
    simpa using hwriter

theorem getElem?_set_cases {α : Type} {l : List α} {a b : α} (h : (l.set n a)[m]? = some b) :
    m = n ∧ b = a ∨ m ≠ n ∧ l[m]? = some b := by
  rw [List.getElem?_set] at h
  split at h
  · rename_i heq
    split at h
    · exact .inl ⟨heq.symm, (Option.some.inj h).symm⟩
    · cases h
  · rename_i hne
    exact .inr ⟨Ne.symm hne, h⟩

theorem setStage_back {tasks : List Task} {task moved : Task} {n m : Nat}
    (htask : tasks[n]? = some task)
    (h : (tasks.set n { task with stage := stage })[m]? = some moved) :
    ∃ old stage', tasks[m]? = some old ∧ moved = { old with stage := stage' } := by
  rcases getElem?_set_cases h with ⟨rfl, rfl⟩ | ⟨-, h⟩
  · exact ⟨task, stage, htask, rfl⟩
  · exact ⟨moved, moved.stage, h, rfl⟩

theorem Tagged.setStage (h : Tagged s) {n : Nat} (htask : s.tasks[n]? = some task)
    (hstaged : { task with stage := stage }.WellStaged) :
    Tagged { s with tasks := s.tasks.set n { task with stage := stage } } where
  client := h.client
  slotOwns := h.slotOwns
  taskOwns := fun ha => by
    obtain ⟨a, stage', holda, rfl⟩ := setStage_back htask ha
    have hbefore := h.taskOwns holda
    exact hbefore
  staged := fun ha => by
    rcases getElem?_set_cases ha with ⟨rfl, rfl⟩ | ⟨-, ha⟩
    · exact hstaged
    · exact h.staged ha
  opening := fun hslot hopening ha => by
    obtain ⟨a, stage', holda, rfl⟩ := setStage_back htask ha
    have hbefore := h.opening hslot hopening holda
    exact hbefore
  reader := fun ha hb => by
    obtain ⟨a, stage', holda, rfl⟩ := setStage_back htask ha
    obtain ⟨b, stage'', holdb, rfl⟩ := setStage_back htask hb
    have hbefore := h.reader holda holdb
    exact hbefore
  flowTask := fun ha hb => by
    obtain ⟨a, stage', holda, rfl⟩ := setStage_back htask ha
    obtain ⟨b, stage'', holdb, rfl⟩ := setStage_back htask hb
    have hbefore := h.flowTask holda holdb
    exact hbefore
  flowSlot := fun hslot hopening ha => by
    obtain ⟨a, stage', holda, rfl⟩ := setStage_back htask ha
    have hbefore := h.flowSlot hslot hopening holda
    exact hbefore

structure Hushed (s s' : Session) : Prop where
  tasks : s'.tasks = s.tasks
  tokens : s'.flowTokens = s.flowTokens
  owner : s'.owner = s.owner
  aborts : AbortsStay s s'

theorem closeTargetFlow_hushed (context : RelayContext) (s : Session) (slot : FlowSlot) :
    Hushed s (closeTargetFlow context s slot) := by
  have hdrop : ∀ slot, Hushed s (s.dropSlot slot) := by
    intro slot
    refine ⟨?_, ?_, ?_, dropSlot_aborts s slot⟩ <;> cases slot <;> rfl
  cases slot with
  | tcp flow =>
    have htoken := (flow.markTargetToClientClosed.closeClientToTarget_same context.capacity
      (s.links flow.token)).token
    have hlink := (flow.markTargetToClientClosed.closeClientToTarget_closing context.capacity
      (s.links flow.token)).aborted
    simp only [closeTargetFlow]
    generalize flow.markTargetToClientClosed.closeClientToTarget context.capacity
      (s.links flow.token) = closed at htoken hlink ⊢
    refine ⟨rfl, rfl, rfl, abortsStay_update closed.1.token rfl ?_⟩
    intro haborted
    rw [htoken] at haborted
    exact (closed.1.drop_closing closed.2).aborted (hlink haborted)
  | openingTcp cancel => exact hdrop (.openingTcp cancel)
  | openingUdp cancel => exact hdrop (.openingUdp cancel)
  | udp flow => exact hdrop (.udp flow)

theorem closeTargetFlows_hushed (context : RelayContext) (s : Session) :
    Hushed s (closeTargetFlows context s) := by
  have hfold : ∀ (entries : List (Sigma fun _ : Nat => FlowSlot)) (s' : Session), Hushed s s' →
      Hushed s (entries.foldl (fun s entry => closeTargetFlow context s entry.2) s') := by
    intro entries
    induction entries with
    | nil => exact fun _ h => h
    | cons entry entries ih =>
      intro s' h
      have hone := closeTargetFlow_hushed context s' entry.2
      exact ih _ ⟨hone.tasks.trans h.tasks, hone.tokens.trans h.tokens, hone.owner.trans h.owner,
        fun token haborted => hone.aborts token (h.aborts token haborted)⟩
  have h := hfold s.targetWriters.entries s ⟨rfl, rfl, rfl, fun _ h => h⟩
  exact ⟨h.tasks, h.tokens, h.owner, h.aborts⟩

theorem Tagged.closeTargetFlows (h : Tagged s) (context : RelayContext) :
    Tagged (closeTargetFlows context s) := by
  have hhushed := closeTargetFlows_hushed context s
  have hempty : Tagged { s with targetWriters := ∅ } :=
    h.dropSlots fun hslot => by simp at hslot
  exact hempty.extends ⟨hhushed.tokens.ge, fun _ _ => congrFun hhushed.owner _⟩ rfl hhushed.tasks

/-- A reader that may still send has its slot, or its flow is aborted. -/
structure Voiced (shutdown : Bool) (s : Session) : Prop where
  active : ∀ {n : Nat} {task}, s.tasks[n]? = some task → task.stage.isActive = true →
    shutdown = true ∨ (s.links task.token).aborted = true ∨
      ∃ slot, s.targetWriters.lookup task.flowId = some slot ∧ slot.token = task.token ∧
        slot.speaks = true
  reporting : ∀ {n : Nat} {task frames}, s.tasks[n]? = some task →
    task.stage = .reporting frames → (s.links task.token).aborted = true

theorem Voiced.start : Voiced false .start where
  active := fun h => by simp [Session.start] at h
  reporting := fun h => by simp [Session.start] at h

theorem Voiced.mono (h : Voiced shutdown s) (hshutdown : shutdown = true → shutdown' = true) :
    Voiced shutdown' s where
  active := fun htask hactive => (h.active htask hactive).imp hshutdown id
  reporting := h.reporting

theorem timers_quiet {tasks timers : List Task} {n : Nat} {table : FlowTable}
    (htimers : ∀ timer ∈ timers, ∃ slot, table.lookup timer.flowId = some slot ∧
      timer.TimerOf slot) (h : (tasks ++ timers)[n]? = some task) :
    tasks[n]? = some task ∨ task.stage = .sleeping := by
  rw [List.getElem?_append] at h
  split at h
  · exact .inl h
  · obtain ⟨slot, -, htimer⟩ := htimers task (List.mem_of_getElem? h)
    exact .inr htimer.stage

theorem Voiced.kept (h : Voiced shutdown s) (hkept : Kept ended s s')
    (hended : ∀ token, ended token → ∀ {n : Nat} {task}, s.tasks[n]? = some task →
      task.stage.isActive = true → task.token ≠ token) : Voiced shutdown s' := by
  obtain ⟨timers, htasks, htimers⟩ := hkept.tasks
  constructor
  · intro n task htask hactive
    rw [htasks] at htask
    rcases timers_quiet htimers htask with htask | hsleeping
    · rcases h.active htask hactive with hshutdown | haborted | ⟨slot, hslot, htoken, hspeaks⟩
      · exact .inl hshutdown
      · exact .inr (.inl (hkept.aborts _ haborted))
      · rcases hkept.voices hslot hspeaks with ⟨slot', hslot', htoken', hspeaks'⟩ | haborted | hend
        · exact .inr (.inr ⟨slot', hslot', htoken'.trans htoken, hspeaks'⟩)
        · exact .inr (.inl (htoken ▸ haborted))
        · exact absurd htoken.symm (hended _ hend htask hactive)
    · simp [hsleeping, TaskStage.isActive] at hactive
  · intro n task frames htask hstage
    rw [htasks] at htask
    rcases timers_quiet htimers htask with htask | hsleeping
    · exact hkept.aborts _ (h.reporting htask hstage)
    · simp [hsleeping] at hstage

theorem Voiced.openSlot (h : Voiced shutdown s)
    (hfree : s.targetWriters.lookup flowId = none) (udp : Bool) (target : Target) (permit : Nat) :
    Voiced shutdown (s.openSlot udp flowId target permit) where
  active := fun htask hactive => by
    rcases openSlot_tasks htask with htask | ⟨-, -, -, -, hstage⟩
    · rcases h.active htask hactive with hshutdown | haborted | ⟨slot, hslot, htoken, hspeaks⟩
      · exact .inl hshutdown
      · exact .inr (.inl haborted)
      · refine .inr (.inr ⟨slot, openSlot_lookup.mpr (.inr ⟨?_, hslot⟩), htoken, hspeaks⟩)
        intro heq
        rw [heq, hfree] at hslot
        cases hslot
    · simp [hstage, TaskStage.isActive] at hactive
  reporting := fun htask hstage => by
    rcases openSlot_tasks htask with htask | ⟨-, -, -, -, hdialing⟩
    · exact h.reporting htask hstage
    · simp [hdialing] at hstage

theorem Voiced.newLink (h : Voiced shutdown s) (htagged : Tagged s) (origin : FlowToken)
    (flowId : Nat) (link : TargetLink) :
    Voiced shutdown { s.allocate origin flowId with
      links := Function.update s.links s.flowTokens link } := by
  have hother {n : Nat} {task : Task} (htask : s.tasks[n]? = some task) :
      Function.update s.links s.flowTokens link task.token = s.links task.token :=
    Function.update_of_ne (Nat.ne_of_lt (htagged.taskOwns htask).token_lt) _ _
  constructor
  · intro n task htask hactive
    simp only [hother htask]
    exact h.active htask hactive
  · intro n task frames htask hstage
    simp only [hother htask]
    exact h.reporting htask hstage

theorem establish_tasks {now : Instant} {n : Nat}
    (h : (s.establish flow now).tasks[n]? = some task) :
    s.tasks[n]? = some task ∨ task.flowId = flow.flowId ∧ task.token = flow.token ∧
      task.origin = flow.origin ∧ task.permit = none ∧ task.isOpen = false ∧
      (task.isReader = true ∧ task.stage = .reading ∨ task.stage = .relaying .head) := by
  simp only [Session.establish, List.getElem?_append] at h
  split at h
  · exact .inl h
  · have hmem := List.mem_of_getElem? h
    unfold Established.tasks at hmem
    split at hmem
    · rw [List.mem_singleton.mp hmem]
      exact .inr ⟨rfl, rfl, rfl, rfl, rfl, .inl ⟨rfl, rfl⟩⟩
    · rcases List.mem_cons.mp hmem with rfl | hmem
      · exact .inr ⟨rfl, rfl, rfl, rfl, rfl, .inl ⟨rfl, rfl⟩⟩
      · rw [List.mem_singleton.mp hmem]
        exact .inr ⟨rfl, rfl, rfl, rfl, rfl, .inr rfl⟩

theorem establish_lookup {now : Instant} :
    (s.establish flow now).targetWriters.lookup other = some slot ↔
      other = flow.flowId ∧ slot = flow.slot now ∨
        other ≠ flow.flowId ∧ s.targetWriters.lookup other = some slot :=
  lookup_insert_iff

theorem Voiced.establish (h : Voiced shutdown s) {slot : FlowSlot}
    (hslot : s.targetWriters.lookup flow.flowId = some slot) (hopening : slot.isOpening = true)
    (now : Instant) : Voiced shutdown (s.establish flow now) where
  active := fun htask hactive => by
    rcases establish_tasks htask with htask | ⟨hid, htoken, -⟩
    · rcases h.active htask hactive with hshutdown | haborted | ⟨slot', hslot', htoken, hspeaks⟩
      · exact .inl hshutdown
      · exact .inr (.inl haborted)
      · refine .inr (.inr ⟨slot', establish_lookup.mpr (.inr ⟨?_, hslot'⟩), htoken, hspeaks⟩)
        intro heq
        rw [heq] at hslot'
        cases hslot.symm.trans hslot'
        cases slot <;> simp_all [FlowSlot.isOpening, FlowSlot.speaks]
    · refine .inr (.inr ⟨flow.slot now, establish_lookup.mpr (.inl ⟨hid, rfl⟩), ?_, by simp⟩)
      rw [slot_token, htoken]
  reporting := fun htask hstage => by
    rcases establish_tasks htask with htask | ⟨-, -, -, -, -, ⟨-, hreading⟩ | hrelaying⟩
    · exact h.reporting htask hstage
    · simp [hreading] at hstage
    · simp [hrelaying] at hstage

theorem Voiced.setStage (h : Voiced shutdown s) {n : Nat}
    (htask : s.tasks[n]? = some task) (htasks : s'.tasks = s.tasks.set n { task with stage := stage })
    (htable : s'.targetWriters = s.targetWriters) (haborts : AbortsStay s s')
    (hactive : stage.isActive = true → task.stage.isActive = true)
    (hreporting : ∀ frames, stage = .reporting frames →
      (s'.links task.token).aborted = true) : Voiced shutdown s' where
  active := fun ha hactive' => by
    rw [htasks] at ha
    rw [htable]
    rcases getElem?_set_cases ha with ⟨rfl, rfl⟩ | ⟨-, ha⟩
    · exact (h.active htask (hactive hactive')).imp id (.imp (haborts _) id)
    · exact (h.active ha hactive').imp id (.imp (haborts _) id)
  reporting := fun ha hstage => by
    rw [htasks] at ha
    rcases getElem?_set_cases ha with ⟨rfl, rfl⟩ | ⟨-, ha⟩
    · exact hreporting _ hstage
    · exact haborts _ (h.reporting ha hstage)

theorem Voiced.closeTargetFlows (h : Voiced true s) (context : RelayContext) :
    Voiced true (closeTargetFlows context s) := by
  have hhushed := closeTargetFlows_hushed context s
  constructor
  · exact fun _ _ => .inl rfl
  · intro n task frames htask hstage
    rw [hhushed.tasks] at htask
    exact hhushed.aborts _ (h.reporting htask hstage)

end UncrownedKing.Relay
