import UncrownedKing.Client.SessionLaws

/-!
# Openers and their queues

Flow ids are never used twice, so at most one open waits on a queue.
-/

namespace UncrownedKing.Client

open Lib Proto

/-- The program will wait for the answer to the open of `flowId`. -/
def Awaits (flowId : Nat) (program : Program) : Prop :=
  ∃ protocol, .awaitResponse protocol flowId ∈ program

/-- The opener has the queue, and no datagram is in it. -/
structure FlowQueue.Pristine (queue : FlowQueue) : Prop where
  opener : queue.opener.isSome
  frames : ∀ buffered ∈ queue.frames, buffered.datagram = false

namespace Session

structure Numbered (s : Session) : Prop where
  known : ∀ queue ∈ s.queues, queue.flowId < s.nextFlowId
  nodup : (s.queues.map (·.flowId)).Nodup

theorem Numbered.eq_of_queueOf (h : Numbered s) (hfound : s.queueOf flowId = some queue)
    (hmem : other ∈ s.queues) (hid : other.flowId = flowId) : other = queue := by
  have hqueue : queue.flowId = flowId := by simpa using List.find?_some hfound
  exact List.inj_on_of_nodup_map h.nodup hmem (List.mem_of_find?_eq_some hfound)
    (hid.trans hqueue.symm)

theorem Numbered.queueOf_eq (h : Numbered s) (hmem : queue ∈ s.queues)
    (hid : queue.flowId = flowId) : s.queueOf flowId = some queue := by
  have hsome : (s.queueOf flowId).isSome :=
    List.find?_isSome.mpr ⟨queue, hmem, by simpa using hid⟩
  obtain ⟨found, hfound⟩ := Option.isSome_iff_exists.mp hsome
  rw [hfound, h.eq_of_queueOf hfound hmem hid]

/-- What one step does to queues and to the opens that wait on them. -/
structure WaitStep (s : Session) (program : Program) (next : Session × Program) : Prop where
  numbered : Numbered s → Numbered next.1
  nextFlowId : s.nextFlowId ≤ next.1.nextFlowId
  awaits : ∀ flowId, Awaits flowId next.2 →
    Awaits flowId program ∨ s.nextFlowId ≤ flowId ∧ flowId < next.1.nextFlowId
  queues : ∀ queue' ∈ next.1.queues,
    (∃ queue ∈ s.queues, queue.flowId = queue'.flowId ∧
      (queue.Pristine → queue'.Pristine ∨
        Awaits queue.flowId program ∧ ¬Awaits queue.flowId next.2)) ∨
    s.nextFlowId ≤ queue'.flowId ∧ queue'.Pristine

theorem WaitStep.same (hqueues : s'.queues = s.queues) (hnext : s'.nextFlowId = s.nextFlowId)
    (hawaits : ∀ flowId, Awaits flowId program' → Awaits flowId program) :
    WaitStep s program (s', program') where
  numbered h := ⟨by simpa [hqueues, hnext] using h.known, by simpa [hqueues] using h.nodup⟩
  nextFlowId := by simp [hnext]
  awaits flowId h := .inl (hawaits flowId h)
  queues queue hmem := .inl ⟨queue, by simpa [hqueues] using hmem, rfl, .inl⟩

theorem WaitStep.dropQueue (s : Session) (flowId : Nat)
    (hawaits : ∀ flowId, Awaits flowId program' → Awaits flowId program) :
    WaitStep s program (s.dropQueue flowId, program') where
  numbered h :=
    ⟨fun queue hmem => h.known queue (List.mem_of_mem_filter hmem),
      h.nodup.sublist (List.filter_sublist.map _)⟩
  nextFlowId := Nat.le_refl _
  awaits flowId h := .inl (hawaits flowId h)
  queues queue hmem := .inl ⟨queue, List.mem_of_mem_filter hmem, rfl, .inl⟩

theorem mapQueue_flowIds (s : Session) (flowId : Nat) (f : FlowQueue → FlowQueue)
    (hf : ∀ queue, (f queue).flowId = queue.flowId) :
    (s.mapQueue flowId f).queues.map (·.flowId) = s.queues.map (·.flowId) := by
  simp only [mapQueue, List.map_map]
  refine List.map_congr_left fun queue _ => ?_
  dsimp only [Function.comp]
  split <;> simp [hf]

theorem mem_mapQueue {s : Session} {f : FlowQueue → FlowQueue}
    (h : queue' ∈ (s.mapQueue flowId f).queues) :
    ∃ queue ∈ s.queues, queue' = if queue.flowId = flowId then f queue else queue := by
  obtain ⟨queue, hmem, rfl⟩ := List.mem_map.mp h
  exact ⟨queue, hmem, rfl⟩

theorem Numbered.mapQueue (h : Numbered s) (flowId : Nat) (f : FlowQueue → FlowQueue)
    (hf : ∀ queue, (f queue).flowId = queue.flowId) : Numbered (s.mapQueue flowId f) := by
  refine ⟨fun queue' hmem => ?_, ?_⟩
  · obtain ⟨queue, hold, rfl⟩ := mem_mapQueue hmem
    have hknown : queue.flowId < (s.mapQueue flowId f).nextFlowId := h.known queue hold
    split
    · simpa [hf] using hknown
    · exact hknown
  · rw [mapQueue_flowIds s flowId f hf]
    exact h.nodup

theorem WaitStep.mapQueue (s : Session) (flowId : Nat) (f : FlowQueue → FlowQueue)
    (hf : ∀ queue, (f queue).flowId = queue.flowId)
    (hpristine : ∀ queue ∈ s.queues, queue.flowId = flowId → queue.Pristine →
      (f queue).Pristine ∨ Awaits flowId program ∧ ¬Awaits flowId program')
    (hawaits : ∀ flowId, Awaits flowId program' → Awaits flowId program) :
    WaitStep s program (s.mapQueue flowId f, program') where
  numbered h := h.mapQueue flowId f hf
  nextFlowId := Nat.le_refl _
  awaits flowId h := .inl (hawaits flowId h)
  queues queue' hmem := by
    obtain ⟨queue, hold, rfl⟩ := mem_mapQueue hmem
    refine .inl ⟨queue, hold, ?_, fun h => ?_⟩
    · split
      · exact (hf queue).symm
      · rfl
    · split
      · rename_i hid
        subst hid
        exact hpristine queue hold rfl h
      · exact .inl h

theorem pristine_append {queue : FlowQueue} {buffered : BufferedFlowFrame} (h : queue.Pristine)
    (hbuffered : buffered.datagram = false) :
    ({ queue with frames := queue.frames ++ [buffered] } : FlowQueue).Pristine := by
  refine ⟨h.opener, fun other hmem => ?_⟩
  obtain hold | hnew := List.mem_append.mp hmem
  · exact h.frames other hold
  · rw [List.mem_singleton.mp hnew, hbuffered]

theorem not_awaits_nil : ¬Awaits flowId [] := by simp [Awaits]

theorem awaits_cons (h : Awaits flowId rest) : Awaits flowId (op :: rest) := by
  obtain ⟨protocol, hmem⟩ := h
  exact ⟨protocol, List.mem_cons_of_mem _ hmem⟩

theorem waits_reserveFlow (hreserving : Reserving s task protocol target next) :
    WaitStep s (.reserveFlow protocol target :: rest) next := by
  cases hreserving with
  | refused outcome hle =>
    refine ⟨fun h => ⟨fun queue hmem => ?_, h.nodup⟩, hle, by simp [Awaits], ?_⟩
    · exact Nat.lt_of_lt_of_le (h.known queue hmem) hle
    · exact fun queue hmem => .inl ⟨queue, hmem, rfl, .inl⟩
  | @added flowId next hdraining hle hlt =>
    refine ⟨fun h => ⟨?_, ?_⟩, Nat.le_trans hle (Nat.le_of_lt hlt), ?_, ?_⟩
    · intro queue hmem
      obtain rfl | hold := List.mem_cons.mp hmem
      · exact hlt
      · exact Nat.lt_trans (Nat.lt_of_lt_of_le (h.known queue hold) hle) hlt
    · refine List.nodup_cons.mpr ⟨fun hmem => ?_, h.nodup⟩
      obtain ⟨queue, hold, hid⟩ := List.mem_map.mp hmem
      exact absurd (h.known queue hold) (by simp [hid, hle])
    · rintro other ⟨protocol', hmem⟩
      simp only [openReserved, List.mem_cons, reduceCtorEq, Op.awaitResponse.injEq,
        List.not_mem_nil, or_false, false_or] at hmem
      rw [hmem.2]
      exact .inr ⟨hle, hlt⟩
    · intro queue hmem
      obtain rfl | hold := List.mem_cons.mp hmem
      · exact .inr ⟨hle, by simp, by simp⟩
      · exact .inl ⟨queue, hold, rfl, .inl⟩

theorem not_awaits_of_replies (h : ∀ op ∈ program, Replies op) : ¬Awaits flowId program := by
  rintro ⟨protocol, hmem⟩
  exact h _ hmem

theorem waits_handleFrame (hhandling : Handling s frame next) :
    WaitStep s (.handleFrame frame :: rest) next := by
  cases hhandling with
  | kept hreplies => exact .same rfl rfl fun _ h => absurd h (not_awaits_of_replies hreplies)
  | dropped _ hreplies => exact .same rfl rfl fun _ h => absurd h (not_awaits_of_replies hreplies)
  | queued =>
    exact .mapQueue s _ _ (fun _ => rfl) (fun queue _ _ h => .inl (pristine_append h rfl))
      fun _ h => absurd h not_awaits_nil

theorem not_awaits_answerOpen (protocol : FlowProtocol) (flowId : Nat) (frame : Frame) :
    ¬Awaits other (answerOpen protocol flowId frame) := by
  unfold answerOpen
  repeat' split
  all_goals simp [Awaits, abandonOpen, reportProtocolError]

theorem waits_awaitResponse (s : Session) (protocol : FlowProtocol) (flowId : Nat)
    (choice : Choice) (rest : Program) :
    WaitStep s (.awaitResponse protocol flowId :: rest)
      (s.awaitResponse protocol flowId choice) := by
  have hawaits : Awaits flowId (.awaitResponse protocol flowId :: rest) :=
    ⟨protocol, List.mem_cons_self⟩
  have hstay : WaitStep s (.awaitResponse protocol flowId :: rest)
      (s, [.awaitResponse protocol flowId]) := by
    refine .same rfl rfl ?_
    rintro other ⟨protocol', hmem⟩
    cases List.mem_singleton.mp hmem
    exact hawaits
  unfold awaitResponse
  split
  · split
    · refine .mapQueue s flowId _ (fun _ => rfl) ?_
        fun _ h => absurd h (not_awaits_answerOpen _ _ _)
      exact fun _ _ _ _ => .inr ⟨hawaits, not_awaits_answerOpen _ _ _⟩
    · split
      · exact hstay
      · exact .same rfl rfl (by simp [Awaits])
  · exact .same rfl rfl (by simp [Awaits, cancelPendingOpen, abandonOpen])
  · exact .same rfl rfl (by simp [Awaits, cancelPendingOpen, abandonOpen])
  · exact hstay

theorem awaits_of_onError (onError : OnError) (h : Awaits flowId (onError.program rest)) :
    Awaits flowId rest := by
  cases onError with
  | ignore => exact h
  | failOpen other => simp [Awaits, OnError.program, abandonOpen] at h
  | endReader => simp [Awaits, OnError.program] at h

theorem waits_writeFrame (s : Session) (frame : ProtocolResult Frame) (onError : OnError)
    (rest : Program) :
    WaitStep s (.writeFrame frame onError :: rest)
      (s.exec limits task (.writeFrame frame onError) rest choice) := by
  cases frame with
  | error error => exact .same rfl rfl fun _ h => awaits_cons (awaits_of_onError onError h)
  | ok frame =>
    simp only [exec]
    split
    · refine .same rfl rfl fun flowId h => awaits_cons (awaits_of_onError onError ?_)
      simpa [Awaits] using h
    · exact .same rfl rfl fun _ => awaits_cons

theorem waits_finishOpen (s : Session) (outcome : Except OpenError OpenOutcome) (rest : Program) :
    WaitStep s (.finishOpen outcome :: rest) (s.finishOpen task outcome) := by
  unfold finishOpen finishProgram
  dsimp only
  rcases outcome with error | outcome
  · cases error <;> exact .same rfl rfl (by simp [Awaits])
  · exact .same rfl rfl (by simp [Awaits])

theorem exec_waits (limits : SessionLimits) (s : Session) (task : Nat) (op : Op) (rest : Program)
    (choice : Choice) : WaitStep s (op :: rest) (s.exec limits task op rest choice) := by
  cases op with
  | reserveFlow protocol target =>
    exact waits_reserveFlow (exec_reserveFlow limits s task protocol target rest choice)
  | writeFrame frame onError => exact waits_writeFrame s frame onError rest
  | awaitResponse protocol flowId => exact waits_awaitResponse s protocol flowId choice rest
  | dropReceiver flowId => exact .dropQueue s flowId fun _ => awaits_cons
  | finishOpen outcome => exact waits_finishOpen s outcome rest
  | handleFrame frame => exact waits_handleFrame (handleFrame_handling limits s frame)
  | clearFlows | shutdownCarrier => exact .same rfl rfl fun _ => awaits_cons
  | swapClosed | swapDraining =>
    simp only [exec]
    split
    · exact .same rfl rfl fun _ => awaits_cons
    · exact .same rfl rfl fun flowId h => awaits_cons (by simpa [Awaits] using h)
  | _ =>
    refine .same rfl rfl fun flowId h => awaits_cons ?_
    revert h
    split <;> simp [Awaits, abandonOpen]

theorem not_awaits_call (operation : SessionCall) : ¬Awaits flowId operation.program := by
  rcases operation with _ | _ | _ | _ | code | _ | _ | _
  case carrierFailed => cases code <;> simp [Awaits, SessionCall.program]
  all_goals simp [Awaits, SessionCall.program]

/-- A datagram that is routed comes after its flow was opened. -/
def DatagramTimely (limits : SessionLimits) (s : Session) (flowId : Nat) (payload : Bytes) : Prop :=
  (s.inboundDatagram limits flowId payload).isSome → s.relayed flowId

instance : Decidable (DatagramTimely limits s flowId payload) :=
  inferInstanceAs (Decidable (_ → _))

theorem relayed_iff {s : Session} :
    s.relayed flowId ↔ ∃ queue, s.queueOf flowId = some queue ∧ queue.opener = none := by
  unfold relayed
  cases s.queueOf flowId <;> simp

theorem Numbered.not_pristine (h : Numbered s) (hrelayed : s.relayed flowId)
    (hmem : queue ∈ s.queues) (hid : queue.flowId = flowId) : ¬queue.Pristine := by
  obtain ⟨found, hfound, hopener⟩ := relayed_iff.mp hrelayed
  obtain rfl := h.eq_of_queueOf hfound hmem hid
  exact fun hpristine => by simpa [hopener] using hpristine.opener

theorem waits_datagram (hnumbered : Numbered s) (h : DatagramTimely limits s flowId payload) :
    WaitStep s [] (s.routeInboundDatagram limits flowId payload, []) := by
  unfold routeInboundDatagram
  split
  · exact .same rfl rfl fun _ => id
  · rename_i frame hframe
    have hrelayed : s.relayed flowId := h (by simp [hframe])
    exact .mapQueue s flowId _ (fun _ => rfl)
      (fun queue hmem hid hpristine => absurd hpristine (hnumbered.not_pristine hrelayed hmem hid))
      fun _ => id

theorem pristine_tail {queue : FlowQueue} (h : queue.Pristine) :
    ({ queue with frames := queue.frames.tail } : FlowQueue).Pristine :=
  ⟨h.opener, fun buffered hmem => h.frames buffered (List.mem_of_mem_tail hmem)⟩

theorem step_waits (limits : SessionLimits) (s : Session) (task : Nat) (program : Program)
    (input : SessionInput) (hnumbered : Numbered s)
    (htimely : ∀ flowId payload, input = .datagram flowId payload → program = [] →
      DatagramTimely limits s flowId payload) :
    WaitStep s program (s.step limits task program input) := by
  have hstay : ∀ program, WaitStep s program (s, program) := fun _ => .same rfl rfl fun _ => id
  cases program with
  | cons op rest =>
    cases input with
    | go choice => exact exec_waits limits s task op rest choice
    | _ => exact hstay _
  | nil =>
    cases input with
    | go choice => exact hstay _
    | call operation => exact .same rfl rfl fun _ h => absurd h (not_awaits_call operation)
    | datagram flowId payload => exact waits_datagram hnumbered (htimely flowId payload rfl rfl)
    | receive flowId =>
      simp only [step]
      split
      · exact .mapQueue s flowId _ (fun _ => rfl) (fun _ _ _ h => .inl (pristine_tail h))
          fun _ => id
      · exact hstay _
    | dropFlow flowId =>
      simp only [step]
      split
      · exact .dropQueue s flowId fun _ => id
      · exact hstay _

end Session

open Session

variable {t : Threads Session Program}
  {f : Session → Nat → Program → SessionInput → Session × Program}

/-- The invariant of every run: one open waits on a queue, and it is pristine. -/
structure Waiting (t : Threads Session Program) : Prop where
  numbered : Numbered t.shared
  fresh : ∀ task flowId, Awaits flowId (t.pc task) → flowId < t.shared.nextFlowId
  single : ∀ task other flowId, Awaits flowId (t.pc task) → Awaits flowId (t.pc other) →
    task = other
  pristine : ∀ task flowId, Awaits flowId (t.pc task) →
    ∀ queue ∈ t.shared.queues, queue.flowId = flowId → queue.Pristine

theorem Waiting.start : Waiting sessionStart where
  numbered := ⟨by simp [sessionStart], by simp [sessionStart]⟩
  fresh := by simp [sessionStart, Awaits]
  single := by simp [sessionStart, Awaits]
  pristine := by simp [sessionStart, Awaits]

theorem awaits_step (hstep : WaitStep t.shared (t.pc task) (f t.shared task (t.pc task) input))
    (h : Awaits flowId ((t.step f (task, input)).pc other)) :
    Awaits flowId (t.pc other) ∨ other = task ∧ t.shared.nextFlowId ≤ flowId ∧
      flowId < (t.step f (task, input)).shared.nextFlowId := by
  by_cases heq : other = task
  · subst heq
    rw [Threads.step_pc_self] at h
    obtain hold | hnew := hstep.awaits flowId h
    · exact .inl hold
    · exact .inr ⟨rfl, hnew⟩
  · rw [Threads.step_pc_of_ne t input heq] at h
    exact .inl h

theorem Waiting.step (h : Waiting t)
    (hstep : WaitStep t.shared (t.pc task) (f t.shared task (t.pc task) input)) :
    Waiting (t.step f (task, input)) where
  numbered := hstep.numbered h.numbered
  fresh other flowId hawaits := by
    obtain hold | ⟨-, -, hlt⟩ := awaits_step hstep hawaits
    · exact Nat.lt_of_lt_of_le (h.fresh other flowId hold) hstep.nextFlowId
    · exact hlt
  single first second flowId hfirst hsecond := by
    obtain hold | ⟨heq, hle, -⟩ := awaits_step hstep hfirst <;>
      obtain hold' | ⟨heq', hle', -⟩ := awaits_step hstep hsecond
    · exact h.single first second flowId hold hold'
    · exact absurd (h.fresh first flowId hold) (Nat.not_lt.mpr hle')
    · exact absurd (h.fresh second flowId hold') (Nat.not_lt.mpr hle)
    · exact heq.trans heq'.symm
  pristine other flowId hawaits queue' hmem hid := by
    obtain ⟨queue, hold, hflow, hkeeps⟩ | ⟨-, hpristine⟩ := hstep.queues queue' hmem
    · obtain hbefore | ⟨-, hle, -⟩ := awaits_step hstep hawaits
      · obtain hpristine | ⟨htask, hnot⟩ :=
          hkeeps (h.pristine other flowId hbefore queue hold (hflow.trans hid))
        · exact hpristine
        · -- the queue was the moving task's own, and it waits no more
          rw [hflow, hid] at htask hnot
          have heq := h.single other task flowId hbefore htask
          subst heq
          rw [Threads.step_pc_self] at hawaits
          exact absurd hawaits hnot
      · have hknown := h.numbered.known queue hold
        rw [hflow, hid] at hknown
        exact absurd hknown (Nat.not_lt.mpr hle)
    · exact hpristine

end UncrownedKing.Client
