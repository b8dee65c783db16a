import UncrownedKing.Client.SessionMachine

/-!
# The life of a client session

Whoever leaves a route in a closed session, or an empty table in a draining one,
still has an operation before it that puts this right.
-/

namespace UncrownedKing.Client

open Lib Proto

namespace Session

inductive Allocated (s : Session) (task : Nat) (protocol : FlowProtocol) :
    Session × Except OpenError Nat → Prop
  | refused (error : OpenError) (hle : s.nextFlowId ≤ next) :
    Allocated s task protocol ({ s with nextFlowId := next }, .error error)
  | added (hle : s.nextFlowId ≤ flowId) (hlt : flowId < next) :
    Allocated s task protocol
      ({ s with nextFlowId := next }.addFlow flowId task protocol, .ok flowId)

theorem Allocated.skip (h : Allocated { s with nextFlowId := start } task protocol result)
    (hle : s.nextFlowId ≤ start) : Allocated s task protocol result := by
  cases h with
  | refused error hnext => exact .refused error (Nat.le_trans hle hnext)
  | added hflow hlt => exact .added (Nat.le_trans hle hflow) hlt

theorem allocate_allocated (s : Session) (task : Nat) (protocol : FlowProtocol)
    (attempts : Nat) : Allocated s task protocol (s.allocate task protocol attempts) := by
  induction attempts generalizing s with
  | zero => exact .refused _ (Nat.le_refl _)
  | succ attempts ih =>
    rw [allocate]
    split
    · exact .refused _ (Nat.le_refl _)
    · dsimp only
      split
      · exact .added (Nat.le_refl _) (by simp)
      · exact (ih { s with nextFlowId := s.nextFlowId + 2 }).skip (Nat.le_add_right _ _)

inductive Reserving (s : Session) (task : Nat) (protocol : FlowProtocol) (target : Target) :
    Session × Program → Prop
  | refused (outcome : Except OpenError OpenOutcome) (hle : s.nextFlowId ≤ next) :
    Reserving s task protocol target ({ s with nextFlowId := next }, [.finishOpen outcome])
  | added (hdraining : s.draining = false) (hle : s.nextFlowId ≤ flowId) (hlt : flowId < next) :
    Reserving s task protocol target
      ({ s with nextFlowId := next }.addFlow flowId task protocol,
        openReserved protocol flowId target)

theorem exec_reserveFlow (limits : SessionLimits) (s : Session) (task : Nat)
    (protocol : FlowProtocol) (target : Target) (rest : Program) (choice : Choice) :
    Reserving s task protocol target
      (s.exec limits task (.reserveFlow protocol target) rest choice) := by
  have hrefused : ∀ outcome, Reserving s task protocol target (s, [.finishOpen outcome]) :=
    fun outcome => .refused outcome (Nat.le_refl _)
  cases hdraining : s.draining with
  | true => simpa [exec, reserveFlow, hdraining] using hrefused _
  | false =>
    by_cases hstreams : s.flows.length ≥ limits.maxStreams
    · simpa [exec, reserveFlow, reserveFlowSlot, hdraining, hstreams] using hrefused _
    by_cases hudp : protocol = .udp ∧ s.udpRouteCount ≥ limits.maxUdpFlows
    · simpa [exec, reserveFlow, reserveFlowSlot, hdraining, hstreams, hudp] using hrefused _
    simp only [exec, reserveFlow, reserveFlowSlot, hdraining, hstreams, hudp]
    have hallocated := allocate_allocated s task protocol flowIdAllocationAttempts
    generalize s.allocate task protocol flowIdAllocationAttempts = result at hallocated
    cases hallocated with
    | refused error hle => exact .refused _ hle
    | added hle hlt => exact .added hdraining hle hlt

def Settles : Program → Prop
  | .swapClosed :: _ | .checkEmpty :: _ | .checkDrained :: _ => True
  | .writeFrame _ .endReader :: rest => Settles rest
  | _ => False

def Replies : Op → Prop
  | .writeFrame _ _ | .swapClosed | .checkDrained => True
  | _ => False

inductive Handling (s : Session) (frame : Frame) : Session × Program → Prop
  | kept (hreplies : ∀ op ∈ program, Replies op) : Handling s frame (s, program)
  | dropped (hsettles : Settles program) (hreplies : ∀ op ∈ program, Replies op) :
    Handling s frame (s.dropRoute frame.header.id, program)
  | queued : Handling s frame (s.enqueue frame.header.id ⟨frame, false⟩, [])

section

variable (limits : SessionLimits) (s : Session)

theorem offer_cases (flowId len : Nat) :
    s.offer limits flowId len = .enqueued ∨ s.offer limits flowId len = .flowClosed ∨
      s.offer limits flowId len = .flowQueueFull ∨
      s.offer limits flowId len = .sessionQueueFull := by
  unfold offer
  repeat' split
  all_goals simp

theorem routeFlowFrame_handling (frame : Frame) :
    Handling s frame ((s.routeFlowFrame limits frame).1,
      afterRoute frame (s.routeFlowFrame limits frame).2.1
        (s.routeFlowFrame limits frame).2.2) := by
  unfold routeFlowFrame
  dsimp only
  split
  · exact .kept (by simp [afterRoute, reportProtocolError, Replies])
  · split
    · exact .kept (by simp [afterRoute])
    · split
      · exact .dropped (by simp [afterRoute, Settles]) (by simp [afterRoute, Replies])
      · obtain h | h | h | h := offer_cases limits s frame.header.id frame.payload.length
        · rw [h]
          exact .queued
        all_goals
          rw [h]
          exact .dropped (by simp [afterRoute, Settles]) (by simp [afterRoute, Replies])

theorem handleFrame_handling (frame : Frame) : Handling s frame (s.handleFrame limits frame) := by
  have hreport : Handling s frame (s, [reportProtocolError, .swapClosed]) :=
    .kept (by simp [reportProtocolError, Replies])
  unfold handleFrame
  split
  case h_8 | h_9 =>
    split
    · exact hreport
    · exact .kept (by simp [Replies])
  case h_10 => exact hreport
  all_goals
    split
    · exact hreport
    · split
      · exact .kept (by simp [Replies])
      · exact routeFlowFrame_handling limits s frame

end

structure SameTable (s s' : Session) : Prop where
  flows : s'.flows = s.flows
  closed : s'.closed = s.closed
  draining : s'.draining = s.draining

theorem SameTable.refl (s : Session) : SameTable s s := ⟨rfl, rfl, rfl⟩

theorem awaitResponse_sameTable (s : Session) (protocol : FlowProtocol) (flowId : Nat)
    (choice : Choice) : SameTable s (s.awaitResponse protocol flowId choice).1 := by
  unfold awaitResponse
  repeat' split
  all_goals exact ⟨rfl, rfl, rfl⟩

theorem finishOpen_sameTable (s : Session) (task : Nat)
    (outcome : Except OpenError OpenOutcome) : SameTable s (s.finishOpen task outcome).1 := by
  unfold finishOpen
  dsimp only
  split <;> exact ⟨rfl, rfl, rfl⟩

def Clears (flowId : Nat) : Program → Prop
  | .clearFlows :: _ => True
  | .recheckClosed other :: _ | .removeFlow other :: _ => other = flowId
  | _ => False

/-- What a step leaves behind, its task has still to see to. -/
structure Tidy (s : Session) (program : Program) (next : Session × Program) : Prop where
  closed : s.closed → next.1.closed
  clearing : .clearFlows ∈ next.2 → .clearFlows ∈ program ∨ next.1.closed
  inserted : ∀ flow ∈ next.1.flows, flow ∈ s.flows ∨ s.draining = false
  clears : next.1.closed → ∀ flow ∈ next.1.flows,
    Clears flow.1 next.2 ∨ (s.closed ∧ flow ∈ s.flows) ∧ ¬Clears flow.1 program
  settles : (.clearFlows ∈ program → s.closed) →
    next.1.draining → next.1.closed = false → next.1.flows = [] →
    Settles next.2 ∨ (s.draining ∧ s.closed = false ∧ s.flows = []) ∧ ¬Settles program

theorem Tidy.pass (h : SameTable s s') (hclear : .clearFlows ∈ program' → .clearFlows ∈ program)
    (hclears : s.closed → ∀ flowId, Clears flowId program → Clears flowId program')
    (hsettles : s.draining → s.closed = false → s.flows = [] → Settles program →
      Settles program') : Tidy s program (s', program') where
  closed hclosed := by simpa [h.closed] using hclosed
  clearing hmem := .inl (hclear hmem)
  inserted flow hmem := .inl (by simpa [h.flows] using hmem)
  clears hclosed flow hmem := by
    simp only [h.closed, h.flows] at hclosed hmem
    by_cases hcase : Clears flow.1 program
    · exact .inl (hclears hclosed _ hcase)
    · exact .inr ⟨⟨hclosed, hmem⟩, hcase⟩
  settles _ hdraining hopen hempty := by
    simp only [h.closed, h.flows, h.draining] at hdraining hopen hempty
    by_cases hcase : Settles program
    · exact .inl (hsettles hdraining hopen hempty hcase)
    · exact .inr ⟨⟨hdraining, hopen, hempty⟩, hcase⟩

theorem Tidy.keep (h : SameTable s s') (hclear : .clearFlows ∈ program' → .clearFlows ∈ program)
    (hclears : ∀ flowId, ¬Clears flowId program) (hsettles : ¬Settles program) :
    Tidy s program (s', program') :=
  .pass h hclear (fun _ flowId hcase => absurd hcase (hclears flowId))
    fun _ _ _ hcase => absurd hcase hsettles

theorem tidy_reserveFlow (hreserving : Reserving s task protocol target next) :
    Tidy s (.reserveFlow protocol target :: rest) next := by
  cases hreserving with
  | refused outcome hle =>
    exact .keep ⟨rfl, rfl, rfl⟩ (by simp) (by simp [Clears]) (by simp [Settles])
  | @added flowId next hdraining hle hlt =>
    refine ⟨id, ?_, fun _ _ => .inr hdraining, ?_, ?_⟩
    · simp [openReserved]
    · intro hclosed flow hflow
      obtain rfl | hmem := List.mem_cons.mp hflow
      · exact .inl (by simp [openReserved, Clears])
      · exact .inr ⟨⟨hclosed, hmem⟩, by simp [Clears]⟩
    · simp [addFlow]

theorem tidy_handleFrame (hhandling : Handling s frame next) :
    Tidy s (.handleFrame frame :: rest) next := by
  cases hhandling with
  | kept hreplies =>
    exact .keep (.refl s) (fun h => (hreplies _ h).elim) (by simp [Clears]) (by simp [Settles])
  | dropped hsettles hreplies =>
    refine ⟨id, fun h => (hreplies _ h).elim, ?_, ?_, fun _ _ _ _ => .inl hsettles⟩
    · exact fun flow hflow => .inl (List.mem_of_mem_filter hflow)
    · exact fun hclosed flow hflow =>
        .inr ⟨⟨hclosed, List.mem_of_mem_filter hflow⟩, by simp [Clears]⟩
  | queued => exact .keep ⟨rfl, rfl, rfl⟩ (by simp) (by simp [Clears]) (by simp [Settles])

theorem dropRoute_of_not_hasFlow {s : Session} (h : s.hasFlow flowId = false) :
    (s.dropRoute flowId).flows = s.flows := by
  simp only [hasFlow, List.any_eq_false] at h
  exact List.filter_eq_self.mpr fun flow hflow => by simpa using h flow hflow

theorem tidy_removeFlow (s : Session) (flowId : Nat) (rest : Program) :
    Tidy s (.removeFlow flowId :: rest) (s.exec limits task (.removeFlow flowId) rest choice) := by
  refine ⟨id, ?_, ?_, ?_, ?_⟩
  · intro hmem
    simp only [exec] at hmem
    split at hmem <;> exact .inl (by simpa using hmem)
  · exact fun flow hflow => .inl (List.mem_of_mem_filter hflow)
  · intro hclosed flow hflow
    have hne : flow.1 ≠ flowId := by simpa using List.of_mem_filter hflow
    exact .inr ⟨⟨hclosed, List.mem_of_mem_filter hflow⟩, fun h => hne h.symm⟩
  · intro _ hdraining hopen hempty
    cases hfound : s.hasFlow flowId with
    | true =>
      have hdraining : s.draining := hdraining
      have hempty : (s.dropRoute flowId).flows = [] := hempty
      exact .inl (by simp [exec, hfound, hdraining, hempty, Settles])
    | false =>
      have hempty : s.flows = [] := (dropRoute_of_not_hasFlow hfound).symm.trans hempty
      exact .inr ⟨⟨hdraining, hopen, hempty⟩, by simp [Settles]⟩

theorem tidy_swapClosed (s : Session) (rest : Program) :
    Tidy s (.swapClosed :: rest) (s.exec limits task .swapClosed rest choice) := by
  simp only [exec]
  split
  · rename_i hclosed
    exact .pass (.refl s) (List.mem_cons_of_mem _) (by simp [Clears]) (by simp [hclosed])
  · refine ⟨fun _ => rfl, fun _ => .inr rfl, fun flow hflow => .inl hflow, ?_, ?_⟩
    · exact fun _ flow _ => .inl trivial
    · simp [emit]

theorem tidy_clearFlows (s : Session) (rest : Program) :
    Tidy s (.clearFlows :: rest) ({ s with flows := [] }, rest) where
  closed := id
  clearing _ := .inl List.mem_cons_self
  inserted := by simp
  clears := by simp
  settles hclear _ hopen _ := by
    have hclosed := hclear List.mem_cons_self
    simp [hclosed] at hopen

theorem tidy_swapDraining (s : Session) (rest : Program) :
    Tidy s (.swapDraining :: rest) (s.exec limits task .swapDraining rest choice) := by
  simp only [exec]
  split
  · exact .keep (.refl s) (List.mem_cons_of_mem _) (by simp [Clears]) (by simp [Settles])
  · refine ⟨id, fun h => .inl (by simpa using h), fun flow hflow => .inl hflow, ?_, ?_⟩
    · exact fun hclosed flow hflow => .inr ⟨⟨hclosed, hflow⟩, by simp [Clears]⟩
    · exact fun _ _ _ _ => .inl trivial

theorem clearFlows_of_onError (onError : OnError) (h : .clearFlows ∈ onError.program rest) :
    .clearFlows ∈ rest := by
  cases onError <;> simp_all [OnError.program, abandonOpen]

theorem tidy_writeFrame (s : Session) (frame : ProtocolResult Frame) (onError : OnError)
    (rest : Program) :
    Tidy s (.writeFrame frame onError :: rest)
      (s.exec limits task (.writeFrame frame onError) rest choice) := by
  have hsettles : Settles (.writeFrame frame onError :: rest) →
      onError = .endReader ∧ Settles rest := by
    cases onError <;> simp [Settles]
  cases frame with
  | error error =>
    refine .pass (.refl s) ?_ (by simp [Clears]) fun _ _ _ h => ?_
    · exact fun h => List.mem_cons_of_mem _ (clearFlows_of_onError onError h)
    · simp [(hsettles h).1, OnError.program, Settles]
  | ok frame =>
    simp only [exec]
    split
    · refine .pass (.refl s) ?_ (by simp [Clears]) fun _ _ _ _ => trivial
      intro h
      exact List.mem_cons_of_mem _ (clearFlows_of_onError onError (by simpa using h))
    · exact .pass ⟨rfl, rfl, rfl⟩ (List.mem_cons_of_mem _) (by simp [Clears])
        fun _ _ _ h => (hsettles h).2

theorem awaitResponse_program (s : Session) (protocol : FlowProtocol) (flowId : Nat)
    (choice : Choice) : .clearFlows ∉ (s.awaitResponse protocol flowId choice).2 := by
  unfold awaitResponse
  repeat' split
  all_goals simp [answerOpen, cancelPendingOpen, abandonOpen, reportProtocolError]
  split <;> simp

theorem finishOpen_program (s : Session) (task : Nat)
    (outcome : Except OpenError OpenOutcome) : .clearFlows ∉ (s.finishOpen task outcome).2 := by
  unfold finishOpen finishProgram
  dsimp only
  repeat' split
  all_goals simp_all

theorem exec_tidy (limits : SessionLimits) (s : Session) (task : Nat) (op : Op) (rest : Program)
    (choice : Choice) : Tidy s (op :: rest) (s.exec limits task op rest choice) := by
  cases op with
  | checkDraining =>
    refine .keep (.refl s) ?_ (by simp [Clears]) (by simp [Settles])
    split <;> simp_all
  | checkClosed =>
    refine .keep (.refl s) ?_ (by simp [Clears]) (by simp [Settles])
    split <;> simp_all
  | checkUdpRelay =>
    refine .keep (.refl s) ?_ (by simp [Clears]) (by simp [Settles])
    split <;> simp_all
  | reserveFlow protocol target =>
    exact tidy_reserveFlow (exec_reserveFlow limits s task protocol target rest choice)
  | recheckClosed flowId =>
    refine .pass (.refl s) ?_ ?_ (by simp [Settles])
    · split <;> simp_all [abandonOpen]
    · intro hclosed
      simp [hclosed, abandonOpen, Clears]
  | writeFrame frame onError => exact tidy_writeFrame s frame onError rest
  | awaitResponse protocol flowId =>
    exact .keep (awaitResponse_sameTable s protocol flowId choice)
      (fun h => absurd h (awaitResponse_program s protocol flowId choice))
      (by simp [Clears]) (by simp [Settles])
  | removeFlow flowId => exact tidy_removeFlow s flowId rest
  | dropReceiver flowId =>
    exact .keep ⟨rfl, rfl, rfl⟩ (List.mem_cons_of_mem _) (by simp [Clears]) (by simp [Settles])
  | finishOpen outcome =>
    exact .keep (finishOpen_sameTable s task outcome)
      (fun h => absurd h (finishOpen_program s task outcome)) (by simp [Clears]) (by simp [Settles])
  | swapClosed => exact tidy_swapClosed s rest
  | clearFlows => exact tidy_clearFlows s rest
  | shutdownCarrier =>
    exact .keep ⟨rfl, rfl, rfl⟩ (List.mem_cons_of_mem _) (by simp [Clears]) (by simp [Settles])
  | swapDraining => exact tidy_swapDraining s rest
  | checkDrained =>
    refine .pass (.refl s) ?_ (by simp [Clears]) ?_
    · split <;> simp_all
    · intro hdraining _ _ _
      simp [hdraining, Settles]
  | checkEmpty =>
    refine .pass (.refl s) ?_ (by simp [Clears]) ?_
    · split <;> simp_all
    · intro _ _ hempty _
      simp [hempty, Settles]
  | handleFrame frame => exact tidy_handleFrame (handleFrame_handling limits s frame)

theorem call_clearFlows (operation : SessionCall) : .clearFlows ∉ operation.program := by
  rcases operation with _ | _ | _ | _ | code | _ | _ | _
  case carrierFailed => cases code <;> simp [SessionCall.program]
  all_goals simp [SessionCall.program]

theorem routeInboundDatagram_sameTable (limits : SessionLimits) (s : Session) (flowId : Nat)
    (payload : Bytes) : SameTable s (s.routeInboundDatagram limits flowId payload) := by
  unfold routeInboundDatagram
  split <;> exact ⟨rfl, rfl, rfl⟩

theorem step_tidy (limits : SessionLimits) (s : Session) (task : Nat) (program : Program)
    (input : SessionInput) : Tidy s program (s.step limits task program input) := by
  have hstay : ∀ program, Tidy s program (s, program) := fun program =>
    .pass (.refl s) id (fun _ _ => id) fun _ _ _ => id
  cases program with
  | cons op rest =>
    cases input with
    | go choice => exact exec_tidy limits s task op rest choice
    | _ => exact hstay _
  | nil =>
    have hidle : ∀ {s'}, SameTable s s' → Tidy s [] (s', []) := fun h =>
      .keep h id (by simp [Clears]) (by simp [Settles])
    cases input with
    | go choice => exact hstay _
    | call operation =>
      exact .keep (.refl s) (fun h => absurd h (call_clearFlows operation)) (by simp [Clears])
        (by simp [Settles])
    | datagram flowId payload =>
      exact hidle (routeInboundDatagram_sameTable limits s flowId payload)
    | receive flowId =>
      refine hidle ?_
      split <;> exact ⟨rfl, rfl, rfl⟩
    | dropFlow flowId =>
      refine hidle ?_
      split <;> exact ⟨rfl, rfl, rfl⟩

end Session

open Session

structure Lifecycle (t : Threads Session Program) : Prop where
  clearing : ∀ task, .clearFlows ∈ t.pc task → t.shared.closed
  clears : t.shared.closed → ∀ flow ∈ t.shared.flows, ∃ task, Clears flow.1 (t.pc task)
  settles : t.shared.draining → t.shared.closed = false → t.shared.flows = [] →
    ∃ task, Settles (t.pc task)

theorem Lifecycle.start : Lifecycle sessionStart := ⟨by simp [sessionStart], by simp [sessionStart],
  by simp [sessionStart]⟩

theorem Lifecycle.step (h : Lifecycle t) (act : Nat × SessionInput) :
    Lifecycle (t.step (Session.step limits) act) := by
  obtain ⟨task, input⟩ := act
  have htidy := step_tidy limits t.shared task (t.pc task) input
  refine ⟨fun other hmem => ?_, fun hclosed flow hflow => ?_, fun hdraining hopen hempty => ?_⟩
  · by_cases heq : other = task
    · subst heq
      rw [Threads.step_pc_self] at hmem
      obtain hbefore | hclosed := htidy.clearing hmem
      · exact htidy.closed (h.clearing other hbefore)
      · exact hclosed
    · rw [Threads.step_pc_of_ne t input heq] at hmem
      exact htidy.closed (h.clearing other hmem)
  · apply Threads.exists_step
    obtain hnew | ⟨⟨hclosed, hflow⟩, hnot⟩ := htidy.clears hclosed flow hflow
    · exact .inl hnew
    · exact .inr ⟨h.clears hclosed flow hflow, hnot⟩
  · apply Threads.exists_step
    obtain hnew | ⟨⟨hdraining, hopen, hempty⟩, hnot⟩ :=
      htidy.settles (h.clearing task) hdraining hopen hempty
    · exact .inl hnew
    · exact .inr ⟨h.settles hdraining hopen hempty, hnot⟩

theorem Lifecycle.run (limits : SessionLimits) (acts : List (Nat × SessionInput)) :
    Lifecycle (sessionRun limits acts) :=
  Threads.run_invariant (fun _ act h => h.step act) .start acts

/-- No task is inside a call, other than waiting for an answer. -/
def Quiet (t : Threads Session Program) : Prop :=
  ∀ task, t.pc task = [] ∨ ∃ protocol flowId, t.pc task = [.awaitResponse protocol flowId]

theorem Quiet.not_clears (h : Quiet t) (task flowId : Nat) : ¬Clears flowId (t.pc task) := by
  obtain hpc | ⟨protocol, id, hpc⟩ := h task <;> simp [hpc, Clears]

theorem Quiet.not_settles (h : Quiet t) (task : Nat) : ¬Settles (t.pc task) := by
  obtain hpc | ⟨protocol, id, hpc⟩ := h task <;> simp [hpc, Settles]

theorem Lifecycle.flows_of_closed (h : Lifecycle t) (hquiet : Quiet t) (hclosed : t.shared.closed) :
    t.shared.flows = [] := by
  refine List.eq_nil_iff_forall_not_mem.mpr fun flow hflow => ?_
  obtain ⟨task, hclears⟩ := h.clears hclosed flow hflow
  exact hquiet.not_clears task flow.1 hclears

theorem Lifecycle.of_draining (h : Lifecycle t) (hquiet : Quiet t) (hdraining : t.shared.draining) :
    t.shared.closed ∨ t.shared.flows ≠ [] := by
  by_contra hnot
  simp only [not_or, Bool.not_eq_true, not_not] at hnot
  obtain ⟨task, hsettles⟩ := h.settles hdraining hnot.1 hnot.2
  exact hquiet.not_settles task hsettles

theorem awaitResponse_ends {s : Session} (h : s.flows = []) (protocol : FlowProtocol)
    (flowId : Nat) :
    (s.awaitResponse protocol flowId .proceed).2 ≠ [.awaitResponse protocol flowId] := by
  unfold awaitResponse
  dsimp only
  split
  · unfold answerOpen
    repeat' split
    all_goals simp [abandonOpen]
  · simp [hasFlow, h]

/-- Between operations a closed session has no routes, and a draining one is closed or has a flow.
No route is added once the session drains. -/
theorem session_lifecycle (limits : SessionLimits) (acts : List (Nat × SessionInput)) :
    let t := sessionRun limits acts
    (Quiet t →
      (t.shared.closed → t.shared.flows = [] ∧
        ∀ task protocol flowId, t.pc task = [.awaitResponse protocol flowId] →
          (t.step (Session.step limits) (task, .go .proceed)).pc task ≠
            [.awaitResponse protocol flowId]) ∧
      (t.shared.draining → t.shared.closed ∨ t.shared.flows ≠ [])) ∧
    ∀ act, ∀ flow ∈ (t.step (Session.step limits) act).shared.flows,
      flow ∈ t.shared.flows ∨ t.shared.draining = false := by
  intro t
  have hlife : Lifecycle t := .run limits acts
  refine ⟨fun hquiet => ⟨fun hclosed => ?_, hlife.of_draining hquiet⟩, fun ⟨task, input⟩ => ?_⟩
  · have hempty := hlife.flows_of_closed hquiet hclosed
    refine ⟨hempty, fun task protocol flowId hpc => ?_⟩
    rw [Threads.step_pc_self, hpc]
    exact awaitResponse_ends hempty protocol flowId
  · exact (step_tidy limits t.shared task (t.pc task) input).inserted

-- An open that passes its first look at `closed` puts a route into a table
-- that was just cleared, and takes it out again at its second look.
example :
    let limits : SessionLimits := ⟨4, 4, true, 65536, 65536⟩
    let target := Target.ipv4 (.new 192 0 2 1) 80
    let proceed (task : Nat) := (task, SessionInput.go .proceed)
    let race := [(0, .call (.openFlow target)), proceed 0, proceed 0,
      (1, .call .close), proceed 1, proceed 1, proceed 1, proceed 0]
    (sessionRun limits race).shared.flows = [(1, .tcp)] ∧
      (sessionRun limits (race ++ [proceed 0, proceed 0])).shared.flows = [] := by
  decide +kernel

end UncrownedKing.Client
