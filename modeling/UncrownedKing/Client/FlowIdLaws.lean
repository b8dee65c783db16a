import UncrownedKing.Client.FlowIds
import UncrownedKing.Lib.Run

/-!
# No flow id is used twice

The counter only grows, and an exchange succeeds on its present value alone, so
every id is larger than all that were given out.
-/

namespace UncrownedKing.Client

open Lib Proto

variable {log : List FlowIdEvent}

@[simp] theorem allocatedIds_allocated (result : Option Nat) :
    allocatedIds (log ++ [.allocated result]) = allocatedIds log ++ result.toList := by
  cases result <;> simp [allocatedIds]

@[simp] theorem allocatedIds_reserved (result : Except OpenError (Option Nat)) :
    allocatedIds (log ++ [.reserved result]) = allocatedIds log := by
  simp [allocatedIds]

@[simp] theorem reservedIds_allocated (result : Option Nat) :
    reservedIds (log ++ [.allocated result]) = reservedIds log := by
  simp [reservedIds]

@[simp] theorem mem_reservedIds_reserved {result : Except OpenError (Option Nat)} :
    flowId ∈ reservedIds (log ++ [.reserved result]) ↔
      flowId ∈ reservedIds log ∨ result = .ok (some flowId) := by
  rcases result with _ | _ | _ <;> simp [reservedIds, eq_comm]

theorem nodup_reserved (h : (reservedIds log).Nodup)
    (hfresh : ∀ flowId, result = .ok (some flowId) → flowId ∉ reservedIds log) :
    (reservedIds (log ++ [.reserved result])).Nodup := by
  rcases result with error | _ | flowId
  · simpa [reservedIds] using h
  · simpa [reservedIds] using h
  · have happend : reservedIds (log ++ [.reserved (.ok (some flowId))]) =
        reservedIds log ++ [flowId] := by
      simp [reservedIds]
    rw [happend]
    exact List.nodup_append_comm.mp (List.nodup_cons.mpr ⟨hfresh flowId rfl, h⟩)

/-- No id is handed out after the ids ran out. -/
def NotAfterNone (before : List FlowIdEvent) (event : FlowIdEvent) : Prop :=
  ∀ flowId, event = .allocated (some flowId) → .allocated none ∉ before

structure Counted (next : Nat) (log : List FlowIdEvent) : Prop where
  odd : next % 2 = 1
  ids : ∀ flowId ∈ allocatedIds log, flowId % 2 = 1 ∧ flowId ≤ Varint.maxVarint ∧ flowId < next
  ordered : (allocatedIds log).Pairwise (· < ·)
  exhausted : .allocated none ∈ log → Varint.maxVarint < next
  ended : Each NotAfterNone log

theorem Counted.reserved (h : Counted next log) (result : Except OpenError (Option Nat)) :
    Counted next (log ++ [.reserved result]) where
  odd := h.odd
  ids := by simpa using h.ids
  ordered := by simpa using h.ordered
  exhausted := by simpa using h.exhausted
  ended := each_append h.ended (each_cons nofun each_nil)

theorem Counted.allocated_none (h : Counted next log) (hnext : Varint.maxVarint < next) :
    Counted next (log ++ [.allocated none]) where
  odd := h.odd
  ids := by simpa using h.ids
  ordered := by simpa using h.ordered
  exhausted _ := hnext
  ended := each_append h.ended (each_cons nofun each_nil)

theorem saturatingAdd_step (h : next ≤ Varint.maxVarint) :
    saturatingAdd next flowIdStep = next + 2 := by
  simp only [saturatingAdd, flowIdStep, Varint.maxVarint] at h ⊢
  omega

theorem Counted.allocated_some (h : Counted next log) (hnext : next ≤ Varint.maxVarint) :
    Counted (saturatingAdd next flowIdStep) (log ++ [.allocated (some next)]) := by
  have hnone : .allocated none ∉ log := fun hmem => Nat.not_lt.mpr hnext (h.exhausted hmem)
  rw [saturatingAdd_step hnext]
  refine ⟨by have := h.odd; omega, fun flowId hmem => ?_, ?_, fun hmem => ?_, ?_⟩
  · rw [allocatedIds_allocated] at hmem
    rcases List.mem_append.mp hmem with hold | hnew
    · obtain ⟨hodd, hle, hlt⟩ := h.ids flowId hold
      exact ⟨hodd, hle, by omega⟩
    · obtain rfl : flowId = next := by simpa using hnew
      exact ⟨h.odd, hnext, by omega⟩
  · rw [allocatedIds_allocated]
    refine List.pairwise_append.mpr ⟨h.ordered, List.pairwise_singleton _ _, ?_⟩
    simpa using fun flowId hmem => (h.ids flowId hmem).2.2
  · simp [hnone] at hmem
  · refine each_append h.ended (each_cons (fun _ _ => ?_) each_nil)
    simpa using hnone

structure FlowIds.Sound (s : FlowIds) : Prop where
  counted : Counted s.session.nextFlowId s.log
  routes : ∀ flowId, s.session.hasFlow flowId = true → flowId ∈ reservedIds s.log
  reserved : ∀ flowId ∈ reservedIds s.log, flowId ∈ allocatedIds s.log
  once : (reservedIds s.log).Nodup

def FlowIdCaller.holdsLock : FlowIdCaller → Bool
  | .alone => false
  | .slot _ _ => true

namespace FlowIdPoint

def holdsLock : FlowIdPoint → Bool
  | .load caller | .exchange caller _ => caller.holdsLock
  | .insert _ _ _ => true
  | .idle | .lockFlows _ => false

def Knows (log : List FlowIdEvent) : FlowIdPoint → Prop
  | .exchange _ current => current ≤ Varint.maxVarint
  | .insert _ _ flowId => flowId ∈ allocatedIds log ∧ flowId ∉ reservedIds log
  | _ => True

structure At (s : FlowIds) (task : Nat) (point : FlowIdPoint) : Prop where
  lock : s.flowsLock = some task ↔ point.holdsLock = true
  knows : point.Knows s.log

end FlowIdPoint

namespace FlowIds

structure Guarantee (task : Nat) (s s' : FlowIds) : Prop where
  log : s.log <+: s'.log
  lock : ∀ other ≠ task, s'.flowsLock = some other ↔ s.flowsLock = some other
  reserved : ∀ other ≠ task, s.flowsLock = some other → reservedIds s'.log = reservedIds s.log

variable {s s' : FlowIds} {task other : Nat} {caller : FlowIdCaller} {point : FlowIdPoint}

theorem Guarantee.stable (hg : Guarantee task s s') (hne : task ≠ other)
    (hat : point.At s other) : point.At s' other where
  lock := (hg.lock other (Ne.symm hne)).trans hat.lock
  knows := by
    have hknows := hat.knows
    cases point with
    | exchange caller current => exact hknows
    | insert protocol attempts flowId =>
      obtain ⟨more, hmore⟩ := hg.log
      have hreserved := hg.reserved other (Ne.symm hne) (hat.lock.mpr rfl)
      refine ⟨?_, hreserved ▸ hknows.2⟩
      rw [← hmore, allocatedIds, List.filterMap_append]
      exact List.mem_append_left _ hknows.1
    | _ => trivial

structure Next (task : Nat) (s : FlowIds) (next : FlowIds × FlowIdPoint) : Prop where
  sound : next.1.Sound
  at_point : next.2.At next.1 task
  guarantee : Guarantee task s next.1

theorem Sound.stay (h : s.Sound) (hat : point.At s task) : Next task s (s, point) :=
  ⟨h, hat, List.prefix_rfl, fun _ _ => .rfl, fun _ _ _ => rfl⟩

theorem Sound.dropRoutes (h : s.Sound) (hat : point.At s task) (hsub : flows ⊆ s.session.flows) :
    Next task s ({ s with session.flows := flows }, point) where
  sound :=
    { counted := h.counted
      routes := fun flowId hflow => by
        obtain ⟨flow, hmem, hid⟩ := List.any_eq_true.mp hflow
        exact h.routes flowId (List.any_eq_true.mpr ⟨flow, hsub hmem, hid⟩)
      reserved := h.reserved
      once := h.once }
  at_point := ⟨hat.lock, hat.knows⟩
  guarantee := ⟨List.prefix_rfl, fun _ _ => .rfl, fun _ _ _ => rfl⟩

theorem lock_elsewhere (hlock : s.flowsLock = some task ∨ s.flowsLock = none)
    (hne : other ≠ task) : s.flowsLock ≠ some other := by
  rcases hlock with hlock | hlock
  · rw [hlock]
    exact fun heq => hne (Option.some.inj heq).symm
  · simp [hlock]

theorem Next.finish (hcounted : Counted s'.session.nextFlowId s'.log) (hlog : s.log <+: s'.log)
    (hlock : s.flowsLock = some task ∨ s.flowsLock = none)
    (hroutes : ∀ flowId, s'.session.hasFlow flowId = true →
      flowId ∈ reservedIds s'.log ∨ result = .ok (some flowId))
    (hreserved : ∀ flowId, flowId ∈ reservedIds s'.log ∨ result = .ok (some flowId) →
      flowId ∈ allocatedIds s'.log)
    (honce : (reservedIds s'.log).Nodup)
    (hfresh : ∀ flowId, result = .ok (some flowId) → flowId ∉ reservedIds s'.log) :
    Next task s (s'.finish result) where
  sound :=
    { counted := hcounted.reserved result
      routes := by simpa [FlowIds.finish, emit] using hroutes
      reserved := by simpa [FlowIds.finish, emit] using hreserved
      once := nodup_reserved honce hfresh }
  at_point := ⟨by simp [FlowIds.finish, emit, FlowIdPoint.holdsLock], trivial⟩
  guarantee :=
    { log := hlog.trans (List.prefix_append _ _)
      lock := fun other hne => iff_of_false nofun (lock_elsewhere hlock hne)
      reserved := fun other hne hother => absurd hother (lock_elsewhere hlock hne) }

theorem Sound.finish (h : s'.Sound) (hlog : s.log <+: s'.log)
    (hlock : s.flowsLock = some task ∨ s.flowsLock = none)
    (hresult : ∀ flowId, result ≠ .ok (some flowId)) : Next task s (s'.finish result) :=
  .finish h.counted hlog hlock (fun flowId hflow => .inl (h.routes flowId hflow))
    (fun flowId hmem => h.reserved flowId (hmem.resolve_right (hresult flowId))) h.once
    fun flowId heq => absurd heq (hresult flowId)

theorem Sound.nextAttempt (h : s.Sound) (hlock : s.flowsLock = some task)
    (protocol : FlowProtocol) (attempts : Nat) : Next task s (s.nextAttempt protocol attempts) := by
  cases attempts with
  | zero => exact h.finish List.prefix_rfl (.inl hlock) nofun
  | succ attempts => exact h.stay ⟨iff_of_true hlock rfl, trivial⟩

theorem Sound.insertRoute (h : s.Sound)
    (hat : (FlowIdPoint.insert protocol attempts flowId).At s task) :
    Next task s (s.insertRoute task protocol attempts flowId) := by
  have hlock := hat.lock.mpr rfl
  unfold FlowIds.insertRoute
  split
  · refine .finish h.counted List.prefix_rfl (.inl hlock) (fun other hother => ?_) ?_ h.once ?_
    · have hcases : flowId = other ∨ s.session.hasFlow other = true := by
        simpa [Session.hasFlow, Session.addFlow] using hother
      rcases hcases with rfl | hold
      · exact .inr rfl
      · exact .inl (h.routes other hold)
    · rintro other (hold | hnew)
      · exact h.reserved other hold
      · cases hnew
        exact hat.knows.1
    · rintro other heq
      cases heq
      exact hat.knows.2
  · exact h.nextAttempt hlock protocol attempts

theorem Sound.reserveFlowSlot (h : s.Sound) (hlock : s.flowsLock = none) (task : Nat)
    (limits : SessionLimits) (protocol : FlowProtocol) :
    Next task s (s.reserveFlowSlot task limits protocol) := by
  have hlocked : Sound { s with flowsLock := some task } :=
    ⟨h.counted, h.routes, h.reserved, h.once⟩
  unfold FlowIds.reserveFlowSlot
  split
  · exact hlocked.finish List.prefix_rfl (.inr hlock) nofun
  · split
    · exact hlocked.finish List.prefix_rfl (.inr hlock) nofun
    · refine ⟨hlocked, ⟨iff_of_true rfl rfl, trivial⟩, List.prefix_rfl, fun other hne => ?_,
        fun _ _ _ => rfl⟩
      rw [hlock]
      exact iff_of_false (fun heq => hne (Option.some.inj heq).symm) nofun

theorem Next.returned (hsound : (s'.emit (.allocated result)).Sound)
    (hlog : s'.log = s.log) (hsame : s'.flowsLock = s.flowsLock)
    (hlock : s.flowsLock = some task ↔ caller.holdsLock = true)
    (hfresh : ∀ flowId, result = some flowId → flowId ∉ reservedIds s.log) :
    Next task s (s'.returned caller result) := by
  have hprefix : s.log <+: (s'.emit (.allocated result)).log := hlog ▸ List.prefix_append _ _
  have hg : Guarantee task s (s'.emit (.allocated result)) :=
    { log := hprefix
      lock := fun _ _ => hsame ▸ .rfl
      reserved := fun _ _ _ => by rw [emit, reservedIds_allocated, hlog] }
  cases caller with
  | alone => exact ⟨hsound, ⟨hsame ▸ hlock, trivial⟩, hg⟩
  | slot protocol attempts =>
    cases result with
    | none => exact hsound.finish hprefix (.inl (hlock.mpr rfl)) nofun
    | some flowId =>
      refine ⟨hsound, ⟨hsame ▸ hlock, ?_, ?_⟩, hg⟩
      · simp [FlowIds.returned, emit]
      · simpa [FlowIds.returned, emit, hlog] using hfresh flowId rfl

theorem Sound.seen_le (h : s.Sound) (value : Nat) (hseen : s.seen value > Varint.maxVarint) :
    Varint.maxVarint < s.session.nextFlowId := by
  unfold seen at hseen
  split at hseen
  · rename_i hmem
    exact absurd (h.counted.ids value hmem).2.1 (Nat.not_le.mpr hseen)
  · exact hseen

theorem Sound.attempt (h : s.Sound) (hlock : s.flowsLock = some task ↔ caller.holdsLock = true)
    (value : Nat) : Next task s (s.attempt caller (s.seen value)) := by
  unfold FlowIds.attempt
  split
  · rename_i hseen
    have hcounted := h.counted.allocated_none (h.seen_le value hseen)
    refine .returned ⟨hcounted, ?_, ?_, ?_⟩ rfl rfl hlock nofun
    · simpa [emit] using h.routes
    · simpa [emit] using h.reserved
    · simpa [emit] using h.once
  · rename_i hseen
    exact h.stay ⟨hlock, Nat.not_lt.mp hseen⟩

theorem Sound.compareExchangeWeak (h : s.Sound)
    (hat : (FlowIdPoint.exchange caller current).At s task) (value : Nat) (fails : Bool) :
    Next task s (s.compareExchangeWeak caller current value fails) := by
  unfold FlowIds.compareExchangeWeak
  split
  · rename_i hexchanged
    obtain rfl := hexchanged.1
    refine .returned ⟨h.counted.allocated_some hat.knows, ?_, ?_, ?_⟩ rfl rfl hat.lock ?_
    · exact fun flowId hflow => by simpa [emit] using h.routes flowId hflow
    · exact fun flowId hmem => by
        simpa [emit] using Or.inl (h.reserved flowId (by simpa [emit] using hmem))
    · simpa [emit] using h.once
    · rintro flowId heq hmem
      cases heq
      exact Nat.lt_irrefl _ (h.counted.ids _ (h.reserved _ hmem)).2.2
  · exact h.attempt hat.lock value

theorem Sound.step (h : s.Sound) (hat : point.At s task) (limits : SessionLimits)
    (input : FlowIdInput) : Next task s (s.step limits task point input) := by
  unfold FlowIds.step
  split
  · exact h.stay ⟨hat.lock, trivial⟩
  · exact h.stay ⟨hat.lock, trivial⟩
  · split
    · exact h.dropRoutes hat (List.filter_subset_self _)
    · exact h.stay hat
  · split
    · exact h.dropRoutes hat (List.nil_subset _)
    · exact h.stay hat
  · split
    · rename_i hfree
      exact h.reserveFlowSlot (Option.isNone_iff_eq_none.mp hfree) task limits _
    · exact h.stay hat
  · exact h.attempt hat.lock _
  · exact h.compareExchangeWeak hat _ _
  · exact h.insertRoute hat
  · exact h.stay hat

end FlowIds

def flowIdOutline (limits : SessionLimits) : Outline (FlowIds.step limits) where
  Inv := FlowIds.Sound
  At s task point := point.At s task
  Guarantee := FlowIds.Guarantee
  own _ _ _ input h hat :=
    let next := h.step hat limits input
    ⟨next.sound, next.at_point, next.guarantee⟩
  stable _ _ _ _ _ hne _ hg hat := hg.stable hne hat

theorem flowIdRun_holds (limits : SessionLimits) (acts : List (Nat × FlowIdInput)) :
    (flowIdOutline limits).Holds (flowIdRun limits acts) := by
  have hsound : FlowIds.Sound {} := ⟨⟨rfl, nofun, .nil, nofun, each_nil⟩, nofun, nofun, .nil⟩
  have hstart : (flowIdOutline limits).Holds ⟨{}, fun _ => .idle⟩ :=
    ⟨hsound, fun _ => ⟨iff_of_false nofun nofun, trivial⟩⟩
  exact hstart.run acts

theorem FlowIds.Sound.next_free {s : FlowIds} (h : s.Sound) :
    s.session.hasFlow s.session.nextFlowId = false := by
  by_contra hflow
  have hmem := h.reserved _ (h.routes _ (by simpa using hflow))
  exact Nat.lt_irrefl _ (h.counted.ids _ hmem).2.2

/-- A task that nobody disturbs. -/
def FlowIds.proceed (limits : SessionLimits) (task : Nat) :
    (steps : Nat) → FlowIds × FlowIdPoint → FlowIds × FlowIdPoint
  | 0, now => now
  | steps + 1, (s, point) =>
    proceed limits task steps (s.step limits task point (.go s.session.nextFlowId false))

theorem FlowIds.proceed_idle (limits : SessionLimits) (task steps : Nat) (s : FlowIds) :
    proceed limits task steps (s, .idle) = (s, .idle) := by
  induction steps with
  | zero => rfl
  | succ steps ih => exact ih

theorem FlowIds.seen_next (s : FlowIds) : s.seen s.session.nextFlowId = s.session.nextFlowId := by
  simp [seen]

theorem FlowIds.proceed_exhausted (s : FlowIds) (hmax : s.session.nextFlowId > Varint.maxVarint)
    (limits : SessionLimits) (task steps : Nat) (caller : FlowIdCaller) :
    proceed limits task (steps + 1) (s, .load caller) =
      proceed limits task steps (s.returned caller none) := by
  simp [proceed, step, attempt, seen_next, hmax]

theorem FlowIds.proceed_allocated (s : FlowIds) (hmax : ¬s.session.nextFlowId > Varint.maxVarint)
    (limits : SessionLimits) (task steps : Nat) (caller : FlowIdCaller) :
    proceed limits task (steps + 2) (s, .load caller) =
      proceed limits task steps
        ({ s with session.nextFlowId := saturatingAdd s.session.nextFlowId flowIdStep }.returned
          caller (some s.session.nextFlowId)) := by
  simp [proceed, step, attempt, seen_next, hmax, compareExchangeWeak]

theorem FlowIds.proceed_allocate (s : FlowIds) (limits : SessionLimits) (task : Nat) :
    (proceed limits task 2 (s, .load .alone)).1.log =
      s.log ++ [.allocated (if s.session.nextFlowId > Varint.maxVarint then none
        else some s.session.nextFlowId)] := by
  by_cases hmax : s.session.nextFlowId > Varint.maxVarint
  · rw [s.proceed_exhausted hmax, if_pos hmax]
    rfl
  · rw [s.proceed_allocated hmax, if_neg hmax]
    rfl

/-- The session's own step for `reserve_flow_slot` is what its accesses come to. -/
theorem FlowIds.proceed_reserve {s : FlowIds} (h : s.Sound) (hlock : s.flowsLock = none)
    (limits : SessionLimits) (task : Nat) (protocol : FlowProtocol) :
    let result := s.session.reserveFlowSlot limits task protocol
    ∃ log, proceed limits task 4 (s, .lockFlows protocol) =
      ({ s with session := result.1, log := log ++ [.reserved result.2] }, .idle) := by
  rw [proceed]
  simp only [step, hlock, Option.isNone_none, if_true]
  unfold FlowIds.reserveFlowSlot Session.reserveFlowSlot
  split
  · exact ⟨s.log, by simp [finish, emit, proceed_idle]⟩
  split
  · exact ⟨s.log, by simp [finish, emit, proceed_idle]⟩
  have hattempts : Session.flowIdAllocationAttempts = 1023 + 1 := rfl
  rw [hattempts, nextAttempt, Session.allocate]
  by_cases hmax : s.session.nextFlowId > Varint.maxVarint
  · rw [proceed_exhausted { s with flowsLock := some task } hmax, if_pos hmax]
    exact ⟨s.log ++ [.allocated none], proceed_idle ..⟩
  · have hclient : isClientInitiatedFlowId s.session.nextFlowId = true := by
      have hodd := h.counted.odd
      simp [isClientInitiatedFlowId]
      omega
    have hvacant : Session.hasFlow { s.session with nextFlowId := s.session.nextFlowId + 2 }
        s.session.nextFlowId = false := h.next_free
    rw [proceed_allocated { s with flowsLock := some task } hmax, if_neg hmax,
      saturatingAdd_step (Nat.not_lt.mp hmax)]
    simp only [returned, proceed, step, insertRoute, emit, hclient, hvacant, Bool.not_false,
      Bool.and_self, if_true]
    exact ⟨s.log ++ [.allocated (some s.session.nextFlowId)], rfl⟩

/-- At any time when the flow table is free, the accesses of an undisturbed `reserve_flow_slot`
come to the one step that the session's machine makes of it. -/
theorem reserve_flow_slot_atomic (limits : SessionLimits) (acts : List (Nat × FlowIdInput))
    (task : Nat) (protocol : FlowProtocol)
    (hlock : (flowIdRun limits acts).shared.flowsLock = none) :
    let s := (flowIdRun limits acts).shared
    let result := s.session.reserveFlowSlot limits task protocol
    ∃ log, FlowIds.proceed limits task 4 (s, .lockFlows protocol) =
      ({ s with session := result.1, log := log ++ [.reserved result.2] }, .idle) :=
  FlowIds.proceed_reserve (flowIdRun_holds limits acts).inv hlock limits task protocol

/-- Another task has reserved the first slot, over an exchange that failed. -/
def firstSlot : FlowIds :=
  (flowIdRun ⟨8, 0, false, 65536, 65536⟩ [(1, .reserve .tcp), (1, .go 0 false), (1, .go 0 false),
    (1, .go 0 true), (1, .go 0 false), (1, .go 0 false)]).shared

theorem second_slot_atomic :
    firstSlot.session.nextFlowId = 3 ∧
      ∃ log, FlowIds.proceed ⟨8, 0, false, 65536, 65536⟩ 0 4 (firstSlot, .lockFlows .tcp) =
        ({ firstSlot with
          session := (firstSlot.session.reserveFlowSlot ⟨8, 0, false, 65536, 65536⟩ 0 .tcp).1
          log := log ++ [.reserved (.ok (some 3))] }, .idle) := by
  have hreserved : (firstSlot.session.reserveFlowSlot ⟨8, 0, false, 65536, 65536⟩ 0 .tcp).2 =
      .ok (some 3) := by decide +kernel
  rw [← hreserved]
  exact ⟨by decide +kernel, reserve_flow_slot_atomic _ _ 0 .tcp (by decide +kernel)⟩

/-- Ids are given out in order and each once, and a call that nobody disturbs returns. -/
theorem flow_ids_never_reused (limits : SessionLimits) (acts : List (Nat × FlowIdInput)) :
    let t := flowIdRun limits acts
    (allocatedIds t.shared.log).Pairwise (· < ·) ∧
    (∀ flowId ∈ allocatedIds t.shared.log, flowId % 2 = 1 ∧ flowId ≤ Varint.maxVarint) ∧
    Each NotAfterNone t.shared.log ∧
    (∀ task, ∃ result,
      (FlowIds.proceed limits task 2 (t.shared, .load .alone)).1.log =
        t.shared.log ++ [.allocated result] ∧
      (.allocated none ∈ t.shared.log → result = none)) ∧
    ∀ act flowId,
      (t.step (FlowIds.step limits) act).shared.log =
        t.shared.log ++ [.reserved (.ok (some flowId))] →
      t.shared.session.hasFlow flowId = false ∧ flowId ∉ reservedIds t.shared.log := by
  intro t
  have hall := flowIdRun_holds limits acts
  have h : t.shared.Sound := hall.inv
  refine ⟨h.counted.ordered, fun flowId hmem => ?_, h.counted.ended, fun task => ?_, ?_⟩
  · obtain ⟨hodd, hle, -⟩ := h.counted.ids flowId hmem
    exact ⟨hodd, hle⟩
  · exact ⟨_, t.shared.proceed_allocate limits task, fun hnone =>
      if_pos (h.counted.exhausted hnone)⟩
  · intro act flowId hlog
    have honce : (reservedIds (t.step (FlowIds.step limits) act).shared.log).Nodup :=
      (hall.step act).inv.once
    rw [hlog, reservedIds, List.filterMap_append] at honce
    have hfresh : flowId ∉ reservedIds t.shared.log := fun hmem =>
      (List.nodup_append.mp honce).2.2 flowId hmem flowId (by simp) rfl
    exact ⟨by simpa using mt (h.routes flowId) hfresh, hfresh⟩

end UncrownedKing.Client
