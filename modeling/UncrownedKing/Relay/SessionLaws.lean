import UncrownedKing.Relay.ScriptLaws
import UncrownedKing.Relay.UploadLaws

/-!
# What handlers change

A handler that neither opens nor accepts a flow keeps the session's flows;
`Kept` says what stays.
-/

namespace UncrownedKing.Relay

open Lib Net Proto Auth Server

theorem lookup_insert_iff {table : FlowTable} :
    (table.insert flowId slot).lookup other = some found ↔
      other = flowId ∧ found = slot ∨ other ≠ flowId ∧ table.lookup other = some found := by
  by_cases h : other = flowId
  · subst h
    simp [AList.lookup_insert, eq_comm]
  · simp [AList.lookup_insert_ne h, h]

theorem lookup_erase_iff {table : FlowTable} :
    (table.erase flowId).lookup other = some found ↔
      other ≠ flowId ∧ table.lookup other = some found := by
  by_cases h : other = flowId
  · subst h
    simp [AList.lookup_erase]
  · simp [AList.lookup_erase_ne h, h]

namespace FlowSlot

def isOpening : FlowSlot → Bool
  | openingTcp _ | openingUdp _ => true
  | tcp _ | udp _ => false

def socket : FlowSlot → Option Socket
  | openingTcp _ | openingUdp _ => none
  | tcp flow => some flow.stream
  | udp flow => some flow.socket

def speaks : FlowSlot → Bool
  | openingTcp _ | openingUdp _ => false
  | tcp flow => flow.targetToClientOpen
  | udp _ => true

structure Same (slot slot' : FlowSlot) : Prop where
  token : slot'.token = slot.token
  origin : slot'.origin = slot.origin
  permit : slot'.permit = slot.permit
  isUdp : slot'.isUdp = slot.isUdp
  isOpening : slot'.isOpening = slot.isOpening
  socket : slot'.socket = slot.socket

theorem Same.refl (slot : FlowSlot) : slot.Same slot := ⟨rfl, rfl, rfl, rfl, rfl, rfl⟩

theorem Same.trans {a b c : FlowSlot} (h : a.Same b) (h' : b.Same c) : a.Same c where
  token := h'.token.trans h.token
  origin := h'.origin.trans h.origin
  permit := h'.permit.trans h.permit
  isUdp := h'.isUdp.trans h.isUdp
  isOpening := h'.isOpening.trans h.isOpening
  socket := h'.socket.trans h.socket

end FlowSlot

structure TargetFlow.Same (flow flow' : TargetFlow) : Prop where
  token : flow'.token = flow.token
  origin : flow'.origin = flow.origin
  permit : flow'.flowPermit = flow.flowPermit
  stream : flow'.stream = flow.stream

theorem TargetFlow.Same.slot {flow flow' : TargetFlow} (h : flow.Same flow') :
    (FlowSlot.tcp flow).Same (.tcp flow') :=
  ⟨h.token, h.origin, h.permit, rfl, rfl, congrArg some h.stream⟩

theorem TargetFlow.Same.refl (flow : TargetFlow) : flow.Same flow := ⟨rfl, rfl, rfl, rfl⟩

theorem TargetFlow.closeClientToTarget_same (capacity : Nat) (flow : TargetFlow)
    (link : TargetLink) : flow.Same (flow.closeClientToTarget capacity link).1 := by
  unfold TargetFlow.closeClientToTarget
  split <;> exact ⟨rfl, rfl, rfl, rfl⟩

theorem TargetLink.enqueueData_aborted (capacity : Nat) (payload : Bytes) (reserved : Bool)
    (link : TargetLink) (h : link.aborted = true) :
    (link.enqueueData capacity payload reserved).2.aborted = true := by
  unfold enqueueData
  split
  · exact h
  · rcases link.enqueueOpen_cases capacity payload reserved with
      ⟨-, hopen⟩ | ⟨error, link', hopen, hclosing⟩
    · rw [hopen]
      exact h
    · rw [hopen]
      exact hclosing.aborted h

theorem TargetFlow.abort_aborted (capacity : Nat) (flow : TargetFlow) (link : TargetLink) :
    (flow.abort capacity link).2.aborted = true :=
  (link.abort.closeQueue_closing capacity).aborted rfl

theorem TargetFlow.drop_speaking {flow : TargetFlow} (h : flow.targetToClientOpen = true)
    (link : TargetLink) : (flow.drop link).aborted = true := by
  simp [TargetFlow.drop, TargetFlow.isFullyClosed, h, TargetLink.abort]

def AbortsStay (s s' : Session) : Prop :=
  ∀ token, (s.links token).aborted = true → (s'.links token).aborted = true

theorem abortsStay_update {s s' : Session} {link : TargetLink} (token : FlowToken)
    (hlinks : s'.links = Function.update s.links token link)
    (h : (s.links token).aborted = true → link.aborted = true) : AbortsStay s s' := by
  intro other hother
  rw [hlinks]
  by_cases heq : other = token
  · subst heq
    rw [Function.update_self]
    exact h hother
  · rw [Function.update_of_ne heq]
    exact hother

structure Task.TimerOf (timer : Task) (slot : FlowSlot) : Prop where
  kind : ∃ closedSide, timer.kind = .halfCloseTimer closedSide
  token : timer.token = slot.token
  origin : timer.origin = slot.origin
  permit : timer.permit = none
  stage : timer.stage = .sleeping
  established : slot.isOpening = false

/-- The flows stay but for those dropped, and none whose data may still come is silenced without
being aborted. -/
structure Kept (ended : FlowToken → Prop) (s s' : Session) : Prop where
  tokens : s'.flowTokens = s.flowTokens
  owner : s'.owner = s.owner
  aborts : AbortsStay s s'
  slots : ∀ {flowId slot'}, s'.targetWriters.lookup flowId = some slot' →
    ∃ slot, s.targetWriters.lookup flowId = some slot ∧ slot.Same slot'
  voices : ∀ {flowId slot}, s.targetWriters.lookup flowId = some slot → slot.speaks = true →
    (∃ slot', s'.targetWriters.lookup flowId = some slot' ∧ slot'.token = slot.token ∧
        slot'.speaks = true) ∨
      (s'.links slot.token).aborted = true ∨ ended slot.token
  tasks : ∃ timers, s'.tasks = s.tasks ++ timers ∧ ∀ timer ∈ timers,
    ∃ slot, s.targetWriters.lookup timer.flowId = some slot ∧ timer.TimerOf slot

variable {ended : FlowToken → Prop} {s s' : Session}

theorem Kept.refl (s : Session) : Kept ended s s where
  tokens := rfl
  owner := rfl
  aborts := fun _ h => h
  slots := fun h => ⟨_, h, .refl _⟩
  voices := fun h hspeaks => .inl ⟨_, h, rfl, hspeaks⟩
  tasks := ⟨[], by simp, by simp⟩

theorem Task.TimerOf.same {timer : Task} {slot slot' : FlowSlot} (h : timer.TimerOf slot')
    (hsame : slot.Same slot') : timer.TimerOf slot where
  kind := h.kind
  token := h.token.trans hsame.token
  origin := h.origin.trans hsame.origin
  permit := h.permit
  stage := h.stage
  established := hsame.isOpening ▸ h.established

theorem Kept.trans {s s' s'' : Session} (h : Kept ended s s') (h' : Kept ended s' s'') :
    Kept ended s s'' where
  tokens := h'.tokens.trans h.tokens
  owner := h'.owner.trans h.owner
  aborts := fun token haborted => h'.aborts token (h.aborts token haborted)
  slots := by
    intro flowId slot'' hslot''
    obtain ⟨slot', hslot', hsame'⟩ := h'.slots hslot''
    obtain ⟨slot, hslot, hsame⟩ := h.slots hslot'
    exact ⟨slot, hslot, hsame.trans hsame'⟩
  voices := by
    intro flowId slot hslot hspeaks
    rcases h.voices hslot hspeaks with ⟨slot', hslot', htoken, hspeaks'⟩ | haborted | hended
    · rw [← htoken]
      exact h'.voices hslot' hspeaks'
    · exact .inr (.inl (h'.aborts _ haborted))
    · exact .inr (.inr hended)
  tasks := by
    obtain ⟨timers, htasks, htimers⟩ := h.tasks
    obtain ⟨timers', htasks', htimers'⟩ := h'.tasks
    refine ⟨timers ++ timers', by rw [htasks', htasks, List.append_assoc], ?_⟩
    intro timer htimer
    rcases List.mem_append.mp htimer with htimer | htimer
    · exact htimers timer htimer
    · obtain ⟨slot', hslot', htimerOf⟩ := htimers' timer htimer
      obtain ⟨slot, hslot, hsame⟩ := h.slots hslot'
      exact ⟨slot, hslot, htimerOf.same hsame⟩

structure TcpChange (ended : FlowToken → Prop) (s : Session) (flow flow' : TargetFlow)
    (link : TargetLink) : Prop where
  same : flow.Same flow'
  aborted : (s.links flow.token).aborted = true → link.aborted = true
  speaks : flow.targetToClientOpen = true →
    flow'.targetToClientOpen = true ∨ link.aborted = true ∨ ended flow.token

theorem TcpChange.abort (ended : FlowToken → Prop) (s : Session) (capacity : Nat)
    (flow : TargetFlow) (link : TargetLink) :
    TcpChange ended s flow (flow.abort capacity link).1 (flow.abort capacity link).2 :=
  ⟨⟨rfl, rfl, rfl, rfl⟩, fun _ => flow.abort_aborted capacity link,
    fun _ => .inr (.inl (flow.abort_aborted capacity link))⟩

theorem kept_setTcp (hslot : s.targetWriters.lookup flowId = some (.tcp flow))
    (h : TcpChange ended s flow flow' link) : Kept ended s (s.setTcp flowId flow' link) where
  tokens := rfl
  owner := rfl
  aborts := abortsStay_update flow'.token rfl (h.same.token ▸ h.aborted)
  slots := by
    intro other slot' hslot'
    rcases lookup_insert_iff.mp hslot' with ⟨rfl, rfl⟩ | ⟨-, hslot'⟩
    · exact ⟨_, hslot, h.same.slot⟩
    · exact ⟨_, hslot', .refl _⟩
  voices := by
    intro other slot hother hspeaks
    by_cases heq : other = flowId
    · subst heq
      cases hslot.symm.trans hother
      rcases h.speaks hspeaks with hopen | haborted | hended
      · exact .inl ⟨_, lookup_insert_iff.mpr (.inl ⟨rfl, rfl⟩), h.same.token, hopen⟩
      · refine .inr (.inl ?_)
        simp only [Session.setTcp, FlowSlot.token, ← h.same.token, Function.update_self]
        exact haborted
      · exact .inr (.inr hended)
    · exact .inl ⟨slot, lookup_insert_iff.mpr (.inr ⟨heq, hother⟩), rfl, hspeaks⟩
  tasks := ⟨[], by simp [Session.setTcp], by simp⟩

theorem Kept.spawnTimer (h : Kept ended s s')
    (hslot : s'.targetWriters.lookup timer.flowId = some slot) (htimer : timer.TimerOf slot) :
    Kept ended s (s'.spawn [timer]) where
  tokens := h.tokens
  owner := h.owner
  aborts := h.aborts
  slots := h.slots
  voices := h.voices
  tasks := by
    obtain ⟨timers, htasks, htimers⟩ := h.tasks
    obtain ⟨before, hbefore, hsame⟩ := h.slots hslot
    refine ⟨timers ++ [timer], by simp [Session.spawn, htasks], ?_⟩
    intro other hother
    rcases List.mem_append.mp hother with hother | hother
    · exact htimers other hother
    · cases List.mem_singleton.mp hother
      exact ⟨before, hbefore, htimer.same hsame⟩

theorem kept_startHalfCloseTimer (closedSide : HalfCloseSide)
    (hslot : s.targetWriters.lookup flowId = some (.tcp flow))
    (h : TcpChange ended s flow flow' link) :
    Kept ended s (s.startHalfCloseTimer flowId flow' closedSide link) := by
  have hset : Kept ended s
      (s.setTcp flowId { flow' with halfCloseTimer := some s.tasks.length } link) :=
    kept_setTcp hslot ⟨{ h.same with }, h.aborted, h.speaks⟩
  refine hset.spawnTimer (lookup_insert_iff.mpr (.inl ⟨rfl, rfl⟩)) ?_
  exact ⟨⟨closedSide, rfl⟩, rfl, rfl, rfl, rfl, rfl⟩

theorem kept_setUdp {flow : UdpTargetFlow} (now : Instant)
    (hslot : s.targetWriters.lookup flowId = some (.udp flow)) :
    Kept ended s (s.setUdp flowId { flow with lastActivity := now }) where
  tokens := rfl
  owner := rfl
  aborts := fun _ h => h
  slots := by
    intro other slot' hslot'
    rcases lookup_insert_iff.mp hslot' with ⟨rfl, rfl⟩ | ⟨-, hslot'⟩
    · exact ⟨_, hslot, rfl, rfl, rfl, rfl, rfl, rfl⟩
    · exact ⟨_, hslot', .refl _⟩
  voices := by
    intro other slot hother hspeaks
    by_cases heq : other = flowId
    · subst heq
      cases hslot.symm.trans hother
      exact .inl ⟨_, lookup_insert_iff.mpr (.inl ⟨rfl, rfl⟩), rfl, rfl⟩
    · exact .inl ⟨slot, lookup_insert_iff.mpr (.inr ⟨heq, hother⟩), rfl, hspeaks⟩
  tasks := ⟨[], by simp [Session.setUdp], by simp⟩

theorem kept_abortLink (s : Session) (token : FlowToken) : Kept ended s (s.abortLink token) where
  tokens := rfl
  owner := rfl
  aborts := abortsStay_update token rfl fun _ => rfl
  slots := fun h => ⟨_, h, .refl _⟩
  voices := fun h hspeaks => .inl ⟨_, h, rfl, hspeaks⟩
  tasks := ⟨[], by simp [Session.abortLink], by simp⟩

theorem dropSlot_aborts (s : Session) (slot : FlowSlot) : AbortsStay s (s.dropSlot slot) := by
  cases slot with
  | openingTcp cancel | openingUdp cancel => exact fun _ h => h
  | tcp flow =>
    exact abortsStay_update flow.token rfl (flow.drop_closing _).aborted
  | udp flow => exact abortsStay_update flow.token rfl fun _ => rfl

theorem dropSlot_silences {slot : FlowSlot} (h : slot.speaks = true) (s : Session) :
    ((s.dropSlot slot).links slot.token).aborted = true := by
  cases slot with
  | openingTcp cancel | openingUdp cancel => cases h
  | tcp flow =>
    simp only [Session.dropSlot, FlowSlot.token, Function.update_self]
    exact TargetFlow.drop_speaking h _
  | udp flow => simp [Session.dropSlot, Session.abortLink, FlowSlot.token, TargetLink.abort]

theorem kept_removeFlowSlot (s : Session) (flowId : Nat) :
    Kept ended s (s.removeFlowSlot flowId) := by
  cases hslot : s.targetWriters.lookup flowId with
  | none =>
    rw [show s.removeFlowSlot flowId = s by simp [Session.removeFlowSlot, hslot]]
    exact .refl s
  | some slot =>
    have hremove : s.removeFlowSlot flowId =
        { s.dropSlot slot with targetWriters := s.targetWriters.erase flowId } := by
      simp [Session.removeFlowSlot, hslot]
    rw [hremove]
    refine ⟨?_, ?_, dropSlot_aborts s slot, ?_, ?_, ⟨[], ?_, by simp⟩⟩
    · cases slot <;> rfl
    · cases slot <;> rfl
    · intro other slot' hslot'
      exact ⟨slot', (lookup_erase_iff.mp hslot').2, .refl _⟩
    · intro other slot' hother hspeaks
      by_cases heq : other = flowId
      · subst heq
        cases hslot.symm.trans hother
        exact .inr (.inl (dropSlot_silences hspeaks s))
      · exact .inl ⟨slot', lookup_erase_iff.mpr ⟨heq, hother⟩, rfl, hspeaks⟩
    · rw [List.append_nil]
      cases slot <;> rfl

theorem Kept.remove (h : Kept ended s s') (flowId : Nat) :
    Kept ended s (s'.removeFlowSlot flowId) :=
  h.trans (kept_removeFlowSlot s' flowId)

/-- Nothing, a slot that goes, or a UDP flow that was active. -/
inductive Clears (ended : FlowToken → Prop) (active : Instant → Prop) (flowId : Nat)
    (s : Session) : Session → Prop
  | same : Clears ended active flowId s s
  | removed : Clears ended active flowId s (s.removeFlowSlot flowId)
  | aborted (hslot : s.targetWriters.lookup flowId = some (.udp flow)) :
    Clears ended active flowId s ((s.abortLink flow.token).removeFlowSlot flowId)
  | touched (hnow : active now) (hslot : s.targetWriters.lookup flowId = some (.udp flow)) :
    Clears ended active flowId s (s.setUdp flowId { flow with lastActivity := now })
  | setRemoved (hslot : s.targetWriters.lookup flowId = some (.tcp flow))
    (h : TcpChange ended s flow flow' link) :
    Clears ended active flowId s ((s.setTcp flowId flow' link).removeFlowSlot flowId)

inductive Change (ended : FlowToken → Prop) (active : Instant → Prop) (flowId : Nat)
    (s : Session) : Session → Prop
  | clears {after : Session} (h : Clears ended active flowId s after) :
    Change ended active flowId s after
  | set (hslot : s.targetWriters.lookup flowId = some (.tcp flow))
    (h : TcpChange ended s flow flow' link) :
    Change ended active flowId s (s.setTcp flowId flow' link)
  | timed (hslot : s.targetWriters.lookup flowId = some (.tcp flow))
    (h : TcpChange ended s flow flow' link) (closedSide : HalfCloseSide) :
    Change ended active flowId s (s.startHalfCloseTimer flowId flow' closedSide link)

theorem Change.same : Change ended active flowId s s := .clears .same

theorem Change.setRemoved (hslot : s.targetWriters.lookup flowId = some (.tcp flow))
    (h : TcpChange ended s flow flow' link) :
    Change ended active flowId s ((s.setTcp flowId flow' link).removeFlowSlot flowId) :=
  .clears (.setRemoved hslot h)

theorem Change.setIf (hslot : s.targetWriters.lookup flowId = some (.tcp flow))
    (h : TcpChange ended s flow flow' link) (removable : Bool) :
    Change ended active flowId s
      (if removable then (s.setTcp flowId flow' link).removeFlowSlot flowId
        else s.setTcp flowId flow' link) := by
  split
  · exact .setRemoved hslot h
  · exact .set hslot h

theorem Clears.kept (h : Clears ended active flowId s s') : Kept ended s s' := by
  cases h with
  | same => exact .refl s
  | removed => exact kept_removeFlowSlot s flowId
  | aborted hslot => exact (kept_abortLink s _).remove flowId
  | touched hnow hslot => exact kept_setUdp _ hslot
  | setRemoved hslot h => exact (kept_setTcp hslot h).remove flowId

theorem Change.kept (h : Change ended active flowId s s') : Kept ended s s' := by
  cases h with
  | clears h => exact h.kept
  | set hslot h => exact kept_setTcp hslot h
  | timed hslot h closedSide => exact kept_startHalfCloseTimer closedSide hslot h

def openProtocol (udp : Bool) : OpenProtocol := if udp then udpProtocol else tcpProtocol

structure Admitted (context : RelayContext) (env : HandlerEnv) (frame : Frame) (s : Session)
    (udp : Bool) (target : Target) (permit : Nat) : Prop where
  state : s.state ≠ .draining
  frameType : frame.header.frameType = if udp then .udpOpen else .tcpOpen
  decoded : ∃ openFlags, (openProtocol udp).decode frame.payload = .ok (target, openFlags)
  client : isClientInitiatedFlowId frame.header.id = true
  free : s.targetWriters.lookup frame.header.id = none
  room : s.targetWriters.entries.length < context.limits.maxStreams
  udpRoom : udp = true → udpFlowCount s.targetWriters < context.limits.maxUdpFlows
  permit : env.permit = some permit

theorem validateOpenRequest_decoded {protocol : OpenProtocol} {frame : Frame}
    (h : protocol.validateOpenRequest frame = .ok target) :
    ∃ openFlags, protocol.decode frame.payload = .ok (target, openFlags) := by
  simp only [OpenProtocol.validateOpenRequest] at h
  split at h
  · cases h
  · split at h
    · cases h
    · split at h
      · cases h
      · rename_i hdecode
        split at h
        · cases h
        · cases h
          exact ⟨_, hdecode⟩

theorem handleOpenFrame_cases (protocol : OpenProtocol)
    (check : Nat → FlowTable → Except OpenSlotRejection Unit) (context : RelayContext)
    (env : HandlerEnv) (frame : Frame) (s : Session) :
    (∃ target permit, check frame.header.id s.targetWriters = .ok () ∧
        protocol.validateOpenRequest frame = .ok target ∧ env.permit = some permit ∧
        protocol.handleOpenFrame check context env frame s =
          (s.openSlot protocol.udp frame.header.id target permit, [])) ∨
      (protocol.handleOpenFrame check context env frame s).1 = s := by
  simp only [OpenProtocol.handleOpenFrame]
  split
  · exact .inr rfl
  · exact .inr rfl
  · rename_i hcheck
    simp only [OpenProtocol.admitOpen]
    split
    · exact .inr rfl
    · rename_i target hvalid
      split
      · exact .inr rfl
      · split
        · exact .inr rfl
        · rename_i permit hpermit
          exact .inl ⟨target, permit, hcheck, hvalid, hpermit, rfl⟩

theorem handleTcpDataFrame_change (context : RelayContext) (env : HandlerEnv) (frame : Frame)
    (s : Session) :
    Change ended active frame.header.id s (handleTcpDataFrame context env frame s).1 := by
  simp only [handleTcpDataFrame]
  split
  · exact .same
  · split
    case h_5 flow hslot =>
      split
      · exact .same
      · simp only [forwardTcpDataFrame, openTargetFlow, hslot]
        have haborted := TargetLink.enqueueData_aborted context.capacity frame.payload
          env.reserved (s.links flow.token)
        split <;> rename_i henqueue <;> rw [henqueue] at haborted
        · exact .set hslot ⟨.refl flow, haborted, .inl⟩
        · apply Change.setIf hslot
          exact ⟨⟨rfl, rfl, rfl, rfl⟩, haborted, .inl⟩
        · exact .set hslot (.abort _ _ _ _ _)
    all_goals exact .same

theorem halfCloseTcp_change (context : RelayContext)
    (hslot : s.targetWriters.lookup flowId = some (.tcp flow)) :
    Change ended active flowId s (halfCloseTcp context flowId flow s) := by
  have hsame := flow.closeClientToTarget_same context.capacity (s.links flow.token)
  have hlink := (flow.closeClientToTarget_closing context.capacity (s.links flow.token)).aborted
  simp only [halfCloseTcp]
  split
  · rename_i hopen
    split
    · exact .timed hslot ⟨hsame, hlink, fun _ => .inl hopen⟩ _
    · exact .set hslot ⟨hsame, hlink, fun _ => .inl hopen⟩
  · rename_i hshut
    apply Change.setIf hslot
    refine ⟨{ hsame with }, hlink, fun hopen => absurd ?_ hshut⟩
    simp only [TargetFlow.closeClientToTarget]
    split <;> exact hopen

theorem handleTcpCloseFrame_change (context : RelayContext) (frame : Frame) (s : Session) :
    Change ended active frame.header.id s (handleTcpCloseFrame context frame s).1 := by
  simp only [handleTcpCloseFrame]
  split
  · exact .same
  · split
    · exact .same
    · split
      case h_1 => exact .clears .removed
      case h_2 hslot =>
        split
        · exact halfCloseTcp_change context hslot
        · exact .setRemoved hslot (.abort _ _ _ _ _)
      all_goals exact .same

theorem handleUdpDataFrame_clears (env : HandlerEnv) (hnow : active env.now) (frame : Frame)
    (s : Session) :
    Clears ended active frame.header.id s (handleUdpDataFrame env frame s).1 := by
  simp only [handleUdpDataFrame]
  split
  · exact .same
  · split
    case h_5 hslot =>
      simp only [forwardUdpDataFrame, udpTargetFlow, hslot]
      exact .touched hnow hslot
    all_goals exact .same

theorem handleUdpCloseFrame_clears (frame : Frame) (s : Session) :
    Clears ended active frame.header.id s (handleUdpCloseFrame frame s).1 := by
  simp only [handleUdpCloseFrame]
  split
  · exact .same
  · split
    · exact .same
    · split
      case h_1 => exact .removed
      case h_2 hslot =>
        split
        · exact .aborted hslot
        · exact .removed
      all_goals exact .same

theorem handleClientFlowStatusFrame_clears (context : RelayContext) (frame : Frame)
    (s : Session) :
    Clears ended active frame.header.id s (handleClientFlowStatusFrame context frame s).1 := by
  simp only [handleClientFlowStatusFrame]
  split
  · split <;> exact .same
  · split
    · exact .same
    · split
      · exact .same
      · unfold abortClientFlow
        split <;> rename_i hslot
        · exact .setRemoved hslot (.abort _ _ _ _ _)
        · exact .aborted hslot
        · exact .removed

def Session.settled (s : Session) : Session := { s with clientSettingsReceived := true }

inductive FrameHandled (context : RelayContext) (env : HandlerEnv) (frame : Frame) (s : Session) :
    Handled → Prop
  | opened (h : Admitted context env frame s udp target permit) :
    FrameHandled context env frame s (s.openSlot udp frame.header.id target permit, [])
  | settings (htype : frame.header.frameType = .settings) :
    FrameHandled context env frame s (s.settled, [])
  | cleared {after : Session} (h : Clears (fun _ => False) (Eq env.now) frame.header.id s after)
    (script : Script) : FrameHandled context env frame s (after, script)
  | data : FrameHandled context env frame s (handleTcpDataFrame context env frame s)
  | close : FrameHandled context env frame s (handleTcpCloseFrame context frame s)

theorem FrameHandled.same {handled : Handled} (h : handled.1 = s) :
    FrameHandled context env frame s handled := by
  obtain ⟨after, script⟩ := handled
  cases show after = s from h
  exact .cleared .same script

theorem FrameHandled.control {next : Handled} (expectedType : FrameType)
    (h : FrameHandled context env frame s next) :
    FrameHandled context env frame s
      (validateOrReportSessionControlFrame frame expectedType next s) := by
  unfold validateOrReportSessionControlFrame
  split
  · exact .same rfl
  · exact h

theorem handleSettingsFrame_handled (htype : frame.header.frameType = .settings) :
    FrameHandled context env frame s (handleSettingsFrame frame s) := by
  unfold handleSettingsFrame
  repeat' split
  all_goals first | exact .same rfl | exact .settings htype

section

variable (context : RelayContext) (env : HandlerEnv) (frame : Frame) (s : Session)

theorem handleSessionFrame_handled :
    FrameHandled context env frame s (handleSessionFrame context env frame s) := by
  unfold handleSessionFrame
  split <;> rename_i htype
  · split
    · exact .same rfl
    · rename_i hstate
      unfold handleTcpOpenFrame
      rcases handleOpenFrame_cases tcpProtocol
          (fun flowId table => checkOpenSlot flowId table context.limits.maxStreams) context env
          frame s with ⟨target, permit, hcheck, hvalid, hpermit, hhandled⟩ | hsame
      · have hclient := validateOpenRequest_ok hvalid
        obtain ⟨hfree, hroom⟩ := checkOpenSlot_ok hcheck hclient
        rw [hhandled]
        exact .opened ⟨hstate, htype, validateOpenRequest_decoded hvalid, hclient, hfree, hroom,
          nofun, hpermit⟩
      · exact .same hsame
  · split
    · exact .same rfl
    · rename_i hstate
      unfold handleUdpOpenFrame
      rcases handleOpenFrame_cases udpProtocol
          (fun flowId table => checkUdpOpenSlot flowId table context.limits.maxStreams
            context.limits.maxUdpFlows) context env
          frame s with ⟨target, permit, hcheck, hvalid, hpermit, hhandled⟩ | hsame
      · have hclient := validateOpenRequest_ok hvalid
        obtain ⟨hfree, hroom, hudp⟩ := checkUdpOpenSlot_ok hcheck hclient
        rw [hhandled]
        exact .opened ⟨hstate, htype, validateOpenRequest_decoded hvalid, hclient, hfree, hroom,
          fun _ => hudp, hpermit⟩
      · exact .same hsame
  · exact .data
  · exact .close
  · exact .cleared (handleUdpDataFrame_clears env rfl frame s) _
  · exact .cleared (handleUdpCloseFrame_clears frame s) _
  · exact .control _ (handleSettingsFrame_handled htype)
  · exact .cleared (handleClientFlowStatusFrame_clears context frame s) _
  · exact .cleared (handleClientFlowStatusFrame_clears context frame s) _
  · exact .cleared (handleClientFlowStatusFrame_clears context frame s) _
  · exact .control _ (.same rfl)
  · exact .control _ (.same rfl)
  · exact .same rfl
  · exact .same rfl

theorem handleSessionFrame_changes :
    (∃ udp target permit, Admitted context env frame s udp target permit ∧
        handleSessionFrame context env frame s =
          (s.openSlot udp frame.header.id target permit, [])) ∨
      frame.header.frameType = .settings ∧
        (handleSessionFrame context env frame s).1 = s.settled ∨
      Change (fun _ => False) (Eq env.now) frame.header.id s
        (handleSessionFrame context env frame s).1 := by
  have h := handleSessionFrame_handled context env frame s
  generalize handleSessionFrame context env frame s = handled at h
  cases h with
  | opened h => exact .inl ⟨_, _, _, h, rfl⟩
  | settings htype => exact .inr (.inl ⟨htype, rfl⟩)
  | cleared h script => exact .inr (.inr (.clears h))
  | data => exact .inr (.inr (handleTcpDataFrame_change context env frame s))
  | close => exact .inr (.inr (handleTcpCloseFrame_change context frame s))

theorem handleSessionFrame_cases :
    (∃ udp target permit, Admitted context env frame s udp target permit ∧
        handleSessionFrame context env frame s =
          (s.openSlot udp frame.header.id target permit, [])) ∨
      Kept (fun _ => False) s (handleSessionFrame context env frame s).1 := by
  rcases handleSessionFrame_changes context env frame s with h | ⟨-, h⟩ | h
  · exact .inl h
  · rw [h]
    have hsame : Kept (fun _ => False) s s := .refl s
    exact .inr { hsame with }
  · exact .inr h.kept

end

def openingSlot (udp : Bool) (cancel : OpenFlowCancel) : FlowSlot :=
  if udp then .openingUdp cancel else .openingTcp cancel

def dialEvent (udp : Bool) (flowId : Nat) (token : FlowToken) (target : Target)
    (result : Except OpenFailure Socket) : FlowEvent :=
  if udp then .udpOpenCompleted flowId token target result
  else .openCompleted flowId token target result

def FlowEvent.EndsReader (event : FlowEvent) (token : FlowToken) : Prop :=
  ∃ flowId, event = .readClosed flowId token

def AnyId (_ : Nat) : Prop := True

theorem openTargetFlow_eq_some :
    openTargetFlow table flowId = some flow ↔ table.lookup flowId = some (.tcp flow) := by
  unfold openTargetFlow
  split <;> simp_all

theorem udpTargetFlow_eq_some :
    udpTargetFlow table flowId = some flow ↔ table.lookup flowId = some (.udp flow) := by
  unfold udpTargetFlow
  split <;> simp_all

theorem handleTargetReadClosed_change (context : RelayContext) (flowId : Nat) (token : FlowToken)
    (s : Session) :
    Change (FlowEvent.EndsReader (.readClosed flowId token)) active flowId s
      (handleTargetReadClosed context flowId token s) := by
  unfold handleTargetReadClosed
  split
  · exact .same
  · rename_i flow hflow
    have hslot := openTargetFlow_eq_some.mp hflow
    split
    · exact .same
    · rename_i htoken
      have hended : TcpChange (FlowEvent.EndsReader (.readClosed flowId token)) s flow
          flow.markTargetToClientClosed (s.links flow.token) :=
        ⟨⟨rfl, rfl, rfl, rfl⟩, id, fun _ => .inr (.inr ⟨flowId, by rw [not_not.mp htoken]⟩)⟩
      simp only
      split
      · exact .setRemoved hslot (.abort _ _ _ _ _)
      · split
        · exact .timed hslot hended _
        · split
          · exact .setRemoved hslot ⟨{ hended.same with }, hended.aborted, hended.speaks⟩
          · exact .set hslot hended

theorem handleUdpReadClosed_clears (flowId : Nat) (token : FlowToken) (s : Session) :
    Clears ended active flowId s (handleUdpReadClosed flowId token s) := by
  unfold handleUdpReadClosed
  split
  · exact .same
  · split
    · exact .removed
    · exact .same

theorem handleTargetWriteClosed_change (context : RelayContext) (flowId : Nat) (token : FlowToken)
    (s : Session) :
    Change ended active flowId s (handleTargetWriteClosed context flowId token s) := by
  unfold handleTargetWriteClosed
  split
  · exact .same
  · rename_i flow hflow
    have hslot := openTargetFlow_eq_some.mp hflow
    split
    · exact .same
    · simp only [TargetFlow.markTargetWriteClosed]
      by_cases haborted : (s.links flow.token).close.aborted = true
      · have habort := TcpChange.abort ended s context.capacity
          { flow with clientToTargetOpen := false, targetWriteOpen := false }
          (s.links flow.token).close
        simp only [haborted, if_true]
        split
        · exact .setRemoved hslot ⟨⟨rfl, rfl, rfl, rfl⟩, habort.aborted, habort.speaks⟩
        · exact .set hslot ⟨⟨rfl, rfl, rfl, rfl⟩, habort.aborted, habort.speaks⟩
      · simp only [haborted, Bool.false_eq_true, if_false]
        split
        · exact .setRemoved hslot ⟨⟨rfl, rfl, rfl, rfl⟩, id, .inl⟩
        · exact .set hslot ⟨⟨rfl, rfl, rfl, rfl⟩, id, .inl⟩

theorem handleHalfCloseDrainExpired_change (context : RelayContext) (flowId : Nat)
    (token : FlowToken) (closedSide : HalfCloseSide) (s : Session) :
    let handled := handleHalfCloseDrainExpired context flowId token closedSide s
    Change ended active flowId s handled.1 ∧ NeatHandled AnyId handled := by
  simp only [handleHalfCloseDrainExpired]
  split
  · exact ⟨.same, trivial⟩
  · rename_i flow hflow
    have hslot := openTargetFlow_eq_some.mp hflow
    split
    · exact ⟨.same, trivial⟩
    · refine ⟨.set hslot (.abort _ _ _ _ _), ?_⟩
      simp only [NeatHandled, TargetFlow.abort, TargetFlow.isRemovable, Bool.not_false,
        Bool.and_self, if_true]
      cases closedSide with
      | targetToClient => exact neat_closing_logged (tcpCloseFrame_closes _ _) trivial
      | clientToTarget => exact neat_closing (tcpCloseFrame_closes _ _) trivial (neat_nil _)

theorem recordUdpActivity_clears (hnow : active now) (flowId : Nat) (s : Session) :
    Clears ended active flowId s (recordUdpActivity now flowId s) := by
  unfold recordUdpActivity
  split
  · exact .same
  · rename_i hflow
    exact .touched hnow (udpTargetFlow_eq_some.mp hflow)

def FlowEvent.flowId : FlowEvent → Nat
  | .openCompleted flowId _ _ _ | .udpOpenCompleted flowId _ _ _ => flowId
  | .readClosed flowId _ | .udpReadClosed flowId _ | .udpActivity flowId => flowId
  | .inboundDatagram flowId _ | .halfCloseDrainExpired flowId _ _ | .writeClosed flowId _ => flowId
  | .activity => 0

def FlowEvent.isActivity : FlowEvent → Bool
  | .udpActivity _ | .inboundDatagram _ _ => true
  | _ => false

inductive EventHandled (context : RelayContext) (env : HandlerEnv) (s : Session) :
    FlowEvent → Handled → Prop
  | accepted (udp : Bool)
    (hslot : s.targetWriters.lookup flowId = some (openingSlot udp cancel)) :
    EventHandled context env s (dialEvent udp flowId cancel.token target (.ok socket))
      (acceptOpen udp flowId cancel socket s)
  | cleared {after : Session}
    (h : Clears event.EndsReader (fun now => event.isActivity = true ∧ env.now = now)
      event.flowId s after) (hneat : Neat AnyId after.targetWriters script)
    (hother : ∀ flowId token closedSide, event ≠ .halfCloseDrainExpired flowId token closedSide) :
    EventHandled context env s event (after, script)
  | readClosed : EventHandled context env s (.readClosed flowId token)
      (handleTargetReadClosed context flowId token s, [])
  | writeClosed : EventHandled context env s (.writeClosed flowId token)
      (handleTargetWriteClosed context flowId token s, [])
  | expired : EventHandled context env s (.halfCloseDrainExpired flowId token closedSide)
      (handleHalfCloseDrainExpired context flowId token closedSide s)

theorem handleFlowEvent_handled (context : RelayContext) (env : HandlerEnv) (event : FlowEvent)
    (s : Session) : EventHandled context env s event (handleFlowEvent context env event s) := by
  cases event with
  | openCompleted flowId token target result =>
    simp only [handleFlowEvent, handleTcpOpenCompleted]
    split
    · rename_i cancel hslot
      split
      · rename_i htoken
        subst htoken
        split
        · exact .accepted false hslot
        · exact .cleared .same (rejectOpenFailure_remove_neat tcpProtocol_closes _ trivial _) nofun
      · exact .cleared .same trivial nofun
    · exact .cleared .same trivial nofun
  | udpOpenCompleted flowId token target result =>
    simp only [handleFlowEvent, handleUdpOpenCompleted]
    split
    · rename_i cancel hslot
      split
      · rename_i htoken
        subst htoken
        split
        · exact .accepted true hslot
        · exact .cleared .same (rejectOpenFailure_remove_neat udpProtocol_closes _ trivial _) nofun
      · exact .cleared .same trivial nofun
    · exact .cleared .same trivial nofun
  | readClosed flowId token => exact .readClosed
  | udpReadClosed flowId token =>
    exact .cleared (handleUdpReadClosed_clears flowId token s) trivial nofun
  | udpActivity flowId =>
    exact .cleared (recordUdpActivity_clears ⟨rfl, rfl⟩ flowId s) trivial nofun
  | inboundDatagram flowId payload =>
    exact .cleared (recordUdpActivity_clears ⟨rfl, rfl⟩ flowId s) trivial nofun
  | halfCloseDrainExpired flowId token closedSide => exact .expired
  | writeClosed flowId token => exact .writeClosed
  | activity => exact .cleared .same trivial nofun

theorem handleFlowEvent_cases (context : RelayContext) (env : HandlerEnv) (event : FlowEvent)
    (s : Session) :
    (∃ udp flowId target socket cancel,
        event = dialEvent udp flowId cancel.token target (.ok socket) ∧
        s.targetWriters.lookup flowId = some (openingSlot udp cancel) ∧
        handleFlowEvent context env event s = acceptOpen udp flowId cancel socket s) ∨
      (Change event.EndsReader (fun now => event.isActivity = true ∧ env.now = now) event.flowId s
          (handleFlowEvent context env event s).1 ∧
        NeatHandled AnyId (handleFlowEvent context env event s)) := by
  have h := handleFlowEvent_handled context env event s
  generalize handleFlowEvent context env event s = handled at h
  cases h with
  | accepted udp hslot => exact .inl ⟨_, _, _, _, _, rfl, hslot, rfl⟩
  | cleared h hneat => exact .inr ⟨.clears h, hneat⟩
  | readClosed => exact .inr ⟨handleTargetReadClosed_change context _ _ s, trivial⟩
  | writeClosed => exact .inr ⟨handleTargetWriteClosed_change context _ _ s, trivial⟩
  | expired => exact .inr (handleHalfCloseDrainExpired_change context _ _ _ s)

theorem closeIdleUdpFlows_neat (context : RelayContext) (order : Table.Order Nat FlowSlot)
    (now : Instant) (s : Session) :
    Neat AnyId s.targetWriters (closeIdleUdpFlows context order now s) := by
  unfold closeIdleUdpFlows
  split
  · trivial
  · simp only
    generalize (order.keys s.targetWriters).filter _ = expired
    generalize s.targetWriters = table
    induction expired generalizing table with
    | nil => trivial
    | cons flowId expired ih =>
      rw [List.flatMap_cons, List.append_assoc]
      exact (sendUdpClose_closes _).remove trivial (ih _)

theorem reportFrameIoError_neat (table : FlowTable) (error : FrameIoError) :
    Neat AnyId table (reportFrameIoError error ++ [.fail (.frameIo error)]) := by
  cases error with
  | closed | io error => trivial
  | protocol error =>
    simp only [reportFrameIoError]
    cases hstatus : statusFrame .error 0 (.fromProtocolError error) with
    | error _ => trivial
    | ok frame =>
      obtain ⟨hdata, hplain⟩ := statusFrame_plain (by decide) 0 _ frame hstatus
      exact ⟨hdata, fun hclose => by simp [hplain] at hclose, trivial⟩

end UncrownedKing.Relay
