import UncrownedKing.Relay.SettingsLaws

/-!
# The client's receive limit

The server writes frames up to its own limit, whatever the client's settings
say.
-/

namespace UncrownedKing.Relay

open Lib Net Proto Auth Server

variable {context : RelayContext} {r r' : RelaySession} {size : Nat}

def TaskStage.Within (size : Nat) : TaskStage → Prop
  | .sending frame => frame.payload.length ≤ size
  | .reporting frames => ∀ frame ∈ frames, frame.payload.length ≤ size
  | _ => True

def TasksWithin (size : Nat) (tasks : List Task) : Prop := ∀ task ∈ tasks, task.stage.Within size

structure RelaySession.Within (size : Nat) (r : RelaySession) : Prop where
  loop : ∀ script, r.loop = .running script → ScriptWithin size script
  tasks : TasksWithin size r.session.tasks

theorem TaskStage.Within.tail (h : (TaskStage.reporting (frame :: rest)).Within size) :
    (TaskStage.reporting rest).Within size :=
  fun other hother => h other (List.mem_cons_of_mem _ hother)

theorem tasksWithin_append :
    TasksWithin size (first ++ second) ↔ TasksWithin size first ∧ TasksWithin size second := by
  simp [TasksWithin, or_imp, forall_and]

theorem Kept.tasksWithin {s s' : Session} (h : Kept ended s s')
    (htasks : TasksWithin size s.tasks) : TasksWithin size s'.tasks := by
  obtain ⟨timers, heq, htimers⟩ := h.tasks
  rw [heq, tasksWithin_append]
  refine ⟨htasks, fun timer htimer => ?_⟩
  obtain ⟨slot, -, htimerOf⟩ := htimers timer htimer
  rw [htimerOf.stage]
  trivial

theorem reportFrames_within (hstatus : statusSize ≤ size) (task : Task) :
    (TaskStage.reporting task.reportFrames).Within size := by
  intro frame hframe
  obtain ⟨result, hresult, hok⟩ := List.mem_filterMap.mp hframe
  have hok := toOption_eq_some.mp hok
  rcases List.mem_cons.mp hresult with rfl | hclose
  · exact (statusFrame_length hok).trans hstatus
  · rw [List.mem_singleton.mp hclose] at hok
    unfold Task.closeFrame at hok
    split at hok
    · exact (udpCloseFrame_length hok).trans hstatus
    · exact (tcpCloseFrame_length hok).trans hstatus

namespace RelaySession.Within

theorem start : RelaySession.start.Within size where
  loop := by simp [RelaySession.start]
  tasks := by simp [RelaySession.start, Session.start, TasksWithin]

theorem resume (htasks : TasksWithin size r.session.tasks) (hscript : ScriptWithin size script) :
    (r.resume script).Within size where
  loop := fun script' hrunning => by rwa [resume_running hrunning]
  tasks := by rwa [(resume_alike r script).tasks]

theorem handle {handled : Handled} (htasks : TasksWithin size handled.1.tasks)
    (hscript : ScriptWithin size handled.2) : (r.handle handled).Within size :=
  resume htasks hscript

section

variable (h : r.Within size)
include h

theorem stop : r.stop.Within size where
  loop := nofun
  tasks := h.tasks

theorem release (outcome : WriteOutcome) : (r.release outcome).Within size :=
  ⟨h.loop, h.tasks⟩

theorem carrier (carrier : Option Producer) : { r with carrier := carrier }.Within size :=
  ⟨h.loop, h.tasks⟩

theorem setStage (hstage : stage.Within size) (n : Nat) (task : Task) :
    (r.setStage n task stage).Within size where
  loop := h.loop
  tasks := by
    intro other hother
    rcases List.mem_or_eq_of_mem_set hother with hother | rfl
    · exact h.tasks other hother
    · exact hstage

theorem push (task : Task) (event : FlowEvent) : (r.push task event).Within size :=
  ⟨h.loop, h.tasks⟩

theorem failTask (hstatus : statusSize ≤ size) (n : Nat) (task : Task) :
    (r.failTask n task).Within size := by
  unfold RelaySession.failTask
  split
  · exact h.setStage (by trivial) n task
  · have haborted : { r with session := r.session.abortLink task.token }.Within size :=
      ⟨h.loop, h.tasks⟩
    exact haborted.setStage (reportFrames_within hstatus task) n task

theorem readOn (n : Nat) (task : Task) (recorded : Bool) :
    (r.readOn n task recorded).Within size := by
  have hreading : (r.setStage n task .reading).Within size := h.setStage (by trivial) n task
  cases recorded with
  | false => exact hreading
  | true => exact hreading.push task _

theorem sendRead (hstatus : statusSize ≤ size)
    (hdata : context.limits.dataFrameSize ≤ size) (n : Nat) (task : Task) (bytes : Bytes) :
    (r.sendRead context n task bytes).Within size := by
  simp only [RelaySession.sendRead]
  split
  · exact h
  · rename_i hfits
    split
    · rename_i frame hframe
      refine h.setStage ?_ n task
      split at hframe
      · unfold Task.closeFrame at hframe
        split at hframe
        · exact (udpCloseFrame_length hframe).trans hstatus
        · exact (tcpCloseFrame_length hframe).trans hstatus
      · have hpayload := Frame.new_payload hframe
        simp only [TaskStage.Within, hpayload]
        exact (Nat.not_lt.mp hfits).trans hdata
    · exact h.failTask hstatus n task

theorem loopMoves (hloop : r.loop = .running (instr :: rest))
    (hmoves : LoopMoves r instr rest choice r' evs) : r'.Within size := by
  have hrest : ScriptWithin size rest := (scriptWithin_cons.mp (h.loop _ hloop)).2
  cases hmoves with
  | stay => exact h
  | took => exact h.carrier _
  | passed => exact resume h.tasks hrest
  | wrote outcome _ _ hnext =>
    obtain rfl | rfl := hnext
    · exact resume h.tasks hrest
    · exact (h.release outcome).stop
  | removed =>
    rename_i flowId _
    have hkept := @kept_removeFlowSlot (fun _ => False) r.session flowId
    exact handle (hkept.tasksWithin h.tasks) hrest
  | established =>
    refine handle (tasksWithin_append.mpr ⟨h.tasks, ?_⟩) hrest
    unfold Established.tasks
    split <;> simp [TasksWithin, TaskStage.Within]
  | stopped => exact h.stop

theorem taskStep (hstatus : statusSize ≤ size)
    (hdata : context.limits.dataFrameSize ≤ size) {task : Task}
    (htask : r.session.tasks[n]? = some task) (choice : TaskChoice) (recorded : Bool) :
    (r.taskStep context n task choice recorded).1.Within size := by
  have hstage : task.stage.Within size := h.tasks task (List.mem_of_getElem? htask)
  unfold RelaySession.taskStep
  split
  case h_1 | h_7 | h_21 => exact h.setStage (by trivial) n task
  case h_2 | h_3 | h_4 | h_5 =>
    split
    · exact h.setStage (by trivial) n task
    · exact h
  case h_6 => split <;> exact h.setStage (by trivial) n task
  case h_8 =>
    split
    · exact h.setStage (by trivial) n task
    · exact h.sendRead hstatus hdata n task _
  case h_9 =>
    split
    · exact h.setStage (by trivial) n task
    · split
      · exact h.readOn n task recorded
      · exact h
  case h_10 => exact h.failTask hstatus n task
  case h_11 =>
    split
    · exact h.setStage (by trivial) n task
    · exact h
  case h_12 =>
    split
    · exact h
    · split
      · split
        · exact h.readOn n task recorded
        · exact h.carrier _
      · split
        · exact h.failTask hstatus n task
        · exact h.carrier _
  case h_13 =>
    split
    · exact h.failTask hstatus n task
    · exact h
  case h_14 =>
    split
    · exact h.readOn n task recorded
    · exact h
  case h_15 outcome _ =>
    split
    · exact h
    · dsimp only
      split
      · exact (h.release outcome).failTask hstatus n task
      · split
        · exact (h.release outcome).readOn n task recorded
        · exact (h.release outcome).setStage (by trivial) n task
  case h_16 writer choice _ =>
    have hlinked (link : TargetLink) : RelaySession.Within size { r with session :=
        { r.session with links := Function.update r.session.links task.token link } } :=
      ⟨h.loop, h.tasks⟩
    dsimp only
    split <;> exact (hlinked _).setStage (by trivial) n task
  case h_17 => exact h.failTask hstatus n task
  case h_18 frame rest heq =>
    have hrest := (heq ▸ hstage : (TaskStage.reporting (frame :: rest)).Within size).tail
    split
    · exact h
    · split
      · exact h.setStage hrest n task
      · exact h.carrier _
  case h_19 frame rest heq =>
    have hrest := (heq ▸ hstage : (TaskStage.reporting (frame :: rest)).Within size).tail
    split
    · exact h.setStage hrest n task
    · exact h
  case h_20 frame rest outcome heq =>
    have hrest := (heq ▸ hstage : (TaskStage.reporting (frame :: rest)).Within size).tail
    split
    · exact h
    · exact (h.release outcome).setStage hrest n task
  case h_22 => exact (h.setStage (by trivial) n task).push task _
  case h_23 => exact h

theorem readyStep (hstatus : statusSize ≤ size)
    (hread : ∀ frame env, action = .frame frame env → frame.payload.length ≤ size) :
    (r.readyStep context action).1.Within size := by
  cases action with
  | frame frame env =>
    refine handle ?_ (handleSessionFrame_within context env frame r.session hstatus
      (hread frame env rfl))
    rcases handleSessionFrame_cases context env frame r.session with
      ⟨udp, target, permit, -, hhandled⟩ | hkept
    · rw [hhandled]
      exact tasksWithin_append.mpr ⟨h.tasks, by simp [TasksWithin, TaskStage.Within]⟩
    · exact hkept.tasksWithin h.tasks
  | event env =>
    simp only [RelaySession.readyStep]
    split
    · exact h
    · rename_i queued events hevents
      refine handle ?_ ((handleFlowEvent_within context env r.session _).mono hstatus)
      rcases handleFlowEvent_cases context env queued.event r.session with
        ⟨udp, flowId, target, socket, cancel, -, -, hhandled⟩ | ⟨hchange, -⟩
      · rw [hhandled]
        exact h.tasks
      · exact hchange.kept.tasksWithin h.tasks
  | udpIdleMaintenance order now =>
    exact handle h.tasks ((closeIdleUdpFlows_within context r.session order now).mono hstatus)
  | frameReadError error =>
    refine handle h.tasks (scriptWithin_append.mpr ⟨?_, by simp⟩)
    exact (reportFrameIoError_within error).mono hstatus
  | shutdown =>
    dsimp only [RelaySession.readyStep]
    refine handle ?_ scriptWithin_nil
    dsimp only
    split <;> exact h.tasks
  | leave => exact h.stop
  | loop choice | closeFlows | task n choice recorded | abortTask n => exact h
  | datagram flowId payload => exact h

theorem step (hstatus : statusSize ≤ size) (hdata : context.limits.dataFrameSize ≤ size)
    (hread : ∀ frame env, action = .frame frame env → frame.payload.length ≤ size) :
    (r.step context action).1.Within size := by
  unfold RelaySession.step
  split
  · split
    · exact h
    · rename_i htask
      exact h.taskStep hstatus hdata htask _ _
  · split
    · exact ⟨h.loop, h.tasks⟩
    · exact h
  · split
    · exact h.readyStep hstatus hread
    · exact h.loopMoves ‹_› (loopStep_moves r _ _ _)
    · refine ⟨nofun, ?_⟩
      rw [(closeTargetFlows_hushed context r.session).tasks]
      exact h.tasks
    · split
      · exact h
      · exact (h.carrier _).setStage (by trivial) _ _
    · exact h

end

end RelaySession.Within

theorem Moves.wrote_within (h : Moves context r action r' evs) (hwithin : r.Within size)
    (hwrote : .wrote byTask origin frame ∈ evs) : frame.payload.length ≤ size := by
  cases h with
  | wrote outcome hloop hframe hcarrier hnext =>
    cases List.mem_singleton.mp hwrote
    exact (scriptWithin_cons.mp (hwithin.loop _ hloop)).1 frame hframe
  | taskWrote outcome htask hframe hcarrier hnext =>
    rename_i n task
    cases List.mem_singleton.mp hwrote
    have hstage := hwithin.tasks task (List.mem_of_getElem? htask)
    cases hstage' : task.stage with
    | sending other =>
      rw [hstage'] at hframe hstage
      cases hframe
      exact hstage
    | reporting frames =>
      rw [hstage'] at hframe hstage
      cases frames with
      | nil => cases hframe
      | cons first rest =>
        cases hframe
        exact hstage frame List.mem_cons_self
    | _ => simp [hstage', TaskStage.frame?] at hframe
  | opened | taskDialed => cases List.mem_singleton.mp hwrote
  | _ => cases hwrote

/-- A frame that reaches the session was decoded under `limits`. -/
def ReadUnder (limits : FrameLimits) : RelayAction → Prop
  | .frame frame _ => ∃ src rest, Frame.decode limits src = .ok (frame, rest)
  | _ => True

def SessionEvent.announces (limit : Nat) : SessionEvent → Bool
  | .settings agreed => agreed.maxFrameSize == limit
  | .relay _ => false

/-- Once `limit` is announced no longer payload is written. -/
def KeepsTo (limit : Nat) (before : List SessionEvent) : SessionEvent → Prop
  | .relay (.wrote _ _ frame) =>
    before.any (SessionEvent.announces limit) = true → frame.payload.length ≤ limit
  | _ => True

def RelayContext.new (identity : AuthenticatedIdentity) (config : RelayLimitConfig) :
    RelayContext :=
  ⟨identity, .new config⟩

theorem run_keepsTo (identity : AuthenticatedIdentity) (config : RelayLimitConfig)
    (hstatus : statusSize ≤ limit) (hlimit : config.frame.maxFrameSize ≤ limit)
    (hread : Along (RelaySession.observe (.new identity config))
      (fun _ => ReadUnder config.frame) .start actions) :
    Each (KeepsTo limit)
      (run (RelaySession.observe (.new identity config)) .start actions).2 := by
  have hdata : (RelayContext.new identity config).limits.dataFrameSize ≤ limit :=
    (Nat.min_le_left _ _).trans hlimit
  have hshort {action : RelayAction} (h : ReadUnder config.frame action) :
      ∀ frame env, action = .frame frame env → frame.payload.length ≤ limit := by
    rintro frame env rfl
    obtain ⟨src, rest, hdecode⟩ := h
    exact (Frame.decode_length hdecode).trans hlimit
  refine run_each (fun _ r => r.Within limit) ?_ ?_ .start hread
  · intro seen r action h hwithin
    exact hwithin.step hstatus hdata (hshort h)
  · intro seen r action h hwithin before event after heq
    cases event with
    | settings agreed => trivial
    | relay event =>
      cases event with
      | wrote byTask origin frame =>
        intro _
        have hmem : SessionEvent.relay (.wrote byTask origin frame) ∈
            (r.observe (.new identity config) action).2 := by simp [heq]
        rcases List.mem_append.mp hmem with hmem | hmem
        · simp at hmem
        · obtain ⟨event, hevent, hsame⟩ := List.mem_map.mp hmem
          cases hsame
          exact (step_moves _ r action).wrote_within hwithin hevent
      | opened | dialed => trivial

def connectionFrame (frameType : FrameType) (payload : Bytes) : Frame :=
  ⟨⟨protocolVersion, frameType, 0, 0, payload.length⟩, payload⟩

theorem connectionFrame_new (frameType : FrameType)
    (hlength : payload.length ≤ Varint.maxVarint) :
    Frame.new frameType 0 0 payload = .ok (connectionFrame frameType payload) := by
  obtain ⟨len, hlen⟩ := Varint.encodedLen_ok_iff.mpr hlength
  simp [Frame.new, FrameHeader.new, validateFlags, Varint.encodedLen.eq_1 0, hlen, bind,
    Except.bind, pure, Except.pure, connectionFrame]

theorem connectionFrame_read (frameType : FrameType) (limits : FrameLimits)
    (hlength : payload.length ≤ Varint.maxVarint)
    (hlimit : payload.length ≤ limits.maxFrameSize) :
    ∃ src rest, Frame.decode limits src = .ok (connectionFrame frameType payload, rest) := by
  obtain ⟨id, hid⟩ := Varint.encode_ok_iff.mpr (Nat.zero_le Varint.maxVarint)
  obtain ⟨length, hlength⟩ := Varint.encode_ok_iff.mpr hlength
  have hwire : HeaderWire (connectionFrame frameType payload).header id length :=
    ⟨rfl, by simp [connectionFrame, validateFlags], hid, hlength⟩
  have hheader := FrameHeader.encode_eq_ok.mpr ⟨id, length, hwire, rfl⟩
  have hframe : (connectionFrame frameType payload).encode = .ok _ :=
    Frame.encode_eq_ok.mpr ⟨rfl, _, hheader, rfl⟩
  exact ⟨_, [], Frame.decode_encode hframe hlimit []⟩

def limitSettings (limit : Nat) : Bytes :=
  [2, 1] ++ ((Varint.encode limit).toOption.getD [] ++ [7, 2])

theorem settingsOf_limitSettings (hmin : minTcpRelayFrameSize ≤ limit)
    (hmax : limit ≤ maxFramePayloadSize) :
    settingsOf (connectionFrame .settings (limitSettings limit)) =
      some ⟨limit, defaultMaxStreams, defaultMaxStreams, false, true, 0⟩ := by
  have hvarint : limit ≤ Varint.maxVarint := hmax.trans (by decide)
  obtain ⟨x, hx⟩ := Varint.encode_ok_iff.mpr hvarint
  have hcount (rest : Bytes) : Varint.decode (2 :: rest) = .ok (2, rest) :=
    Varint.decode_encode (x := [2]) (by decide) rest
  have hfirst (rest : Bytes) : Varint.decode (1 :: rest) = .ok (1, rest) :=
    Varint.decode_encode (x := [1]) (by decide) rest
  have hlast (rest : Bytes) : Varint.decode (7 :: rest) = .ok (7, rest) :=
    Varint.decode_encode (x := [7]) (by decide) rest
  have hpayload : limitSettings limit = 2 :: 1 :: (x ++ [7, 2]) := by
    simp [limitSettings, hx, Except.toOption]
  have hdecode : Settings.decode (limitSettings limit) =
      .ok ((Settings.empty.set .maxFrameSize limit).set .protocolRevision 2) := by
    rw [hpayload]
    simp [Settings.decode, Settings.decodeEntries, hcount, hfirst, hlast,
      Varint.decode_encode hx, SettingKey.tryFrom, Settings.set, Settings.empty, bind,
      Except.bind, pure, Except.pure]
  have hzero : limit ≠ 0 := by
    rintro rfl
    simp [minTcpRelayFrameSize] at hmin
  have hsmall := Nat.not_lt.mpr hmin
  have hlarge := Nat.not_lt.mpr hmax
  simp [settingsOf, connectionFrame, validateConnectionFrame, hdecode, bind, Except.bind,
    Settings.negotiated, checkProtocolRevision, rejectZeroSetting, rejectBooleanSetting,
    rejectSmallSetting, rejectLargeSetting, rejectSetting, Settings.set, Settings.empty,
    protocolRevisionV1, hzero, hsmall, hlarge, pure, Except.pure, Except.toOption]

/-- A ping with one byte more than the limit announced. -/
def exceedingEcho (limit : Nat) : List RelayAction :=
  [.frame (connectionFrame .settings (limitSettings limit)) sampleEnv,
    .frame (connectionFrame .ping (List.replicate (limit + 1) 0)) sampleEnv,
    .loop .acquire, .loop (.finish .written)]

theorem exceedingEcho_log (context : RelayContext) (hmin : minTcpRelayFrameSize ≤ limit)
    (hmax : limit ≤ maxFramePayloadSize) :
    (run (RelaySession.observe context) .start (exceedingEcho limit)).2 =
      [.settings ⟨limit, defaultMaxStreams, defaultMaxStreams, false, true, 0⟩,
        .relay (.wrote false none (connectionFrame .pong (List.replicate (limit + 1) 0)))] := by
  have hacceptable : Acceptable (connectionFrame .settings (limitSettings limit)) .start
      ⟨limit, defaultMaxStreams, defaultMaxStreams, false, true, 0⟩ :=
    ⟨settingsOf_limitSettings hmin hmax, rfl, rfl⟩
  have hsettings := handleSessionFrame_acceptable context sampleEnv _ _ hacceptable
  have haccepts := (acceptedSettings_eq_some context sampleEnv _ _).mpr hacceptable
  have hlength : (List.replicate (limit + 1) (0 : UInt8)).length ≤ Varint.maxVarint := by
    rw [List.length_replicate]
    exact (Nat.succ_le_succ hmax).trans (by decide)
  have hping (s : Session) : handleSessionFrame context sampleEnv
      (connectionFrame .ping (List.replicate (limit + 1) 0)) s =
        (s, [.write (connectionFrame .pong (List.replicate (limit + 1) 0)) false]) := by
    have hpong := connectionFrame_new .pong hlength
    simp [handleSessionFrame, validateOrReportSessionControlFrame, validateConnectionFrame,
      writePong, connectionFrame.eq_1 .ping, hpong, sendFrame]
  have hnone (s : Session) : acceptedSettings context sampleEnv
      (connectionFrame .ping (List.replicate (limit + 1) 0)) s = none := by
    simp [acceptedSettings, connectionFrame]
  have hrelaying : Session.start.state = .relaying := rfl
  have hempty : Session.start.targetWriters = ∅ := rfl
  simp [exceedingEcho, run, RelaySession.observe, RelaySession.accepts, RelaySession.step,
    RelaySession.start, RelaySession.readyStep, hsettings, haccepts, hping, hnone, openedBy,
    Session.settled, RelaySession.handle, RelaySession.resume, hrelaying, hempty,
    RelaySession.loopStep, RelaySession.release, RelaySession.occupant]

theorem exceedingEcho_exceeds (context : RelayContext) (hmin : minTcpRelayFrameSize ≤ limit)
    (hmax : limit ≤ maxFramePayloadSize) :
    ¬Each (KeepsTo limit)
      (run (RelaySession.observe context) .start (exceedingEcho limit)).2 := by
  intro hkept
  rw [exceedingEcho_log _ hmin hmax] at hkept
  have hecho := hkept [_] _ [] rfl (by simp [SessionEvent.announces])
  simp [connectionFrame] at hecho

theorem exceedingEcho_read (context : RelayContext) {limits : FrameLimits}
    (hmin : minTcpRelayFrameSize ≤ limit) (hmax : limit ≤ maxFramePayloadSize)
    (hless : limit < limits.maxFrameSize) :
    Along (RelaySession.observe context) (fun _ => ReadUnder limits) .start
      (exceedingEcho limit) := by
  have hping : (List.replicate (limit + 1) (0 : UInt8)).length = limit + 1 :=
    List.length_replicate
  have hvarint : limit + 1 ≤ Varint.maxVarint := (Nat.succ_le_succ hmax).trans (by decide)
  have hsettings : (limitSettings limit).length ≤ 12 := by
    obtain ⟨x, hx⟩ := Varint.encode_ok_iff.mpr (Nat.le_of_succ_le hvarint)
    have hlength := Varint.encode_length_le hx
    simp [limitSettings, hx, Except.toOption]
    omega
  refine along_forall_iff.mpr ?_
  refine List.forall_mem_cons.mpr ⟨?_, List.forall_mem_cons.mpr ⟨?_, by simp [ReadUnder]⟩⟩
  · refine connectionFrame_read .settings limits (hsettings.trans (by decide)) ?_
    exact hsettings.trans ((by decide : 12 ≤ minTcpRelayFrameSize).trans (hmin.trans hless.le))
  · exact connectionFrame_read .ping limits (hping.le.trans hvarint)
      (hping.le.trans hless)

/-- The server keeps to every limit exactly if its own is no larger. -/
theorem receive_limit_kept_iff (identity : AuthenticatedIdentity) (config : RelayLimitConfig)
    (limit : Nat) (hmin : minTcpRelayFrameSize ≤ limit) (hmax : limit ≤ maxFramePayloadSize) :
    (∀ actions, Along (RelaySession.observe (.new identity config))
        (fun _ => ReadUnder config.frame) .start actions →
      Each (KeepsTo limit)
        (run (RelaySession.observe (.new identity config)) .start actions).2) ↔
      config.frame.maxFrameSize ≤ limit := by
  constructor
  · intro h
    by_contra hless
    exact exceedingEcho_exceeds _ hmin hmax
      (h _ (exceedingEcho_read _ hmin hmax (Nat.not_le.mp hless)))
  · intro hlimit actions
    exact run_keepsTo identity config ((by decide : statusSize ≤ minTcpRelayFrameSize).trans hmin)
      hlimit

def sampleLimits : RelayLimitConfig := ⟨⟨65536⟩, 64, 64, none, 1048576, none, none⟩

theorem receive_limit_kept_equal :
    minTcpRelayFrameSize ≤ 65536 ∧ 65536 ≤ maxFramePayloadSize ∧
      ∀ actions, Along (RelaySession.observe (.new sampleCredential.identity sampleLimits))
          (fun _ => ReadUnder sampleLimits.frame) .start actions →
        Each (KeepsTo 65536)
          (run (RelaySession.observe (.new sampleCredential.identity sampleLimits)) .start
            actions).2 :=
  ⟨by decide, by decide, (receive_limit_kept_iff _ sampleLimits 65536 (by decide) (by decide)).mpr
    (by decide)⟩

/-- A client that announces 262 bytes gets an echo of 263. -/
theorem echo_exceeds_announced_limit :
    Along (RelaySession.observe (.new sampleCredential.identity sampleLimits))
        (fun _ => ReadUnder sampleLimits.frame) .start (exceedingEcho 262) ∧
      ¬Each (KeepsTo 262)
        (run (RelaySession.observe (.new sampleCredential.identity sampleLimits)) .start
          (exceedingEcho 262)).2 :=
  ⟨exceedingEcho_read _ (by decide) (by decide) (by decide),
    exceedingEcho_exceeds _ (by decide) (by decide)⟩

end UncrownedKing.Relay
