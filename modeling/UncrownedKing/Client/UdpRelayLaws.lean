import UncrownedKing.Client.SessionLaws
import UncrownedKing.Client.UdpRelay
import UncrownedKing.Lib.Chunks

/-!
# Frames within the server's limit

A datagram is measured against the session that a new flow is opened on, but not
again when it goes out on a flow that the worker already has.
-/

namespace UncrownedKing.Client

open Lib Proto

variable {c : ClientState} {s : Session}

def Fits (limit : Nat) (frame : ProtocolResult Frame) : Prop :=
  ∀ built, frame = .ok built → built.payload.length ≤ limit

theorem fits_new (h : bytes.length ≤ limit) :
    Fits limit (Frame.new frameType flags flowId bytes) := by
  intro frame hframe
  rwa [Frame.new_payload hframe]

theorem fits_bind {payload : ProtocolResult Bytes}
    (h : ∀ bytes, payload = .ok bytes → bytes.length ≤ limit) :
    Fits limit (payload >>= fun bytes => Frame.new frameType flags flowId bytes) := by
  intro frame hframe
  obtain ⟨bytes, hbytes, hframe⟩ := bind_eq_ok.mp hframe
  exact fits_new (h bytes hbytes) frame hframe

variable {limit : Nat} (hlimit : minTcpRelayFrameSize ≤ limit)
include hlimit

theorem openFrame_fits (protocol : FlowProtocol) (flowId : Nat) (target : Target) :
    Fits limit (protocol.openFrame flowId target) := by
  cases protocol with
  | tcp => exact fits_bind fun bytes hbytes => (TcpOpen.encode_length hbytes).trans hlimit
  | udp =>
    refine fits_bind fun bytes hbytes => ?_
    have hlength := Target.encode_length hbytes
    simp only [minTcpRelayFrameSize] at hlimit
    omega

theorem closeFrame_fits (protocol : FlowProtocol) (flowId : Nat) (closeCode : UInt16) :
    Fits limit (protocol.closeFrame flowId closeCode) := by
  have hclose : ∀ {invalid unknown bytes}, encodeClose invalid unknown closeCode = .ok bytes →
      bytes.length ≤ limit := by
    intro invalid unknown bytes hbytes
    have hlength := encodeClose_length hbytes
    simp only [minTcpRelayFrameSize] at hlimit
    omega
  cases protocol <;> exact fits_bind fun bytes hbytes => hclose hbytes

theorem statusFrame_fits (frameType : FrameType) (flowId : Nat) (code : ErrorCode) :
    Fits limit (statusFrame frameType flowId code) := by
  refine fits_bind fun bytes hbytes => ?_
  have hlength := Varint.encode_length_le hbytes
  simp only [minTcpRelayFrameSize] at hlimit
  omega

omit hlimit in
def Op.Fits (limit : Nat) : Op → Prop
  | .writeFrame frame _ => Client.Fits limit frame
  | .handleFrame frame => frame.payload.length ≤ limit
  | _ => True

omit hlimit in
def Program.Fits (limit : Nat) (program : Program) : Prop := ∀ op ∈ program, op.Fits limit

omit hlimit in
@[simp]
theorem Program.fits_nil : Program.Fits limit [] := by simp [Program.Fits]

omit hlimit in
@[simp]
theorem Program.fits_cons :
    Program.Fits limit (op :: rest) ↔ op.Fits limit ∧ Program.Fits limit rest :=
  List.forall_mem_cons

omit hlimit in
theorem onError_fits (h : Program.Fits limit rest) (onError : OnError) :
    Program.Fits limit (onError.program rest) := by
  cases onError with
  | ignore => exact h
  | failOpen flowId => simp [OnError.program, abandonOpen, Op.Fits]
  | endReader => simp [OnError.program, Op.Fits]

theorem openReserved_fits (protocol : FlowProtocol) (flowId : Nat) (target : Target) :
    Program.Fits limit (openReserved protocol flowId target) := by
  simp [openReserved, Op.Fits, openFrame_fits hlimit]

theorem cancelPendingOpen_fits (protocol : FlowProtocol) (flowId : Nat) (outcome : OpenOutcome) :
    Program.Fits limit (cancelPendingOpen protocol flowId outcome) := by
  simp [cancelPendingOpen, abandonOpen, Op.Fits, closeFrame_fits hlimit]

theorem connectionErrorFrame_fits (code : ErrorCode) :
    Client.Fits limit (connectionErrorFrame code) :=
  statusFrame_fits hlimit .error 0 code

theorem answerOpen_fits (protocol : FlowProtocol) (flowId : Nat) (frame : Frame) :
    Program.Fits limit (answerOpen protocol flowId frame) := by
  have hreport := connectionErrorFrame_fits hlimit .protocol
  unfold answerOpen
  split <;> simp [abandonOpen, reportProtocolError, Op.Fits, hreport]

theorem flowErrorCloseFrame_fits (flowId : Nat) (protocol : Option FlowProtocol)
    (frameType : FrameType) : Client.Fits limit (flowErrorCloseFrame flowId protocol frameType) :=
  closeFrame_fits hlimit _ flowId _

theorem afterRoute_fits (frame : Frame) (protocol : Option FlowProtocol)
    (route : Session.FlowFrameRoute) : Program.Fits limit (afterRoute frame protocol route) := by
  have hreport := connectionErrorFrame_fits hlimit .protocol
  have hclose := flowErrorCloseFrame_fits hlimit frame.header.id protocol frame.header.frameType
  cases route <;>
    simp [afterRoute, reportProtocolError, resourceLimitFrame, Op.Fits, hreport, hclose,
      statusFrame_fits hlimit]

theorem handleFrame_fits (limits : SessionLimits) (s : Session) (frame : Frame)
    (hframe : frame.payload.length ≤ limit) :
    Program.Fits limit (s.handleFrame limits frame).2 := by
  have hreport : Program.Fits limit [reportProtocolError, .swapClosed] := by
    simp [reportProtocolError, Op.Fits, connectionErrorFrame_fits hlimit]
  unfold Session.handleFrame
  split
  case h_8 =>
    split
    · exact hreport
    · simp [Op.Fits, pongFrame, fits_new hframe]
  case h_9 =>
    split
    · exact hreport
    · simp
  case h_10 => exact hreport
  all_goals
    split
    · exact hreport
    · split
      · simp [Op.Fits]
      · exact afterRoute_fits hlimit frame _ _

omit hlimit in
def Session.Fits (limit : Nat) (s : Session) : Prop :=
  ∀ frame, .wrote frame ∈ s.log → frame.payload.length ≤ limit

omit hlimit in
theorem Session.Fits.of_log {s s' : Session} (h : s.Fits limit) (hlog : s'.log = s.log) :
    s'.Fits limit := by
  intro frame hframe
  exact h frame (hlog ▸ hframe)

omit hlimit in
theorem Session.Fits.emit (h : s.Fits limit)
    (hevent : ∀ frame, event = .wrote frame → frame.payload.length ≤ limit) :
    (s.emit event).Fits limit := by
  intro frame hframe
  obtain hold | hnew := List.mem_append.mp hframe
  · exact h frame hold
  · exact hevent frame (List.mem_singleton.mp hnew).symm

omit hlimit in
theorem handling_fits (h : s.Fits limit) (hhandling : Session.Handling s frame next) :
    next.1.Fits limit := by
  cases hhandling with
  | kept => exact h
  | dropped | queued => exact h.of_log rfl

omit hlimit in
theorem finishOpen_fits (h : s.Fits limit) (task : Nat) (outcome : Except OpenError OpenOutcome) :
    (s.finishOpen task outcome).1.Fits limit ∧
      Program.Fits limit (s.finishOpen task outcome).2 := by
  have hfinished : (s.emit (.openFinished task outcome)).Fits limit := h.emit nofun
  unfold Session.finishOpen
  dsimp only
  split
  · exact ⟨hfinished, Program.fits_nil⟩
  · rename_i hprogram
    refine ⟨hfinished.emit nofun, ?_⟩
    unfold finishProgram at hprogram ⊢
    split <;> simp [Op.Fits]

theorem awaitResponse_fits (h : s.Fits limit) (protocol : FlowProtocol)
    (flowId : Nat) (choice : Choice) :
    (s.awaitResponse protocol flowId choice).1.Fits limit ∧
      Program.Fits limit (s.awaitResponse protocol flowId choice).2 := by
  cases choice with
  | proceed =>
    unfold Session.awaitResponse
    dsimp only
    split
    · exact ⟨h.of_log rfl, answerOpen_fits hlimit protocol flowId _⟩
    · refine ⟨h, ?_⟩
      split <;> simp [Op.Fits]
  | cancel | giveUp => exact ⟨h, cancelPendingOpen_fits hlimit protocol flowId _⟩
  | fail => exact ⟨h, by simp [Session.awaitResponse, Op.Fits]⟩

theorem exec_fits (h : s.Fits limit) (limits : SessionLimits) (task : Nat)
    (hprogram : Program.Fits limit (op :: rest)) (choice : Choice) :
    (s.exec limits task op rest choice).1.Fits limit ∧
      Program.Fits limit (s.exec limits task op rest choice).2 := by
  obtain ⟨hop, hrest⟩ := Program.fits_cons.mp hprogram
  cases op with
  | reserveFlow protocol target =>
    have hreserving := Session.exec_reserveFlow limits s task protocol target rest choice
    generalize s.exec limits task (.reserveFlow protocol target) rest choice = next at hreserving
    cases hreserving with
    | refused => exact ⟨h.of_log rfl, by simp [Op.Fits]⟩
    | added => exact ⟨h.of_log rfl, openReserved_fits hlimit protocol _ target⟩
  | writeFrame frame onError =>
    cases frame with
    | error error => exact ⟨h, onError_fits hrest onError⟩
    | ok frame =>
      simp only [Session.exec]
      split
      · exact ⟨h, by simp [Op.Fits, onError_fits hrest onError]⟩
      · refine ⟨h.emit fun written hwritten => ?_, hrest⟩
        cases hwritten
        exact hop frame rfl
  | awaitResponse protocol flowId => exact awaitResponse_fits hlimit h protocol flowId choice
  | finishOpen outcome => exact finishOpen_fits h task outcome
  | handleFrame frame =>
    exact ⟨handling_fits h (Session.handleFrame_handling limits s frame),
      handleFrame_fits hlimit limits s frame hop⟩
  | swapClosed =>
    simp only [Session.exec]
    split
    · exact ⟨h, hrest⟩
    · exact ⟨Session.Fits.emit (h.of_log rfl) (by simp), by simp [Op.Fits, hrest]⟩
  | shutdownCarrier => exact ⟨h.emit (by simp), hrest⟩
  | swapDraining =>
    simp only [Session.exec]
    split
    · exact ⟨h, hrest⟩
    · exact ⟨h.of_log rfl, by simp [Op.Fits, hrest]⟩
  | clearFlows | dropReceiver flowId => exact ⟨h.of_log rfl, hrest⟩
  | removeFlow flowId =>
    refine ⟨h.of_log rfl, ?_⟩
    simp only [Session.exec]
    split <;> simp [Op.Fits, hrest]
  | _ =>
    refine ⟨h, ?_⟩
    simp only [Session.exec]
    split <;> simp [abandonOpen, Op.Fits, hrest]

theorem step_fits (h : s.Fits limit) (limits : SessionLimits) (task : Nat)
    (hprogram : Program.Fits limit program) (hinput : ∀ operation, input ≠ .call operation) :
    (s.step limits task program input).1.Fits limit ∧
      Program.Fits limit (s.step limits task program input).2 := by
  cases program with
  | cons op rest =>
    cases input with
    | go choice => exact exec_fits hlimit h limits task hprogram choice
    | _ => exact ⟨h, hprogram⟩
  | nil =>
    cases input with
    | go choice => exact ⟨h, hprogram⟩
    | call operation => exact absurd rfl (hinput operation)
    | datagram flowId payload =>
      refine ⟨h.of_log ?_, hprogram⟩
      simp only [Session.step, Session.routeInboundDatagram]
      split <;> rfl
    | receive flowId =>
      refine ⟨h.of_log ?_, hprogram⟩
      simp only [Session.step]
      split <;> rfl
    | dropFlow flowId =>
      refine ⟨h.of_log ?_, hprogram⟩
      simp only [Session.step]
      split <;> rfl

omit hlimit

theorem handshakeFrames_fit (h : handshakeFrames config response supported = some frames) :
    ∀ frame ∈ frames, frame.payload.length ≤ minTcpRelayFrameSize := by
  simp only [handshakeFrames, Option.bind_eq_bind, Option.bind_eq_some_iff, Option.pure_def,
    toOption_eq_some] at h
  obtain ⟨response, hresponse, first, hfirst, settings, hsettings, second, hsecond, h⟩ := h
  cases h
  have hfirstLength := fits_new (AuthResponse.encode_length hresponse rfl) first hfirst
  have hsecondLength := fits_new (Settings.encode_length hsettings) second hsecond
  simp [hfirstLength, hsecondLength]

theorem length_of_mem_chunksOf (h : chunk ∈ chunksOf size bytes) : chunk.length ≤ max size 1 :=
  (pieces_toChunks (by omega) bytes).1.length_le h

namespace ClientSession

structure Within (session : ClientSession) : Prop where
  log : session.tasks.shared.Fits session.limits.maxFrameSize
  pc : ∀ task, Program.Fits session.limits.maxFrameSize (session.tasks.pc task)

theorem within_connect (h : connect config response settings channel = some session) :
    session.Within := by
  unfold connect at h
  split at h
  · cases h
  · simp only [Option.bind_eq_bind, Option.bind_eq_some_iff, Option.pure_def] at h
    obtain ⟨frames, hframes, h⟩ := h
    cases h
    refine ⟨fun frame hframe => ?_, fun task => Program.fits_nil⟩
    obtain ⟨written, hwritten, heq⟩ := List.mem_map.mp hframe
    cases heq
    exact (handshakeFrames_fit hframes frame hwritten).trans
      (Settings.negotiated_maxFrameSize (by assumption))

section

variable {session : ClientSession} (h : session.Within) (task : Nat)
include h

theorem Within.start (hprogram : Program.Fits session.limits.maxFrameSize program) :
    (session.start task program).Within := by
  unfold ClientSession.start
  split
  · refine ⟨h.log, fun other => ?_⟩
    by_cases heq : other = task
    · subst heq
      simpa using hprogram
    · simpa [heq] using h.pc other
  · exact h

theorem Within.step
    (hinput : ∀ operation, input ≠ .call operation) : (session.step task input).Within := by
  have hstep := step_fits session.le_limits h.log session.flowLimits task (h.pc task) hinput
  refine ⟨hstep.1, fun other => ?_⟩
  by_cases heq : other = task
  · subst heq
    simpa [ClientSession.step] using hstep.2
  · simpa [ClientSession.step, Threads.step_pc_of_ne _ _ heq] using h.pc other

theorem Within.send (hframe : Client.Fits session.limits.maxFrameSize frame) (choice : Choice) :
    (session.send task frame choice).Within := by
  refine Within.step (h.start task ?_) task (by simp)
  simp [Op.Fits, hframe]

end

end ClientSession

theorem Traffic.program_fits (session : ClientSession) (traffic : Traffic) :
    Program.Fits session.limits.maxFrameSize (traffic.program session) := by
  have hlimit := session.le_limits
  have hdata := session.dataFrameSize_le
  cases traffic with
  | readFrame bytes =>
    simp only [Traffic.program]
    split
    · rename_i frame rest hdecode
      simpa [SessionCall.program, Op.Fits] using Frame.decode_length hdecode
    · simp
  | readFailed code =>
    cases code <;>
      simp [Traffic.program, SessionCall.program, Op.Fits, connectionErrorFrame_fits hlimit]
  | tcpRead flowId bytes =>
    simp only [Traffic.program]
    split
    · simp [Op.Fits, closeFrame_fits hlimit]
    · have hread : (bytes.take session.dataFrameSize).length ≤ session.limits.maxFrameSize :=
        (List.length_take_le _ _).trans hdata
      simp [Op.Fits, tcpDataFrame, fits_new hread]
  | tcpUpload flowId payload =>
    intro op hop
    obtain ⟨chunk, hchunk, rfl⟩ := List.mem_map.mp hop
    have hlength := length_of_mem_chunksOf hchunk
    refine fits_new (hlength.trans (max_le hdata ?_))
    exact Nat.le_trans (by decide) hlimit
  | sendClose protocol flowId closeCode =>
    simp [Traffic.program, Op.Fits, closeFrame_fits hlimit]
  | ping nonce =>
    have hnonce : (toBe 8 nonce).length ≤ session.limits.maxFrameSize := by
      simp only [minTcpRelayFrameSize] at hlimit
      simp
      omega
    simp [Traffic.program, Op.Fits, fits_new hnonce]
  | _ => simp [Traffic.program, SessionCall.program, Op.Fits]

namespace ClientState

def Within (c : ClientState) : Prop := ∀ session ∈ c.sessions, session.Within

theorem Within.onSession (h : c.Within) (i : Nat) {f : ClientSession → ClientSession}
    (hf : ∀ session, c.sessions[i]? = some session → session.Within → (f session).Within) :
    (c.onSession i f).Within := by
  intro session hmem
  obtain ⟨j, hj⟩ := List.mem_iff_getElem?.mp hmem
  simp only [ClientState.onSession, List.getElem?_modify, Option.map_eq_map,
    Option.map_eq_some_iff] at hj
  obtain ⟨before, hbefore, rfl⟩ := hj
  have hwithin := h before (List.mem_of_getElem? hbefore)
  split
  · rename_i heq
    subst heq
    exact hf before hbefore hwithin
  · exact hwithin

theorem Within.closeFlow (h : c.Within) (w : Nat) (worker : UdpWorker)
    (flow : UdpAssociationFlow) (closeCode : UInt16) (choice : Choice) (next : WorkerStage) :
    (c.closeFlow w worker flow closeCode choice next).Within :=
  h.onSession flow.session fun session _ hsession =>
    hsession.send w (closeFrame_fits session.le_limits .udp flow.id closeCode) choice

theorem Within.sendUdpData (h : c.Within) (w : Nat) (worker : UdpWorker)
    (attempt : Nat) (hsession : c.sessions[flow.session]? = some session) (choice : Choice)
    (hpayload : session.trySendUdpDatagram flow.id payload taken = false →
      session.supportsUdpStreamFallback = true → payload.length ≤ session.limits.maxFrameSize) :
    (c.sendUdpData w worker attempt payload flow session taken choice).Within := by
  unfold ClientState.sendUdpData
  split
  · exact h
  · rename_i htaken
    split
    · exact h
    · rename_i hfallback
      have hlength := hpayload (by simpa using htaken) (by simpa using hfallback)
      refine h.onSession flow.session fun session' hsession' hwithin => ?_
      cases hsession.symm.trans hsession'
      exact hwithin.send w (fits_new hlength) choice

theorem maxUdpPayloadLenFor_le (session : ClientSession) (flowId : Nat) :
    session.maxUdpPayloadLenFor flowId ≤ session.limits.maxFrameSize := by
  refine Nat.le_trans ?_ session.dataFrameSize_le
  unfold ClientSession.maxUdpPayloadLenFor
  split
  · exact Nat.le_refl _
  · exact Nat.min_le_right _ _

theorem Within.opened (h : c.Within) (w : Nat) (worker : UdpWorker)
    (attempt openAttempt : Nat) (payload : Bytes) (hsession : c.sessions[i]? = some session)
    (taken : Bool) (choice : Choice) :
    (c.opened w worker attempt openAttempt payload i session taken choice).Within := by
  unfold ClientState.opened
  split
  · exact h
  · dsimp only
    split
    · exact h.closeFlow w worker _ _ choice _
    · rename_i flowId _ hlength
      refine Within.sendUdpData h w _ attempt hsession choice fun _ _ => ?_
      exact (Nat.not_lt.mp hlength).trans (maxUdpPayloadLenFor_le session flowId)
  · exact h
  · split <;> exact h

def reused (c : ClientState) : ClientInput → Option (ClientSession × Bytes)
  | .worker w (.go taken _) => do
    let worker ← c.workers[w]?
    match worker.stage, worker.current with
    | .attempt _ payload, some flow => do
      let session ← c.sessions[flow.session]?
      if worker.cancelled || session.isClosed ||
          session.trySendUdpDatagram flow.id payload taken ||
          !session.supportsUdpStreamFallback then none
      else some (session, payload)
    | _, _ => none
  | _ => none

/-- A datagram on a flow of an earlier one is within that session's limit. -/
def ReuseFits (c : ClientState) (input : ClientInput) : Prop :=
  (c.reused input).all fun reuse => reuse.2.length ≤ reuse.1.limits.maxFrameSize

instance : Decidable (ReuseFits c input) := inferInstanceAs (Decidable (_ = true))

theorem Within.workerGo (h : c.Within) (hworker : c.workers[w]? = some worker)
    (hreuse : ReuseFits c (.worker w (.go taken choice))) :
    (c.workerGo w worker taken choice).Within := by
  unfold ClientState.workerGo
  split
  case h_1 attempt payload hstage =>
    split
    · exact h
    rename_i hcancelled
    split
    · exact h
    rename_i flow hcurrent
    split
    · exact h
    rename_i session hsession
    split
    · exact h
    rename_i hclosed
    refine h.sendUdpData w worker attempt hsession choice fun htaken hfallback => ?_
    simpa [ReuseFits, reused, hworker, hstage, hcurrent, hsession, hcancelled, hclosed, htaken,
      hfallback] using hreuse
  case h_2 attempt openAttempt payload i hstage =>
    split
    · exact h
    · rename_i session hsession
      exact h.opened w worker attempt openAttempt payload hsession taken choice
  case h_3 flow next hstage =>
    split
    · refine h.onSession flow.session fun session _ hwithin => hwithin.start w ?_
      simp [SessionCall.program, Op.Fits]
    · exact h
  case h_4 hstage =>
    split
    · exact h
    · exact h.closeFlow w worker _ _ choice _
  case h_5 => exact h

theorem Within.workerStep (h : c.Within) (hworker : c.workers[w]? = some worker)
    (hreuse : ReuseFits c (.worker w input)) : (c.workerStep w worker input).Within := by
  cases input with
  | go taken choice => exact h.workerGo hworker hreuse
  | admitted i =>
    simp only [ClientState.workerStep]
    split
    · split
      · refine h.onSession i fun session _ hwithin => hwithin.start w ?_
        simp [SessionCall.program, Op.Fits]
      · exact h
    · exact h
  | relayEnded flow choice =>
    simp only [ClientState.workerStep]
    split
    · exact h.closeFlow w worker flow _ choice _
    · exact h
  | _ =>
    simp only [ClientState.workerStep]
    first
      | exact h
      | split <;> exact h

theorem enqueueDatagram_sessions (c : ClientState) (association : Nat) (target : Target)
    (payload : Bytes) : (c.enqueueDatagram association target payload).sessions = c.sessions := by
  unfold ClientState.enqueueDatagram
  split <;> rfl

theorem handleLocalUdpDatagram_sessions (c : ClientState) (association : Nat) (target : Target)
    (payload : Bytes) :
    (c.handleLocalUdpDatagram association target payload).sessions = c.sessions := by
  unfold ClientState.handleLocalUdpDatagram
  split
  · exact enqueueDatagram_sessions c.liveSessions association target payload
  · split
    · rfl
    · exact enqueueDatagram_sessions c.liveSessions association target payload

theorem Within.step (h : c.Within) (input : ClientInput)
    (hreuse : ReuseFits c input) : (c.step input).Within := by
  cases input with
  | connect config response settings channel =>
    simp only [ClientState.step]
    split
    · exact h
    · rename_i session hsession
      intro other hmem
      obtain hmem | hmem := List.mem_append.mp hmem
      · exact h other hmem
      · rw [List.mem_singleton.mp hmem]
        exact ClientSession.within_connect hsession
  | pathChanged i size => exact h.onSession i fun _ _ hwithin => ⟨hwithin.log, hwithin.pc⟩
  | reload | unpool i => exact h
  | begin i task traffic =>
    exact h.onSession i fun session _ hwithin =>
      hwithin.start task (traffic.program_fits session)
  | go i task choice => exact h.onSession i fun _ _ hwithin => hwithin.step task (by simp)
  | inboundDatagram i task flowId payload =>
    exact h.onSession i fun _ _ hwithin => hwithin.step task (by simp)
  | receive i task flowId => exact h.onSession i fun _ _ hwithin => hwithin.step task (by simp)
  | dropFlow i task flowId => exact h.onSession i fun _ _ hwithin => hwithin.step task (by simp)
  | localDatagram association target payload =>
    intro session hmem
    refine h session ?_
    rwa [ClientState.step, handleLocalUdpDatagram_sessions] at hmem
  | worker w input =>
    simp only [ClientState.step]
    split
    · exact h
    · rename_i worker hworker
      exact h.workerStep hworker hreuse

end ClientState

theorem clientRun_within (inputs : List ClientInput)
    (h : Along (silent ClientState.step) ClientState.ReuseFits {} inputs) :
    (clientRun inputs).Within :=
  run_invariant (fun _ c => ClientState.Within c)
    (fun _ _ input hreuse hwithin => hwithin.step input hreuse)
    (by simp [ClientState.Within]) h

/-- If no datagram for an open flow exceeds its session's limit, no frame on any session does. -/
theorem frames_within_limit (inputs : List ClientInput)
    (h : Along (silent ClientState.step) ClientState.ReuseFits {} inputs) :
    ∀ session ∈ (clientRun inputs).sessions, ∀ frame ∈ session.written,
      frame.payload.length ≤ session.limits.maxFrameSize := by
  intro session hsession frame hframe
  refine (clientRun_within inputs h session hsession).log frame ?_
  obtain ⟨event, hevent, hwrote⟩ := List.mem_filterMap.mp hframe
  split at hwrote
  · cases hwrote
    exact hevent
  · cases hwrote

def someConfig : SessionConfig := ⟨64, 16384, 1048576, 262144⟩

def someResponse : Auth.AuthResponse :=
  ⟨[1], Vector.replicate 32 0, 0, [], Vector.replicate 32 0⟩

/-- After a reload a datagram of `len` bytes is measured against a session with a larger limit
than that of its flow. -/
def datagramAfterReload (len : Nat) : List ClientInput :=
  let settings := Settings.empty.set .protocolRevision protocolRevisionV1
  let target := .ipv4 (.new 192 0 2 1) 53
  [.connect someConfig someResponse (settings.set .maxFrameSize 512) none,
    .localDatagram 0 target [1, 2], .worker 0 .receive, .worker 0 (.go false .proceed),
    .worker 0 (.admitted 0)] ++
  List.replicate 6 (.go 0 0 .proceed) ++
  [.begin 0 1 (.readFrame [1, 0x21, 0, 0, 1, 0]), .go 0 1 .proceed, .go 0 0 .proceed,
    .go 0 0 .proceed, .worker 0 (.go false .proceed), .reload, .begin 0 1 .beginDrain,
    .go 0 1 .proceed, .connect someConfig someResponse settings none,
    .localDatagram 0 target (List.replicate len 0), .worker 0 .receive,
    .worker 0 (.go false .proceed)]

theorem frames_within_limit_512 :
    let sessions := (clientRun (datagramAfterReload 512)).sessions
    (∃ session ∈ sessions, ∃ frame ∈ session.written, frame.payload.length = 512) ∧
      ∀ session ∈ sessions, ∀ frame ∈ session.written,
        frame.payload.length ≤ session.limits.maxFrameSize :=
  ⟨by decide +kernel, frames_within_limit _ (by decide +kernel)⟩

/-- One byte more, and the frame exceeds what the server takes. -/
theorem datagram_exceeds_draining_session :
    ∃ session ∈ (clientRun (datagramAfterReload 513)).sessions, ∃ frame ∈ session.written,
      session.limits.maxFrameSize < frame.payload.length := by
  decide +kernel

end UncrownedKing.Client
