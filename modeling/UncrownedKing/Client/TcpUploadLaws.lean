import UncrownedKing.Client.UdpRelay
import UncrownedKing.Lib.Chunks
import UncrownedKing.Proto.FrameLaws

/-!
# What a connection uploads

What has been read is at any time what has been sent on the flow and what is
held to be sent next.
-/

namespace UncrownedKing.Client

open Lib Proto

theorem RelayConfig.le_bufferSize {config : RelayConfig} (h : config.validate = .ok ()) :
    1024 ≤ config.bufferSize := by
  obtain ⟨pending, _ | size⟩ := config
  · simp [bufferSize]
  · by_contra hsmall
    simp only [bufferSize, Option.getD_some, Nat.not_le] at hsmall
    simp only [validate, hsmall, if_true] at h
    split_ifs at h

/-- A session that was connected under a configuration that passed its check. -/
structure UploadSession where
  config : RelayConfig
  session : ClientSession
  valid : config.validate = .ok ()
  connected : ∃ sessionConfig response settings datagrams,
    sessionConfig.relayBufferSize = config.bufferSize ∧
      ClientSession.connect sessionConfig response settings datagrams = some session

def UploadSession.dataFrameSize (session : UploadSession) : Nat := session.session.dataFrameSize

def UploadSession.params (session : UploadSession) (target : Target) : RelayParams :=
  ⟨target, session.dataFrameSize, session.config.maxPendingOpen⟩

theorem connect_dataFrameSize
    (h : ClientSession.connect config response settings datagrams = some session) :
    session.dataFrameSize = tcpDataFrameSize session.limits config.relayBufferSize := by
  unfold ClientSession.connect at h
  split at h
  · cases h
  · simp only [Option.bind_eq_bind, Option.bind_eq_some_iff, Option.pure_def] at h
    obtain ⟨frames, -, h⟩ := h
    cases h
    rfl

theorem UploadSession.dataFrameSize_pos (session : UploadSession) : 0 < session.dataFrameSize := by
  obtain ⟨sessionConfig, response, settings, datagrams, hbuffer, hconnected⟩ := session.connected
  have hlimits := session.session.le_limits
  have hsize := RelayConfig.le_bufferSize session.valid
  simp only [minTcpRelayFrameSize] at hlimits
  rw [UploadSession.dataFrameSize, connect_dataFrameSize hconnected, hbuffer, tcpDataFrameSize]
  omega

theorem chunksOf_pieces (hsize : 0 < size) (bytes : Bytes) :
    Pieces size (chunksOf size bytes) ∧ (chunksOf size bytes).flatten = bytes := by
  rw [chunksOf, Nat.max_eq_left hsize]
  exact pieces_toChunks hsize bytes

def uploaded (frames : List Frame) : Bytes :=
  frames.flatMap fun frame => if frame.header.frameType = .tcpData then frame.payload else []

/-- The end of an upload, as the server reads it. -/
def NormalClose (frame : Frame) : Prop :=
  frame.header.frameType = .tcpClose ∧ TcpClose.decode frame.payload = .ok tcpCloseNormal

@[simp] theorem uploaded_append (first second : List Frame) :
    uploaded (first ++ second) = uploaded first ++ uploaded second := by
  simp [uploaded]

theorem not_normalClose (h : frame.header.frameType ≠ .tcpClose) : ¬NormalClose frame :=
  fun hclose => h hclose.1

theorem closeFrame_payload (h : FlowProtocol.tcp.closeFrame flowId closeCode = .ok frame) :
    frame.header.frameType = .tcpClose ∧ frame.payload = toBe 2 closeCode.toNat := by
  obtain ⟨payload, hpayload, h⟩ := bind_eq_ok.mp h
  obtain ⟨htype, -, -, hframe⟩ := frame_new_ok h
  refine ⟨htype, hframe.trans ?_⟩
  simp only [TcpClose.encode, encodeClose] at hpayload
  split at hpayload <;> cases hpayload
  rfl

theorem not_normalClose_error
    (h : FlowProtocol.tcp.closeFrame flowId tcpCloseError = .ok frame) : ¬NormalClose frame := by
  rintro ⟨-, hdecode⟩
  rw [(closeFrame_payload h).2] at hdecode
  revert hdecode
  decide

theorem uploaded_of_ne (h : frame.header.frameType ≠ .tcpData) : uploaded [frame] = [] := by
  simp [uploaded, h]

def RelayStage.early : RelayStage → Bool
  | .connecting _ | .opening _ | .replying => true
  | _ => false

def RelayStage.chunks : RelayStage → List Bytes
  | .flushingPending chunks | .drainingUpload chunks => chunks
  | .sendingData payload => [payload]
  | _ => []

def RelayStage.uploading : RelayStage → Bool
  | .connecting _ | .opening _ | .cancelling _ | .replying | .flushingPending _ | .sendingData _
  | .sendingClose | .drainingUpload _ | .closingUpload | .shuttingLocal true => true
  | _ => false

def RelayStage.held (pending : List Bytes) : RelayStage → Option Bytes
  | .connecting _ | .opening _ | .replying => some pending.flatten
  | .cancelling _ | .closingError _ | .returned _ => none
  | stage => some stage.chunks.flatten

def RelayStage.reading : RelayStage → Bool
  | .opening _ | .relaying | .drainingUpload [] => true
  | _ => false

def RelayStage.idle : RelayStage → Bool
  | .relaying | .writing _ _ | .flushing | .flushingWrite _ | .shuttingLocal false
  | .closingError _ | .returned _ => true
  | _ => false

theorem RelayStage.of_idle {stage : RelayStage} (h : stage.idle = true) (pending : List Bytes) :
    stage.early = false ∧ stage.chunks = [] ∧ stage.uploading = false ∧
      (stage.held pending = none ∨ stage.held pending = some []) := by
  unfold RelayStage.idle at h
  split at h <;>
    simp_all [RelayStage.early, RelayStage.chunks, RelayStage.uploading, RelayStage.held]

namespace RelayConn

def reads (params : RelayParams) (c : RelayConn) : RelayInput → Bytes
  | .read bytes =>
    match c.stage with
    | .opening _ =>
      let queued := (c.pendingLocalData.map List.length).sum
      bytes.take (min (max params.dataFrameSize 1) (params.maxPendingOpenBytes - queued))
    | .relaying => if c.localToRemoteOpen then bytes.take params.dataFrameSize else []
    | .drainingUpload [] => bytes.take params.dataFrameSize
    | _ => []
  | _ => []

def uploadStep (target : Target) (sessions : Nat → UploadSession) (c : RelayConn)
    (input : RelayInput) : RelayConn × Bytes :=
  let params := (sessions c.past.length).params target
  (c.step params input, c.reads params input)

def held (c : RelayConn) : Option Bytes := c.stage.held c.pendingLocalData

def Over (c : RelayConn) : Prop := c.localToRemoteOpen = false ∧ c.stage.uploading = false

def Sized (size : Nat) (chunk : Bytes) : Prop := chunk ≠ [] ∧ chunk.length ≤ size

/-- How what was read is accounted for. -/
structure Uploading (sizes : Nat → Nat) (read : Bytes) (c : RelayConn) : Prop where
  early : c.stage.early = true → uploaded c.flow.sent = []
  sent : ∀ held, c.held = some held → uploaded c.flow.sent ++ held = read
  isPrefix : uploaded c.flow.sent <+: read
  sized : ∀ frame ∈ c.flow.sent, frame.header.frameType = .tcpData →
    Sized (sizes c.past.length) frame.payload
  chunks : ∀ chunk ∈ c.stage.chunks, Sized (sizes c.past.length) chunk
  close : Each (fun before frame => NormalClose frame → uploaded before = read ∧ c.Over) c.flow.sent

section
variable {c c' : RelayConn} {sizes : Nat → Nat} {read : Bytes}

theorem not_over_at {stage : RelayStage} (hstage : c.stage = stage)
    (h : stage.uploading = true) : ¬c.Over := by
  rintro ⟨-, hdone⟩
  rw [hstage, h] at hdone
  cases hdone

theorem held_at {stage : RelayStage} (hstage : c.stage = stage) :
    c.held = stage.held c.pendingLocalData := by
  rw [held, hstage]

theorem Uploading.no_close (h : Uploading sizes read c) (hopen : ¬c.Over) :
    ∀ frame ∈ c.flow.sent, ¬NormalClose frame := by
  intro frame hmem hclose
  obtain ⟨before, after, heq⟩ := List.append_of_mem hmem
  exact hopen (h.close before frame after heq hclose).2

theorem each_no_close {P : List Frame → Frame → Prop} {sent : List Frame}
    (h : ∀ frame ∈ sent, ¬NormalClose frame) :
    Each (fun before frame => NormalClose frame → P before frame) sent := by
  intro before frame after heq hclose
  exact absurd hclose (h frame (by simp [heq]))

structure Kept (c c' : RelayConn) : Prop where
  sent : c'.flow.sent = c.flow.sent
  past : c'.past = c.past
  early : c'.stage.early = true → c.stage.early = true
  held : c'.held = none ∨ c'.held = c.held
  chunks : c'.stage.chunks = [] ∨ c'.stage.chunks = c.stage.chunks
  ended : c.Over → c'.Over

theorem Uploading.kept (h : Uploading sizes read c) (hkept : Kept c c') :
    Uploading sizes read c' where
  early hearly := hkept.sent ▸ h.early (hkept.early hearly)
  sent held hheld := by
    obtain hnone | hsame := hkept.held
    · cases hnone.symm.trans hheld
    · rw [hkept.sent]
      exact h.sent held (hsame ▸ hheld)
  isPrefix := hkept.sent ▸ h.isPrefix
  sized := by
    rw [hkept.sent, hkept.past]
    exact h.sized
  chunks := by
    rw [hkept.past]
    obtain hnil | hsame := hkept.chunks
    · simp [hnil]
    · rw [hsame]
      exact h.chunks
  close := by
    rw [hkept.sent]
    intro before frame after heq hclose
    obtain ⟨hread, hover⟩ := h.close before frame after heq hclose
    exact ⟨hread, hkept.ended hover⟩

theorem Uploading.took (h : Uploading sizes read c) (hopen : ¬c.Over)
    (hsent : c'.flow.sent = c.flow.sent) (hpast : c'.past = c.past)
    (hearly : c'.stage.early = true → c.stage.early = true) (hheld : c.held = some rest)
    (hheld' : c'.held = some (rest ++ bytes))
    (hchunks : ∀ chunk ∈ c'.stage.chunks, Sized (sizes c.past.length) chunk) :
    Uploading sizes (read ++ bytes) c' where
  early hearly' := hsent ▸ h.early (hearly hearly')
  sent _ hrest := by
    cases hheld'.symm.trans hrest
    rw [hsent, ← List.append_assoc, h.sent rest hheld]
  isPrefix := hsent ▸ h.isPrefix.trans (List.prefix_append _ _)
  sized := by
    rw [hsent, hpast]
    exact h.sized
  chunks := hpast ▸ hchunks
  close := hsent ▸ each_no_close (h.no_close hopen)

def sending (c : RelayConn) (frame : Frame) : RelayConn :=
  { c with flow := { c.flow with sent := c.flow.sent ++ [frame] } }

theorem send_cases (c : RelayConn) (frame : ProtocolResult Frame) (written : Bool) :
    (∃ route, c.send frame written =
      ({ c with flow := { c.flow with routeClosed := route } }, false)) ∨
    ∃ built, frame = .ok built ∧ c.send frame written = (c.sending built, true) := by
  unfold send
  split
  · exact .inl ⟨_, rfl⟩
  · rename_i built
    split
    · exact .inr ⟨built, rfl, rfl⟩
    · exact .inl ⟨true, rfl⟩

theorem sized_append {size : Nat} {sent : List Frame}
    (h : ∀ frame ∈ sent, frame.header.frameType = .tcpData → Sized size frame.payload)
    (hframe : frame.header.frameType = .tcpData → Sized size frame.payload) :
    ∀ other ∈ sent ++ [frame], other.header.frameType = .tcpData → Sized size other.payload := by
  intro other hmem
  obtain hold | hnew := List.mem_append.mp hmem
  · exact h other hold
  · obtain rfl := List.mem_singleton.mp hnew
    exact hframe

theorem Uploading.sendThen (h : Uploading sizes read c) (hopen : ¬c.Over)
    (hnext : ∀ built, frame = .ok built → Uploading sizes read (next (c.sending built)))
    (written : Bool) : Uploading sizes read (c.sendThen frame written next) := by
  unfold RelayConn.sendThen
  obtain ⟨route, hsend⟩ | ⟨built, hframe, hsend⟩ := send_cases c frame written
  · rw [hsend]
    exact h.kept ⟨rfl, rfl, nofun, .inl rfl, .inl rfl, fun hover => absurd hover hopen⟩
  · rw [hsend]
    exact hnext built hframe

theorem Uploading.sendData {chunk : Bytes} {chunks : List Bytes} {stage : RelayStage}
    (h : Uploading sizes read c) (hopen : ¬c.Over)
    (hheld : c.held = some (chunk :: chunks).flatten) (hchunks : c.stage.chunks = chunk :: chunks)
    (hstage : stage.chunks = chunks)
    (hnext : stage.held c.pendingLocalData = some chunks.flatten) (hearly : stage.early = false)
    (written : Bool) :
    Uploading sizes read
      (c.sendThen (tcpDataFrame c.flow.flowId chunk) written (·.goto stage)) := by
  refine h.sendThen hopen (fun frame hframe => ?_) written
  obtain ⟨htype, -, -, hpayload⟩ := frame_new_ok hframe
  have hdata : uploaded (c.flow.sent ++ [frame]) = uploaded c.flow.sent ++ chunk := by
    simp [uploaded, htype, hpayload]
  have hsent : uploaded (c.flow.sent ++ [frame]) ++ chunks.flatten = read := by
    rw [hdata, List.append_assoc, ← List.flatten_cons]
    exact h.sent _ hheld
  refine ⟨fun hstageEarly => ?_, fun rest hrest => ?_, ⟨_, hsent⟩,
    sized_append h.sized fun _ => ?_, fun other hmem => ?_, each_no_close fun other hmem => ?_⟩
  · cases hearly.symm.trans hstageEarly
  · cases hnext.symm.trans hrest
    exact hsent
  · exact hpayload ▸ h.chunks chunk (by simp [hchunks])
  · refine h.chunks other ?_
    rw [hchunks, ← hstage]
    exact List.mem_cons_of_mem _ hmem
  · obtain hold | hnew := List.mem_append.mp hmem
    · exact h.no_close hopen other hold
    · obtain rfl := List.mem_singleton.mp hnew
      exact not_normalClose (by simp [htype])

theorem Uploading.sendNormal (h : Uploading sizes read c) (hopen : ¬c.Over)
    (hheld : c.held = some [])
    (hframe : FlowProtocol.tcp.closeFrame flowId tcpCloseNormal = .ok frame)
    (hsent : c'.flow.sent = c.flow.sent ++ [frame]) (hpast : c'.past = c.past) (hover : c'.Over)
    (hearly : c'.stage.early = false) (hheld' : c'.held = none ∨ c'.held = some [])
    (hchunks : c'.stage.chunks = []) : Uploading sizes read c' := by
  have htype := (closeFrame_payload hframe).1
  have hdata : uploaded c'.flow.sent = uploaded c.flow.sent := by
    rw [hsent, uploaded_append, uploaded_of_ne (by simp [htype]), List.append_nil]
  have hread : uploaded c.flow.sent = read := by simpa using h.sent _ hheld
  refine ⟨fun hstageEarly => ?_, fun rest hrest => ?_, hdata ▸ h.isPrefix, ?_, by simp [hchunks],
    ?_⟩
  · cases hearly.symm.trans hstageEarly
  · obtain hnone | hsome := hheld'
    · cases hnone.symm.trans hrest
    · cases hsome.symm.trans hrest
      rw [hdata, List.append_nil, hread]
  · rw [hsent, hpast]
    exact sized_append h.sized (by simp [htype])
  · rw [hsent, each_append_iff]
    refine ⟨each_no_close (h.no_close hopen), each_cons (fun _ => ?_) each_nil⟩
    rw [List.append_nil]
    exact ⟨hread, hover⟩

theorem Uploading.sendError (h : Uploading sizes read c) (written : Bool) (result : SocksResult) :
    Uploading sizes read ((c.sendClose tcpCloseError written).1.goto (.returned result)) := by
  obtain ⟨route, hfailed⟩ | ⟨frame, hframe, hsent⟩ :=
    send_cases c (FlowProtocol.tcp.closeFrame c.flow.flowId tcpCloseError) written
  · rw [sendClose, hfailed]
    exact h.kept ⟨rfl, rfl, nofun, .inl rfl, .inl rfl, fun hover => ⟨hover.1, rfl⟩⟩
  · rw [sendClose, hsent]
    have htype := (closeFrame_payload hframe).1
    have hdata : uploaded [frame] = [] := uploaded_of_ne (by simp [htype])
    refine ⟨nofun, nofun, ?_, sized_append h.sized (by simp [htype]), nofun, ?_⟩
    · simpa [goto, sending, hdata] using h.isPrefix
    · refine each_append (fun before other after heq hclose => ?_)
        (each_cons (fun hclose => absurd hclose (not_normalClose_error hframe)) each_nil)
      obtain ⟨hread, hover⟩ := h.close before other after heq hclose
      exact ⟨hread, hover.1, rfl⟩

theorem Uploading.replace (h : Uploading sizes read c) (hearly : c.stage.early = true)
    (hdata : ∀ frame ∈ c'.flow.sent, frame.header.frameType = .tcpOpen)
    (hheld : c'.held = none ∨ c'.held = c.held) (hchunks : c'.stage.chunks = []) :
    Uploading sizes read c' := by
  have hnone : uploaded c'.flow.sent = [] := by
    rw [uploaded, List.flatMap_eq_nil_iff]
    intro frame hmem
    simp [hdata frame hmem]
  refine ⟨fun _ => hnone, fun rest hrest => ?_, by simp [hnone], ?_, by simp [hchunks],
    each_no_close fun frame hmem => not_normalClose (by simp [hdata frame hmem])⟩
  · obtain hgone | hsame := hheld
    · cases hgone.symm.trans hrest
    · rw [hnone, ← h.early hearly]
      exact h.sent rest (hsame ▸ hrest)
  · intro frame hmem htcp
    simp [hdata frame hmem] at htcp

theorem Uploading.leave {stage : RelayStage} (h : Uploading sizes read c) (hopen : ¬c.Over)
    (hearly : stage.early = true → c.stage.early = true)
    (hheld : stage.held c.pendingLocalData = none ∨ stage.held c.pendingLocalData = c.held)
    (hchunks : stage.chunks = []) : Uploading sizes read (c.goto stage) :=
  h.kept ⟨rfl, rfl, hearly, hheld, .inl hchunks, fun hover => absurd hover hopen⟩

theorem Uploading.attemptFailed (h : Uploading sizes read c) (hearly : c.stage.early = true)
    (hopen : ¬c.Over) (hheld : c.held = some c.pendingLocalData.flatten) (attempt : Nat) :
    Uploading sizes read (c.attemptFailed attempt) := by
  unfold RelayConn.attemptFailed
  split
  · refine h.replace hearly (by simp) (.inr ?_) rfl
    exact hheld.symm
  · exact h.leave hopen nofun (.inl rfl) rfl

theorem Uploading.connecting (h : Uploading sizes read c) (hstage : c.stage = .connecting attempt)
    (params : RelayParams) (input : RelayInput) :
    Uploading sizes read (c.connecting params attempt input) := by
  have hopen := not_over_at hstage rfl
  have hearly : c.stage.early = true := by rw [hstage]; rfl
  have hheld : c.held = some c.pendingLocalData.flatten := held_at hstage
  cases input with
  | openSent flowId =>
    simp only [RelayConn.connecting]
    split
    · exact h.attemptFailed hearly hopen hheld attempt
    · rename_i frame hframe
      obtain ⟨payload, -, hnew⟩ := bind_eq_ok.mp hframe
      refine h.replace hearly (fun other hmem => ?_) (.inr hheld.symm) rfl
      obtain rfl := List.mem_singleton.mp hmem
      exact (frame_new_ok hnew).1
  | refuse => exact h.leave hopen nofun (.inl rfl) rfl
  | fail => exact h.attemptFailed hearly hopen hheld attempt
  | observe =>
    simp only [RelayConn.connecting]
    split
    · exact h.leave hopen nofun (.inl rfl) rfl
    · exact h
  | _ => exact h

theorem Uploading.opening (h : Uploading sizes read c) (hstage : c.stage = .opening attempt)
    (params : RelayParams) (input : RelayInput) :
    Uploading sizes (read ++ c.reads params input) (c.opening params attempt input) := by
  have hopen := not_over_at hstage rfl
  have hearly : c.stage.early = true := by rw [hstage]; rfl
  have hheld : c.held = some c.pendingLocalData.flatten := held_at hstage
  have hpop : Uploading sizes read c.pop :=
    h.kept ⟨rfl, rfl, id, .inr rfl, .inr rfl, id⟩
  cases input with
  | read bytes =>
    simp only [RelayConn.opening, readPending, reads, hstage]
    split
    · rename_i hnil
      simp only [hnil, List.take_nil, List.append_nil]
      exact h.leave hopen nofun (.inl rfl) rfl
    split
    · rename_i hfull
      simp only [Nat.sub_eq_zero_of_le hfull, Nat.min_zero, List.take_zero, List.append_nil]
      exact h.leave hopen nofun (.inl rfl) rfl
    · refine h.took hopen rfl rfl (fun _ => hearly) hheld ?_ ?_
      · simp [held, RelayStage.held]
      · simp [RelayStage.chunks]
  | receive =>
    simp only [RelayConn.opening, reads, List.append_nil]
    split
    · split
      · exact h.attemptFailed hearly hopen hheld attempt
      · exact h
    split
    · exact hpop.leave hopen (fun _ => hearly) (.inr hheld.symm) rfl
    · exact hpop.leave hopen nofun (.inl rfl) rfl
    · exact hpop.attemptFailed hearly hopen hheld attempt
  | fail =>
    simp only [RelayConn.opening, reads, List.append_nil]
    exact h.leave hopen nofun (.inl rfl) rfl
  | observe =>
    simp only [RelayConn.opening, reads, List.append_nil]
    split
    · exact h.leave hopen nofun (.inl rfl) rfl
    · exact h
  | expire =>
    simp only [RelayConn.opening, reads, List.append_nil]
    exact h.leave hopen nofun (.inl rfl) rfl
  | _ => simpa only [RelayConn.opening, reads, List.append_nil] using h

theorem sized_chunksOf (hsize : 0 < size) (h : chunk ∈ chunksOf size bytes) : Sized size chunk := by
  have hpieces := (chunksOf_pieces hsize bytes).1
  exact ⟨hpieces.ne_nil hsize h, hpieces.length_le h⟩

section

variable (h : Uploading sizes read c)
include h

theorem Uploading.flushPending (hstage : c.stage = .replying) (hsize : 0 < sizes c.past.length) :
    Uploading sizes read
      (c.flushPending (c.pendingLocalData.flatMap (chunksOf (sizes c.past.length)))) := by
  have hopen := not_over_at hstage rfl
  have hheld : c.held = some c.pendingLocalData.flatten := held_at hstage
  have hflatten : (c.pendingLocalData.flatMap (chunksOf (sizes c.past.length))).flatten =
      c.pendingLocalData.flatten := by
    induction c.pendingLocalData with
    | nil => rfl
    | cons chunk pending ih => simp [ih, (chunksOf_pieces hsize chunk).2]
  have hsized : ∀ chunk ∈ c.pendingLocalData.flatMap (chunksOf (sizes c.past.length)),
      Sized (sizes c.past.length) chunk := by
    intro chunk hmem
    obtain ⟨bytes, -, hchunk⟩ := List.mem_flatMap.mp hmem
    exact sized_chunksOf hsize hchunk
  generalize c.pendingLocalData.flatMap (chunksOf (sizes c.past.length)) = chunks at *
  rw [← List.append_nil read]
  unfold RelayConn.flushPending
  split
  · rename_i hnil
    refine h.took hopen rfl rfl nofun hheld ?_ nofun
    simp [held, goto, RelayStage.held, RelayStage.chunks, ← hflatten, hnil]
  · refine h.took hopen rfl rfl nofun hheld ?_ hsized
    simp [held, goto, RelayStage.held, RelayStage.chunks, ← hflatten]

theorem Uploading.idle (hheld : c.held = some [])
    (hsent : c'.flow.sent = c.flow.sent) (hpast : c'.past = c.past)
    (hopen : c'.localToRemoteOpen = c.localToRemoteOpen) (hidle : c'.stage.idle = true) :
    Uploading sizes read c' := by
  obtain ⟨hearly, hchunks, huploading, hheld'⟩ := RelayStage.of_idle hidle c'.pendingLocalData
  refine h.kept ⟨hsent, hpast, fun hstage => ?_, ?_, .inl hchunks, fun hover => ?_⟩
  · cases hearly.symm.trans hstage
  · rw [hheld]
    exact hheld'
  · exact ⟨hopen.trans hover.1, huploading⟩

theorem Uploading.shutting (hheld : c.held = some [])
    (hsent : c'.flow.sent = c.flow.sent) (hpast : c'.past = c.past)
    (hopen : c'.localToRemoteOpen = c.localToRemoteOpen)
    (hstage : c'.stage = .shuttingLocal c.localToRemoteOpen) : Uploading sizes read c' := by
  cases hupload : c.localToRemoteOpen with
  | false => exact h.idle hheld hsent hpast hopen (by rw [hstage, hupload]; rfl)
  | true =>
    rw [hupload] at hstage
    refine h.kept ⟨hsent, hpast, ?_, .inr ?_, .inl ?_, fun hover => ?_⟩
    · simp [hstage, RelayStage.early]
    · rw [hheld, held, hstage]
      rfl
    · rw [hstage]
      rfl
    · cases hupload.symm.trans hover.1

theorem Uploading.relayFrame (hheld : c.held = some [])
    (frame : Frame) : Uploading sizes read (c.relayFrame frame) := by
  unfold RelayConn.relayFrame
  split
  · split
    · exact h.idle hheld rfl rfl rfl rfl
    split
    · exact h
    · exact h.idle hheld rfl rfl rfl rfl
  · split
    · exact h.idle hheld rfl rfl rfl rfl
    split
    · exact h.idle hheld rfl rfl rfl rfl
    · exact h.shutting hheld rfl rfl rfl rfl
  · split <;> exact h.idle hheld rfl rfl rfl rfl
  · split <;> exact h.idle hheld rfl rfl rfl rfl
  · split <;> exact h.idle hheld rfl rfl rfl rfl
  · exact h.idle hheld rfl rfl rfl rfl

end

theorem not_over_of_open (h : c.localToRemoteOpen = true) : ¬c.Over := by
  rintro ⟨hclosed, -⟩
  cases h.symm.trans hclosed

theorem Uploading.relaying (h : Uploading sizes read c) (hstage : c.stage = .relaying)
    (hsize : params.dataFrameSize = sizes c.past.length) (input : RelayInput) :
    Uploading sizes (read ++ c.reads params input) (c.relaying params input) := by
  have hheld : c.held = some [] := held_at hstage
  cases input with
  | read bytes =>
    simp only [RelayConn.relaying, reads, hstage]
    cases hlocal : c.localToRemoteOpen with
    | false => simpa using h
    | true =>
      have hopen := not_over_of_open hlocal
      simp only [Bool.not_true, Bool.false_eq_true, if_false, if_true]
      split
      · rename_i hnil
        rw [hnil, List.append_nil]
        exact h.leave hopen nofun (.inr hheld.symm) rfl
      · rename_i hne
        refine h.took hopen rfl rfl nofun hheld ?_ fun chunk hmem => ?_
        · simp [held, goto, RelayStage.held, RelayStage.chunks]
        · obtain rfl := List.mem_singleton.mp hmem
          exact ⟨hne, hsize ▸ List.length_take_le _ _⟩
  | observe =>
    simp only [RelayConn.relaying, reads, List.append_nil]
    split
    · split
      · rename_i hlocal
        refine h.kept ⟨rfl, rfl, nofun, .inr ?_, .inl rfl, fun hover => ?_⟩
        · exact hheld.symm
        · exact absurd hover (not_over_of_open hlocal)
      · exact h.idle hheld rfl rfl rfl rfl
    · exact h
  | fail =>
    simp only [RelayConn.relaying, reads, List.append_nil]
    split
    · exact h.idle hheld rfl rfl rfl rfl
    · exact h
  | receive =>
    simp only [RelayConn.relaying, reads, List.append_nil]
    split
    · split
      · exact h.idle hheld rfl rfl rfl rfl
      · exact h
    · have hpop : Uploading sizes read c.pop := h.kept ⟨rfl, rfl, id, .inr rfl, .inr rfl, id⟩
      exact hpop.relayFrame hheld _
  | _ => simpa only [RelayConn.relaying, reads, List.append_nil] using h

theorem Uploading.writing (h : Uploading sizes read c)
    (hstage : c.stage = .writing rest shuttingDown) (input : RelayInput) :
    Uploading sizes read (c.writing rest shuttingDown input) := by
  have hheld : c.held = some [] := held_at hstage
  unfold RelayConn.writing
  repeat' split
  all_goals first
    | exact h
    | exact h.idle hheld rfl rfl rfl rfl

theorem Uploading.drainingUpload {chunks : List Bytes} (h : Uploading sizes read c)
    (hstage : c.stage = .drainingUpload chunks) (hsize : params.dataFrameSize = sizes c.past.length)
    (hpos : 0 < sizes c.past.length) (input : RelayInput) :
    Uploading sizes (read ++ c.reads params input) (c.drainingUpload params chunks input) := by
  have hopen := not_over_at hstage rfl
  have hheld : c.held = some chunks.flatten := held_at hstage
  cases chunks with
  | nil =>
    cases input with
    | read bytes =>
      simp only [RelayConn.drainingUpload, reads, hstage, hsize]
      split
      · rename_i hnil
        rw [hnil, List.append_nil]
        exact h.leave hopen nofun (.inr hheld.symm) rfl
      · refine h.took hopen rfl rfl nofun hheld ?_ fun chunk hmem => sized_chunksOf hpos hmem
        simp [held, goto, RelayStage.held, RelayStage.chunks, (chunksOf_pieces hpos _).2]
    | fail =>
      simp only [RelayConn.drainingUpload, reads, List.append_nil]
      exact h.leave hopen nofun (.inl rfl) rfl
    | expire =>
      simp only [RelayConn.drainingUpload, reads, List.append_nil]
      exact h.leave hopen nofun (.inr hheld.symm) rfl
    | _ => simpa only [RelayConn.drainingUpload, reads, List.append_nil] using h
  | cons chunk chunks =>
    have hreads : c.reads params input = [] := by
      cases input <;> simp [reads, hstage]
    rw [hreads, List.append_nil]
    simp only [RelayConn.drainingUpload]
    split
    · exact h
    · exact h.sendData hopen hheld (by rw [hstage]; rfl) rfl rfl rfl _

section

variable (h : Uploading sizes read c)
include h

theorem Uploading.sendingClose (hstage : c.stage = .sendingClose) (written : Bool) :
    Uploading sizes read (c.sendThen
      (FlowProtocol.tcp.closeFrame c.flow.flowId tcpCloseNormal) written closeUpload) := by
  have hopen := not_over_at hstage rfl
  have hheld : c.held = some [] := held_at hstage
  refine h.sendThen hopen (fun frame hframe => ?_) written
  have hidle : (c.sending frame).closeUpload.stage.idle = true := by
    simp only [closeUpload]
    split <;> rfl
  obtain ⟨hearly, hchunks, huploading, hheld'⟩ :=
    RelayStage.of_idle hidle (c.sending frame).closeUpload.pendingLocalData
  exact h.sendNormal hopen hheld hframe rfl rfl ⟨rfl, huploading⟩ hearly hheld' hchunks

theorem Uploading.closingUpload (hstage : c.stage = .closingUpload) (written : Bool) :
    Uploading sizes read { (c.sendClose tcpCloseNormal written).1 with
      stage := .flushing, localToRemoteOpen := false } := by
  have hopen := not_over_at hstage rfl
  have hheld : c.held = some [] := held_at hstage
  obtain ⟨route, hfailed⟩ | ⟨frame, hframe, hsent⟩ :=
    send_cases c (FlowProtocol.tcp.closeFrame c.flow.flowId tcpCloseNormal) written
  · rw [sendClose, hfailed]
    exact h.kept ⟨rfl, rfl, nofun, .inr hheld.symm, .inl rfl, fun hover => absurd hover hopen⟩
  · rw [sendClose, hsent]
    exact h.sendNormal hopen hheld hframe rfl rfl ⟨rfl, rfl⟩ rfl (.inr rfl) rfl

theorem Uploading.flushing (hstage : c.stage = .flushing) : Uploading sizes read c.flushing := by
  have hheld : c.held = some [] := held_at hstage
  unfold RelayConn.flushing
  split
  · exact h.idle hheld rfl rfl rfl rfl
  split
  · exact h.idle hheld rfl rfl rfl rfl
  split
  · exact h.idle hheld rfl rfl rfl (by simp [pop, hstage, RelayStage.idle])
  · exact h.idle hheld rfl rfl rfl rfl

theorem Uploading.flushingWrite (hstage : c.stage = .flushingWrite rest) (input : RelayInput) :
    Uploading sizes read (c.flushingWrite rest input) := by
  have hheld : c.held = some [] := held_at hstage
  unfold RelayConn.flushingWrite
  repeat' split
  all_goals first
    | exact h
    | exact h.idle hheld rfl rfl rfl rfl

theorem Uploading.shutLocal (hstage : c.stage = .shuttingLocal localOpen) :
    Uploading sizes read (c.shutLocal localOpen) := by
  have hheld : c.held = some [] := held_at hstage
  cases localOpen with
  | true =>
    have hopen := not_over_at hstage rfl
    exact h.kept ⟨rfl, rfl, nofun, .inr hheld.symm, .inl rfl, fun hover => absurd hover hopen⟩
  | false => exact h.kept ⟨rfl, rfl, nofun, .inl rfl, .inl rfl, fun _ => ⟨rfl, rfl⟩⟩

theorem Uploading.go
    (hsize : params.dataFrameSize = sizes c.past.length) (hpos : 0 < sizes c.past.length)
    (input : RelayInput) : Uploading sizes (read ++ c.reads params input) (c.go params input) := by
  have hquiet {stage : RelayStage} (hstage : c.stage = stage) (hnone : stage.reading = false) :
      read ++ c.reads params input = read := by
    subst hstage
    cases input with
    | read bytes =>
      simp only [reads]
      split <;> simp_all [RelayStage.reading]
    | _ => exact List.append_nil read
  unfold RelayConn.go
  split
  case h_1 attempt hstage =>
    rw [hquiet hstage rfl]
    exact h.connecting hstage params input
  case h_2 attempt hstage => exact h.opening hstage params input
  case h_3 result hstage =>
    rw [hquiet hstage rfl]
    split
    · exact h
    · exact h.sendError _ result
  case h_4 hstage =>
    rw [hquiet hstage rfl]
    have hopen := not_over_at hstage rfl
    split
    · exact h
    · rw [hsize]
      exact h.flushPending hstage hpos
    · exact h.leave hopen nofun (.inl rfl) rfl
  case h_5 chunks hstage =>
    rw [hquiet hstage rfl]
    have hopen := not_over_at hstage rfl
    split
    · rename_i chunk chunks written _
      refine h.sendData hopen (by rw [held, hstage]; rfl) (by rw [hstage]; rfl) ?_ ?_ ?_ written
      · split <;> simp_all [RelayStage.chunks]
      · split <;> simp_all [RelayStage.held, RelayStage.chunks]
      · split <;> rfl
    · exact h
  case h_6 hstage => exact h.relaying hstage hsize input
  case h_7 payload hstage =>
    rw [hquiet hstage rfl]
    have hopen := not_over_at hstage rfl
    split
    · exact h
    · refine h.sendData hopen ?_ (by rw [hstage]; rfl) rfl rfl rfl _
      simp [held, hstage, RelayStage.held, RelayStage.chunks]
  case h_8 hstage =>
    rw [hquiet hstage rfl]
    split
    · exact h
    · exact h.sendingClose hstage _
  case h_9 rest shuttingDown hstage =>
    rw [hquiet hstage rfl]
    exact h.writing hstage input
  case h_10 chunks hstage => exact h.drainingUpload hstage hsize hpos input
  case h_11 hstage =>
    rw [hquiet hstage rfl]
    split
    · exact h
    · exact h.closingUpload hstage _
  case h_12 hstage =>
    rw [hquiet hstage rfl]
    split
    · exact h.flushing hstage
    · exact h
  case h_13 rest hstage =>
    rw [hquiet hstage rfl]
    exact h.flushingWrite hstage input
  case h_14 localOpen hstage =>
    rw [hquiet hstage rfl]
    have hheld : c.held = some [] := held_at hstage
    split
    · exact h
    · exact h.shutLocal hstage
    · exact h.idle hheld rfl rfl rfl rfl
  case h_15 result hstage =>
    rw [hquiet hstage rfl]
    split
    · exact h
    · exact h.sendError _ result
  case h_16 hstage =>
    rw [hquiet hstage rfl]
    exact h

theorem Uploading.step
    (hsize : params.dataFrameSize = sizes c.past.length) (hpos : 0 < sizes c.past.length)
    (input : RelayInput) :
    Uploading sizes (read ++ c.reads params input) (c.step params input) := by
  have hsame : ∀ c', Kept c c' → Uploading sizes (read ++ []) c' := by
    intro c' hkept
    rw [List.append_nil]
    exact h.kept hkept
  cases input with
  | deliver frame =>
    refine hsame _ ?_
    simp only [RelayConn.step, deliver]
    split <;> exact ⟨rfl, rfl, id, .inr rfl, .inr rfl, id⟩
  | closeRoute | signalShutdown => exact hsame _ ⟨rfl, rfl, id, .inr rfl, .inr rfl, id⟩
  | _ => exact h.go hsize hpos _

end

end

end RelayConn

open RelayConn

/-- The data frames of a flow carry what was read off the local socket, in order and from the
start, and all of it once the end is announced. -/
theorem upload_is_what_was_read (target : Target) (sessions : Nat → UploadSession)
    (inputs : List RelayInput) :
    let conn := (run (uploadStep target sessions) {} inputs).1
    let read := (run (uploadStep target sessions) {} inputs).2
    uploaded conn.flow.sent <+: read ∧
    (∀ before frame after, conn.flow.sent = before ++ frame :: after → NormalClose frame →
      uploaded before = read) ∧
    ∀ frame ∈ conn.flow.sent, frame.header.frameType = .tcpData →
      frame.payload ≠ [] ∧
        frame.payload.length ≤ (sessions conn.past.length).dataFrameSize := by
  intro conn read
  have hstart : Uploading (fun attempt => (sessions attempt).dataFrameSize) [] {} :=
    ⟨fun _ => rfl, fun held hheld => by cases hheld; rfl, List.prefix_rfl, nofun, nofun, each_nil⟩
  have hend : Uploading (fun attempt => (sessions attempt).dataFrameSize) read conn :=
    run_invariant (Uploading fun attempt => (sessions attempt).dataFrameSize)
      (fun _ c input _ h => h.step rfl (sessions c.past.length).dataFrameSize_pos input)
      hstart (along_true _ inputs)
  exact ⟨hend.isPrefix, fun before frame after heq hclose =>
    (hend.close before frame after heq hclose).1, hend.sized⟩

def sampleConnected : Option ClientSession :=
  ClientSession.connect ⟨8, 16384, 65536, 65536⟩ ⟨[97], .replicate 32 0, 100, [], .replicate 32 0⟩
    (clientSettings ⟨8, 16384, 65536, 65536⟩ false) none

def sampleUpload : UploadSession where
  config := {}
  session := sampleConnected.get (by decide +kernel)
  valid := by decide +kernel
  connected := ⟨_, _, _, _, rfl, (Option.some_get _).symm⟩

/-- The first open is given up after something was read; the second is accepted. -/
def retriedUpload : List RelayInput :=
  [.openSent 1, .read [1, 2], .closeRoute, .receive, .openSent 3,
    .deliver ⟨⟨protocolVersion, .tcpData, 0, 3, 0⟩, []⟩, .receive, .proceed, .proceed,
    .read [3], .proceed, .read [], .proceed]

theorem retried_upload_complete :
    let r := run (uploadStep (.ipv4 ⟨9, 9, 9, 9⟩ 443) fun _ => sampleUpload) {} retriedUpload
    r.1.past.length = 1 ∧ r.2 = [1, 2, 3] ∧ uploaded (r.1.flow.sent.take 3) = r.2 := by
  intro r
  have hsent : r.1.flow.sent =
      r.1.flow.sent.take 3 ++ [⟨⟨protocolVersion, .tcpClose, 0, 3, 2⟩, [0, 0]⟩] := by
    decide +kernel
  refine ⟨by decide +kernel, by decide +kernel, ?_⟩
  exact (upload_is_what_was_read _ _ retriedUpload).2.1 _ _ [] hsent ⟨rfl, by decide +kernel⟩

end UncrownedKing.Client
