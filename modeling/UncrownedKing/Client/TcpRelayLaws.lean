import UncrownedKing.Client.TcpRelay

/-!
# The end of a relayed TCP flow

No flow that the server may have accepted is left open when the task returns,
unless the shutdown is noticed in `write_all_or_shutdown`.
-/

namespace UncrownedKing.Client

open Lib Proto

def RelayFlow.closeSent (flow : RelayFlow) : Prop :=
  ∃ frame ∈ flow.sent, frame.header.frameType = .tcpClose

/-- The open was sent, and the first frame back, if any, is the empty `TCP_DATA`. -/
structure RelayFlow.Accepted (flow : RelayFlow) : Prop where
  opened : flow.sent ≠ []
  answer : ∀ frame, flow.first = some frame →
    frame.header.frameType = .tcpData ∧ frame.payload = []

/-- The server has been told, has told, or can no longer be told. -/
def RelayFlow.Concluded (flow : RelayFlow) : Prop :=
  flow.closeSent ∨ flow.ended ∨ flow.routeClosed

instance (flow : RelayFlow) : Decidable flow.closeSent :=
  inferInstanceAs (Decidable (∃ frame ∈ flow.sent, _))

instance (flow : RelayFlow) : Decidable flow.Concluded :=
  inferInstanceAs (Decidable (_ ∨ _ ∨ _))

structure RelayFlow.Leads (flow flow' : RelayFlow) : Prop where
  flowId : flow'.flowId = flow.flowId
  sent : ∀ frame ∈ flow.sent, frame ∈ flow'.sent
  ended : flow.ended → flow'.ended
  routeClosed : flow.routeClosed → flow'.routeClosed

theorem RelayFlow.Leads.refl (flow : RelayFlow) : flow.Leads flow :=
  ⟨rfl, fun _ => id, id, id⟩

theorem RelayFlow.Concluded.mono {flow flow' : RelayFlow} (h : flow.Concluded)
    (hleads : flow.Leads flow') : flow'.Concluded := by
  obtain ⟨frame, hmem, htype⟩ | hended | hclosed := h
  · exact .inl ⟨frame, hleads.sent frame hmem, htype⟩
  · exact .inr (.inl (hleads.ended hended))
  · exact .inr (.inr (hleads.routeClosed hclosed))

namespace RelayConn

structure Live (c : RelayConn) : Prop where
  opened : c.flow.sent ≠ []
  encodable : ∃ len, Varint.encodedLen c.flow.flowId = .ok len
  upload : c.localToRemoteOpen = false → c.flow.Concluded

/-- From some stages on the relay is bound to return without another frame. -/
def Settled (c : RelayConn) : Prop :=
  match c.stage with
  | .connecting _ => c.flow.sent = [] ∧ c.localToRemoteOpen
  | .opening _ => c.Live ∧ c.localToRemoteOpen ∧ c.flow.first = c.flow.queue.head?
  | .writing _ true | .flushing | .flushingWrite _ | .shuttingLocal false =>
    c.Live ∧ c.flow.Concluded
  | .returned _ => c.flow.Accepted → c.flow.Concluded
  | _ => c.Live

structure Accounted (c : RelayConn) : Prop where
  past : ∀ flow ∈ c.past, flow.Accepted → flow.Concluded
  settled : c.Settled

def noticesInWrite (c : RelayConn) (input : RelayInput) : Bool :=
  match c.stage, input with
  | .writing _ false, .observe => c.shutdown
  | .writing rest false, .accept more =>
    c.shutdown && c.shutAfter.isNone && (rest.drop (more + 1)).isEmpty
  | _, _ => false

theorem Live.mono (h : Live c) (hleads : c.flow.Leads c'.flow)
    (hopen : c'.localToRemoteOpen = c.localToRemoteOpen) : Live c' where
  opened := by
    obtain ⟨frame, hmem⟩ := List.exists_mem_of_ne_nil _ h.opened
    exact List.ne_nil_of_mem (hleads.sent frame hmem)
  encodable := by simpa [hleads.flowId] using h.encodable
  upload hclosed := (h.upload (hopen ▸ hclosed)).mono hleads

theorem send_leads (c : RelayConn) (frame : ProtocolResult Frame) (written : Bool) :
    c.flow.Leads (c.send frame written).1.flow := by
  unfold send
  repeat' split
  · exact .refl _
  · exact ⟨rfl, fun _ hmem => List.mem_append_left _ hmem, id, id⟩
  · exact ⟨rfl, fun _ => id, id, fun _ => rfl⟩

theorem send_other (c : RelayConn) (frame : ProtocolResult Frame) (written : Bool) :
    (c.send frame written).1 = { c with flow := (c.send frame written).1.flow } := by
  unfold send
  repeat' split
  all_goals rfl

theorem closeFrame_tcp (hid : Varint.encodedLen flowId = .ok len)
    (hcode : isValidCloseCode closeCode) :
    ∃ frame, FlowProtocol.tcp.closeFrame flowId closeCode = .ok frame ∧
      frame.header.frameType = .tcpClose := by
  refine ⟨⟨⟨protocolVersion, .tcpClose, 0, flowId, 2⟩, toBe 2 closeCode.toNat⟩, ?_, rfl⟩
  have hflags : validateFlags 0 = .ok () := by decide
  have hlen : Varint.encodedLen 2 = .ok 1 := by decide
  simp [FlowProtocol.closeFrame, TcpClose.encode, encodeClose, hcode, Frame.new, FrameHeader.new,
    hflags, hid, hlen, length_toBe, bind, Except.bind, pure, Except.pure]

theorem sendClose_concluded (h : Live c) (hcode : isValidCloseCode closeCode) (written : Bool) :
    (c.sendClose closeCode written).1.flow.Concluded := by
  obtain ⟨len, hlen⟩ := h.encodable
  obtain ⟨frame, hframe, htype⟩ := closeFrame_tcp hlen hcode
  cases written with
  | true => exact .inl ⟨frame, by simp [sendClose, send, hframe], htype⟩
  | false => exact .inr (.inr (by simp [sendClose, send, hframe, closeRoute]))

theorem Accounted.sendClose (h : Accounted c) (hlive : Live c)
    (hcode : isValidCloseCode closeCode) (written : Bool) (result : SocksResult) :
    Accounted ((c.sendClose closeCode written).1.goto (.returned result)) := by
  refine ⟨?_, fun _ => sendClose_concluded hlive hcode written⟩
  rw [RelayConn.sendClose, send_other]
  exact h.past

def Plain : RelayStage → Prop
  | .connecting _ | .opening _ | .writing _ true | .flushing | .flushingWrite _
  | .shuttingLocal false | .returned _ => False
  | _ => True

def Ending : RelayStage → Prop
  | .writing _ true | .flushing | .flushingWrite _ | .shuttingLocal false => True
  | _ => False

theorem settled_of_live (hstage : Plain c.stage) (h : Live c) : c.Settled := by
  unfold Settled
  split <;> simp_all [Plain]

section

variable (h : Accounted c)
include h

theorem Accounted.plain (hlive : Live c') (hpast : c'.past = c.past)
    (hstage : Plain c'.stage) : Accounted c' :=
  ⟨by simpa [hpast] using h.past, settled_of_live hstage hlive⟩

theorem Accounted.live (hstage : Plain c.stage) : Live c := by
  have hsettled := h.settled
  unfold Settled at hsettled
  split at hsettled <;> simp_all [Plain]

theorem Accounted.ending (hlive : Live c') (hconcluded : c'.flow.Concluded)
    (hpast : c'.past = c.past) (hstage : Ending c'.stage) : Accounted c' := by
  refine ⟨by simpa [hpast] using h.past, ?_⟩
  unfold Settled
  split <;> simp_all [Ending]

theorem Accounted.of_ending (hstage : Ending c.stage) : Live c ∧ c.flow.Concluded := by
  have hsettled := h.settled
  unfold Settled at hsettled
  split at hsettled <;> simp_all [Ending]

theorem Accounted.sendData (hlive : Live c) (frame : ProtocolResult Frame)
    (written : Bool) (hnext : Plain next) : Accounted ((c.send frame written).1.goto next) := by
  refine h.plain (hlive.mono (send_leads c frame written) ?_) ?_ hnext
  all_goals
    rw [goto, send_other]

theorem Accounted.sendThen (hlive : Live c) (hnext : Accounted (next (c.send frame sent).1)) :
    Accounted (c.sendThen frame sent next) := by
  have hfail : Accounted ((c.send frame sent).1.goto (.closingError .relayFailed)) :=
    h.sendData hlive frame sent trivial
  unfold RelayConn.sendThen
  split
  · rename_i hsend
    rwa [hsend] at hnext
  · rename_i hsend
    rwa [hsend] at hfail

end

theorem accounted_attemptFailed {c : RelayConn}
    (hpast : ∀ flow ∈ c.past, flow.Accepted → flow.Concluded)
    (hflow : c.flow.Accepted → c.flow.Concluded) (hopen : c.localToRemoteOpen) (attempt : Nat) :
    Accounted (c.attemptFailed attempt) := by
  unfold RelayConn.attemptFailed
  split
  · refine ⟨fun flow hmem => ?_, rfl, hopen⟩
    obtain rfl | hold := List.mem_cons.mp hmem
    · exact hflow
    · exact hpast flow hold
  · exact ⟨hpast, hflow⟩

theorem encodable_of_openFrame (h : FlowProtocol.tcp.openFrame flowId target = .ok frame) :
    ∃ len, Varint.encodedLen flowId = .ok len := by
  obtain ⟨payload, -, hnew⟩ := bind_eq_ok.mp h
  obtain ⟨header, hheader, -⟩ := bind_eq_ok.mp hnew
  obtain ⟨-, -, hheader⟩ := bind_eq_ok.mp hheader
  obtain ⟨len, hlen, -⟩ := bind_eq_ok.mp hheader
  exact ⟨len, hlen⟩

theorem Accounted.connecting (h : Accounted c) (hstage : c.stage = .connecting attempt)
    (params : RelayParams) (input : RelayInput) :
    Accounted (c.connecting params attempt input) := by
  obtain ⟨hsent, hopen⟩ : c.flow.sent = [] ∧ c.localToRemoteOpen := by
    simpa [Settled, hstage] using h.settled
  have hflow : c.flow.Accepted → c.flow.Concluded := fun haccepted =>
    absurd hsent haccepted.opened
  unfold RelayConn.connecting
  split
  · split
    · exact accounted_attemptFailed h.past hflow hopen attempt
    · rename_i flowId frame hframe
      refine ⟨h.past, ⟨by simp, encodable_of_openFrame hframe, ?_⟩, hopen, rfl⟩
      simp [hopen]
  · exact ⟨h.past, hflow⟩
  · exact accounted_attemptFailed h.past hflow hopen attempt
  · split
    · exact ⟨h.past, hflow⟩
    · exact h
  · exact h

theorem not_accepted_of_first {flow : RelayFlow} (hfirst : flow.first = some frame)
    (h : decodeOpenResponse frame ≠ .ok .accepted) : ¬flow.Accepted := by
  intro haccepted
  refine h ?_
  simp [decodeOpenResponse, decodeResponse, haccepted.answer frame hfirst]

theorem Accounted.opening (h : Accounted c) (hstage : c.stage = .opening attempt)
    (params : RelayParams) (input : RelayInput) :
    Accounted (c.opening params attempt input) := by
  obtain ⟨hlive, hopen, hfirst⟩ : c.Live ∧ c.localToRemoteOpen ∧
      c.flow.first = c.flow.queue.head? := by
    simpa [Settled, hstage] using h.settled
  have hcancel : ∀ result, Accounted (c.goto (.cancelling result)) := fun result =>
    h.plain (hlive.mono (.refl _) rfl) rfl trivial
  unfold RelayConn.opening
  split
  · split
    · split
      · rename_i hclosed
        exact accounted_attemptFailed h.past (fun _ => .inr (.inr hclosed)) hopen attempt
      · exact h
    · rename_i frame rest hqueue
      have hfirst : c.flow.first = some frame := by simp [hfirst, hqueue]
      have hpop : c.flow.Leads c.pop.flow := ⟨rfl, fun _ => id, id, id⟩
      split
      · exact h.plain (hlive.mono hpop rfl) rfl trivial
      · rename_i hdecode
        refine ⟨h.past, fun haccepted => ?_⟩
        exact absurd haccepted (not_accepted_of_first hfirst (by simp [hdecode]))
      · rename_i hdecode
        refine accounted_attemptFailed (c := c.pop) h.past (fun haccepted => ?_) hopen attempt
        exact absurd haccepted (not_accepted_of_first hfirst (by simp [hdecode]))
  · unfold readPending
    dsimp only
    split
    · exact hcancel _
    · split
      · exact hcancel _
      · refine ⟨h.past, ?_⟩
        simpa [Settled, hstage] using ⟨hlive.mono (.refl _) rfl, hopen, hfirst⟩
  · exact hcancel _
  · split
    · exact hcancel _
    · exact h
  · exact hcancel _
  · exact h

theorem Accounted.relayFrame (h : Accounted c) (hlive : Live c) (frame : Frame) :
    Accounted (c.relayFrame frame) := by
  have hfail : Accounted (c.goto (.closingError .relayFailed)) :=
    h.plain (hlive.mono (.refl _) rfl) rfl trivial
  have hended : Accounted
      { c with stage := .shuttingLocal false, flow := { c.flow with ended := true } } :=
    h.ending (hlive.mono ⟨rfl, fun _ => id, fun _ => rfl, id⟩ rfl) (.inr (.inl rfl)) rfl trivial
  unfold RelayConn.relayFrame
  split
  · split
    · exact hfail
    · split
      · exact h
      · exact h.plain (hlive.mono (.refl _) rfl) rfl trivial
  · split
    · exact hfail
    · split
      · exact hended
      · cases hopen : c.localToRemoteOpen with
        | true => exact h.plain (hlive.mono (.refl _) rfl) rfl trivial
        | false => exact h.ending (hlive.mono (.refl _) rfl) (hlive.upload hopen) rfl trivial
  iterate 3
    · split
      · exact hfail
      · exact hended
  · exact hfail

theorem Accounted.relaying (h : Accounted c) (hstage : c.stage = .relaying)
    (params : RelayParams) (input : RelayInput) : Accounted (c.relaying params input) := by
  have hlive : Live c := h.live (by simp [hstage, Plain])
  have hgoto : ∀ next, Plain next → Accounted (c.goto next) := fun next hnext =>
    h.plain (hlive.mono (.refl _) rfl) rfl hnext
  unfold RelayConn.relaying
  split
  · split
    · cases hopen : c.localToRemoteOpen with
      | true => exact h.plain (hlive.mono (.refl _) rfl) rfl trivial
      | false => exact h.ending (hlive.mono (.refl _) rfl) (hlive.upload hopen) rfl trivial
    · exact h
  · dsimp only
    repeat' split
    · exact h
    · exact hgoto _ trivial
    · exact hgoto _ trivial
  · split
    · exact hgoto _ trivial
    · exact h
  · split
    · split
      · rename_i hclosed
        exact h.ending (hlive.mono (.refl _) rfl) (.inr (.inr hclosed)) rfl trivial
      · exact h
    · have hpop : Live c.pop := hlive.mono ⟨rfl, fun _ => id, id, id⟩ rfl
      exact (h.plain hpop rfl (by simp [pop, hstage, Plain])).relayFrame hpop _
  · exact h

/-- A shutdown noticed inside a write finds the upload already closed. -/
def UploadClosed (c : RelayConn) (input : RelayInput) : Prop :=
  c.noticesInWrite input → c.localToRemoteOpen = false

instance : Decidable (UploadClosed c input) := inferInstanceAs (Decidable (_ → _))

section

variable (h : Accounted c)
include h

theorem Accounted.writing (hstage : c.stage = .writing rest shuttingDown)
    (input : RelayInput) (hcond : UploadClosed c input) :
    Accounted (c.writing rest shuttingDown input) := by
  have hlive : Live c := by
    cases shuttingDown with
    | true => exact (h.of_ending (by simp [hstage, Ending])).1
    | false => exact h.live (by simp [hstage, Plain])
  have hfail : Accounted (c.goto (.closingError .relayFailed)) :=
    h.plain (hlive.mono (.refl _) rfl) rfl trivial
  -- once the shutdown is noticed the flow is concluded
  have hnoticed : shuttingDown ∨ c.noticesInWrite input → c.flow.Concluded := by
    rintro (rfl | hnotices)
    · exact (h.of_ending (by simp [hstage, Ending])).2
    · exact hlive.upload (hcond hnotices)
  unfold RelayConn.writing
  split
  · rename_i more
    split
    · exact h
    · rename_i hshut
      split
      · cases shuttingDown with
        | true => exact h.ending (hlive.mono (.refl _) rfl) (hnoticed (.inl rfl)) rfl trivial
        | false => exact h.plain (hlive.mono (.refl _) rfl) rfl trivial
      · rename_i hdone
        split
        · rename_i hdown
          exact h.ending (hlive.mono (.refl _) rfl) (hnoticed (.inl hdown)) rfl trivial
        · rename_i hdown
          split
          · rename_i hshutdown
            refine h.ending (hlive.mono (.refl _) rfl) (hnoticed (.inr ?_)) rfl trivial
            simp_all [noticesInWrite]
          · exact h.plain (hlive.mono (.refl _) rfl) rfl trivial
  · exact hfail
  · split
    · rename_i hnotices
      refine h.ending (hlive.mono (.refl _) rfl) (hnoticed (.inr ?_)) rfl trivial
      simp_all [noticesInWrite]
    · exact h
  · split
    · exact hfail
    · exact h
  · exact h

theorem Accounted.drainingUpload (hstage : c.stage = .drainingUpload chunks)
    (params : RelayParams) (input : RelayInput) :
    Accounted (c.drainingUpload params chunks input) := by
  have hlive : Live c := h.live (by simp [hstage, Plain])
  have hgoto : ∀ next, Plain next → Accounted (c.goto next) := fun next hnext =>
    h.plain (hlive.mono (.refl _) rfl) rfl hnext
  unfold RelayConn.drainingUpload
  split
  · dsimp only
    split <;> exact hgoto _ trivial
  · exact hgoto _ trivial
  · exact hgoto _ trivial
  · exact h
  · split
    · exact h
    · refine h.sendThen hlive (h.sendData hlive _ _ ?_)
      trivial

theorem Accounted.flushing (hstage : c.stage = .flushing) : Accounted c.flushing := by
  obtain ⟨hlive, hconcluded⟩ := h.of_ending (by simp [hstage, Ending])
  have hpop : c.flow.Leads c.pop.flow := ⟨rfl, fun _ => id, id, id⟩
  unfold RelayConn.flushing
  split
  · exact h.ending (hlive.mono (.refl _) rfl) hconcluded rfl trivial
  · repeat' split
    · exact h.ending (hlive.mono hpop rfl) (hconcluded.mono hpop) rfl trivial
    · exact h.ending (hlive.mono hpop rfl) (hconcluded.mono hpop) rfl (by simp [pop, hstage, Ending])
    · exact h.ending (hlive.mono hpop rfl) (hconcluded.mono hpop) rfl trivial

theorem Accounted.flushingWrite (hstage : c.stage = .flushingWrite rest)
    (input : RelayInput) : Accounted (c.flushingWrite rest input) := by
  obtain ⟨hlive, hconcluded⟩ := h.of_ending (by simp [hstage, Ending])
  unfold RelayConn.flushingWrite
  split
  · repeat' split
    · exact h
    · exact h.ending (hlive.mono (.refl _) rfl) hconcluded rfl trivial
    · exact h.ending (hlive.mono (.refl _) rfl) hconcluded rfl trivial
  · exact h.plain (hlive.mono (.refl _) rfl) rfl trivial
  · exact h

theorem Accounted.shutLocal (hstage : c.stage = .shuttingLocal localOpen) :
    Accounted (c.shutLocal localOpen) := by
  cases localOpen with
  | true =>
    have hlive : Live c := h.live (by simp [hstage, Plain])
    exact h.plain ⟨hlive.opened, hlive.encodable, by simp [RelayConn.shutLocal]⟩ rfl trivial
  | false => exact ⟨h.past, fun _ => (h.of_ending (by simp [hstage, Ending])).2⟩

theorem Accounted.closedUpload (hlive : Live c) (written : Bool)
    (hstage : Plain next ∨ Ending next ∨ next = .returned .relayed) :
    Accounted { (c.sendClose tcpCloseNormal written).1 with
      stage := next, localToRemoteOpen := false } := by
  have hconcluded : (c.sendClose tcpCloseNormal written).1.flow.Concluded :=
    sendClose_concluded hlive (by decide) written
  have hsent : Live (c.sendClose tcpCloseNormal written).1 :=
    hlive.mono (send_leads c _ written) (by rw [RelayConn.sendClose, send_other])
  have hpast : (c.sendClose tcpCloseNormal written).1.past = c.past := by
    rw [RelayConn.sendClose, send_other]
  obtain hplain | hending | rfl := hstage
  · exact h.plain ⟨hsent.opened, hsent.encodable, fun _ => hconcluded⟩ hpast hplain
  · exact h.ending ⟨hsent.opened, hsent.encodable, fun _ => hconcluded⟩ hconcluded hpast hending
  · exact ⟨by simpa [hpast] using h.past, fun _ => hconcluded⟩

theorem Accounted.go (params : RelayParams) (input : RelayInput)
    (hcond : UploadClosed c input) : Accounted (c.go params input) := by
  unfold RelayConn.go
  split
  case h_1 attempt hstage => exact h.connecting hstage params input
  case h_2 attempt hstage => exact h.opening hstage params input
  case h_3 result hstage =>
    split
    · exact h
    · exact h.sendClose (h.live (by simp [hstage, Plain])) (by decide) _ result
  case h_4 hstage =>
    have hlive := h.live (by simp [hstage, Plain])
    split
    · exact h
    · unfold flushPending
      refine h.plain (hlive.mono (.refl _) rfl) rfl ?_
      simp only [goto]
      split <;> trivial
    · exact h.plain (hlive.mono (.refl _) rfl) rfl trivial
  case h_5 chunks hstage =>
    have hlive := h.live (by simp [hstage, Plain])
    split
    · refine h.sendThen hlive (h.sendData hlive _ _ ?_)
      split <;> trivial
    · exact h
  case h_6 hstage => exact h.relaying hstage params input
  case h_7 payload hstage =>
    have hlive := h.live (by simp [hstage, Plain])
    split
    · exact h
    · refine h.sendThen hlive (h.sendData hlive _ _ ?_)
      trivial
  case h_8 hstage =>
    split
    · exact h
    · have hlive := h.live (by simp [hstage, Plain])
      refine h.sendThen hlive (h.closedUpload hlive _ ?_)
      split
      · exact .inl trivial
      · exact .inr (.inr rfl)
  case h_9 rest shuttingDown hstage => exact h.writing hstage input hcond
  case h_10 chunks hstage => exact h.drainingUpload hstage params input
  case h_11 hstage =>
    split
    · exact h
    · exact h.closedUpload (h.live (by simp [hstage, Plain])) _ (.inr (.inl trivial))
  case h_12 hstage =>
    split
    · exact h.flushing hstage
    · exact h
  case h_13 rest hstage => exact h.flushingWrite hstage input
  case h_14 localOpen hstage =>
    split
    · exact h
    · exact h.shutLocal hstage
    · have hlive : Live c := by
        cases localOpen with
        | true => exact h.live (by simp [hstage, Plain])
        | false => exact (h.of_ending (by simp [hstage, Ending])).1
      exact h.plain (hlive.mono (.refl _) rfl) rfl trivial
  case h_15 result hstage =>
    split
    · exact h
    · exact h.sendClose (h.live (by simp [hstage, Plain])) (by decide) _ result
  case h_16 => exact h

end

theorem Accounted.elsewhere {c' : RelayConn} (h : Accounted c) (hstage : c'.stage = c.stage)
    (hpast : c'.past = c.past) (hopen : c'.localToRemoteOpen = c.localToRemoteOpen)
    (hleads : c.flow.Leads c'.flow) (hsent : c'.flow.sent = c.flow.sent)
    (hfirst : c.flow.first = c.flow.queue.head? → c'.flow.first = c'.flow.queue.head?)
    (haccepted : c'.flow.Accepted → c.flow.Accepted) : Accounted c' := by
  refine ⟨by simpa [hpast] using h.past, ?_⟩
  have hsettled := h.settled
  unfold Settled at hsettled ⊢
  rw [hstage]
  split at hsettled
  · simpa [hsent, hopen] using hsettled
  · obtain ⟨hlive, hlocal, hqueue⟩ := hsettled
    exact ⟨hlive.mono hleads hopen, by simpa [hopen] using hlocal, hfirst hqueue⟩
  iterate 4
    · exact ⟨hsettled.1.mono hleads hopen, hsettled.2.mono hleads⟩
  · exact fun h => (hsettled (haccepted h)).mono hleads
  · exact hsettled.mono hleads hopen

theorem Accounted.deliver (h : Accounted c) (frame : Frame) : Accounted (c.deliver frame) := by
  unfold RelayConn.deliver
  split
  · exact h
  · refine h.elsewhere rfl rfl rfl ⟨rfl, fun _ => id, id, id⟩ rfl (fun hfirst => ?_) fun hafter => ?_
    · simp [hfirst, List.head?_append]
    · exact ⟨hafter.opened, fun first hfirst => hafter.answer first (by simp [hfirst])⟩

theorem Accounted.closeRoute (h : Accounted c) : Accounted c.closeRoute :=
  h.elsewhere rfl rfl rfl ⟨rfl, fun _ => id, id, fun _ => rfl⟩ rfl id
    fun hafter => ⟨hafter.opened, hafter.answer⟩

theorem Accounted.step (h : Accounted c) (params : RelayParams) (input : RelayInput)
    (hcond : UploadClosed c input) : Accounted (c.step params input) := by
  unfold RelayConn.step
  split
  · exact h.deliver _
  · exact h.closeRoute
  · exact h.elsewhere rfl rfl rfl (.refl _) rfl id id
  · exact h.go params input hcond

theorem Accounted.start : Accounted {} := ⟨by simp, rfl, rfl⟩

end RelayConn

open RelayConn

theorem relayRun_accounted (params : RelayParams) (inputs : List RelayInput)
    (h : Along (silent (RelayConn.step params)) UploadClosed {} inputs) :
    Accounted (relayRun params inputs) :=
  run_invariant (fun _ c => Accounted c) (fun _ _ input hcond hinv => hinv.step params input hcond)
    .start h

/-- When the task returns, every flow the server may have accepted is closed on its side too, or
beyond the client's reach. -/
theorem flows_concluded (params : RelayParams) (inputs : List RelayInput)
    (h : Along (silent (RelayConn.step params)) UploadClosed {} inputs) :
    ∀ result, (relayRun params inputs).stage = .returned result →
      ∀ flow ∈ (relayRun params inputs).flow :: (relayRun params inputs).past,
        flow.Accepted → flow.Concluded := by
  intro result hstage flow hmem
  have hinv := relayRun_accounted params inputs h
  obtain rfl | hold := List.mem_cons.mp hmem
  · simpa [Settled, hstage] using hinv.settled
  · exact hinv.past flow hold

def someRelay : RelayParams := ⟨.ipv4 (.new 192 0 2 1) 80, 1024, 65536⟩

/-- The relay has written one byte of a payload when the shutdown is signalled. -/
def shutdownInWrite : List RelayInput :=
  [.openSent 1, .deliver ⟨⟨1, .tcpData, 0, 1, 0⟩, []⟩, .receive, .proceed,
    .deliver ⟨⟨1, .tcpData, 0, 1, 3⟩, [1, 2, 3]⟩, .deliver ⟨⟨1, .tcpData, 0, 1, 2⟩, [4, 5]⟩,
    .receive, .accept 0, .signalShutdown]

/-- The upload has ended when the shutdown is noticed inside a write. -/
theorem flows_concluded_after_eof :
    let inputs : List RelayInput := [.openSent 1, .deliver ⟨⟨1, .tcpData, 0, 1, 0⟩, []⟩, .receive,
      .proceed, .read [], .proceed, .deliver ⟨⟨1, .tcpData, 0, 1, 3⟩, [1, 2, 3]⟩, .receive,
      .accept 0, .signalShutdown, .observe, .accept 1, .proceed]
    (relayRun someRelay inputs).stage = .returned .relayed ∧
      (relayRun someRelay inputs).flow.Concluded := by
  refine ⟨by decide +kernel, flows_concluded someRelay _ (by decide +kernel) .relayed
    (by decide +kernel) _ List.mem_cons_self ⟨by decide +kernel, fun frame hframe => ?_⟩⟩
  cases hframe
  exact ⟨rfl, rfl⟩

/-- The task returns and the server is never told. -/
theorem shutdown_in_write_orphans_flow :
    let c := relayRun someRelay (shutdownInWrite ++ [.observe, .accept 1, .proceed])
    c.stage = .returned .relayed ∧ c.flow.Accepted ∧ ¬c.flow.Concluded := by
  refine ⟨by decide +kernel, ⟨by decide +kernel, fun frame hframe => ?_⟩, by decide +kernel⟩
  cases hframe
  exact ⟨rfl, rfl⟩

end UncrownedKing.Client
