import UncrownedKing.Client.TcpRelayLaws

/-!
# What a shutdown leaves unwritten

From the moment the relay observes a shutdown it owes the local socket what is
already queued, up to the first frame that is no data.
-/

namespace UncrownedKing.Client

open Lib Proto

theorem queuedData_append (queue : List Frame) (frame : Frame) :
    queuedData queue <+: queuedData (queue ++ [frame]) := by
  induction queue with
  | nil => exact List.nil_prefix
  | cons first rest ih =>
    simp only [queuedData, List.cons_append, List.takeWhile_cons] at ih ⊢
    split
    · simpa using ih
    · exact List.nil_prefix

theorem queuedData_cons (h : frame.header.frameType = .tcpData) :
    queuedData (frame :: rest) = frame.payload ++ queuedData rest := by
  simp [queuedData, h]

theorem queuedData_cons_of_ne (h : frame.header.frameType ≠ .tcpData) :
    queuedData (frame :: rest) = [] := by
  simp [queuedData, h]

namespace RelayConn

def Pays (c : RelayConn) (owed : Bytes) : Prop :=
  match c.stage with
  | .drainingUpload _ | .closingUpload | .flushing =>
    owed <+: c.written ++ queuedData c.flow.queue
  | .flushingWrite rest => owed <+: c.written ++ rest ++ queuedData c.flow.queue
  | .writing rest true => owed <+: c.written ++ rest
  | .shuttingLocal false => owed <+: c.written
  | .closingError result => result ≠ .relayed
  | .returned .relayed => ∃ written, c.shutAfter = some written ∧ owed <+: written
  | .returned _ => True
  | _ => False

structure Paying (c : RelayConn) : Prop where
  shut : ∀ written, c.shutAfter = some written → written = c.written
  pays : ∀ owed, c.owed = some owed → c.Pays owed

/-- A shutdown noticed inside a write finds no data queued behind it. -/
def QueueEmpty (c : RelayConn) (input : RelayInput) : Prop :=
  c.noticesInWrite input → queuedData c.flow.queue = []

instance : Decidable (QueueEmpty c input) := inferInstanceAs (Decidable (_ → _))

structure SameDebt (c c' : RelayConn) : Prop where
  written : c'.written = c.written
  shutAfter : c'.shutAfter = c.shutAfter
  owed : c'.owed = c.owed

theorem Paying.same (h : Paying c) (hsame : SameDebt c c')
    (hpays : ∀ owed, c.owed = some owed → c.Pays owed → c'.Pays owed) : Paying c' where
  shut written hshut := by
    rw [hsame.written]
    exact h.shut written (hsame.shutAfter ▸ hshut)
  pays owed howed := by
    rw [hsame.owed] at howed
    exact hpays owed howed (h.pays owed howed)

theorem send_sameDebt (c : RelayConn) (frame : ProtocolResult Frame) (sent : Bool) :
    SameDebt c (c.send frame sent).1 := by
  rw [send_other]
  exact ⟨rfl, rfl, rfl⟩

def Unobserved : RelayStage → Prop
  | .connecting _ | .opening _ | .cancelling _ | .replying | .flushingPending _ | .relaying
  | .sendingData _ | .sendingClose | .writing _ false | .shuttingLocal true => True
  | _ => False

theorem Paying.owed_none (h : Paying c) (hstage : Unobserved c.stage) : c.owed = none := by
  refine Option.eq_none_iff_forall_ne_some.mpr fun owed howed => ?_
  have hpays := h.pays owed howed
  unfold Pays at hpays
  split at hpays <;> simp_all [Unobserved]

theorem Paying.unobserved (h : Paying c) (hstage : Unobserved c.stage) (hsame : SameDebt c c') :
    Paying c' :=
  h.same hsame fun owed howed => by simp [h.owed_none hstage] at howed

theorem attemptFailed_sameDebt (c : RelayConn) (attempt : Nat) :
    SameDebt c (c.attemptFailed attempt) := by
  unfold attemptFailed
  split <;> exact ⟨rfl, rfl, rfl⟩

theorem connecting_sameDebt (params : RelayParams) (c : RelayConn) (attempt : Nat)
    (input : RelayInput) : SameDebt c (c.connecting params attempt input) := by
  unfold connecting
  repeat' split
  all_goals first
    | exact attemptFailed_sameDebt c attempt
    | exact ⟨rfl, rfl, rfl⟩

theorem opening_sameDebt (params : RelayParams) (c : RelayConn) (attempt : Nat)
    (input : RelayInput) : SameDebt c (c.opening params attempt input) := by
  unfold opening readPending
  dsimp only
  repeat' split
  all_goals first
    | exact attemptFailed_sameDebt c attempt
    | exact ⟨rfl, rfl, rfl⟩
    | exact
        have h := attemptFailed_sameDebt c.pop attempt
        ⟨h.written, h.shutAfter, h.owed⟩

theorem sendThen_sameDebt (hnext : ∀ c', SameDebt c c' → SameDebt c (next c')) :
    SameDebt c (c.sendThen frame sent next) := by
  have hsend := send_sameDebt c frame sent
  unfold sendThen
  split <;> rename_i hresult <;> rw [hresult] at hsend
  · exact hnext _ hsend
  · exact ⟨hsend.written, hsend.shutAfter, hsend.owed⟩

theorem relayFrame_sameDebt (c : RelayConn) (frame : Frame) : SameDebt c (c.relayFrame frame) := by
  unfold relayFrame
  repeat' split
  all_goals exact ⟨rfl, rfl, rfl⟩

theorem Paying.relaying (h : Paying c) (hstage : c.stage = .relaying) (params : RelayParams)
    (input : RelayInput) : Paying (c.relaying params input) := by
  have hunobserved : Unobserved c.stage := by simp [hstage, Unobserved]
  have hsame : ∀ {c'}, SameDebt c c' → Paying c' := h.unobserved hunobserved
  unfold RelayConn.relaying
  split
  · split
    · refine ⟨h.shut, fun owed howed => ?_⟩
      obtain rfl : c.written ++ [] ++ queuedData c.flow.queue = owed := Option.some.inj howed
      cases c.localToRemoteOpen <;> simp [Pays, goto, observed]
    · exact h
  · dsimp only
    repeat' split
    all_goals exact hsame ⟨rfl, rfl, rfl⟩
  · split
    · exact hsame ⟨rfl, rfl, rfl⟩
    · exact h
  · split
    · split
      · exact hsame ⟨rfl, rfl, rfl⟩
      · exact h
    · rename_i frame _ _
      have hframe := relayFrame_sameDebt c.pop frame
      exact hsame ⟨hframe.written, hframe.shutAfter, hframe.owed⟩
  · exact h

theorem paying_write {c : RelayConn} (hshut : ¬c.shutAfter.isSome) (rest : Bytes) (more : Nat)
    (hpays : ∀ owed, c.owed = some owed → ((c.write rest more).goto next).Pays owed) :
    Paying ((c.write rest more).goto next) := by
  refine ⟨fun written hwritten => ?_, hpays⟩
  have hnone : c.shutAfter = some written := hwritten
  simp [hnone] at hshut

theorem write_append (c : RelayConn) (rest : Bytes) (more : Nat) :
    (c.write rest more).written ++ rest.drop (more + 1) = c.written ++ rest := by
  simp [RelayConn.write]

theorem Paying.accept (h : Paying c) (hstage : c.stage = .writing rest shuttingDown) (more : Nat)
    (hcond : QueueEmpty c (.accept more)) :
    Paying (c.writing rest shuttingDown (.accept more)) := by
  have hwritten := write_append c rest more
  have howed : shuttingDown = false → c.owed = none := by
    rintro rfl
    exact h.owed_none (by simp [hstage, Unobserved])
  have hpays : ∀ owed, c.owed = some owed → owed <+: c.written ++ rest := by
    intro owed hsome
    cases shuttingDown with
    | true => simpa [Pays, hstage] using h.pays owed hsome
    | false => simp [howed rfl] at hsome
  simp only [RelayConn.writing]
  split
  · exact h
  · rename_i hshut
    split
    · refine paying_write hshut rest more fun owed hsome => ?_
      cases shuttingDown with
      | true =>
        have hprefix := hpays owed hsome
        rwa [← hwritten] at hprefix
      | false => simp [howed rfl] at hsome
    · rename_i hdone
      have hdone : rest.drop (more + 1) = [] := by simpa using hdone
      rw [hdone, List.append_nil] at hwritten
      split
      · refine paying_write hshut rest more fun owed hsome => ?_
        have hprefix := hpays owed hsome
        rwa [← hwritten] at hprefix
      · rename_i hdown
        have hdown : shuttingDown = false := by simpa using hdown
        split
        · rename_i hshutdown
          have hempty : queuedData c.flow.queue = [] := by
            apply hcond
            simp_all [noticesInWrite]
          refine ⟨fun written hsome => ?_, fun owed hsome => ?_⟩
          · have hnone : c.shutAfter = some written := hsome
            simp [hnone] at hshut
          · obtain rfl : (c.write rest more).written ++ [] ++ queuedData c.flow.queue = owed :=
              Option.some.inj hsome
            simp [Pays, goto, observed, hempty]
        · exact paying_write hshut rest more fun owed hsome => by simp [howed hdown] at hsome

theorem Paying.writing (h : Paying c) (hstage : c.stage = .writing rest shuttingDown)
    (input : RelayInput) (hcond : QueueEmpty c input) :
    Paying (c.writing rest shuttingDown input) := by
  have hfail : Paying (c.goto (.closingError .relayFailed)) :=
    h.same ⟨rfl, rfl, rfl⟩ fun _ _ _ => nofun
  cases input with
  | accept more => exact h.accept hstage more hcond
  | fail => exact hfail
  | observe =>
    simp only [RelayConn.writing]
    split
    · rename_i hnotices
      have hempty : queuedData c.flow.queue = [] := by
        apply hcond
        simp_all [noticesInWrite]
      refine ⟨h.shut, fun owed howed => ?_⟩
      obtain rfl : c.written ++ rest ++ queuedData c.flow.queue = owed := Option.some.inj howed
      simp [Pays, goto, observed, hempty]
    · exact h
  | expire =>
    simp only [RelayConn.writing]
    split
    · exact hfail
    · exact h
  | _ => exact h

theorem Paying.queued (h : Paying c) (hsame : SameDebt c c')
    (hqueue : c'.flow.queue = c.flow.queue)
    (hpays : ∀ owed, c.owed = some owed → owed <+: c.written ++ queuedData c.flow.queue)
    (hstage : (∃ chunks, c'.stage = .drainingUpload chunks) ∨ c'.stage = .closingUpload ∨
      c'.stage = .flushing) : Paying c' := by
  refine h.same hsame fun owed howed _ => ?_
  have hprefix := hpays owed howed
  rw [← hsame.written, ← hqueue] at hprefix
  obtain ⟨chunks, hstage⟩ | hstage | hstage := hstage <;> simpa [Pays, hstage] using hprefix

theorem send_queue (c : RelayConn) (frame : ProtocolResult Frame) (sent : Bool) :
    (c.send frame sent).1.flow.queue = c.flow.queue := by
  unfold send
  repeat' split
  all_goals rfl

section

variable (h : Paying c)
include h

theorem Paying.sendThen (hnext : Paying (next (c.send frame sent).1)) :
    Paying (c.sendThen frame sent next) := by
  have hsend := send_sameDebt c frame sent
  unfold RelayConn.sendThen
  split <;> rename_i hresult
  · rwa [hresult] at hnext
  · rw [hresult] at hsend
    exact h.same ⟨hsend.written, hsend.shutAfter, hsend.owed⟩ fun _ _ _ => nofun

theorem Paying.drainingUpload (hstage : c.stage = .drainingUpload chunks)
    (params : RelayParams) (input : RelayInput) :
    Paying (c.drainingUpload params chunks input) := by
  have hpays : ∀ owed, c.owed = some owed → owed <+: c.written ++ queuedData c.flow.queue :=
    fun owed howed => by simpa [Pays, hstage] using h.pays owed howed
  unfold RelayConn.drainingUpload
  split
  · dsimp only
    split
    · exact h.queued ⟨rfl, rfl, rfl⟩ rfl hpays (.inr (.inl rfl))
    · exact h.queued ⟨rfl, rfl, rfl⟩ rfl hpays (.inl ⟨_, rfl⟩)
  · exact h.same ⟨rfl, rfl, rfl⟩ fun _ _ _ => nofun
  · exact h.queued ⟨rfl, rfl, rfl⟩ rfl hpays (.inr (.inl rfl))
  · exact h
  · rename_i chunk chunks
    split
    · exact h
    · rename_i sent _
      have hsend := send_sameDebt c (tcpDataFrame c.flow.flowId chunk) sent
      exact h.sendThen (h.queued ⟨hsend.written, hsend.shutAfter, hsend.owed⟩
        (send_queue c _ sent) hpays (.inl ⟨_, rfl⟩))

theorem Paying.closingUpload (hstage : c.stage = .closingUpload) (sent : Bool) :
    Paying { (c.sendClose tcpCloseNormal sent).1 with
      stage := .flushing, localToRemoteOpen := false } := by
  have hsend := send_sameDebt c (FlowProtocol.tcp.closeFrame c.flow.flowId tcpCloseNormal) sent
  exact h.queued ⟨hsend.written, hsend.shutAfter, hsend.owed⟩ (send_queue c _ sent)
    (fun owed howed => by simpa [Pays, hstage] using h.pays owed howed) (.inr (.inr rfl))

theorem Paying.flushing (hstage : c.stage = .flushing) : Paying c.flushing := by
  have hpays : ∀ owed, c.owed = some owed → owed <+: c.written ++ queuedData c.flow.queue :=
    fun owed howed => by simpa [Pays, hstage] using h.pays owed howed
  unfold RelayConn.flushing
  split
  · rename_i hqueue
    refine h.same ⟨rfl, rfl, rfl⟩ fun owed howed _ => ?_
    simpa [Pays, goto, hqueue, queuedData] using hpays owed howed
  · rename_i frame waiting hqueue
    rw [hqueue] at hpays
    split
    · rename_i htype
      refine h.same ⟨rfl, rfl, rfl⟩ fun owed howed _ => ?_
      simpa [Pays, goto, pop, queuedData_cons_of_ne htype] using hpays owed howed
    · rename_i htype
      have htype : frame.header.frameType = .tcpData := by simpa using htype
      rw [queuedData_cons htype] at hpays
      split
      · rename_i hempty
        refine h.same ⟨rfl, rfl, rfl⟩ fun owed howed _ => ?_
        simpa [Pays, pop, hstage, hqueue, hempty] using hpays owed howed
      · refine h.same ⟨rfl, rfl, rfl⟩ fun owed howed _ => ?_
        simpa [Pays, goto, pop, hqueue] using hpays owed howed

theorem Paying.flushingWrite (hstage : c.stage = .flushingWrite rest)
    (input : RelayInput) : Paying (c.flushingWrite rest input) := by
  have hpays : ∀ owed, c.owed = some owed →
      owed <+: c.written ++ rest ++ queuedData c.flow.queue :=
    fun owed howed => by simpa [Pays, hstage] using h.pays owed howed
  cases input with
  | accept more =>
    have hwritten := write_append c rest more
    simp only [RelayConn.flushingWrite]
    split
    · exact h
    · rename_i hshut
      split
      · refine paying_write hshut rest more fun owed howed => ?_
        have hprefix := hpays owed howed
        rwa [← hwritten] at hprefix
      · rename_i hdone
        have hdone : rest.drop (more + 1) = [] := by simpa using hdone
        rw [hdone, List.append_nil] at hwritten
        refine paying_write hshut rest more fun owed howed => ?_
        have hprefix := hpays owed howed
        rwa [← hwritten] at hprefix
  | fail => exact h.same ⟨rfl, rfl, rfl⟩ fun _ _ _ => nofun
  | _ => exact h

theorem Paying.shutLocal (hstage : c.stage = .shuttingLocal localOpen) :
    Paying (c.shutLocal localOpen) := by
  have hshut : c.shutAfter.or (some c.written) = some c.written := by
    cases hafter : c.shutAfter with
    | none => rfl
    | some written => simp [h.shut written hafter]
  refine ⟨fun written hwritten => ?_, fun owed howed => ?_⟩
  · simp only [RelayConn.shutLocal, hshut] at hwritten
    exact (Option.some.inj hwritten).symm
  · cases localOpen with
    | true =>
      have hnone : c.owed = none := h.owed_none (by simp [hstage, Unobserved])
      simp [RelayConn.shutLocal, hnone] at howed
    | false =>
      have hprefix : owed <+: c.written := by simpa [Pays, hstage] using h.pays owed howed
      exact ⟨c.written, hshut, hprefix⟩

theorem Paying.go (params : RelayParams) (input : RelayInput)
    (hcond : QueueEmpty c input) : Paying (c.go params input) := by
  unfold RelayConn.go
  split
  case h_1 attempt hstage =>
    exact h.unobserved (by simp [hstage, Unobserved]) (connecting_sameDebt params c attempt input)
  case h_2 attempt hstage =>
    exact h.unobserved (by simp [hstage, Unobserved]) (opening_sameDebt params c attempt input)
  case h_3 result hstage =>
    split
    · exact h
    · rename_i sent _
      have hsend := send_sameDebt c (FlowProtocol.tcp.closeFrame c.flow.flowId tcpCloseError) sent
      exact h.unobserved (by simp [hstage, Unobserved]) ⟨hsend.written, hsend.shutAfter, hsend.owed⟩
  case h_4 hstage =>
    split
    · exact h
    all_goals exact h.unobserved (by simp [hstage, Unobserved]) ⟨rfl, rfl, rfl⟩
  case h_5 chunks hstage =>
    split
    · refine h.unobserved (by simp [hstage, Unobserved]) (sendThen_sameDebt fun c' hsame => ?_)
      exact ⟨hsame.written, hsame.shutAfter, hsame.owed⟩
    · exact h
  case h_6 hstage => exact h.relaying hstage params input
  case h_7 payload hstage =>
    split
    · exact h
    · refine h.unobserved (by simp [hstage, Unobserved]) (sendThen_sameDebt fun c' hsame => ?_)
      exact ⟨hsame.written, hsame.shutAfter, hsame.owed⟩
  case h_8 hstage =>
    split
    · exact h
    · refine h.unobserved (by simp [hstage, Unobserved]) (sendThen_sameDebt fun c' hsame => ?_)
      exact ⟨hsame.written, hsame.shutAfter, hsame.owed⟩
  case h_9 rest shuttingDown hstage => exact h.writing hstage input hcond
  case h_10 chunks hstage => exact h.drainingUpload hstage params input
  case h_11 hstage =>
    split
    · exact h
    · exact h.closingUpload hstage _
  case h_12 hstage =>
    split
    · exact h.flushing hstage
    · exact h
  case h_13 rest hstage => exact h.flushingWrite hstage input
  case h_14 localOpen hstage =>
    split
    · exact h
    · exact h.shutLocal hstage
    · exact h.same ⟨rfl, rfl, rfl⟩ fun _ _ _ => nofun
  case h_15 result hstage =>
    split
    · exact h
    · rename_i sent _
      have hsend := send_sameDebt c (FlowProtocol.tcp.closeFrame c.flow.flowId tcpCloseError) sent
      refine h.same ⟨hsend.written, hsend.shutAfter, hsend.owed⟩ fun owed _ hpays => ?_
      have hresult : result ≠ .relayed := by simpa [Pays, hstage] using hpays
      simp [Pays, goto]
  case h_16 => exact h

theorem Paying.deliver (frame : Frame) : Paying (c.deliver frame) := by
  unfold RelayConn.deliver
  split
  · exact h
  refine h.same ⟨rfl, rfl, rfl⟩ fun owed _ hpays => ?_
  have hqueue := queuedData_append c.flow.queue frame
  unfold Pays at hpays ⊢
  split at hpays <;> simp_all
  all_goals exact hpays.trans (by simpa using hqueue)

theorem Paying.step (params : RelayParams) (input : RelayInput)
    (hcond : QueueEmpty c input) : Paying (c.step params input) := by
  cases input with
  | deliver frame => exact h.deliver frame
  | closeRoute | signalShutdown => exact h.same ⟨rfl, rfl, rfl⟩ fun _ _ hpays => hpays
  | _ => exact h.go params _ hcond

end

end RelayConn

open RelayConn

theorem relayRun_paying (params : RelayParams) (inputs : List RelayInput)
    (h : Along (silent (RelayConn.step params)) QueueEmpty {} inputs) :
    Paying (relayRun params inputs) :=
  run_invariant (fun _ c => Paying c) (fun _ _ input hcond hinv => hinv.step params input hcond)
    ⟨nofun, nofun⟩ h

/-- If every shutdown noticed inside a write finds no data queued, a relay that returns well has
written what it owed. -/
theorem shutdown_flushes_queue (params : RelayParams) (inputs : List RelayInput)
    (h : Along (silent (RelayConn.step params)) QueueEmpty {} inputs) :
    (relayRun params inputs).stage = .returned .relayed →
      ∀ owed, (relayRun params inputs).owed = some owed →
        ∃ written, (relayRun params inputs).shutAfter = some written ∧ owed <+: written := by
  intro hstage owed howed
  simpa [Pays, hstage] using (relayRun_paying params inputs h).pays owed howed

/-- The shutdown is noticed inside the write of the last payload. -/
theorem shutdown_flushes_two_payloads :
    let c := relayRun someRelay [.openSent 1, .deliver ⟨⟨1, .tcpData, 0, 1, 0⟩, []⟩, .receive,
      .proceed, .deliver ⟨⟨1, .tcpData, 0, 1, 3⟩, [1, 2, 3]⟩,
      .deliver ⟨⟨1, .tcpData, 0, 1, 2⟩, [4, 5]⟩, .receive, .accept 0, .accept 1, .receive,
      .accept 0, .signalShutdown, .observe, .accept 0, .proceed]
    c.owed = some [1, 2, 3, 4, 5] ∧
      ∃ written, c.shutAfter = some written ∧ [1, 2, 3, 4, 5] <+: written :=
  ⟨by decide +kernel, shutdown_flushes_queue someRelay _ (by decide +kernel) (by decide +kernel) _
    (by decide +kernel)⟩

/-- The payload in hand is finished; the one behind it is dropped. -/
theorem shutdown_in_write_truncates :
    let c := relayRun someRelay (shutdownInWrite ++ [.observe, .accept 1, .proceed])
    c.stage = .returned .relayed ∧ c.owed = some [1, 2, 3, 4, 5] ∧
      c.shutAfter = some [1, 2, 3] := by
  decide +kernel

end UncrownedKing.Client
