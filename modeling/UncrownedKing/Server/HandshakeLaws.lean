import UncrownedKing.Server.Handshake
import UncrownedKing.Server.MaskingLaws
import UncrownedKing.Server.ReloadLaws

/-!
# What a handler reports

A failed verification answers the peer before it fails; the handshake's deadline
goes on meanwhile and decides whether the failure is counted.
-/

namespace UncrownedKing.Server

open Lib Net Proto Auth Mask Timed

def ConnectionEvent.OfHandshake : ConnectionEvent → Prop
  | .accept _ | .sent _ | .verifyFailed _ => True
  | _ => False

def ConnectionEvent.VerifyFailed : ConnectionEvent → Prop
  | .verifyFailed _ => True
  | _ => False

open ConnectionEvent (OfHandshake VerifyFailed)

variable {crypto : Crypto} {world : World} {config : ServerConfig} {P : ConnectionEvent → Prop}

theorem only_mapErr {x : Except ε α} {f : ε → AnyError} : Only P (mapErr x f).run := nofun

theorem only_emit {event : ConnectionEvent} (h : P event) : Only P (emit event).run :=
  Only.lift (Only.emit h)

theorem only_writeConnectionError (hsent : ∀ frame, P (.sent frame)) (code : ErrorCode) :
    Only P (writeConnectionError world code) := by
  unfold writeConnectionError
  cases connectionErrorFrame code with
  | error err => exact Only.pure _
  | ok frame =>
    exact Only.bind (Only.emit (hsent frame)) fun _ =>
      Only.bind (Only.timeout _ _ (Only.await _)) fun _ => Only.pure _

theorem only_failWith (hsent : ∀ frame, P (.sent frame)) (code : ErrorCode) (err : AnyError) :
    Only P (failWith world code err : HandshakeM α).run :=
  Only.bindExcept (Only.lift (only_writeConnectionError hsent code)) fun _ => Only.throw _

theorem only_tryUnixNow (message : String) : Only P (tryUnixNow world message).run := by
  refine Only.bindExcept (Only.lift Only.clock) fun now => ?_
  cases world.wallClock now with
  | none => exact Only.throw _
  | some unixNow => exact Only.pure _

theorem only_sendAuthChallenge (hsent : ∀ frame, P (.sent frame)) (now : UInt64) :
    Only P (sendAuthChallenge world now).run :=
  Only.bindExcept only_mapErr fun _ => Only.bindExcept only_mapErr fun frame =>
    Only.bindExcept (only_emit (hsent frame)) fun _ =>
      Only.bindExcept (Only.lift (Only.await _)) fun _ =>
        Only.bindExcept only_mapErr fun _ => Only.pure _

theorem only_readAuthResponse (hsent : ∀ frame, P (.sent frame)) :
    Only P (readAuthResponse world config).run := by
  refine Only.bindExcept (Only.lift (Only.await _)) fun read => ?_
  cases read with
  | error err =>
    refine Only.bindExcept (Only.lift ?_) fun _ => Only.throw _
    cases err with
    | protocol err => exact only_writeConnectionError hsent _
    | closed | io err => exact Only.pure _
  | ok frame =>
    dsimp only
    cases validateConnectionFrame frame .authResponse with
    | error err => exact only_failWith hsent _ _
    | ok =>
      dsimp only
      cases AuthResponse.decode frame.payload with
      | error err => exact only_failWith hsent _ _
      | ok response => exact Only.pure _

def World.replyEnd (world : World) (failed : Instant) : Instant :=
  world.timers.waitEnd failed carrierErrorWriteTimeout world.errorWritten

def World.Answered (world : World) (failed : Instant) (ended : Instant × AnyError) : Prop :=
  ended.1 = world.replyEnd failed ∧ handshakeFailureReason ended.2 = .auth

theorem writeConnectionError_done (h : connectionErrorFrame code = .ok frame) (t : Instant) :
    (writeConnectionError world code t).done = some (world.replyEnd t, ()) := by
  obtain ⟨result, hwait⟩ := timeout_await (ε := ConnectionEvent) world.timers
    carrierErrorWriteTimeout world.errorWritten t
  unfold writeConnectionError
  rw [h]
  exact congrArg Trace.done (bind_of_done (congrArg Trace.done hwait))

theorem connectionErrorFrame_authFailed : ∃ frame, connectionErrorFrame .authFailed = .ok frame :=
  ⟨_, rfl⟩

theorem refuse_done (phase : String) (err : AuthError) (t : Instant) :
    ((refuse world phase err : HandshakeM α).run t).done =
      some (world.replyEnd t, .error (phaseError phase .auth (.auth err))) := by
  obtain ⟨frame, hframe⟩ := connectionErrorFrame_authFailed
  have hdone : (writeConnectionError world .authFailed t).done = some (world.replyEnd t, ()) :=
    writeConnectionError_done hframe t
  have hlift : ((liftM (writeConnectionError world .authFailed) : HandshakeM Unit).run t).done =
      some (world.replyEnd t, .ok ()) := congrArg Trace.done (bind_of_done hdone)
  exact congrArg Trace.done (bind_of_done hlift)

section

variable (hsent : ∀ frame, P (.sent frame)) (hfailed : ∀ err, P (.verifyFailed err))
include hsent hfailed

theorem only_refuse
    (phase : String) (err : AuthError) : Only P (refuse world phase err : HandshakeM α).run :=
  Only.bindExcept (only_emit (hfailed err)) fun _ => only_failWith hsent _ _

theorem only_checkReplay (challenge : AuthChallenge) (response : AuthResponse) :
    Only P (checkReplay world challenge response).run := by
  refine Only.bindExcept (Only.lift (Only.await _)) fun cache => ?_
  refine Only.bindExcept (Only.lift Only.clock) fun now => ?_
  cases (cache.checkAndInsertAt now challenge.serverNonce response.clientNonce).2 with
  | error err => exact only_refuse hsent hfailed _ _
  | ok => exact Only.pure _

theorem only_authenticateCarrier (exporter : Exporter) (authentication : SecurityGeneration) :
    Only P (authenticateCarrier crypto world exporter authentication config).run := by
  refine Only.bindExcept (only_tryUnixNow _) fun now => ?_
  refine Only.bindExcept (only_sendAuthChallenge hsent _) fun challenge => ?_
  refine Only.bindExcept (only_readAuthResponse hsent) fun response => ?_
  refine Only.bindExcept (only_tryUnixNow _) fun verifyNow => ?_
  cases verifyAuthResponseIdentityStateless crypto authentication.credentials exporter challenge
      response verifyNow authentication.authSkew with
  | error err => exact only_refuse hsent hfailed _ _
  | ok identity =>
    exact Only.bindExcept (only_checkReplay hsent hfailed _ _) fun _ => Only.pure _

end

theorem refuse_failsAfter (phase : String) (err : AuthError) :
    FailsAfter VerifyFailed world.Answered (refuse world phase err : HandshakeM α) := by
  intro t e he htrigger
  refine ⟨_, _, refuse_done phase err t, ?_⟩
  unfold refuse at he
  rw [ExceptT.run_bind] at he
  rcases mem_events_bind he with hmem | ⟨t', result, hdone, hmem⟩
  · obtain rfl : e = (t, .verifyFailed err) := List.mem_singleton.mp hmem
    exact ⟨rfl, rfl⟩
  · cases result with
    | error err => cases hmem
    | ok =>
      have hquiet := only_failWith (P := (¬ VerifyFailed ·)) (fun _ => id) _ _ t' e hmem
      exact (hquiet htrigger).elim

theorem checkReplay_failsAfter (challenge : AuthChallenge) (response : AuthResponse) :
    FailsAfter VerifyFailed world.Answered (checkReplay world challenge response) := by
  refine FailsAfter.bind (.of_only (Only.lift (Only.await _))) fun cache => ?_
  refine FailsAfter.bind (.of_only (Only.lift Only.clock)) fun now => ?_
  cases (cache.checkAndInsertAt now challenge.serverNonce response.clientNonce).2 with
  | error err => exact refuse_failsAfter _ _
  | ok => exact .of_only (Only.pure _)

theorem authenticateCarrier_failsAfter (exporter : Exporter)
    (authentication : SecurityGeneration) :
    FailsAfter VerifyFailed world.Answered
      (authenticateCarrier crypto world exporter authentication config) := by
  refine FailsAfter.bind (.of_only (only_tryUnixNow _)) fun now => ?_
  refine FailsAfter.bind (.of_only (only_sendAuthChallenge (fun _ => id) _)) fun challenge => ?_
  refine FailsAfter.bind (.of_only (only_readAuthResponse fun _ => id)) fun response => ?_
  refine FailsAfter.bind (.of_only (only_tryUnixNow _)) fun verifyNow => ?_
  cases verifyAuthResponseIdentityStateless crypto authentication.credentials exporter challenge
      response verifyNow authentication.authSkew with
  | error err => exact refuse_failsAfter _ _
  | ok identity =>
    exact FailsAfter.bind (checkReplay_failsAfter _ _) fun _ => .of_only (Only.pure _)

structure World.Handshake (world : World) (handshake : HandshakeM AuthenticatedIdentity) :
    Prop where
  events : Only OfHandshake handshake.run
  fails : FailsAfter VerifyFailed world.Answered handshake

theorem only_completeHandshake (hsent : ∀ frame, P (.sent frame))
    (hfailed : ∀ err, P (.verifyFailed err)) (authentication : SecurityGeneration)
    (haccept : P (.accept stream)) :
    Only P (completeHandshake crypto world authentication config stream).run :=
  Only.bindExcept (only_emit haccept) fun _ =>
    Only.bindExcept (Only.lift (Only.await _)) fun _ =>
      Only.bindExcept only_mapErr fun _ => Only.bindExcept only_mapErr fun _ =>
        Only.bindExcept only_mapErr fun _ => only_authenticateCarrier hsent hfailed _ _

theorem completeHandshake_handshake (authentication : SecurityGeneration)
    (stream : CarrierStream) :
    world.Handshake (completeHandshake crypto world authentication config stream) where
  events := only_completeHandshake (fun _ => trivial) (fun _ => trivial) _ trivial
  fails :=
    FailsAfter.bind (.of_only (only_emit id)) fun _ =>
      FailsAfter.bind (.of_only (Only.lift (Only.await _))) fun _ =>
        FailsAfter.bind (.of_only only_mapErr) fun _ =>
          FailsAfter.bind (.of_only only_mapErr) fun _ =>
            FailsAfter.bind (.of_only only_mapErr) fun _ => authenticateCarrier_failsAfter _ _

theorem only_acceptCarrier (session : QuicSession) : Only P (acceptCarrier world session).run :=
  Only.bindExcept only_mapErr fun _ => Only.bindExcept only_mapErr fun _ =>
    Only.bindExcept (Only.lift (Only.await _)) fun _ =>
      Only.bindExcept only_mapErr fun _ => Only.pure _

theorem quicHandshake_handshake (authentication : SecurityGeneration) :
    world.Handshake (quicHandshake crypto world authentication config) where
  events :=
    Only.bindExcept (Only.lift (Only.await _)) fun _ => Only.bindExcept only_mapErr fun _ =>
      Only.bindExcept (only_acceptCarrier _) fun _ =>
        only_authenticateCarrier (fun _ => trivial) (fun _ => trivial) _ _
  fails :=
    FailsAfter.bind (.of_only (Only.lift (Only.await _))) fun _ =>
      FailsAfter.bind (.of_only only_mapErr) fun _ =>
        FailsAfter.bind (.of_only (only_acceptCarrier _)) fun _ =>
          authenticateCarrier_failsAfter _ _

/-- The answer ends by the time the handshake's deadline is seen. -/
def World.AnsweredInTime (world : World) (timeout : Option Duration) (start failed : Instant) :
    Prop :=
  ∀ d, timeout = some d → world.replyEnd failed ≤ world.timers.seen (dueAfter start d)

theorem withinDeadline_events (timeout : Option Duration) (handshake : HandshakeM α)
    (t : Instant) :
    (withinDeadline world timeout handshake t).events.Sublist (handshake.run t).events := by
  cases timeout with
  | none => exact List.Sublist.refl _
  | some d =>
    have hsame : (withinDeadline world (some d) handshake t).events =
        (Timed.timeout world.timers d handshake.run t).events := events_bind_pure _
    rw [hsame]
    exact untilAt_events _ _ _ t

theorem withinDeadline_done {handshake : HandshakeM AuthenticatedIdentity}
    (h : world.Handshake handshake) (timeout : Option Duration)
    (hmem : (failed, .verifyFailed err) ∈ (handshake.run t).events) :
    ∃ t' err', (withinDeadline world timeout handshake t).done = some (t', .error err') ∧
      (world.AnsweredInTime timeout t failed ∧ handshakeFailureReason err' = .auth ∨
        ¬ world.AnsweredInTime timeout t failed ∧ handshakeFailureReason err' = .timeout) := by
  obtain ⟨t', err', hdone, hend, hreason⟩ := h.fails t _ hmem trivial
  obtain rfl : t' = world.replyEnd failed := hend
  cases timeout with
  | none => exact ⟨_, err', hdone, .inl ⟨nofun, hreason⟩⟩
  | some d =>
    by_cases hin : world.replyEnd failed ≤ world.timers.seen (dueAfter t d)
    · have hearly : early (world.timers.seen (dueAfter t d)) true (world.replyEnd failed) = true :=
        by simpa [early] using hin
      have hkept := congrArg Trace.done (untilAt_done hdone hearly)
      refine ⟨_, err', congrArg Trace.done (bind_of_done hkept), .inl ⟨?_, hreason⟩⟩
      rintro d' ⟨⟩
      exact hin
    · have hlate : ¬ early (world.timers.seen (dueAfter t d)) true (world.replyEnd failed) = true :=
        by simpa [early] using hin
      have hdropped := congrArg Trace.done (untilAt_late hdone hlate)
      refine ⟨_, deadlineExceeded, congrArg Trace.done (bind_of_done hdropped), .inr ⟨?_, rfl⟩⟩
      intro hall
      exact hin (hall d rfl)

def failures (events : List (Instant × ConnectionEvent)) : List IpAddr :=
  events.filterMap fun
    | (_, .recordFailure ip) => some ip
    | _ => none

@[simp] theorem failures_append (events events' : List (Instant × ConnectionEvent)) :
    failures (events ++ events') = failures events ++ failures events' :=
  List.filterMap_append

theorem failures_of_handshake (h : ∀ e ∈ events, OfHandshake e.2) : failures events = [] := by
  refine List.filterMap_eq_nil_iff.mpr ?_
  rintro ⟨t, event⟩ he
  cases event with
  | recordFailure ip => exact (h _ he).elim
  | _ => rfl

theorem unlessShutdown_events (x : ConnectionM α) (t : Instant) :
    (unlessShutdown world x t).events.Sublist (x t).events := by
  unfold unlessShutdown
  cases world.shutdown with
  | none =>
    have hsame : ((some <$> x : ConnectionM (Option α)) t).events = (x t).events :=
      events_bind_pure some
    simp [hsame]
  | some at' => exact untilAt_events _ _ _ _

theorem unlessShutdown_done {x : ConnectionM α} (h : (x t).done = some (t', a)) :
    (∃ t'', (unlessShutdown world x t).done = some (t'', none)) ∨
      (unlessShutdown world x t).done = some (t', some a) := by
  unfold unlessShutdown
  cases world.shutdown with
  | none => exact .inr (congrArg Trace.done (bind_of_done h))
  | some at' =>
    by_cases hearly : early (max t at') world.beforeShutdown t' = true
    · exact .inr (congrArg Trace.done (untilAt_done h hearly))
    · exact .inl ⟨_, congrArg Trace.done (untilAt_late h hearly)⟩

theorem concludeHandshake_error (err : AnyError) (t : Instant) :
    concludeHandshake world (some (.error err)) t =
      ⟨(t, .failedHandshake (handshakeFailureReason err)) ::
          if handshakeFailureReason err = .auth then [(t, .recordFailure world.peer.ip)] else [],
        some (t, .error err)⟩ := by
  by_cases h : handshakeFailureReason err = .auth
  · simp only [concludeHandshake, h, if_true]
    rfl
  · simp only [concludeHandshake, h, if_false]
    rfl

def ConnectionEvent.Accounting : ConnectionEvent → Prop
  | .failedHandshake _ | .recordSuccess _ | .recordFailure _ | .session _ | .stopped => True
  | _ => False

open ConnectionEvent (Accounting)

theorem only_concludeHandshake (result : Option (Except AnyError AuthenticatedIdentity)) :
    Only Accounting (concludeHandshake world result) := by
  rcases result with _ | err | identity
  · exact Only.bind (Only.emit trivial) fun _ => Only.pure _
  · refine Only.bind (Only.emit trivial) fun _ => ?_
    dsimp only
    split
    · exact Only.bind (Only.emit trivial) fun _ => Only.pure _
    · exact Only.pure _
  · refine Only.bind (Only.emit trivial) fun _ => Only.bind Only.clock fun now => ?_
    refine Only.bind (Only.emit ?_) fun _ => Only.pure _
    split <;> trivial

section Serve

variable (world) (config) (handshake : HandshakeM AuthenticatedIdentity) (t : Instant)

def raced : ConnectionM (Option (Except AnyError AuthenticatedIdentity)) :=
  unlessShutdown world
    (withinDeadline world (handshakeTimeout config.handshakeTimeoutSeconds) handshake)

theorem serve_eq :
    serveAuthenticatedCarrier world config handshake t =
      ((raced world config handshake >>= concludeHandshake world) t).after
        [(t, .beginHandshake)] := rfl

theorem raced_events : (raced world config handshake t).events.Sublist (handshake.run t).events :=
  (unlessShutdown_events _ t).trans (withinDeadline_events _ _ t)

end Serve

theorem serve_failed {handshake : HandshakeM AuthenticatedIdentity}
    (h : world.Handshake handshake)
    (hmem : (failed, .verifyFailed err) ∈
      (serveAuthenticatedCarrier world config handshake t).events)
    (hstopped : ∀ t', (t', .stopped) ∉
      (serveAuthenticatedCarrier world config handshake t).events) :
    (serveAuthenticatedCarrier world config handshake t).done.isSome ∧
      (world.AnsweredInTime (handshakeTimeout config.handshakeTimeoutSeconds) t failed ∧
          failures (serveAuthenticatedCarrier world config handshake t).events =
            [world.peer.ip] ∨
        ¬ world.AnsweredInTime (handshakeTimeout config.handshakeTimeoutSeconds) t failed ∧
          failures (serveAuthenticatedCarrier world config handshake t).events = []) := by
  rw [serve_eq] at hmem hstopped ⊢
  have hin : (failed, .verifyFailed err) ∈ (handshake.run t).events := by
    rcases List.mem_cons.mp hmem with hbegin | hrest
    · cases hbegin
    · rcases mem_events_bind hrest with hraced | ⟨t', result, -, hafter⟩
      · exact (raced_events world config handshake t).subset hraced
      · exact (only_concludeHandshake result t' _ hafter).elim
  have hquiet : failures (raced world config handshake t).events = [] :=
    failures_of_handshake fun e he =>
      h.events t e ((raced_events world config handshake t).subset he)
  obtain ⟨t', err', hdone, hverdict⟩ :=
    withinDeadline_done h (handshakeTimeout config.handshakeTimeoutSeconds) hin
  rcases unlessShutdown_done hdone with ⟨t'', hlost⟩ | hraced
  · -- shutdown has won, and the run says so
    have hlost : (raced world config handshake t).done = some (t'', none) := hlost
    have hsaid : (concludeHandshake world none t'').events = [(t'', .stopped)] := rfl
    exact (hstopped t'' (by simp [bind_of_done hlost, hsaid])).elim
  · have hraced : (raced world config handshake t).done = some (t', some (.error err')) := hraced
    rw [bind_of_done hraced, concludeHandshake_error]
    refine ⟨rfl, ?_⟩
    rcases hverdict with ⟨hanswered, hreason⟩ | ⟨hlate, hreason⟩
    · refine .inl ⟨hanswered, ?_⟩
      simp only [Trace.after_events, failures_append, hquiet, hreason]
      rfl
    · refine .inr ⟨hlate, ?_⟩
      simp only [Trace.after_events, failures_append, hquiet, hreason]
      rfl

variable {runtime : ServerRuntime}

theorem serveMasked_cases (crypto : Crypto) (runtime : ServerRuntime) (world : World)
    (t : Instant) :
    (∃ t' masked, runtime.security.current.maskKeys ≠ [] ∧
        serveMasked crypto runtime world t =
          (serveTcp crypto runtime world masked t').after [(t, .prelude)]) ∨
      ∃ t' kind, (serveMasked crypto runtime world t).events =
        [(t, .prelude), (t', RejectKind.event kind), (t', .failedHandshake .auth),
          (t', .recordFailure world.peer.ip)] := by
  unfold serveMasked
  rcases admitTcp_cases crypto.hmac world runtime.security.current.maskKeys
      (fromSecs runtime.config.handshakeTimeoutSeconds.toNat) t with
    ⟨t', masked, hkeys, hadmit⟩ | ⟨t', drainBudget, kind, reason, hreject⟩
  · refine .inl ⟨t', masked, hkeys, ?_⟩
    rw [bind_of_done (congrArg Trace.done hadmit), hadmit]
  · refine .inr ⟨t', kind, ?_⟩
    rw [rejectMasked_apply] at hreject
    cases hdrained : (drainWithin world drainBudget t').done with
    | none =>
      rw [hdrained] at hreject
      rw [bind_of_pending (congrArg Trace.done hreject), hreject]
      rfl
    | some ended =>
      rw [hdrained] at hreject
      rw [bind_of_done (congrArg Trace.done hreject), hreject]
      rfl

theorem serveMasked_reads :
    (t, .prelude) ∈ (serveMasked crypto runtime world t).events := by
  rcases serveMasked_cases crypto runtime world t with
    ⟨t', masked, -, hserved⟩ | ⟨t', kind, hrejected⟩
  · rw [hserved]
    exact List.mem_cons_self
  · rw [hrejected]
    exact List.mem_cons_self

theorem whileRunning_apply (x : ConnectionM (Except AnyError Unit)) (t : Instant) :
    whileRunning world x t =
      if world.isShutdown t then ⟨[(t, .stopped)], some (t, .ok ())⟩ else x t := by
  show Trace.after _ [] = _
  dsimp only
  split <;> rfl

def Serves (world : World) (config : ServerConfig)
    (run : Trace ConnectionEvent (Except AnyError Unit)) : Prop :=
  ∃ start before handshake, world.Handshake handshake ∧ (∀ e ∈ before, e.2 = .prelude) ∧
    run = (serveAuthenticatedCarrier world config handshake start).after before

theorem handleQuicConnection_serves
    (hmem : (failed, .verifyFailed err) ∈ (handleQuicConnection crypto runtime world t).events) :
    Serves world runtime.config (handleQuicConnection crypto runtime world t) := by
  unfold handleQuicConnection at hmem ⊢
  rw [whileRunning_apply] at hmem ⊢
  split
  · next hshutdown => simp [hshutdown] at hmem
  · exact ⟨t, [], _, quicHandshake_handshake _, nofun, rfl⟩

theorem serveTcp_serves (before : List (Instant × ConnectionEvent))
    (hbefore : ∀ e ∈ before, e.2 = .prelude)
    (hmem : (failed, .verifyFailed err) ∈ (serveTcp crypto runtime world stream t).events) :
    Serves world runtime.config ((serveTcp crypto runtime world stream t).after before) := by
  unfold serveTcp acquireHandshakePermit at hmem ⊢
  split
  · exact ⟨t, before, _, completeHandshake_handshake _ _, hbefore, rfl⟩
  · next hpermit => simp [hpermit, bind, pure, Timed.emit] at hmem

theorem handleConnection_serves
    (hmem : (failed, .verifyFailed err) ∈ (handleConnection crypto runtime world t).events) :
    Serves world runtime.config (handleConnection crypto runtime world t) := by
  unfold handleConnection at hmem ⊢
  cases hnodelay : world.setNodelay with
  | error err => simp [hnodelay, pure] at hmem
  | ok =>
    simp only [hnodelay, whileRunning_apply] at hmem ⊢
    split
    · next hshutdown => simp [hshutdown] at hmem
    · next hrunning =>
      rw [if_neg hrunning] at hmem
      cases hmasking : runtime.masking with
      | none =>
        rw [hmasking] at hmem
        exact serveTcp_serves [] nofun hmem
      | some masking =>
        rw [hmasking] at hmem
        dsimp only at hmem ⊢
        rcases serveMasked_cases crypto runtime world t with
          ⟨t', masked, -, hserved⟩ | ⟨t', kind, hrejected⟩
        · rw [hserved] at hmem ⊢
          exact serveTcp_serves _ (by simp) ((List.mem_append.mp hmem).resolve_left (by simp))
        · rw [hrejected] at hmem
          cases kind <;> simp [RejectKind.event] at hmem

/-- A failed verification is counted exactly if its answer ends by the time the deadline is seen.
-/
theorem failed_verification_counted_iff (crypto : Crypto) (runtime : ServerRuntime)
    (world : World) (handler : ConnectionM (Except AnyError Unit))
    (hhandler : handler = handleConnection crypto runtime world ∨
      handler = handleQuicConnection crypto runtime world)
    (t failed : Instant) (err : AuthError)
    (hfailed : (failed, .verifyFailed err) ∈ (handler t).events)
    (hrunning : ∀ t', (t', .stopped) ∉ (handler t).events) :
    (handler t).done.isSome ∧
      ∃ start, (start, .beginHandshake) ∈ (handler t).events ∧
        (failures (handler t).events = [world.peer.ip] ↔
          world.AnsweredInTime (handshakeTimeout runtime.config.handshakeTimeoutSeconds) start
            failed) ∧
        (¬ world.AnsweredInTime (handshakeTimeout runtime.config.handshakeTimeoutSeconds) start
            failed → failures (handler t).events = []) := by
  have hserves : Serves world runtime.config (handler t) := by
    rcases hhandler with rfl | rfl
    · exact handleConnection_serves hfailed
    · exact handleQuicConnection_serves hfailed
  obtain ⟨start, before, handshake, hhandshake, hbefore, hrun⟩ := hserves
  rw [hrun, Trace.after_events] at hfailed hrunning
  have hquiet : failures before = [] := by
    refine List.filterMap_eq_nil_iff.mpr ?_
    rintro ⟨t', event⟩ he
    obtain rfl : event = .prelude := hbefore _ he
    rfl
  have hmem : (failed, .verifyFailed err) ∈
      (serveAuthenticatedCarrier world runtime.config handshake start).events := by
    refine (List.mem_append.mp hfailed).resolve_left fun he => ?_
    cases hbefore _ he
  obtain ⟨hdone, hcounted⟩ := serve_failed hhandshake hmem
    fun t' he => hrunning t' (List.mem_append_right _ he)
  rw [hrun, Trace.after_events, Trace.after_done, failures_append, hquiet, List.nil_append]
  refine ⟨hdone, start, List.mem_append_right _ (List.mem_cons_self), ?_⟩
  rcases hcounted with ⟨hin, hone⟩ | ⟨hout, hnone⟩
  · exact ⟨⟨fun _ => hin, fun _ => hone⟩, fun hout => absurd hin hout⟩
  · refine ⟨⟨fun hone => ?_, fun hin => absurd hin hout⟩, fun _ => hnone⟩
    rw [hnone] at hone
    cases hone

theorem exists_ok_of_any {x : Except ε α} {p : α → Prop} [DecidablePred p]
    (h : x.toOption.any (fun a => decide (p a)) = true) : ∃ a, x = .ok a ∧ p a := by
  cases x with
  | error err => cases h
  | ok a => exact ⟨a, rfl, of_decide_eq_true h⟩

/-- A guess six seconds into the handshake. -/
def guessingPeer (errorWritten : Option (Instant × Except FrameIoError Unit)) : World :=
  let response : AuthResponse := ⟨[97], .replicate 32 0, 100, [], .replicate 32 1⟩
  let guess := response.encode.toOption.getD []
  { peer := .v4 (.new 203 0 113 9) 5555
    timers := ⟨id, Nat.le_refl, id⟩
    wallClock := fun _ => some 100
    shutdown := none
    beforeShutdown := true
    setNodelay := .ok ()
    tcp := ⟨[], none⟩
    registry := ⟨.new 1024 (Nat.succ_pos _), false⟩
    drained := []
    handshakePermit := true
    tlsAccept := fun _ => some (0, .ok ⟨some alpnProtocol, .ok (.replicate 32 0)⟩)
    quicIncoming := some (0, .ok ⟨some (some alpnProtocol), .ok (.replicate 32 0)⟩)
    quicOpenBi := some (0, .ok ())
    serverNonce := .replicate 32 0
    challengeWritten := some (0, .ok ())
    response := fun _ =>
      some (fromSecs 6, .ok ⟨⟨protocolVersion, .authResponse, 0, 0, guess.length⟩, guess⟩)
    replayCache := none
    errorWritten := errorWritten }

theorem guess_counted :
    let world := guessingPeer (some (fromSecs 6, .ok ()))
    ∃ runtime, prepareServerRuntime sampleCrypto.hmac sampleHost sampleConfig = .ok runtime ∧
      let run := handleQuicConnection sampleCrypto runtime world 0
      (fromSecs 6, .verifyFailed .invalidTag) ∈ run.events ∧
        failures run.events = [.v4 (.new 203 0 113 9)] := by
  intro world
  obtain ⟨runtime, hstart, hfailed, hevents, htimeout⟩ := exists_ok_of_any
    (x := prepareServerRuntime sampleCrypto.hmac sampleHost sampleConfig) (p := fun runtime =>
      let events := (handleQuicConnection sampleCrypto runtime world 0).events
      (fromSecs 6, .verifyFailed .invalidTag) ∈ events ∧
        (∀ e ∈ events, e.2 ≠ .stopped ∧ (e.2 = .beginHandshake → e.1 = 0)) ∧
        runtime.config.handshakeTimeoutSeconds = 10) (by decide +kernel)
  refine ⟨runtime, hstart, hfailed, ?_⟩
  obtain ⟨-, start, hbegin, hcounted, -⟩ := failed_verification_counted_iff sampleCrypto runtime
    world _ (.inr rfl) 0 _ _ hfailed fun t' he => (hevents _ he).1 rfl
  obtain rfl : start = 0 := (hevents _ hbegin).2 rfl
  refine hcounted.mpr ?_
  rw [htimeout]
  rintro d ⟨⟩
  decide

/-- A QUIC peer whose stream window has no room for the answer holds the handshake until the
deadline, and nothing is counted. -/
theorem guess_not_counted :
    ∃ runtime, prepareServerRuntime sampleCrypto.hmac sampleHost sampleConfig = .ok runtime ∧
      let run := handleQuicConnection sampleCrypto runtime (guessingPeer none) 0
      (fromSecs 6, .verifyFailed .invalidTag) ∈ run.events ∧ (∀ e ∈ run.events, e.2 ≠ .stopped) ∧
        failures run.events = [] ∧ run.done = some (fromSecs 10, .error deadlineExceeded) :=
  exists_ok_of_any (by decide +kernel)

/-- Nothing of a prelude, and no stream but the one that came. -/
def ConnectionEvent.Unmasked (tcp : TcpStream) : ConnectionEvent → Prop
  | .prelude | .maskPreludeReject | .maskReplayReject => False
  | .accept stream => stream = .plain tcp
  | _ => True

open ConnectionEvent (Unmasked)

theorem ConnectionEvent.Accounting.unmasked {event : ConnectionEvent} (h : Accounting event) :
    Unmasked tcp event := by
  cases event <;> trivial

theorem only_serveTcp : Only (Unmasked tcp) (serveTcp crypto runtime world (.plain tcp)) := by
  unfold serveTcp acquireHandshakePermit
  split
  · have hhandshake : Only (Unmasked tcp) (completeHandshake crypto world
        runtime.security.current runtime.config (.plain tcp)).run :=
      only_completeHandshake (fun _ => trivial) (fun _ => trivial) _ rfl
    refine Only.bind (Only.emit trivial) fun _ => Only.bind ?_ fun result => ?_
    · exact fun t e he => hhandshake t e ((raced_events _ _ _ t).subset he)
    · exact fun t e he => (only_concludeHandshake result t e he).unmasked
  · exact Only.bind (Only.emit trivial) fun _ => Only.pure _

theorem withinDeadline_starts {handshake : HandshakeM AuthenticatedIdentity}
    (timeout : Option Duration) (h : (t, event) ∈ (handshake.run t).events) :
    (t, event) ∈ (withinDeadline world timeout handshake t).events := by
  cases timeout with
  | none => exact h
  | some d =>
    refine mem_events_bind_left (mem_untilAt h ?_)
    simpa [early] using world.timers.start_le t d

theorem unlessShutdown_starts {x : ConnectionM α} (hrunning : world.isShutdown t = false)
    (h : (t, event) ∈ (x t).events) : (t, event) ∈ (unlessShutdown world x t).events := by
  unfold unlessShutdown
  cases hshutdown : world.shutdown with
  | none => exact mem_events_bind_left h
  | some at' =>
    have hlater : t < at' := by simpa [World.isShutdown, hshutdown] using hrunning
    refine mem_untilAt h ?_
    cases world.beforeShutdown with
    | true => simp [early]
    | false => simpa [early] using hlater

theorem serveTcp_accepts (hrunning : world.isShutdown t = false)
    (hpermit : world.handshakePermit = true) :
    (t, .accept stream) ∈ (serveTcp crypto runtime world stream t).events := by
  have haccept : (t, .accept stream) ∈ ((completeHandshake crypto world
      runtime.security.current runtime.config stream).run t).events := by
    unfold completeHandshake
    rw [ExceptT.run_bind]
    exact mem_events_bind_left (List.mem_singleton.mpr rfl)
  unfold serveTcp acquireHandshakePermit
  rw [if_pos hpermit, serve_eq, Trace.after_events]
  refine List.mem_append_right _ (mem_events_bind_left ?_)
  exact unlessShutdown_starts hrunning (withinDeadline_starts _ haccept)

theorem handleConnection_apply (hnodelay : world.setNodelay = .ok ())
    (hrunning : world.isShutdown t = false) :
    handleConnection crypto runtime world t =
      match runtime.masking with
      | some _ => serveMasked crypto runtime world t
      | none => serveTcp crypto runtime world (.plain world.tcp) t := by
  unfold handleConnection
  rw [hnodelay]
  dsimp only
  rw [whileRunning_apply, hrunning]
  cases runtime.masking <;> rfl

theorem buildMaskingState_none (h : config.validateLimits = .ok ()) :
    buildMaskingState hmac config h = none ↔ config.masking = none := by
  unfold buildMaskingState
  cases config.masking <;> simp

/-- A connection reaches the TLS acceptor as it came exactly if the configuration has no masking
section, whatever the section enables. -/
theorem stream_unmasked_iff_no_section (crypto : Crypto) (host : Host) (config : ServerConfig)
    (runtime : ServerRuntime)
    (hstart : prepareServerRuntime crypto.hmac host config = .ok runtime)
    (security : SecurityState) (world : World) (t : Instant)
    (hnodelay : world.setNodelay = .ok ()) (hrunning : world.isShutdown t = false) :
    ((∀ e ∈ (handleConnection crypto { runtime with security := security } world t).events,
        e.2.Unmasked world.tcp) ∧
      (world.handshakePermit = true → (t, .accept (.plain world.tcp)) ∈
        (handleConnection crypto { runtime with security := security } world t).events)) ↔
      config.masking = none := by
  obtain ⟨hlimits, -, -, -, hmasking, -⟩ := prepareServerRuntime_ok hstart
  rw [handleConnection_apply hnodelay hrunning, ← buildMaskingState_none hlimits, ← hmasking]
  cases runtime.masking with
  | none => exact ⟨fun _ => rfl, fun _ => ⟨only_serveTcp t, serveTcp_accepts hrunning⟩⟩
  | some masking =>
    refine ⟨fun hunmasked => ?_, nofun⟩
    exact (hunmasked.1 (t, .prelude) serveMasked_reads).elim

theorem guess_unmasked :
    let world := guessingPeer none
    ∃ runtime, prepareServerRuntime sampleCrypto.hmac sampleHost sampleConfig = .ok runtime ∧
      (∀ e ∈ (handleConnection sampleCrypto runtime world 0).events, e.2.Unmasked world.tcp) ∧
      (0, .accept (.plain world.tcp)) ∈ (handleConnection sampleCrypto runtime world 0).events := by
  intro world
  obtain ⟨runtime, hstart, -⟩ := exists_ok_of_any
    (x := prepareServerRuntime sampleCrypto.hmac sampleHost sampleConfig) (p := fun _ => True)
    (by decide +kernel)
  obtain ⟨hunmasked, haccept⟩ := (stream_unmasked_iff_no_section sampleCrypto sampleHost
    sampleConfig runtime hstart runtime.security world 0 rfl rfl).mpr rfl
  exact ⟨runtime, hstart, hunmasked, haccept rfl⟩

/-- With a section that turns on nothing for TCP, a TLS stream is taken for a prelude and
rejected. -/
theorem unmasked_stream_rejected :
    let config (masking : MaskingConfig) : ServerConfig :=
      { sampleConfig with quicListen := some "127.0.0.1:443", masking := some masking }
    let world : World := { guessingPeer none with tcp := ⟨List.replicate 200 (0, 22), none⟩ }
    ∀ masking ∈ [({ quic := some true, quicKeyId := some "a" } : MaskingConfig),
        { enabled := some false }],
      (config masking).maskingEnabled = false ∧
      ∃ runtime, prepareServerRuntime sampleCrypto.hmac sampleHost (config masking) = .ok runtime ∧
        (handleConnection sampleCrypto runtime world 0).events =
          [(0, .prelude), (0, .maskPreludeReject), (0, .failedHandshake .auth),
            (0, .recordFailure (.v4 (.new 203 0 113 9)))] := by
  intro config world masking hmasking
  simp only [List.mem_cons, List.not_mem_nil, or_false] at hmasking
  rcases hmasking with rfl | rfl
  · exact ⟨rfl, exists_ok_of_any (by decide +kernel)⟩
  · exact ⟨rfl, exists_ok_of_any (by decide +kernel)⟩

end UncrownedKing.Server
