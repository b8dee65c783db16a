import UncrownedKing.Server.HandshakeLaws

/-!
# Handshakes without a deadline

The handlers with nothing to wait for but the peer, to compare a timeout of zero
with.
-/

namespace UncrownedKing.Server

open Lib Net Auth Mask Timed

def admitFreely (hmac : Hmac) (world : World) (maskKeys : List MaskKeys)
    (drainBudget : Duration) : ConnectionM (Except String CarrierStream) := do
  Timed.emit .prelude
  let read ← Timed.await (world.tcp.readExact (preludeLen + nonceLen))
  judgePrelude hmac world maskKeys drainBudget (some read)

def serveFreely (world : World) (handshake : HandshakeM AuthenticatedIdentity) :
    ConnectionM (Except AnyError Unit) := do
  Timed.emit .beginHandshake
  let result ← unlessShutdown world handshake.run
  concludeHandshake world result

def serveTcpFreely (crypto : Crypto) (runtime : ServerRuntime) (world : World)
    (stream : CarrierStream) : ConnectionM (Except AnyError Unit) :=
  acquireHandshakePermit world
    (serveFreely world
      (completeHandshake crypto world runtime.security.current runtime.config stream))

def serveAdmitted (crypto : Crypto) (runtime : ServerRuntime) (world : World) :
    Except String CarrierStream → ConnectionM (Except AnyError Unit)
  | .ok masked => serveTcpFreely crypto runtime world masked
  | .error _ => pure (.ok ())

def serveMaskedFreely (crypto : Crypto) (runtime : ServerRuntime) (world : World) :
    ConnectionM (Except AnyError Unit) := do
  let drainBudget := fromSecs runtime.config.handshakeTimeoutSeconds.toNat
  let admitted ← admitFreely crypto.hmac world runtime.security.current.maskKeys drainBudget
  serveAdmitted crypto runtime world admitted

def handleConnectionFreely (crypto : Crypto) (runtime : ServerRuntime) (world : World) :
    ConnectionM (Except AnyError Unit) :=
  match world.setNodelay with
  | .error err => pure (.error (.io err))
  | .ok () => whileRunning world
    (match runtime.masking with
    | some _ => serveMaskedFreely crypto runtime world
    | none => serveTcpFreely crypto runtime world (.plain world.tcp))

def handleQuicConnectionFreely (crypto : Crypto) (runtime : ServerRuntime) (world : World) :
    ConnectionM (Except AnyError Unit) :=
  whileRunning world
    (serveFreely world (quicHandshake crypto world runtime.security.current runtime.config))

variable {crypto : Crypto} {runtime : ServerRuntime} {world : World} {t : Instant}

theorem serveAuthenticatedCarrier_zero (hzero : config.handshakeTimeoutSeconds = 0)
    (handshake : HandshakeM AuthenticatedIdentity) :
    serveAuthenticatedCarrier world config handshake = serveFreely world handshake := by
  simp [serveAuthenticatedCarrier, serveFreely, handshakeTimeout, hzero, withinDeadline]

theorem serveTcp_zero (hzero : runtime.config.handshakeTimeoutSeconds = 0)
    (stream : CarrierStream) :
    serveTcp crypto runtime world stream = serveTcpFreely crypto runtime world stream := by
  simp only [serveTcp, serveTcpFreely, serveAuthenticatedCarrier_zero hzero]

theorem handleQuicConnection_zero (hzero : runtime.config.handshakeTimeoutSeconds = 0) :
    handleQuicConnection crypto runtime world =
      handleQuicConnectionFreely crypto runtime world := by
  simp only [handleQuicConnection, handleQuicConnectionFreely, serveAuthenticatedCarrier_zero hzero]

/-- The prelude is there when a deadline of no time is first looked at. -/
def PreludeInTime (world : World) (t : Instant) : Prop :=
  ∃ ready ∈ world.tcp.readExact (preludeLen + nonceLen),
    max t ready.1 ≤ world.timers.seen (dueAfter t 0)

theorem admitFreely_ready (hmac : Hmac) (maskKeys : List MaskKeys)
    (hready : world.tcp.readExact (preludeLen + nonceLen) = some ready) :
    admitFreely hmac world maskKeys d t =
      (judgePrelude hmac world maskKeys d (some ready.2) (max t ready.1)).after
        [(t, .prelude)] := by
  simp only [admitFreely, hready]
  rfl

theorem admitTcp_inTime (hmac : Hmac) (maskKeys : List MaskKeys) (h : PreludeInTime world t) :
    admitTcp hmac world maskKeys 0 t = admitFreely hmac world maskKeys 0 t := by
  obtain ⟨ready, hready, hin⟩ := h
  rw [admitFreely_ready hmac maskKeys hready]
  refine admitTcp_apply hmac maskKeys ?_
  rw [hready]
  exact timeout_await_ready world.timers hin

theorem admitTcp_late (hmac : Hmac) (maskKeys : List MaskKeys) (h : ¬PreludeInTime world t) :
    admitTcp hmac world maskKeys 0 t =
      (rejectMasked world none .prelude "masking prelude read failed"
        (world.timers.seen (dueAfter t 0))).after [(t, .prelude)] := by
  refine admitTcp_apply hmac maskKeys (timeout_await_late world.timers fun ready hready hin => ?_)
  exact h ⟨ready, hready, hin⟩

theorem serveMasked_late (crypto : Crypto) (hzero : runtime.config.handshakeTimeoutSeconds = 0)
    (h : ¬PreludeInTime world t) :
    (serveMasked crypto runtime world t).events =
      [(t, .prelude), (world.timers.seen (dueAfter t 0), .maskPreludeReject),
        (world.timers.seen (dueAfter t 0), .failedHandshake .auth),
        (world.timers.seen (dueAfter t 0), .recordFailure world.peer.ip)] := by
  have hadmit := admitTcp_late crypto.hmac runtime.security.current.maskKeys h
  rw [rejectMasked_apply] at hadmit
  have hbudget : fromSecs runtime.config.handshakeTimeoutSeconds.toNat = 0 := by
    simp [hzero, fromSecs]
  simp only [serveMasked, hbudget]
  rw [bind_of_done (congrArg Trace.done hadmit), hadmit]
  rfl

theorem serveMasked_inTime (hzero : runtime.config.handshakeTimeoutSeconds = 0)
    (h : PreludeInTime world t) :
    serveMasked crypto runtime world t = serveMaskedFreely crypto runtime world t := by
  have hadmit := admitTcp_inTime crypto.hmac runtime.security.current.maskKeys h
  have hbudget : fromSecs runtime.config.handshakeTimeoutSeconds.toNat = 0 := by
    simp [hzero, fromSecs]
  simp only [serveMasked, serveMaskedFreely, hbudget]
  refine Timed.bind_congr hadmit fun admitted => ?_
  cases admitted with
  | ok masked => exact serveTcp_zero hzero masked
  | error reason => rfl

theorem judgePrelude_opens (crypto : Crypto) (runtime : ServerRuntime) (world : World)
    (maskKeys : List MaskKeys) (d : Duration)
    (wire : Option (Except IoError (Bytes × TcpStream))) (u : Instant) :
    ∃ event rest, ((judgePrelude crypto.hmac world maskKeys d wire >>=
      serveAdmitted crypto runtime world) u).events = (u, event) :: rest := by
  rcases judgePrelude_cases crypto.hmac world maskKeys d wire with
    ⟨masked, -, hjudge⟩ | ⟨drainBudget, kind, reason, hjudge⟩
  · have hserve : (judgePrelude crypto.hmac world maskKeys d wire >>=
        serveAdmitted crypto runtime world) = serveTcpFreely crypto runtime world masked := by
      rw [hjudge]
      rfl
    rw [hserve]
    unfold serveTcpFreely acquireHandshakePermit
    split
    · exact ⟨.beginHandshake, _, rfl⟩
    · exact ⟨.rejectedHandshake, [], rfl⟩
  · obtain ⟨later, hevents⟩ := Timed.events_bind (x := rejectMasked world drainBudget kind reason)
      (serveAdmitted crypto runtime world) u
    rw [hjudge, hevents, rejectMasked_apply]
    exact ⟨kind.event, _, rfl⟩

theorem serveMaskedFreely_waits {event : Instant × ConnectionEvent}
    (h : (serveMaskedFreely crypto runtime world t).events = (t, .prelude) :: event :: rest) :
    ∃ ready ∈ world.tcp.readExact (preludeLen + nonceLen), event.1 = max t ready.1 := by
  unfold serveMaskedFreely at h
  cases hready : world.tcp.readExact (preludeLen + nonceLen) with
  | none =>
    have hpending : admitFreely crypto.hmac world runtime.security.current.maskKeys
        (fromSecs runtime.config.handshakeTimeoutSeconds.toNat) t = ⟨[(t, .prelude)], none⟩ := by
      simp only [admitFreely, hready]
      rfl
    rw [bind_of_pending (congrArg Trace.done hpending), hpending] at h
    cases h
  | some ready =>
    refine ⟨ready, rfl, ?_⟩
    rw [Timed.bind_after (admitFreely_ready _ _ hready), Trace.after_events] at h
    obtain ⟨first, later, hopens⟩ := judgePrelude_opens crypto runtime world
      runtime.security.current.maskKeys
      (fromSecs runtime.config.handshakeTimeoutSeconds.toNat) (some ready.2) (max t ready.1)
    rw [hopens] at h
    cases h
    rfl

theorem serveMasked_free_iff (hzero : runtime.config.handshakeTimeoutSeconds = 0) :
    serveMasked crypto runtime world t = serveMaskedFreely crypto runtime world t ↔
      PreludeInTime world t := by
  refine ⟨fun h => ?_, serveMasked_inTime hzero⟩
  by_contra hlate
  have hevents := serveMasked_late crypto hzero hlate
  rw [h] at hevents
  obtain ⟨ready, hready, hinstant⟩ := serveMaskedFreely_waits hevents
  exact hlate ⟨ready, hready, hinstant.ge⟩

/-- A connection runs as without deadlines exactly if its prelude is there in time. -/
theorem zero_timeout_disables_iff (crypto : Crypto) (runtime : ServerRuntime)
    (hzero : runtime.config.handshakeTimeoutSeconds = 0) (world : World) (t : Instant) :
    (handleConnection crypto runtime world t = handleConnectionFreely crypto runtime world t ∧
        handleQuicConnection crypto runtime world t =
          handleQuicConnectionFreely crypto runtime world t) ↔
      (world.setNodelay = .ok () → world.isShutdown t = false → runtime.masking ≠ none →
        PreludeInTime world t) := by
  rw [handleQuicConnection_zero hzero, and_iff_left rfl]
  cases hnodelay : world.setNodelay with
  | error err => simp [handleConnection, handleConnectionFreely, hnodelay]
  | ok =>
    simp only [handleConnection, handleConnectionFreely, hnodelay, whileRunning_apply]
    cases hshutdown : world.isShutdown t with
    | true => simp
    | false =>
      cases hmasking : runtime.masking with
      | none => simp [serveTcp_zero hzero]
      | some masking => simp [serveMasked_free_iff hzero]

def zeroConfig (masking : Option MaskingConfig) : ServerConfig :=
  { sampleConfig with limits := some { handshakeTimeoutSeconds := some 0 }, masking := masking }

theorem zero_timeout_disables_plain :
    ∃ runtime, prepareServerRuntime sampleCrypto.hmac sampleHost (zeroConfig none) = .ok runtime ∧
      runtime.config.handshakeTimeoutSeconds = 0 ∧
      handleConnection sampleCrypto runtime (guessingPeer none) 0 =
        handleConnectionFreely sampleCrypto runtime (guessingPeer none) 0 := by
  obtain ⟨runtime, hstart, hzero, hmasking⟩ := exists_ok_of_any
    (x := prepareServerRuntime sampleCrypto.hmac sampleHost (zeroConfig none)) (p := fun runtime =>
      runtime.config.handshakeTimeoutSeconds = 0 ∧ runtime.masking.isNone = true)
    (by decide +kernel)
  refine ⟨runtime, hstart, hzero, ?_⟩
  refine ((zero_timeout_disables_iff sampleCrypto runtime hzero (guessingPeer none) 0).mpr ?_).1
  intro _ _ hne
  exact absurd (Option.isNone_iff_eq_none.mp hmasking) hne

def latePrelude : TcpStream where
  arrivals := ((List.replicate 76 0).set 47 1).map fun byte => (1000000, byte)
  ending := none

/-- The prelude is not waited for, and the peer is counted as failing. -/
theorem late_prelude_rejected :
    let world : World := { guessingPeer none with tcp := latePrelude }
    ∃ runtime, prepareServerRuntime sampleCrypto.hmac sampleHost
        (zeroConfig (some { enabled := some true })) = .ok runtime ∧
      runtime.config.handshakeTimeoutSeconds = 0 ∧
      (handleConnection sampleCrypto runtime world 0).events =
        [(0, .prelude), (0, .maskPreludeReject), (0, .failedHandshake .auth),
          (0, .recordFailure (.v4 (.new 203 0 113 9)))] ∧
      (1000000, .beginHandshake) ∈ (handleConnectionFreely sampleCrypto runtime world 0).events :=
  exists_ok_of_any (by decide +kernel)

end UncrownedKing.Server
