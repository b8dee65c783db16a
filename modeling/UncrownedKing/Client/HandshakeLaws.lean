import UncrownedKing.Client.Handshake
import UncrownedKing.Relay.ReceiveLimitLaws
import UncrownedKing.Server.HandshakeLaws

/-!
# The handshake of two parties

A client and a server on one channel that exchange nothing but frames. With a
credential the server has, the exchange succeeds at both ends and they agree on
the limits; without one the client learns that it was refused.
-/

namespace UncrownedKing.Client

open Lib Proto Auth Server Relay

theorem orFail_ok {x : Except ε α} (h : x = .ok a) (source : ε → HandshakeSource)
    (phase : String) (failurePhase : EndpointFailurePhase) :
    orFail x source phase failurePhase = .ok a := by
  subst h
  rfl

theorem connectionFrame_valid (frameType : FrameType) (payload : Bytes) :
    validateConnectionFrame (connectionFrame frameType payload) frameType = .ok () := by
  simp [validateConnectionFrame, connectionFrame]

structure ClientIdentity.Usable (client : ClientIdentity) : Prop where
  keyId : validateKeyId client.keyId = .ok ()
  secret : validateSharedSecret client.secret = .ok ()

section

variable {client : ClientIdentity} {exporter : Exporter} {serverNonce : Nonce} {serverTime : UInt64}
  {hmac : Bytes → Bytes → Tag} {challenge : AuthChallenge}

def ClientIdentity.response (client : ClientIdentity) (tag : Tag) : AuthResponse :=
  ⟨client.keyId, client.nonce, client.unixNow, [], tag⟩

/-- The tag is the one the server computes. -/
structure Answers (hmac : Bytes → Bytes → Tag) (client : ClientIdentity) (exporter : Exporter)
    (challenge : AuthChallenge) (tag : Tag) (payload : Bytes) : Prop extends client.Usable where
  computed : computeAuthTag hmac client.secret exporter challenge client.keyId client.nonce
    client.unixNow [] = .ok tag
  encoded : (client.response tag).encode = .ok payload

theorem authMac_exists (h : client.Usable) :
    ∃ mac, authMac client.secret exporter ⟨serverNonce, serverTime, [], []⟩ client.keyId
      client.nonce client.unixNow [] = .ok mac := by
  obtain ⟨-, hlong⟩ := validateKeyId_ok.mp h.keyId
  obtain ⟨challenge, hchallenge⟩ : ∃ x, AuthChallenge.encode ⟨serverNonce, serverTime, [], []⟩ =
      .ok x := AuthChallenge.encode_ok_iff.mpr (by simp)
  obtain ⟨len, hlen⟩ := Varint.encodedLen_ok_iff.mpr (hlong.trans (by decide))
  obtain ⟨keyId, hkeyId⟩ := putVarbytes_exists (hlong.trans (by decide))
  have hresponse : encodedResponsePrefix client.keyId client.nonce client.unixNow [] = .ok _ :=
    bind_eq_ok.mpr ⟨len, liftProtocol_ok.mpr hlen,
      bind_eq_ok.mpr ⟨_, rfl, bind_eq_ok.mpr ⟨keyId, hkeyId, rfl⟩⟩⟩
  exact ⟨_, bind_eq_ok.mpr ⟨(), h.secret, bind_eq_ok.mpr ⟨challenge, hchallenge,
    bind_eq_ok.mpr ⟨_, hresponse, bind_eq_ok.mpr ⟨(), h.keyId, rfl⟩⟩⟩⟩⟩

theorem answers_exist (h : client.Usable) (hmac : Bytes → Bytes → Tag) (exporter : Exporter)
    (serverNonce : Nonce) (serverTime : UInt64) :
    ∃ tag payload, Answers hmac client exporter ⟨serverNonce, serverTime, [], []⟩ tag payload := by
  obtain ⟨mac, hmac'⟩ := authMac_exists h
  have htag : computeAuthTag hmac client.secret exporter ⟨serverNonce, serverTime, [], []⟩
      client.keyId client.nonce client.unixNow [] = .ok (mac.finalize hmac) :=
    computeAuthTag_ok.mpr ⟨mac, hmac', rfl⟩
  obtain ⟨payload, hpayload⟩ : ∃ x, (client.response (mac.finalize hmac)).encode = .ok x :=
    AuthResponse.encode_ok_iff.mpr ⟨validateKeyId_ok.mp h.keyId, by simp [ClientIdentity.response]⟩
  exact ⟨_, payload, h, htag, hpayload⟩

theorem Answers.built (h : Answers hmac client exporter challenge tag payload) :
    AuthResponse.forChallenge hmac client.keyId client.secret exporter challenge client.nonce
      client.unixNow [] = .ok (client.response tag) :=
  bind_eq_ok.mpr ⟨(), h.keyId, bind_eq_ok.mpr ⟨(), h.secret, bind_eq_ok.mpr ⟨_, h.computed, rfl⟩⟩⟩

theorem Answers.answered (h : Answers hmac client exporter challenge tag payload)
    (hchallenge : challenge.encode = .ok bytes) :
    answerChallenge hmac client exporter (.ok (connectionFrame .authChallenge bytes)) =
      .ok (connectionFrame .authResponse payload) := by
  have hlength : payload.length ≤ Varint.maxVarint :=
    (AuthResponse.encode_length h.encoded rfl).trans (by decide)
  refine bind_eq_ok.mpr ⟨_, rfl, bind_eq_ok.mpr ⟨(), orFail_ok (connectionFrame_valid _ _) _ _ _,
    bind_eq_ok.mpr ⟨challenge, orFail_ok (AuthChallenge.decode_eq_ok.mpr hchallenge) _ _ _, ?_⟩⟩⟩
  exact bind_eq_ok.mpr ⟨_, orFail_ok h.built _ _ _, bind_eq_ok.mpr
    ⟨payload, orFail_ok h.encoded _ _ _, orFail_ok (connectionFrame_new .authResponse hlength) _ _ _⟩⟩

end

/-- Every key set, from what shall be agreed on. -/
def announce (agreed : NegotiatedSettings) : Settings :=
  Settings.empty.set .protocolRevision protocolRevisionV1
    |>.set .maxFrameSize agreed.maxFrameSize
    |>.set .maxStreams agreed.maxStreams
    |>.set .maxUdpFlows agreed.maxUdpFlows
    |>.set .supportsUdpDatagram agreed.supportsUdpDatagram.toNat
    |>.set .supportsUdpStreamFallback agreed.supportsUdpStreamFallback.toNat
    |>.set .idleTimeoutSeconds agreed.idleTimeoutSeconds

structure InBounds (agreed : NegotiatedSettings) : Prop where
  frameMin : minTcpRelayFrameSize ≤ agreed.maxFrameSize
  frameMax : agreed.maxFrameSize ≤ maxFramePayloadSize
  streamsMin : 0 < agreed.maxStreams
  streamsMax : agreed.maxStreams ≤ maxNegotiatedFlows
  udpMax : agreed.maxUdpFlows ≤ agreed.maxStreams
  idleMax : agreed.idleTimeoutSeconds ≤ maxNegotiatedIdleTimeoutSeconds

theorem InBounds.negotiated (h : InBounds agreed) : (announce agreed).negotiated = .ok agreed := by
  have hframe : agreed.maxFrameSize ≠ 0 := by
    intro hzero
    have hmin := h.frameMin
    rw [hzero] at hmin
    cases hmin
  have hbool : ∀ b : Bool, ¬1 < b.toNat ∧ (b.toNat != 0) = b := by decide
  have hget : ∀ key, (announce agreed).get key = match key with
      | .protocolRevision => some protocolRevisionV1
      | .maxFrameSize => some agreed.maxFrameSize
      | .maxStreams => some agreed.maxStreams
      | .maxUdpFlows => some agreed.maxUdpFlows
      | .supportsUdpDatagram => some agreed.supportsUdpDatagram.toNat
      | .supportsUdpStreamFallback => some agreed.supportsUdpStreamFallback.toNat
      | .idleTimeoutSeconds => some agreed.idleTimeoutSeconds := by
    intro key
    cases key <;> rfl
  simp [Settings.negotiated, checkProtocolRevision, rejectZeroSetting, rejectBooleanSetting,
    rejectSmallSetting, rejectLargeSetting, rejectSetting, hget, hframe, hbool,
    h.streamsMin.ne', bind, Except.bind, pure, Except.pure, Nat.not_lt.mpr h.frameMin,
    Nat.not_lt.mpr h.frameMax, Nat.not_lt.mpr h.streamsMax, Nat.not_lt.mpr h.udpMax,
    Nat.not_lt.mpr (h.udpMax.trans h.streamsMax), Nat.not_lt.mpr h.idleMax]

theorem InBounds.encoded (h : InBounds agreed) :
    ∃ payload, (announce agreed).encode = .ok payload ∧
      Settings.decode payload = .ok (announce agreed) := by
  refine Settings.decode_encode fun key value hvalue => ?_
  have hframe := h.frameMax.trans (by decide : maxFramePayloadSize ≤ Varint.maxVarint)
  have hstreams := h.streamsMax.trans (by decide : maxNegotiatedFlows ≤ Varint.maxVarint)
  have hudp := h.udpMax.trans hstreams
  have hidle := h.idleMax.trans (by decide : maxNegotiatedIdleTimeoutSeconds ≤ Varint.maxVarint)
  have hbool : ∀ b : Bool, b.toNat ≤ Varint.maxVarint := by decide
  cases key <;> cases hvalue
  all_goals first | assumption | exact hbool _ | decide

theorem rejectSmallLimit_ok : rejectSmallLimit name value minimum = .ok () ↔ minimum ≤ value := by
  unfold rejectSmallLimit
  split <;> simp_all

theorem rejectLargeLimit_ok : rejectLargeLimit name value maximum = .ok () ↔ value ≤ maximum := by
  unfold rejectLargeLimit
  split <;> simp_all

def serverLimits (config : ServerConfig) (datagrams : Bool) : NegotiatedSettings where
  maxFrameSize := config.maxFrameSize.toNat
  maxStreams := config.maxStreams.toNat
  maxUdpFlows := config.maxUdpFlows.toNat
  supportsUdpDatagram := datagrams && config.maxUdpFlows != 0
  supportsUdpStreamFallback := config.maxUdpFlows != 0
  idleTimeoutSeconds := config.idleTimeoutSeconds.toNat

theorem serverLimits_inBounds {config : ServerConfig} (h : config.validateLimits = .ok ())
    (datagrams : Bool) : InBounds (serverLimits config datagrams) := by
  have hall := (checkAll_ok _).mp h
  have hlarge : ∀ name value maximum, rejectLargeLimit name value maximum = .ok () →
      value.toNat ≤ maximum.toNat :=
    fun _ _ _ h => UInt64.le_iff_toNat_le.mp (rejectLargeLimit_ok.mp h)
  have hframe := hall (rejectSmallLimit "max_frame_size" config.maxFrameSize
    ServerConfig.minTcpRelayFrameSize) (by simp)
  have hstreams := hall (rejectZeroLimit "max_streams" config.maxStreams) (by simp)
  exact {
    frameMin := UInt64.le_iff_toNat_le.mp (rejectSmallLimit_ok.mp hframe)
    frameMax := hlarge "max_frame_size" _ ServerConfig.maxFramePayloadSize (hall _ (by simp))
    streamsMin := toNat_pos (rejectZeroLimit_ok.mp hstreams)
    streamsMax := hlarge "max_streams" _ ServerConfig.maxNegotiatedFlows (hall _ (by simp))
    udpMax := hlarge "max_udp_flows" _ config.maxStreams (hall _ (by simp))
    idleMax := hlarge "idle_timeout_seconds" _ ServerConfig.maxNegotiatedIdleTimeoutSeconds
      (hall _ (by simp)) }

def clientLimits (config : SessionConfig) (datagrams : Bool) : NegotiatedSettings where
  maxFrameSize := maxFramePayloadSize
  maxStreams := min config.maxSocksConnections maxNegotiatedFlows
  maxUdpFlows := min config.maxSocksConnections maxNegotiatedFlows
  supportsUdpDatagram := datagrams
  supportsUdpStreamFallback := true
  idleTimeoutSeconds := 0

theorem clientLimits_inBounds {config : SessionConfig} (h : 0 < config.maxSocksConnections)
    (datagrams : Bool) : InBounds (clientLimits config datagrams) where
  frameMin := (by decide : minTcpRelayFrameSize ≤ maxFramePayloadSize)
  frameMax := Nat.le_refl _
  streamsMin := Nat.lt_min.mpr ⟨h, by decide⟩
  streamsMax := Nat.min_le_right _ _
  udpMax := Nat.le_refl _
  idleMax := Nat.zero_le _

theorem exchangeSettings_ok {config : SessionConfig} (hconfig : 0 < config.maxSocksConnections)
    (datagrams : Bool) (hdecode : Settings.decode payload = .ok settings)
    (hagreed : settings.negotiated = .ok agreed) :
    ∃ own, exchangeSettings config datagrams (.ok (connectionFrame .settings payload)) =
        .ok (settings, connectionFrame .settings own) ∧ own.length ≤ minTcpRelayFrameSize ∧
      settingsOf (connectionFrame .settings own) = some (clientLimits config datagrams) := by
  have hbounds := clientLimits_inBounds hconfig datagrams
  obtain ⟨own, hown, hread⟩ := hbounds.encoded
  have hshort := Settings.encode_length hown
  have hserver : decodeServerSettingsFrame (connectionFrame .settings payload) = .ok settings :=
    bind_eq_ok.mpr ⟨(), orFail_ok (connectionFrame_valid _ _) _ _ _, bind_eq_ok.mpr
      ⟨settings, orFail_ok hdecode _ _ _, bind_eq_ok.mpr ⟨_, orFail_ok hagreed _ _ _, rfl⟩⟩⟩
  refine ⟨own, bind_eq_ok.mpr ⟨_, rfl, bind_eq_ok.mpr ⟨settings, hserver, bind_eq_ok.mpr
    ⟨agreed, orFail_ok hagreed _ _ _, bind_eq_ok.mpr ⟨own, orFail_ok hown _ _ _, bind_eq_ok.mpr
      ⟨_, orFail_ok (connectionFrame_new .settings (hshort.trans (by decide))) _ _ _, rfl⟩⟩⟩⟩⟩,
    hshort, ?_⟩
  simp only [settingsOf, connectionFrame_valid]
  exact toOption_eq_some.mpr (bind_eq_ok.mpr ⟨_, hread, hbounds.negotiated⟩)

theorem exchangeSettings_refused (config : SessionConfig) (datagrams : Bool)
    (hcode : ErrorCode.decodePayload payload = .ok code) :
    exchangeSettings config datagrams (.ok (connectionFrame .error payload)) =
      .error (.server code) := by
  have hserver : decodeServerSettingsFrame (connectionFrame .error payload) =
      .error (.server code) := by
    simp [decodeServerSettingsFrame, orFail, Except.mapError, connectionFrame,
      validateConnectionFrame, hcode, bind, Except.bind, throw, throwThe,
      MonadExceptOf.throw]
  simp [exchangeSettings, hserver, orFail, Except.mapError, bind, Except.bind]

section

variable {world : Server.World} {config : ServerConfig}

theorem handshake_bind {x : HandshakeM α} {f : α → HandshakeM β}
    (h : x.run t = ⟨events, some (t', .ok a)⟩) :
    (x >>= f).run t = ((f a).run t').after events := by
  rw [ExceptT.run_bind, Timed.bind_of_done (congrArg Trace.done h), h]

theorem mapErr_ok {x : Except ε α} (h : x = .ok a) (f : ε → AnyError) (t : Instant) :
    (mapErr x f).run t = ⟨[], some (t, .ok a)⟩ := by
  subst h
  rfl

theorem emit_ok (event : ConnectionEvent) (t : Instant) :
    (emit event).run t = ⟨[(t, event)], some (t, .ok ())⟩ := rfl

theorem await_ok {a : α} (h : ready = some (at', a)) (t : Instant) :
    ((Timed.await ready : ConnectionM α) : HandshakeM α).run t =
      ⟨[], some (max t at', .ok a)⟩ := by
  subst h
  rfl

theorem tryUnixNow_ok (h : world.wallClock t = some now) (message : String) :
    (tryUnixNow world message).run t = ⟨[], some (t, .ok now)⟩ := by
  refine (handshake_bind (a := t) rfl).trans ?_
  rw [h]
  rfl

theorem sendAuthChallenge_ok (hwritten : world.challengeWritten = some (written, .ok ()))
    (hpayload : AuthChallenge.encode ⟨world.serverNonce, now, [], []⟩ = .ok payload)
    (hlength : payload.length ≤ Varint.maxVarint) (t : Instant) :
    (sendAuthChallenge world now).run t =
      ⟨[(t, .sent (connectionFrame .authChallenge payload))],
        some (max t written, .ok ⟨world.serverNonce, now, [], []⟩)⟩ := by
  unfold sendAuthChallenge
  rw [handshake_bind (mapErr_ok hpayload _ t),
    handshake_bind (mapErr_ok (connectionFrame_new .authChallenge hlength) _ t),
    handshake_bind (emit_ok _ t), handshake_bind (await_ok hwritten t),
    handshake_bind (mapErr_ok rfl _ _)]
  rfl

theorem readAuthResponse_ok
    (hread : world.response config.maxPreAuthBytes =
      some (arrives, .ok (connectionFrame .authResponse payload)))
    (hpayload : response.encode = .ok payload) (t : Instant) :
    (readAuthResponse world config).run t = ⟨[], some (max t arrives, .ok response)⟩ := by
  have hdecode : AuthResponse.decode (connectionFrame .authResponse payload).payload =
      .ok response := AuthResponse.decode_eq_ok.mpr hpayload
  unfold readAuthResponse
  rw [handshake_bind (await_ok hread t)]
  simp only [connectionFrame_valid, hdecode]
  rfl

theorem checkReplay_ok (hlock : world.replayCache = some (locked, cache))
    (hfresh : (cache.checkAndInsertAt (max t locked) challenge.serverNonce response.clientNonce).2 =
      .ok ()) :
    (checkReplay world challenge response).run t = ⟨[], some (max t locked, .ok ())⟩ := by
  unfold checkReplay
  rw [handshake_bind (await_ok hlock t), handshake_bind (a := max t locked) rfl, hfresh]
  rfl

theorem refuse_sends (h : Server.connectionErrorFrame .authFailed = .ok frame) (phase : String)
    (err : AuthError) (t : Instant) :
    (t, .sent frame) ∈ ((refuse world phase err : HandshakeM α).run t).events := by
  have hwrite : (t, .sent frame) ∈ (writeConnectionError world .authFailed t).events := by
    simp only [writeConnectionError, h]
    exact Timed.mem_events_bind_left (List.mem_singleton_self _)
  rw [refuse, handshake_bind (emit_ok _ t), failWith, ExceptT.run_bind]
  exact List.mem_append_right _
    (Timed.mem_events_bind_left (Timed.mem_events_bind_left hwrite))

end

/-- A client and a server on two ends of one channel, which exports the same to both. -/
structure Exchange where
  crypto : Crypto
  config : ServerConfig
  authentication : SecurityGeneration
  world : Server.World
  start : Instant
  serverDatagrams : Bool
  client : ClientIdentity
  session : SessionConfig
  clientDatagrams : Bool
  exporter : Exporter
  /-- When the server has the client's response. -/
  arrives : Instant

def receive (limit : Nat) (frame : Frame) : Except FrameIoError Frame :=
  if frame.header.length ≤ limit then .ok frame
  else .error (.protocol (.oversizedFrame frame.header.length limit))

namespace Exchange

variable (x : Exchange)

def serverTime : UInt64 := (x.world.wallClock x.start).getD unreadableClock

def challenge : AuthChallenge := ⟨x.world.serverNonce, x.serverTime, [], []⟩

def challengeFrame : Frame :=
  connectionFrame .authChallenge (x.challenge.encode.toOption.getD [])

/-- The client, when the server's challenge is followed by `reply`. -/
def clientRun (reply : Frame) : List Frame × Except HandshakeError Settings :=
  authenticateOverCarrier x.crypto.hmac x.session x.client x.exporter x.clientDatagrams
    (receive defaultMaxFrameSize x.challengeFrame) (receive defaultMaxFrameSize reply)

/-- The first frame the client writes is the one the server reads. -/
def serverWorld (reply : Frame) : Server.World :=
  { x.world with
    response := fun limit =>
      (x.clientRun reply).1.head?.map fun frame => (x.arrives, receive limit.toNat frame) }

def serverRun (reply : Frame) : Trace ConnectionEvent (Except AnyError AuthenticatedIdentity) :=
  (authenticateCarrier x.crypto (x.serverWorld reply) x.exporter x.authentication x.config).run
    x.start

/-- The server, once it has the response. -/
def verdict (reply : Frame) (response : AuthResponse) (now : UInt64) :
    HandshakeM AuthenticatedIdentity :=
  match verifyAuthResponseIdentityStateless x.crypto x.authentication.credentials x.exporter
      x.challenge response now x.authentication.authSkew with
  | .error err => refuse (x.serverWorld reply) "verify auth response" err
  | .ok identity => do
    checkReplay (x.serverWorld reply) x.challenge response
    pure identity

/-- The channel works, and the client has something to show. -/
structure Carried (written : Instant) : Prop where
  clock : x.world.wallClock x.start = some x.serverTime
  sent : x.world.challengeWritten = some (written, .ok ())
  usable : x.client.Usable
  fits : ∀ tag payload, (x.client.response tag).encode = .ok payload →
    payload.length ≤ x.config.maxPreAuthBytes.toNat

/-- The client's credential is one the server has, both clocks agree well enough and the
nonces are new. -/
structure Honest (written locked : Instant) (now : UInt64) (credential : Credential)
    (cache : ReplayCache) : Prop extends x.Carried written where
  limits : x.config.validateLimits = .ok ()
  streams : 0 < x.session.maxSocksConnections
  first : x.authentication.credentials.find? (·.keyId = x.client.keyId) = some credential
  secret : credential.secret = x.client.secret
  verifyClock : x.world.wallClock (max (max x.start written) x.arrives) = some now
  active : credential.isActiveAt now
  serverFresh : timestampWithinSkew x.serverTime now x.authentication.authSkew
  clientFresh : timestampWithinSkew x.client.unixNow now x.authentication.authSkew
  lock : x.world.replayCache = some (locked, cache)
  fresh : (cache.checkAndInsertAt (max (max (max x.start written) x.arrives) locked)
    x.world.serverNonce x.client.nonce).2 = .ok ()

variable {x} {written : Instant}

theorem challenge_encoded (x : Exchange) :
    ∃ payload, x.challenge.encode = .ok payload ∧ payload.length ≤ defaultMaxFrameSize ∧
      x.challengeFrame = connectionFrame .authChallenge payload := by
  obtain ⟨payload, hpayload⟩ : ∃ payload, x.challenge.encode = .ok payload :=
    AuthChallenge.encode_ok_iff.mpr (by simp [challenge])
  refine ⟨payload, hpayload, ?_, by rw [challengeFrame, hpayload]; rfl⟩
  obtain ⟨-, -, capabilities, limits, hcapabilities, hlimits, rfl⟩ :=
    AuthChallenge.encode_eq_ok.mp hpayload
  have hcapabilitiesLen := putVarbytes_length hcapabilities
  have hlimitsLen := putVarbytes_length hlimits
  simp only [challenge, List.length_nil] at hcapabilitiesLen hlimitsLen
  simp [putU64, defaultMaxFrameSize]
  omega

theorem receive_connectionFrame (h : payload.length ≤ limit) (frameType : FrameType) :
    receive limit (connectionFrame frameType payload) = .ok (connectionFrame frameType payload) :=
  if_pos h

/-- The client answers, and goes on with the server's reply. -/
theorem Carried.client (h : x.Carried written) (frameType : FrameType)
    (hreply : payload.length ≤ defaultMaxFrameSize) :
    ∃ tag answer, Answers x.crypto.hmac x.client x.exporter x.challenge tag answer ∧
      x.clientRun (connectionFrame frameType payload) =
        concluded (connectionFrame .authResponse answer)
          (exchangeSettings x.session x.clientDatagrams
            (.ok (connectionFrame frameType payload))) := by
  obtain ⟨challenge, hchallenge, hlimit, hframe⟩ := x.challenge_encoded
  obtain ⟨tag, answer, hanswers⟩ :=
    answers_exist h.usable x.crypto.hmac x.exporter x.world.serverNonce x.serverTime
  refine ⟨tag, answer, hanswers, ?_⟩
  simp only [clientRun, authenticateOverCarrier, hframe, receive_connectionFrame hlimit,
    receive_connectionFrame hreply, hanswers.answered hchallenge]

/-- The server reads that answer, and goes on to verify it. -/
theorem Carried.server (h : x.Carried written) {reply : Frame}
    (hanswers : Answers x.crypto.hmac x.client x.exporter x.challenge tag payload)
    (hwrote : (x.clientRun reply).1.head? = some (connectionFrame .authResponse payload))
    (hnow : x.world.wallClock (max (max x.start written) x.arrives) = some now) :
    x.serverRun reply =
      ((x.verdict reply (x.client.response tag) now).run (max (max x.start written) x.arrives)).after
        [(x.start, .sent x.challengeFrame)] := by
  obtain ⟨challenge, hchallenge, hlimit, hframe⟩ := x.challenge_encoded
  have hread : (x.serverWorld reply).response x.config.maxPreAuthBytes =
      some (x.arrives, .ok (connectionFrame .authResponse payload)) := by
    simp only [serverWorld, hwrote, Option.map_some,
      receive_connectionFrame (h.fits _ _ hanswers.encoded)]
  have hclock : (x.serverWorld reply).wallClock x.start = some x.serverTime := h.clock
  have hwritten : (x.serverWorld reply).challengeWritten = some (written, .ok ()) := h.sent
  have hnow : (x.serverWorld reply).wallClock (max (max x.start written) x.arrives) = some now :=
    hnow
  have hsent := sendAuthChallenge_ok hwritten hchallenge (hlimit.trans (by decide)) x.start
  unfold serverRun authenticateCarrier
  rw [handshake_bind (tryUnixNow_ok hclock _), handshake_bind hsent,
    handshake_bind (readAuthResponse_ok hread hanswers.encoded _),
    handshake_bind (tryUnixNow_ok hnow _), hframe]
  rfl

theorem Honest.accepts (h : x.Honest written locked now credential cache)
    (hanswers : Answers x.crypto.hmac x.client x.exporter x.challenge tag payload) :
    verifyAuthResponseIdentityStateless x.crypto x.authentication.credentials x.exporter x.challenge
      (x.client.response tag) now x.authentication.authSkew = .ok credential.identity := by
  have hkey : credential.keyId = x.client.keyId := by simpa using List.find?_some h.first
  obtain ⟨hclock, hstatus, hbefore, hafter⟩ := Credential.isActiveAt_iff.mp h.active
  obtain ⟨hserver, -, hserverFresh⟩ := timestampWithinSkew_iff.mp h.serverFresh
  obtain ⟨hclient, -, hclientFresh⟩ := timestampWithinSkew_iff.mp h.clientFresh
  obtain ⟨mac, hmac, htag⟩ := computeAuthTag_ok.mp hanswers.computed
  obtain ⟨-, -, payload', part, hpayload, hpart, rfl⟩ := authMac_ok.mp hmac
  have haccepts : Accepts x.crypto x.authentication.credentials x.exporter x.challenge
      (x.client.response tag) now x.authentication.authSkew credential :=
    ⟨h.first, hkey ▸ validateKeyId_ok.mp h.usable.keyId,
      h.secret ▸ validateSharedSecret_ok.mp h.usable.secret,
      ⟨payload', part, hpayload, hpart, h.secret ▸ htag⟩, hstatus, hbefore, hafter, ⟨hclock, hserver, hclient⟩, hserverFresh, hclientFresh⟩
  rw [verifyAuthResponseIdentityStateless, haccepts.verified]
  rfl

end Exchange

/-- With a credential the server has, the handshake succeeds at both ends: the server sends only
its challenge and learns who the client is, the client gets the limits of the server's
configuration, and the server accepts the settings that follow the client's response. -/
theorem handshake_completes (x : Exchange) (written locked : Instant) (now : UInt64)
    (credential : Credential) (cache : ReplayCache)
    (h : x.Honest written locked now credential cache) :
    ∃ reply response own settings, greeting x.config true x.serverDatagrams = .ok reply ∧
      x.serverRun reply = ⟨[(x.start, .sent x.challengeFrame)],
        some (max (max (max x.start written) x.arrives) locked, .ok credential.identity)⟩ ∧
      x.clientRun reply = ([response, own], .ok settings) ∧
      settings.negotiated = .ok (serverLimits x.config x.serverDatagrams) ∧
      receive x.config.maxFrameSize.toNat own = .ok own ∧
      settingsOf own = some (clientLimits x.session x.clientDatagrams) := by
  have hbounds := serverLimits_inBounds h.limits x.serverDatagrams
  obtain ⟨payload, hpayload, hdecode⟩ := hbounds.encoded
  have hshort := Settings.encode_length hpayload
  have hreply : greeting x.config true x.serverDatagrams = .ok (connectionFrame .settings payload) :=
    bind_eq_ok.mpr ⟨payload, hpayload, connectionFrame_new .settings (hshort.trans (by decide))⟩
  obtain ⟨tag, answer, hanswers, hclient⟩ := h.client .settings (hshort.trans (by decide))
  obtain ⟨own, hown, hownShort, haccepted⟩ :=
    exchangeSettings_ok h.streams x.clientDatagrams hdecode hbounds.negotiated
  rw [hown] at hclient
  refine ⟨_, _, _, _, hreply, ?_, hclient, hbounds.negotiated,
    Exchange.receive_connectionFrame (hownShort.trans hbounds.frameMin) _, haccepted⟩
  have hlock : (x.serverWorld (connectionFrame .settings payload)).replayCache =
      some (locked, cache) := h.lock
  rw [h.server hanswers (by rw [hclient]; rfl) h.verifyClock, Exchange.verdict,
    h.accepts hanswers]
  dsimp only
  rw [handshake_bind (checkReplay_ok hlock h.fresh)]
  rfl

/-- A client whose secret starts with `first`, and a server that has the secret that starts
with zero. -/
def sampleExchange (first : Nat) : Exchange :=
  let secret := fun first => (List.range 32).map fun i => UInt8.ofNat (first + i)
  { crypto := ⟨fun key _ => .replicate 32 (key.headD 0), .replicate 32 0⟩
    config := { listen := "", certPath := "", keyPath := "", credentials := [] }
    authentication := ⟨1, [⟨utf8 "a", secret 0, .active, none, none, none, sampleKeyId_length⟩], [],
      ⟨[]⟩, fromSecs 30⟩
    world := { guessingPeer none with replayCache := some (0, .withMaxEntries (fromSecs 300) 16) }
    start := 0
    serverDatagrams := true
    client := ⟨utf8 "a", secret first, .replicate 32 5, 101⟩
    session := ⟨8, 16384, 65536, 65536⟩
    clientDatagrams := false
    exporter := .replicate 32 9
    arrives := 1 }

theorem sample_handshake_completes :
    ∃ reply, ((sampleExchange 0).clientRun reply).2.isOk ∧
      ((sampleExchange 0).serverRun reply).done = some (1, .ok ⟨utf8 "a", none⟩) := by
  have h : (sampleExchange 0).Honest 0 0 100 _ _ :=
    { clock := rfl
      sent := rfl
      usable := ⟨by decide +kernel, by decide +kernel⟩
      fits := fun _ _ h => (AuthResponse.encode_length h rfl).trans (by decide +kernel)
      limits := by decide +kernel
      streams := by decide +kernel
      first := rfl
      secret := rfl
      verifyClock := rfl
      active := by decide +kernel
      serverFresh := by decide +kernel
      clientFresh := by decide +kernel
      lock := rfl
      fresh := by decide +kernel }
  obtain ⟨reply, _, _, _, -, hserver, hclient, -⟩ := handshake_completes _ 0 0 100 _ _ h
  exact ⟨reply, by rw [hclient]; rfl, congrArg Trace.done hserver⟩

/-- A client whose response does not verify is told so: it ends with the server's code, which is
a rejection of its credential and no reason to avoid the endpoint, and it has sent no more than
its response. -/
theorem refused_client_informed (x : Exchange) (written : Instant) (now : UInt64)
    (err : AuthError) (h : x.Carried written)
    (hnow : x.world.wallClock (max (max x.start written) x.arrives) = some now)
    (hrefused : ∀ response, AuthResponse.forChallenge x.crypto.hmac x.client.keyId x.client.secret
      x.exporter x.challenge x.client.nonce x.client.unixNow [] = .ok response →
        verifyAuthResponseIdentityStateless x.crypto x.authentication.credentials x.exporter
          x.challenge response now x.authentication.authSkew = .error err) :
    ∃ reply response error, Server.connectionErrorFrame .authFailed = .ok reply ∧
      (max (max x.start written) x.arrives, .sent reply) ∈ (x.serverRun reply).events ∧
      (∃ ended, (x.serverRun reply).done =
        some (ended, .error (phaseError "verify auth response" .auth (.auth err)))) ∧
      x.clientRun reply = ([response], .error error) ∧ isCredentialRejection error.attempt ∧
      ∀ endpoint, degrades endpoint error.attempt = false := by
  have hcode : ErrorCode.decodePayload [6] = .ok .authFailed := by decide
  have hreply : Server.connectionErrorFrame .authFailed = .ok (connectionFrame .error [6]) := by
    decide
  obtain ⟨tag, answer, hanswers, hclient⟩ :=
    h.client .error (by decide : ([6] : Bytes).length ≤ defaultMaxFrameSize)
  rw [exchangeSettings_refused x.session x.clientDatagrams hcode] at hclient
  have hserver := h.server hanswers (by rw [hclient]; rfl) hnow
  simp only [Exchange.verdict, hrefused _ hanswers.built] at hserver
  refine ⟨_, _, _, hreply, ?_, ⟨_, (congrArg Trace.done hserver).trans (refuse_done _ _ _)⟩, hclient,
    rfl, fun endpoint => ?_⟩
  · rw [hserver]
    exact List.mem_append_right _ (refuse_sends hreply _ _ _)
  · simp [degrades, HandshakeError.attempt, isCredentialRejection]

theorem sample_client_informed :
    ∃ reply error, ((sampleExchange 1).clientRun reply).2 = .error error ∧
      isCredentialRejection error.attempt := by
  obtain ⟨reply, _, error, -, -, -, hclient, hrejected, -⟩ := refused_client_informed
    (sampleExchange 1) 0 100 .invalidTag
    ⟨rfl, rfl, ⟨by decide +kernel, by decide +kernel⟩,
      fun _ _ h => (AuthResponse.encode_length h rfl).trans (by decide +kernel)⟩ rfl (by
      intro response hresponse
      obtain rfl := Except.ok.inj (hresponse.symm.trans (by rfl))
      decide +kernel)
  exact ⟨reply, error, congrArg Prod.snd hclient, hrejected⟩

end UncrownedKing.Client
