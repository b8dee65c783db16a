import UncrownedKing.Server.Quic
import UncrownedKing.Server.ReloadLaws
import UncrownedKing.Server.ReloadRequestLaws

/-!
# The transport a reload installs

A reload builds the transport parameters for an endpoint that is not masked.
-/

namespace UncrownedKing.Server

open Lib Auth Mask Policy Net

def transportParams (quinn : Quinn) (streamReceiveWindow connectionReceiveWindow : UInt32) (masked : Bool)
    (quicIdleTimeout : Option Duration) : TransportConfig where
  maxConcurrentBidiStreams := 0
  maxConcurrentUniStreams := 0
  streamReceiveWindow := streamReceiveWindow.toNat
  receiveWindow := connectionReceiveWindow.toNat
  datagramReceiveBufferSize := some quicDatagramReceiveBufferSize
  mtuDiscoveryConfig :=
    if masked then some quinn.maskedMtu else quinn.transportConfig.mtuDiscoveryConfig
  maxIdleTimeout := quicIdleTimeout

theorem transportParams_masked {quinn : Quinn}
    (hquinn : quinn.transportConfig.mtuDiscoveryConfig ≠ some quinn.maskedMtu)
    (streamReceiveWindow connectionReceiveWindow : UInt32) (masked : Bool)
    (quicIdleTimeout : Option Duration) :
    transportParams quinn streamReceiveWindow connectionReceiveWindow false quicIdleTimeout =
        transportParams quinn streamReceiveWindow connectionReceiveWindow masked quicIdleTimeout ↔
      masked = false := by
  cases masked <;> simp [transportParams, hquinn]

theorem serverConfigMasked_eq_ok {quicServerConfig : Rustls → Except String QuicCrypto}
    {timeout : Option Duration} :
    serverConfigWithTransportParamsMasked quinn quicServerConfig rustlsConfig timeout
        streamReceiveWindow connectionReceiveWindow masked = .ok config ↔
      ∃ crypto quicIdleTimeout, quicServerConfig rustlsConfig = .ok crypto ∧
        timeout.mapM quinn.idleTimeoutTryFrom = .ok quicIdleTimeout ∧
        config = ⟨crypto, transportParams quinn streamReceiveWindow connectionReceiveWindow masked
          quicIdleTimeout⟩ := by
  simp only [serverConfigWithTransportParamsMasked, bind_eq_ok, mapError_ok]
  constructor
  · rintro ⟨crypto, hcrypto, quicIdleTimeout, hidle, hconfig⟩
    refine ⟨crypto, quicIdleTimeout, hcrypto, hidle, ?_⟩
    cases masked <;> cases hconfig <;> rfl
  · rintro ⟨crypto, quicIdleTimeout, hcrypto, hidle, rfl⟩
    refine ⟨crypto, hcrypto, quicIdleTimeout, hidle, ?_⟩
    cases masked <;> rfl

namespace QuicHost

variable {Identity Rustls QuicCrypto : Type} {host : QuicHost Identity Rustls QuicCrypto}
  {config : ServerConfig} {quicConfig : QuinnServerConfig QuicCrypto}

theorem endpointConfig_eq_ok {maskedKeys : Option MaskKeys} :
    host.endpointConfig config maskedKeys = .ok quicConfig ↔
      ∃ rustlsConfig crypto quicIdleTimeout, host.tlsServerConfig config = .ok rustlsConfig ∧
        host.quicServerConfig rustlsConfig = .ok crypto ∧
        (idleTimeout config.idleTimeoutSeconds).mapM host.quinn.idleTimeoutTryFrom =
          .ok quicIdleTimeout ∧
        quicConfig = ⟨crypto, transportParams host.quinn config.quicStreamReceiveWindow
          config.quicConnectionReceiveWindow maskedKeys.isSome quicIdleTimeout⟩ := by
  simp [endpointConfig, bind_eq_ok, serverConfigMasked_eq_ok]

theorem endpointConfig_transport_iff {maskedKeys : Option MaskKeys}
    (hquinn : host.quinn.transportConfig.mtuDiscoveryConfig ≠ some host.quinn.maskedMtu)
    (h : host.endpointConfig config none = .ok quicConfig) :
    (∃ masked, host.endpointConfig config maskedKeys = .ok masked ∧
      quicConfig.transport = masked.transport) ↔ maskedKeys = none := by
  obtain ⟨rustlsConfig, crypto, quicIdleTimeout, htls, hcrypto, hidle, rfl⟩ :=
    endpointConfig_eq_ok.mp h
  refine ⟨?_, fun hnone => ⟨_, hnone ▸ h, rfl⟩⟩
  rintro ⟨masked, hmasked, htransport⟩
  obtain ⟨rustlsConfig', crypto', quicIdleTimeout', -, -, hidle', rfl⟩ :=
    endpointConfig_eq_ok.mp hmasked
  cases hidle.symm.trans hidle'
  have hnone := (transportParams_masked hquinn _ _ _ _).mp htransport
  simpa using hnone

end QuicHost

theorem prepareReload_quicConfig {host : CarrierHost Acceptor QuicConfig}
    (h : prepareReload hmac host hasQuicEndpoint current candidate = .ok prepared) :
    ensureReloadCompatible current candidate = .ok () ∧
      if hasQuicEndpoint then ∃ quicConfig, host.quicConfig candidate = .ok quicConfig ∧
        prepared.quicConfig = some quicConfig
      else prepared.quicConfig = none := by
  cases hasQuicEndpoint with
  | false =>
    simp only [prepareReload, bind_eq_ok, mapError_ok, Bool.false_eq_true, if_false] at h ⊢
    obtain ⟨⟨⟩, hcompatible, ⟨⟩, -, ⟨⟩, -, ⟨⟩, -, tlsAcceptor, -, quicConfig, hquic, credentials, -,
      policySet, -, h⟩ := h
    cases h
    cases hquic
    exact ⟨hcompatible, rfl⟩
  | true =>
    simp only [prepareReload, bind_eq_ok, mapError_ok, if_true] at h ⊢
    obtain ⟨⟨⟩, hcompatible, ⟨⟩, -, ⟨⟩, -, ⟨⟩, -, tlsAcceptor, -, quicConfig, hquic, credentials, -,
      policySet, -, h⟩ := h
    cases h
    cases hhost : host.quicConfig candidate with
    | error err => simp [hhost, Except.map] at hquic
    | ok quicConfig =>
      simp only [hhost, Except.map, Except.ok.injEq] at hquic
      exact ⟨hcompatible, quicConfig, rfl, hquic.symm⟩

/-- A reload installs the transport the endpoint would be bound with exactly if it is not masked,
provided the library's default bound is not the masked one already. -/
theorem reload_keeps_transport_iff (hmac : Hmac) (host : QuicHost Identity Rustls QuicCrypto)
    (hquinn : host.quinn.transportConfig.mtuDiscoveryConfig ≠ some host.quinn.maskedMtu)
    (masking : Option MaskingState) (live : LiveState Rustls (QuinnServerConfig QuicCrypto))
    (current candidate : ServerConfig) (prepared : Prepared Rustls (QuinnServerConfig QuicCrypto))
    (hendpoint : live.quicServerConfig.isSome = true)
    (hprepared : prepareReload hmac host.carrierHost live.quicServerConfig.isSome current
      candidate = .ok prepared) :
    (∃ installed built, (live.rotate prepared.quicConfig).quicServerConfig = some installed ∧
        host.endpointConfig candidate (masking.bind (·.quicKeys)) = .ok built ∧
        installed.transport = built.transport) ↔
      masking.bind (·.quicKeys) = none := by
  obtain ⟨-, hquic⟩ := prepareReload_quicConfig hprepared
  rw [if_pos hendpoint] at hquic
  obtain ⟨quicConfig, hconfig, hsome⟩ := hquic
  have hinstalled : (live.rotate prepared.quicConfig).quicServerConfig = some quicConfig := by
    obtain ⟨bound, hbound⟩ := Option.isSome_iff_exists.mp hendpoint
    simp [LiveState.rotate, hbound, hsome]
  rw [← QuicHost.endpointConfig_transport_iff hquinn hconfig]
  simp [hinstalled]

def quinnTransport : TransportConfig :=
  ⟨100, 100, 1250000, 2 ^ 62 - 1, some 1250000, some ⟨1452⟩, some (fromSecs 30)⟩

def plainQuicHost : QuicHost Unit Unit Unit where
  validateNetworkEndpoints _ := .ok ()
  validateSensitivePaths _ := .ok ()
  policySet _ := .ok ⟨[]⟩
  loadIdentity _ _ := .ok ()
  serverConfigFromMemory _ := .ok ()
  quicServerConfig _ := .ok ()
  quinn := ⟨quinnTransport, ⟨1452⟩, fun d =>
    if d / 1000000 < 2 ^ 62 then .ok d else .error "value too large for varint encoding"⟩

def plainQuicLive : LiveState Unit (QuinnServerConfig Unit) where
  current := ⟨⟨1, [], [], ⟨[]⟩, 0⟩, ()⟩
  quicServerConfig := some ⟨(), quinnTransport⟩

theorem plain_reload_keeps_transport : ∃ prepared,
    prepareReload sampleCrypto.hmac plainQuicHost.carrierHost
        plainQuicLive.quicServerConfig.isSome sampleConfig sampleConfig = .ok prepared ∧
    ∃ installed built,
      (plainQuicLive.rotate prepared.quicConfig).quicServerConfig = some installed ∧
      plainQuicHost.endpointConfig sampleConfig none = .ok built ∧
      installed.transport = built.transport := by
  have hok : (prepareReload sampleCrypto.hmac plainQuicHost.carrierHost
      plainQuicLive.quicServerConfig.isSome sampleConfig sampleConfig).isOk = true := by
    decide +kernel
  cases hprepared : prepareReload sampleCrypto.hmac plainQuicHost.carrierHost
      plainQuicLive.quicServerConfig.isSome sampleConfig sampleConfig with
  | error error =>
    rw [hprepared] at hok
    cases hok
  | ok prepared =>
    exact ⟨prepared, rfl, (reload_keeps_transport_iff _ plainQuicHost (by decide) none
      plainQuicLive _ _ _ rfl hprepared).mpr rfl⟩

def maskedConfig : ServerConfig :=
  { sampleConfig with
    quicListen := some "127.0.0.1:443"
    masking := some { quic := some true, quicKeyId := some "a" } }

/-- 1440 bytes when it is bound, 1452 after a reload that changes nothing. -/
theorem masked_reload_lifts_bound :
    ((plainQuicHost.endpointConfig maskedConfig
          ((buildMaskingState sampleCrypto.hmac maskedConfig (by decide +kernel)).bind
            (·.quicKeys))).map (·.transport.mtuDiscoveryConfig)) = .ok (some ⟨1440⟩) ∧
      ((prepareReload sampleCrypto.hmac plainQuicHost.carrierHost
          plainQuicLive.quicServerConfig.isSome { maskedConfig with credentials := [] }
          maskedConfig).map fun prepared =>
        (plainQuicLive.rotate prepared.quicConfig).quicServerConfig.map
          (·.transport.mtuDiscoveryConfig)) = .ok (some (some ⟨1452⟩)) := by
  decide +kernel

end UncrownedKing.Server
