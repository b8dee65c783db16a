import UncrownedKing.Auth.Verify
import UncrownedKing.Mask.Prelude
import UncrownedKing.Server.CommitGate
import UncrownedKing.Server.Config

/-!
# The server's runtime state

What a configuration is turned into at start, and what a reload replaces. Steps
that read files or build TLS state are inputs.
-/

namespace UncrownedKing.Server

open Lib Auth Mask Policy

structure SecurityGeneration where
  generation : Nat
  credentials : List Credential
  maskKeys : List MaskKeys
  policySet : PolicySet
  authSkew : Duration

structure SecurityState where
  current : SecurityGeneration
  nextGeneration : Nat

def initialGeneration : Nat := 1

def SecurityState.new (credentials : List Credential) (maskKeys : List MaskKeys)
    (policySet : PolicySet) (authSkew : Duration) : SecurityState where
  current := ⟨initialGeneration, credentials, maskKeys, policySet, authSkew⟩
  nextGeneration := initialGeneration + 1

def SecurityState.replace (security : SecurityState) (credentials : List Credential)
    (maskKeys : List MaskKeys) (policySet : PolicySet) (authSkew : Duration) : SecurityState where
  current := ⟨security.nextGeneration, credentials, maskKeys, policySet, authSkew⟩
  nextGeneration := security.nextGeneration + 1

structure Host where
  validateNetworkEndpoints : ServerConfig → Except String Unit
  validateSensitivePaths : ServerConfig → Except String Unit
  tlsConfig : ServerConfig → Except String Unit
  policySet : ServerConfig → Except String PolicySet

inductive SetupError
  | message (text : String)
  | config (error : ConfigError)
  | auth (error : AuthError)
  deriving DecidableEq, Repr

def reloadRequiresRestart (field : String) : SetupError :=
  .message s!"server config field {field} changed and requires a restart"

structure MaskingState where
  registry : SharedRegistry
  quicKeys : Option MaskKeys

theorem maskingReplayIdentities_pos {config : ServerConfig} (h : config.validateLimits = .ok ()) :
    0 < config.maskingReplayIdentities.toNat := by
  unfold ServerConfig.maskingReplayIdentities
  have hmasking : config.validateMasking = .ok () :=
    (checkAll_ok _).mp h _ List.mem_cons_self
  cases hm : config.masking with
  | none => decide
  | some masking =>
    cases hr : masking.replayIdentities with
    | none =>
      rw [Option.bind_some, hr]
      decide
    | some replayIdentities =>
      simp only [ServerConfig.validateMasking, hm, checkAll_ok, List.mem_cons, List.not_mem_nil,
        or_false, forall_eq_or_imp, hr, Option.elim_some, rejectSmallLimit] at hmasking
      have hlarge : ¬ replayIdentities < 1024 := by
        intro hlt
        rw [if_pos hlt] at hmasking
        cases hmasking.1.1
      rw [Option.bind_some, hr, Option.getD_some]
      rw [UInt64.not_lt, UInt64.le_iff_toNat_le] at hlarge
      exact Nat.lt_of_lt_of_le (by decide) hlarge

def deriveMaskKeys (hmac : Hmac) (config : ServerConfig) (credentials : List Credential) :
    List MaskKeys :=
  if !config.maskingEnabled && !config.maskingQuicEnabled then []
  else credentials.map fun credential => .derive hmac credential.keyId credential.secret

/-- Validation gives the registry room and the key id a credential. -/
def buildMaskingState (hmac : Hmac) (config : ServerConfig)
    (h : config.validateLimits = .ok ()) : Option MaskingState := do
  let masking ← config.masking
  let quicKeys := if config.maskingQuicEnabled then
      (masking.quicKeyId.bind fun keyId => config.credentials.find? (·.keyId = keyId)).map
        fun credential => .derive hmac (utf8 credential.keyId) (utf8 credential.secret)
    else none
  some ⟨⟨.new config.maskingReplayIdentities.toNat (maskingReplayIdentities_pos h), false⟩, quicKeys⟩

structure ServerRuntime where
  config : ServerConfig
  security : SecurityState
  replayCache : ReplayCache
  maxSessions : Nat
  maxHandshakes : Nat
  masking : Option MaskingState

def prepareServerRuntime (hmac : Hmac) (host : Host) (config : ServerConfig) :
    Except SetupError ServerRuntime := do
  (host.validateNetworkEndpoints config).mapError .message
  match h : config.validateLimits with
  | .error error => throw (.config error)
  | .ok () =>
    (host.validateSensitivePaths config).mapError .message
    let masking := buildMaskingState hmac config h
    (host.tlsConfig config).mapError .message
    let credentials ← config.runtimeCredentials.mapError .auth
    -- the credentials have moved out of the configuration
    let config := { config with credentials := [] }
    let maskKeys := deriveMaskKeys hmac config credentials
    let policySet ← (host.policySet config).mapError .message
    pure {
      config := config
      security := .new credentials maskKeys policySet
        (fromSecs config.effectiveAuthSkewSeconds.toNat)
      replayCache := .withMaxEntries (fromSecs config.replayCacheWindowSeconds.toNat)
        config.replayCacheMaxEntries.toNat
      maxSessions := config.maxSessions.toNat
      maxHandshakes := config.maxHandshakes.toNat
      masking := masking }

def changedStaticConfigField (current candidate : ServerConfig) : Option String :=
  if current.listen ≠ candidate.listen then some "listen"
  else if current.quicListen ≠ candidate.quicListen then some "quic_listen"
  else if current.observabilityListen ≠ candidate.observabilityListen then
    some "observability_listen"
  else if current.masking ≠ candidate.masking then some "masking"
  else none

def reloadStaticLimits (config : ServerConfig) : List (String × UInt64) :=
  [ ("max_pre_auth_bytes", config.maxPreAuthBytes),
    ("max_frame_size", config.maxFrameSize),
    ("max_sessions", config.maxSessions),
    ("max_handshakes", config.maxHandshakes),
    ("max_streams", config.maxStreams),
    ("max_udp_flows", config.maxUdpFlows),
    ("max_outbound_dials_per_session", config.maxOutboundDialsPerSession),
    ("max_buffered_bytes_per_session", config.maxBufferedBytesPerSession),
    ("idle_timeout_seconds", config.idleTimeoutSeconds),
    ("max_buffered_bytes_per_flow", config.maxBufferedBytesPerFlow),
    ("max_total_streams", config.maxTotalStreams),
    ("max_total_buffered_bytes", config.maxTotalBufferedBytes),
    ("handshake_timeout_seconds", config.handshakeTimeoutSeconds),
    ("target_connect_timeout_seconds", config.targetConnectTimeoutSeconds),
    ("tcp_half_close_timeout_seconds", config.tcpHalfCloseTimeoutSeconds),
    ("carrier_write_timeout_seconds", config.carrierWriteTimeoutSeconds),
    ("tcp_keepalive_seconds", config.tcpKeepaliveSeconds),
    ("udp_flow_idle_timeout_seconds", config.udpFlowIdleTimeoutSeconds),
    ("shutdown_timeout_seconds", config.shutdownTimeoutSeconds),
    ("replay_cache_window_seconds", config.replayCacheWindowSeconds),
    ("replay_cache_max_entries", config.replayCacheMaxEntries),
    ("relay_buffer_size", config.relayBufferSize),
    ("auth_rate_limit_failures", config.authRateLimitConfig.maxFailures.toUInt64),
    ("auth_rate_limit_window_seconds", config.authRateLimitConfig.windowSecs),
    ("auth_rate_limit_ban_seconds", config.authRateLimitConfig.banSecs),
    ("quic_stream_receive_window", config.quicStreamReceiveWindow.toUInt64),
    ("quic_connection_receive_window", config.quicConnectionReceiveWindow.toUInt64) ]

def changedStaticLimit (current candidate : ServerConfig) : Option String :=
  ((reloadStaticLimits current).zip (reloadStaticLimits candidate)).find?
    (fun (a, b) => a.2 ≠ b.2) |>.map fun (a, _) => a.1

def ensureReloadCompatible (current candidate : ServerConfig) : Except SetupError Unit :=
  match changedStaticConfigField current candidate with
  | some field => .error (reloadRequiresRestart field)
  | none =>
    if current.authRateLimitAllowlist ≠ candidate.authRateLimitAllowlist then
      .error (reloadRequiresRestart "auth_rate_limit_allowlist")
    else
      match changedStaticLimit current candidate with
      | some name => .error (reloadRequiresRestart name)
      | none => .ok ()

/-- The QUIC endpoint's configuration is part of what the host loads. -/
def applySecurityReload (hmac : Hmac) (host : Host) (current : ServerConfig)
    (security : SecurityState) (candidate : ServerConfig) :
    Except SetupError (SecurityState × Nat) := do
  ensureReloadCompatible current candidate
  (host.validateNetworkEndpoints candidate).mapError .message
  candidate.validateLimits.mapError .config
  (host.validateSensitivePaths candidate).mapError .message
  (host.tlsConfig candidate).mapError .message
  let credentials ← candidate.runtimeCredentials.mapError .auth
  let candidate := { candidate with credentials := [] }
  let maskKeys := deriveMaskKeys hmac candidate credentials
  let policySet ← (host.policySet candidate).mapError .message
  let security := security.replace credentials maskKeys policySet
    (fromSecs candidate.effectiveAuthSkewSeconds.toNat)
  pure (security, security.current.generation)

end UncrownedKing.Server
