import UncrownedKing.Auth.Payload
import UncrownedKing.Policy.Rules

/-!
# Server configuration

The configuration after parsing, its accessors and its checks. `usize` is 64
bits wide.
-/

namespace UncrownedKing.Server

open Lib Net Auth Policy

structure LimitConfig where
  maxPreAuthBytes : Option UInt64 := none
  maxFrameSize : Option UInt64 := none
  maxSessions : Option UInt64 := none
  maxHandshakes : Option UInt64 := none
  maxStreams : Option UInt64 := none
  maxUdpFlows : Option UInt64 := none
  maxOutboundDialsPerSession : Option UInt64 := none
  maxBufferedBytesPerSession : Option UInt64 := none
  idleTimeoutSeconds : Option UInt64 := none
  maxBufferedBytesPerFlow : Option UInt64 := none
  maxTotalStreams : Option UInt64 := none
  maxTotalBufferedBytes : Option UInt64 := none
  handshakeTimeoutSeconds : Option UInt64 := none
  targetConnectTimeoutSeconds : Option UInt64 := none
  tcpHalfCloseTimeoutSeconds : Option UInt64 := none
  carrierWriteTimeoutSeconds : Option UInt64 := none
  tcpKeepaliveSeconds : Option UInt64 := none
  udpFlowIdleTimeoutSeconds : Option UInt64 := none
  shutdownTimeoutSeconds : Option UInt64 := none
  replayCacheWindowSeconds : Option UInt64 := none
  replayCacheMaxEntries : Option UInt64 := none
  relayBufferSize : Option UInt64 := none
  authRateLimitFailures : Option UInt32 := none
  authRateLimitWindowSeconds : Option UInt64 := none
  authRateLimitBanSeconds : Option UInt64 := none
  authRateLimitAllowlist : Option (List String) := none
  quicStreamReceiveWindow : Option UInt64 := none
  quicConnectionReceiveWindow : Option UInt64 := none

structure MaskingConfig where
  enabled : Option Bool := none
  replayIdentities : Option UInt64 := none
  quic : Option Bool := none
  quicKeyId : Option String := none
  deriving DecidableEq, Repr

def utf8 (s : String) : Bytes := s.toUTF8.data.toList

structure CredentialConfig where
  keyId : String
  secret : String
  status : Option String := none
  notBefore : Option UInt64 := none
  notAfter : Option UInt64 := none
  policyGroup : Option String := none
  keyId_length : (utf8 keyId).length < 2 ^ 64

structure ServerConfig where
  listen : String
  quicListen : Option String := none
  observabilityListen : Option String := none
  certPath : String
  keyPath : String
  authSkewSeconds : Option UInt64 := none
  limits : Option LimitConfig := none
  policyPath : Option String := none
  credentials : List CredentialConfig
  masking : Option MaskingConfig := none

structure AuthRateLimitConfig where
  maxFailures : UInt32
  windowSecs : UInt64
  banSecs : UInt64
  deriving DecidableEq, Repr

namespace ServerConfig

variable (config : ServerConfig)

def limit (field : LimitConfig → Option α) (default : α) : α :=
  (config.limits.bind field).getD default

def maxFramePayloadSize : UInt64 := 16 * 1024 * 1024

def effectiveAuthSkewSeconds : UInt64 := config.authSkewSeconds.getD 30
def maxPreAuthBytes : UInt64 := config.limit (·.maxPreAuthBytes) 4096
def maxFrameSize : UInt64 := config.limit (·.maxFrameSize) 65536
def maxSessions : UInt64 := config.limit (·.maxSessions) 1024
def maxHandshakes : UInt64 := config.limit (·.maxHandshakes) config.maxSessions
def maxStreams : UInt64 := config.limit (·.maxStreams) 64
def maxTotalStreams : UInt64 := config.limit (·.maxTotalStreams) 65536
def maxTotalBufferedBytes : UInt64 := config.limit (·.maxTotalBufferedBytes) (512 * 1024 * 1024)
def maxUdpFlows : UInt64 := config.limit (·.maxUdpFlows) config.maxStreams
def maxOutboundDialsPerSession : UInt64 := config.limit (·.maxOutboundDialsPerSession) 16
def maxBufferedBytesPerSession : UInt64 :=
  config.limit (·.maxBufferedBytesPerSession) maxFramePayloadSize
def idleTimeoutSeconds : UInt64 := config.limit (·.idleTimeoutSeconds) 300
def maxBufferedBytesPerFlow : UInt64 := config.limit (·.maxBufferedBytesPerFlow) 2097152
def handshakeTimeoutSeconds : UInt64 := config.limit (·.handshakeTimeoutSeconds) 10
def targetConnectTimeoutSeconds : UInt64 := config.limit (·.targetConnectTimeoutSeconds) 10
def tcpHalfCloseTimeoutSeconds : UInt64 := config.limit (·.tcpHalfCloseTimeoutSeconds) 30
def carrierWriteTimeoutSeconds : UInt64 := config.limit (·.carrierWriteTimeoutSeconds) 30
def tcpKeepaliveSeconds : UInt64 := config.limit (·.tcpKeepaliveSeconds) 60
def udpFlowIdleTimeoutSeconds : UInt64 := config.limit (·.udpFlowIdleTimeoutSeconds) 120
def shutdownTimeoutSeconds : UInt64 := config.limit (·.shutdownTimeoutSeconds) 30
def replayCacheWindowSeconds : UInt64 := config.limit (·.replayCacheWindowSeconds) 300
def replayCacheMaxEntries : UInt64 := config.limit (·.replayCacheMaxEntries) 65536
def relayBufferSize : UInt64 := config.limit (·.relayBufferSize) (16 * 1024)
def authRateLimitAllowlist : List String := config.limit (·.authRateLimitAllowlist) []

def authRateLimitConfig : AuthRateLimitConfig where
  maxFailures := config.limit (·.authRateLimitFailures) 5
  windowSecs := config.limit (·.authRateLimitWindowSeconds) 60
  banSecs := config.limit (·.authRateLimitBanSeconds) 300

/-- The configured window is truncated to 32 bits. -/
def quicStreamReceiveWindow : UInt32 :=
  (config.limits.bind (·.quicStreamReceiveWindow)).elim (1024 * 1024) UInt64.toUInt32

def quicConnectionReceiveWindow : UInt32 :=
  (config.limits.bind (·.quicConnectionReceiveWindow)).elim (1024 * 1024) UInt64.toUInt32

def maskingEnabled : Bool := (config.masking.bind (·.enabled)).getD false
def maskingQuicEnabled : Bool := config.masking.any fun masking => masking.quic.getD false
def maskingReplayIdentities : UInt64 := (config.masking.bind (·.replayIdentities)).getD 16384

end ServerConfig

inductive ConfigError
  | zero (name : String)
  | tooSmall (name : String) (minimum : UInt64)
  | tooLarge (name : String) (maximum : UInt64)
  | replayWindow (window skew requiredWindow : UInt64)
  | quicWindows
  | allowlistEntry (entry : String)
  | maskingWithoutCredentials
  | quicKeyIdMissing
  | quicKeyIdUnknown (keyId : String)
  deriving DecidableEq, Repr

def ConfigError.message : ConfigError → String
  | .zero name => s!"{name} must be greater than zero"
  | .tooSmall name minimum => s!"{name} must be at least {minimum}"
  | .tooLarge name maximum => s!"{name} must be at most {maximum}"
  | .replayWindow window skew requiredWindow =>
    s!"replay_cache_window_seconds ({window}) must be at least twice auth_skew_seconds ({skew}), that is {requiredWindow}"
  | .quicWindows =>
    "quic_connection_receive_window must be greater than or equal to quic_stream_receive_window"
  | .allowlistEntry entry =>
    s!"auth_rate_limit_allowlist entry {repr entry} is not a valid CIDR or IP"
  | .maskingWithoutCredentials => "masking.enabled requires at least one credential"
  | .quicKeyIdMissing => "masking.quic_key_id is required when masking.quic is enabled"
  | .quicKeyIdUnknown keyId =>
    s!"masking.quic_key_id {repr keyId} does not match any configured credential"

abbrev Check := Except ConfigError Unit

def rejectZeroLimit (name : String) (value : UInt64) : Check :=
  if value = 0 then .error (.zero name) else .ok ()

def rejectSmallLimit (name : String) (value minimum : UInt64) : Check :=
  if value < minimum then .error (.tooSmall name minimum) else .ok ()

def rejectLargeLimit (name : String) (value maximum : UInt64) : Check :=
  if value > maximum then .error (.tooLarge name maximum) else .ok ()

def rejectSemaphorePermitLimit (name : String) (value : UInt64) : Check :=
  rejectLargeLimit name value (UInt64.ofNat (2 ^ 61 - 1))

def rejectUsizeLimit (_name : String) (_value : UInt64) : Check := .ok ()

def checkAll (checks : List Check) : Check :=
  checks.foldl (fun done check => done >>= fun _ => check) (.ok ())

def saturatingMul (a b : UInt64) : UInt64 :=
  if a.toNat * b.toNat < 2 ^ 64 then a * b else UInt64.ofNat (2 ^ 64 - 1)

def parseAllowlistEntry (entry : String) : Option Cidr :=
  match Cidr.fromStr entry.toList with
  | some cidr => some cidr
  | none =>
    match IpAddr.fromStr entry.toList with
    | some (.v4 ip) => Cidr.newV4 ip 32
    | some (.v6 ip) => Cidr.newV6 ip 128
    | none => none

namespace ServerConfig

variable (config : ServerConfig)

def validateMasking : Check :=
  match config.masking with
  | none => .ok ()
  | some masking => checkAll
    [ masking.replayIdentities.elim (.ok ()) fun replayIdentities => checkAll
        [ rejectSmallLimit "masking.replay_identities" replayIdentities 1024,
          rejectLargeLimit "masking.replay_identities" replayIdentities 1048576 ],
      if masking.enabled.getD false && config.credentials.isEmpty then
        .error .maskingWithoutCredentials
      else .ok (),
      if masking.quic.getD false then
        match masking.quicKeyId with
        | none => .error .quicKeyIdMissing
        | some keyId =>
          if config.credentials.any (·.keyId = keyId) then .ok ()
          else .error (.quicKeyIdUnknown keyId)
      else .ok () ]

def validateReplayCacheCoversAuthSkew : Check :=
  let skew := config.effectiveAuthSkewSeconds
  let requiredWindow := saturatingMul skew 2
  if config.replayCacheWindowSeconds < requiredWindow then
    .error (.replayWindow config.replayCacheWindowSeconds skew requiredWindow)
  else .ok ()

def rejectQuicReceiveWindow (name : String) (window : UInt64) : Check := checkAll
  [ rejectSmallLimit name window (64 * 1024),
    rejectLargeLimit name window (16 * 1024 * 1024) ]

def validateQuicWindowLimits : Check := checkAll
  [ (config.limits.bind (·.quicStreamReceiveWindow)).elim (.ok ())
      (rejectQuicReceiveWindow "quic_stream_receive_window"),
    (config.limits.bind (·.quicConnectionReceiveWindow)).elim (.ok ())
      (rejectQuicReceiveWindow "quic_connection_receive_window"),
    if config.quicConnectionReceiveWindow < config.quicStreamReceiveWindow then
      .error .quicWindows
    else .ok () ]

def validateAuthRateLimits : Check :=
  let rateLimit := config.authRateLimitConfig
  checkAll
    [ rejectLargeLimit "auth_rate_limit_failures" rateLimit.maxFailures.toUInt64 100000,
      if rateLimit.maxFailures > 0 then checkAll
        [ rejectZeroLimit "auth_rate_limit_window_seconds" rateLimit.windowSecs,
          rejectZeroLimit "auth_rate_limit_ban_seconds" rateLimit.banSecs ]
      else .ok (),
      rejectLargeLimit "auth_rate_limit_window_seconds" rateLimit.windowSecs 2592000,
      rejectLargeLimit "auth_rate_limit_ban_seconds" rateLimit.banSecs 2592000,
      checkAll (config.authRateLimitAllowlist.map fun entry =>
        if (parseAllowlistEntry entry).isNone then .error (.allowlistEntry entry) else .ok ()) ]

def minAuthResponsePayloadSize : UInt64 := 75
def minTcpRelayFrameSize : UInt64 := 262
def maxNegotiatedFlows : UInt64 := 1000000
def maxNegotiatedIdleTimeoutSeconds : UInt64 := 30 * 24 * 60 * 60
def maxTotalLimit : UInt64 := 1024 * 1024 * 1024 * 1024
def maxAuthSkewSeconds : UInt64 := 300

def validateLimits : Check := checkAll
  [ config.validateMasking,
    rejectZeroLimit "max_pre_auth_bytes" config.maxPreAuthBytes,
    rejectSmallLimit "max_pre_auth_bytes" config.maxPreAuthBytes minAuthResponsePayloadSize,
    rejectLargeLimit "max_pre_auth_bytes" config.maxPreAuthBytes maxFramePayloadSize,
    rejectZeroLimit "max_frame_size" config.maxFrameSize,
    rejectSmallLimit "max_frame_size" config.maxFrameSize minTcpRelayFrameSize,
    rejectLargeLimit "max_frame_size" config.maxFrameSize maxFramePayloadSize,
    rejectZeroLimit "max_sessions" config.maxSessions,
    rejectSemaphorePermitLimit "max_sessions" config.maxSessions,
    rejectZeroLimit "max_handshakes" config.maxHandshakes,
    rejectSemaphorePermitLimit "max_handshakes" config.maxHandshakes,
    rejectZeroLimit "max_streams" config.maxStreams,
    rejectLargeLimit "max_streams" config.maxStreams maxNegotiatedFlows,
    rejectLargeLimit "max_udp_flows" config.maxUdpFlows config.maxStreams,
    rejectLargeLimit "max_udp_flows" config.maxUdpFlows maxNegotiatedFlows,
    rejectZeroLimit "max_total_streams" config.maxTotalStreams,
    rejectLargeLimit "max_total_streams" config.maxTotalStreams maxTotalLimit,
    rejectUsizeLimit "max_total_streams" config.maxTotalStreams,
    rejectZeroLimit "max_total_buffered_bytes" config.maxTotalBufferedBytes,
    rejectLargeLimit "max_total_buffered_bytes" config.maxTotalBufferedBytes maxTotalLimit,
    rejectUsizeLimit "max_total_buffered_bytes" config.maxTotalBufferedBytes,
    rejectZeroLimit "max_outbound_dials_per_session" config.maxOutboundDialsPerSession,
    rejectSemaphorePermitLimit "max_outbound_dials_per_session" config.maxOutboundDialsPerSession,
    rejectZeroLimit "max_buffered_bytes_per_session" config.maxBufferedBytesPerSession,
    rejectLargeLimit "max_buffered_bytes_per_session" config.maxBufferedBytesPerSession
      maxFramePayloadSize,
    rejectZeroLimit "max_buffered_bytes_per_flow" config.maxBufferedBytesPerFlow,
    rejectLargeLimit "max_buffered_bytes_per_flow" config.maxBufferedBytesPerFlow
      maxFramePayloadSize,
    rejectZeroLimit "replay_cache_window_seconds" config.replayCacheWindowSeconds,
    rejectZeroLimit "replay_cache_max_entries" config.replayCacheMaxEntries,
    rejectUsizeLimit "replay_cache_max_entries" config.replayCacheMaxEntries,
    rejectZeroLimit "auth_skew_seconds" config.effectiveAuthSkewSeconds,
    rejectLargeLimit "auth_skew_seconds" config.effectiveAuthSkewSeconds maxAuthSkewSeconds,
    rejectLargeLimit "idle_timeout_seconds" config.idleTimeoutSeconds
      maxNegotiatedIdleTimeoutSeconds,
    config.validateReplayCacheCoversAuthSkew,
    (config.limits.bind (·.relayBufferSize)).elim (.ok ()) fun bufSize => checkAll
      [ rejectSmallLimit "relay_buffer_size" bufSize 1024,
        rejectLargeLimit "relay_buffer_size" bufSize (1024 * 1024) ],
    config.validateQuicWindowLimits,
    config.validateAuthRateLimits ]

end ServerConfig

def invalidPolicyGroup (group : String) : Bool :=
  group.isEmpty || (utf8 group).any Proto.isAsciiControl

def parseStatus : String → AuthResult CredentialStatus
  | "active" => .ok .active
  | "disabled" => .ok .disabled
  | "retired" => .ok .retired
  | _ => .error .invalidCredentialStatus

def CredentialConfig.emptyValidityWindow (config : CredentialConfig) : Bool :=
  match config.notBefore, config.notAfter with
  | some notBefore, some notAfter => notBefore > notAfter
  | _, _ => false

/-- The warning about few distinct bytes changes nothing. -/
def CredentialConfig.toCredential (config : CredentialConfig) : AuthResult Credential := do
  let status ← parseStatus (config.status.getD "active")
  if config.policyGroup.any invalidPolicyGroup then throw .invalidCredentialPolicyGroup
  else if config.emptyValidityWindow then
    throw .invalidCredentialValidityWindow
  else
    let credential ← Credential.active (utf8 config.keyId) (utf8 config.secret) config.keyId_length
    pure { credential with
      status := status
      notBefore := config.notBefore
      notAfter := config.notAfter
      policyGroup := config.policyGroup }

def collectCredentials (seen : List Bytes) :
    List CredentialConfig → AuthResult (List Credential)
  | [] => pure []
  | config :: rest => do
    let credential ← config.toCredential
    if credential.keyId ∈ seen then throw .duplicateCredentialKeyId
    else
      let credentials ← collectCredentials (credential.keyId :: seen) rest
      pure (credential :: credentials)

def ServerConfig.runtimeCredentials (config : ServerConfig) : AuthResult (List Credential) :=
  if config.credentials.isEmpty then .error .noCredentials
  else collectCredentials [] config.credentials

theorem checkAll_ok (checks : List Check) :
    checkAll checks = .ok () ↔ ∀ check ∈ checks, check = .ok () := by
  have hfold (done : Check) (checks : List Check) :
      checks.foldl (fun done check => done >>= fun _ => check) done = .ok () ↔
        done = .ok () ∧ ∀ check ∈ checks, check = .ok () := by
    induction checks generalizing done with
    | nil => simp
    | cons check rest ih =>
      rw [List.foldl_cons, ih, bind_eq_ok]
      simp only [List.mem_cons, forall_eq_or_imp]
      exact ⟨fun ⟨⟨_, hdone, hcheck⟩, hrest⟩ => ⟨hdone, hcheck, hrest⟩,
        fun ⟨hdone, hcheck, hrest⟩ => ⟨⟨(), hdone, hcheck⟩, hrest⟩⟩
  rw [checkAll, hfold]
  simp

end UncrownedKing.Server
