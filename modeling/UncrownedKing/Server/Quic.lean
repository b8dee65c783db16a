import UncrownedKing.Server.ReloadRequest

/-!
# The QUIC endpoint's configuration

What the endpoint is bound with at start, and what a reload gives it. Files and the
TLS and QUIC libraries are the host's.
-/

namespace UncrownedKing.Server

open Lib Auth Mask Policy Net

/-- Only the bound is ever set. -/
structure MtuDiscoveryConfig where
  upperBound : Nat
  deriving DecidableEq, Repr

/-- The parameters that are set; the library keeps the others at their defaults. -/
structure TransportConfig where
  maxConcurrentBidiStreams : Nat
  maxConcurrentUniStreams : Nat
  streamReceiveWindow : Nat
  receiveWindow : Nat
  datagramReceiveBufferSize : Option Nat
  mtuDiscoveryConfig : Option MtuDiscoveryConfig
  maxIdleTimeout : Option Duration
  deriving DecidableEq, Repr

/-- What the QUIC library brings: its defaults, and which idle timeouts it can encode. -/
structure Quinn where
  transportConfig : TransportConfig
  mtuDiscoveryConfig : MtuDiscoveryConfig
  idleTimeoutTryFrom : Duration → Except String Duration

def udpSegmentOverhead : Nat := nonceLen

def Quinn.maskedMtu (quinn : Quinn) : MtuDiscoveryConfig :=
  { quinn.mtuDiscoveryConfig with upperBound := 1452 - udpSegmentOverhead }

def applyMaskedMtu (quinn : Quinn) (transport : TransportConfig) : TransportConfig :=
  { transport with mtuDiscoveryConfig := some quinn.maskedMtu }

def quicDatagramReceiveBufferSize : Nat := 256 * 1024

structure QuinnServerConfig (QuicCrypto : Type) where
  crypto : QuicCrypto
  transport : TransportConfig

def serverConfigWithTransportParamsMasked (quinn : Quinn)
    (quicServerConfig : Rustls → Except String QuicCrypto) (rustlsConfig : Rustls)
    (idleTimeout : Option Duration) (streamReceiveWindow connectionReceiveWindow : UInt32)
    (masked : Bool) :
    Except String (QuinnServerConfig QuicCrypto) := do
  let crypto ← (quicServerConfig rustlsConfig).mapError
    fun err => s!"QUIC server crypto config rejected: {err}"
  let transport := { quinn.transportConfig with
    maxConcurrentBidiStreams := 0
    maxConcurrentUniStreams := 0
    streamReceiveWindow := streamReceiveWindow.toNat
    receiveWindow := connectionReceiveWindow.toNat
    datagramReceiveBufferSize := some quicDatagramReceiveBufferSize }
  let transport := if masked then applyMaskedMtu quinn transport else transport
  let quicIdleTimeout ← (idleTimeout.mapM quinn.idleTimeoutTryFrom).mapError
    fun err => s!"invalid QUIC idle timeout: {err}"
  pure ⟨crypto, { transport with maxIdleTimeout := quicIdleTimeout }⟩

def serverConfigWithTransportParams (quinn : Quinn)
    (quicServerConfig : Rustls → Except String QuicCrypto) (rustlsConfig : Rustls)
    (idleTimeout : Option Duration) (streamReceiveWindow connectionReceiveWindow : UInt32) :
    Except String (QuinnServerConfig QuicCrypto) :=
  serverConfigWithTransportParamsMasked quinn quicServerConfig rustlsConfig idleTimeout
    streamReceiveWindow connectionReceiveWindow false

def idleTimeout (seconds : UInt64) : Option Duration :=
  if seconds ≠ 0 then some (fromSecs seconds.toNat) else none

structure QuicHost (Identity Rustls QuicCrypto : Type) where
  validateNetworkEndpoints : ServerConfig → Except String Unit
  validateSensitivePaths : ServerConfig → Except String Unit
  policySet : ServerConfig → Except String PolicySet
  loadIdentity : (certPath keyPath : String) → Except String Identity
  serverConfigFromMemory : Identity → Except String Rustls
  quicServerConfig : Rustls → Except String QuicCrypto
  quinn : Quinn

namespace QuicHost

variable {Identity Rustls QuicCrypto : Type} (host : QuicHost Identity Rustls QuicCrypto)

def tlsServerConfig (config : ServerConfig) : Except String Rustls := do
  let identity ← host.loadIdentity config.certPath config.keyPath
  host.serverConfigFromMemory identity

/-- What `build_quic_endpoint` binds the endpoint with. -/
def endpointConfig (config : ServerConfig) (maskedKeys : Option MaskKeys) :
    Except String (QuinnServerConfig QuicCrypto) := do
  let rustlsConfig ← host.tlsServerConfig config
  serverConfigWithTransportParamsMasked host.quinn host.quicServerConfig rustlsConfig
    (idleTimeout config.idleTimeoutSeconds) config.quicStreamReceiveWindow
    config.quicConnectionReceiveWindow maskedKeys.isSome

/-- The identity is loaded once for both carriers. -/
def carrierHost : CarrierHost Rustls (QuinnServerConfig QuicCrypto) where
  validateNetworkEndpoints := host.validateNetworkEndpoints
  validateSensitivePaths := host.validateSensitivePaths
  tlsAcceptor := host.tlsServerConfig
  quicConfig candidate := do
    let quicTlsConfig ← host.tlsServerConfig candidate
    serverConfigWithTransportParams host.quinn host.quicServerConfig quicTlsConfig
      (idleTimeout candidate.idleTimeoutSeconds) candidate.quicStreamReceiveWindow
      candidate.quicConnectionReceiveWindow
  policySet := host.policySet

end QuicHost

end UncrownedKing.Server
