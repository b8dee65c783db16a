import UncrownedKing.Proto.Frame
import Mathlib.Logic.Function.Basic

/-!
# Settings

The `SETTINGS` payload and the values a peer may advertise in it.
-/

namespace UncrownedKing.Proto

open Lib

inductive SettingKey
  | maxFrameSize
  | maxStreams
  | maxUdpFlows
  | supportsUdpDatagram
  | supportsUdpStreamFallback
  | idleTimeoutSeconds
  | protocolRevision
  deriving DecidableEq, Repr

def SettingKey.tryFrom (value : Nat) : ProtocolResult SettingKey :=
  match value with
  | 1 => .ok .maxFrameSize
  | 2 => .ok .maxStreams
  | 3 => .ok .maxUdpFlows
  | 4 => .ok .supportsUdpDatagram
  | 5 => .ok .supportsUdpStreamFallback
  | 6 => .ok .idleTimeoutSeconds
  | 7 => .ok .protocolRevision
  | _ => .error (.invalidSettings "unknown setting key")

def SettingKey.toNat : SettingKey → Nat
  | .maxFrameSize => 1
  | .maxStreams => 2
  | .maxUdpFlows => 3
  | .supportsUdpDatagram => 4
  | .supportsUdpStreamFallback => 5
  | .idleTimeoutSeconds => 6
  | .protocolRevision => 7

def SettingKey.all : List SettingKey :=
  [.maxFrameSize, .maxStreams, .maxUdpFlows, .supportsUdpDatagram, .supportsUdpStreamFallback,
    .idleTimeoutSeconds, .protocolRevision]

structure Settings where
  get : SettingKey → Option Nat

def Settings.empty : Settings := ⟨fun _ => none⟩

def Settings.set (settings : Settings) (key : SettingKey) (value : Nat) : Settings :=
  ⟨Function.update settings.get key (some value)⟩

def encodeEntries : List (SettingKey × Nat) → ProtocolResult Bytes
  | [] => .ok []
  | (key, value) :: rest => do
    let key ← Varint.encode key.toNat
    let value ← Varint.encode value
    let rest ← encodeEntries rest
    pure (key ++ value ++ rest)

def Settings.encode (settings : Settings) : ProtocolResult Bytes := do
  let entries := SettingKey.all.filterMap fun key => (settings.get key).map (key, ·)
  let count ← Varint.encode entries.length
  let entries ← encodeEntries entries
  pure (count ++ entries)

def Settings.decodeEntries (settings : Settings) (src : Bytes) :
    Nat → ProtocolResult (Settings × Bytes)
  | 0 => .ok (settings, src)
  | count + 1 => do
    let (key, src) ← Varint.decode src
    let (value, src) ← Varint.decode src
    match SettingKey.tryFrom key with
    | .ok key =>
      if (settings.get key).isSome then .error (.invalidSettings "duplicate setting key")
      else decodeEntries (settings.set key value) src count
    | .error _ => decodeEntries settings src count

def Settings.decode (src : Bytes) : ProtocolResult Settings := do
  let (count, src) ← Varint.decode src
  let (settings, src) ← Settings.empty.decodeEntries src count
  if src.isEmpty then pure settings else .error (.invalidSettings "trailing settings bytes")

def protocolRevisionV1 : Nat := 2
def defaultMaxFrameSize : Nat := 65536
def defaultMaxStreams : Nat := 64
def minTcpRelayFrameSize : Nat := 262
def maxFramePayloadSize : Nat := 16 * 1024 * 1024
def maxNegotiatedFlows : Nat := 1000000
def maxNegotiatedIdleTimeoutSeconds : Nat := 30 * 24 * 60 * 60

structure NegotiatedSettings where
  maxFrameSize : Nat
  maxStreams : Nat
  maxUdpFlows : Nat
  supportsUdpDatagram : Bool
  supportsUdpStreamFallback : Bool
  idleTimeoutSeconds : Nat
  deriving DecidableEq, Repr

def rejectSetting (unfit : Nat → Bool) (settings : Settings) (key : SettingKey) (name : String) :
    ProtocolResult Unit :=
  if (settings.get key).any unfit then .error (.invalidSettings name) else .ok ()

def rejectZeroSetting : Settings → SettingKey → String → ProtocolResult Unit :=
  rejectSetting (· == 0)

def rejectBooleanSetting : Settings → SettingKey → String → ProtocolResult Unit :=
  rejectSetting (· > 1)

def rejectSmallSetting (settings : Settings) (key : SettingKey) (name : String) (minimum : Nat) :
    ProtocolResult Unit :=
  rejectSetting (· < minimum) settings key name

def rejectLargeSetting (settings : Settings) (key : SettingKey) (name : String) (maximum : Nat) :
    ProtocolResult Unit :=
  rejectSetting (· > maximum) settings key name

def checkProtocolRevision (settings : Settings) : ProtocolResult Unit :=
  match settings.get .protocolRevision with
  | none => .error (.invalidSettings "missing protocol revision")
  | some revision =>
    if revision ≠ protocolRevisionV1 then
      .error (.invalidSettings "unsupported protocol revision")
    else .ok ()

/-- `negotiated_v1_0`. -/
def Settings.negotiated (settings : Settings) : ProtocolResult NegotiatedSettings := do
  checkProtocolRevision settings
  rejectZeroSetting settings .maxFrameSize "max_frame_size"
  rejectZeroSetting settings .maxStreams "max_streams"
  rejectBooleanSetting settings .supportsUdpDatagram "supports_udp_datagram"
  rejectBooleanSetting settings .supportsUdpStreamFallback "supports_udp_stream_fallback"
  rejectSmallSetting settings .maxFrameSize "max_frame_size" minTcpRelayFrameSize
  rejectLargeSetting settings .maxFrameSize "max_frame_size" maxFramePayloadSize
  rejectLargeSetting settings .maxStreams "max_streams" maxNegotiatedFlows
  rejectLargeSetting settings .maxUdpFlows "max_udp_flows" maxNegotiatedFlows
  rejectLargeSetting settings .idleTimeoutSeconds "idle_timeout_seconds"
    maxNegotiatedIdleTimeoutSeconds
  let maxFrameSize := (settings.get .maxFrameSize).getD defaultMaxFrameSize
  let maxStreams := (settings.get .maxStreams).getD defaultMaxStreams
  let maxUdpFlows := (settings.get .maxUdpFlows).getD maxStreams
  if maxUdpFlows > maxStreams then .error (.invalidSettings "max_udp_flows exceeds max_streams")
  else pure {
      maxFrameSize
      maxStreams
      maxUdpFlows
      supportsUdpDatagram := (settings.get .supportsUdpDatagram).getD 0 != 0
      supportsUdpStreamFallback := (settings.get .supportsUdpStreamFallback).getD 1 != 0
      idleTimeoutSeconds := (settings.get .idleTimeoutSeconds).getD 0 }

end UncrownedKing.Proto
