import UncrownedKing.Net.Addr
import UncrownedKing.Proto.Varint

/-!
# Frames and error payloads

The frame header, its checks and its wire form, and the payload of an `ERROR`
frame.
-/

namespace UncrownedKing.Proto

open Lib Net

inductive FrameType
  | authChallenge
  | authResponse
  | settings
  | ping
  | pong
  | tcpOpen
  | tcpData
  | tcpClose
  | udpOpen
  | udpData
  | udpClose
  | error
  | policyDenied
  | resourceLimit
  deriving DecidableEq, Repr

def FrameType.toByte : FrameType → UInt8
  | .authChallenge => 0x01
  | .authResponse => 0x02
  | .settings => 0x03
  | .ping => 0x04
  | .pong => 0x05
  | .tcpOpen => 0x10
  | .tcpData => 0x11
  | .tcpClose => 0x12
  | .udpOpen => 0x20
  | .udpData => 0x21
  | .udpClose => 0x22
  | .error => 0x30
  | .policyDenied => 0x31
  | .resourceLimit => 0x32

def FrameType.tryFrom (value : UInt8) : ProtocolResult FrameType :=
  match value with
  | 0x01 => .ok .authChallenge
  | 0x02 => .ok .authResponse
  | 0x03 => .ok .settings
  | 0x04 => .ok .ping
  | 0x05 => .ok .pong
  | 0x10 => .ok .tcpOpen
  | 0x11 => .ok .tcpData
  | 0x12 => .ok .tcpClose
  | 0x20 => .ok .udpOpen
  | 0x21 => .ok .udpData
  | 0x22 => .ok .udpClose
  | 0x30 => .ok .error
  | 0x31 => .ok .policyDenied
  | 0x32 => .ok .resourceLimit
  | other => .error (.unknownFrameType other)

def protocolVersion : UInt8 := 1

structure FrameLimits where
  maxFrameSize : Nat
  deriving DecidableEq, Repr

structure FrameHeader where
  version : UInt8
  frameType : FrameType
  flags : UInt16
  id : Nat
  length : Nat
  deriving DecidableEq, Repr

structure Frame where
  header : FrameHeader
  payload : Bytes
  deriving DecidableEq, Repr

def validateFlags (flags : UInt16) : ProtocolResult Unit :=
  let required := flags &&& 0xff00
  if required = 0 then .ok () else .error (.unsupportedFlag required)

def FrameHeader.new (frameType : FrameType) (flags : UInt16) (id length : Nat) :
    ProtocolResult FrameHeader := do
  validateFlags flags
  let _ ← Varint.encodedLen id
  let _ ← Varint.encodedLen length
  pure ⟨protocolVersion, frameType, flags, id, length⟩

def FrameHeader.encode (header : FrameHeader) : ProtocolResult Bytes :=
  if header.version ≠ protocolVersion then .error (.unsupportedVersion header.version)
  else do
    validateFlags header.flags
    let id ← Varint.encode header.id
    let length ← Varint.encode header.length
    pure (header.version :: header.frameType.toByte :: toBe 2 header.flags.toNat ++ id ++ length)

/-- The header off the front of `src`, with what is left of it. -/
def FrameHeader.decode (limits : FrameLimits) (src : Bytes) :
    ProtocolResult (FrameHeader × Bytes) :=
  match src with
  | version :: frameType :: high :: low :: src =>
    if version ≠ protocolVersion then .error (.unsupportedVersion version)
    else do
      let frameType ← FrameType.tryFrom frameType
      let flags := UInt16.ofNat (fromBe [high, low])
      validateFlags flags
      let (id, src) ← Varint.decode src
      let (length, src) ← Varint.decode src
      if length > limits.maxFrameSize then .error (.oversizedFrame length limits.maxFrameSize)
      else pure (⟨version, frameType, flags, id, length⟩, src)
  | _ => .error .truncated

def Frame.new (frameType : FrameType) (flags : UInt16) (id : Nat) (payload : Bytes) :
    ProtocolResult Frame := do
  let header ← FrameHeader.new frameType flags id payload.length
  pure ⟨header, payload⟩

def lengthMismatch : ProtocolError :=
  .invalidFrame "frame header length does not match payload length"

/-- What `encode_into` appends. -/
def Frame.encode (frame : Frame) : ProtocolResult Bytes :=
  if frame.header.length ≠ frame.payload.length then .error lengthMismatch
  else do
    let header ← frame.header.encode
    pure (header ++ frame.payload)

def Frame.decode (limits : FrameLimits) (src : Bytes) : ProtocolResult (Frame × Bytes) := do
  let (header, src) ← FrameHeader.decode limits src
  if src.length < header.length then .error .truncated
  else pure (⟨header, src.take header.length⟩, src.drop header.length)

def validateConnectionFrame (frame : Frame) (expectedType : FrameType) : ProtocolResult Unit :=
  if frame.header.frameType ≠ expectedType then
    .error (.invalidFrame "unexpected connection frame type")
  else if frame.header.id ≠ 0 then .error (.invalidFrame "connection frame id must be zero")
  else .ok ()

inductive ErrorCode
  | unsupportedVersion
  | unsupportedFlag
  | oversizedFrame
  | truncatedFrame
  | invalidTarget
  | authFailed
  | policyDenied
  | resourceLimit
  | protocol
  | targetUnavailable
  | targetTimeout
  deriving DecidableEq, Repr

def ErrorCode.toNat : ErrorCode → Nat
  | .unsupportedVersion => 1
  | .unsupportedFlag => 2
  | .oversizedFrame => 3
  | .truncatedFrame => 4
  | .invalidTarget => 5
  | .authFailed => 6
  | .policyDenied => 7
  | .resourceLimit => 8
  | .protocol => 9
  | .targetUnavailable => 10
  | .targetTimeout => 11

def ErrorCode.fromProtocolError : ProtocolError → ErrorCode
  | .unsupportedVersion _ => .unsupportedVersion
  | .unsupportedFlag _ => .unsupportedFlag
  | .oversizedFrame _ _ => .oversizedFrame
  | .truncated => .truncatedFrame
  | .invalidTarget _ => .invalidTarget
  | .invalidVarint | .unknownFrameType _ | .invalidFrame _ | .invalidSettings _
  | .invalidTcpPayload _ | .invalidUdpPayload _ | .invalidErrorPayload _ => .protocol

def ErrorCode.encodePayload (code : ErrorCode) : ProtocolResult Bytes := Varint.encode code.toNat

inductive FrameIoError
  | closed
  | io (error : IoError)
  | protocol (error : ProtocolError)
  deriving DecidableEq, Repr

end UncrownedKing.Proto
