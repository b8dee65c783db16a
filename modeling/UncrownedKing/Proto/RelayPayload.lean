import UncrownedKing.Proto.Frame
import UncrownedKing.Proto.Target

/-!
# Relay payloads

What `TCP_OPEN`, `TCP_CLOSE`, `UDP_OPEN`, `UDP_CLOSE` and the status frames
carry, and which flow ids a client may choose.
-/

namespace UncrownedKing.Proto

open Lib

def isClientInitiatedFlowId (flowId : Nat) : Bool :=
  flowId ≠ 0 && flowId ≤ Varint.maxVarint && flowId % 2 == 1

def isValidCloseCode (closeCode : UInt16) : Bool := closeCode == 0 || closeCode == 1

def tcpOpenFlagsNone : UInt16 := 0
def tcpCloseNormal : UInt16 := 0
def tcpCloseError : UInt16 := 1

structure TcpOpen where
  target : Target
  openFlags : UInt16
  deriving DecidableEq, Repr

def validateOpenFlags (openFlags : UInt16) : ProtocolResult Unit :=
  if openFlags = tcpOpenFlagsNone then .ok ()
  else .error (.invalidTcpPayload "unknown tcp open flags")

def TcpOpen.encode (tcpOpen : TcpOpen) : ProtocolResult Bytes := do
  validateOpenFlags tcpOpen.openFlags
  let target ← tcpOpen.target.encode
  pure (target ++ toBe 2 tcpOpen.openFlags.toNat)

def TcpOpen.decode (src : Bytes) : ProtocolResult TcpOpen := do
  let (target, src) ← Target.decode src
  if src.length < 2 then .error .truncated
  else
    let openFlags := UInt16.ofNat (fromBe (src.take 2))
    validateOpenFlags openFlags
    if src.length > 2 then .error (.invalidTcpPayload "trailing tcp open bytes")
    else pure ⟨target, openFlags⟩

def encodeClose (invalid : String → ProtocolError) (unknown : String) (closeCode : UInt16) :
    ProtocolResult Bytes :=
  if isValidCloseCode closeCode then .ok (toBe 2 closeCode.toNat) else .error (invalid unknown)

def decodeClose (invalid : String → ProtocolError) (unknown trailing : String) (src : Bytes) :
    ProtocolResult UInt16 :=
  if src.length < 2 then .error .truncated
  else if src.length > 2 then .error (invalid trailing)
  else
    let closeCode := UInt16.ofNat (fromBe src)
    if isValidCloseCode closeCode then .ok closeCode else .error (invalid unknown)

def TcpClose.encode : UInt16 → ProtocolResult Bytes :=
  encodeClose .invalidTcpPayload "unknown tcp close code"

def TcpClose.decode : Bytes → ProtocolResult UInt16 :=
  decodeClose .invalidTcpPayload "unknown tcp close code" "trailing tcp close bytes"

def udpCloseNormal : UInt16 := 0
def udpCloseError : UInt16 := 1

def UdpOpen.encode (target : Target) : ProtocolResult Bytes := target.encode

def UdpOpen.decode (src : Bytes) : ProtocolResult Target := do
  let (target, src) ← Target.decode src
  if src.isEmpty then pure target else .error (.invalidUdpPayload "trailing udp open bytes")

def UdpClose.encode : UInt16 → ProtocolResult Bytes :=
  encodeClose .invalidUdpPayload "unknown udp close code"

def UdpClose.decode : Bytes → ProtocolResult UInt16 :=
  decodeClose .invalidUdpPayload "unknown udp close code" "trailing udp close bytes"

def ErrorCode.tryFrom (value : Nat) : ProtocolResult ErrorCode :=
  match value with
  | 1 => .ok .unsupportedVersion
  | 2 => .ok .unsupportedFlag
  | 3 => .ok .oversizedFrame
  | 4 => .ok .truncatedFrame
  | 5 => .ok .invalidTarget
  | 6 => .ok .authFailed
  | 7 => .ok .policyDenied
  | 8 => .ok .resourceLimit
  | 9 => .ok .protocol
  | 10 => .ok .targetUnavailable
  | 11 => .ok .targetTimeout
  | _ => .error (.invalidErrorPayload "unknown error code")

def ErrorCode.decodePayload (src : Bytes) : ProtocolResult ErrorCode := do
  let (value, src) ← Varint.decode src
  let code ← ErrorCode.tryFrom value
  if src.isEmpty then pure code
  else .error (.invalidErrorPayload "trailing error payload bytes")

end UncrownedKing.Proto
