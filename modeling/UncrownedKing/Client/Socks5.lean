import UncrownedKing.Client.Session
import UncrownedKing.Lib.Duplex

/-!
# The local SOCKS5 front

The SOCKS greeting, request and UDP header. Writes to the local connection
succeed.
-/

namespace UncrownedKing.Net

def Ipv4Addr.fromOctets (octets : List UInt8) : Ipv4Addr :=
  .new (octets.getD 0 0) (octets.getD 1 0) (octets.getD 2 0) (octets.getD 3 0)

def Ipv6Addr.fromOctets (octets : List UInt8) : Ipv6Addr :=
  let segment (i : Nat) := groupOfOctets (octets.getD (2 * i) 0) (octets.getD (2 * i + 1) 0)
  .new (segment 0) (segment 1) (segment 2) (segment 3) (segment 4) (segment 5) (segment 6)
    (segment 7)

end UncrownedKing.Net

namespace UncrownedKing.Proto

def hexPadded (width n : Nat) : String :=
  let digits := Nat.toDigits 16 n
  .ofList (List.replicate (width - digits.length) '0' ++ digits)

def ProtocolError.display : ProtocolError → String
  | .unsupportedVersion version => "unsupported protocol version " ++ toString version.toNat
  | .unsupportedFlag bits => "unsupported required flag bits 0x" ++ hexPadded 4 bits.toNat
  | .oversizedFrame length limit =>
    "oversized frame length " ++ toString length ++ " exceeds limit " ++ toString limit
  | .truncated => "truncated input"
  | .invalidVarint => "invalid varint"
  | .invalidTarget reason => "invalid target: " ++ reason
  | .unknownFrameType value => "unknown frame type 0x" ++ hexPadded 2 value.toNat
  | .invalidFrame reason => "invalid frame: " ++ reason
  | .invalidSettings reason => "invalid settings: " ++ reason
  | .invalidTcpPayload reason => "invalid tcp payload: " ++ reason
  | .invalidUdpPayload reason => "invalid udp payload: " ++ reason
  | .invalidErrorPayload reason => "invalid error payload: " ++ reason

end UncrownedKing.Proto

namespace UncrownedKing.Client

open Lib Net Proto

def Reply.code : Reply → UInt8
  | .succeeded => 0x00
  | .generalFailure => 0x01
  | .notAllowed => 0x02
  | .hostUnreachable => 0x04
  | .connectionRefused => 0x05
  | .commandNotSupported => 0x07
  | .addressTypeNotSupported => 0x08

namespace Socks5

def version : UInt8 := 0x05
def methodNoAuth : UInt8 := 0x00
def methodNoAcceptable : UInt8 := 0xff
def cmdConnect : UInt8 := 0x01
def cmdUdpAssociate : UInt8 := 0x03
def atypIpv4 : UInt8 := 0x01
def atypDomain : UInt8 := 0x03
def atypIpv6 : UInt8 := 0x04

structure RequestHead where
  command : UInt8
  addrType : UInt8
  deriving DecidableEq, Repr

inductive SocksEndpoint
  | ipv4 (addr : Ipv4Addr) (port : UInt16)
  | domain (name : String) (port : UInt16)
  | ipv6 (addr : Ipv6Addr) (port : UInt16)
  deriving DecidableEq, Repr

inductive Request
  | connect (target : Target)
  | udpAssociate (endpoint : SocksEndpoint)
  deriving DecidableEq, Repr

structure UdpDatagram where
  target : Target
  payload : Bytes
  deriving DecidableEq, Repr

def protocolError (message : String) : IoError := ⟨.invalidData, message⟩

def validateDomain (domain : String) : Except IoError Unit :=
  if domain.isEmpty ∨ domain.utf8ByteSize > 255 then
    .error (protocolError "invalid socks domain length")
  else if domain.toUTF8.toList.any isAsciiControl then
    .error (protocolError "socks domain contains ascii control character")
  else .ok ()

def validateUdpAssociateEndpoint : SocksEndpoint → Except IoError Unit
  | .domain domain _ => validateDomain domain
  | _ => .ok ()

def validateTarget (target : Target) : Except IoError Unit :=
  match target.encode with
  | .ok _ => .ok ()
  | .error error => .error (protocolError error.display)

def targetFromEndpoint (endpoint : SocksEndpoint) : Except IoError Target := do
  let target : Target :=
    match endpoint with
    | .ipv4 addr port => .ipv4 addr port
    | .domain domain port => .domain domain port
    | .ipv6 addr port => .ipv6 addr port
  validateTarget target
  pure target

def endpointFromTarget : Target → SocksEndpoint
  | .ipv4 addr port => .ipv4 addr port
  | .domain domain port => .domain domain port
  | .ipv6 addr port => .ipv6 addr port

def encodeEndpoint : SocksEndpoint → Except IoError Bytes
  | .ipv4 addr port => pure (atypIpv4 :: toBe 4 addr.toBits.toNat ++ toBe 2 port.toNat)
  | .domain domain port => do
    validateDomain domain
    if domain.utf8ByteSize > 255 then throw (protocolError "invalid socks domain length")
    pure (atypDomain :: UInt8.ofNat domain.utf8ByteSize :: domain.toUTF8.toList ++
      toBe 2 port.toNat)
  | .ipv6 addr port => pure (atypIpv6 :: toBe 16 addr.toBits.toNat ++ toBe 2 port.toNat)

/-- The endpoint in front of `src`, and how many bytes it takes. -/
def decodeEndpoint (src : Bytes) (addrType : UInt8) : Except IoError (SocksEndpoint × Nat) :=
  if addrType = atypIpv4 then
    if src.length < 6 then .error (protocolError "truncated socks ipv4 endpoint")
    else
      let port := UInt16.ofNat (fromBe ((src.drop 4).take 2))
      .ok (.ipv4 (.fromOctets (src.take 4)) port, 6)
  else if addrType = atypDomain then
    match src with
    | [] => .error (protocolError "truncated socks domain endpoint")
    | len :: _ =>
      let domainLen := len.toNat
      let endpointLen := 1 + domainLen + 2
      if src.length < endpointLen then
        .error (protocolError "truncated socks domain endpoint")
      else
        let domainEnd := 1 + domainLen
        match String.fromUTF8? ⟨((src.take domainEnd).drop 1).toArray⟩ with
        | none => .error (protocolError "socks domain is not utf-8")
        | some domain =>
          let port := UInt16.ofNat (fromBe ((src.drop domainEnd).take 2))
          .ok (.domain domain port, endpointLen)
  else if addrType = atypIpv6 then
    if src.length < 18 then .error (protocolError "truncated socks ipv6 endpoint")
    else
      let port := UInt16.ofNat (fromBe ((src.drop 16).take 2))
      .ok (.ipv6 (.fromOctets (src.take 16)) port, 18)
  else .error (protocolError "unsupported socks address type")

def encodeUdpDatagram (target : Target) (payload : Bytes) : Except IoError Bytes := do
  validateTarget target
  let endpoint ← encodeEndpoint (endpointFromTarget target)
  pure ([0x00, 0x00, 0x00] ++ endpoint ++ payload)

def decodeUdpDatagram (packet : Bytes) : Except IoError UdpDatagram :=
  match packet with
  | rsv0 :: rsv1 :: frag :: addrType :: src =>
    if rsv0 ≠ 0 ∨ rsv1 ≠ 0 then .error (protocolError "invalid socks udp reserved bytes")
    else if frag ≠ 0 then .error (protocolError "socks udp fragmentation is not supported")
    else do
      let (endpoint, payloadOffset) ← decodeEndpoint src addrType
      let target ← targetFromEndpoint endpoint
      pure ⟨target, src.drop payloadOffset⟩
  | _ => .error (protocolError "truncated socks udp header")

abbrev SocksM := DuplexM IoError

def sendMethodSelection (method : UInt8) : SocksM Unit := DuplexM.write [version, method]

def sendReplyWithEndpoint (reply : Reply) (endpoint : SocksEndpoint) : SocksM Unit := do
  let encoded ← ExceptT.mk (pure (encodeEndpoint endpoint))
  DuplexM.write ([version, reply.code, 0x00] ++ encoded)

def sendReply (reply : Reply) : SocksM Unit :=
  sendReplyWithEndpoint reply (.ipv4 (.new 0 0 0 0) 0)

def earlyEof : IoError := ⟨.unexpectedEof, "early eof"⟩
def unexpectedEof : IoError := ⟨.unexpectedEof, "unexpected end of file"⟩

def readExact (n : Nat) : SocksM Bytes := DuplexM.readExact earlyEof n

def readU8 : SocksM UInt8 := do
  let byte ← DuplexM.readExact unexpectedEof 1
  pure (byte.headD 0)

def truncatedGreeting (error : IoError) : SocksM α :=
  if error.kind = .unexpectedEof then do
    sendMethodSelection methodNoAcceptable
    throw (protocolError "truncated socks greeting")
  else throw error

def readGreetingExact (n : Nat) : SocksM Bytes := tryCatch (readExact n) truncatedGreeting

def readGreeting : SocksM Unit := do
  let first ← readU8
  if first ≠ version then throw (protocolError "unsupported socks version")
  else
    let methodCount ← tryCatch readU8 truncatedGreeting
    if methodCount = 0 then do
      sendMethodSelection methodNoAcceptable
      throw (protocolError "socks greeting has no methods")
    else
      let methods ← readGreetingExact methodCount.toNat
      if methodNoAuth ∈ methods then pure ()
      else do
        sendMethodSelection methodNoAcceptable
        throw (protocolError "socks client offered no supported method")

def refuse (reply : Reply) (error : IoError) : SocksM α := do
  sendReply reply
  throw error

def truncatedRequest (error : IoError) : SocksM α :=
  if error.kind = .unexpectedEof then
    refuse .generalFailure (protocolError "truncated socks request")
  else throw error

def readRequestExact (n : Nat) : SocksM Bytes := tryCatch (readExact n) truncatedRequest

def readPort : SocksM UInt16 := do
  let port ← readRequestExact 2
  pure (UInt16.ofNat (fromBe port))

def readEndpoint (addrType : UInt8) : SocksM SocksEndpoint :=
  if addrType = atypIpv4 then do
    let octets ← readRequestExact 4
    let port ← readPort
    pure (.ipv4 (.fromOctets octets) port)
  else if addrType = atypDomain then do
    let len ← readRequestExact 1
    let domain ← readRequestExact (len.headD 0).toNat
    let port ← readPort
    match String.fromUTF8? ⟨domain.toArray⟩ with
    | none => refuse .generalFailure (protocolError "socks domain is not utf-8")
    | some domain => pure (.domain domain port)
  else if addrType = atypIpv6 then do
    let octets ← readRequestExact 16
    let port ← readPort
    pure (.ipv6 (.fromOctets octets) port)
  else refuse .addressTypeNotSupported (protocolError "unsupported socks address type")

def readRequestHead : SocksM RequestHead := do
  let head ← readRequestExact 4
  if head.getD 0 0 ≠ version then
    refuse .generalFailure (protocolError "unsupported socks request version")
  else if head.getD 2 0 ≠ 0 then
    refuse .generalFailure (protocolError "invalid socks reserved byte")
  else pure ⟨head.getD 1 0, head.getD 3 0⟩

def readRequest : SocksM Request := do
  let head ← readRequestHead
  if head.command = cmdConnect then
    let endpoint ← readEndpoint head.addrType
    match targetFromEndpoint endpoint with
    | .ok target => pure (.connect target)
    | .error error => refuse .generalFailure error
  else if head.command = cmdUdpAssociate then
    let endpoint ← readEndpoint head.addrType
    match validateUdpAssociateEndpoint endpoint with
    | .ok () => pure (.udpAssociate endpoint)
    | .error error => refuse .generalFailure error
  else refuse .commandNotSupported (protocolError "unsupported socks command")

def negotiateRequest : SocksM Request := do
  readGreeting
  sendMethodSelection methodNoAuth
  readRequest

end Socks5

end UncrownedKing.Client
