import UncrownedKing.Net.Parse
import UncrownedKing.Proto.Varint

/-!
# Targets

The address a client asks the relay to reach.
-/

namespace UncrownedKing.Proto

open Lib Net

inductive Target
  | domain (name : String) (port : UInt16)
  | ipv4 (ip : Ipv4Addr) (port : UInt16)
  | ipv6 (ip : Ipv6Addr) (port : UInt16)
  deriving DecidableEq, Repr

def Target.port : Target → UInt16
  | .domain _ port | .ipv4 _ port | .ipv6 _ port => port

/-- Such a target needs no resolution. -/
def Target.Literal : Target → Prop
  | .domain _ _ => False
  | .ipv4 _ _ | .ipv6 _ _ => True

def validatePort (port : UInt16) : ProtocolResult Unit :=
  if port = 0 then .error (.invalidTarget "port must be 1..=65535") else .ok ()

def isAsciiControl (byte : UInt8) : Bool := byte < 0x20 || byte == 0x7f

def isAsciiHexDigit (c : Char) : Bool := (toDigit 16 c).isSome

/-- Every label is a number to `inet_aton`. -/
def isResolverIpShaped (domain : List Char) : Bool :=
  (domain.splitOn '.').all fun label =>
    let allDigits := !label.isEmpty && label.all (·.isDigit)
    let rest := ("0x".toList.isPrefixOf? label).or ("0X".toList.isPrefixOf? label)
    allDigits || rest.any (·.all isAsciiHexDigit)

def validateLabel (label : List Char) : ProtocolResult Unit :=
  if label.isEmpty || label.length > 63 then
    .error (.invalidTarget "invalid domain label length")
  else if label.head? == some '-' || label.getLast? == some '-' then
    .error (.invalidTarget "domain label cannot start or end with hyphen")
  else .ok ()

/-- Labels are ASCII by the time their lengths are looked at. -/
def validateDomain (domain : String) : ProtocolResult Unit :=
  let chars := domain.toList
  if domain.isEmpty || domain.utf8ByteSize > 255 then
    .error (.invalidTarget "invalid domain length")
  else if domain.toUTF8.toList.any isAsciiControl then
    .error (.invalidTarget "domain contains ascii control character")
  else if (IpAddr.fromStr chars).isSome then
    .error (.invalidTarget "domain must not be an IP literal")
  else if isResolverIpShaped chars then
    .error (.invalidTarget "domain must not be an IP literal")
  else if chars.head? == some '.' || chars.getLast? == some '.' ||
      chars.tails.any ("..".toList.isPrefixOf ·) then
    .error (.invalidTarget "malformed domain dot structure")
  else if !chars.all (fun c => c.isAlphanum || c == '.' || c == '-') then
    .error (.invalidTarget "domain contains invalid characters")
  else (chars.splitOn '.').forM validateLabel

def validateDomainName (name : String) : ProtocolResult Unit := validateDomain name

def stripTrailingDot (text : List Char) : List Char :=
  if text.getLast? = some '.' then text.dropLast else text

/-- `strip_prefix`, or the text as it is. -/
def stripLeadingDot : List Char → List Char
  | '.' :: rest => rest
  | text => text

def validateDomainPattern (pattern : String) : ProtocolResult Unit :=
  validateDomain (.ofList (stripTrailingDot (stripLeadingDot pattern.toList)))

inductive AddrType
  | domain
  | ipv4
  | ipv6
  deriving DecidableEq, Repr

def AddrType.toByte : AddrType → UInt8
  | .domain => 0x01
  | .ipv4 => 0x02
  | .ipv6 => 0x03

def Target.host : Target → AddrType × Bytes
  | .domain name _ => (.domain, name.toUTF8.toList)
  | .ipv4 ip _ => (.ipv4, toBe 4 ip.toBits.toNat)
  | .ipv6 ip _ => (.ipv6, toBe 16 ip.toBits.toNat)

def Target.encode (target : Target) : ProtocolResult Bytes := do
  validatePort target.port
  if let .domain name _ := target then validateDomain name
  let (addrType, host) := target.host
  let hostLen ← Varint.encode host.length
  pure (addrType.toByte :: hostLen ++ host ++ toBe 2 target.port.toNat)

def AddrType.tryFrom (value : UInt8) : ProtocolResult AddrType :=
  match value with
  | 0x01 => .ok .domain
  | 0x02 => .ok .ipv4
  | 0x03 => .ok .ipv6
  | _ => .error (.invalidTarget "unknown address type")

def AddrType.checkHostLen (addrType : AddrType) (hostLen : Nat) : ProtocolResult Unit :=
  match addrType with
  | .domain =>
    if hostLen = 0 ∨ hostLen > 255 then .error (.invalidTarget "invalid domain length") else .ok ()
  | .ipv4 => if hostLen ≠ 4 then .error (.invalidTarget "invalid ipv4 length") else .ok ()
  | .ipv6 => if hostLen ≠ 16 then .error (.invalidTarget "invalid ipv6 length") else .ok ()

def AddrType.readHost (addrType : AddrType) (host : Bytes) (port : UInt16) :
    ProtocolResult Target :=
  match addrType, host with
  | .domain, host =>
    match String.fromUTF8? ⟨host.toArray⟩ with
    | none => .error (.invalidTarget "domain is not utf-8")
    | some name => do
      validateDomain name
      pure (.domain name port)
  | .ipv4, [a, b, c, d] => .ok (.ipv4 (.new a b c d) port)
  | .ipv4, _ => .error (.invalidTarget "invalid ipv4 length")
  | .ipv6, [a0, a1, b0, b1, c0, c1, d0, d1, e0, e1, f0, f1, g0, g1, h0, h1] =>
    .ok (.ipv6 (.new (groupOfOctets a0 a1) (groupOfOctets b0 b1) (groupOfOctets c0 c1)
      (groupOfOctets d0 d1) (groupOfOctets e0 e1) (groupOfOctets f0 f1) (groupOfOctets g0 g1)
      (groupOfOctets h0 h1)) port)
  | .ipv6, _ => .error (.invalidTarget "invalid ipv6 length")

def Target.decode (src : Bytes) : ProtocolResult (Target × Bytes) :=
  match src with
  | [] => .error .truncated
  | addrType :: src => do
    let addrType ← AddrType.tryFrom addrType
    let (hostLen, src) ← Varint.decode src
    addrType.checkHostLen hostLen
    if src.length < hostLen + 2 then .error .truncated
    else
      let host := src.take hostLen
      let port := UInt16.ofNat (fromBe ((src.drop hostLen).take 2))
      validatePort port
      let target ← addrType.readHost host port
      pure (target, src.drop (hostLen + 2))

end UncrownedKing.Proto
