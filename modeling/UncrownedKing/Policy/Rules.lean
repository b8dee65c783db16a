import Mathlib.Data.List.DropRight
import UncrownedKing.Proto.Target

/-!
# The policy engine

The first matching rule decides, and a request no rule matches is denied.
`evaluate` judges a request with its resolved addresses, `evaluatePreResolve`
with what is known before DNS.
-/

namespace UncrownedKing.Policy

open Net Proto

inductive PolicyDecision
  | allow
  | deny
  deriving DecidableEq, Repr

inductive PreResolveDecision
  | deniedWithoutResolution
  | needsResolution
  deriving DecidableEq, Repr

structure PolicyContext where
  keyId : List UInt8
  policyGroup : Option String
  target : Target
  resolvedIps : List IpAddr
  deriving DecidableEq, Repr

/-- A prefix beyond the address width can be built; the masks keep it harmless. -/
inductive Cidr
  | v4 (network : Ipv4Addr) (pfx : UInt8)
  | v6 (network : Ipv6Addr) (pfx : UInt8)
  deriving DecidableEq, Repr

/-- The errors of the constructors carry a text no caller here reads. -/
def Cidr.newV4 (network : Ipv4Addr) (pfx : UInt8) : Option Cidr :=
  if pfx ≤ 32 then some (.v4 network pfx) else none

def Cidr.newV6 (network : Ipv6Addr) (pfx : UInt8) : Option Cidr :=
  if pfx ≤ 128 then some (.v6 network pfx) else none

def Cidr.fromStr (input : List Char) : Option Cidr := do
  let (addr, rest) := input.span (· ≠ '/')
  let pfx ← rest.tail?.bind parseU8
  match ← IpAddr.fromStr addr with
  | .v4 ip => newV4 ip pfx
  | .v6 ip => newV6 ip pfx

structure PortRange where
  first : UInt16
  last : UInt16
  deriving DecidableEq, Repr

def PortRange.contains (ports : PortRange) (port : UInt16) : Bool :=
  ports.first ≤ port && port ≤ ports.last

structure PolicyRule where
  action : PolicyDecision
  keyId : Option (List UInt8)
  policyGroup : Option String
  domain : Option String
  domainSuffix : Option String
  cidr : Option Cidr
  ports : Option PortRange
  wantPrivate : Option Bool
  deriving DecidableEq, Repr

def PolicyRule.new (action : PolicyDecision) : PolicyRule where
  action := action
  keyId := none
  policyGroup := none
  domain := none
  domainSuffix := none
  cidr := none
  ports := none
  wantPrivate := match action with
    | .allow => some false
    | .deny => none

structure PolicySet where
  rules : List PolicyRule
  deriving DecidableEq, Repr

def ipv4FromSegments (high low : UInt16) : Ipv4Addr :=
  .new (high >>> 8).toUInt8 high.toUInt8 (low >>> 8).toUInt8 low.toUInt8

/-- The strict form, which CIDR predicates use. -/
def ipv4Mapped (ip : Ipv6Addr) : Option Ipv4Addr :=
  if ip.s0 = 0 ∧ ip.s1 = 0 ∧ ip.s2 = 0 ∧ ip.s3 = 0 ∧ ip.s4 = 0 ∧ ip.s5 = 0xffff then
    some (ipv4FromSegments ip.s6 ip.s7)
  else none

/-- Only the deny-side classifiers use it. -/
def embeddedIpv4 (ip : Ipv6Addr) : Option Ipv4Addr :=
  match ipv4Mapped ip with
  | some mapped => some mapped
  | none =>
    if ip.s0 = 0x0064 ∧ ip.s1 = 0xff9b ∧ ip.s2 = 0 ∧ ip.s3 = 0 ∧ ip.s4 = 0 ∧ ip.s5 = 0 then
      some (ipv4FromSegments ip.s6 ip.s7)
    else if (ip.s0 = 0 ∧ ip.s1 = 0 ∧ ip.s2 = 0 ∧ ip.s3 = 0 ∧ ip.s4 = 0 ∧ ip.s5 = 0) ∧
        ¬ (ip.s6 = 0 ∧ ip.s7 ≤ 1) then
      some (ipv4FromSegments ip.s6 ip.s7)
    else if ip.s0 = 0x2002 then some (ipv4FromSegments ip.s1 ip.s2)
    else none

def isIpv4ThisNetwork (ip : Ipv4Addr) : Bool := ip.o0 == 0

def isIpv4Documentation (ip : Ipv4Addr) : Bool :=
  (ip.o0 == 192 && ip.o1 == 0 && ip.o2 == 2) ||
    (ip.o0 == 198 && ip.o1 == 51 && ip.o2 == 100) ||
    (ip.o0 == 203 && ip.o1 == 0 && ip.o2 == 113)

def isIpv4SharedAddress (ip : Ipv4Addr) : Bool := ip.o0 == 100 && 64 ≤ ip.o1 && ip.o1 ≤ 127

def isIpv4Benchmarking (ip : Ipv4Addr) : Bool := ip.o0 == 198 && (ip.o1 == 18 || ip.o1 == 19)

def isIpv4ProtocolAssignment (ip : Ipv4Addr) : Bool := ip.o0 == 192 && ip.o1 == 0 && ip.o2 == 0

def isIpv46to4RelayAnycast (ip : Ipv4Addr) : Bool := ip.o0 == 192 && ip.o1 == 88 && ip.o2 == 99

def isIpv4Reserved (ip : Ipv4Addr) : Bool := ip.o0 ≥ 240

def isIpv6UnicastLinkLocal (ip : Ipv6Addr) : Bool := ip.s0 &&& 0xffc0 == 0xfe80

def isIpv6SiteLocal (ip : Ipv6Addr) : Bool := ip.s0 &&& 0xffc0 == 0xfec0

def isIpv6Documentation (ip : Ipv6Addr) : Bool :=
  (ip.s0 == 0x2001 && ip.s1 == 0x0db8) || (ip.s0 == 0x3fff && ip.s1 &&& 0xf000 == 0)

def isIpv6Orchid (ip : Ipv6Addr) : Bool := ip.s0 == 0x2001 && ip.s1 &&& 0xfff0 == 0x0010

def isRestrictedIpv4 (ip : Ipv4Addr) : Bool :=
  ip.isPrivate || ip.isLoopback || ip.isLinkLocal || ip.isUnspecified || ip.isBroadcast ||
    ip.isMulticast || isIpv4Documentation ip || isIpv4SharedAddress ip ||
    isIpv4Benchmarking ip || isIpv4ProtocolAssignment ip || isIpv46to4RelayAnycast ip ||
    isIpv4Reserved ip || isIpv4ThisNetwork ip

/-- The recursive call of the source is on an IPv4 address, so it is the first case. -/
def isPrivate : IpAddr → Bool
  | .v4 ip => isRestrictedIpv4 ip
  | .v6 ip =>
    (embeddedIpv4 ip).any isRestrictedIpv4 || ip.isUniqueLocal || ip.isLoopback ||
      ip.isUnspecified || ip.isMulticast || isIpv6UnicastLinkLocal ip || isIpv6SiteLocal ip ||
      isIpv6Documentation ip || isIpv6Orchid ip

def metadataServiceIpv4 : List Ipv4Addr :=
  [.new 169 254 169 254, .new 169 254 170 2, .new 100 100 100 200, .new 168 63 129 16]

def metadataServiceIpv6 : Ipv6Addr := .new 0xfd00 0x0ec2 0 0 0 0 0 0x0254

/-- As in `isPrivate`, the recursive call is on an IPv4 address. -/
def isMetadataServiceIp : IpAddr → Bool
  | .v4 ip => metadataServiceIpv4.contains ip
  | .v6 ip => (embeddedIpv4 ip).any metadataServiceIpv4.contains || ip == metadataServiceIpv6

def ipv4Mask (pfx : UInt8) : BitVec 32 :=
  if pfx = 0 then 0
  else if pfx ≤ 32 then BitVec.allOnes 32 <<< (32 - pfx.toNat)
  else BitVec.allOnes 32

def ipv6Mask (pfx : UInt8) : BitVec 128 :=
  if pfx = 0 then 0
  else if pfx ≤ 128 then BitVec.allOnes 128 <<< (128 - pfx.toNat)
  else BitVec.allOnes 128

def Cidr.containsV4 (network : Ipv4Addr) (pfx : UInt8) (ip : Ipv4Addr) : Bool :=
  network.toBits &&& ipv4Mask pfx == ip.toBits &&& ipv4Mask pfx

def Cidr.contains : Cidr → IpAddr → Bool
  | .v4 network pfx, .v4 ip => containsV4 network pfx ip
  | .v4 network pfx, .v6 ip => (ipv4Mapped ip).any (containsV4 network pfx)
  | .v6 network pfx, .v6 ip =>
    network.toBits &&& ipv6Mask pfx == ip.toBits &&& ipv6Mask pfx
  | .v6 _ _, .v4 _ => false

def targetDomain : Target → Option String
  | .domain name _ => some name
  | .ipv4 _ _ | .ipv6 _ _ => none

/-- Trailing dots dropped, ASCII letters lowered. -/
def normalizeDomain (domain : String) : List Char :=
  (domain.toList.rdropWhile (· == '.')).map Char.toLower

def domainMatchesExact (domain want : String) : Bool :=
  let domain := normalizeDomain domain
  let want := normalizeDomain want
  !want.isEmpty && domain == want

def utf8Len (s : List Char) : Nat := (s.map Char.utf8Size).sum

def domainMatchesSuffix (domain suffix : String) : Bool :=
  let domain := normalizeDomain domain
  let suffix := normalizeDomain suffix
  match suffix with
  | [] => false
  | '.' :: stripped =>
    !stripped.isEmpty && utf8Len domain > utf8Len stripped && suffix.isSuffixOf domain
  | _ =>
    domain == suffix ||
      (suffix.isSuffixOf domain &&
        (domain.take (domain.length - suffix.length)).getLast? == some '.')

def PolicyRule.isBlanketPrivateDeny (rule : PolicyRule) : Bool :=
  rule.action = .deny && rule.wantPrivate = some true && rule.keyId.isNone &&
    rule.policyGroup.isNone && rule.domain.isNone && rule.domainSuffix.isNone &&
    rule.ports.isNone && rule.cidr.isNone

def targetIps : Target → List IpAddr → List IpAddr
  | .domain _ _, resolvedIps => resolvedIps
  | .ipv4 ip _, _ => [.v4 ip]
  | .ipv6 ip _, _ => [.v6 ip]

def cidrMatches (action : PolicyDecision) (cidr : Cidr) (target : Target)
    (resolvedIps : List IpAddr) : Bool :=
  let ips := targetIps target resolvedIps
  if ips.isEmpty then false
  else match action with
    | .allow => ips.all cidr.contains
    | .deny => ips.any cidr.contains

def privateMatches (context : PolicyContext) (wantPrivate : Bool) : Bool :=
  let ips := targetIps context.target context.resolvedIps
  if ips.isEmpty then false
  else if wantPrivate then ips.any isPrivate
  else ips.all fun ip => !isPrivate ip

def targetOrResolutionContainsMetadataServiceIp (target : Target)
    (resolvedIps : List IpAddr) : Bool :=
  (targetIps target resolvedIps).any isMetadataServiceIp

def targetOrResolutionIsPrivate : Target → List IpAddr → Bool
  | .ipv4 ip _, _ => isRestrictedIpv4 ip
  | .ipv6 ip _, _ => isPrivate (.v6 ip)
  | .domain _ _, resolvedIps =>
    if resolvedIps.isEmpty then true else resolvedIps.any isPrivate

def PolicyRule.matchesFixedPredicates (rule : PolicyRule) (context : PolicyContext) : Bool :=
  if rule.keyId.any (· != context.keyId) then false
  else if rule.policyGroup.any fun group => context.policyGroup.all (· != group) then false
  else if rule.domain.any fun want =>
      (targetDomain context.target).all fun domain => !domainMatchesExact domain want then false
  else if rule.domainSuffix.any fun suffix =>
      (targetDomain context.target).all fun domain => !domainMatchesSuffix domain suffix then false
  else if rule.ports.any fun ports => !ports.contains context.target.port then false
  else true

def PolicyRule.matches (rule : PolicyRule) (context : PolicyContext) : Bool :=
  if !rule.matchesFixedPredicates context then false
  else if rule.cidr.any fun cidr =>
      !cidrMatches rule.action cidr context.target context.resolvedIps then false
  else if rule.wantPrivate.any fun want => !privateMatches context want then false
  else true

def PolicyRule.resolutionDependent (rule : PolicyRule) : Target → Bool
  | .ipv4 _ _ | .ipv6 _ _ => false
  | .domain _ _ =>
    if rule.cidr.isSome then true
    else match rule.action, rule.wantPrivate with
      | .deny, none => false
      | _, _ => true

def evaluateRules (context : PolicyContext) : List PolicyRule → PolicyDecision
  | [] => .deny
  | rule :: rest =>
    if rule.matches context then
      if rule.action = .allow && rule.wantPrivate != some true &&
          targetOrResolutionIsPrivate context.target context.resolvedIps then .deny
      else rule.action
    else evaluateRules context rest

def PolicySet.evaluate (policy : PolicySet) (context : PolicyContext) : PolicyDecision :=
  if targetOrResolutionContainsMetadataServiceIp context.target context.resolvedIps then .deny
  else evaluateRules context policy.rules

def preResolveRules (context : PolicyContext) : List PolicyRule → PreResolveDecision
  | [] => .deniedWithoutResolution
  | rule :: rest =>
    if !rule.matchesFixedPredicates context then preResolveRules context rest
    else if rule.resolutionDependent context.target then .needsResolution
    else match rule.action with
      | .deny => .deniedWithoutResolution
      | .allow => .needsResolution

def PolicySet.evaluatePreResolve (policy : PolicySet) (context : PolicyContext) :
    PreResolveDecision :=
  match context.target with
  | .ipv4 _ _ | .ipv6 _ _ =>
    match policy.evaluate context with
    | .allow => .needsResolution
    | .deny => .deniedWithoutResolution
  | .domain _ _ =>
    if !policy.rules.any fun rule =>
        rule.action = .allow && rule.matchesFixedPredicates context then
      .deniedWithoutResolution
    else preResolveRules context policy.rules

/-- The flag says whether private addresses are denied by then. -/
def unrestrictedPrivateAllow (hasBlanketPrivateDeny : Bool) : List PolicyRule → Bool
  | [] => false
  | rule :: rest =>
    if rule.isBlanketPrivateDeny then unrestrictedPrivateAllow true rest
    else if rule.action = .allow && !hasBlanketPrivateDeny && rule.wantPrivate = some true then true
    else unrestrictedPrivateAllow hasBlanketPrivateDeny rest

def PolicySet.hasUnrestrictedPrivateAllow (policy : PolicySet) : Bool :=
  unrestrictedPrivateAllow false policy.rules

end UncrownedKing.Policy
