import UncrownedKing.Auth.Payload
import UncrownedKing.Policy.Rules

/-!
# Policies from a file

The rules of a policy file as the TOML reader hands them over, and the checks
that turn them into rules.
-/

namespace UncrownedKing.Policy

open Lib Auth Proto

inductive PolicyError
  | invalidCidr (text : String)
  | invalidPortRange
  | invalidAction (text : String)
  | invalidDomain (text : String)
  | invalidKeyId (text : String)
  | invalidPolicyGroup (text : String)
  deriving DecidableEq, Repr

abbrev PolicyResult := Except PolicyError

structure RawPolicyRule where
  action : String
  keyId : Option String := none
  policyGroup : Option String := none
  domain : Option String := none
  domainSuffix : Option String := none
  cidr : Option String := none
  portStart : Option UInt16 := none
  portEnd : Option UInt16 := none
  wantPrivate : Option Bool := none

structure RawPolicySet where
  rules : List RawPolicyRule

def validateKeyIdMatch (keyId : String) : PolicyResult Bytes :=
  match validateKeyId keyId.toUTF8.toList with
  | .ok () => .ok keyId.toUTF8.toList
  | .error _ => .error (.invalidKeyId keyId)

def validatePolicyGroupMatch (group : String) : PolicyResult String :=
  if group.isEmpty || group.toUTF8.toList.any isAsciiControl then
    .error (.invalidPolicyGroup group)
  else .ok group

/-- A leading dot is suffix syntax. -/
def validateDomainMatch (domain : String) : PolicyResult String :=
  let normalized := normalizeDomain domain
  if normalized.head? = some '.' ∨ (validateDomainName (.ofList normalized)).toBool = false then
    .error (.invalidDomain domain)
  else .ok domain

def validateDomainSuffixMatch (suffix : String) : PolicyResult String :=
  let normalized := normalizeDomain suffix
  if (validateDomainPattern (.ofList normalized)).toBool = false then
    .error (.invalidDomain suffix)
  else .ok suffix

def validateCidrMatch (cidr : String) : PolicyResult Cidr :=
  match Cidr.fromStr cidr.toList with
  | some cidr => .ok cidr
  | none => .error (.invalidCidr cidr)

def eqIgnoreAsciiCase (a b : String) : Bool :=
  a.toList.map Char.toLower == b.toList.map Char.toLower

def parseAction (action : String) : PolicyResult PolicyDecision :=
  if eqIgnoreAsciiCase action "allow" then .ok .allow
  else if eqIgnoreAsciiCase action "deny" then .ok .deny
  else .error (.invalidAction action)

def parsePorts : Option UInt16 → Option UInt16 → PolicyResult (Option PortRange)
  | some first, some last =>
    if first ≤ last ∧ first ≠ 0 then .ok (some ⟨first, last⟩) else .error .invalidPortRange
  | none, none => .ok none
  | _, _ => .error .invalidPortRange

def checkPredicate (check : α → PolicyResult β) : Option α → PolicyResult (Option β)
  | none => .ok none
  | some a => some <$> check a

def PolicyRule.tryFrom (raw : RawPolicyRule) : PolicyResult PolicyRule := do
  let action ← parseAction raw.action
  let ports ← parsePorts raw.portStart raw.portEnd
  let wantPrivate := match action, raw.wantPrivate with
    | .allow, none => some false
    | _, other => other
  let keyId ← checkPredicate validateKeyIdMatch raw.keyId
  let policyGroup ← checkPredicate validatePolicyGroupMatch raw.policyGroup
  let domain ← checkPredicate validateDomainMatch raw.domain
  let domainSuffix ← checkPredicate validateDomainSuffixMatch raw.domainSuffix
  let cidr ← checkPredicate validateCidrMatch raw.cidr
  pure { action, keyId, policyGroup, domain, domainSuffix, cidr, ports, wantPrivate }

def PolicySet.tryFrom (raw : RawPolicySet) : PolicyResult PolicySet :=
  PolicySet.mk <$> raw.rules.mapM PolicyRule.tryFrom

end UncrownedKing.Policy
