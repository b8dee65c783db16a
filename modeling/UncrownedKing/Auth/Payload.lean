import UncrownedKing.Lib.Timed
import UncrownedKing.Proto.Varint

/-!
# Authentication payloads

Credentials, the server's challenge and the client's response, with the checks
on their material.
-/

namespace UncrownedKing.Auth

open Lib Proto

inductive AuthError
  | unknownKey
  | credentialNotActive
  | invalidTag
  | clockSkew
  | replay
  | secretTooShort
  | secretNotRandom
  | invalidKeyIdLength
  | invalidCredentialStatus
  | duplicateCredentialKeyId
  | noCredentials
  | invalidCredentialPolicyGroup
  | invalidCredentialValidityWindow
  | invalidPayload (reason : String)
  | protocol (err : ProtocolError)
  deriving DecidableEq, Repr

abbrev AuthResult := Except AuthError

def liftProtocol : ProtocolResult α → AuthResult α
  | .ok a => .ok a
  | .error e => .error (.protocol e)

theorem liftProtocol_ok {r : ProtocolResult α} : liftProtocol r = .ok a ↔ r = .ok a := by
  cases r <;> simp [liftProtocol]

def okOr (x : Option α) (err : AuthError) : AuthResult α := x.elim (.error err) .ok

def maxKeyIdLen : Nat := 64

def minSecretLen : Nat := 32

def maxAuthCapabilitiesLen : Nat := 1024

def unreadableClock : UInt64 := UInt64.ofNat (2 ^ 64 - 1)

inductive CredentialStatus
  | active
  | disabled
  | retired
  deriving DecidableEq, Repr

/-- A server-side record. A vector's length fits a machine word. -/
structure Credential where
  keyId : Bytes
  secret : Bytes
  status : CredentialStatus
  notBefore : Option UInt64
  notAfter : Option UInt64
  policyGroup : Option String
  keyId_length : keyId.length < 2 ^ 64
  deriving DecidableEq, Repr

structure AuthenticatedIdentity where
  keyId : Bytes
  policyGroup : Option String
  deriving DecidableEq, Repr

def Credential.identity (credential : Credential) : AuthenticatedIdentity where
  keyId := credential.keyId
  policyGroup := credential.policyGroup

def validateKeyId (keyId : Bytes) : AuthResult Unit :=
  if keyId.isEmpty || keyId.length > maxKeyIdLen then .error .invalidKeyIdLength else .ok ()

theorem validateKeyId_ok :
    validateKeyId keyId = .ok () ↔ 1 ≤ keyId.length ∧ keyId.length ≤ maxKeyIdLen := by
  cases keyId <;> simp [validateKeyId]

/-- Branch-free in the source. -/
def isSingleRepeatedByte : Bytes → Bool
  | [] => false
  | first :: rest =>
    (first :: rest).foldl (fun differences byte => differences ||| (byte ^^^ first)) 0 == 0

def validateSharedSecret (secret : Bytes) : AuthResult Unit :=
  if secret.length < minSecretLen then .error .secretTooShort
  else if isSingleRepeatedByte secret then .error .secretNotRandom
  else .ok ()

def Credential.validateAuthMaterial (credential : Credential) : AuthResult Unit := do
  validateKeyId credential.keyId
  validateSharedSecret credential.secret

def Credential.active (keyId secret : Bytes) (h : keyId.length < 2 ^ 64) :
    AuthResult Credential := do
  let credential : Credential := ⟨keyId, secret, .active, none, none, none, h⟩
  credential.validateAuthMaterial
  pure credential

def Credential.isActiveAt (credential : Credential) (now : UInt64) : Bool :=
  if now = unreadableClock then false
  else if credential.status ≠ .active then false
  else if credential.notBefore.any (now < ·) then false
  else if credential.notAfter.any (now > ·) then false
  else true

abbrev Nonce := Vector UInt8 32

structure AuthChallenge where
  serverNonce : Nonce
  serverTime : UInt64
  serverCapabilities : Bytes
  limits : Bytes
  deriving DecidableEq, Repr

structure AuthResponse where
  keyId : Bytes
  clientNonce : Nonce
  clientTime : UInt64
  clientCapabilities : Bytes
  tag : Nonce
  deriving DecidableEq, Repr

def validateCapabilitiesLen (len : Nat) : AuthResult Unit :=
  if len > maxAuthCapabilitiesLen then
    .error (.invalidPayload "payload length exceeds maximum allowed")
  else .ok ()

def putU64 (n : UInt64) : Bytes := toBe 8 n.toNat

def putVarbytes (bytes : Bytes) : AuthResult Bytes :=
  (· ++ bytes) <$> liftProtocol (Varint.encode bytes.length)

def AuthChallenge.encode (challenge : AuthChallenge) : AuthResult Bytes := do
  validateCapabilitiesLen challenge.serverCapabilities.length
  validateCapabilitiesLen challenge.limits.length
  let capabilities ← putVarbytes challenge.serverCapabilities
  let limits ← putVarbytes challenge.limits
  pure (challenge.serverNonce.toList ++ putU64 challenge.serverTime ++ capabilities ++ limits)

def AuthResponse.encode (response : AuthResponse) : AuthResult Bytes := do
  validateKeyId response.keyId
  validateCapabilitiesLen response.clientCapabilities.length
  let keyId ← putVarbytes response.keyId
  let capabilities ← putVarbytes response.clientCapabilities
  pure (keyId ++ response.clientNonce.toList ++ putU64 response.clientTime ++ capabilities ++
    response.tag.toList)

def readVarbytes (src : Bytes) (name : String) : AuthResult (Bytes × Bytes) := do
  let (len, src) ← liftProtocol (Varint.decode src)
  if len > maxAuthCapabilitiesLen then
    .error (.invalidPayload "payload length exceeds maximum allowed")
  else if src.length < len then .error (.invalidPayload name)
  else pure (src.take len, src.drop len)

def readNonce (src : Bytes) : Nonce × Bytes :=
  (Vector.ofFn fun i => src.getD i 0, src.drop 32)

def readU64 (src : Bytes) : UInt64 × Bytes := (UInt64.ofNat (fromBe (src.take 8)), src.drop 8)

def AuthChallenge.decode (src : Bytes) : AuthResult AuthChallenge :=
  if src.length < 40 then .error (.invalidPayload "challenge is truncated")
  else do
    let (serverNonce, src) := readNonce src
    let (serverTime, src) := readU64 src
    let (serverCapabilities, src) ← readVarbytes src "server capabilities"
    let (limits, src) ← readVarbytes src "limits"
    if src.isEmpty then pure { serverNonce, serverTime, serverCapabilities, limits }
    else .error (.invalidPayload "trailing challenge bytes")

def minResponseTailLen : Nat := 73

def AuthResponse.decode (src : Bytes) : AuthResult AuthResponse := do
  let (keyIdLen, src) ← liftProtocol (Varint.decode src)
  if keyIdLen = 0 ∨ keyIdLen > maxKeyIdLen then .error .invalidKeyIdLength
  else if src.length < keyIdLen then .error (.invalidPayload "key id")
  else
    let keyId := src.take keyIdLen
    let src := src.drop keyIdLen
    validateKeyId keyId
    if src.length < minResponseTailLen then .error (.invalidPayload "response is truncated")
    else
      let (clientNonce, src) := readNonce src
      let (clientTime, src) := readU64 src
      let (clientCapabilities, src) ← readVarbytes src "client capabilities"
      if src.length < 32 then .error (.invalidPayload "response tag is truncated")
      else if src.length > 32 then .error (.invalidPayload "trailing response bytes")
      else
        let (tag, _) := readNonce src
        pure { keyId, clientNonce, clientTime, clientCapabilities, tag }

end UncrownedKing.Auth
