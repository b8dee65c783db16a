import UncrownedKing.Auth.ReplayCache
import UncrownedKing.Auth.Transcript

/-!
# Verifying a response

The order of the checks is the source's: a MAC is computed for every response
before any cheap check may answer. HMAC-SHA256 is an arbitrary keyed function.
-/

namespace UncrownedKing.Auth

open Lib

/-- The keyed function and the secret drawn once per process. -/
structure Crypto where
  hmac : Bytes → Bytes → Tag
  dummySecret : Vector UInt8 32

def padKeyIdForCt (keyId : Bytes) : Bytes :=
  let len := min keyId.length maxKeyIdLen
  keyId.take len ++ List.replicate (maxKeyIdLen - len) 0 ++ (toBe 8 keyId.length).reverse

def findCredential (credentials : List Credential) (keyId : Bytes) : Option Credential :=
  let inputPadded := padKeyIdForCt keyId
  credentials.foldl (fun matched credential =>
    if inputPadded = padKeyIdForCt credential.keyId ∧ matched.isNone then some credential
    else matched) none

def absDiff (a b : UInt64) : Nat := if a < b then b.toNat - a.toNat else a.toNat - b.toNat

def timestampWithinSkew (timestamp now : UInt64) (allowedSkew : Duration) : Bool :=
  if timestamp = unreadableClock ∨ now = unreadableClock then false
  else absDiff now timestamp ≤ asSecs allowedSkew

def verifyAuthResponseStateless (crypto : Crypto) (credentials : List Credential)
    (exporter : Exporter) (challenge : AuthChallenge) (response : AuthResponse) (now : UInt64)
    (allowedSkew : Duration) : AuthResult Credential := do
  let matched := findCredential credentials response.keyId
  let secret := (matched.filter (·.validateAuthMaterial.isOk)).elim crypto.dummySecret.toList
    Credential.secret
  let mac ← authMac secret exporter challenge response.keyId response.clientNonce
    response.clientTime response.clientCapabilities
  -- the verdict on the tag waits until the cheap lookups have been answered
  let tagMatches : AuthResult Unit :=
    if mac.finalize crypto.hmac = response.tag then .ok () else .error .invalidTag
  let credential ← okOr matched .unknownKey
  credential.validateAuthMaterial
  tagMatches
  if !credential.isActiveAt now then .error .credentialNotActive
  else if !timestampWithinSkew challenge.serverTime now allowedSkew ||
      !timestampWithinSkew response.clientTime now allowedSkew then .error .clockSkew
  else pure credential

def verifyAuthResponseIdentityStateless (crypto : Crypto) (credentials : List Credential)
    (exporter : Exporter) (challenge : AuthChallenge) (response : AuthResponse) (now : UInt64)
    (allowedSkew : Duration) : AuthResult AuthenticatedIdentity :=
  Credential.identity <$>
    verifyAuthResponseStateless crypto credentials exporter challenge response now allowedSkew

/-- `instant` is what the cache reads off the monotonic clock. -/
def verifyAuthResponseCredential (crypto : Crypto) (credentials : List Credential)
    (exporter : Exporter) (challenge : AuthChallenge) (response : AuthResponse) (now : UInt64)
    (allowedSkew : Duration) (instant : Instant) (cache : ReplayCache) :
    ReplayCache × AuthResult Credential :=
  match verifyAuthResponseStateless crypto credentials exporter challenge response now
      allowedSkew with
  | .error err => (cache, .error err)
  | .ok credential =>
    match cache.checkAndInsertAt instant challenge.serverNonce response.clientNonce with
    | (cache, .error err) => (cache, .error err)
    | (cache, .ok ()) => (cache, .ok credential)

def verifyAuthResponseIdentity (crypto : Crypto) (credentials : List Credential)
    (exporter : Exporter) (challenge : AuthChallenge) (response : AuthResponse) (now : UInt64)
    (allowedSkew : Duration) (instant : Instant) (cache : ReplayCache) :
    ReplayCache × AuthResult AuthenticatedIdentity :=
  let (cache, result) := verifyAuthResponseCredential crypto credentials exporter challenge
    response now allowedSkew instant cache
  (cache, Credential.identity <$> result)

end UncrownedKing.Auth
