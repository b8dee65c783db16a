import UncrownedKing.Auth.Payload

/-!
# What the authentication MAC covers

What `authMac` feeds to the MAC. Each part delimits itself, so the bytes
determine everything they are computed from.
-/

namespace UncrownedKing.Auth

open Lib Proto

abbrev Exporter := Vector UInt8 32

abbrev Tag := Vector UInt8 32

def authLabel : Bytes := [0x55, 0x4b, 0x2d, 0x41, 0x55, 0x54, 0x48, 0x2d, 0x76, 0x31]

def encodedChallengePayload (challenge : AuthChallenge) : AuthResult Bytes := do
  let _ ← liftProtocol (Varint.encodedLen challenge.serverCapabilities.length)
  let _ ← liftProtocol (Varint.encodedLen challenge.limits.length)
  challenge.encode

def encodedResponsePrefix (keyId : Bytes) (clientNonce : Nonce) (clientTime : UInt64)
    (clientCapabilities : Bytes) : AuthResult Bytes := do
  let _ ← liftProtocol (Varint.encodedLen keyId.length)
  let _ ← liftProtocol (Varint.encodedLen clientCapabilities.length)
  let keyId ← putVarbytes keyId
  let capabilities ← putVarbytes clientCapabilities
  pure (keyId ++ clientNonce.toList ++ putU64 clientTime ++ capabilities)

structure Mac where
  key : Bytes
  input : Bytes
  deriving DecidableEq, Repr

def Mac.finalize (hmac : Bytes → Bytes → Tag) (mac : Mac) : Tag := hmac mac.key mac.input

/-- A malformed key id is reported last, after the work is done. -/
def authMac (secret : Bytes) (exporter : Exporter) (challenge : AuthChallenge) (keyId : Bytes)
    (clientNonce : Nonce) (clientTime : UInt64) (clientCapabilities : Bytes) :
    AuthResult Mac := do
  validateSharedSecret secret
  let challengePayload ← encodedChallengePayload challenge
  let responsePart ← encodedResponsePrefix keyId clientNonce clientTime clientCapabilities
  validateKeyId keyId
  pure ⟨secret, authLabel ++ exporter.toList ++ challengePayload ++ responsePart⟩

def computeAuthTag (hmac : Bytes → Bytes → Tag) (secret : Bytes) (exporter : Exporter)
    (challenge : AuthChallenge) (keyId : Bytes) (clientNonce : Nonce) (clientTime : UInt64)
    (clientCapabilities : Bytes) : AuthResult Tag :=
  (·.finalize hmac) <$>
    authMac secret exporter challenge keyId clientNonce clientTime clientCapabilities

def AuthResponse.forChallenge (hmac : Bytes → Bytes → Tag) (keyId secret : Bytes)
    (exporter : Exporter) (challenge : AuthChallenge) (clientNonce : Nonce) (clientTime : UInt64)
    (clientCapabilities : Bytes) : AuthResult AuthResponse := do
  validateKeyId keyId
  validateSharedSecret secret
  let tag ← computeAuthTag hmac secret exporter challenge keyId clientNonce clientTime
    clientCapabilities
  pure ⟨keyId, clientNonce, clientTime, clientCapabilities, tag⟩

theorem nonce_delimited : Delimited fun nonce : Nonce => (.ok nonce.toList : AuthResult Bytes) := by
  refine .of_length 32 ?_ ?_
  · rintro nonce _ ⟨⟩
    exact nonce.length_toList
  · rintro a b _ ⟨⟩ hb
    injection hb with hb
    exact (Vector.toList_inj.mp hb).symm

theorem u64_delimited : Delimited fun n : UInt64 => (.ok (putU64 n) : AuthResult Bytes) := by
  refine .of_length 8 ?_ ?_
  · rintro n _ ⟨⟩
    exact length_toBe
  · rintro a b _ ⟨⟩ hb
    injection hb with hb
    have h := congrArg fromBe hb
    rw [putU64, putU64, fromBe_toBe b.toNat_lt, fromBe_toBe a.toNat_lt] at h
    exact (UInt64.toNat_inj.mp h).symm

theorem length_delimited :
    Delimited fun len => (liftProtocol (Varint.encode len) : AuthResult Bytes) := by
  intro a b x y r s ha hb
  exact Varint.encode_delimited (liftProtocol_ok.mp ha) (liftProtocol_ok.mp hb)

theorem varbytes_delimited : Delimited putVarbytes := length_delimited.lengthPrefixed

theorem challenge_delimited : Delimited encodedChallengePayload := by
  intro c d x y r s hc hd heq
  simp only [encodedChallengePayload, AuthChallenge.encode, bind_eq_ok] at hc hd
  obtain ⟨-, -, -, -, -, -, -, -, caps, hcaps, limits, hlimits, hx⟩ := hc
  obtain ⟨-, -, -, -, -, -, -, -, caps', hcaps', limits', hlimits', hy⟩ := hd
  cases hx
  cases hy
  simp only [List.append_assoc] at heq
  obtain ⟨hnonce, heq⟩ := nonce_delimited rfl rfl heq
  obtain ⟨htime, heq⟩ := u64_delimited rfl rfl heq
  obtain ⟨hc, heq⟩ := varbytes_delimited hcaps hcaps' heq
  obtain ⟨hl, hrest⟩ := varbytes_delimited hlimits hlimits' heq
  cases c
  cases d
  simp_all

/-- The bytes fed to the MAC determine what they authenticate. -/
theorem mac_input_determines
    (h : authMac secret exporter challenge keyId nonce time caps = .ok mac)
    (h' : authMac secret' exporter' challenge' keyId' nonce' time' caps' = .ok mac')
    (heq : mac.input = mac'.input) :
    exporter = exporter' ∧ challenge = challenge' ∧ keyId = keyId' ∧ nonce = nonce' ∧
      time = time' ∧ caps = caps' := by
  simp only [authMac, encodedResponsePrefix, bind_eq_ok] at h h'
  obtain ⟨-, -, payload, hpayload, part, ⟨-, -, -, -, key, hkey, c, hc, hpart⟩, -, -, hmac⟩ := h
  obtain ⟨-, -, payload', hpayload', part', ⟨-, -, -, -, key', hkey', c', hc', hpart'⟩, -, -,
    hmac'⟩ := h'
  cases hpart
  cases hpart'
  cases hmac
  cases hmac'
  simp only [List.append_assoc, List.append_cancel_left_eq] at heq
  obtain ⟨hexporter, heq⟩ := nonce_delimited rfl rfl heq
  obtain ⟨hchallenge, heq⟩ := challenge_delimited hpayload hpayload' heq
  obtain ⟨hk, heq⟩ := varbytes_delimited hkey hkey' heq
  obtain ⟨hnonce, heq⟩ := nonce_delimited rfl rfl heq
  obtain ⟨htime, heq⟩ := u64_delimited rfl rfl heq
  -- nothing follows the last field
  have hlast : c ++ [] = c' ++ [] := by simpa using heq
  obtain ⟨hcaps, -⟩ := varbytes_delimited hc hc' hlast
  exact ⟨hexporter, hchallenge, hk, hnonce, htime, hcaps⟩

theorem mac_input_determines_two_secrets :
    let nonce : Nonce := .replicate 32 7
    let challenge : AuthChallenge := ⟨nonce, 1, [2], [3, 4]⟩
    let input := authLabel ++ nonce.toList ++ (nonce.toList ++ putU64 1 ++ [1, 2] ++ [2, 3, 4]) ++
      ([1, 5] ++ nonce.toList ++ putU64 6 ++ [0])
    let secret := (List.range 32).map UInt8.ofNat
    let secret' := (List.range 33).map UInt8.ofNat
    authMac secret nonce challenge [5] nonce 6 [] = .ok ⟨secret, input⟩ ∧
      authMac secret' nonce challenge [5] nonce 6 [] = .ok ⟨secret', input⟩ ∧
      challenge = challenge := by
  intro nonce challenge input secret secret'
  have h : authMac secret nonce challenge [5] nonce 6 [] = .ok ⟨secret, input⟩ := by decide
  have h' : authMac secret' nonce challenge [5] nonce 6 [] = .ok ⟨secret', input⟩ := by decide
  exact ⟨h, h', (mac_input_determines h h' rfl).2.1⟩

end UncrownedKing.Auth
