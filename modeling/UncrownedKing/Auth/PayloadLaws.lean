import UncrownedKing.Auth.Payload

/-!
# Authentication payloads are canonical

A payload is read exactly if it is the encoding of what is read.
-/

namespace UncrownedKing.Auth

open Lib Proto

theorem putVarbytes_eq_ok :
    putVarbytes field = .ok x ↔ ∃ len, Varint.encode field.length = .ok len ∧ x = len ++ field := by
  cases hlen : Varint.encode field.length with
  | error e => simp [putVarbytes, hlen, liftProtocol]
  | ok len => simp [putVarbytes, hlen, liftProtocol, eq_comm]

theorem putVarbytes_pos (h : putVarbytes field = .ok x) : 0 < x.length := by
  obtain ⟨len, hlen, rfl⟩ := putVarbytes_eq_ok.mp h
  have hpos := Varint.encode_pos hlen
  simp
  omega

theorem putVarbytes_exists (h : field.length ≤ maxAuthCapabilitiesLen) :
    ∃ x, putVarbytes field = .ok x := by
  obtain ⟨len, hlen⟩ := Varint.encode_ok_iff.mpr (h.trans (by decide))
  exact ⟨len ++ field, putVarbytes_eq_ok.mpr ⟨len, hlen, rfl⟩⟩

theorem readVarbytes_eq_ok :
    readVarbytes src name = .ok (field, rest) ↔
      field.length ≤ maxAuthCapabilitiesLen ∧ ∃ x, putVarbytes field = .ok x ∧ src = x ++ rest := by
  constructor
  · intro h
    obtain ⟨⟨len, tail⟩, hlen, h⟩ := bind_eq_ok.mp h
    obtain ⟨x, hx, hsrc⟩ := Varint.decode_canonical (liftProtocol_ok.mp hlen)
    dsimp only at h
    split at h
    · cases h
    · rename_i hmax
      split at h
      · cases h
      · rename_i hlong
        cases h
        have hlength : (tail.take len).length = len := by
          simp
          omega
        refine ⟨by omega, x ++ tail.take len, putVarbytes_eq_ok.mpr ⟨x, ?_, rfl⟩, ?_⟩
        · rw [hlength, hx]
        · rw [hsrc, List.append_assoc, List.take_append_drop]
  · rintro ⟨hmax, x, hx, rfl⟩
    obtain ⟨len, hlen, rfl⟩ := putVarbytes_eq_ok.mp hx
    have hread := Varint.decode_encode hlen (field ++ rest)
    rw [← List.append_assoc] at hread
    refine bind_eq_ok.mpr ⟨_, liftProtocol_ok.mpr hread, ?_⟩
    simp [Nat.not_lt.mpr hmax, pure, Except.pure]

theorem readNonce_append (nonce : Nonce) (rest : Bytes) :
    readNonce (nonce.toList ++ rest) = (nonce, rest) := by
  have hlength : nonce.toList.length = 32 := Vector.length_toList
  refine Prod.ext (Vector.ext fun i hi => ?_) ?_
  · simp [readNonce, List.getD_eq_getElem?_getD, List.getElem?_append_left]
  · simp [readNonce]

theorem exists_nonce (h : 32 ≤ src.length) :
    ∃ (nonce : Nonce) (rest : Bytes), src = nonce.toList ++ rest := by
  refine ⟨⟨(src.take 32).toArray, by simpa using h⟩, src.drop 32, ?_⟩
  simp [Vector.toList]

theorem readU64_append (n : UInt64) (rest : Bytes) : readU64 (putU64 n ++ rest) = (n, rest) := by
  have hlength : (putU64 n).length = 8 := length_toBe
  have hvalue : fromBe (putU64 n) = n.toNat := fromBe_toBe n.toNat_lt
  rw [readU64, ← hlength, List.take_left, List.drop_left, hvalue, UInt64.ofNat_toNat]

theorem exists_u64 (h : 8 ≤ src.length) : ∃ n rest, src = putU64 n ++ rest := by
  have hlength : (src.take 8).length = 8 := by simpa using h
  have hlt := fromBe_lt (src.take 8)
  have hback := toBe_fromBe (src.take 8)
  rw [hlength] at hlt hback
  refine ⟨.ofNat (fromBe (src.take 8)), src.drop 8, ?_⟩
  rw [putU64, UInt64.toNat_ofNat_of_lt' hlt, hback, List.take_append_drop]

theorem validateCapabilitiesLen_eq_ok :
    validateCapabilitiesLen len = .ok () ↔ len ≤ maxAuthCapabilitiesLen := by
  simp [validateCapabilitiesLen]

theorem AuthChallenge.encode_eq_ok {challenge : AuthChallenge} :
    challenge.encode = .ok x ↔
      challenge.serverCapabilities.length ≤ maxAuthCapabilitiesLen ∧
      challenge.limits.length ≤ maxAuthCapabilitiesLen ∧
      ∃ capabilities limits, putVarbytes challenge.serverCapabilities = .ok capabilities ∧
        putVarbytes challenge.limits = .ok limits ∧
        x = challenge.serverNonce.toList ++ (putU64 challenge.serverTime ++
          (capabilities ++ limits)) := by
  constructor
  · intro h
    obtain ⟨⟨⟩, hcapabilities, h⟩ := bind_eq_ok.mp h
    obtain ⟨⟨⟩, hlimits, h⟩ := bind_eq_ok.mp h
    obtain ⟨capabilities, hcapabilities', h⟩ := bind_eq_ok.mp h
    obtain ⟨limits, hlimits', h⟩ := bind_eq_ok.mp h
    cases h
    exact ⟨validateCapabilitiesLen_eq_ok.mp hcapabilities, validateCapabilitiesLen_eq_ok.mp hlimits,
      capabilities, limits, hcapabilities', hlimits', by simp⟩
  · rintro ⟨hcapabilities, hlimits, capabilities, limits, hcapabilities', hlimits', rfl⟩
    refine bind_eq_ok.mpr ⟨(), validateCapabilitiesLen_eq_ok.mpr hcapabilities, ?_⟩
    refine bind_eq_ok.mpr ⟨(), validateCapabilitiesLen_eq_ok.mpr hlimits, ?_⟩
    refine bind_eq_ok.mpr ⟨_, hcapabilities', bind_eq_ok.mpr ⟨_, hlimits', ?_⟩⟩
    simp [pure, Except.pure]

theorem AuthChallenge.decode_fields (nonce : Nonce) (time : UInt64) (tail : Bytes) :
    AuthChallenge.decode (nonce.toList ++ (putU64 time ++ tail)) = (do
      let (serverCapabilities, src) ← readVarbytes tail "server capabilities"
      let (limits, src) ← readVarbytes src "limits"
      if src.isEmpty then pure ⟨nonce, time, serverCapabilities, limits⟩
      else .error (.invalidPayload "trailing challenge bytes")) := by
  have hlong : ¬ (nonce.toList ++ (putU64 time ++ tail)).length < 40 := by
    simp [putU64]
    omega
  rw [AuthChallenge.decode, if_neg hlong]
  simp only [readNonce_append, readU64_append]

theorem AuthChallenge.decode_eq_ok {challenge : AuthChallenge} :
    AuthChallenge.decode src = .ok challenge ↔ challenge.encode = .ok src := by
  rw [AuthChallenge.encode_eq_ok]
  constructor
  · intro h
    have hlong : 40 ≤ src.length := by
      by_contra hshort
      rw [AuthChallenge.decode, if_pos (by omega)] at h
      cases h
    obtain ⟨nonce, src, rfl⟩ := exists_nonce (Nat.le_trans (by decide) hlong)
    have hlong : 8 ≤ src.length := by
      simp at hlong
      omega
    obtain ⟨time, tail, rfl⟩ := exists_u64 hlong
    rw [AuthChallenge.decode_fields] at h
    obtain ⟨⟨capabilities, src⟩, hcapabilities, h⟩ := bind_eq_ok.mp h
    obtain ⟨⟨limits, rest⟩, hlimits, hrest⟩ := bind_eq_ok.mp h
    obtain ⟨hcapabilitiesLen, x, hx, rfl⟩ := readVarbytes_eq_ok.mp hcapabilities
    obtain ⟨hlimitsLen, y, hy, rfl⟩ := readVarbytes_eq_ok.mp hlimits
    dsimp only at hrest
    split at hrest
    · rename_i hempty
      cases hrest
      exact ⟨hcapabilitiesLen, hlimitsLen, x, y, hx, hy, by simp [List.isEmpty_iff.mp hempty]⟩
    · cases hrest
  · rintro ⟨hcapabilitiesLen, hlimitsLen, x, y, hx, hy, rfl⟩
    rw [AuthChallenge.decode_fields]
    refine bind_eq_ok.mpr ⟨_, readVarbytes_eq_ok.mpr ⟨hcapabilitiesLen, x, hx, rfl⟩, ?_⟩
    exact bind_eq_ok.mpr ⟨(challenge.limits, []),
      readVarbytes_eq_ok.mpr ⟨hlimitsLen, y, hy, by simp⟩, rfl⟩

theorem AuthResponse.encode_eq_ok {response : AuthResponse} :
    response.encode = .ok x ↔
      (1 ≤ response.keyId.length ∧ response.keyId.length ≤ maxKeyIdLen) ∧
      response.clientCapabilities.length ≤ maxAuthCapabilitiesLen ∧
      ∃ len capabilities, Varint.encode response.keyId.length = .ok len ∧
        putVarbytes response.clientCapabilities = .ok capabilities ∧
        x = len ++ (response.keyId ++ (response.clientNonce.toList ++
          (putU64 response.clientTime ++ (capabilities ++ response.tag.toList)))) := by
  constructor
  · intro h
    obtain ⟨⟨⟩, hkeyId, h⟩ := bind_eq_ok.mp h
    obtain ⟨⟨⟩, hcapabilities, h⟩ := bind_eq_ok.mp h
    obtain ⟨keyId, hkeyId', h⟩ := bind_eq_ok.mp h
    obtain ⟨capabilities, hcapabilities', h⟩ := bind_eq_ok.mp h
    obtain ⟨len, hlen, rfl⟩ := putVarbytes_eq_ok.mp hkeyId'
    cases h
    exact ⟨validateKeyId_ok.mp hkeyId, validateCapabilitiesLen_eq_ok.mp hcapabilities, len,
      capabilities, hlen, hcapabilities', by simp⟩
  · rintro ⟨hkeyId, hcapabilities, len, capabilities, hlen, hcapabilities', rfl⟩
    refine bind_eq_ok.mpr ⟨(), validateKeyId_ok.mpr hkeyId, ?_⟩
    refine bind_eq_ok.mpr ⟨(), validateCapabilitiesLen_eq_ok.mpr hcapabilities, ?_⟩
    refine bind_eq_ok.mpr ⟨_, putVarbytes_eq_ok.mpr ⟨len, hlen, rfl⟩, ?_⟩
    refine bind_eq_ok.mpr ⟨_, hcapabilities', ?_⟩
    simp [pure, Except.pure]

theorem AuthResponse.decode_fields {keyId len tail : Bytes}
    (hkeyId : 1 ≤ keyId.length ∧ keyId.length ≤ maxKeyIdLen)
    (hlen : Varint.encode keyId.length = .ok len) (nonce : Nonce) (time : UInt64)
    (htail : 33 ≤ tail.length) :
    AuthResponse.decode (len ++ (keyId ++ (nonce.toList ++ (putU64 time ++ tail)))) = (do
      let (clientCapabilities, src) ← readVarbytes tail "client capabilities"
      if src.length < 32 then .error (.invalidPayload "response tag is truncated")
      else if src.length > 32 then .error (.invalidPayload "trailing response bytes")
      else pure ⟨keyId, nonce, time, clientCapabilities, (readNonce src).1⟩) := by
  have hread := Varint.decode_encode hlen (keyId ++ (nonce.toList ++ (putU64 time ++ tail)))
  have hbound : ¬ (keyId.length = 0 ∨ keyId.length > maxKeyIdLen) := by omega
  have hlong : ¬ (keyId ++ (nonce.toList ++ (putU64 time ++ tail))).length < keyId.length := by
    simp
  have hrest : ¬ (nonce.toList ++ (putU64 time ++ tail)).length < minResponseTailLen := by
    simp [minResponseTailLen, putU64]
    omega
  rw [AuthResponse.decode, hread]
  simp only [liftProtocol, bind, Except.bind]
  rw [if_neg hbound, if_neg hlong, List.take_left, List.drop_left, validateKeyId_ok.mpr hkeyId]
  simp only [if_neg hrest, readNonce_append, readU64_append]

theorem AuthResponse.fields_of_decode (h : AuthResponse.decode src = .ok response) :
    ∃ (keyId len tail : Bytes) (nonce : Nonce) (time : UInt64),
      (1 ≤ keyId.length ∧ keyId.length ≤ maxKeyIdLen) ∧ Varint.encode keyId.length = .ok len ∧
        33 ≤ tail.length ∧
        src = len ++ (keyId ++ (nonce.toList ++ (putU64 time ++ tail))) := by
  obtain ⟨⟨keyIdLen, tail⟩, hdecode, h⟩ := bind_eq_ok.mp h
  obtain ⟨len, hlen, hsrc⟩ := Varint.decode_canonical (liftProtocol_ok.mp hdecode)
  dsimp only at h
  split at h
  · cases h
  rename_i hbound
  split at h
  · cases h
  rename_i hlong
  obtain ⟨⟨⟩, -, h⟩ := bind_eq_ok.mp h
  split at h
  · cases h
  rename_i hrest
  have hkeyId : (tail.take keyIdLen).length = keyIdLen := by
    simp
    omega
  simp only [minResponseTailLen, Nat.not_lt] at hrest
  obtain ⟨nonce, rest, hnonce⟩ := exists_nonce (Nat.le_trans (by decide) hrest)
  rw [hnonce] at hrest
  simp at hrest
  have hmore : 8 ≤ rest.length := by omega
  obtain ⟨time, rest, rfl⟩ := exists_u64 hmore
  refine ⟨tail.take keyIdLen, len, rest, nonce, time, by omega, hkeyId.symm ▸ hlen, ?_, ?_⟩
  · simp [putU64] at hrest
    omega
  · rw [hsrc, ← hnonce, List.take_append_drop]

theorem AuthResponse.decode_eq_ok {response : AuthResponse} :
    AuthResponse.decode src = .ok response ↔ response.encode = .ok src := by
  rw [AuthResponse.encode_eq_ok]
  constructor
  · intro h
    obtain ⟨keyId, len, tail, nonce, time, hkeyId, hlen, htail, rfl⟩ :=
      AuthResponse.fields_of_decode h
    rw [AuthResponse.decode_fields hkeyId hlen nonce time htail] at h
    obtain ⟨⟨capabilities, src⟩, hcapabilities, hrest⟩ := bind_eq_ok.mp h
    obtain ⟨hcapabilitiesLen, x, hx, rfl⟩ := readVarbytes_eq_ok.mp hcapabilities
    dsimp only at hrest
    split at hrest
    · cases hrest
    rename_i hshort
    split at hrest
    · cases hrest
    rename_i hlong
    obtain ⟨tag, rest, rfl⟩ := exists_nonce (Nat.not_lt.mp hshort)
    obtain rfl : rest = [] := by simpa using hlong
    rw [readNonce_append] at hrest
    cases hrest
    exact ⟨hkeyId, hcapabilitiesLen, len, x, hlen, hx, by simp⟩
  · rintro ⟨hkeyId, hcapabilitiesLen, len, x, hlen, hx, rfl⟩
    have hpos := putVarbytes_pos hx
    have htail : 33 ≤ (x ++ response.tag.toList).length := by
      simp
      omega
    have htag := readNonce_append response.tag []
    rw [List.append_nil] at htag
    rw [AuthResponse.decode_fields hkeyId hlen _ _ htail]
    refine bind_eq_ok.mpr ⟨_, readVarbytes_eq_ok.mpr ⟨hcapabilitiesLen, x, hx, rfl⟩, ?_⟩
    simp [htag, pure, Except.pure]

theorem AuthChallenge.encode_ok_iff {challenge : AuthChallenge} :
    (∃ x, challenge.encode = .ok x) ↔
      challenge.serverCapabilities.length ≤ 1024 ∧ challenge.limits.length ≤ 1024 := by
  constructor
  · rintro ⟨x, h⟩
    obtain ⟨hcapabilities, hlimits, -⟩ := AuthChallenge.encode_eq_ok.mp h
    exact ⟨hcapabilities, hlimits⟩
  · rintro ⟨hcapabilities, hlimits⟩
    obtain ⟨capabilities, hcapabilities'⟩ := putVarbytes_exists hcapabilities
    obtain ⟨limits, hlimits'⟩ := putVarbytes_exists hlimits
    exact ⟨_, AuthChallenge.encode_eq_ok.mpr ⟨hcapabilities, hlimits, capabilities, limits,
      hcapabilities', hlimits', rfl⟩⟩

theorem AuthResponse.encode_ok_iff {response : AuthResponse} :
    (∃ x, response.encode = .ok x) ↔
      (1 ≤ response.keyId.length ∧ response.keyId.length ≤ 64) ∧
        response.clientCapabilities.length ≤ 1024 := by
  constructor
  · rintro ⟨x, h⟩
    obtain ⟨hkeyId, hcapabilities, -⟩ := AuthResponse.encode_eq_ok.mp h
    exact ⟨hkeyId, hcapabilities⟩
  · rintro ⟨hkeyId, hcapabilities⟩
    obtain ⟨len, hlen⟩ := Varint.encode_ok_iff.mpr (hkeyId.2.trans (by decide))
    obtain ⟨capabilities, hcapabilities'⟩ := putVarbytes_exists hcapabilities
    exact ⟨_, AuthResponse.encode_eq_ok.mpr ⟨hkeyId, hcapabilities, len, capabilities, hlen,
      hcapabilities', rfl⟩⟩

theorem AuthResponse.length_of_decode (h : AuthResponse.decode src = .ok response) :
    75 ≤ src.length := by
  obtain ⟨keyId, len, tail, nonce, time, ⟨hkeyId, -⟩, hlen, htail, rfl⟩ :=
    AuthResponse.fields_of_decode h
  have hpos := Varint.encode_pos hlen
  simp [putU64]
  omega

/-- What is read is the payload's only preimage, and a short response is never read. -/
theorem auth_payloads_canonical :
    (∀ (challenge : AuthChallenge) src,
      AuthChallenge.decode src = .ok challenge ↔ challenge.encode = .ok src) ∧
    (∀ (response : AuthResponse) src,
      AuthResponse.decode src = .ok response ↔ response.encode = .ok src) ∧
    (∀ challenge : AuthChallenge, (∃ x, challenge.encode = .ok x) ↔
      challenge.serverCapabilities.length ≤ 1024 ∧ challenge.limits.length ≤ 1024) ∧
    (∀ response : AuthResponse, (∃ x, response.encode = .ok x) ↔
      (1 ≤ response.keyId.length ∧ response.keyId.length ≤ 64) ∧
        response.clientCapabilities.length ≤ 1024) ∧
    ∀ src response, AuthResponse.decode src = .ok response → 75 ≤ src.length :=
  ⟨fun _ _ => AuthChallenge.decode_eq_ok, fun _ _ => AuthResponse.decode_eq_ok,
    fun _ => AuthChallenge.encode_ok_iff, fun _ => AuthResponse.encode_ok_iff,
    fun _ _ => AuthResponse.length_of_decode⟩

end UncrownedKing.Auth
