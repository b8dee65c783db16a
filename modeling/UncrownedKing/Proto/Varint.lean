import UncrownedKing.Lib.Parse

/-!
# Varints

QUIC-style variable-length integers, of which only the shortest form is read.
Values are natural numbers; everything past `maxVarint` is refused.
-/

namespace UncrownedKing.Proto

open Lib

inductive ProtocolError
  | unsupportedVersion (version : UInt8)
  | unsupportedFlag (bits : UInt16)
  | oversizedFrame (length limit : Nat)
  | truncated
  | invalidVarint
  | invalidTarget (reason : String)
  | unknownFrameType (value : UInt8)
  | invalidFrame (reason : String)
  | invalidSettings (reason : String)
  | invalidTcpPayload (reason : String)
  | invalidUdpPayload (reason : String)
  | invalidErrorPayload (reason : String)
  deriving DecidableEq, Repr

abbrev ProtocolResult := Except ProtocolError

namespace Varint

def maxVarint : Nat := 2 ^ 62 - 1

def encodedLen (value : Nat) : ProtocolResult Nat :=
  if value ≤ 63 then .ok 1
  else if value ≤ 16383 then .ok 2
  else if value ≤ 1073741823 then .ok 4
  else if value ≤ maxVarint then .ok 8
  else .error .invalidVarint

/-- The width tag is or-ed into the top two bits of the big-endian form. -/
def encode (value : Nat) : ProtocolResult Bytes := do
  match ← encodedLen value with
  | 1 => pure (toBe 1 value)
  | 2 => pure (toBe 2 (value ||| 0x4000))
  | 4 => pure (toBe 4 (value ||| 0x80000000))
  | _ => pure (toBe 8 (value ||| 0xc000000000000000))

/-- One varint off the front of `src`, with what is left of it. -/
def decode (src : Bytes) : ProtocolResult (Nat × Bytes) :=
  match src with
  | [] => .error .truncated
  | first :: _ =>
    let len := 1 <<< (first >>> 6).toNat
    if src.length < len then .error .truncated
    else do
      let raw := fromBe (src.take len)
      let value := match len with
        | 1 => raw &&& 0x3f
        | 2 => raw &&& 0x3fff
        | 4 => raw &&& 0x3fffffff
        | _ => raw &&& 0x3fffffffffffffff
      if (← encodedLen value) != len then .error .invalidVarint
      else pure (value, src.drop len)

/-- Tag `tag` stands for `2 ^ tag` bytes and leaves the value all but two bits. -/
structure Width (value tag : Nat) : Prop where
  tag_lt : tag < 4
  lt : value < 2 ^ (8 * 2 ^ tag - 2)
  len : encodedLen value = .ok (2 ^ tag)

theorem encodedLen_width (h : encodedLen value = .ok len) :
    ∃ tag, len = 2 ^ tag ∧ Width value tag := by
  have hlen := h
  unfold encodedLen at h
  split at h
  · cases h; exact ⟨0, rfl, by decide, by simp; omega, hlen⟩
  · split at h
    · cases h; exact ⟨1, rfl, by decide, by simp; omega, hlen⟩
    · split at h
      · cases h; exact ⟨2, rfl, by decide, by simp; omega, hlen⟩
      · split at h
        · cases h
          refine ⟨3, rfl, by decide, ?_, hlen⟩
          simp only [maxVarint] at *
          omega
        · cases h

theorem encodedLen_ok_iff : (∃ len, encodedLen value = .ok len) ↔ value ≤ maxVarint := by
  unfold encodedLen
  by_cases h : value ≤ maxVarint
  · simp only [h, if_true, iff_true]
    split_ifs <;> exact ⟨_, rfl⟩
  · have hmax : maxVarint = 4611686018427387903 := by decide
    simp [h, show ¬value ≤ 63 by omega, show ¬value ≤ 16383 by omega,
      show ¬value ≤ 1073741823 by omega]

theorem or_tag (hv : value < 2 ^ k) (tag : Nat) :
    value ||| (tag * 2 ^ k) = tag * 2 ^ k + value := by
  rw [Nat.or_comm, Nat.mul_comm, Nat.two_pow_add_eq_or_of_lt hv]

/-- The wire form of every width: the tag above the value bits. -/
theorem Width.encode (h : Width value tag) :
    encode value = .ok (toBe (2 ^ tag) (tag * 2 ^ (8 * 2 ^ tag - 2) + value)) := by
  have hlt := h.lt
  unfold Varint.encode
  rw [h.len]
  match tag, h.tag_lt with
  | 0, _ => simp [bind, Except.bind, pure, Except.pure]
  | 1, _ =>
    have hor := or_tag hlt 1
    norm_num at hor ⊢
    simp [bind, Except.bind, pure, Except.pure, hor]
  | 2, _ =>
    have hor := or_tag hlt 2
    norm_num at hor ⊢
    simp [bind, Except.bind, pure, Except.pure, hor]
  | 3, _ =>
    have hor := or_tag hlt 3
    norm_num at hor ⊢
    simp [bind, Except.bind, pure, Except.pure, hor]

theorem encode_width (h : Varint.encode value = .ok x) : ∃ tag, Width value tag := by
  cases hl : encodedLen value with
  | error e => simp [Varint.encode, hl, bind, Except.bind] at h
  | ok len =>
    obtain ⟨tag, -, hw⟩ := encodedLen_width hl
    exact ⟨tag, hw⟩

theorem encode_ok_iff : (∃ x, Varint.encode value = .ok x) ↔ value ≤ maxVarint := by
  rw [← encodedLen_ok_iff]
  constructor
  · rintro ⟨x, h⟩
    obtain ⟨tag, hw⟩ := encode_width h
    exact ⟨_, hw.len⟩
  · rintro ⟨len, h⟩
    obtain ⟨tag, -, hw⟩ := encodedLen_width h
    exact ⟨_, hw.encode⟩

theorem encode_length (h : Varint.encode value = .ok x) : encodedLen value = .ok x.length := by
  obtain ⟨tag, hw⟩ := encode_width h
  rw [hw.encode] at h
  cases h
  simp [hw.len]

theorem tagged_lt (h : Width value tag) :
    tag * 2 ^ (8 * 2 ^ tag - 2) + value < 256 ^ 2 ^ tag := by
  have hlt := h.lt
  match tag, h.tag_lt with
  | 0, _ => norm_num at hlt ⊢; omega
  | 1, _ => norm_num at hlt ⊢; omega
  | 2, _ => norm_num at hlt ⊢; omega
  | 3, _ => norm_num at hlt ⊢; omega

theorem toNat_tag (b : UInt8) : (b >>> 6).toNat = b.toNat / 64 := by
  rw [UInt8.toNat_shiftRight]
  exact Nat.shiftRight_eq_div_pow _ 6

theorem first_byte (h : Width value tag) :
    ∃ first rest, toBe (2 ^ tag) (tag * 2 ^ (8 * 2 ^ tag - 2) + value) = first :: rest ∧
      (first >>> 6).toNat = tag := by
  have hlt := h.lt
  match tag, h.tag_lt with
  | 0, _ | 1, _ | 2, _ | 3, _ => exact ⟨_, _, rfl, by rw [toNat_tag]; norm_num at hlt ⊢; omega⟩

theorem decode_encode (h : Varint.encode value = .ok x) (rest : Bytes) :
    decode (x ++ rest) = .ok (value, rest) := by
  obtain ⟨tag, hw⟩ := encode_width h
  rw [hw.encode] at h
  injection h with h
  obtain ⟨first, tail, hx, htag⟩ := first_byte hw
  have hlen : x.length = 2 ^ tag := by rw [← h, length_toBe]
  have hraw : fromBe x = tag * 2 ^ (8 * 2 ^ tag - 2) + value := by
    rw [← h, fromBe_toBe (tagged_lt hw)]
  have htake : (x ++ rest).take (2 ^ tag) = x := by rw [← hlen, List.take_left]
  have hdrop : (x ++ rest).drop (2 ^ tag) = rest := by rw [← hlen, List.drop_left]
  have hmask : fromBe x &&& (2 ^ (8 * 2 ^ tag - 2) - 1) = value := by
    rw [hraw, Nat.and_two_pow_sub_one_eq_mod, Nat.mul_add_mod_of_lt hw.lt]
  have hshort : ¬ (x ++ rest).length < 2 ^ tag := by rw [List.length_append, hlen]; omega
  have hcons : x ++ rest = first :: (tail ++ rest) := by rw [← h, hx]; rfl
  have hl := hw.len
  rw [hcons] at htake hdrop hshort ⊢
  simp only [decode, htag, Nat.one_shiftLeft, if_neg hshort, htake, hdrop]
  -- the mask of each width is the one `hmask` speaks of
  match tag, hw.tag_lt with
  | 0, _ => norm_num at hmask hl ⊢; simp [hmask, hl, bind, Except.bind, pure, Except.pure]
  | 1, _ => norm_num at hmask hl ⊢; simp [hmask, hl, bind, Except.bind, pure, Except.pure]
  | 2, _ => norm_num at hmask hl ⊢; simp [hmask, hl, bind, Except.bind, pure, Except.pure]
  | 3, _ => norm_num at hmask hl ⊢; simp [hmask, hl, bind, Except.bind, pure, Except.pure]

theorem encode_shape (h : Varint.encode value = .ok x) :
    ∃ first rest, x = first :: rest ∧ rest.length + 1 = 1 <<< (first >>> 6).toNat := by
  obtain ⟨tag, hw⟩ := encode_width h
  obtain ⟨first, rest, hbytes, htag⟩ := first_byte hw
  rw [hw.encode, hbytes] at h
  refine ⟨first, rest, (Except.ok.inj h).symm, ?_⟩
  have hlen := congrArg List.length hbytes
  rw [length_toBe, List.length_cons] at hlen
  rw [htag, Nat.one_shiftLeft, hlen]

theorem encode_pos (h : Varint.encode value = .ok x) : 0 < x.length := by
  obtain ⟨first, rest, rfl, -⟩ := encode_shape h
  simp

theorem fromBe_tagged (first : UInt8) (rest : Bytes) :
    (first >>> 6).toNat * 2 ^ (8 * (rest.length + 1) - 2) +
        fromBe (first :: rest) % 2 ^ (8 * (rest.length + 1) - 2) = fromBe (first :: rest) := by
  have hexp : 2 ^ (8 * (rest.length + 1) - 2) = 256 ^ rest.length * 64 := by
    have hsplit : 8 * (rest.length + 1) - 2 = 8 * rest.length + 6 := by omega
    rw [hsplit, Nat.pow_add, Nat.pow_mul]
  have htop : fromBe (first :: rest) / (256 ^ rest.length * 64) = (first >>> 6).toNat := by
    rw [fromBe, ← Nat.div_div_eq_div_mul, Nat.add_comm,
      Nat.add_mul_div_right _ _ (Nat.pow_pos (by decide)), Nat.div_eq_of_lt (fromBe_lt rest),
      Nat.zero_add, toNat_tag]
  rw [hexp, ← htop, Nat.mul_comm]
  exact Nat.div_add_mod _ _

theorem decode_canonical (h : decode src = .ok (value, rest)) :
    ∃ x, Varint.encode value = .ok x ∧ src = x ++ rest := by
  cases src with
  | nil => cases h
  | cons first tail =>
    have htag : (first >>> 6).toNat < 4 := by
      have := first.toNat_lt
      rw [toNat_tag]
      omega
    simp only [decode, Nat.one_shiftLeft] at h
    generalize htag' : (first >>> 6).toNat = tag at h htag
    split at h
    · cases h
    · rename_i hlong
      have hmask : (match 2 ^ tag with
          | 1 => fromBe ((first :: tail).take (2 ^ tag)) &&& 0x3f
          | 2 => fromBe ((first :: tail).take (2 ^ tag)) &&& 0x3fff
          | 4 => fromBe ((first :: tail).take (2 ^ tag)) &&& 0x3fffffff
          | _ => fromBe ((first :: tail).take (2 ^ tag)) &&& 0x3fffffffffffffff) =
          fromBe ((first :: tail).take (2 ^ tag)) % 2 ^ (8 * 2 ^ tag - 2) := by
        rw [← Nat.and_two_pow_sub_one_eq_mod]
        match tag, htag with
        | 0, _ | 1, _ | 2, _ | 3, _ => rfl
      rw [hmask] at h
      obtain ⟨len, hlen, h⟩ := bind_eq_ok.mp h
      split at h
      · cases h
      · rename_i hsame
        cases h
        obtain rfl : len = 2 ^ tag := by simpa using hsame
        obtain ⟨tag', hpow, hw⟩ := encodedLen_width hlen
        obtain rfl : tag = tag' := Nat.pow_right_injective (Nat.le_refl 2) hpow
        refine ⟨_, hw.encode, ?_⟩
        obtain ⟨m, hm⟩ : ∃ m, 2 ^ tag = m + 1 :=
          ⟨2 ^ tag - 1, by have := Nat.two_pow_pos tag; omega⟩
        have hcount : (tail.take m).length = m := by
          rw [List.length_take]
          simp only [List.length_cons, hm] at hlong
          omega
        have hjoin := fromBe_tagged first (tail.take m)
        rw [hcount, ← hm, htag'] at hjoin
        simp only [hm, List.take_succ_cons, List.drop_succ_cons] at hjoin ⊢
        have hback := toBe_fromBe (first :: tail.take m)
        rw [List.length_cons, hcount] at hback
        rw [hjoin, hback]
        simp

theorem encodedLen_error (h : encodedLen value = .error e) : e = .invalidVarint := by
  unfold encodedLen at h
  split at h
  · cases h
  · split at h
    · cases h
    · split at h
      · cases h
      · split at h
        · cases h
        · exact (Except.error.inj h).symm

theorem decode_truncated_iff :
    decode (first :: tail) = .error .truncated ↔
      tail.length + 1 < 1 <<< (first >>> 6).toNat := by
  simp only [decode, List.length_cons]
  split
  · rename_i hshort
    simp only [hshort]
  · rename_i hlong
    simp only [hlong, iff_false]
    intro h
    generalize hlen : encodedLen _ = len at h
    cases len with
    | error e =>
      obtain rfl := encodedLen_error hlen
      cases h
    | ok len =>
      simp only [bind, Except.bind] at h
      split at h <;> cases h

theorem decode_incremental : Incremental .truncated decode := by
  intro src more hne
  cases src with
  | nil => exact absurd rfl hne
  | cons first tail =>
    simp only [decode, List.cons_append] at hne ⊢
    split at hne
    · exact absurd rfl hne
    · rename_i hlong
      have hle := Nat.not_lt.mp hlong
      have hmore : ¬ (first :: (tail ++ more)).length < 1 <<< (first >>> 6).toNat := by
        simp only [List.length_cons, List.length_append] at hle ⊢
        omega
      have htake : (first :: (tail ++ more)).take (1 <<< (first >>> 6).toNat) =
          (first :: tail).take (1 <<< (first >>> 6).toNat) := by
        rw [← List.cons_append, List.take_append_of_le_length hle]
      have hdrop : (first :: (tail ++ more)).drop (1 <<< (first >>> 6).toNat) =
          (first :: tail).drop (1 <<< (first >>> 6).toNat) ++ more := by
        rw [← List.cons_append, List.drop_append_of_le_length hle]
      simp only [if_neg hlong, if_neg hmore, htake, hdrop]
      generalize encodedLen _ = len
      cases len with
      | error e => rfl
      | ok len =>
        simp only [bind, Except.bind]
        split <;> rfl

theorem encode_delimited : Delimited Varint.encode :=
  .of_decode fun _ _ rest h => decode_encode h rest

end Varint

end UncrownedKing.Proto
