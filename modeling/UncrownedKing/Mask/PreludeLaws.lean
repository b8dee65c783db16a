import UncrownedKing.Lib.BitLayout
import UncrownedKing.Mask.Encode

/-!
# The prelude on the wire

The 224 payload bits stand in the low seven bits of the tail bytes; the high
bits go into tag and mask packed from the least significant bit on.
-/

namespace UncrownedKing.Mask

open Lib

def byteBits : BitLayout := .grouped 8 (by decide) (by decide)

def tailBits : BitLayout := .grouped 7 (by decide) (by decide)

theorem byteBits_inside (hk : k < tailPayloadLen * 8) : (byteBits.place k).1 < tailPayloadLen :=
  Nat.div_lt_of_lt_mul (Nat.mul_comm _ _ ▸ hk)

theorem tailBits_inside (hk : k < tailPayloadLen * 8) : (tailBits.place k).1 < tailLen :=
  Nat.div_lt_of_lt_mul hk

theorem ext_byteBits {l l' : Bytes} (hl : l.length = n) (hl' : l'.length = n)
    (h : ∀ k < n * 8, byteBits.bit l k = byteBits.bit l' k) : l = l' := by
  refine bytes_ext (hl.trans hl'.symm) fun i hi q hq => ?_
  have hplace : byteBits.place (8 * i + (8 - 1 - q)) = (i, q) := BitLayout.grouped_place i hq
  have hbit := h (8 * i + (8 - 1 - q)) (by omega)
  rwa [BitLayout.bit, BitLayout.bit, hplace] at hbit

theorem ext_tailBits {tail tail' : Bytes} (htail : tail.length = tailLen)
    (htail' : tail'.length = tailLen)
    (h : ∀ k < tailPayloadLen * 8, tailBits.bit tail k = tailBits.bit tail' k)
    (hhigh : ∀ i < tailLen, bitAt tail (i, 7) = bitAt tail' (i, 7)) : tail = tail' := by
  refine bytes_ext (htail.trans htail'.symm) fun i hi q hq => ?_
  rw [htail] at hi
  by_cases hseven : q = 7
  · subst hseven
    exact hhigh i hi
  · have hlow : q < 7 := by omega
    have hplace : tailBits.place (7 * i + (7 - 1 - q)) = (i, q) := BitLayout.grouped_place i hlow
    have hbit := h (7 * i + (7 - 1 - q)) (by
      have : i < 32 := hi
      show 7 * i + (7 - 1 - q) < 28 * 8
      omega)
    rwa [BitLayout.bit, BitLayout.bit, hplace] at hbit

theorem readTailPayload_bits (tail : Bytes) :
    (readTailPayload tail).length = tailPayloadLen ∧
      ∀ k < tailPayloadLen * 8, byteBits.bit (readTailPayload tail) k = tailBits.bit tail k := by
  have hread : readTailPayload tail =
      byteBits.pack tailPayloadLen (tailPayloadLen * 8) (tailBits.bit tail) := by
    unfold readTailPayload BitLayout.pack
    refine congrArg (fun step => (List.range (tailPayloadLen * 8)).foldl step
      (List.replicate tailPayloadLen 0)) ?_
    funext payload k
    have hbit : tail.getD (k / 7) 0 >>> UInt8.ofNat (6 - k % 7) &&& 1 =
        boolByte (tailBits.bit tail k) := shiftRight_and_one _ (tailBits.bit_lt k)
    simp only [hbit]
    rfl
  rw [hread]
  exact byteBits.bit_pack _ fun k hk => byteBits_inside hk

theorem writeTailPayload_bits {tail : Bytes} (htail : tail.length = tailLen) (payload : Bytes) :
    (writeTailPayload tail payload).length = tailLen ∧
      (∀ k < tailPayloadLen * 8,
        tailBits.bit (writeTailPayload tail payload) k = byteBits.bit payload k) ∧
      ∀ i, bitAt (writeTailPayload tail payload) (i, 7) = bitAt tail (i, 7) := by
  have hwrite : writeTailPayload tail payload = (List.range (tailPayloadLen * 8)).foldl
      (fun tail k => tail.modify (tailBits.place k).1 fun byte =>
        (byte &&& ~~~((1 : UInt8) <<< UInt8.ofNat (tailBits.place k).2)) |||
          (boolByte (byteBits.bit payload k) <<< UInt8.ofNat (tailBits.place k).2)) tail := by
    unfold writeTailPayload
    refine congrArg (fun step => (List.range (tailPayloadLen * 8)).foldl step tail) ?_
    funext tail k
    have hbit : payload.getD (k / 8) 0 >>> UInt8.ofNat (7 - k % 8) &&& 1 =
        boolByte (byteBits.bit payload k) := shiftRight_and_one _ (byteBits.bit_lt k)
    simp only [hbit]
    rfl
  obtain ⟨hlength, hbits, hother⟩ := bitAt_foldl_modify tailBits
    (fun k byte => (byte &&& ~~~((1 : UInt8) <<< UInt8.ofNat (tailBits.place k).2)) |||
      (boolByte (byteBits.bit payload k) <<< UInt8.ofNat (tailBits.place k).2))
    (fun k _ => byteBits.bit payload k)
    (fun k x q hq => getLsbD_put_bit x _ (tailBits.bit_lt k) hq)
    tail (tailPayloadLen * 8) (fun k hk => htail ▸ tailBits_inside hk)
  rw [hwrite]
  refine ⟨hlength.trans htail, hbits, fun i => hother (i, 7) (show 7 < 8 by decide) ?_⟩
  -- a payload bit is never the highest of its byte
  rintro k - hplace
  have hbit : 7 = 7 - 1 - k % 7 := congrArg Prod.snd hplace
  omega

theorem zipIdx_foldl {β : Type} (f : β → UInt8 × Nat → β) (l : Bytes) (b : β) :
    l.zipIdx.foldl f b = (List.range l.length).foldl (fun b i => f b (l.getD i 0, i)) b := by
  have hlist : l.zipIdx = (List.range l.length).map fun i => (l.getD i 0, i) := by
    refine List.ext_getElem (by simp) fun i hi _ => ?_
    have hlt : i < l.length := by simpa using hi
    simp [hlt]
  rw [hlist, List.foldl_map]

theorem highBits_inside (hk : k < tailLen) : k / 8 < 4 :=
  Nat.div_lt_of_lt_mul (show k < 8 * 4 from hk)

theorem packHighBits_bits {tail : Bytes} (htail : tail.length = tailLen) :
    (packHighBits tail).length = 4 ∧
      ∀ k < tailLen, BitLayout.reversed.bit (packHighBits tail) k = bitAt tail (k, 7) := by
  have hpack : packHighBits tail =
      BitLayout.reversed.pack 4 tailLen fun k => bitAt tail (k, 7) := by
    unfold packHighBits BitLayout.pack
    rw [List.take_of_length_le (Nat.le_of_eq htail), zipIdx_foldl, htail]
    refine congrArg (fun step => (List.range tailLen).foldl step (List.replicate 4 0)) ?_
    funext packed k
    have hbit : (tail.getD k 0 &&& 0x80) >>> UInt8.ofNat (7 - k % 8) =
        boolByte (bitAt tail (k, 7)) <<< UInt8.ofNat (k % 8) :=
      shiftRight_and_high _ (Nat.mod_lt k (by decide))
    simp only [hbit]
    rfl
  rw [hpack]
  exact BitLayout.reversed.bit_pack _ fun k hk => highBits_inside hk

theorem packHighBits_congr {tail tail' : Bytes} (htail : tail.length = tailLen)
    (htail' : tail'.length = tailLen)
    (hhigh : ∀ i < tailLen, bitAt tail (i, 7) = bitAt tail' (i, 7)) :
    packHighBits tail = packHighBits tail' := by
  obtain ⟨hlength, hbits⟩ := packHighBits_bits htail
  obtain ⟨hlength', hbits'⟩ := packHighBits_bits htail'
  refine bytes_ext (hlength.trans hlength'.symm) fun i hi q hq => ?_
  have hplace : BitLayout.reversed.place (8 * i + q) = (i, q) := by
    simp only [BitLayout.reversed, Prod.mk.injEq]
    omega
  have hk : 8 * i + q < tailLen := by
    show 8 * i + q < 32
    omega
  have hbit := (hbits _ hk).trans ((hhigh _ hk).trans (hbits' _ hk).symm)
  rwa [BitLayout.bit, BitLayout.bit, hplace] at hbit

theorem read_writeTailPayload {tail payload : Bytes} (htail : tail.length = tailLen)
    (hpayload : payload.length = tailPayloadLen) :
    readTailPayload (writeTailPayload tail payload) = payload := by
  obtain ⟨hlength, hread⟩ := readTailPayload_bits (writeTailPayload tail payload)
  obtain ⟨-, hwritten, -⟩ := writeTailPayload_bits htail payload
  exact ext_byteBits hlength hpayload fun k hk => (hread k hk).trans (hwritten k hk)

theorem write_readTailPayload {tail tail' : Bytes} (htail : tail.length = tailLen)
    (htail' : tail'.length = tailLen)
    (hhigh : ∀ i < tailLen, bitAt tail (i, 7) = bitAt tail' (i, 7)) :
    writeTailPayload tail (readTailPayload tail') = tail' := by
  obtain ⟨hlength, hwritten, hsame⟩ := writeTailPayload_bits htail (readTailPayload tail')
  obtain ⟨-, hread⟩ := readTailPayload_bits tail'
  exact ext_tailBits hlength htail' (fun k hk => (hwritten k hk).trans (hread k hk))
    fun i hi => (hsame i).trans (hhigh i hi)

theorem zipWith_xor_cancel {payload mask : Bytes} (h : payload.length ≤ mask.length) :
    (payload.zipWith (· ^^^ ·) mask).zipWith (· ^^^ ·) mask = payload := by
  induction payload generalizing mask with
  | nil => rfl
  | cons byte rest ih =>
    cases mask with
    | nil => simp at h
    | cons maskByte mask =>
      have hrest := ih (Nat.le_of_succ_le_succ h)
      simp only [List.zipWith_cons_cons, hrest, UInt8.xor_assoc, UInt8.xor_self, UInt8.xor_zero]

def MaskKeys.plainPayload (hmac : Hmac) (keys : MaskKeys) (nonce pre highBits : Bytes)
    (identity counter : UInt64) : Bytes :=
  let identityBytes := toBe identityLen identity.toNat
  let counterBytes := toBe counterLen counter.toNat
  identityBytes ++ counterBytes ++
    (keys.authenticationTag hmac nonce pre highBits identityBytes counterBytes).take tagLen

variable {hmac : Hmac} {keys : MaskKeys}

theorem length_plainPayload (nonce pre highBits : Bytes) (identity counter : UInt64) :
    (keys.plainPayload hmac nonce pre highBits identity counter).length = tailPayloadLen := by
  simp [MaskKeys.plainPayload, MaskKeys.authenticationTag, tailPayloadLen, tagLen, Nat.add_assoc]

theorem length_preludeMask (nonce pre highBits : Bytes) :
    (keys.preludeMask hmac nonce pre highBits).length = 32 := by
  simp [MaskKeys.preludeMask]

theorem fillPrelude_eq (bytes nonce : Bytes) (identity counter : UInt64) :
    keys.fillPrelude hmac bytes nonce identity counter =
      let pre := bytes.take prefixLen
      let tail := bytes.drop prefixLen
      pre ++ writeTailPayload tail
        ((keys.plainPayload hmac nonce pre (packHighBits tail) identity counter).zipWith (· ^^^ ·)
          (keys.preludeMask hmac nonce pre (packHighBits tail))) := rfl

theorem take_drop_fields (payload : Bytes) :
    payload.take identityLen ++ (payload.drop identityLen).take counterLen ++
      payload.drop (identityLen + counterLen) = payload := by
  rw [← List.drop_drop, List.append_assoc, List.take_append_drop, List.take_append_drop]

theorem fields_of_append (identityBytes counterBytes tag : Bytes)
    (hidentity : identityBytes.length = identityLen) (hcounter : counterBytes.length = counterLen) :
    (identityBytes ++ counterBytes ++ tag).take identityLen = identityBytes ∧
      ((identityBytes ++ counterBytes ++ tag).drop identityLen).take counterLen = counterBytes ∧
      (identityBytes ++ counterBytes ++ tag).drop (identityLen + counterLen) = tag := by
  refine ⟨?_, ?_, ?_⟩
  · rw [List.append_assoc, List.take_left' hidentity]
  · rw [List.append_assoc, List.drop_left' hidentity, List.take_left' hcounter]
  · exact List.drop_left' (by rw [List.length_append, hidentity, hcounter])

theorem toBe_ofNat_fromBe {field : Bytes} (h : field.length = width) (hwidth : width ≤ 8) :
    toBe width (UInt64.ofNat (fromBe field)).toNat = field := by
  subst h
  have hlt : fromBe field < UInt64.size :=
    (fromBe_lt field).trans_le (Nat.pow_le_pow_right (by decide) hwidth)
  rw [UInt64.toNat_ofNat_of_lt' hlt, toBe_fromBe]

def MaskKeys.readPayload (hmac : Hmac) (keys : MaskKeys) (prelude nonce : Bytes) : Bytes :=
  (readTailPayload (prelude.drop prefixLen)).zipWith (· ^^^ ·)
    (keys.preludeMask hmac nonce (prelude.take prefixLen)
      (packHighBits (prelude.drop prefixLen)))

theorem length_readPayload (prelude nonce : Bytes) :
    (keys.readPayload hmac prelude nonce).length = tailPayloadLen := by
  rw [MaskKeys.readPayload, List.length_zipWith, (readTailPayload_bits _).1, length_preludeMask]
  rfl

theorem decodePrelude_eq_some {prelude nonce : Bytes} {identity : UInt64} {counter : Nat} :
    keys.decodePrelude hmac prelude nonce = some ⟨identity, counter⟩ ↔
      0 < counter ∧ counter < 2 ^ 48 ∧
        keys.readPayload hmac prelude nonce =
          keys.plainPayload hmac nonce (prelude.take prefixLen)
            (packHighBits (prelude.drop prefixLen)) identity (UInt64.ofNat counter) := by
  have hlength : (keys.readPayload hmac prelude nonce).length = tailPayloadLen :=
    length_readPayload prelude nonce
  simp only [MaskKeys.decodePrelude]
  rw [← MaskKeys.readPayload]
  generalize keys.readPayload hmac prelude nonce = payload at hlength ⊢
  generalize prelude.take prefixLen = pre
  generalize packHighBits (prelude.drop prefixLen) = highBits
  have hidentity : (payload.take identityLen).length = identityLen := by
    rw [List.length_take, hlength]
    rfl
  have hcounter : ((payload.drop identityLen).take counterLen).length = counterLen := by
    rw [List.length_take, List.length_drop, hlength]
    rfl
  have hlt := fromBe_lt ((payload.drop identityLen).take counterLen)
  rw [hcounter] at hlt
  constructor
  · intro h
    split at h
    · cases h
    · rename_i hzero
      split at h
      · rename_i htag
        cases h
        refine ⟨Nat.pos_of_ne_zero hzero, hlt, ?_⟩
        rw [MaskKeys.plainPayload, toBe_ofNat_fromBe hidentity (by decide),
          toBe_ofNat_fromBe hcounter (by decide), ← htag, take_drop_fields]
      · cases h
  · rintro ⟨hpos, hmax, rfl⟩
    have hcounterNat : (UInt64.ofNat counter).toNat = counter :=
      UInt64.toNat_ofNat_of_lt' (hmax.trans (by decide))
    simp only [MaskKeys.plainPayload, hcounterNat]
    obtain ⟨hid, hcount, htag⟩ := fields_of_append (toBe identityLen identity.toNat)
      (toBe counterLen counter) ((keys.authenticationTag hmac nonce pre highBits
        (toBe identityLen identity.toNat) (toBe counterLen counter)).take tagLen)
      length_toBe length_toBe
    rw [hid, hcount, htag, fromBe_toBe (show counter < 256 ^ counterLen from hmax),
      fromBe_toBe (show identity.toNat < 256 ^ identityLen from identity.toNat_lt)]
    simp [Nat.ne_of_gt hpos]

theorem length_generatePrelude (policy : PreludePolicy) (rng : RandomOutput) :
    (generatePrelude policy rng).length = preludeLen := by
  show _ = 64
  have hbytes : rng.bytes.toList.length = 64 := Vector.length_toList
  have hprintable := rng.printable_range
  have hseven := rng.sevenBit_range
  cases policy with
  | full8 => exact hbytes
  | low7 => rw [generatePrelude, List.length_map, hbytes]
  | fade =>
    simp only [generatePrelude, List.length_append, List.length_map, List.length_take,
      List.length_drop, hbytes]
    omega

theorem readPayload_fillPrelude {bytes : Bytes} (hbytes : bytes.length = preludeLen)
    (nonce : Bytes) (identity counter : UInt64) :
    let prelude := keys.fillPrelude hmac bytes nonce identity counter
    prelude.take prefixLen = bytes.take prefixLen ∧
      packHighBits (prelude.drop prefixLen) = packHighBits (bytes.drop prefixLen) ∧
      keys.readPayload hmac prelude nonce = keys.plainPayload hmac nonce (bytes.take prefixLen)
        (packHighBits (bytes.drop prefixLen)) identity counter := by
  intro prelude
  have hpre : (bytes.take prefixLen).length = prefixLen := by
    rw [List.length_take, hbytes]
    rfl
  have htail : (bytes.drop prefixLen).length = tailLen := by
    rw [List.length_drop, hbytes]
    rfl
  let payload := (keys.plainPayload hmac nonce (bytes.take prefixLen)
    (packHighBits (bytes.drop prefixLen)) identity counter).zipWith (· ^^^ ·)
      (keys.preludeMask hmac nonce (bytes.take prefixLen) (packHighBits (bytes.drop prefixLen)))
  have hpayload : payload.length = tailPayloadLen := by
    rw [List.length_zipWith, length_plainPayload, length_preludeMask]
    rfl
  have hprelude : prelude = bytes.take prefixLen ++ writeTailPayload (bytes.drop prefixLen) payload :=
    fillPrelude_eq bytes nonce identity counter
  obtain ⟨hlength, -, hhigh⟩ := writeTailPayload_bits htail payload
  have htake : prelude.take prefixLen = bytes.take prefixLen := by
    rw [hprelude, List.take_left' hpre]
  have hdrop : prelude.drop prefixLen = writeTailPayload (bytes.drop prefixLen) payload := by
    rw [hprelude, List.drop_left' hpre]
  have hsame : packHighBits (prelude.drop prefixLen) = packHighBits (bytes.drop prefixLen) := by
    rw [hdrop]
    exact packHighBits_congr hlength htail fun i _ => hhigh i
  refine ⟨htake, hsame, ?_⟩
  rw [MaskKeys.readPayload, htake, hsame, hdrop, read_writeTailPayload htail hpayload]
  refine zipWith_xor_cancel ?_
  rw [length_plainPayload, length_preludeMask]
  decide

theorem decode_fillPrelude {bytes : Bytes} (hbytes : bytes.length = preludeLen) (nonce : Bytes)
    (identity : UInt64) {counter : UInt64} (hpos : 0 < counter) (hmax : counter ≤ maxCounter) :
    keys.decodePrelude hmac (keys.fillPrelude hmac bytes nonce identity counter) nonce =
      some ⟨identity, counter.toNat⟩ := by
  rw [decodePrelude_eq_some]
  obtain ⟨hpre, hhigh, hpayload⟩ := readPayload_fillPrelude hbytes nonce identity counter
  rw [hpre, hhigh, UInt64.ofNat_toNat]
  exact ⟨UInt64.lt_iff_toNat_lt.mp hpos,
    Nat.lt_succ_of_le (UInt64.le_iff_toNat_le.mp hmax), hpayload⟩

theorem fillPrelude_of_decode {prelude nonce bytes : Bytes} (hprelude : prelude.length = preludeLen)
    (h : keys.decodePrelude hmac prelude nonce = some ⟨identity, counter⟩)
    (hbytes : bytes.length = preludeLen) (hpre : bytes.take prefixLen = prelude.take prefixLen)
    (hhigh : ∀ i < tailLen, bitAt (bytes.drop prefixLen) (i, 7) =
      bitAt (prelude.drop prefixLen) (i, 7)) :
    keys.fillPrelude hmac bytes nonce identity (UInt64.ofNat counter) = prelude := by
  have hlength {l : Bytes} (hl : l.length = preludeLen) : (l.drop prefixLen).length = tailLen := by
    rw [List.length_drop, hl]
    rfl
  obtain ⟨-, -, hpayload⟩ := decodePrelude_eq_some.mp h
  have hpacked := packHighBits_congr (hlength hbytes) (hlength hprelude) hhigh
  rw [fillPrelude_eq]
  simp only [hpre, hpacked, ← hpayload, MaskKeys.readPayload]
  rw [zipWith_xor_cancel, write_readTailPayload (hlength hbytes) (hlength hprelude) hhigh,
    List.take_append_drop]
  rw [(readTailPayload_bits _).1, length_preludeMask]
  decide

theorem encodePrelude_eq (policy : PreludePolicy) (rng : RandomOutput) (identity : UInt64)
    {counter : UInt64} (hpos : 0 < counter) (hmax : counter ≤ maxCounter) :
    keys.encodePrelude hmac policy rng identity counter =
      .ok ⟨keys.fillPrelude hmac (generatePrelude policy rng) rng.nonce.toList identity counter,
        rng.nonce.toList⟩ := by
  have hrange : ¬(counter = 0 ∨ counter > maxCounter) := by
    rintro (rfl | hgt)
    · exact absurd hpos (by decide)
    · exact absurd hmax (UInt64.not_le.mpr hgt)
  rw [MaskKeys.encodePrelude, if_neg hrange]

/-- The random output that leaves a given prelude as it is. -/
def RandomOutput.of (prelude : Vector UInt8 preludeLen) (nonce : Vector UInt8 nonceLen) :
    RandomOutput where
  bytes := prelude
  nonce := nonce
  printableEnd := 8
  printable_range := by decide
  sevenBitEnd := 16
  sevenBit_range := by decide

/-- What is encoded is decoded, and what is decoded is what the encoding writes. -/
theorem encode_decode_bijection (hmac : Hmac) (keys : MaskKeys) :
    (∀ policy rng identity counter, 0 < counter → counter ≤ maxCounter →
      ∃ out, keys.encodePrelude hmac policy rng identity counter = .ok out ∧
        keys.decodePrelude hmac out.bytes out.nonce = some ⟨identity, counter.toNat⟩) ∧
    ∀ (prelude : Vector UInt8 preludeLen) (nonce : Vector UInt8 nonceLen) identity counter,
      keys.decodePrelude hmac prelude.toList nonce.toList = some ⟨identity, counter⟩ →
      0 < counter ∧ counter ≤ 2 ^ 48 - 1 ∧
      (∃ rng, keys.encodePrelude hmac .full8 rng identity (UInt64.ofNat counter) =
        .ok ⟨prelude.toList, nonce.toList⟩) ∧
      ∀ policy (rng : RandomOutput), rng.nonce = nonce →
        (generatePrelude policy rng).take prefixLen = prelude.toList.take prefixLen →
        (∀ i < tailLen, bitAt ((generatePrelude policy rng).drop prefixLen) (i, 7) =
          bitAt (prelude.toList.drop prefixLen) (i, 7)) →
        keys.encodePrelude hmac policy rng identity (UInt64.ofNat counter) =
          .ok ⟨prelude.toList, nonce.toList⟩ := by
  refine ⟨fun policy rng identity counter hpos hmax => ?_,
    fun prelude nonce identity counter hdecode => ?_⟩
  · exact ⟨_, encodePrelude_eq policy rng identity hpos hmax,
      decode_fillPrelude (length_generatePrelude policy rng) _ identity hpos hmax⟩
  · obtain ⟨hpos, hlt, -⟩ := decodePrelude_eq_some.mp hdecode
    have hsame : ∀ policy (rng : RandomOutput), rng.nonce = nonce →
        (generatePrelude policy rng).take prefixLen = prelude.toList.take prefixLen →
        (∀ i < tailLen, bitAt ((generatePrelude policy rng).drop prefixLen) (i, 7) =
          bitAt (prelude.toList.drop prefixLen) (i, 7)) →
        keys.encodePrelude hmac policy rng identity (UInt64.ofNat counter) =
          .ok ⟨prelude.toList, nonce.toList⟩ := by
      intro policy rng hnonce hpre hhigh
      have hnat : (UInt64.ofNat counter).toNat = counter :=
        UInt64.toNat_ofNat_of_lt' (hlt.trans (by decide))
      have hpos' : 0 < UInt64.ofNat counter := by
        rwa [UInt64.lt_iff_toNat_lt, hnat]
      have hmax' : UInt64.ofNat counter ≤ maxCounter := by
        rw [UInt64.le_iff_toNat_le, hnat]
        exact Nat.le_pred_of_lt hlt
      rw [encodePrelude_eq policy rng identity hpos' hmax', hnonce,
        fillPrelude_of_decode Vector.length_toList hdecode (length_generatePrelude policy rng)
          hpre hhigh]
    exact ⟨hpos, Nat.le_pred_of_lt hlt,
      ⟨.of prelude nonce, hsame .full8 (.of prelude nonce) rfl rfl fun _ _ => rfl⟩, hsame⟩

/-- As the document packs them: that of tail byte `i` is bit `7 - i % 8`. -/
def specHighBits (tail : Bytes) : Bytes := byteBits.pack 4 tailLen fun k => bitAt tail (k, 7)

theorem specHighBits_bits (tail : Bytes) :
    (specHighBits tail).length = 4 ∧
      ∀ k < tailLen, byteBits.bit (specHighBits tail) k = bitAt tail (k, 7) :=
  byteBits.bit_pack _ fun _ hk => highBits_inside hk

/-- The masking document's section on the prelude. -/
def WireFormat (hmac : Hmac) (keys : MaskKeys) (identity counter : UInt64)
    (out : ClientPrelude) : Prop :=
  let pre := out.bytes.take prefixLen
  let tail := out.bytes.drop prefixLen
  let highBits := specHighBits tail
  let payload := (keys.plainPayload hmac out.nonce pre highBits identity counter).zipWith (· ^^^ ·)
    (keys.preludeMask hmac out.nonce pre highBits)
  out.bytes.length = preludeLen ∧
    ∀ k < tailPayloadLen * 8, tailBits.bit tail k = byteBits.bit payload k

instance : Decidable (WireFormat hmac keys identity counter out) :=
  inferInstanceAs (Decidable (_ ∧ ∀ k < tailPayloadLen * 8, _))

def mirrored (i : Nat) : Nat := 8 * (i / 8) + (7 - i % 8)

theorem packHighBits_eq_spec_iff {tail : Bytes} (htail : tail.length = tailLen) :
    packHighBits tail = specHighBits tail ↔
      ∀ i < tailLen, bitAt tail (i, 7) = bitAt tail (mirrored i, 7) := by
  obtain ⟨hlength, hbits⟩ := packHighBits_bits htail
  obtain ⟨hlength', hbits'⟩ := specHighBits_bits tail
  have hplace (i : Nat) : byteBits.place (mirrored i) = BitLayout.reversed.place i := by
    simp only [byteBits, BitLayout.grouped, BitLayout.reversed, mirrored, Prod.mk.injEq]
    omega
  have hmirrored {i : Nat} (hi : i < tailLen) : mirrored i < tailLen := by
    have : i < 32 := hi
    show 8 * (i / 8) + (7 - i % 8) < 32
    omega
  constructor
  · intro heq i hi
    rw [← hbits i hi, ← hbits' _ (hmirrored hi), heq, BitLayout.bit, BitLayout.bit, hplace]
  · intro hsame
    refine bytes_ext (hlength.trans hlength'.symm) fun i hi q hq => ?_
    have hreversed : BitLayout.reversed.place (8 * i + q) = (i, q) := by
      simp only [BitLayout.reversed, Prod.mk.injEq]
      omega
    have hk : 8 * i + q < tailLen := by
      show 8 * i + q < 32
      omega
    have hcode := hbits _ hk
    have hspec := hbits' _ (hmirrored hk)
    rw [BitLayout.bit, hreversed] at hcode
    rw [BitLayout.bit, hplace, hreversed] at hspec
    rw [hcode, hspec, hsame _ hk]

theorem specHighBits_congr {tail tail' : Bytes}
    (hhigh : ∀ i < tailLen, bitAt tail (i, 7) = bitAt tail' (i, 7)) :
    specHighBits tail = specHighBits tail' := by
  obtain ⟨hlength, hbits⟩ := specHighBits_bits tail
  obtain ⟨hlength', hbits'⟩ := specHighBits_bits tail'
  exact ext_byteBits hlength hlength' fun k hk =>
    (hbits k hk).trans ((hhigh k hk).trans (hbits' k hk).symm)

theorem wireFormat_fillPrelude {bytes : Bytes} (hbytes : bytes.length = preludeLen)
    (nonce : Bytes) (identity counter : UInt64) :
    let pre := bytes.take prefixLen
    let payload (highBits : Bytes) :=
      (keys.plainPayload hmac nonce pre highBits identity counter).zipWith (· ^^^ ·)
        (keys.preludeMask hmac nonce pre highBits)
    WireFormat hmac keys identity counter
        ⟨keys.fillPrelude hmac bytes nonce identity counter, nonce⟩ ↔
      payload (packHighBits (bytes.drop prefixLen)) =
        payload (specHighBits (bytes.drop prefixLen)) := by
  intro pre payload
  have hpre : pre.length = prefixLen := by
    rw [List.length_take, hbytes]
    rfl
  have htail : (bytes.drop prefixLen).length = tailLen := by
    rw [List.length_drop, hbytes]
    rfl
  have hpayload (highBits : Bytes) : (payload highBits).length = tailPayloadLen := by
    rw [List.length_zipWith, length_plainPayload, length_preludeMask]
    rfl
  obtain ⟨hlength, hwritten, hhigh⟩ :=
    writeTailPayload_bits htail (payload (packHighBits (bytes.drop prefixLen)))
  have hfill : keys.fillPrelude hmac bytes nonce identity counter =
      pre ++ writeTailPayload (bytes.drop prefixLen)
        (payload (packHighBits (bytes.drop prefixLen))) := fillPrelude_eq _ _ _ _
  simp only [WireFormat, hfill, List.take_left' hpre, List.drop_left' hpre,
    specHighBits_congr fun i _ => hhigh i]
  constructor
  · rintro ⟨-, hformat⟩
    exact ext_byteBits (hpayload _) (hpayload _) fun k hk =>
      (hwritten k hk).symm.trans (hformat k hk)
  · intro heq
    refine ⟨?_, fun k hk => (hwritten k hk).trans (congrArg (byteBits.bit · k) heq)⟩
    rw [List.length_append, hpre, hlength]
    rfl

theorem bitAt_drop (l : Bytes) (n i q : Nat) : bitAt (l.drop n) (i, q) = bitAt l (n + i, q) := by
  simp [bitAt]

theorem bitAt_map_low (l : Bytes) (i : Nat) : bitAt (l.map (· &&& 0x7f)) (i, 7) = false := by
  have hlow (byte : UInt8) : (byte &&& 0x7f).toBitVec.getLsbD 7 = false := by
    rw [UInt8.toBitVec_and, BitVec.getLsbD_and]
    exact Bool.and_false _
  rw [bitAt, List.getD_eq_getElem?_getD, List.getElem?_map]
  cases l[i]? with
  | none => exact hlow 0
  | some byte => exact hlow byte

theorem drop_generatePrelude_fade (rng : RandomOutput) :
    (generatePrelude .fade rng).drop prefixLen = rng.bytes.toList.drop prefixLen := by
  have hbytes : rng.bytes.toList.length = 64 := Vector.length_toList
  have hprintable := rng.printable_range
  have hseven := rng.sevenBit_range
  have hshaped : (((rng.bytes.toList.take rng.printableEnd).map fun byte => 0x20 + byte % 95) ++
      ((rng.bytes.toList.take rng.sevenBitEnd).drop rng.printableEnd).map (· &&& 0x7f)).length =
      rng.sevenBitEnd := by
    simp only [List.length_append, List.length_map, List.length_take, List.length_drop, hbytes]
    omega
  have hlast : rng.sevenBitEnd ≤ prefixLen := hseven.2
  simp only [generatePrelude]
  rw [List.drop_append, hshaped, List.drop_of_length_le (hshaped.trans_le hlast), List.nil_append,
    List.drop_drop, Nat.add_sub_of_le hlast]

theorem generatePrelude_high (policy : PreludePolicy) (rng : RandomOutput) (i : Nat) :
    bitAt ((generatePrelude policy rng).drop prefixLen) (i, 7) =
      (decide (policy ≠ .low7) && bitAt rng.bytes.toList (prefixLen + i, 7)) := by
  cases policy with
  | full8 => exact bitAt_drop _ _ _ _
  | low7 => rw [bitAt_drop]; exact bitAt_map_low _ _
  | fade => rw [drop_generatePrelude_fade]; exact bitAt_drop _ _ _ _

def markingHmac (marked : Bytes) : Hmac := fun _ message =>
  Vector.replicate 32 (if message = marked then 0xff else 0)

theorem payload_ne_of_highBits {nonce pre highBits highBits' : Bytes} (hne : highBits ≠ highBits')
    (identity counter : UInt64) :
    let hmac := markingHmac (nonce ++ pre ++ highBits)
    (keys.plainPayload hmac nonce pre highBits identity counter).zipWith (· ^^^ ·)
        (keys.preludeMask hmac nonce pre highBits) ≠
      (keys.plainPayload hmac nonce pre highBits' identity counter).zipWith (· ^^^ ·)
        (keys.preludeMask hmac nonce pre highBits') := by
  intro hmac heq
  have hmarked : nonce ++ pre ++ highBits' ≠ nonce ++ pre ++ highBits := fun h =>
    hne (List.append_cancel_left h).symm
  have hones : keys.preludeMask hmac nonce pre highBits = List.replicate 32 0xff := by
    simp [hmac, markingHmac, MaskKeys.preludeMask]
  have hzeros : keys.preludeMask hmac nonce pre highBits' = List.replicate 32 0 := by
    simp only [hmac, markingHmac, MaskKeys.preludeMask, if_neg hmarked, Vector.toList_replicate]
  -- the first byte of the identity is masked differently
  obtain ⟨first, rest, hidentity⟩ : ∃ first rest, toBe identityLen identity.toNat = first :: rest :=
    List.exists_cons_of_length_eq_add_one length_toBe
  have hfirst := congrArg List.head? heq
  simp only [hones, hzeros, MaskKeys.plainPayload, hidentity, List.cons_append,
    List.replicate_succ, List.zipWith_cons_cons, List.head?_cons, Option.some.injEq] at hfirst
  have hcancel := congrArg (first ^^^ ·) hfirst
  simp only [← UInt8.xor_assoc, UInt8.xor_self, UInt8.zero_xor] at hcancel
  cases hcancel

/-- The emitted prelude has the documented format exactly when the high bits of every eight tail
bytes read the same from both ends. -/
theorem encodePrelude_wireFormat_iff (keys : MaskKeys) (policy : PreludePolicy)
    (rng : RandomOutput) (identity counter : UInt64) (hpos : 0 < counter)
    (hmax : counter ≤ maxCounter) :
    (∀ hmac, ∃ out, keys.encodePrelude hmac policy rng identity counter = .ok out ∧
        WireFormat hmac keys identity counter out) ↔
      policy = .low7 ∨ ∀ i < tailLen, bitAt rng.bytes.toList (prefixLen + i, 7) =
        bitAt rng.bytes.toList (prefixLen + mirrored i, 7) := by
  have hlength := length_generatePrelude policy rng
  have htail : ((generatePrelude policy rng).drop prefixLen).length = tailLen := by
    rw [List.length_drop, hlength]
    rfl
  have hsame : (packHighBits ((generatePrelude policy rng).drop prefixLen) =
      specHighBits ((generatePrelude policy rng).drop prefixLen)) ↔
      policy = .low7 ∨ ∀ i < tailLen, bitAt rng.bytes.toList (prefixLen + i, 7) =
        bitAt rng.bytes.toList (prefixLen + mirrored i, 7) := by
    simp only [packHighBits_eq_spec_iff htail, generatePrelude_high]
    by_cases hlow : policy = .low7 <;> simp [hlow]
  rw [← hsame]
  constructor
  · intro h
    by_contra hne
    obtain ⟨out, hout, hformat⟩ := h (markingHmac (rng.nonce.toList ++
      (generatePrelude policy rng).take prefixLen ++
        packHighBits ((generatePrelude policy rng).drop prefixLen)))
    rw [encodePrelude_eq policy rng identity hpos hmax] at hout
    cases hout
    exact payload_ne_of_highBits hne identity counter
      ((wireFormat_fillPrelude hlength _ identity counter).mp hformat)
  · intro heq hmac
    exact ⟨_, encodePrelude_eq policy rng identity hpos hmax,
      (wireFormat_fillPrelude hlength _ identity counter).mpr (by rw [heq])⟩

def lopsided : RandomOutput :=
  .of ((Vector.replicate preludeLen 0).set 32 0x80 (by decide)) (Vector.replicate nonceLen 0)

def someKeys : MaskKeys := ⟨[1], [2], [3], [4], [5], [6]⟩

theorem encodePrelude_format_zeros :
    (0 : UInt64) < 1 ∧ 1 ≤ maxCounter ∧
      ∀ hmac, ∃ out, someKeys.encodePrelude hmac .full8
        (.of (Vector.replicate preludeLen 0) (Vector.replicate nonceLen 0)) 7 1 = .ok out ∧
          WireFormat hmac someKeys 7 1 out :=
  ⟨by decide, by decide,
    (encodePrelude_wireFormat_iff someKeys .full8 _ 7 1 (by decide) (by decide)).mpr
      (.inr (by decide +kernel))⟩

/-- The first packed byte is `0x01`, and the document has `0x80`. -/
theorem encodePrelude_lopsided :
    let hmac : Hmac := fun _ message => Vector.replicate 32 (message.getD 44 0)
    ∃ out, someKeys.encodePrelude hmac .full8 lopsided 7 1 = .ok out ∧
      ¬ WireFormat hmac someKeys 7 1 out :=
  ⟨_, rfl, by decide +kernel⟩

end UncrownedKing.Mask
