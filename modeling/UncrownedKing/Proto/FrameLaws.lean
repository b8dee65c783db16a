import UncrownedKing.Proto.Frame

/-!
# One wire form for each frame

Decoding an encoding gives the frame back and leaves what followed it.
-/

namespace UncrownedKing.Proto

open Lib

@[simp] theorem tryFrom_toByte (frameType : FrameType) :
    FrameType.tryFrom frameType.toByte = .ok frameType := by
  cases frameType <;> rfl

theorem tryFrom_canonical (h : FrameType.tryFrom value = .ok frameType) :
    value = frameType.toByte := by
  unfold FrameType.tryFrom at h
  split at h <;> cases h <;> rfl

theorem flags_toBe (flags : UInt16) :
    ∃ high low, toBe 2 flags.toNat = [high, low] ∧ UInt16.ofNat (fromBe [high, low]) = flags := by
  refine ⟨_, _, rfl, ?_⟩
  have hback : fromBe (toBe 2 flags.toNat) = flags.toNat := fromBe_toBe flags.toNat_lt
  exact (congrArg UInt16.ofNat hback).trans (UInt16.ofNat_toNat)

theorem toBe_flags (high low : UInt8) :
    toBe 2 (UInt16.ofNat (fromBe [high, low])).toNat = [high, low] := by
  have hlt : fromBe [high, low] < 256 ^ 2 := fromBe_lt [high, low]
  have hnat : (UInt16.ofNat (fromBe [high, low])).toNat = fromBe [high, low] := by
    rw [UInt16.toNat_ofNat']
    exact Nat.mod_eq_of_lt hlt
  rw [hnat]
  exact toBe_fromBe [high, low]

structure HeaderWire (header : FrameHeader) (id length : Bytes) : Prop where
  version : header.version = protocolVersion
  flags : validateFlags header.flags = .ok ()
  id : Varint.encode header.id = .ok id
  length : Varint.encode header.length = .ok length

def FrameHeader.fixed (header : FrameHeader) : Bytes :=
  header.version :: header.frameType.toByte :: toBe 2 header.flags.toNat

theorem FrameHeader.encode_eq_ok {header : FrameHeader} :
    header.encode = .ok x ↔
      ∃ id length, HeaderWire header id length ∧ x = header.fixed ++ id ++ length := by
  unfold FrameHeader.encode
  split
  · rename_i hversion
    constructor
    · rintro ⟨⟩
    · rintro ⟨id, length, hwire, -⟩
      exact absurd hwire.version hversion
  · rename_i hversion
    constructor
    · intro h
      obtain ⟨⟨⟩, hflags, h⟩ := bind_eq_ok.mp h
      obtain ⟨id, hid, h⟩ := bind_eq_ok.mp h
      obtain ⟨length, hlength, h⟩ := bind_eq_ok.mp h
      cases h
      exact ⟨id, length, ⟨not_not.mp hversion, hflags, hid, hlength⟩, rfl⟩
    · rintro ⟨id, length, hwire, rfl⟩
      simp [hwire.flags, hwire.id, hwire.length, bind, Except.bind, pure, Except.pure,
        FrameHeader.fixed]

theorem FrameHeader.decode_fixed {header : FrameHeader} (hversion : header.version = protocolVersion)
    (hflags : validateFlags header.flags = .ok ()) (src : Bytes) :
    FrameHeader.decode limits (header.fixed ++ src) = (do
      let (id, src) ← Varint.decode src
      let (length, src) ← Varint.decode src
      if length > limits.maxFrameSize then .error (.oversizedFrame length limits.maxFrameSize)
      else pure (⟨header.version, header.frameType, header.flags, id, length⟩, src)) := by
  obtain ⟨high, low, hbytes, hback⟩ := flags_toBe header.flags
  simp only [FrameHeader.fixed, hbytes, List.cons_append, List.nil_append, FrameHeader.decode,
    hback, hflags, tryFrom_toByte, hversion, bind, Except.bind, ne_eq, not_true, ↓reduceIte]

theorem FrameHeader.decode_encode {header : FrameHeader} (h : header.encode = .ok x)
    (hlimit : header.length ≤ limits.maxFrameSize) (rest : Bytes) :
    FrameHeader.decode limits (x ++ rest) = .ok (header, rest) := by
  obtain ⟨id, length, hwire, rfl⟩ := FrameHeader.encode_eq_ok.mp h
  rw [List.append_assoc, List.append_assoc, FrameHeader.decode_fixed hwire.version hwire.flags,
    Varint.decode_encode hwire.id]
  simp only [bind, Except.bind, Varint.decode_encode hwire.length, if_neg (Nat.not_lt.mpr hlimit)]
  rfl

theorem FrameHeader.decode_canonical (h : FrameHeader.decode limits src = .ok (header, rest)) :
    header.length ≤ limits.maxFrameSize ∧ ∃ x, header.encode = .ok x ∧ src = x ++ rest := by
  unfold FrameHeader.decode at h
  split at h
  · rename_i version type high low src
    split at h
    · cases h
    · rename_i hversion
      obtain ⟨frameType, htype, h⟩ := bind_eq_ok.mp h
      obtain ⟨⟨⟩, hflags, h⟩ := bind_eq_ok.mp h
      obtain ⟨⟨id, src'⟩, hid, h⟩ := bind_eq_ok.mp h
      obtain ⟨⟨length, src''⟩, hlength, h⟩ := bind_eq_ok.mp h
      dsimp only at h
      split at h
      · cases h
      · rename_i hlimit
        cases h
        obtain ⟨idBytes, hidBytes, rfl⟩ := Varint.decode_canonical hid
        obtain ⟨lengthBytes, hlengthBytes, rfl⟩ := Varint.decode_canonical hlength
        refine ⟨Nat.not_lt.mp hlimit, _, FrameHeader.encode_eq_ok.mpr
          ⟨idBytes, lengthBytes, ⟨not_not.mp hversion, hflags, hidBytes, hlengthBytes⟩, rfl⟩, ?_⟩
        simp only [FrameHeader.fixed, toBe_flags, ← tryFrom_canonical htype, List.cons_append,
          List.nil_append, List.append_assoc]
  · cases h

theorem FrameHeader.decode_incremental (limits : FrameLimits) :
    Incremental .truncated (FrameHeader.decode limits) := by
  intro src more hne
  match src with
  | version :: type :: high :: low :: src =>
    simp only [FrameHeader.decode, List.cons_append] at hne ⊢
    split at hne
    · rename_i hversion
      simp only [if_pos hversion]
      rfl
    · rename_i hversion
      simp only [if_neg hversion]
      cases htype : FrameType.tryFrom type with
      | error e => rfl
      | ok frameType =>
        cases hflags : validateFlags (UInt16.ofNat (fromBe [high, low])) with
        | error e => rfl
        | ok =>
          simp only [htype, hflags] at hne
          -- what is left is two varints and a comparison
          have hlimit : ∀ id length : Nat, Incremental ProtocolError.truncated fun src =>
              if length > limits.maxFrameSize then
                .error (.oversizedFrame length limits.maxFrameSize)
              else .ok ((⟨version, frameType, .ofNat (fromBe [high, low]), id, length⟩ : FrameHeader),
                src) := by
            intro id length rest more _
            dsimp only
            split <;> rfl
          exact Incremental.bind Varint.decode_incremental (fun id =>
            Incremental.bind Varint.decode_incremental (hlimit id)) src more hne
  | [] | [_] | [_, _] | [_, _, _] => exact absurd rfl hne

theorem Frame.encode_eq_ok {frame : Frame} :
    frame.encode = .ok x ↔ frame.header.length = frame.payload.length ∧
      ∃ header, frame.header.encode = .ok header ∧ x = header ++ frame.payload := by
  unfold Frame.encode
  split
  · rename_i hmismatch
    constructor
    · rintro ⟨⟩
    · rintro ⟨hlength, -⟩
      exact absurd hlength hmismatch
  · rename_i hlength
    constructor
    · intro h
      obtain ⟨header, hheader, h⟩ := bind_eq_ok.mp h
      cases h
      exact ⟨not_not.mp hlength, header, hheader, rfl⟩
    · rintro ⟨-, header, hheader, rfl⟩
      simp [hheader, bind, Except.bind, pure, Except.pure]

theorem Frame.decode_encode {frame : Frame} (h : frame.encode = .ok x)
    (hlimit : frame.header.length ≤ limits.maxFrameSize) (rest : Bytes) :
    Frame.decode limits (x ++ rest) = .ok (frame, rest) := by
  obtain ⟨hlength, header, hheader, rfl⟩ := Frame.encode_eq_ok.mp h
  rw [Frame.decode, List.append_assoc, FrameHeader.decode_encode hheader hlimit]
  simp [bind, Except.bind, pure, Except.pure, hlength]

theorem Frame.decode_canonical (h : Frame.decode limits src = .ok (frame, rest)) :
    ∃ x, frame.encode = .ok x ∧ src = x ++ rest := by
  obtain ⟨⟨header, src'⟩, hheader, h⟩ := bind_eq_ok.mp h
  dsimp only at h
  split at h
  · cases h
  · rename_i hlong
    cases h
    obtain ⟨-, x, hx, rfl⟩ := FrameHeader.decode_canonical hheader
    refine ⟨_, Frame.encode_eq_ok.mpr ⟨?_, x, hx, rfl⟩, ?_⟩
    · rw [List.length_take, Nat.min_eq_left (Nat.not_lt.mp hlong)]
    · simp

theorem Frame.decode_incremental (limits : FrameLimits) :
    Incremental .truncated (Frame.decode limits) := by
  have hpayload : ∀ header : FrameHeader, Incremental ProtocolError.truncated fun src =>
      if src.length < header.length then .error .truncated
      else .ok ((⟨header, src.take header.length⟩ : Frame), src.drop header.length) := ?_
  · exact Incremental.bind (FrameHeader.decode_incremental limits) hpayload
  intro header rest more hne
  dsimp only at hne ⊢
  split at hne
  · exact absurd rfl hne
  · rename_i hlong
    have hle := Nat.not_lt.mp hlong
    have hmore : ¬ (rest ++ more).length < header.length := by
      rw [List.length_append]
      omega
    rw [if_neg hlong, if_neg hmore, List.take_append_of_le_length hle,
      List.drop_append_of_le_length hle]
    rfl

theorem frame_new_ok (h : Frame.new frameType flags flowId payload = .ok frame) :
    frame.header.frameType = frameType ∧ frame.header.id = flowId ∧ flowId ≤ Varint.maxVarint ∧
      frame.payload = payload := by
  obtain ⟨header, hheader, h⟩ := bind_eq_ok.mp h
  obtain ⟨_, _, hheader⟩ := bind_eq_ok.mp hheader
  obtain ⟨len, hid, hheader⟩ := bind_eq_ok.mp hheader
  obtain ⟨_, _, hheader⟩ := bind_eq_ok.mp hheader
  cases hheader
  cases h
  exact ⟨rfl, rfl, Varint.encodedLen_ok_iff.mp ⟨len, hid⟩, rfl⟩

end UncrownedKing.Proto
