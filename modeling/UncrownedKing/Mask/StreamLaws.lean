import UncrownedKing.Mask.Stream

/-!
# A masked stream is its plaintext under one keystream

The bytes the inner stream took are those reported as written, masked at the
offsets 0, 1, 2 and so on.
-/

namespace UncrownedKing.Mask

open Lib Net

variable {chacha : ChaCha20}

def Direction.standing (key nonce : Bytes) (offset : Nat) : Direction := ⟨⟨key, nonce, offset⟩, offset⟩

theorem tryApplyKeystream_of_le (h : position + data.length ≤ streamLimit) :
    Cipher.tryApplyKeystream chacha ⟨key, nonce, position⟩ data =
      some (⟨key, nonce, position + data.length⟩,
        maskAt (chacha.keystream key nonce) position data) :=
  if_pos (h.trans chacha.covers)

theorem rewindThen_of_le (h : offset ≤ streamLimit) :
    Direction.rewindThen chacha ⟨⟨key, nonce, ahead⟩, offset⟩ result =
      (.standing key nonce offset, result) := by
  simp [Direction.rewindThen, Cipher.trySeek, Direction.standing, h.trans chacha.covers]

/-- A prefix is reported, the inner stream took it masked at `offset`, and the direction stands
behind it. -/
structure Writes (chacha : ChaCha20) (key nonce : Bytes) (offset : Nat) (buf : Bytes)
    (after : (Direction × Poll Nat) × Bytes) : Prop where
  stands : after.1.1 = .standing key nonce (offset + (reportedPart buf after.1.2).length)
  wire : after.2 = maskAt (chacha.keystream key nonce) offset (reportedPart buf after.1.2)
  le_limit : offset + (reportedPart buf after.1.2).length ≤ streamLimit

theorem writes_nothing (hlimit : offset ≤ streamLimit) (hnone : reportedPart buf result = []) :
    Writes chacha key nonce offset buf ((.standing key nonce offset, result), []) := by
  constructor <;> simp [hnone, maskAt, hlimit]

theorem writes_taken (hcount : (buf.take written).length = written)
    (hlimit : offset + written ≤ streamLimit) :
    Writes chacha key nonce offset buf
      ((.standing key nonce (offset + written), .ready (.ok written)),
        maskAt (chacha.keystream key nonce) offset (buf.take written)) := by
  constructor <;> simp only [reportedPart, hcount, hlimit]

theorem pollWrite_standing (key nonce : Bytes) (hlimit : offset ≤ streamLimit) (buf : Bytes)
    (inner : (len : Nat) → InnerWrite len) :
    Writes chacha key nonce offset buf
      ((Direction.standing key nonce offset).pollWrite chacha buf inner) := by
  simp only [Direction.pollWrite, Direction.standing]
  split
  · exact writes_nothing hlimit (by simp [reportedPart])
  · have hlen : (buf.take (min buf.length maxWriteChunk)).length = min buf.length maxWriteChunk := by
      simp
    generalize min buf.length maxWriteChunk = amount at hlen ⊢
    unfold checkedOffset
    split
    · exact writes_nothing hlimit rfl
    · rename_i heq
      have hle : offset + amount ≤ streamLimit := by
        by_contra hgt
        rw [if_neg hgt] at heq
        cases heq
      simp only [tryApplyKeystream_of_le (hlen.symm ▸ hle), rewindThen_of_le hlimit]
      split
      · rename_i written hwritten _
        rw [length_maskAt, hlen] at hwritten
        have htake : (buf.take amount).take written = buf.take written := by
          rw [List.take_take, Nat.min_eq_left hwritten]
        have hcount : (buf.take written).length = written := by
          rw [← htake, List.length_take, hlen, Nat.min_eq_left hwritten]
        have hfits : offset + written ≤ streamLimit := (Nat.add_le_add_left hwritten _).trans hle
        split
        · -- the whole chunk was taken, the cipher is where it should be
          rename_i hall
          subst hall
          rw [hlen]
          exact writes_taken hlen hle
        · split
          · exact writes_nothing hlimit rfl
          · rw [rewindThen_of_le hfits, maskAt_take, htake]
            exact writes_taken hcount hfits
      · exact writes_nothing hlimit rfl
      · exact writes_nothing hlimit rfl

structure WriteInv (chacha : ChaCha20) (key nonce : Bytes) (log : List Transfer)
    (stream : MaskedStream) : Prop where
  stands : stream.write = .standing key nonce (wireBytes log).length
  wire : wireBytes log = maskAt (chacha.keystream key nonce) 0 (reportedBytes log)
  offsets : usedOffsets log = List.range (wireBytes log).length
  le_limit : (wireBytes log).length ≤ streamLimit

theorem WriteInv.pollWrite (h : WriteInv chacha key nonce log stream) (call : WriteCall) :
    WriteInv chacha key nonce (log ++ (stream.pollWrite chacha call).2)
      (stream.pollWrite chacha call).1 := by
  obtain ⟨hstands, hwire, hoffsets, hlimit⟩ := h
  have hwrites : Writes chacha key nonce _ call.buf _ :=
    pollWrite_standing key nonce hlimit call.buf call.inner
  have hreported : (reportedBytes log).length = (wireBytes log).length := by
    rw [hwire, length_maskAt]
  simp only [MaskedStream.pollWrite, hstands]
  generalize (Direction.standing key nonce (wireBytes log).length).pollWrite chacha call.buf
    call.inner = after at hwrites ⊢
  obtain ⟨⟨direction, result⟩, taken⟩ := after
  obtain ⟨hafter, htaken, hfits⟩ := hwrites
  dsimp only at hafter htaken hfits
  subst htaken
  refine ⟨?_, ?_, ?_, ?_⟩
  · simpa [wireBytes] using hafter
  · simp only [wireBytes, reportedBytes, List.flatMap_append, List.flatMap_cons, List.flatMap_nil,
      List.append_nil, maskAt_append, Nat.zero_add] at hwire hreported ⊢
    rw [hreported, ← hwire]
  · simp only [wireBytes, usedOffsets, List.flatMap_append, List.flatMap_cons, List.flatMap_nil,
      List.append_nil, List.length_append, Direction.standing] at hoffsets ⊢
    rw [hoffsets, List.range_eq_range', List.range_eq_range', ← List.range'_append_1, Nat.zero_add]
  · simpa [wireBytes] using hfits

theorem pollRead_standing (chacha : ChaCha20) (key nonce : Bytes)
    {inner : InnerRead}
    (hlimit : offset + (deliveredBytes [inner]).length ≤ streamLimit) :
    ∃ result, (Direction.standing key nonce offset).pollRead chacha inner =
        (.standing key nonce (offset + (deliveredBytes [inner]).length), result) ∧
      readBytes [result] =
        maskAt (chacha.keystream key nonce) offset (deliveredBytes [inner]) := by
  cases inner with
  | pending => exact ⟨.pending, rfl, rfl⟩
  | failed error => exact ⟨.ready (.error error), rfl, rfl⟩
  | filled chunk =>
    simp only [deliveredBytes, List.flatMap_cons, List.flatMap_nil, List.append_nil] at hlimit ⊢
    refine ⟨.ready (.ok (maskAt (chacha.keystream key nonce) offset chunk)), ?_, by simp [readBytes]⟩
    simp only [Direction.pollRead]
    split
    · rename_i hempty
      simp [List.isEmpty_iff.mp hempty, maskAt]
    · simp [Direction.standing, checkedOffset, hlimit, tryApplyKeystream_of_le hlimit]

theorem run_pollRead (hread : stream.read = .standing key nonce offset)
    (hlimit : offset + (deliveredBytes reads).length ≤ streamLimit) :
    readBytes (run (MaskedStream.pollRead chacha) stream reads).2 =
      maskAt (chacha.keystream key nonce) offset (deliveredBytes reads) := by
  induction reads generalizing stream offset with
  | nil => rfl
  | cons inner rest ih =>
    have hsplit : deliveredBytes (inner :: rest) = deliveredBytes [inner] ++ deliveredBytes rest := by
      simp [deliveredBytes]
    rw [hsplit, List.length_append, ← Nat.add_assoc] at hlimit
    obtain ⟨result, hpoll, hresult⟩ := pollRead_standing chacha key nonce
      (Nat.le_of_add_right_le hlimit)
    have hstands : (stream.pollRead chacha inner).1.read =
        .standing key nonce (offset + (deliveredBytes [inner]).length) := by
      simp [MaskedStream.pollRead, hread, hpoll]
    rw [hsplit, maskAt_append, ← ih hstands hlimit, ← hresult]
    simp [run, MaskedStream.pollRead, hread, hpoll, readBytes]

theorem ofRole_write (keys : MaskKeys) (nonce : Bytes) (role : Role) :
    (MaskedStream.ofRole keys nonce role).write = .standing (role.writeKey keys) nonce 0 := by
  cases role <;> rfl

theorem ofRole_opposite_read (keys : MaskKeys) (nonce : Bytes) (role : Role) :
    (MaskedStream.ofRole keys nonce role.opposite).read = .standing (role.writeKey keys) nonce 0 := by
  cases role <;> rfl

theorem run_pollWrite (chacha : ChaCha20) (keys : MaskKeys) (nonce : Bytes) (role : Role)
    (calls : List WriteCall) :
    WriteInv chacha (role.writeKey keys) nonce
      (run (MaskedStream.pollWrite chacha) (.ofRole keys nonce role) calls).2
      (run (MaskedStream.pollWrite chacha) (.ofRole keys nonce role) calls).1 :=
  run_invariant _ (fun _ _ call _ h => h.pollWrite call)
    ⟨ofRole_write keys nonce role, rfl, rfl, Nat.zero_le _⟩ (along_true _ _)

theorem masked_stream_exact (chacha : ChaCha20) (keys : MaskKeys) (nonce : Bytes) (role : Role)
    (calls : List WriteCall) (reads : List InnerRead)
    (hreads : deliveredBytes reads <+:
      wireBytes (run (MaskedStream.pollWrite chacha) (.ofRole keys nonce role) calls).2) :
    let log := (run (MaskedStream.pollWrite chacha) (.ofRole keys nonce role) calls).2
    wireBytes log = maskAt (chacha.keystream (role.writeKey keys) nonce) 0 (reportedBytes log) ∧
      usedOffsets log = List.range (wireBytes log).length ∧
      (wireBytes log).length ≤ streamLimit ∧
      readBytes (run (MaskedStream.pollRead chacha) (.ofRole keys nonce role.opposite) reads).2 =
        (reportedBytes log).take (deliveredBytes reads).length := by
  intro log
  have hinv := run_pollWrite chacha keys nonce role calls
  refine ⟨hinv.wire, hinv.offsets, hinv.le_limit, ?_⟩
  have hfits : 0 + (deliveredBytes reads).length ≤ streamLimit := by
    rw [Nat.zero_add]
    exact hreads.length_le.trans hinv.le_limit
  rw [run_pollRead (ofRole_opposite_read keys nonce role) hfits,
    List.prefix_iff_eq_take.mp hreads, hinv.wire, maskAt_take, maskAt_maskAt]
  simp [log]

theorem masked_stream_exact_resubmitted :
    let chacha : ChaCha20 := ⟨fun _ _ i => UInt8.ofNat (7 * i + 1), streamLimit, Nat.le_refl _⟩
    let keys : MaskKeys := ⟨[], [], [1], [2], [], []⟩
    let one : (len : Nat) → InnerWrite len := fun len =>
      if h : 1 ≤ len then .accepted 1 h else .pending
    let calls : List WriteCall :=
      [⟨[10, 20, 30], one⟩, ⟨[20], fun _ => .pending⟩, ⟨[40], one⟩]
    let reads : List InnerRead := [.filled [11], .pending, .filled [32]]
    deliveredBytes reads <+:
        wireBytes (run (MaskedStream.pollWrite chacha) (.ofRole keys [] .client) calls).2 ∧
      readBytes (run (MaskedStream.pollRead chacha) (.ofRole keys [] .server) reads).2 =
        [10, 40] := by
  intro chacha keys one calls reads
  have hreads : deliveredBytes reads <+:
      wireBytes (run (MaskedStream.pollWrite chacha) (.ofRole keys [] .client) calls).2 := by
    decide +kernel
  exact ⟨hreads, (masked_stream_exact chacha keys [] .client calls reads hreads).2.2.2.trans
    (by decide +kernel)⟩

end UncrownedKing.Mask
