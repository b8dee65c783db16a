import UncrownedKing.Proto.FrameIo
import UncrownedKing.Proto.FrameLaws

/-!
# The buffered reader refines the one-shot reader

Both readers are `Frame.decode` on the bytes of the stream, and the decoder is
incremental, so it does not matter how they arrive.
-/

namespace UncrownedKing.Proto

open Lib Net

variable {sink : Sink}

def settle (ending : Ending) (atEnd : FrameIoError) :
    ProtocolResult (α × Bytes) → FrameIoResult (α × Source)
  | .ok (a, rest) => .ok (a, ⟨rest, ending⟩)
  | .error .truncated => .error (ending.report atEnd)
  | .error error => .error (.protocol error)

theorem settle_error (ending : Ending) (atEnd : FrameIoError) (h : error ≠ .truncated) :
    (settle ending atEnd (.error error) : FrameIoResult (α × Source)) =
      .error (.protocol error) := by
  cases error <;> first | rfl | exact absurd rfl h

theorem readVarintAsync_cons (first : UInt8) (tail : Bytes) (ending : Ending)
    (hcount : count + 1 = 1 <<< (first >>> 6).toNat) :
    readVarintAsync ⟨first :: tail, ending⟩ =
      if count ≤ tail.length then
        (fromProtocol (Varint.decode (first :: tail.take count))).map
          fun result => ((result.1, first :: tail.take count), ⟨tail.drop count, ending⟩)
      else .error (ending.report (.protocol .truncated)) := by
  have hsub : 1 <<< (first >>> 6).toNat - 1 = count := by omega
  simp only [readVarintAsync, readOne, readExactOrTruncated, List.length_cons, bind, Except.bind,
    pure, Except.pure, ↓reduceIte, List.take_succ_cons, List.drop_succ_cons, List.take_zero,
    List.drop_zero, List.headD_cons, Nat.le_add_left, hsub]
  by_cases hlong : count ≤ tail.length
  · simp only [if_pos hlong]
    cases fromProtocol (Varint.decode (first :: tail.take count)) <;> rfl
  · simp only [if_neg hlong]

theorem readVarintAsync_truncated (h : Varint.decode bytes = .error .truncated) (ending : Ending) :
    readVarintAsync ⟨bytes, ending⟩ = .error (ending.report (.protocol .truncated)) := by
  cases bytes with
  | nil => rfl
  | cons first tail =>
    have hshort := Varint.decode_truncated_iff.mp h
    obtain ⟨count, hcount⟩ : ∃ count, count + 1 = 1 <<< (first >>> 6).toNat :=
      ⟨1 <<< (first >>> 6).toNat - 1, by omega⟩
    rw [readVarintAsync_cons first tail ending hcount, if_neg (by omega)]

theorem readVarintAsync_error (h : Varint.decode bytes = .error e) (hne : e ≠ .truncated)
    (ending : Ending) : readVarintAsync ⟨bytes, ending⟩ = .error (.protocol e) := by
  cases bytes with
  | nil => exact absurd (Except.error.inj h).symm hne
  | cons first tail =>
    have hlong : ¬ tail.length + 1 < 1 <<< (first >>> 6).toNat := by
      rw [← Varint.decode_truncated_iff, h]
      simpa using hne
    obtain ⟨count, hcount⟩ : ∃ count, count + 1 = 1 <<< (first >>> 6).toNat := by
      have hpos := Nat.two_pow_pos (first >>> 6).toNat
      exact ⟨1 <<< (first >>> 6).toNat - 1, by rw [Nat.one_shiftLeft]; omega⟩
    -- more bytes than the varint's own would not have changed the answer
    have hown : Varint.decode (first :: tail.take count) = .error e := by
      have hne' : Varint.decode (first :: tail.take count) ≠ .error .truncated := by
        rw [Ne, Varint.decode_truncated_iff, List.length_take]
        omega
      have hmore := Varint.decode_incremental _ (tail.drop count) hne'
      rw [List.cons_append, List.take_append_drop, h] at hmore
      cases hdecode : Varint.decode (first :: tail.take count) with
      | error e' =>
        rw [hdecode] at hmore
        exact hmore.symm
      | ok result =>
        rw [hdecode] at hmore
        cases hmore
    rw [readVarintAsync_cons first tail ending hcount, if_pos (by omega), hown]
    rfl

theorem readVarintAsync_encode (h : Varint.encode value = .ok x) (rest : Bytes) (ending : Ending) :
    readVarintAsync ⟨x ++ rest, ending⟩ = .ok ((value, x), ⟨rest, ending⟩) := by
  obtain ⟨first, tail, rfl, hcount⟩ := Varint.encode_shape h
  have hown := Varint.decode_encode h []
  rw [List.append_nil] at hown
  rw [List.cons_append, readVarintAsync_cons _ _ _ hcount, if_pos (by simp),
    List.take_left, List.drop_left, hown]
  rfl

theorem readPayload_eq (remaining : Nat) (bytes : Bytes) (ending : Ending) (payload : Bytes) :
    readPayload remaining ⟨bytes, ending⟩ payload =
      if remaining ≤ bytes.length then
        .ok (payload ++ bytes.take remaining, ⟨bytes.drop remaining, ending⟩)
      else .error (ending.report (.protocol .truncated)) := by
  induction remaining using Nat.strongRecOn generalizing bytes payload with
  | ind remaining ih =>
    rw [readPayload]
    split
    · rename_i hpos
      simp only [readExactOrTruncated]
      by_cases hchunk : min remaining payloadChunk ≤ bytes.length
      · simp only [if_pos hchunk, bind, Except.bind]
        rw [ih _ (by simp only [payloadChunk]; omega)]
        simp only [List.length_drop, List.drop_drop, List.append_assoc]
        have hsum : min remaining payloadChunk + (remaining - min remaining payloadChunk) =
            remaining := by omega
        have htake : bytes.take (min remaining payloadChunk) ++
            (bytes.drop (min remaining payloadChunk)).take
              (remaining - min remaining payloadChunk) = bytes.take remaining := by
          rw [← List.take_add, hsum]
        rw [htake, hsum]
        by_cases hall : remaining ≤ bytes.length
        · rw [if_pos hall, if_pos (by omega)]
        · rw [if_neg hall, if_neg (by omega)]
      · rw [if_neg hchunk, if_neg (by omega)]
        rfl
    · rename_i hzero
      obtain rfl : remaining = 0 := by omega
      simp [pure, Except.pure]

theorem settle_varint {next : Nat × Bytes → ProtocolResult (α × Bytes)}
    {read : (Nat × Bytes) × Source → FrameIoResult (α × Source)} (bytes : Bytes) (ending : Ending)
    (hnext : ∀ value own rest, Varint.encode value = .ok own →
      read ((value, own), ⟨rest, ending⟩) =
        settle ending (.protocol .truncated) (next (value, rest))) :
    (readVarintAsync ⟨bytes, ending⟩ >>= read) =
      settle ending (.protocol .truncated) (Varint.decode bytes >>= next) := by
  cases hdecode : Varint.decode bytes with
  | ok result =>
    obtain ⟨value, rest⟩ := result
    obtain ⟨own, hown, rfl⟩ := Varint.decode_canonical hdecode
    rw [readVarintAsync_encode hown]
    exact hnext value own rest hown
  | error e =>
    by_cases he : e = .truncated
    · subst he
      rw [readVarintAsync_truncated hdecode]
      rfl
    · rw [readVarintAsync_error hdecode he]
      exact (settle_error _ _ he).symm

theorem settle_check {check : ProtocolResult β} {next : β → ProtocolResult (α × Bytes)}
    {read : β → FrameIoResult (α × Source)} (hcheck : ∀ e, check = .error e → e ≠ .truncated)
    (hnext : ∀ b, check = .ok b → read b = settle ending atEnd (next b)) :
    (fromProtocol check >>= read) = settle ending atEnd (check >>= next) := by
  cases hresult : check with
  | ok b => exact hnext b hresult
  | error e => exact (settle_error _ _ (hcheck e hresult)).symm

theorem tryFrom_error (h : FrameType.tryFrom value = .error e) : e ≠ .truncated := by
  unfold FrameType.tryFrom at h
  split at h <;> cases h
  exact nofun

theorem validateFlags_error (h : validateFlags flags = .error e) : e ≠ .truncated := by
  unfold validateFlags at h
  dsimp only at h
  split at h <;> cases h
  exact nofun

theorem Frame.decode_cons (limits : FrameLimits) (type high low : UInt8) (src : Bytes) :
    Frame.decode limits (protocolVersion :: type :: high :: low :: src) = (do
      let frameType ← FrameType.tryFrom type
      validateFlags (.ofNat (fromBe [high, low]))
      let id ← Varint.decode src
      let length ← Varint.decode id.2
      if length.1 > limits.maxFrameSize then
        .error (.oversizedFrame length.1 limits.maxFrameSize)
      else if length.2.length < length.1 then .error .truncated
      else .ok (⟨⟨protocolVersion, frameType, .ofNat (fromBe [high, low]), id.1, length.1⟩,
        length.2.take length.1⟩, length.2.drop length.1)) := by
  simp only [Frame.decode, FrameHeader.decode, ne_eq, not_true, ↓reduceIte, bind, Except.bind]
  cases FrameType.tryFrom type with
  | error e => rfl
  | ok frameType =>
    cases validateFlags (UInt16.ofNat (fromBe [high, low])) with
    | error e => rfl
    | ok =>
      cases Varint.decode src with
      | error e => rfl
      | ok id =>
        cases hlength : Varint.decode id.2 with
        | error e => simp only [hlength]
        | ok length =>
          simp only [hlength]
          by_cases hlimit : length.1 > limits.maxFrameSize
          · simp only [if_pos hlimit]
          · simp only [if_neg hlimit]
            rfl

theorem readFrame_cons (limits : FrameLimits) (type high low : UInt8) (src : Bytes)
    (ending : Ending) :
    readFrame limits ⟨protocolVersion :: type :: high :: low :: src, ending⟩ = (do
      let _ ← fromProtocol (FrameType.tryFrom type)
      fromProtocol (validateFlags (.ofNat (fromBe [high, low])))
      let id ← readVarintAsync ⟨src, ending⟩
      let length ← readVarintAsync id.2
      let header ← fromProtocol
        (FrameHeader.decode limits (protocolVersion :: type :: high :: low :: (id.1.2 ++ length.1.2)))
      let payload ← readPayload header.1.length length.2 []
      pure (⟨header.1, payload.1⟩, payload.2)) := by
  simp [readFrame, readOptionalOne, readExactOrTruncated, bind, Except.bind]

theorem readFrame_eq (limits : FrameLimits) (bytes : Bytes) (ending : Ending) :
    readFrame limits ⟨bytes, ending⟩ =
      settle ending (if bytes.isEmpty then .closed else .protocol .truncated)
        (Frame.decode limits bytes) := by
  match bytes with
  | [] =>
    cases ending with
    | eof => rfl
    | failed error =>
      by_cases hkind : error.kind = .unexpectedEof <;>
        simp [readFrame, readOptionalOne, bind, Except.bind, settle, Frame.decode,
          FrameHeader.decode, Ending.report, hkind]
  | [_] | [_, _] | [_, _, _] => rfl
  | version :: type :: high :: low :: src =>
    by_cases hversion : version = protocolVersion
    · subst hversion
      rw [readFrame_cons, Frame.decode_cons, List.isEmpty_cons, if_neg Bool.false_ne_true]
      refine settle_check (fun e => tryFrom_error) fun frameType htype => ?_
      refine settle_check (fun e => validateFlags_error) fun _ hflags => ?_
      refine settle_varint src ending fun id idBytes rest hid => ?_
      refine settle_varint rest ending fun length lengthBytes rest hlength => ?_
      -- the header bytes are decoded a second time, now with the limit
      have hlast := Varint.decode_encode hlength []
      rw [List.append_nil] at hlast
      simp only [FrameHeader.decode, ne_eq, not_true, ↓reduceIte, htype, hflags, bind, Except.bind,
        Varint.decode_encode hid, hlast]
      by_cases hlimit : length > limits.maxFrameSize
      · simp only [if_pos hlimit]
        rfl
      · simp only [if_neg hlimit, fromProtocol, Except.mapError, pure, Except.pure, readPayload_eq]
        by_cases hshort : rest.length < length
        · simp only [if_pos hshort, if_neg (Nat.not_le.mpr hshort)]
          rfl
        · simp only [if_neg hshort, if_pos (Nat.not_lt.mp hshort)]
          rfl
    · simp [readFrame, readOptionalOne, readExactOrTruncated, bind, Except.bind, Frame.decode,
        FrameHeader.decode, hversion, settle]

theorem Frame.decode_shortens (h : Frame.decode limits src = .ok (frame, rest)) :
    rest.length < src.length := by
  obtain ⟨x, hx, rfl⟩ := Frame.decode_canonical h
  obtain ⟨-, header, hheader, rfl⟩ := Frame.encode_eq_ok.mp hx
  obtain ⟨id, length, -, rfl⟩ := FrameHeader.encode_eq_ok.mp hheader
  simp only [FrameHeader.fixed, List.length_append, List.length_cons]
  omega

theorem readFrames_ends (limits : FrameLimits) (ending : Ending) (h : bytes.length < reads) :
    ∃ error, (readFrames limits reads ⟨bytes, ending⟩).2 = some error := by
  induction reads generalizing bytes with
  | zero => exact absurd h (Nat.not_lt_zero _)
  | succ reads ih =>
    rw [readFrames, readFrame_eq]
    cases hdecode : Frame.decode limits bytes with
    | ok result =>
      have hless := Frame.decode_shortens hdecode
      exact ih (by omega)
    | error e =>
      by_cases he : e = .truncated
      · subst he
        exact ⟨_, rfl⟩
      · rw [settle_error _ _ he]
        exact ⟨_, rfl⟩

theorem takeBufferedFrame_ok (h : Frame.decode limits buffer = .ok (frame, rest)) :
    takeBufferedFrame limits buffer = (.ok (some frame), rest) := by
  obtain ⟨⟨header, cursor⟩, hheader, h⟩ := bind_eq_ok.mp h
  dsimp only at h
  split at h
  · cases h
  · rename_i hlong
    cases h
    obtain ⟨-, x, -, rfl⟩ := FrameHeader.decode_canonical hheader
    have hhead : (x ++ cursor).length - cursor.length = x.length := by simp
    have hfits : ¬ (x ++ cursor).length < x.length + header.length := by
      rw [List.length_append]
      omega
    simp only [takeBufferedFrame, hheader, hhead, if_neg hfits]
    rw [List.take_length_add_append, List.drop_left, List.drop_length_add_append]

theorem takeBufferedFrame_short (h : Frame.decode limits buffer = .error .truncated) :
    takeBufferedFrame limits buffer = (.ok none, buffer) := by
  cases hheader : FrameHeader.decode limits buffer with
  | error e =>
    simp only [Frame.decode, hheader, bind, Except.bind] at h
    cases h
    simp only [takeBufferedFrame, hheader]
  | ok result =>
    obtain ⟨header, cursor⟩ := result
    simp only [Frame.decode, hheader, bind, Except.bind] at h
    split at h
    · rename_i hshort
      obtain ⟨-, x, -, rfl⟩ := FrameHeader.decode_canonical hheader
      have hshort' : (x ++ cursor).length < (x ++ cursor).length - cursor.length + header.length := by
        rw [List.length_append]
        omega
      simp only [takeBufferedFrame, hheader, if_pos hshort']
    · cases h

theorem takeBufferedFrame_error (h : Frame.decode limits buffer = .error e) (hne : e ≠ .truncated) :
    takeBufferedFrame limits buffer = (.error (.protocol e), buffer) := by
  cases hheader : FrameHeader.decode limits buffer with
  | error e' =>
    simp only [Frame.decode, hheader, bind, Except.bind] at h
    cases h
    simp only [takeBufferedFrame, hheader]
  | ok result =>
    obtain ⟨header, cursor⟩ := result
    simp only [Frame.decode, hheader, bind, Except.bind] at h
    split at h
    · exact absurd (Except.error.inj h).symm hne
    · cases h

/-- As the one-shot reader does on the stream, or dropped with nothing lost. -/
inductive CallOf (limits : FrameLimits) (ending : Ending) (stream : Bytes) (waits : Nat) :
    CallResult × Bytes × List Delivery → Prop
  | frame (buffer : Bytes) (script : List Delivery) (h : readFrame limits ⟨stream, ending⟩ =
      .ok (frame, ⟨buffer ++ deliveries script, ending⟩)) :
      CallOf limits ending stream waits (.frame frame, buffer, script)
  | failed (h : readFrame limits ⟨stream, ending⟩ = .error error) :
      CallOf limits ending stream waits (.failed error, buffer, script)
  | dropped (buffer : Bytes) (script : List Delivery) (h : buffer ++ deliveries script = stream)
      (hless : script.length < waits) :
      CallOf limits ending stream waits (.dropped, buffer, script)

theorem CallOf.mono (h : CallOf limits ending stream waits call) (hle : waits ≤ waits') :
    CallOf limits ending stream waits' call := by
  cases h with
  | frame buffer script h => exact .frame buffer script h
  | failed h => exact .failed h
  | dropped buffer script h hless => exact .dropped buffer script h (Nat.lt_of_lt_of_le hless hle)

theorem FrameReader.readFrame_call (limits : FrameLimits) (ending : Ending) (buffer : Bytes)
    (script : List Delivery) :
    CallOf limits ending (buffer ++ deliveries script) script.length
      (FrameReader.readFrame limits ending buffer script) := by
  induction script generalizing buffer with
  | nil =>
    rw [FrameReader.readFrame]
    cases hdecode : Frame.decode limits buffer with
    | ok result =>
      rw [takeBufferedFrame_ok hdecode]
      refine .frame _ _ ?_
      simp [readFrame_eq, deliveries, hdecode, settle]
    | error e =>
      by_cases he : e = .truncated
      · subst he
        rw [takeBufferedFrame_short hdecode]
        refine .failed ?_
        simp only [readFrame_eq, deliveries, hdecode, settle, List.flatMap_nil, List.append_nil]
      · rw [takeBufferedFrame_error hdecode he]
        refine .failed ?_
        simp only [readFrame_eq, deliveries, hdecode, List.flatMap_nil, List.append_nil,
          settle_error _ _ he]
  | cons delivery script ih =>
    rw [FrameReader.readFrame]
    cases hdecode : Frame.decode limits buffer with
    | ok result =>
      rw [takeBufferedFrame_ok hdecode]
      refine .frame _ _ ?_
      rw [readFrame_eq, (Frame.decode_incremental limits).ok hdecode]
      rfl
    | error e =>
      by_cases he : e = .truncated
      · subst he
        rw [takeBufferedFrame_short hdecode]
        cases delivery with
        | chunk data nonempty =>
          have hcall := ih (buffer ++ data)
          rw [List.append_assoc] at hcall
          exact hcall.mono (Nat.le_succ _)
        | dropped => exact .dropped _ _ rfl (Nat.lt_succ_self _)
      · rw [takeBufferedFrame_error hdecode he]
        refine .failed ?_
        rw [readFrame_eq, (Frame.decode_incremental limits).error hdecode he, settle_error _ _ he]

theorem FrameReader.calls_eq_reads (limits : FrameLimits) (ending : Ending) (calls : Nat)
    (buffer : Bytes) (script : List Delivery) :
    ∃ reads, FrameReader.calls limits ending calls buffer script =
      readFrames limits reads ⟨buffer ++ deliveries script, ending⟩ := by
  induction calls generalizing buffer script with
  | zero => exact ⟨0, rfl⟩
  | succ calls ih =>
    have hcall := FrameReader.readFrame_call limits ending buffer script
    rw [FrameReader.calls]
    generalize FrameReader.readFrame limits ending buffer script = call at hcall ⊢
    cases hcall with
    | frame buffer' script' h =>
      obtain ⟨reads, hreads⟩ := ih buffer' script'
      exact ⟨reads + 1, by simp only [readFrames, h, hreads]⟩
    | failed h => exact ⟨1, by simp only [readFrames, h]⟩
    | dropped buffer' script' h hless =>
      rw [← h]
      exact ih buffer' script'

theorem FrameReader.reads_eq_calls (limits : FrameLimits) (ending : Ending) (reads : Nat)
    (buffer : Bytes) (script : List Delivery) :
    ∃ calls, FrameReader.calls limits ending calls buffer script =
      readFrames limits reads ⟨buffer ++ deliveries script, ending⟩ := by
  induction reads generalizing buffer script with
  | zero => exact ⟨0, rfl⟩
  | succ reads ih =>
    -- dropped calls use up deliveries, so one is not dropped in the end
    induction hwaits : script.length using Nat.strongRecOn generalizing buffer script with
    | ind waits ihwaits =>
      have hcall := FrameReader.readFrame_call limits ending buffer script
      generalize hresult : FrameReader.readFrame limits ending buffer script = call at hcall
      cases hcall with
      | frame buffer' script' h =>
        obtain ⟨calls, hcalls⟩ := ih buffer' script'
        exact ⟨calls + 1, by simp only [FrameReader.calls, hresult, readFrames, h, hcalls]⟩
      | failed h => exact ⟨1, by simp only [FrameReader.calls, hresult, readFrames, h]⟩
      | dropped buffer' script' h hless =>
        obtain ⟨calls, hcalls⟩ := ihwaits _ (hwaits ▸ hless) buffer' script' rfl
        exact ⟨calls + 1, by simp only [FrameReader.calls, hresult, hcalls, h]⟩

theorem takeBufferedFrame_removes (limits : FrameLimits) (buffer : Bytes) :
    match takeBufferedFrame limits buffer with
    | (.ok (some frame), after) => ∃ x, frame.encode = .ok x ∧ buffer = x ++ after
    | (_, after) => after = buffer := by
  cases hdecode : Frame.decode limits buffer with
  | ok result =>
    rw [takeBufferedFrame_ok hdecode]
    exact Frame.decode_canonical hdecode
  | error e =>
    by_cases he : e = .truncated
    · subst he
      rw [takeBufferedFrame_short hdecode]
    · rw [takeBufferedFrame_error hdecode he]

theorem takeBufferedFrame_error_stable (h : takeBufferedFrame limits buffer = (.error error, after))
    (more : Bytes) : takeBufferedFrame limits (buffer ++ more) = (.error error, buffer ++ more) := by
  cases hdecode : Frame.decode limits buffer with
  | ok result =>
    rw [takeBufferedFrame_ok hdecode] at h
    cases h
  | error e =>
    by_cases he : e = .truncated
    · subst he
      rw [takeBufferedFrame_short hdecode] at h
      cases h
    · rw [takeBufferedFrame_error hdecode he] at h
      cases h
      exact takeBufferedFrame_error ((Frame.decode_incremental limits).error hdecode he more) he

theorem frameReader_refines_readFrame (limits : FrameLimits) (ending : Ending)
    (script : List Delivery) :
    (∀ calls, ∃ reads, FrameReader.calls limits ending calls [] script =
        readFrames limits reads ⟨deliveries script, ending⟩) ∧
      (∀ reads, ∃ calls, FrameReader.calls limits ending calls [] script =
        readFrames limits reads ⟨deliveries script, ending⟩) ∧
      (∃ reads error, (readFrames limits reads ⟨deliveries script, ending⟩).2 = some error) ∧
      ∀ buffer,
        (match takeBufferedFrame limits buffer with
          | (.ok (some frame), after) => ∃ x, frame.encode = .ok x ∧ buffer = x ++ after
          | (_, after) => after = buffer) ∧
        ∀ error after more, takeBufferedFrame limits buffer = (.error error, after) →
          takeBufferedFrame limits (buffer ++ more) = (.error error, buffer ++ more) := by
  refine ⟨fun calls => ?_, fun reads => ?_, ?_, fun buffer => ⟨?_, ?_⟩⟩
  · exact FrameReader.calls_eq_reads limits ending calls [] script
  · exact FrameReader.reads_eq_calls limits ending reads [] script
  · exact ⟨_, readFrames_ends limits ending (Nat.lt_succ_self _)⟩
  · exact takeBufferedFrame_removes limits buffer
  · exact fun error after more h => takeBufferedFrame_error_stable h more

/-- Every write takes something, and no more than it is offered. -/
def Sink.TakesSome (accept : Nat → Nat → Nat) : Prop :=
  ∀ write offered, 0 < offered → 0 < accept write offered ∧ accept write offered ≤ offered

def Puts (sink : Sink) (bytes : Bytes) (after : FrameIoResult Unit × Sink) : Prop :=
  after.1 = .ok () ∧ after.2.accept = sink.accept ∧ after.2.wire = sink.wire ++ bytes

theorem Puts.nothing (sink : Sink) : Puts sink [] (.ok (), sink) :=
  ⟨rfl, rfl, (List.append_nil _).symm⟩

theorem Puts.after_write
    (h : Puts (sink.write data).2 (data.drop (sink.write data).1) after) : Puts sink data after := by
  obtain ⟨hok, haccept, hwire⟩ := h
  refine ⟨hok, haccept, ?_⟩
  rw [hwire]
  simp [Sink.write]

theorem Sink.TakesSome.write (h : Sink.TakesSome sink.accept) (data : Bytes) (hne : data ≠ []) :
    (sink.write data).1 ≠ 0 ∧
      (data.drop (sink.write data).1).length < data.length := by
  have hpos := List.length_pos_iff.mpr hne
  have hsome := (h sink.writes data.length hpos).1
  refine ⟨Nat.ne_of_gt hsome, ?_⟩
  rw [List.length_drop]
  exact Nat.sub_lt hpos hsome

theorem writeAll_puts (data : Bytes) (htakes : Sink.TakesSome sink.accept) :
    Puts sink data (writeAll sink data) := by
  induction hlen : data.length using Nat.strongRecOn generalizing data sink with
  | ind len ih =>
    rw [writeAll]
    split
    · rename_i hempty
      rw [List.isEmpty_iff.mp hempty]
      exact .nothing sink
    · rename_i hdata
      obtain ⟨hsome, hless⟩ := htakes.write data (by simpa using hdata)
      dsimp only
      rw [if_neg hsome]
      exact .after_write (ih _ (hlen ▸ hless) _ htakes rfl)

theorem drop_slices (first second : Bytes) (count : Nat) :
    first.drop (min first.length count) ++
        second.drop (min second.length (count - min first.length count)) =
      (first ++ second).drop count := by
  rw [List.drop_append]
  rcases Nat.le_total count first.length with h | h
  · simp [Nat.min_eq_right h, Nat.sub_eq_zero_of_le h]
  · simp only [Nat.min_eq_left h, List.drop_length, List.drop_eq_nil_of_le h, List.nil_append]
    rcases Nat.le_total (count - first.length) second.length with h' | h'
    · rw [Nat.min_eq_right h']
    · rw [Nat.min_eq_left h', List.drop_length, List.drop_eq_nil_of_le h']

theorem writeAllVectored_puts (first second : Bytes) (htakes : Sink.TakesSome sink.accept) :
    Puts sink (first ++ second) (writeAllVectored sink first second) := by
  induction hlen : (first ++ second).length using Nat.strongRecOn
    generalizing first second sink with
  | ind len ih =>
    rw [writeAllVectored]
    split
    · rename_i hempty
      obtain ⟨rfl, rfl⟩ : first = [] ∧ second = [] := by simpa using hempty
      exact .nothing sink
    · rename_i hdata
      obtain ⟨hsome, hless⟩ := htakes.write (first ++ second) (by simpa using hdata)
      dsimp only
      rw [if_neg hsome]
      have hrest := drop_slices first second (sink.write (first ++ second)).1
      exact .after_write (hrest ▸ ih _ (hlen ▸ hrest ▸ hless) _ _ htakes rfl)

theorem writeFrame_puts (htakes : Sink.TakesSome sink.accept)
    (h : frame.encode = .ok bytes) : Puts sink bytes (writeFrame sink frame) := by
  obtain ⟨hlength, header, hheader, rfl⟩ := Frame.encode_eq_ok.mp h
  simp only [writeFrame, hlength, hheader, ne_eq, not_true, ↓reduceIte]
  exact writeAllVectored_puts header frame.payload htakes

theorem writeEach_puts (frames : List Frame) (htakes : Sink.TakesSome sink.accept)
    (h : encodeAll frames = .ok bytes) : Puts sink bytes (writeEach sink frames) := by
  induction frames generalizing sink bytes with
  | nil =>
    cases h
    exact .nothing sink
  | cons frame frames ih =>
    obtain ⟨first, hfirst, h⟩ := bind_eq_ok.mp h
    obtain ⟨later, hlater, h⟩ := bind_eq_ok.mp h
    cases h
    obtain ⟨hok, haccept, hwire⟩ := writeFrame_puts htakes hfirst
    rw [writeEach]
    generalize writeFrame sink frame = after at hok haccept hwire ⊢
    obtain ⟨result, after⟩ := after
    subst hok
    obtain ⟨hok', haccept', hwire'⟩ := ih (haccept ▸ htakes) hlater
    exact ⟨hok', haccept'.trans haccept, by rw [hwire', hwire, List.append_assoc]⟩

theorem writeFrames_puts (frames : List Frame) (htakes : Sink.TakesSome sink.accept)
    (h : encodeAll frames = .ok bytes) : Puts sink bytes (writeFrames sink frames) := by
  simp only [writeFrames, h]
  split
  · rename_i hempty
    rw [List.isEmpty_iff.mp hempty]
    exact .nothing sink
  · exact writeAll_puts bytes htakes

theorem encodeAll_error (hmem : frame ∈ frames) (h : frame.encode = .error e) :
    ∃ e', encodeAll frames = .error e' := by
  induction frames with
  | nil => cases hmem
  | cons first frames ih =>
    cases hfirst : first.encode with
    | error e' => exact ⟨e', by simp [encodeAll, hfirst, bind, Except.bind]⟩
    | ok bytes =>
      cases hmem with
      | head => rw [h] at hfirst; cases hfirst
      | tail _ hmem =>
        obtain ⟨e', he'⟩ := ih hmem
        exact ⟨e', by simp [encodeAll, hfirst, he', bind, Except.bind]⟩

theorem frame_codec_canonical_and_writers_faithful :
    (∀ frame bytes limits suffix, frame.encode = .ok bytes →
        frame.header.length ≤ limits.maxFrameSize →
        Frame.decode limits (bytes ++ suffix) = .ok (frame, suffix)) ∧
      (∀ limits src frame rest, Frame.decode limits src = .ok (frame, rest) →
        ∃ bytes, frame.encode = .ok bytes ∧ src = bytes ++ rest) ∧
      (∀ sink frames bytes, Sink.TakesSome sink.accept → encodeAll frames = .ok bytes →
        (writeEach sink frames).1 = .ok () ∧
          (writeEach sink frames).2.wire = sink.wire ++ bytes ∧
          (writeFrames sink frames).1 = .ok () ∧
          (writeFrames sink frames).2.wire = sink.wire ++ bytes) ∧
      ∀ sink frames frame e, frame ∈ frames → frame.encode = .error e →
        (writeFrames sink frames).2.wire = sink.wire := by
  refine ⟨?_, ?_, ?_, ?_⟩
  · intro frame bytes limits suffix h hlimit
    exact Frame.decode_encode h hlimit suffix
  · intro limits src frame rest h
    exact Frame.decode_canonical h
  · intro sink frames bytes htakes h
    obtain ⟨hone, -, hwire⟩ := writeEach_puts frames htakes h
    obtain ⟨hall, -, hwire'⟩ := writeFrames_puts frames htakes h
    exact ⟨hone, hwire, hall, hwire'⟩
  · intro sink frames frame e hmem h
    obtain ⟨e', he'⟩ := encodeAll_error hmem h
    simp only [writeFrames, he']

theorem one_frame_byte_by_byte :
    let frame : Frame := ⟨⟨1, .tcpData, 0, 3, 2⟩, [7, 8]⟩
    let sink : Sink := ⟨fun _ _ => 1, 0, []⟩
    Frame.decode ⟨2⟩ [1, 0x11, 0, 0, 3, 2, 7, 8, 9] = .ok (frame, [9]) ∧
      (writeEach sink [frame, frame]).2.wire =
        [1, 0x11, 0, 0, 3, 2, 7, 8, 1, 0x11, 0, 0, 3, 2, 7, 8] := by
  intro frame sink
  obtain ⟨hdecode, -, hwrite, -⟩ := frame_codec_canonical_and_writers_faithful
  refine ⟨hdecode frame [1, 0x11, 0, 0, 3, 2, 7, 8] ⟨2⟩ [9] (by decide) (by decide), ?_⟩
  exact (hwrite sink [frame, frame] [1, 0x11, 0, 0, 3, 2, 7, 8, 1, 0x11, 0, 0, 3, 2, 7, 8]
    (fun _ _ h => ⟨Nat.one_pos, h⟩) (by decide)).2.1

section

variable {frames : List Frame} {limits : FrameLimits}
  (hfits : ∀ frame ∈ frames, frame.header.length ≤ limits.maxFrameSize)
  (h : encodeAll frames = .ok bytes) (ending : Ending)
include hfits h

theorem readFrames_cut (hcut : cut <+: bytes) (reads : Nat) :
    (readFrames limits reads ⟨cut, ending⟩).1 <+: frames := by
  induction reads generalizing frames bytes cut with
  | zero => exact List.nil_prefix
  | succ reads ih =>
    obtain ⟨more, rfl⟩ := hcut
    rw [readFrames, readFrame_eq]
    cases hdecode : Frame.decode limits cut with
    | error e =>
      by_cases he : e = .truncated
      · subst he
        exact List.nil_prefix
      · rw [settle_error _ _ he]
        exact List.nil_prefix
    | ok result =>
      obtain ⟨got, rest⟩ := result
      -- what the reader takes off the cut stream, it takes off the whole one
      have hwhole := (Frame.decode_incremental limits).ok hdecode more
      cases frames with
      | nil =>
        rw [← Except.ok.inj h] at hwhole
        cases hwhole
      | cons frame frames =>
        obtain ⟨first, hfirst, h⟩ := bind_eq_ok.mp h
        obtain ⟨later, hlater, h⟩ := bind_eq_ok.mp h
        rw [← Except.ok.inj h, Frame.decode_encode hfirst (hfits frame List.mem_cons_self)] at hwhole
        cases hwhole
        exact (List.prefix_cons_inj _).mpr
          (ih (fun frame hmem => hfits frame (List.mem_cons_of_mem _ hmem)) hlater ⟨more, rfl⟩)

theorem readFrames_encoded :
    readFrames limits (frames.length + 1) ⟨bytes, ending⟩ = (frames, some (ending.report .closed)) := by
  induction frames generalizing bytes with
  | nil =>
    cases h
    rw [readFrames, readFrame_eq]
    rfl
  | cons frame frames ih =>
    obtain ⟨first, hfirst, h⟩ := bind_eq_ok.mp h
    obtain ⟨later, hlater, h⟩ := bind_eq_ok.mp h
    cases h
    have hrest := ih (fun frame hmem => hfits frame (List.mem_cons_of_mem _ hmem)) hlater
    rw [readFrames, readFrame_eq, Frame.decode_encode hfirst (hfits frame List.mem_cons_self)]
    simp only [settle, List.length_cons, hrest]

end

/-- However writes are taken, the stream is cut and calls are dropped, the reader gives the frames
written, or the first of them if the stream breaks off. -/
theorem frames_survive_wire (limits : FrameLimits) (frames : List Frame) (bytes : Bytes)
    (accept : Nat → Nat → Nat) (script : List Delivery) (ending : Ending)
    (hfits : ∀ frame ∈ frames, frame.header.length ≤ limits.maxFrameSize)
    (hbytes : encodeAll frames = .ok bytes) (htakes : Sink.TakesSome accept)
    (hcut : deliveries script <+: (writeFrames ⟨accept, 0, []⟩ frames).2.wire) :
    (∀ calls, (FrameReader.calls limits ending calls [] script).1 <+: frames) ∧
      (deliveries script = (writeFrames ⟨accept, 0, []⟩ frames).2.wire →
        ∃ calls, FrameReader.calls limits ending calls [] script =
          (frames, some (ending.report .closed))) := by
  have hputs : Puts ⟨accept, 0, []⟩ bytes (writeFrames ⟨accept, 0, []⟩ frames) :=
    writeFrames_puts frames htakes hbytes
  rw [hputs.2.2] at hcut ⊢
  refine ⟨fun calls => ?_, fun hwhole => ?_⟩
  · obtain ⟨reads, hreads⟩ := FrameReader.calls_eq_reads limits ending calls [] script
    rw [hreads]
    exact readFrames_cut hfits hbytes ending hcut reads
  · obtain ⟨calls, hcalls⟩ :=
      FrameReader.reads_eq_calls limits ending (frames.length + 1) [] script
    refine ⟨calls, hcalls.trans ?_⟩
    rw [List.nil_append, hwhole]
    exact readFrames_encoded hfits hbytes ending

theorem one_frame_survives_wire :
    let frame : Frame := ⟨⟨1, .tcpData, 0, 3, 2⟩, [7, 8]⟩
    let script : List Delivery :=
      [.chunk [1, 0x11, 0] (by simp), .dropped, .chunk [0, 3, 2, 7, 8] (by simp)]
    ∃ calls, FrameReader.calls ⟨2⟩ .eof calls [] script = ([frame], some .closed) := by
  intro frame script
  have hbytes : encodeAll [frame] = .ok [1, 0x11, 0, 0, 3, 2, 7, 8] := by decide
  have htakes : Sink.TakesSome fun _ _ => 1 := fun _ _ h => ⟨Nat.one_pos, h⟩
  have hputs : Puts ⟨fun _ _ => 1, 0, []⟩ (deliveries script) (writeFrames _ [frame]) :=
    writeFrames_puts [frame] htakes hbytes
  exact (frames_survive_wire ⟨2⟩ [frame] _ (fun _ _ => 1) script .eof (by decide) hbytes htakes
    (by rw [hputs.2.2]; exact List.prefix_rfl)).2 hputs.2.2.symm

end UncrownedKing.Proto
