import UncrownedKing.Proto.Frame

/-!
# Reading and writing frames on a stream

The one-shot `read_frame`, the buffered reader that may be dropped and called
again, and the two writers. A stream is its bytes and how it ends. Checks for a
`usize` are left out.
-/

namespace UncrownedKing.Proto

open Lib Net

abbrev FrameIoResult := Except FrameIoError

def fromProtocol (result : ProtocolResult α) : FrameIoResult α := result.mapError .protocol

inductive Ending
  | eof
  | failed (error : IoError)
  deriving DecidableEq, Repr

/-- An unexpected end, as of a missing `close_notify`, is an end. -/
def Ending.report (atEnd : FrameIoError) : Ending → FrameIoError
  | .eof => atEnd
  | .failed error => if error.kind = .unexpectedEof then atEnd else .io error

structure Source where
  bytes : Bytes
  ending : Ending
  deriving DecidableEq, Repr

def readOptionalOne (source : Source) : FrameIoResult (Option UInt8 × Source) :=
  match source.bytes with
  | byte :: rest => .ok (some byte, ⟨rest, source.ending⟩)
  | [] =>
    match source.ending with
    | .eof => .ok (none, source)
    | .failed error =>
      if error.kind = .unexpectedEof then .ok (none, source) else .error (.io error)

def readExactOrTruncated (count : Nat) (source : Source) : FrameIoResult (Bytes × Source) :=
  if count ≤ source.bytes.length then
    .ok (source.bytes.take count, ⟨source.bytes.drop count, source.ending⟩)
  else .error (source.ending.report (.protocol .truncated))

def readOne (source : Source) : FrameIoResult (UInt8 × Source) := do
  let (byte, source) ← readExactOrTruncated 1 source
  pure (byte.headD 0, source)

def readVarintAsync (source : Source) : FrameIoResult ((Nat × Bytes) × Source) := do
  let (first, source) ← readOne source
  let len := 1 <<< (first >>> 6).toNat
  let (rest, source) ← readExactOrTruncated (len - 1) source
  let (value, _) ← fromProtocol (Varint.decode (first :: rest))
  pure ((value, first :: rest), source)

def payloadChunk : Nat := 8192

def readPayload (remaining : Nat) (source : Source) (payload : Bytes) :
    FrameIoResult (Bytes × Source) :=
  if 0 < remaining then do
    let toRead := min remaining payloadChunk
    let (chunk, source) ← readExactOrTruncated toRead source
    readPayload (remaining - toRead) source (payload ++ chunk)
  else pure (payload, source)
termination_by remaining
decreasing_by
  simp only [payloadChunk]
  omega

def readFrame (limits : FrameLimits) (source : Source) : FrameIoResult (Frame × Source) := do
  match ← readOptionalOne source with
  | (none, _) => .error .closed
  | (some version, source) =>
    let (fixed, source) ← readExactOrTruncated 3 source
    if version ≠ protocolVersion then
      .error (.protocol (.unsupportedVersion version))
    else
      let _ ← fromProtocol (FrameType.tryFrom (fixed.getD 0 0))
      fromProtocol (validateFlags (.ofNat (fromBe [fixed.getD 1 0, fixed.getD 2 0])))
      let ((_, id), source) ← readVarintAsync source
      let ((_, length), source) ← readVarintAsync source
      let (header, _) ← fromProtocol (FrameHeader.decode limits (version :: fixed ++ id ++ length))
      let (payload, source) ← readPayload header.length source []
      pure (⟨header, payload⟩, source)

/-- What so many one-shot reads give, up to the first error. -/
def readFrames (limits : FrameLimits) : Nat → Source → List Frame × Option FrameIoError
  | 0, _ => ([], none)
  | reads + 1, source =>
    match readFrame limits source with
    | .error error => ([], some error)
    | .ok (frame, source) =>
      let later := readFrames limits reads source
      (frame :: later.1, later.2)

/-- The answer and the buffer afterwards. -/
def takeBufferedFrame (limits : FrameLimits) (buffer : Bytes) :
    FrameIoResult (Option Frame) × Bytes :=
  match FrameHeader.decode limits buffer with
  | .error .truncated => (.ok none, buffer)
  | .error error => (.error (.protocol error), buffer)
  | .ok (header, cursor) =>
    let headerLen := buffer.length - cursor.length
    let total := headerLen + header.length
    if buffer.length < total then (.ok none, buffer)
    else (.ok (some ⟨header, (buffer.take total).drop headerLen⟩), buffer.drop total)

inductive Delivery
  | chunk (data : Bytes) (nonempty : data ≠ [])
  | dropped

inductive CallResult
  | frame (frame : Frame)
  | failed (error : FrameIoError)
  | dropped
  deriving DecidableEq, Repr

/-- Past the last delivery a read meets the end of the stream. -/
def FrameReader.readFrame (limits : FrameLimits) (ending : Ending) (buffer : Bytes)
    (script : List Delivery) : CallResult × Bytes × List Delivery :=
  match takeBufferedFrame limits buffer with
  | (.error error, buffer) => (.failed error, buffer, script)
  | (.ok (some frame), buffer) => (.frame frame, buffer, script)
  | (.ok none, buffer) =>
    match script with
    | .chunk data _ :: script => FrameReader.readFrame limits ending (buffer ++ data) script
    | .dropped :: script => (.dropped, buffer, script)
    | [] =>
      (.failed (ending.report (if buffer.isEmpty then .closed else .protocol .truncated)), buffer,
        [])

def FrameReader.calls (limits : FrameLimits) (ending : Ending) :
    Nat → Bytes → List Delivery → List Frame × Option FrameIoError
  | 0, _, _ => ([], none)
  | calls + 1, buffer, script =>
    match FrameReader.readFrame limits ending buffer script with
    | (.failed error, _, _) => ([], some error)
    | (.dropped, buffer, script) => FrameReader.calls limits ending calls buffer script
    | (.frame frame, buffer, script) =>
      let later := FrameReader.calls limits ending calls buffer script
      (frame :: later.1, later.2)

def deliveries (script : List Delivery) : Bytes :=
  script.flatMap fun
    | .chunk data _ => data
    | .dropped => []

structure Sink where
  accept : Nat → Nat → Nat
  writes : Nat
  wire : Bytes

def Sink.write (sink : Sink) (data : Bytes) : Nat × Sink :=
  let written := sink.accept sink.writes data.length
  (written, { sink with writes := sink.writes + 1, wire := sink.wire ++ data.take written })

def failedToWriteFrame : IoError := ⟨.writeZero, "failed to write frame"⟩
def failedToWriteWholeBuffer : IoError := ⟨.writeZero, "failed to write whole buffer"⟩

def writeAllVectored (sink : Sink) (first second : Bytes) : FrameIoResult Unit × Sink :=
  if first.isEmpty && second.isEmpty then (.ok (), sink)
  else
    let (written, sink) := sink.write (first ++ second)
    if written = 0 then (.error (.io failedToWriteFrame), sink)
    else
      let firstTake := min first.length written
      let secondTake := min second.length (written - firstTake)
      writeAllVectored sink (first.drop firstTake) (second.drop secondTake)
termination_by first.length + second.length
decreasing_by
  rename_i hempty hwritten
  simp only [List.length_drop]
  cases first <;> cases second <;> simp_all <;> omega

def writeFrame (sink : Sink) (frame : Frame) : FrameIoResult Unit × Sink :=
  if frame.header.length ≠ frame.payload.length then (.error (.protocol lengthMismatch), sink)
  else
    match frame.header.encode with
    | .error error => (.error (.protocol error), sink)
    | .ok header => writeAllVectored sink header frame.payload

def writeEach (sink : Sink) : List Frame → FrameIoResult Unit × Sink
  | [] => (.ok (), sink)
  | frame :: frames =>
    match writeFrame sink frame with
    | (.error error, sink) => (.error error, sink)
    | (.ok (), sink) => writeEach sink frames

def writeAll (sink : Sink) (data : Bytes) : FrameIoResult Unit × Sink :=
  if data.isEmpty then (.ok (), sink)
  else
    let (written, sink) := sink.write data
    if written = 0 then (.error (.io failedToWriteWholeBuffer), sink)
    else writeAll sink (data.drop written)
termination_by data.length
decreasing_by
  rename_i hempty hwritten
  simp only [List.length_drop]
  cases data <;> simp_all
  omega

def encodeAll : List Frame → ProtocolResult Bytes
  | [] => .ok []
  | frame :: frames => do
    let bytes ← frame.encode
    let later ← encodeAll frames
    pure (bytes ++ later)

def writeFrames (sink : Sink) (frames : List Frame) : FrameIoResult Unit × Sink :=
  match encodeAll frames with
  | .error error => (.error (.protocol error), sink)
  | .ok buffer => if buffer.isEmpty then (.ok (), sink) else writeAll sink buffer

end UncrownedKing.Proto
