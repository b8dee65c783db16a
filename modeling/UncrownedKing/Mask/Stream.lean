import UncrownedKing.Lib.Keystream
import UncrownedKing.Lib.Run
import UncrownedKing.Mask.Prelude
import UncrownedKing.Net.Addr

/-!
# The masked TCP stream

Each direction of a masked connection runs one ChaCha20 keystream, here an
arbitrary one that covers the limit the stream sets itself. After a short write
the cipher seeks back.
-/

namespace UncrownedKing.Mask

open Lib Net

/-- One block short of what a 32-bit block counter reaches. -/
def streamLimit : Nat := 2 ^ 38 - 64

def maxWriteChunk : Nat := 64 * 1024

structure ChaCha20 where
  keystream : Bytes → Bytes → Nat → UInt8
  capacity : Nat
  covers : streamLimit ≤ capacity

structure Cipher where
  key : Bytes
  nonce : Bytes
  position : Nat
  deriving DecidableEq, Repr

variable (chacha : ChaCha20)

def Cipher.tryApplyKeystream (cipher : Cipher) (data : Bytes) : Option (Cipher × Bytes) :=
  if cipher.position + data.length ≤ chacha.capacity then
    some ({ cipher with position := cipher.position + data.length },
      maskAt (chacha.keystream cipher.key cipher.nonce) cipher.position data)
  else none

def Cipher.trySeek (cipher : Cipher) (position : Nat) : Option Cipher :=
  if position ≤ chacha.capacity then some { cipher with position := position } else none

inductive Poll (α : Type)
  | ready (result : Except IoError α)
  | pending

inductive InnerWrite (len : Nat)
  | accepted (written : Nat) (le_len : written ≤ len)
  | failed (error : IoError)
  | pending

inductive InnerRead
  | filled (chunk : Bytes)
  | failed (error : IoError)
  | pending

structure Direction where
  cipher : Cipher
  offset : Nat
  deriving DecidableEq, Repr

def Direction.new (key nonce : Bytes) : Direction := ⟨⟨key, nonce, 0⟩, 0⟩

def keystreamSeekFailed : IoError := ⟨.invalidData, "keystream seek failed"⟩
def streamLimitExceeded : IoError := ⟨.invalidData, "masking stream byte limit exceeded"⟩
def wroteZeroBytes : IoError := ⟨.writeZero, "masked inner stream wrote zero bytes"⟩

def checkedOffset (offset amount : Nat) : Option Nat :=
  if offset + amount ≤ streamLimit then some (offset + amount) else none

def Direction.rewindThen (direction : Direction) (result : Poll Nat) : Direction × Poll Nat :=
  match direction.cipher.trySeek chacha direction.offset with
  | none => (direction, .ready (.error keystreamSeekFailed))
  | some cipher => ({ direction with cipher := cipher }, result)

def Direction.pollWrite (direction : Direction) (buf : Bytes)
    (inner : (len : Nat) → InnerWrite len) : (Direction × Poll Nat) × Bytes :=
  if buf.isEmpty then ((direction, .ready (.ok 0)), [])
  else
    let take := min buf.length maxWriteChunk
    match checkedOffset direction.offset take with
    | none => ((direction, .ready (.error streamLimitExceeded)), [])
    | some _ =>
      match direction.cipher.tryApplyKeystream chacha (buf.take take) with
      | none => ((direction, .ready (.error streamLimitExceeded)), [])
      | some (cipher, scratch) =>
        let direction := { direction with cipher := cipher }
        match inner scratch.length with
        | .accepted written _ =>
          if written = take then
            (({ direction with offset := direction.offset + take }, .ready (.ok take)), scratch)
          else if written = 0 then
            (direction.rewindThen chacha (.ready (.error wroteZeroBytes)), [])
          else
            (Direction.rewindThen chacha { direction with offset := direction.offset + written }
              (.ready (.ok written)), scratch.take written)
        | .failed error => (direction.rewindThen chacha (.ready (.error error)), [])
        | .pending => (direction.rewindThen chacha .pending, [])

def Direction.pollRead (direction : Direction) : InnerRead → Direction × Poll Bytes
  | .pending => (direction, .pending)
  | .failed error => (direction, .ready (.error error))
  | .filled chunk =>
    if chunk.isEmpty then (direction, .ready (.ok []))
    else
      match checkedOffset direction.offset chunk.length with
      | none => (direction, .ready (.error streamLimitExceeded))
      | some offset =>
        let direction := { direction with offset := offset }
        match direction.cipher.tryApplyKeystream chacha chunk with
        | none => (direction, .ready (.error streamLimitExceeded))
        | some (cipher, plain) => ({ direction with cipher := cipher }, .ready (.ok plain))

structure MaskedStream where
  read : Direction
  write : Direction
  deriving DecidableEq, Repr

inductive Role
  | client
  | server
  deriving DecidableEq, Repr

def Role.opposite : Role → Role
  | .client => .server
  | .server => .client

def Role.writeKey (keys : MaskKeys) : Role → Bytes
  | .client => keys.tcpC2s
  | .server => keys.tcpS2c

def MaskedStream.new (writeKey readKey nonce : Bytes) : MaskedStream :=
  ⟨.new readKey nonce, .new writeKey nonce⟩

def MaskedStream.newClient (keys : MaskKeys) (nonce : Bytes) : MaskedStream :=
  .new keys.tcpC2s keys.tcpS2c nonce

def MaskedStream.newServer (keys : MaskKeys) (nonce : Bytes) : MaskedStream :=
  .new keys.tcpS2c keys.tcpC2s nonce

def MaskedStream.ofRole (keys : MaskKeys) (nonce : Bytes) : Role → MaskedStream
  | .client => .newClient keys nonce
  | .server => .newServer keys nonce

structure WriteCall where
  buf : Bytes
  inner : (len : Nat) → InnerWrite len

structure Transfer where
  reported : Bytes
  position : Nat
  wire : Bytes
  deriving DecidableEq, Repr

def reportedPart (buf : Bytes) : Poll Nat → Bytes
  | .ready (.ok written) => buf.take written
  | _ => []

def MaskedStream.pollWrite (chacha : ChaCha20) (stream : MaskedStream) (call : WriteCall) :
    MaskedStream × List Transfer :=
  let ((write, result), wire) := stream.write.pollWrite chacha call.buf call.inner
  ({ stream with write := write },
    [⟨reportedPart call.buf result, stream.write.cipher.position, wire⟩])

def MaskedStream.pollRead (chacha : ChaCha20) (stream : MaskedStream) (inner : InnerRead) :
    MaskedStream × List (Poll Bytes) :=
  let (read, result) := stream.read.pollRead chacha inner
  ({ stream with read := read }, [result])

def reportedBytes (log : List Transfer) : Bytes := log.flatMap Transfer.reported

def wireBytes (log : List Transfer) : Bytes := log.flatMap Transfer.wire

def usedOffsets (log : List Transfer) : List Nat :=
  log.flatMap fun t => List.range' t.position t.wire.length

def deliveredBytes (reads : List InnerRead) : Bytes :=
  reads.flatMap fun
    | .filled chunk => chunk
    | _ => []

def readBytes (results : List (Poll Bytes)) : Bytes :=
  results.flatMap fun
    | .ready (.ok plain) => plain
    | _ => []

end UncrownedKing.Mask
