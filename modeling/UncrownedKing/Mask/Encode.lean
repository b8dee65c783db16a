import UncrownedKing.Mask.Prelude

/-!
# The masking prelude, written by the client

The client fills 64 bytes at random, shapes the first by its policy and writes
identity, counter and tag into the low seven bits of the last 32.
-/

namespace UncrownedKing.Mask

open Lib

/-- `2^48 - 1`; counters never wrap. -/
def maxCounter : UInt64 := ((1 : UInt64) <<< 48) - 1

inductive MaskError
  | preludeRejected
  | invalidCounter
  | counterExhausted
  | streamLimitExceeded
  deriving DecidableEq, Repr

inductive PreludePolicy
  | fade
  | full8
  | low7
  deriving DecidableEq, Repr

structure RandomOutput where
  bytes : Vector UInt8 preludeLen
  nonce : Vector UInt8 nonceLen
  printableEnd : Nat
  printable_range : 8 ≤ printableEnd ∧ printableEnd ≤ 12
  sevenBitEnd : Nat
  sevenBit_range : 16 ≤ sevenBitEnd ∧ sevenBitEnd ≤ 32

structure ClientPrelude where
  bytes : Bytes
  nonce : Bytes
  deriving DecidableEq, Repr

def generatePrelude (policy : PreludePolicy) (rng : RandomOutput) : Bytes :=
  let bytes := rng.bytes.toList
  match policy with
  | .full8 => bytes
  | .low7 => bytes.map (· &&& 0x7f)
  | .fade =>
    (bytes.take rng.printableEnd).map (fun byte => 0x20 + byte % 95) ++
      ((bytes.take rng.sevenBitEnd).drop rng.printableEnd).map (· &&& 0x7f) ++
      bytes.drop rng.sevenBitEnd

def counterToBeBytes (counter : UInt64) : Bytes := (toBe 8 counter.toNat).drop 2

def writeTailPayload (tail payload : Bytes) : Bytes :=
  (List.range (tailPayloadLen * 8)).foldl (fun tail bitIndex =>
    let bit := (payload.getD (bitIndex / 8) 0 >>> UInt8.ofNat (7 - bitIndex % 8)) &&& 1
    let bitMask := (1 : UInt8) <<< UInt8.ofNat (6 - bitIndex % 7)
    tail.modify (bitIndex / 7) fun byte =>
      (byte &&& ~~~bitMask) ||| (bit <<< UInt8.ofNat (6 - bitIndex % 7))) tail

def MaskKeys.fillPrelude (hmac : Hmac) (keys : MaskKeys) (bytes nonce : Bytes) (identity : UInt64)
    (counter : UInt64) : Bytes :=
  let pre := bytes.take prefixLen
  let tail := bytes.drop prefixLen
  let highBits := packHighBits tail
  let identityBytes := toBe identityLen identity.toNat
  let counterBytes := counterToBeBytes counter
  let tag := keys.authenticationTag hmac nonce pre highBits identityBytes counterBytes
  let payload := identityBytes ++ counterBytes ++ tag.take tagLen
  let mask := keys.preludeMask hmac nonce pre highBits
  pre ++ writeTailPayload tail (payload.zipWith (· ^^^ ·) mask)

def MaskKeys.encodePrelude (hmac : Hmac) (keys : MaskKeys) (policy : PreludePolicy)
    (rng : RandomOutput) (identity counter : UInt64) : Except MaskError ClientPrelude :=
  if counter = 0 ∨ counter > maxCounter then .error .invalidCounter
  else
    let nonce := rng.nonce.toList
    .ok ⟨keys.fillPrelude hmac (generatePrelude policy rng) nonce identity counter, nonce⟩

end UncrownedKing.Mask
