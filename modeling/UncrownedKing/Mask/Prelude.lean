import UncrownedKing.Lib.Wire

/-!
# The masking prelude, read by the server

A masked connection opens with 64 bytes and a nonce. The low seven bits of the
last 32 bytes carry identity, counter and tag, masked. HMAC-SHA256 is an
arbitrary keyed function.
-/

namespace UncrownedKing.Mask

open Lib

def preludeLen : Nat := 64
def nonceLen : Nat := 12
def prefixLen : Nat := 32
def tailLen : Nat := 32
def identityLen : Nat := 8
def counterLen : Nat := 6
def tagLen : Nat := 14
def tailPayloadLen : Nat := identityLen + counterLen + tagLen

abbrev Hmac := Bytes → Bytes → Vector UInt8 32

structure MaskKeys where
  authKey : Bytes
  preludeMaskKey : Bytes
  tcpC2s : Bytes
  tcpS2c : Bytes
  udpC2s : Bytes
  udpS2c : Bytes
  deriving DecidableEq, Repr

/-- The labels are ASCII. Each ends in the byte 1. -/
def label (text : String) : Bytes := text.toList.map (fun c => UInt8.ofNat c.toNat) ++ [1]

def MaskKeys.derive (hmac : Hmac) (keyId secret : Bytes) : MaskKeys :=
  let root := (hmac secret (label "uk/1/mask/root" ++ keyId)).toList
  let key (text : String) : Bytes := (hmac root (label text)).toList
  { authKey := key "uk/1/mask/tcp-auth"
    preludeMaskKey := key "uk/1/mask/tcp-prelude-mask"
    tcpC2s := key "uk/1/mask/tcp-c2s"
    tcpS2c := key "uk/1/mask/tcp-s2c"
    udpC2s := key "uk/1/mask/udp-c2s"
    udpS2c := key "uk/1/mask/udp-s2c" }

structure AuthenticatedPrelude where
  identity : UInt64
  counter : Nat
  deriving DecidableEq, Repr

/-- The bit of byte `index` lands in bit `index % 8` of its packed byte. -/
def packHighBits (tail : Bytes) : Bytes :=
  (tail.take tailLen).zipIdx.foldl (fun packed (byte, index) =>
    packed.modify (index / 8) fun acc => acc ||| ((byte &&& 0x80) >>> UInt8.ofNat (7 - index % 8)))
    (List.replicate 4 0)

def readTailPayload (tail : Bytes) : Bytes :=
  (List.range (tailPayloadLen * 8)).foldl (fun payload bitIndex =>
    let bit := (tail.getD (bitIndex / 7) 0 >>> UInt8.ofNat (6 - bitIndex % 7)) &&& 1
    payload.modify (bitIndex / 8) fun acc => acc ||| (bit <<< UInt8.ofNat (7 - bitIndex % 8)))
    (List.replicate tailPayloadLen 0)

def MaskKeys.authenticationTag (hmac : Hmac) (keys : MaskKeys)
    (nonce pre highBits identity counter : Bytes) : Bytes :=
  (hmac keys.authKey (nonce ++ pre ++ highBits ++ identity ++ counter)).toList

def MaskKeys.preludeMask (hmac : Hmac) (keys : MaskKeys) (nonce pre highBits : Bytes) : Bytes :=
  (hmac keys.preludeMaskKey (nonce ++ pre ++ highBits)).toList

/-- Every failure is the one rejection. -/
def MaskKeys.decodePrelude (hmac : Hmac) (keys : MaskKeys) (prelude nonce : Bytes) :
    Option AuthenticatedPrelude :=
  let pre := prelude.take prefixLen
  let tail := prelude.drop prefixLen
  let highBits := packHighBits tail
  let mask := keys.preludeMask hmac nonce pre highBits
  let payload := (readTailPayload tail).zipWith (· ^^^ ·) mask
  let identity := payload.take identityLen
  let counter := (payload.drop identityLen).take counterLen
  if fromBe counter = 0 then none
  else
    let expected := keys.authenticationTag hmac nonce pre highBits identity counter
    let given := payload.drop (identityLen + counterLen)
    if given = expected.take tagLen then some ⟨UInt64.ofNat (fromBe identity), fromBe counter⟩
    else none

/-- Every key is tried; a later match replaces an earlier one. -/
def verifyPrelude (hmac : Hmac) (keys : List MaskKeys) (prelude nonce : Bytes) :
    Option (MaskKeys × AuthenticatedPrelude) :=
  keys.foldl (fun found key =>
    match key.decodePrelude hmac prelude nonce with
    | some authenticated => some (key, authenticated)
    | none => found) none

end UncrownedKing.Mask
