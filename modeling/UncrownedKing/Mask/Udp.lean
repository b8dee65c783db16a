import UncrownedKing.Lib.Chunks
import UncrownedKing.Mask.Stream

/-!
# The masked UDP socket

Every segment of a datagram travels as a nonce and the segment under its
keystream. A socket receives into slots that stay from call to call. A segment
is a UDP payload, so the cipher's own length check is left out.
-/

namespace UncrownedKing.Mask

open Lib Net

variable (chacha : ChaCha20)

abbrev UdpRole := Role

def Role.udpSendKey (keys : MaskKeys) : UdpRole → Bytes
  | .client => keys.udpC2s
  | .server => keys.udpS2c

def udpOverhead : Nat := nonceLen

def nonceBufferLen : Nat := 4096
def nonceReseedBytes : Nat := 2 ^ 32

/-- `reseeds` counts the seeds drawn after the first one. -/
structure NonceGenerator where
  cipher : Cipher
  buffer : Bytes
  position : Nat
  generated : Nat
  reseeds : Nat
  deriving DecidableEq, Repr

namespace NonceGenerator

def seeded (seed : Bytes) : Cipher := ⟨seed, List.replicate nonceLen 0, 0⟩

def new (seeds : Nat → Bytes) : NonceGenerator where
  cipher := seeded (seeds 0)
  buffer := List.replicate nonceBufferLen 0
  position := nonceBufferLen
  generated := 0
  reseeds := 0

def reseedIfDue (seeds : Nat → Bytes) (gen : NonceGenerator) : NonceGenerator :=
  if gen.generated ≥ nonceReseedBytes then
    { gen with
      cipher := seeded (seeds (gen.reseeds + 1)), generated := 0, reseeds := gen.reseeds + 1 }
  else gen

/-- Nothing is the `expect` that fails. -/
def refill (seeds : Nat → Bytes) (gen : NonceGenerator) : Option NonceGenerator :=
  let gen := gen.reseedIfDue seeds
  (gen.cipher.tryApplyKeystream chacha gen.buffer).map fun (cipher, buffer) =>
    { gen with
      cipher := cipher, buffer := buffer, position := 0,
      generated := gen.generated + nonceBufferLen }

def cut (gen : NonceGenerator) : Bytes × NonceGenerator :=
  ((gen.buffer.drop gen.position).take nonceLen, { gen with position := gen.position + nonceLen })

def next (seeds : Nat → Bytes) (gen : NonceGenerator) : Option (Bytes × NonceGenerator) :=
  if gen.position + nonceLen > nonceBufferLen then (gen.refill chacha seeds).map cut
  else some gen.cut

end NonceGenerator

def maskSegment (sendKey plaintext nonce : Bytes) : Bytes :=
  nonce ++ maskAt (chacha.keystream sendKey nonce) 0 plaintext

def unmaskSegment (recvKey segment : Bytes) : Option Bytes :=
  if segment.length ≤ nonceLen then none
  else
    some (maskAt (chacha.keystream recvKey (segment.take nonceLen)) 0 (segment.drop nonceLen))

/-- The versions are those of the QUIC library. -/
def supportedQuicPacket (supportedVersions : List Nat) : Bytes → Bool
  | [] => false
  | first :: rest =>
    if first &&& 0x80 = 0 then true
    else if rest.length < 4 then false
    else supportedVersions.contains (fromBe (rest.take 4))

inductive EcnCodepoint
  | ect0
  | ect1
  | ce
  deriving DecidableEq, Repr

structure RecvMeta where
  addr : SocketAddr
  len : Nat
  stride : Nat
  ecn : Option EcnCodepoint
  dstIp : Option IpAddr
  deriving DecidableEq, Repr

def RecvMeta.unset : RecvMeta :=
  ⟨.v6 (.new 0 0 0 0 0 0 0 0) 0 0 0, 0, 0, none, none⟩

structure Transmit where
  destination : SocketAddr
  ecn : Option EcnCodepoint
  contents : Bytes
  segmentSize : Option Nat
  srcIp : Option IpAddr
  deriving DecidableEq, Repr

def Transmit.segments (transmit : Transmit) : List Bytes :=
  match transmit.segmentSize with
  | none => [transmit.contents]
  | some segmentSize => transmit.contents.toChunks segmentSize

structure MaskedUdpSocket where
  sendKey : Bytes
  recvKey : Bytes
  serverFilter : Bool
  /-- A constant of the QUIC library. -/
  supportedVersions : List Nat
  nonces : NonceGenerator
  recvSlots : List Bytes := []
  recvMetas : List RecvMeta := []
  poisoned : Bool := false
  deriving DecidableEq, Repr

namespace MaskedUdpSocket

def new (keys : MaskKeys) (versions : List Nat) (seeds : Nat → Bytes) (role : UdpRole) :
    MaskedUdpSocket where
  sendKey := role.udpSendKey keys
  recvKey := role.opposite.udpSendKey keys
  serverFilter := role = .server
  supportedVersions := versions
  nonces := .new seeds

def statePoisoned : IoError := ⟨.other, "udp io state poisoned"⟩
def zeroSegmentSize : IoError := ⟨.invalidInput, "zero-length GSO segment size"⟩
def emptyReceiveBuffers : IoError := ⟨.invalidInput, "empty receive buffers"⟩

def maskSegments (chacha : ChaCha20) (seeds : Nat → Bytes) (sendKey : Bytes) :
    NonceGenerator → List Bytes → Option (Bytes × NonceGenerator)
  | gen, [] => some ([], gen)
  | gen, segment :: rest => do
    let (nonce, gen) ← gen.next chacha seeds
    let (scratch, gen) ← maskSegments chacha seeds sendKey gen rest
    pure (maskSegment chacha sendKey segment nonce ++ scratch, gen)

/-- What is handed to the inner socket. Nothing is a panic. -/
def trySend (seeds : Nat → Bytes) (socket : MaskedUdpSocket)
    (transmit : Transmit) : Option (MaskedUdpSocket × Except IoError Transmit) :=
  if socket.poisoned then some (socket, .error statePoisoned)
  else if transmit.segmentSize = some 0 then some (socket, .error zeroSegmentSize)
  else
    (maskSegments chacha seeds socket.sendKey socket.nonces transmit.segments).map
      fun (scratch, nonces) =>
        ({ socket with nonces := nonces },
          .ok { transmit with
            contents := scratch, segmentSize := transmit.segmentSize.map (· + udpOverhead) })

/-- A datagram is what is put into its slot, and what is said about it. -/
inductive InnerRecv
  | pending
  | failed (error : IoError)
  | received (datagrams : List (Bytes × RecvMeta))
  deriving DecidableEq, Repr

structure RecvCall where
  bufs : List Bytes
  metas : List RecvMeta
  maxReceiveSegments : Nat
  inner : List InnerRecv
  deriving DecidableEq, Repr

inductive RecvResult
  | pending
  | failed (error : IoError)
  | ready (count : Nat)
  /-- An index is out of range. -/
  | panicked
  deriving DecidableEq, Repr

structure RecvReturn where
  result : RecvResult
  bufs : List Bytes
  metas : List RecvMeta
  deriving DecidableEq, Repr

def overwrite (buf data : Bytes) : Bytes := (data ++ buf.drop data.length).take buf.length

/-- There is a slot for every buffer, with room for the nonces of `maxSegments` segments; slots
never get fewer or shorter. -/
def growSlots (maxSegments : Nat) : List Bytes → (bufs : List Bytes) → List Bytes
  | slots, [] => slots
  | [], buf :: bufs =>
    List.replicate (buf.length + udpOverhead * maxSegments) 0 :: growSlots maxSegments [] bufs
  | slot :: slots, buf :: bufs =>
    (slot ++ List.replicate (buf.length + udpOverhead * maxSegments - slot.length) 0) ::
      growSlots maxSegments slots bufs

def grow (socket : MaskedUdpSocket) (maxSegments : Nat) (bufs : List Bytes) : MaskedUdpSocket :=
  { socket with
    recvSlots := growSlots maxSegments socket.recvSlots bufs
    recvMetas := socket.recvMetas ++
      List.replicate (bufs.length - socket.recvMetas.length) .unset }

def fill : List (Bytes × RecvMeta) → (slots : List Bytes) → List Bytes
  | (data, _) :: datagrams, slot :: slots => overwrite slot data :: fill datagrams slots
  | _, slots => slots

def deliver (socket : MaskedUdpSocket) (datagrams : List (Bytes × RecvMeta)) : MaskedUdpSocket :=
  { socket with
    recvSlots := fill datagrams socket.recvSlots
    recvMetas := (datagrams.map (·.2)).take socket.recvMetas.length ++
      socket.recvMetas.drop datagrams.length }

def keptSegments (socket : MaskedUdpSocket) (wire : Bytes) (stride : Nat) : List Bytes :=
  (wire.toChunks stride).filterMap fun segment =>
    (unmaskSegment chacha socket.recvKey segment).filter fun packet =>
      !socket.serverFilter || supportedQuicPacket socket.supportedVersions packet

structure Produced where
  bufs : List Bytes
  metas : List RecvMeta
  count : Nat
  deriving DecidableEq, Repr

def takeSlot (socket : MaskedUdpSocket) (out : Produced) (slotIndex : Nat) : Option Produced := do
  let wireMeta ← socket.recvMetas[slotIndex]?
  let slot ← socket.recvSlots[slotIndex]?
  let wire := slot.take wireMeta.len
  if wire = [] ∨ wireMeta.stride ≤ udpOverhead then pure out
  else
    let decoded := (socket.keptSegments chacha wire wireMeta.stride).flatten
    if decoded = [] then pure out
    else
      let buf ← out.bufs[out.count]?
      if decoded.length > buf.length then pure out
      else if out.count < out.metas.length then
        pure {
          bufs := out.bufs.set out.count (overwrite buf decoded)
          metas := out.metas.set out.count
            { wireMeta with
              len := decoded.length
              stride := min (wireMeta.stride - udpOverhead) decoded.length }
          count := out.count + 1 }
      else none

def pollLoop (chacha : ChaCha20) (call : RecvCall) :
    MaskedUdpSocket → List InnerRecv → MaskedUdpSocket × RecvReturn
  | socket, [] | socket, .pending :: _ =>
    (socket.grow (max call.maxReceiveSegments 1) call.bufs, ⟨.pending, call.bufs, call.metas⟩)
  | socket, .failed error :: _ =>
    (socket.grow (max call.maxReceiveSegments 1) call.bufs, ⟨.failed error, call.bufs, call.metas⟩)
  | socket, .received datagrams :: inner =>
    let socket := (socket.grow (max call.maxReceiveSegments 1) call.bufs).deliver datagrams
    match (List.range datagrams.length).foldlM (socket.takeSlot chacha)
        ⟨call.bufs, call.metas, 0⟩ with
    | none => ({ socket with poisoned := true }, ⟨.panicked, call.bufs, call.metas⟩)
    | some out =>
      if out.count > 0 then (socket, ⟨.ready out.count, out.bufs, out.metas⟩)
      else pollLoop chacha call socket inner

def pollRecv (socket : MaskedUdpSocket) (call : RecvCall) : MaskedUdpSocket × RecvReturn :=
  if call.bufs = [] ∨ call.metas = [] then
    (socket, ⟨.failed emptyReceiveBuffers, call.bufs, call.metas⟩)
  else if socket.poisoned then (socket, ⟨.failed statePoisoned, call.bufs, call.metas⟩)
  else pollLoop chacha call socket call.inner

inductive UdpOp
  | send (transmit : Transmit)
  | recv (call : RecvCall)
  deriving DecidableEq, Repr

def use (seeds : Nat → Bytes) (socket : MaskedUdpSocket) : UdpOp → MaskedUdpSocket
  | .send transmit =>
    match socket.trySend chacha seeds transmit with
    | none => { socket with poisoned := true }
    | some (socket, _) => socket
  | .recv call => (socket.pollRecv chacha call).1

def used (keys : MaskKeys) (versions : List Nat) (seeds : Nat → Bytes)
    (role : UdpRole) (ops : List UdpOp) : MaskedUdpSocket :=
  ops.foldl (use chacha seeds) (new keys versions seeds role)

end MaskedUdpSocket

end UncrownedKing.Mask
