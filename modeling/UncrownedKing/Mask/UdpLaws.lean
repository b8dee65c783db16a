import Mathlib.Data.List.Flatten
import UncrownedKing.Mask.NonceLaws

/-!
# Datagrams through two masked sockets

What one socket masks the other unmasks, segment by segment.
-/

namespace UncrownedKing.Mask

open Lib Net

variable {chacha : ChaCha20} {seeds : Nat → Bytes}

def NonceGenerator.Reached (chacha : ChaCha20) (seeds : Nat → Bytes) (gen : NonceGenerator) :
    Prop :=
  ∃ n, NonceGenerator.after chacha seeds n = some gen

theorem NonceGenerator.Reached.next {gen : NonceGenerator} (h : gen.Reached chacha seeds) :
    ∃ nonce gen', gen.next chacha seeds = some (nonce, gen') ∧ nonce.length = nonceLen ∧
      gen'.Reached chacha seeds := by
  obtain ⟨n, hn⟩ := h
  have hnonce := nonce_eq chacha seeds n
  simp only [nonce, hn, Option.bind_some, Option.map_eq_some_iff] at hnonce
  obtain ⟨⟨nonce, gen'⟩, hnext, rfl⟩ := hnonce
  refine ⟨_, gen', hnext, by simp, n + 1, ?_⟩
  simp [after, hn, hnext]

namespace MaskedUdpSocket

def MaskedFrom (chacha : ChaCha20) (key segment masked : Bytes) : Prop :=
  ∃ nonce, nonce.length = nonceLen ∧ masked = maskSegment chacha key segment nonce

theorem maskSegments_reached {gen : NonceGenerator} (h : gen.Reached chacha seeds) (key : Bytes)
    (segments : List Bytes) :
    ∃ masked gen', maskSegments chacha seeds key gen segments = some (masked.flatten, gen') ∧
      List.Forall₂ (MaskedFrom chacha key) segments masked ∧ gen'.Reached chacha seeds := by
  induction segments generalizing gen with
  | nil => exact ⟨[], gen, rfl, .nil, h⟩
  | cons segment rest ih =>
    obtain ⟨nonce, next, hnext, hlen, hreached⟩ := h.next
    obtain ⟨masked, last, hmasked, hfrom, hlast⟩ := ih hreached
    refine ⟨maskSegment chacha key segment nonce :: masked, last, ?_, ?_, hlast⟩
    · simp [maskSegments, hnext, hmasked]
    · exact .cons ⟨nonce, hlen, rfl⟩ hfrom

theorem pollLoop_eq (chacha : ChaCha20) (call : RecvCall) (socket : MaskedUdpSocket)
    (inner : List InnerRecv) :
    ∃ slots metas poisoned, (pollLoop chacha call socket inner).1 =
      { socket with recvSlots := slots, recvMetas := metas, poisoned := poisoned } := by
  fun_induction pollLoop chacha call socket inner with
  | case1 | case2 | case3 | case4 | case5 => exact ⟨_, _, _, rfl⟩
  | case6 socket datagrams inner _ _ _ _ ih => exact ih

structure Keyed (chacha : ChaCha20) (keys : MaskKeys) (versions : List Nat) (seeds : Nat → Bytes)
    (role : UdpRole) (socket : MaskedUdpSocket) : Prop where
  sendKey : socket.sendKey = role.udpSendKey keys
  recvKey : socket.recvKey = role.opposite.udpSendKey keys
  serverFilter : socket.serverFilter = decide (role = .server)
  supportedVersions : socket.supportedVersions = versions
  reached : socket.nonces.Reached chacha seeds

theorem Keyed.use {socket : MaskedUdpSocket} (h : Keyed chacha keys versions seeds role socket)
    (op : UdpOp) : Keyed chacha keys versions seeds role (socket.use chacha seeds op) := by
  cases op with
  | send transmit =>
    obtain ⟨hsend, hrecv, hfilter, hversions, hreached⟩ := h
    simp only [MaskedUdpSocket.use]
    split
    · exact ⟨hsend, hrecv, hfilter, hversions, hreached⟩
    · rename_i next result heq
      unfold trySend at heq
      split at heq
      · cases heq
        exact ⟨hsend, hrecv, hfilter, hversions, hreached⟩
      · split at heq
        · cases heq
          exact ⟨hsend, hrecv, hfilter, hversions, hreached⟩
        · obtain ⟨masked, gen, hmasked, -, hgen⟩ :=
            maskSegments_reached hreached socket.sendKey transmit.segments
          simp only [hmasked, Option.map_some, Option.some.injEq, Prod.mk.injEq] at heq
          obtain ⟨rfl, -⟩ := heq
          exact ⟨hsend, hrecv, hfilter, hversions, hgen⟩
  | recv call =>
    simp only [MaskedUdpSocket.use, pollRecv]
    split
    · exact h
    split
    · exact h
    obtain ⟨slots, metas, poisoned, heq⟩ := pollLoop_eq chacha call socket call.inner
    rw [heq]
    exact ⟨h.sendKey, h.recvKey, h.serverFilter, h.supportedVersions, h.reached⟩

theorem keyed_used (chacha : ChaCha20) (keys : MaskKeys) (versions : List Nat)
    (seeds : Nat → Bytes) (role : UdpRole) (ops : List UdpOp) :
    Keyed chacha keys versions seeds role (used chacha keys versions seeds role ops) := by
  have hnew : Keyed chacha keys versions seeds role (new keys versions seeds role) :=
    ⟨rfl, rfl, rfl, rfl, 0, rfl⟩
  unfold used
  induction ops using List.reverseRecOn with
  | nil => exact hnew
  | append_singleton ops op ih => simpa using ih.use op

/-- The transmit is these segments, all but the last of `s` bytes. -/
structure CutInto (transmit : Transmit) (s : Nat) (segments : List Bytes) : Prop where
  pos : 0 < s
  nonempty : segments ≠ []
  pieces : Pieces s segments
  contents : transmit.contents = segments.flatten
  size : transmit.segmentSize = some s ∨ transmit.segmentSize = none ∧ segments.length = 1

theorem CutInto.segments_eq (h : CutInto transmit s segments) : transmit.segments = segments := by
  unfold Transmit.segments
  obtain hsize | ⟨hsize, hone⟩ := h.size
  · simp [hsize, h.contents, toChunks_flatten h.pos h.pieces]
  · obtain ⟨segment, rfl⟩ := List.length_eq_one_iff.mp hone
    simp [hsize, h.contents]

theorem length_of_maskedFrom (h : MaskedFrom chacha key packet masked) :
    masked.length = packet.length + udpOverhead := by
  obtain ⟨nonce, hnonce, rfl⟩ := h
  simp [maskSegment, hnonce, udpOverhead, Nat.add_comm]

theorem unmaskSegment_of_maskedFrom (h : MaskedFrom chacha key packet masked)
    (hne : packet ≠ []) : unmaskSegment chacha key masked = some packet := by
  have hlong : ¬masked.length ≤ nonceLen := by
    have hlen := length_of_maskedFrom h
    have hpos := List.length_pos_iff.mpr hne
    simp only [udpOverhead] at hlen
    omega
  obtain ⟨nonce, hnonce, rfl⟩ := h
  rw [unmaskSegment, if_neg hlong]
  simp [maskSegment, ← hnonce]

def kept (serverFilter : Bool) (versions : List Nat) (segments : List Bytes) : List Bytes :=
  segments.filter fun packet => !serverFilter || supportedQuicPacket versions packet

theorem keptSegments_masked {socket : MaskedUdpSocket} (hs : 0 < s) (hpieces : Pieces s segments)
    (hfrom : List.Forall₂ (MaskedFrom chacha socket.recvKey) segments masked) :
    socket.keptSegments chacha masked.flatten (s + udpOverhead) =
      kept socket.serverFilter socket.supportedVersions segments := by
  have hwide : Pieces (s + udpOverhead) masked :=
    hpieces.widen (hfrom.imp fun _ _ => length_of_maskedFrom)
  have hne : ∀ segment ∈ segments, segment ≠ [] := fun _ => hpieces.ne_nil hs
  rw [keptSegments, toChunks_flatten (by omega) hwide]
  clear hwide hpieces
  induction hfrom with
  | nil => rfl
  | @cons segment first segments masked hfirst _ ih =>
    have hunmask := unmaskSegment_of_maskedFrom hfirst (hne segment List.mem_cons_self)
    have hrest := ih fun segment hmem => hne segment (List.mem_cons_of_mem _ hmem)
    rw [List.filterMap_cons, hunmask, hrest, Option.filter_some, kept, kept, List.filter_cons]
    cases !socket.serverFilter || supportedQuicPacket socket.supportedVersions segment <;> rfl

theorem trySend_masked {sender : MaskedUdpSocket} (h : Keyed chacha keys versions seeds role sender)
    (hpoisoned : sender.poisoned = false) (hcut : CutInto transmit s segments) :
    ∃ sender' masked, sender.trySend chacha seeds transmit =
        some (sender', .ok { transmit with
          contents := masked.flatten, segmentSize := transmit.segmentSize.map (· + udpOverhead) }) ∧
      List.Forall₂ (MaskedFrom chacha (role.udpSendKey keys)) segments masked := by
  obtain ⟨masked, gen, hmasked, hfrom, -⟩ := maskSegments_reached h.reached sender.sendKey segments
  refine ⟨{ sender with nonces := gen }, masked, ?_, h.sendKey ▸ hfrom⟩
  have hsize : transmit.segmentSize ≠ some 0 := by
    have hpos := hcut.pos
    obtain hsize | ⟨hsize, -⟩ := hcut.size
    · simp only [hsize, ne_eq, Option.some.injEq]
      omega
    · simp [hsize]
  simp [trySend, hpoisoned, hsize, hcut.segments_eq, hmasked]

theorem take_overwrite (h : data.length ≤ buf.length) :
    (overwrite buf data).take data.length = data := by
  simp [overwrite, List.take_take, Nat.min_eq_left h]

theorem growSlots_cons (k : Nat) (slots : List Bytes) (buf : Bytes) (bufs : List Bytes) :
    ∃ slot rest, growSlots k slots (buf :: bufs) = slot :: rest ∧
      buf.length + udpOverhead * k ≤ slot.length := by
  cases slots with
  | nil => exact ⟨_, _, rfl, by simp⟩
  | cons slot slots =>
    refine ⟨_, _, rfl, ?_⟩
    simp only [List.length_append, List.length_replicate]
    omega

theorem deliver_one (socket : MaskedUdpSocket) (wire buf : Bytes) (bufs : List Bytes) (k : Nat)
    (wireMeta : RecvMeta) (hroom : wire.length ≤ buf.length + udpOverhead * k) :
    let filled := (socket.grow k (buf :: bufs)).deliver [(wire, wireMeta)]
    filled.recvMetas[0]? = some wireMeta ∧
      ∃ slot, filled.recvSlots[0]? = some slot ∧ slot.take wire.length = wire := by
  obtain ⟨slot, rest, hslots, hslot⟩ := growSlots_cons k socket.recvSlots buf bufs
  constructor
  · cases hmetas : socket.recvMetas with
    | nil | cons first metas => simp [deliver, grow, hmetas]
  · refine ⟨overwrite slot wire, by simp [deliver, grow, hslots, fill], ?_⟩
    exact take_overwrite (by omega)

theorem takeSlot_first {socket : MaskedUdpSocket} (out : Produced)
    (hmeta : socket.recvMetas[0]? = some wireMeta) (hslot : socket.recvSlots[0]? = some slot)
    (hwire : slot.take wireMeta.len ≠ []) (hstride : udpOverhead < wireMeta.stride)
    (hkept : socket.keptSegments chacha (slot.take wireMeta.len) wireMeta.stride = segments)
    (hbuf : out.bufs[0]? = some buf) (hfits : segments.flatten.length ≤ buf.length)
    (hmetas : out.metas ≠ []) (hcount : out.count = 0) :
    socket.takeSlot chacha out 0 = some
      (if segments.flatten = [] then out
       else {
        bufs := out.bufs.set 0 (overwrite buf segments.flatten)
        metas := out.metas.set 0 { wireMeta with
          len := segments.flatten.length
          stride := min (wireMeta.stride - udpOverhead) segments.flatten.length }
        count := 1 }) := by
  have hpos := List.length_pos_iff.mpr hmetas
  have hnot : ¬(slot.take wireMeta.len = [] ∨ wireMeta.stride ≤ udpOverhead) := by
    rintro (h | h)
    · exact hwire h
    · omega
  simp only [takeSlot, hmeta, hslot, Option.bind_eq_bind, Option.bind_some, if_neg hnot, hkept,
    hcount, hbuf, if_neg (Nat.not_lt.mpr hfits), if_pos hpos]
  split <;> rfl

/-- A server's socket hands on only packets of a supported version. -/
def delivers (versions : List Nat) : UdpRole → List Bytes → List Bytes
  | .client, segments => segments
  | .server, segments => segments.filter (supportedQuicPacket versions)

theorem kept_eq_delivers (versions : List Nat) (role : UdpRole) (segments : List Bytes) :
    kept (decide (role = .server)) versions segments = delivers versions role segments := by
  cases role <;> simp [kept, delivers]

theorem delivers_sublist (versions : List Nat) (role : UdpRole) (segments : List Bytes) :
    (delivers versions role segments).Sublist segments := by
  cases role with
  | client => exact List.Sublist.refl _
  | server => exact List.filter_sublist

theorem toChunks_delivered (hs : 0 < s) (hpieces : Pieces s segments) (hne : segments ≠ []) :
    segments.flatten.toChunks (min s segments.flatten.length) = segments := by
  by_cases hle : s ≤ segments.flatten.length
  · rw [Nat.min_eq_left hle, toChunks_flatten hs hpieces]
  · -- shorter than one segment: there is only the last one
    cases hpieces with
    | nil => exact absurd rfl hne
    | last hpiece hlen =>
      simp only [List.flatten_cons, List.flatten_nil, List.append_nil] at hle ⊢
      rw [Nat.min_eq_right (by omega), toChunks_of_le hpiece le_rfl]
    | cons hlen rest =>
      simp only [List.flatten_cons, List.length_append] at hle
      omega

theorem sum_length_maskedFrom (h : List.Forall₂ (MaskedFrom chacha key) segments masked) :
    masked.flatten.length = segments.flatten.length + udpOverhead * segments.length := by
  induction h with
  | nil => rfl
  | cons hfirst _ ih =>
    have hlen := length_of_maskedFrom hfirst
    simp only [List.flatten_cons, List.length_append, List.length_cons, ih, hlen, Nat.mul_add]
    omega

/-- What one socket sends the other's caller gets, segment by segment. -/
theorem masked_datagram_round_trip (chacha : ChaCha20) (keys : MaskKeys) (versions : List Nat)
    (senderSeeds receiverSeeds : Nat → Bytes) (role : UdpRole) (before before' : List UdpOp)
    (transmit : Transmit) (s : Nat) (segments : List Bytes) (call : RecvCall) (size : Nat)
    (hcut : CutInto transmit s segments)
    (hsender : (used chacha keys versions senderSeeds role before).poisoned = false)
    (hreceiver : (used chacha keys versions receiverSeeds role.opposite before').poisoned = false)
    (hbufs : call.bufs ≠ []) (hmetas : call.metas ≠ [])
    (hequal : ∀ buf ∈ call.bufs, buf.length = size)
    (hlarge : transmit.contents.length ≤ size)
    (hroom : transmit.contents.length + udpOverhead * segments.length ≤
      size + udpOverhead * max call.maxReceiveSegments 1) :
    ∃ sender' masked,
      (used chacha keys versions senderSeeds role before).trySend chacha senderSeeds transmit =
        some (sender', .ok masked) ∧
      ∀ wireMeta : RecvMeta, wireMeta.len = masked.contents.length →
        wireMeta.stride = s + udpOverhead →
        let answer := ((used chacha keys versions receiverSeeds role.opposite before').pollRecv
          chacha { call with inner := [.received [(masked.contents, wireMeta)]] }).2
        let received := delivers versions role.opposite segments
        (received = [] → answer = ⟨.pending, call.bufs, call.metas⟩) ∧
        (received ≠ [] → ∃ buf delivered,
          answer = ⟨.ready 1, call.bufs.set 0 buf, call.metas.set 0 delivered⟩ ∧
          delivered.len = received.flatten.length ∧
          (buf.take delivered.len).toChunks delivered.stride = received) := by
  obtain ⟨sender', masked, hsend, hfrom⟩ :=
    trySend_masked (keyed_used chacha keys versions senderSeeds role before) hsender hcut
  refine ⟨sender', _, hsend, fun wireMeta hlen hstride => ?_⟩
  have hkeyed := keyed_used chacha keys versions receiverSeeds role.opposite before'
  generalize used chacha keys versions receiverSeeds role.opposite before' = receiver at *
  obtain ⟨buf, bufs, hcons⟩ := List.exists_cons_of_ne_nil hbufs
  have hsize : buf.length = size := hequal buf (by simp [hcons])
  simp only at hlen
  -- the first slot holds the wire form
  have hwireLen := sum_length_maskedFrom hfrom
  rw [hcut.contents] at hlarge hroom
  obtain ⟨hmeta, slot, hslot, htake⟩ :=
    deliver_one receiver masked.flatten buf bufs (max call.maxReceiveSegments 1) wireMeta (by omega)
  rw [← hlen] at htake
  rw [← hcons] at hmeta hslot
  have hopposite : role.opposite.opposite = role := by cases role <;> rfl
  have hkept : ((receiver.grow (max call.maxReceiveSegments 1) call.bufs).deliver
      [(masked.flatten, wireMeta)]).keptSegments chacha (slot.take wireMeta.len) wireMeta.stride =
      delivers versions role.opposite segments := by
    rw [htake, hstride, keptSegments_masked hcut.pos hcut.pieces]
    · rw [← kept_eq_delivers, ← hkeyed.serverFilter, ← hkeyed.supportedVersions]
      rfl
    · have hkey := hkeyed.recvKey
      rw [hopposite] at hkey
      exact hkey ▸ hfrom
  have hsub := delivers_sublist versions role.opposite segments
  have hfits : (delivers versions role.opposite segments).flatten.length ≤ buf.length :=
    (hsub.flatten.length_le).trans (by omega)
  have htaken := takeSlot_first ⟨call.bufs, call.metas, 0⟩ hmeta hslot ?_ ?_ hkept
    (by simp [hcons]) hfits hmetas rfl
  · have hpieces := hcut.pieces.sublist hsub
    simp only [pollRecv, hbufs, hmetas, or_self, if_false, hreceiver, Bool.false_eq_true, pollLoop,
      List.length_singleton, List.range_one, List.foldlM_cons, List.foldlM_nil, htaken]
    constructor
    · intro hnone
      simp [hnone, grow, deliver]
    · intro hsome
      have hflatten : (delivers versions role.opposite segments).flatten ≠ [] := by
        obtain ⟨first, rest, heq⟩ := List.exists_cons_of_ne_nil hsome
        have hfirst := hpieces.ne_nil hcut.pos (heq ▸ List.mem_cons_self)
        simp [heq, hfirst]
      simp only [hflatten, if_false]
      refine ⟨_, _, rfl, rfl, ?_⟩
      simp only [take_overwrite hfits, hstride, Nat.add_sub_cancel]
      exact toChunks_delivered hcut.pos hpieces hsome
  · rw [htake]
    have hsegments := List.length_pos_iff.mpr hcut.nonempty
    refine List.ne_nil_of_length_pos ?_
    simp only [hwireLen, udpOverhead, nonceLen]
    omega
  · have := hcut.pos
    omega

def sampleKeys : MaskKeys := ⟨[], [], [], [], [1], [2]⟩

def sampleSeeds : Nat → Bytes := fun _ => List.replicate 32 0

/-- The second segment is no packet that a server takes. -/
def sampleTransmit : Transmit :=
  ⟨.v4 (.new 127 0 0 1) 443, none, [0x40, 1, 0x80], some 2, none⟩

theorem sample_datagram_arrives :
    ∃ sender' masked,
      (used .ones sampleKeys [1] sampleSeeds .client []).trySend .ones sampleSeeds sampleTransmit =
        some (sender', .ok masked) ∧
      ∃ buf delivered,
        ((used .ones sampleKeys [1] sampleSeeds .server []).pollRecv .ones
          ⟨[[0, 0, 0]], [.unset], 2, [.received [(masked.contents,
            { RecvMeta.unset with len := masked.contents.length, stride := 14 })]]⟩).2 =
          ⟨.ready 1, [buf], [delivered]⟩ ∧
        (buf.take delivered.len).toChunks delivered.stride = [[0x40, 1]] := by
  obtain ⟨sender', masked, hsend, hrecv⟩ :=
    masked_datagram_round_trip .ones sampleKeys [1] sampleSeeds sampleSeeds .client [] []
      sampleTransmit 2 [[0x40, 1], [0x80]] ⟨[[0, 0, 0]], [.unset], 2, []⟩ 3
      ⟨by decide, by simp, .cons rfl (.last (by simp) (by decide)), rfl, .inl rfl⟩
      rfl rfl (by simp) (by simp) (by simp) (by decide) (by decide)
  obtain ⟨buf, delivered, hanswer, -, hcut⟩ :=
    (hrecv { RecvMeta.unset with len := masked.contents.length, stride := 14 } rfl rfl).2
      (by decide)
  exact ⟨sender', masked, hsend, buf, delivered, hanswer, hcut⟩

end MaskedUdpSocket

end UncrownedKing.Mask
