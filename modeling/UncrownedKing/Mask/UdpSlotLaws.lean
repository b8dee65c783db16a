import UncrownedKing.Mask.UdpLaws

/-!
# Calls and the slots they leave

A call hands the inner socket all the slots there are, those of earlier calls
with more buffers included.
-/

namespace UncrownedKing.Mask

open Lib Net

variable {socket : MaskedUdpSocket}

namespace MaskedUdpSocket

variable {chacha : ChaCha20}

structure SliceLens where
  bufs : Nat
  metas : Nat
  bufs_pos : 0 < bufs
  metas_pos : 0 < metas

/-- The call passes slices of these lengths. -/
structure HasLens (call : RecvCall) (lens : SliceLens) : Prop where
  bufs : call.bufs.length = lens.bufs
  metas : call.metas.length = lens.metas

/-- At most as many datagrams are reported as slices were given. -/
def Honest (socket : MaskedUdpSocket) (call : RecvCall) : Prop :=
  ∀ datagrams, .received datagrams ∈ call.inner →
    datagrams.length ≤
      (socket.grow (max call.maxReceiveSegments 1) call.bufs).recvSlots.length

def recvStep (chacha : ChaCha20) (socket : MaskedUdpSocket) (call : RecvCall) :
    MaskedUdpSocket × List (RecvCall × RecvReturn) :=
  ((socket.pollRecv chacha call).1, [(call, (socket.pollRecv chacha call).2)])

/-- The call does not panic and reports no more messages than it had slots for. -/
def InBounds (entry : RecvCall × RecvReturn) : Prop :=
  entry.2.result ≠ .panicked ∧
    ∀ count, entry.2.result = .ready count →
      count ≤ min entry.1.bufs.length entry.1.metas.length

@[simp] theorem length_growSlots (k : Nat) (slots bufs : List Bytes) :
    (growSlots k slots bufs).length = max slots.length bufs.length := by
  fun_induction growSlots k slots bufs with
  | case1 slots => simp
  | case2 buf bufs ih | case3 slot slots buf bufs ih => simp [ih]

@[simp] theorem length_fill (datagrams : List (Bytes × RecvMeta)) (slots : List Bytes) :
    (fill datagrams slots).length = slots.length := by
  fun_induction fill datagrams slots with
  | case1 data wireMeta datagrams slot slots ih => simp [ih]
  | case2 => rfl

def Paired (socket : MaskedUdpSocket) : Prop :=
  socket.recvMetas.length = socket.recvSlots.length

theorem Paired.grow (h : socket.Paired) (k : Nat) (bufs : List Bytes) :
    (socket.grow k bufs).Paired := by
  simp only [Paired, MaskedUdpSocket.grow, List.length_append, List.length_replicate,
    length_growSlots] at h ⊢
  omega

theorem Paired.deliver (h : socket.Paired)
    (datagrams : List (Bytes × RecvMeta)) : (socket.deliver datagrams).Paired := by
  simp only [Paired, MaskedUdpSocket.deliver, List.length_append, List.length_take,
    List.length_map, List.length_drop, length_fill] at h ⊢
  omega

theorem takeSlot_inBounds (chacha : ChaCha20) (out : Produced)
    (hpaired : socket.Paired) (hi : i < socket.recvSlots.length)
    (hcount : out.count < out.bufs.length) (hmetas : out.bufs.length ≤ out.metas.length) :
    ∃ out', socket.takeSlot chacha out i = some out' ∧ out'.bufs.length = out.bufs.length ∧
      out'.metas.length = out.metas.length ∧ out'.count ≤ out.count + 1 := by
  have hmeta := List.getElem?_eq_getElem (hpaired ▸ hi : i < socket.recvMetas.length)
  have hslot := List.getElem?_eq_getElem hi
  have hbuf := List.getElem?_eq_getElem hcount
  simp only [takeSlot, hmeta, hslot, hbuf, Option.bind_eq_bind, Option.bind_some,
    if_pos (Nat.lt_of_lt_of_le hcount hmetas)]
  split
  · exact ⟨out, rfl, rfl, rfl, by omega⟩
  split
  · exact ⟨out, rfl, rfl, rfl, by omega⟩
  split
  · exact ⟨out, rfl, rfl, rfl, by omega⟩
  · exact ⟨_, rfl, by simp, by simp, le_rfl⟩

theorem takeSlots_inBounds (chacha : ChaCha20)
    (hpaired : socket.Paired) (hslots : n ≤ socket.recvSlots.length) (bufs : List Bytes)
    (metas : List RecvMeta) (hbufs : n ≤ bufs.length) (hmetas : bufs.length ≤ metas.length) :
    ∃ out, (List.range n).foldlM (socket.takeSlot chacha) ⟨bufs, metas, 0⟩ = some out ∧
      out.bufs.length = bufs.length ∧ out.metas.length = metas.length ∧ out.count ≤ n := by
  induction n with
  | zero => exact ⟨_, rfl, rfl, rfl, le_rfl⟩
  | succ n ih =>
    obtain ⟨out, hfold, hb, hm, hcount⟩ := ih (by omega) (by omega)
    obtain ⟨out', htake, hb', hm', hcount'⟩ :=
      takeSlot_inBounds chacha out hpaired (i := n) (by omega) (by omega) (by omega)
    refine ⟨out', ?_, by omega, by omega, by omega⟩
    rw [List.range_succ, List.foldlM_append, hfold]
    simpa using htake

structure Stays (call : RecvCall) (after : MaskedUdpSocket × RecvReturn) : Prop where
  inBounds : InBounds (call, after.2)
  poisoned : after.1.poisoned = false
  paired : after.1.Paired
  slots : after.1.recvSlots.length = call.bufs.length

theorem pollLoop_stays {call : RecvCall} {inner : List InnerRecv}
    (hpoisoned : socket.poisoned = false) (hpaired : socket.Paired)
    (hslots : socket.recvSlots.length ≤ call.bufs.length)
    (hmetas : call.bufs.length ≤ call.metas.length)
    (hinner : ∀ datagrams, .received datagrams ∈ inner → datagrams.length ≤ call.bufs.length) :
    Stays call (pollLoop chacha call socket inner) := by
  have hgrown : (socket.grow (max call.maxReceiveSegments 1) call.bufs).recvSlots.length =
      call.bufs.length := by
    simpa [grow] using hslots
  fun_induction pollLoop chacha call socket inner with
  | case1 socket | case2 socket _ => exact ⟨⟨by simp, by simp⟩, hpoisoned, hpaired.grow _ _, hgrown⟩
  | case3 socket _ error => exact ⟨⟨by simp, by simp⟩, hpoisoned, hpaired.grow _ _, hgrown⟩
  | case4 socket datagrams inner filled hnone =>
    have hlen := hinner datagrams List.mem_cons_self
    obtain ⟨out, hsome, -⟩ := takeSlots_inBounds chacha
      ((hpaired.grow (max call.maxReceiveSegments 1) call.bufs).deliver datagrams)
      (by simpa [deliver, hgrown] using hlen) call.bufs call.metas hlen hmetas
    exact absurd (hnone.symm.trans hsome) (by simp)
  | case5 socket datagrams inner filled out hout hcount =>
    have hlen := hinner datagrams List.mem_cons_self
    obtain ⟨out', hsome, -, -, hle⟩ := takeSlots_inBounds chacha
      ((hpaired.grow (max call.maxReceiveSegments 1) call.bufs).deliver datagrams)
      (by simpa [deliver, hgrown] using hlen) call.bufs call.metas hlen hmetas
    cases hout.symm.trans hsome
    refine ⟨⟨by simp, ?_⟩, hpoisoned, (hpaired.grow _ _).deliver datagrams, ?_⟩
    · rintro count ⟨⟩
      exact le_min (hle.trans hlen) ((hle.trans hlen).trans hmetas)
    · simpa [filled, deliver] using hgrown
  | case6 socket datagrams inner filled out hout hcount ih =>
    have hfilled : filled.recvSlots.length = call.bufs.length := by
      simpa [filled, deliver] using hgrown
    refine ih hpoisoned ((hpaired.grow _ _).deliver datagrams) hfilled.le
      (fun datagrams hmem => hinner datagrams (List.mem_cons_of_mem _ hmem)) ?_
    simpa [grow] using hfilled.le

theorem pollRecv_stays {call : RecvCall} (hbufs : call.bufs ≠ [])
    (hmetas : call.metas ≠ []) (hpoisoned : socket.poisoned = false) (hpaired : socket.Paired)
    (hslots : socket.recvSlots.length ≤ call.bufs.length)
    (hroom : call.bufs.length ≤ call.metas.length) (hhonest : socket.Honest call) :
    Stays call (socket.pollRecv chacha call) := by
  have hcall : socket.pollRecv chacha call = pollLoop chacha call socket call.inner := by
    simp [pollRecv, hbufs, hmetas, hpoisoned]
  rw [hcall]
  refine pollLoop_stays hpoisoned hpaired hslots hroom fun datagrams hmem => ?_
  simpa [grow, Nat.max_eq_right hslots] using hhonest datagrams hmem

theorem run_inBounds {calls : List RecvCall} {lens : List SliceLens}
    (hcalls : List.Forall₂ HasLens calls lens)
    (hhonest : Along (recvStep chacha) Honest socket calls) (hpoisoned : socket.poisoned = false)
    (hpaired : socket.Paired) (hslots : ∀ l ∈ lens, socket.recvSlots.length ≤ l.bufs)
    (hordered : lens.Pairwise fun l l' => l.bufs ≤ l'.bufs) (hroom : ∀ l ∈ lens, l.bufs ≤ l.metas) :
    ∀ entry ∈ (run (recvStep chacha) socket calls).2, InBounds entry := by
  induction hcalls generalizing socket with
  | nil => simp [run]
  | @cons call l calls lens hcall _ ih =>
    obtain ⟨hfirst, hordered⟩ := List.pairwise_cons.mp hordered
    obtain ⟨hl, hrest⟩ := List.forall_mem_cons.mp hroom
    have hbufs := hcall.bufs
    have hmetas := hcall.metas
    have hstays : Stays call (socket.pollRecv chacha call) := by
      refine pollRecv_stays ?_ ?_ hpoisoned hpaired ?_ ?_ hhonest.1
      · exact List.ne_nil_of_length_pos (hbufs ▸ l.bufs_pos)
      · exact List.ne_nil_of_length_pos (hmetas ▸ l.metas_pos)
      · exact hbufs ▸ hslots l List.mem_cons_self
      · omega
    refine List.forall_mem_cons.mpr ⟨hstays.inBounds, ?_⟩
    refine ih hhonest.2 hstays.poisoned hstays.paired (fun l' hmem => ?_) hordered hrest
    have hle := hfirst l' hmem
    have hafter := hstays.slots
    simp only [recvStep]
    omega

def quietCall (lens : SliceLens) : RecvCall :=
  ⟨List.replicate lens.bufs [0], List.replicate lens.metas .unset, 1, []⟩

def floodPacket (chacha : ChaCha20) (key : Bytes) : Bytes :=
  maskSegment chacha key [0] (List.replicate nonceLen 0)

def floodMeta : RecvMeta := { RecvMeta.unset with len := 13, stride := 13 }

def floodCall (chacha : ChaCha20) (key : Bytes) (n : Nat) (lens : SliceLens) : RecvCall :=
  { quietCall lens with
    inner := [.received (List.replicate n (floodPacket chacha key, floodMeta))] }

structure Flat (n : Nat) (socket : MaskedUdpSocket) : Prop where
  slots : socket.recvSlots = List.replicate n (List.replicate 13 0)
  metas : socket.recvMetas.length = n
  poisoned : socket.poisoned = false

theorem growSlots_flat (n b : Nat) :
    growSlots 1 (List.replicate n (List.replicate 13 0)) (List.replicate b [0]) =
      List.replicate (max n b) (List.replicate 13 0) := by
  induction b generalizing n with
  | zero => simp [growSlots]
  | succ b ih =>
    cases n with
    | zero => simpa [growSlots, List.replicate_succ, udpOverhead, nonceLen] using ih 0
    | succ n =>
      simpa [growSlots, List.replicate_succ, udpOverhead, nonceLen, Nat.succ_max_succ] using ih n

theorem Flat.grow (h : Flat n socket) (b : Nat) :
    Flat (max n b) (socket.grow 1 (List.replicate b [0])) where
  slots := by simp only [MaskedUdpSocket.grow, h.slots, growSlots_flat]
  metas := by
    simp only [MaskedUdpSocket.grow, List.length_append, List.length_replicate, h.metas]
    omega
  poisoned := h.poisoned

theorem Flat.quiet (chacha : ChaCha20) (h : Flat n socket) (lens : SliceLens) :
    Flat (max n lens.bufs) (socket.pollRecv chacha (quietCall lens)).1 := by
  have hcall : (socket.pollRecv chacha (quietCall lens)).1 =
      socket.grow 1 (List.replicate lens.bufs [0]) := by
    simp [pollRecv, quietCall, pollLoop, h.poisoned, lens.bufs_pos.ne', lens.metas_pos.ne']
  rw [hcall]
  exact h.grow lens.bufs

structure Flooded (chacha : ChaCha20) (n : Nat) (socket : MaskedUdpSocket) : Prop where
  slots : socket.recvSlots = List.replicate n (floodPacket chacha socket.recvKey)
  metas : socket.recvMetas = List.replicate n floodMeta

theorem length_floodPacket (chacha : ChaCha20) (key : Bytes) :
    (floodPacket chacha key).length = 13 := by
  simp [floodPacket, maskSegment, nonceLen]

theorem fill_replicate (h : overwrite slot data = data) (n : Nat) (wireMeta : RecvMeta) :
    fill (List.replicate n (data, wireMeta)) (List.replicate n slot) =
      List.replicate n data := by
  induction n with
  | zero => rfl
  | succ n ih => simp [List.replicate_succ, fill, h, ih]

theorem Flat.flooded (chacha : ChaCha20) (h : Flat n socket) :
    Flooded chacha n
      (socket.deliver (List.replicate n (floodPacket chacha socket.recvKey, floodMeta))) where
  slots := by
    have hlen := length_floodPacket chacha socket.recvKey
    have hover : overwrite (List.replicate 13 0) (floodPacket chacha socket.recvKey) =
        floodPacket chacha socket.recvKey := by
      simp [overwrite, List.drop_eq_nil_of_le, hlen, List.take_of_length_le]
    simp only [deliver, h.slots, fill_replicate hover]
  metas := by simp [deliver, h.metas, List.drop_eq_nil_of_le]

theorem Flooded.takeSlot (h : Flooded chacha n socket) (hi : i < n)
    (metas : List RecvMeta) (count : Nat) :
    socket.takeSlot chacha ⟨List.replicate b [0], metas, count⟩ i =
      if count < b ∧ count < metas.length then
        some ⟨List.replicate b [0], metas.set count { floodMeta with len := 1, stride := 1 },
          count + 1⟩
      else none := by
  have hmeta : socket.recvMetas[i]? = some floodMeta := by simp [h.metas, hi]
  have hslot : socket.recvSlots[i]? = some (floodPacket chacha socket.recvKey) := by
    simp [h.slots, hi]
  have hlen := length_floodPacket chacha socket.recvKey
  have htake : (floodPacket chacha socket.recvKey).take floodMeta.len =
      floodPacket chacha socket.recvKey := List.take_of_length_le (by simp [hlen, floodMeta])
  have hwire : ¬(floodPacket chacha socket.recvKey = [] ∨ floodMeta.stride ≤ udpOverhead) := by
    rintro (hnil | hstride)
    · simp [hnil] at hlen
    · simp [floodMeta, udpOverhead, nonceLen] at hstride
  have hkept : socket.keptSegments chacha (floodPacket chacha socket.recvKey) floodMeta.stride =
      [[0]] := by
    have hone : socket.keptSegments chacha [floodPacket chacha socket.recvKey].flatten
        (1 + udpOverhead) = kept socket.serverFilter socket.supportedVersions [[0]] :=
      keptSegments_masked Nat.one_pos (.last (by simp) (by simp))
        (.cons ⟨List.replicate nonceLen 0, by simp, rfl⟩ .nil)
    have hsupported : supportedQuicPacket socket.supportedVersions [0] = true := by
      simp [supportedQuicPacket]
    simpa [kept, hsupported, floodMeta, udpOverhead, nonceLen] using hone
  simp only [MaskedUdpSocket.takeSlot, hmeta, hslot, Option.bind_eq_bind, Option.bind_some, htake,
    if_neg hwire, hkept]
  by_cases hb : count < b
  · by_cases hm : count < metas.length
    · simp [hb, hm, overwrite, floodMeta, udpOverhead, nonceLen, List.set_replicate_self]
    · simp [hb, hm]
  · simp [hb]

theorem Flooded.takeSlots (h : Flooded chacha n socket) (hk : k ≤ n) (metas : List RecvMeta) :
    (k ≤ min b metas.length → ∃ metas',
      (List.range k).foldlM (socket.takeSlot chacha) ⟨List.replicate b [0], metas, 0⟩ =
        some ⟨List.replicate b [0], metas', k⟩ ∧ metas'.length = metas.length) ∧
    (min b metas.length < k →
      (List.range k).foldlM (socket.takeSlot chacha) ⟨List.replicate b [0], metas, 0⟩ = none) := by
  induction k with
  | zero => exact ⟨fun _ => ⟨metas, rfl, rfl⟩, fun hlt => absurd hlt (Nat.not_lt_zero _)⟩
  | succ k ih =>
    obtain ⟨hsome, hnone⟩ := ih (by omega)
    rw [List.range_succ, List.foldlM_append]
    constructor
    · intro hle
      obtain ⟨metas', hfold, hlen⟩ := hsome (by omega)
      have hin : k < b ∧ k < metas'.length := by omega
      simp only [hfold, List.foldlM_cons, List.foldlM_nil, Option.bind_eq_bind, Option.bind_some,
        h.takeSlot (Nat.lt_of_succ_le hk), if_pos hin]
      exact ⟨_, rfl, by simpa using hlen⟩
    · intro hlt
      obtain hlt | heq := Nat.lt_or_eq_of_le (Nat.lt_succ_iff.mp hlt)
      · simp [hnone hlt]
      · obtain ⟨metas', hfold, hlen⟩ := hsome (by omega)
        have hout : ¬(k < b ∧ k < metas'.length) := by omega
        simp only [hfold, List.foldlM_cons, List.foldlM_nil, Option.bind_eq_bind, Option.bind_some,
          h.takeSlot (Nat.lt_of_succ_le hk), if_neg hout]
        rfl

theorem Flat.flood_panics (chacha : ChaCha20) (h : Flat n socket) (lens : SliceLens)
    (hroom : min lens.bufs lens.metas < max n lens.bufs) :
    (socket.pollRecv chacha
      (floodCall chacha socket.recvKey (max n lens.bufs) lens)).2.result = .panicked := by
  have hflooded := (h.grow lens.bufs).flooded chacha
  have hnone := (hflooded.takeSlots (b := lens.bufs) le_rfl
    (List.replicate lens.metas .unset)).2 (by simpa using hroom)
  simp only [pollRecv, floodCall, quietCall, pollLoop, h.poisoned, List.replicate_eq_nil_iff,
    lens.bufs_pos.ne', lens.metas_pos.ne', or_self, if_false, Bool.false_eq_true,
    List.length_replicate, Nat.max_self]
  rw [show (socket.grow 1 (List.replicate lens.bufs [0])).recvKey = socket.recvKey from rfl]
    at hnone
  rw [hnone]

theorem along_quietCalls (chacha : ChaCha20) (socket : MaskedUdpSocket) (lens : List SliceLens) :
    Along (recvStep chacha) Honest socket (lens.map quietCall) := by
  induction lens generalizing socket with
  | nil => trivial
  | cons l lens ih => exact ⟨by simp [Honest, quietCall], ih _⟩

theorem forall₂_quietCalls (lens : List SliceLens) :
    List.Forall₂ HasLens (lens.map quietCall) lens := by
  induction lens with
  | nil => exact .nil
  | cons l lens ih => exact .cons ⟨List.length_replicate, List.length_replicate⟩ ih

theorem Flat.ordered {lens : List SliceLens} (h : Flat n socket)
    (hall : ∀ calls, List.Forall₂ HasLens calls lens →
      Along (recvStep chacha) Honest socket calls →
      ∀ entry ∈ (run (recvStep chacha) socket calls).2, InBounds entry) :
    (∀ l ∈ lens, n ≤ l.bufs) ∧ lens.Pairwise (fun l l' => l.bufs ≤ l'.bufs) ∧
      ∀ l ∈ lens, l.bufs ≤ l.metas := by
  induction lens generalizing n socket with
  | nil => simp
  | cons l lens ih =>
    -- a flood in the first call: there is room for it
    have hroom : max n l.bufs ≤ min l.bufs l.metas := by
      by_contra hnot
      have hpanics := h.flood_panics chacha l (by omega)
      refine (hall (floodCall chacha socket.recvKey (max n l.bufs) l :: lens.map quietCall)
        (.cons ⟨List.length_replicate, List.length_replicate⟩ (forall₂_quietCalls lens))
        ⟨?_, along_quietCalls chacha _ lens⟩ _ List.mem_cons_self).1 hpanics
      have hslots := (h.grow l.bufs).slots
      simp [Honest, floodCall, quietCall, hslots, le_total]
    -- nothing in the first call, whatever in the others
    obtain ⟨hslots, hordered, hmetas⟩ :=
      ih (h.quiet chacha l) fun calls hcalls hhonest entry hmem =>
        hall (quietCall l :: calls) (.cons ⟨List.length_replicate, List.length_replicate⟩ hcalls)
          ⟨by simp [Honest, quietCall], hhonest⟩ entry (List.mem_cons_of_mem _ hmem)
    refine ⟨List.forall_mem_cons.mpr ⟨by omega, fun l' hmem => ?_⟩,
      List.pairwise_cons.mpr ⟨fun l' hmem => ?_, hordered⟩,
      List.forall_mem_cons.mpr ⟨by omega, hmetas⟩⟩
    · have := hslots l' hmem
      omega
    · have := hslots l' hmem
      omega

/-- Calls stay inside their slices exactly if there is room for as many datagrams as some call so
far had buffers. -/
theorem calls_in_bounds_iff (chacha : ChaCha20) (keys : MaskKeys) (versions : List Nat)
    (seeds : Nat → Bytes) (role : UdpRole) (lens : List SliceLens) :
    (∀ calls, List.Forall₂ HasLens calls lens →
      Along (recvStep chacha) Honest (new keys versions seeds role) calls →
      ∀ entry ∈ (run (recvStep chacha) (new keys versions seeds role) calls).2, InBounds entry) ↔
    lens.Pairwise (fun l l' => l.bufs ≤ l'.bufs) ∧ ∀ l ∈ lens, l.bufs ≤ l.metas := by
  have hnew : Flat 0 (new keys versions seeds role) := ⟨rfl, rfl, rfl⟩
  constructor
  · intro hall
    exact (hnew.ordered hall).2
  · rintro ⟨hordered, hroom⟩ calls hcalls hhonest
    exact run_inBounds hcalls hhonest rfl rfl (fun _ _ => Nat.zero_le _) hordered hroom

/-- Two buffers, then one, for which two datagrams are reported. -/
theorem second_call_panics :
    let lens : List SliceLens := [⟨2, 2, by decide, by decide⟩, ⟨1, 1, by decide, by decide⟩]
    let calls := [quietCall ⟨2, 2, by decide, by decide⟩,
      floodCall .ones [2] 2 ⟨1, 1, by decide, by decide⟩]
    List.Forall₂ HasLens calls lens ∧
    Along (recvStep .ones) Honest (new sampleKeys [1] sampleSeeds .client) calls ∧
    ((run (recvStep .ones) (new sampleKeys [1] sampleSeeds .client) calls).2.map (·.2.result)) =
      [.pending, .panicked] := by
  refine ⟨.cons ⟨rfl, rfl⟩ (.cons ⟨rfl, rfl⟩ .nil), ⟨?_, ?_, trivial⟩, by decide⟩
  · simp [Honest, quietCall]
  · simp [Honest, floodCall, quietCall, recvStep, pollRecv, pollLoop, grow, growSlots, new]

end MaskedUdpSocket

end UncrownedKing.Mask
