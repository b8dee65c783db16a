import UncrownedKing.Lib.Wire
import Mathlib.Data.BitVec

/-!
# Bits laid out in bytes

A layout says in which byte, and at which bit of it, each bit of a bit string
stands.
-/

namespace UncrownedKing.Lib

def boolByte (b : Bool) : UInt8 := if b then 1 else 0

theorem byte_ext {x y : UInt8} (h : ∀ q < 8, x.toBitVec.getLsbD q = y.toBitVec.getLsbD q) :
    x = y :=
  UInt8.toBitVec_inj.mp (BitVec.eq_of_getLsbD_eq h)

theorem toNat_shift_amount (hp : p < 8) : ((UInt8.ofNat p).toBitVec % 8).toNat = p := by
  rw [BitVec.toNat_umod]
  simp
  omega

theorem getLsbD_shiftLeft (x : UInt8) (hp : p < 8) (q : Nat) :
    (x <<< UInt8.ofNat p).toBitVec.getLsbD q =
      (decide (q < 8) && !decide (q < p) && x.toBitVec.getLsbD (q - p)) := by
  rw [UInt8.toBitVec_shiftLeft, BitVec.shiftLeft_eq', toNat_shift_amount hp,
    BitVec.getLsbD_shiftLeft]

theorem getLsbD_shiftRight (x : UInt8) (hp : p < 8) (q : Nat) :
    (x >>> UInt8.ofNat p).toBitVec.getLsbD q = x.toBitVec.getLsbD (p + q) := by
  rw [UInt8.toBitVec_shiftRight, BitVec.ushiftRight_eq', toNat_shift_amount hp,
    BitVec.getLsbD_ushiftRight]

theorem getLsbD_boolByte (b : Bool) (q : Nat) :
    (boolByte b).toBitVec.getLsbD q = (decide (q = 0) && b) := by
  cases b <;> simp [boolByte, BitVec.getLsbD_one]

theorem shiftRight_and_one (x : UInt8) (hp : p < 8) :
    (x >>> UInt8.ofNat p) &&& 1 = boolByte (x.toBitVec.getLsbD p) := by
  apply byte_ext
  intro q _
  rw [UInt8.toBitVec_and, BitVec.getLsbD_and, getLsbD_shiftRight x hp, getLsbD_boolByte]
  cases q <;> simp [BitVec.getLsbD_one]

theorem shiftRight_and_high (x : UInt8) (hp : p < 8) :
    (x &&& 0x80) >>> UInt8.ofNat (7 - p) = boolByte (x.toBitVec.getLsbD 7) <<< UInt8.ofNat p := by
  have hhigh : (0x80 : UInt8) = boolByte true <<< UInt8.ofNat 7 := rfl
  apply byte_ext
  intro q hq
  rw [getLsbD_shiftRight _ (by omega), getLsbD_shiftLeft _ hp, getLsbD_boolByte,
    UInt8.toBitVec_and, BitVec.getLsbD_and, hhigh, getLsbD_shiftLeft _ (by omega),
    getLsbD_boolByte]
  grind

theorem getLsbD_or_bit (x : UInt8) (b : Bool) (hp : p < 8) (hq : q < 8) :
    (x ||| (boolByte b <<< UInt8.ofNat p)).toBitVec.getLsbD q =
      if q = p then x.toBitVec.getLsbD q || b else x.toBitVec.getLsbD q := by
  rw [UInt8.toBitVec_or, BitVec.getLsbD_or, getLsbD_shiftLeft _ hp, getLsbD_boolByte]
  grind

theorem getLsbD_put_bit (x : UInt8) (b : Bool) (hp : p < 8) (hq : q < 8) :
    ((x &&& ~~~((1 : UInt8) <<< UInt8.ofNat p)) ||| (boolByte b <<< UInt8.ofNat p)).toBitVec.getLsbD
        q = if q = p then b else x.toBitVec.getLsbD q := by
  have hone : (1 : UInt8) = boolByte true := rfl
  rw [getLsbD_or_bit _ b hp hq, UInt8.toBitVec_and, BitVec.getLsbD_and, UInt8.toBitVec_not,
    BitVec.getLsbD_not, hone, getLsbD_shiftLeft _ hp, getLsbD_boolByte]
  by_cases heq : q = p
  · simp [heq]
  · have hother : q < p ∨ q - p ≠ 0 := by omega
    rcases hother with hlt | hne
    · simp [heq, hq, hlt]
    · simp [heq, hq, hne]

abbrev BitPlace := Nat × Nat

def bitAt (l : Bytes) (place : BitPlace) : Bool := (l.getD place.1 0).toBitVec.getLsbD place.2

/-- Where the bits of a value go, no two to one place. -/
structure BitLayout where
  place : Nat → BitPlace
  bit_lt : ∀ k, (place k).2 < 8
  injective : Function.Injective place

namespace BitLayout

def grouped (w : Nat) (hpos : 0 < w) (hle : w ≤ 8) : BitLayout where
  place k := (k / w, w - 1 - k % w)
  bit_lt := fun k => by
    dsimp only
    omega
  injective := fun j k h => by
    obtain ⟨hbyte, hbit⟩ := Prod.mk.inj h
    have hj := Nat.mod_lt j hpos
    have hk := Nat.mod_lt k hpos
    rw [← Nat.div_add_mod j w, ← Nat.div_add_mod k w, hbyte]
    omega

def reversed : BitLayout where
  place k := (k / 8, k % 8)
  bit_lt := fun k => Nat.mod_lt k (by decide)
  injective := fun j k h => by
    obtain ⟨hbyte, hbit⟩ := Prod.mk.inj h
    rw [← Nat.div_add_mod j 8, ← Nat.div_add_mod k 8, hbyte, hbit]

def bit (layout : BitLayout) (l : Bytes) (k : Nat) : Bool := bitAt l (layout.place k)

theorem grouped_place {hpos : 0 < w} {hle : w ≤ 8} (i : Nat) (hq : q < w) :
    (grouped w hpos hle).place (w * i + (w - 1 - q)) = (i, q) := by
  have hlt : w - 1 - q < w := by omega
  have hdiv : (w * i + (w - 1 - q)) / w = i := by
    rw [Nat.mul_add_div hpos, Nat.div_eq_of_lt hlt, Nat.add_zero]
  have hmod : (w * i + (w - 1 - q)) % w = w - 1 - q := by
    rw [Nat.mul_add_mod, Nat.mod_eq_of_lt hlt]
  simp only [grouped, hdiv, hmod, Prod.mk.injEq, true_and]
  omega

end BitLayout

theorem bytes_ext {l l' : Bytes} (hlen : l.length = l'.length)
    (h : ∀ i < l.length, ∀ q < 8, bitAt l (i, q) = bitAt l' (i, q)) : l = l' := by
  refine List.ext_getElem hlen fun i hi hi' => byte_ext fun q hq => ?_
  have hbit := h i hi q hq
  simpa only [bitAt, List.getD_eq_getElem?_getD, List.getElem?_eq_getElem hi,
    List.getElem?_eq_getElem hi', Option.getD_some] using hbit

theorem bitAt_modify {l : Bytes} (hi : i < l.length) {g : UInt8 → UInt8} {f : Bool → Bool}
    (hg : ∀ x q, q < 8 → (g x).toBitVec.getLsbD q =
      if q = p then f (x.toBitVec.getLsbD q) else x.toBitVec.getLsbD q)
    (place : BitPlace) (hplace : place.2 < 8) :
    bitAt (l.modify i g) place = if place = (i, p) then f (bitAt l place) else bitAt l place := by
  obtain ⟨j, q⟩ := place
  simp only [bitAt, List.getD_eq_getElem?_getD, List.getElem?_modify, Prod.mk.injEq]
  by_cases hj : j = i
  · subst hj
    simp [List.getElem?_eq_getElem hi, hg _ q hplace]
  · simp [hj, Ne.symm hj]

theorem bitAt_foldl_modify (layout : BitLayout) (g : Nat → UInt8 → UInt8)
    (f : Nat → Bool → Bool)
    (hg : ∀ k x q, q < 8 → (g k x).toBitVec.getLsbD q =
      if q = (layout.place k).2 then f k (x.toBitVec.getLsbD q) else x.toBitVec.getLsbD q)
    (l : Bytes) (n : Nat) (hn : ∀ k < n, (layout.place k).1 < l.length) :
    let done := (List.range n).foldl (fun l k => l.modify (layout.place k).1 (g k)) l
    done.length = l.length ∧ (∀ k < n, layout.bit done k = f k (layout.bit l k)) ∧
      ∀ place : BitPlace, place.2 < 8 → (∀ k < n, place ≠ layout.place k) →
        bitAt done place = bitAt l place := by
  intro done
  induction n with
  | zero => exact ⟨rfl, fun _ h => absurd h (Nat.not_lt_zero _), fun _ _ _ => rfl⟩
  | succ n ih =>
    obtain ⟨hlen, hdone, hother⟩ := ih fun k hk => hn k (Nat.lt_succ_of_lt hk)
    simp only [done, List.range_succ, List.foldl_append, List.foldl_cons, List.foldl_nil]
    have hlast := bitAt_modify (hlen ▸ hn n (Nat.lt_succ_self n)) (hg n)
    refine ⟨(List.length_modify _ _ _).trans hlen, ?_, ?_⟩
    · intro k hk
      rw [BitLayout.bit, hlast _ (layout.bit_lt k)]
      by_cases heq : k = n
      · subst heq
        rw [if_pos rfl, hother _ (layout.bit_lt k)]
        · rfl
        · intro j hj hplace
          exact absurd (layout.injective hplace) (Nat.ne_of_gt hj)
      · rw [if_neg fun hplace => heq (layout.injective hplace)]
        exact hdone k (by omega)
    · intro place hplace hnone
      rw [hlast place hplace, if_neg (hnone n (Nat.lt_succ_self n))]
      exact hother place hplace fun k hk => hnone k (Nat.lt_succ_of_lt hk)

theorem bitAt_replicate_zero (n : Nat) (place : BitPlace) :
    bitAt (List.replicate n 0) place = false := by
  by_cases h : place.1 < n <;> simp [bitAt, h]

def BitLayout.pack (layout : BitLayout) (len n : Nat) (bits : Nat → Bool) : Bytes :=
  (List.range n).foldl
    (fun packed k => packed.modify (layout.place k).1 fun acc =>
      acc ||| (boolByte (bits k) <<< UInt8.ofNat (layout.place k).2))
    (List.replicate len 0)

theorem BitLayout.bit_pack (layout : BitLayout) {len n : Nat} (bits : Nat → Bool)
    (hn : ∀ k < n, (layout.place k).1 < len) :
    (layout.pack len n bits).length = len ∧
      ∀ k < n, layout.bit (layout.pack len n bits) k = bits k := by
  obtain ⟨hlength, hbits, -⟩ := bitAt_foldl_modify layout
    (fun k acc => acc ||| (boolByte (bits k) <<< UInt8.ofNat (layout.place k).2))
    (fun k old => old || bits k)
    (fun k x q hq => getLsbD_or_bit x _ (layout.bit_lt k) hq)
    (List.replicate len 0) n
    (fun k hk => by simpa using hn k hk)
  refine ⟨hlength.trans List.length_replicate, fun k hk => (hbits k hk).trans ?_⟩
  rw [BitLayout.bit, bitAt_replicate_zero, Bool.false_or]

end UncrownedKing.Lib
