import Mathlib.Data.BitVec

/-!
# Masks of leading bits

The mask of a prefix length has that many leading ones.
-/

namespace UncrownedKing.Lib

def AgreeOn (n : Nat) (a b : BitVec w) : Prop := ∀ i < min n w, a.getMsbD i = b.getMsbD i

def prefixMask (w n : Nat) : BitVec w := BitVec.allOnes w <<< (w - n)

theorem prefixMask_zero (w : Nat) : prefixMask w 0 = 0 := by
  rw [prefixMask, Nat.sub_zero, BitVec.shiftLeft_eq_zero (Nat.le_refl w)]
  rfl

theorem prefixMask_of_le (h : w ≤ n) : prefixMask w n = BitVec.allOnes w := by
  rw [prefixMask, Nat.sub_eq_zero_of_le h, BitVec.shiftLeft_zero]

theorem getMsbD_prefixMask (hi : i < w) : (prefixMask w n).getMsbD i = decide (i < n) := by
  rw [prefixMask, BitVec.getMsbD_shiftLeft, BitVec.getMsbD_allOnes, decide_eq_decide]
  omega

theorem and_prefixMask_eq_iff {a b : BitVec w} :
    a &&& prefixMask w n = b &&& prefixMask w n ↔ AgreeOn n a b := by
  constructor
  · intro h i hi
    obtain ⟨hn, hw⟩ := Nat.lt_min.mp hi
    have hbit := congrArg (BitVec.getMsbD · i) h
    simpa [getMsbD_prefixMask hw, hn] using hbit
  · intro h
    apply BitVec.eq_of_getMsbD_eq
    intro i hw
    rw [BitVec.getMsbD_and, BitVec.getMsbD_and, getMsbD_prefixMask hw]
    by_cases hn : i < n
    · rw [h i (Nat.lt_min.mpr ⟨hn, hw⟩)]
    · simp [hn]

end UncrownedKing.Lib
