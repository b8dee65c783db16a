import Mathlib.Data.Nat.Basic

/-!
# Bitmaps

A set of small numbers as an array of machine words.
-/

namespace UncrownedKing.Lib

abbrev Bitmap (w n : Nat) := Vector (BitVec w) n

namespace Bitmap

def empty (w n : Nat) : Bitmap w n := .replicate n 0#w

def test (b : Bitmap w n) (i : Nat) : Bool := (b.getD (i / w) 0#w &&& (1#w <<< (i % w))) != 0#w

def set (b : Bitmap w n) (i : Nat) : Bitmap w n :=
  b.setIfInBounds (i / w) (b.getD (i / w) 0#w ||| (1#w <<< (i % w)))

theorem and_one_shiftLeft_ne_zero (word : BitVec w) (h : i < w) :
    ((word &&& (1#w <<< i)) != 0#w) = word.getLsbD i := by
  cases hbit : word.getLsbD i with
  | true =>
    have hne : word &&& (1#w <<< i) ≠ 0#w := by
      intro hz
      have hword : word[i] = false := by simpa [h] using congrArg (·.getLsbD i) hz
      rw [← BitVec.getLsbD_eq_getElem h, hbit] at hword
      cases hword
    simpa using hne
  | false =>
    have hz : word &&& (1#w <<< i) = 0#w := by
      apply BitVec.eq_of_getLsbD_eq
      intro j hj
      by_cases hji : j = i
      · subst hji
        simp [hbit]
      · simp [hj]
        omega
    simp [hz]

theorem test_eq (b : Bitmap w n) (hw : 0 < w) (i : Nat) :
    b.test i = (b.getD (i / w) 0#w).getLsbD (i % w) :=
  and_one_shiftLeft_ne_zero _ (Nat.mod_lt i hw)

@[simp] theorem test_empty (i : Nat) : (empty w n).test i = false := by
  have hword : (empty w n).getD (i / w) 0#w = 0#w := by
    by_cases h : i / w < n
    · simp [empty, Vector.getD, h]
    · simp [empty, Vector.getD, h]
  simp [test, hword]

theorem test_set (b : Bitmap w n) (hi : i < w * n) (j : Nat) :
    (b.set i).test j = (decide (j = i) || b.test j) := by
  have hw : 0 < w := Nat.pos_of_mul_pos_right (Nat.zero_lt_of_lt hi)
  have hword : i / w < n := Nat.div_lt_of_lt_mul hi
  have hbit : i % w < w := Nat.mod_lt i hw
  rw [test_eq _ hw, test_eq _ hw]
  by_cases hsame : j / w = i / w
  · have hset : (b.set i).getD (j / w) 0#w = b.getD (j / w) 0#w ||| (1#w <<< (i % w)) := by
      simp [set, Vector.getD, hsame, hword]
    have hmod : j % w = i % w ↔ j = i := by
      constructor
      · intro hm
        rw [← Nat.div_add_mod j w, ← Nat.div_add_mod i w, hsame, hm]
      · rintro rfl
        rfl
    rw [hset, BitVec.getLsbD_or]
    by_cases hji : j = i
    · simp [hji, hbit]
    · have hne : j % w ≠ i % w := mt hmod.mp hji
      simp [hji]
      omega
  · have hset : (b.set i).getD (j / w) 0#w = b.getD (j / w) 0#w := by
      simp [set, Vector.getD, Ne.symm hsame]
    have hji : j ≠ i := fun h => hsame (by rw [h])
    rw [hset]
    simp [hji]

theorem test_foldl_set (p : Nat → Bool) (b : Bitmap w n) (hm : m ≤ w * n) (j : Nat) :
    ((List.range m).foldl (fun b i => if p i then b.set i else b) b).test j =
      (b.test j || (decide (j < m) && p j)) := by
  induction m with
  | zero => simp
  | succ m ih =>
    rw [List.range_succ, List.foldl_append, List.foldl_cons, List.foldl_nil]
    have hprev := ih (Nat.le_of_succ_le hm)
    split
    · rename_i hp
      rw [test_set _ (Nat.lt_of_succ_le hm), hprev]
      by_cases hj : j = m
      · simp [hj, hp]
      · have : j < m + 1 ↔ j < m := by omega
        simp [hj, this]
    · rename_i hp
      rw [hprev]
      by_cases hj : j = m
      · simp [hj, hp]
      · have : j < m + 1 ↔ j < m := by omega
        simp [this]

end Bitmap

end UncrownedKing.Lib
