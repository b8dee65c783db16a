import UncrownedKing.Lib.Wire

/-!
# Masking with a keystream

Bytes combined with the bytes of a keystream, from an offset of it on.
-/

namespace UncrownedKing.Lib

def maskAt (keystream : Nat → UInt8) : Nat → Bytes → Bytes
  | _, [] => []
  | offset, b :: rest => (b ^^^ keystream offset) :: maskAt keystream (offset + 1) rest

variable {keystream : Nat → UInt8}

@[simp] theorem length_maskAt : (maskAt keystream offset data).length = data.length := by
  induction data generalizing offset with
  | nil => rfl
  | cons b rest ih => simp [maskAt, ih]

theorem maskAt_append (first second : Bytes) :
    maskAt keystream offset (first ++ second) =
      maskAt keystream offset first ++ maskAt keystream (offset + first.length) second := by
  induction first generalizing offset with
  | nil => rfl
  | cons b rest ih => simp [maskAt, ih, Nat.add_assoc, Nat.add_comm 1]

theorem maskAt_take (n : Nat) (data : Bytes) :
    (maskAt keystream offset data).take n = maskAt keystream offset (data.take n) := by
  induction data generalizing offset n with
  | nil => simp [maskAt]
  | cons b rest ih =>
    cases n with
    | zero => rfl
    | succ n => simp [maskAt, ih]

theorem maskAt_map_range (f : Nat → UInt8) (n : Nat) :
    maskAt keystream offset ((List.range n).map f) =
      (List.range n).map fun i => f i ^^^ keystream (offset + i) := by
  induction n with
  | zero => rfl
  | succ n ih => simp [List.range_succ, maskAt_append, ih, maskAt]

@[simp] theorem maskAt_maskAt (data : Bytes) :
    maskAt keystream offset (maskAt keystream offset data) = data := by
  induction data generalizing offset with
  | nil => rfl
  | cons b rest ih => rw [maskAt, maskAt, ih, UInt8.xor_assoc, UInt8.xor_self, UInt8.xor_zero]

end UncrownedKing.Lib
