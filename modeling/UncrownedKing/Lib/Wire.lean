import Mathlib.Data.List.Basic
import Mathlib.Data.Vector.Basic
import Mathlib.Tactic.Ring

/-!
# Big-endian numbers and self-delimiting encodings

`toBe` and `fromBe` are fixed-width integers. An encoder is `Delimited` when its
output can be cut off from what follows in one way only.
-/

namespace UncrownedKing.Lib

abbrev Bytes := List UInt8

def toBe : (width : Nat) → Nat → Bytes
  | 0, _ => []
  | width + 1, n => UInt8.ofNat (n / 256 ^ width) :: toBe width n

def fromBe : Bytes → Nat
  | [] => 0
  | b :: rest => b.toNat * 256 ^ rest.length + fromBe rest

@[simp] theorem length_toBe : (toBe width n).length = width := by
  induction width with
  | zero => rfl
  | succ width ih => simp [toBe, ih]

theorem fromBe_lt (l : Bytes) : fromBe l < 256 ^ l.length := by
  induction l with
  | nil => simp [fromBe]
  | cons b rest ih =>
    have hb : b.toNat + 1 ≤ 256 := b.toNat_lt
    calc fromBe (b :: rest) < (b.toNat + 1) * 256 ^ rest.length := by
          simp only [fromBe, Nat.add_mul, Nat.one_mul]; omega
      _ ≤ 256 * 256 ^ rest.length := Nat.mul_le_mul_right _ hb
      _ = 256 ^ (b :: rest).length := by rw [List.length_cons, Nat.pow_succ, Nat.mul_comm]

theorem fromBe_toBe_mod (width n : Nat) : fromBe (toBe width n) = n % 256 ^ width := by
  induction width with
  | zero => simp [toBe, fromBe, Nat.mod_one]
  | succ width ih =>
    have hb : (UInt8.ofNat (n / 256 ^ width)).toNat = n / 256 ^ width % 256 := by simp
    rw [toBe, fromBe, length_toBe, ih, hb, Nat.pow_succ, Nat.mod_mul]
    ring

theorem fromBe_toBe (h : n < 256 ^ width) : fromBe (toBe width n) = n := by
  rw [fromBe_toBe_mod, Nat.mod_eq_of_lt h]

theorem toBe_add_mul (width n k : Nat) : toBe width (k * 256 ^ width + n) = toBe width n := by
  induction width generalizing k with
  | zero => rfl
  | succ width ih =>
    have hsplit : k * 256 ^ (width + 1) + n = k * 256 * 256 ^ width + n := by
      rw [Nat.pow_succ]; ring
    have hdiv : (k * 256 * 256 ^ width + n) / 256 ^ width = n / 256 ^ width + 256 * k := by
      rw [Nat.add_comm, Nat.add_mul_div_right _ _ (Nat.pow_pos (by decide)), Nat.mul_comm k]
    simp only [toBe, hsplit, hdiv]
    congr 1
    · apply UInt8.toNat_inj.mp
      simp
    · exact ih (k * 256)

theorem toBe_fromBe (l : Bytes) : toBe l.length (fromBe l) = l := by
  induction l with
  | nil => rfl
  | cons b rest ih =>
    have hlt := fromBe_lt rest
    have hdiv : (b.toNat * 256 ^ rest.length + fromBe rest) / 256 ^ rest.length = b.toNat := by
      rw [Nat.add_comm, Nat.add_mul_div_right _ _ (Nat.pow_pos (by decide)),
        Nat.div_eq_of_lt hlt, Nat.zero_add]
    simp only [List.length_cons, toBe, fromBe, hdiv, toBe_add_mul, ih]
    simp

theorem toBe_append (h : m < 256 ^ b) (a n : Nat) :
    toBe (a + b) (n * 256 ^ b + m) = toBe a n ++ toBe b m := by
  induction a with
  | zero => simpa [toBe] using toBe_add_mul b m n
  | succ a ih =>
    have hdiv : (n * 256 ^ b + m) / 256 ^ (a + b) = n / 256 ^ a := by
      rw [Nat.add_comm a b, Nat.pow_add, ← Nat.div_div_eq_div_mul, Nat.mul_comm n,
        Nat.mul_add_div (Nat.pow_pos (by decide)), Nat.div_eq_of_lt h, Nat.add_zero]
    rw [Nat.add_right_comm, toBe, toBe, hdiv, ih, List.cons_append]

theorem bind_eq_ok {x : Except ε α} {f : α → Except ε β} :
    (x >>= f) = .ok b ↔ ∃ a, x = .ok a ∧ f a = .ok b := by
  cases x with
  | error e =>
    constructor
    · rintro ⟨⟩
    · rintro ⟨_, ⟨⟩, _⟩
  | ok a =>
    constructor
    · exact fun h => ⟨a, rfl, h⟩
    · rintro ⟨_, ⟨⟩, hf⟩
      exact hf

theorem toOption_eq_some {x : Except ε α} : x.toOption = some a ↔ x = .ok a := by
  cases x <;> simp [Except.toOption]

/-- An encoding and what follows it determine the value and the rest. -/
def Delimited (enc : α → Except ε (List β)) : Prop :=
  ∀ ⦃a b x y r s⦄, enc a = .ok x → enc b = .ok y → x ++ r = y ++ s → a = b ∧ r = s

theorem Delimited.of_decode {enc : α → Except ε (List β)}
    {dec : List β → Except δ (α × List β)}
    (h : ∀ a x r, enc a = .ok x → dec (x ++ r) = .ok (a, r)) : Delimited enc := by
  intro a b x y r s ha hb heq
  have hd := h a x r ha
  rw [heq, h b y s hb] at hd
  injection hd with hd
  injection hd with h1 h2
  exact ⟨h1.symm, h2.symm⟩

theorem Delimited.of_length {enc : α → Except ε (List β)} (width : Nat)
    (hlen : ∀ a x, enc a = .ok x → x.length = width)
    (hinj : ∀ a b x, enc a = .ok x → enc b = .ok x → a = b) : Delimited enc := by
  intro a b x y r s ha hb heq
  have hxy : x.length = y.length := by rw [hlen a x ha, hlen b y hb]
  obtain ⟨rfl, hrs⟩ := List.append_inj heq hxy
  exact ⟨hinj a b x ha hb, hrs⟩

theorem Delimited.lengthPrefixed {enc : Nat → Except ε (List β)} (h : Delimited enc) :
    Delimited fun l : List β => (· ++ l) <$> enc l.length := by
  intro a b x y r s ha hb heq
  cases hea : enc a.length with
  | error e => simp [hea] at ha
  | ok p =>
    cases heb : enc b.length with
    | error e => simp [heb] at hb
    | ok q =>
      simp only [hea, heb, Except.map_ok, Except.ok.injEq] at ha hb
      subst ha hb
      rw [List.append_assoc, List.append_assoc] at heq
      obtain ⟨hlen, hrest⟩ := h hea heb heq
      exact List.append_inj hrest hlen

end UncrownedKing.Lib
