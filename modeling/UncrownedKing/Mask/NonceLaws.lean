import UncrownedKing.Mask.Udp

/-!
# What nonces are made of

A refill applies the keystream to the buffer as the last one left it, so the
blocks of all refills add up in it.
-/

namespace UncrownedKing.Mask

open Lib

def ChaCha20.ones : ChaCha20 := ⟨fun _ _ _ => 1, streamLimit, le_rfl⟩

namespace NonceGenerator

def noncesPerRefill : Nat := nonceBufferLen / nonceLen

def refillsPerSeed : Nat := nonceReseedBytes / nonceBufferLen

def noncesPerSeed : Nat := noncesPerRefill * refillsPerSeed

def sliceOffset (i : Nat) : Nat :=
  nonceBufferLen * (i / noncesPerRefill) + nonceLen * (i % noncesPerRefill)

def keystreamSlice (chacha : ChaCha20) (seed : Bytes) (offset : Nat) : Bytes :=
  (List.range nonceLen).map fun t =>
    chacha.keystream seed (List.replicate nonceLen 0) (offset + t)

def blockByte (chacha : ChaCha20) (seeds : Nat → Bytes) (r j : Nat) : UInt8 :=
  chacha.keystream (seeds (r / refillsPerSeed)) (List.replicate nonceLen 0)
    (nonceBufferLen * (r % refillsPerSeed) + j)

def residue (chacha : ChaCha20) (seeds : Nat → Bytes) : (r j : Nat) → UInt8
  | 0, _ => 0
  | r + 1, j => residue chacha seeds r j ^^^ blockByte chacha seeds r j

def after (chacha : ChaCha20) (seeds : Nat → Bytes) : (n : Nat) → Option NonceGenerator
  | 0 => some (new seeds)
  | n + 1 => (after chacha seeds n).bind fun gen => (gen.next chacha seeds).map (·.2)

def nonce (chacha : ChaCha20) (seeds : Nat → Bytes) (n : Nat) : Option Bytes :=
  (after chacha seeds n).bind fun gen => (gen.next chacha seeds).map (·.1)

def due (chacha : ChaCha20) (seeds : Nat → Bytes) (r position : Nat) : NonceGenerator where
  cipher :=
    ⟨seeds (r / refillsPerSeed), List.replicate nonceLen 0, nonceBufferLen * (r % refillsPerSeed)⟩
  buffer := (List.range nonceBufferLen).map (residue chacha seeds r)
  position := position
  generated := nonceBufferLen * (r % refillsPerSeed)
  reseeds := r / refillsPerSeed

def filled (chacha : ChaCha20) (seeds : Nat → Bytes) (r position : Nat) : NonceGenerator where
  cipher :=
    ⟨seeds (r / refillsPerSeed), List.replicate nonceLen 0,
      nonceBufferLen * (r % refillsPerSeed + 1)⟩
  buffer := (List.range nonceBufferLen).map (residue chacha seeds (r + 1))
  position := position
  generated := nonceBufferLen * (r % refillsPerSeed + 1)
  reseeds := r / refillsPerSeed

variable {chacha : ChaCha20} {seeds : Nat → Bytes}

theorem block_le_reseed (r : Nat) :
    nonceBufferLen * (r % refillsPerSeed + 1) ≤ nonceReseedBytes := by
  have hlt : r % refillsPerSeed < refillsPerSeed := Nat.mod_lt _ (by decide)
  calc nonceBufferLen * (r % refillsPerSeed + 1)
      ≤ nonceBufferLen * refillsPerSeed := Nat.mul_le_mul_left _ hlt
    _ = nonceReseedBytes := by decide

theorem refill_due {gen : NonceGenerator} (p : Nat)
    (h : gen.reseedIfDue seeds = due chacha seeds r p) :
    gen.refill chacha seeds = some (filled chacha seeds r 0) := by
  have hcapacity : nonceBufferLen * (r % refillsPerSeed) + nonceBufferLen ≤ chacha.capacity := by
    have hreseed : nonceReseedBytes ≤ streamLimit := by decide
    exact (block_le_reseed r).trans (hreseed.trans chacha.covers)
  simp only [refill, h, due, Cipher.tryApplyKeystream, List.length_map, List.length_range,
    if_pos hcapacity, Option.map_some, maskAt_map_range]
  rfl

theorem refill_new (chacha : ChaCha20) (seeds : Nat → Bytes) :
    (new seeds).refill chacha seeds = some (filled chacha seeds 0 0) := by
  refine refill_due nonceBufferLen ?_
  have hdue : (new seeds).reseedIfDue seeds = new seeds := rfl
  have hzero : (List.range nonceBufferLen).map (residue chacha seeds 0) =
      List.replicate nonceBufferLen 0 := by
    simp [residue, List.map_const']
  rw [hdue, due, hzero]
  rfl

theorem refill_filled (r position : Nat) :
    (filled chacha seeds r position).refill chacha seeds =
      some (filled chacha seeds (r + 1) 0) := by
  have hpos : 0 < refillsPerSeed := by decide
  have hfull : nonceBufferLen * refillsPerSeed = nonceReseedBytes := by decide
  have hlt := Nat.mod_lt r hpos
  refine refill_due position ?_
  by_cases hlast : r % refillsPerSeed + 1 = refillsPerSeed
  · -- the seed is used up
    have hmod : (r + 1) % refillsPerSeed = 0 := by
      rw [Nat.add_mod, Nat.mod_eq_of_lt (a := 1) (by decide), hlast, Nat.mod_self]
    have hdiv : (r + 1) / refillsPerSeed = r / refillsPerSeed + 1 :=
      Nat.succ_div_of_mod_eq_zero hmod
    rw [reseedIfDue, if_pos (by simp [filled, hlast, hfull])]
    simp [filled, due, seeded, hmod, hdiv]
  · have hmod : (r + 1) % refillsPerSeed = r % refillsPerSeed + 1 := by
      rw [Nat.add_mod, Nat.mod_eq_of_lt (a := 1) (by decide), Nat.mod_eq_of_lt (by omega)]
    have hdiv : (r + 1) / refillsPerSeed = r / refillsPerSeed :=
      Nat.succ_div_of_mod_ne_zero (by omega)
    have hless : nonceBufferLen * (r % refillsPerSeed + 1) < nonceReseedBytes :=
      hfull ▸ Nat.mul_lt_mul_of_pos_left (by omega) (by decide)
    rw [reseedIfDue, if_neg (by simpa [filled] using hless)]
    simp [filled, due, hmod, hdiv]

theorem next_filled (r position : Nat) (h : position + nonceLen ≤ nonceBufferLen) :
    (filled chacha seeds r position).next chacha seeds = some (filled chacha seeds r position).cut :=
  if_neg (by simpa [filled] using h)

theorem next_filled_used (r position : Nat) (h : nonceBufferLen < position + nonceLen) :
    (filled chacha seeds r position).next chacha seeds =
      some (filled chacha seeds (r + 1) 0).cut := by
  rw [next, if_pos (by simpa [filled] using h), refill_filled]
  rfl

theorem next_after (chacha : ChaCha20) (seeds : Nat → Bytes) (n : Nat) :
    ((after chacha seeds n).bind fun gen => gen.next chacha seeds) =
      some (filled chacha seeds (n / noncesPerRefill)
        (nonceLen * (n % noncesPerRefill))).cut := by
  have hper : noncesPerRefill = 341 := by decide
  have hlen : nonceLen = 12 := rfl
  have hbuffer : nonceBufferLen = 4096 := rfl
  induction n with
  | zero =>
    simp only [after, Option.bind_some, next, new]
    rw [if_pos (by decide)]
    have h := refill_new chacha seeds
    simp only [new] at h
    rw [h]
    rfl
  | succ n ih =>
    obtain ⟨gen, hgen, hnext⟩ := Option.bind_eq_some_iff.mp ih
    have hafter : after chacha seeds (n + 1) = some (filled chacha seeds (n / noncesPerRefill)
        (nonceLen * (n % noncesPerRefill))).cut.2 := by
      rw [after, hgen, Option.bind_some, hnext, Option.map_some]
    have hcut : (filled chacha seeds (n / noncesPerRefill)
        (nonceLen * (n % noncesPerRefill))).cut.2 =
        filled chacha seeds (n / noncesPerRefill) (nonceLen * (n % noncesPerRefill + 1)) := by
      simp [cut, filled, Nat.mul_add]
    rw [hafter, Option.bind_some, hcut]
    have hlt := Nat.mod_lt n (show 0 < noncesPerRefill by decide)
    by_cases hlast : n % noncesPerRefill + 1 = noncesPerRefill
    · have hmod : (n + 1) % noncesPerRefill = 0 := by
        rw [hper] at hlast ⊢
        omega
      have hdiv : (n + 1) / noncesPerRefill = n / noncesPerRefill + 1 := by
        rw [hper] at hlast ⊢
        omega
      rw [next_filled_used _ _ (by rw [hlen, hbuffer]; omega), hmod, hdiv, Nat.mul_zero]
    · have hmod : (n + 1) % noncesPerRefill = n % noncesPerRefill + 1 := by
        rw [hper] at hlast hlt ⊢
        omega
      have hdiv : (n + 1) / noncesPerRefill = n / noncesPerRefill := by
        rw [hper] at hlast hlt ⊢
        omega
      rw [next_filled _ _ (by rw [hlen, hbuffer]; omega), hmod, hdiv]

theorem place_le (n : Nat) : nonceLen * (n % noncesPerRefill) + nonceLen ≤ nonceBufferLen := by
  have hlt := Nat.mod_lt n (show 0 < noncesPerRefill by decide)
  calc nonceLen * (n % noncesPerRefill) + nonceLen
      ≤ nonceLen * noncesPerRefill := Nat.mul_le_mul_left nonceLen hlt
    _ ≤ nonceBufferLen := by decide

theorem slice_map_range (f : Nat → UInt8) (h : start + len ≤ n) :
    (((List.range n).map f).drop start).take len = (List.range len).map fun t => f (start + t) := by
  apply List.ext_getElem
  · simp only [List.length_take, List.length_drop, List.length_map, List.length_range]
    omega
  · simp

theorem nonce_eq (chacha : ChaCha20) (seeds : Nat → Bytes) (n : Nat) :
    nonce chacha seeds n = some ((List.range nonceLen).map fun t =>
      residue chacha seeds (n / noncesPerRefill + 1) (nonceLen * (n % noncesPerRefill) + t)) := by
  obtain ⟨gen, hgen, hnext⟩ := Option.bind_eq_some_iff.mp (next_after chacha seeds n)
  rw [nonce, hgen, Option.bind_some, hnext, Option.map_some, cut]
  simp only [filled, slice_map_range _ (place_le n)]

theorem after_succ_eq (chacha : ChaCha20) (seeds : Nat → Bytes) (n : Nat) :
    after chacha seeds (n + 1) = some (filled chacha seeds (n / noncesPerRefill)
      (nonceLen * (n % noncesPerRefill) + nonceLen)) := by
  obtain ⟨gen, hgen, hnext⟩ := Option.bind_eq_some_iff.mp (next_after chacha seeds n)
  rw [after, hgen, Option.bind_some, hnext, Option.map_some, cut]
  simp only [filled]

theorem blockByte_eq (n t : Nat) :
    blockByte chacha seeds (n / noncesPerRefill) (nonceLen * (n % noncesPerRefill) + t) =
      chacha.keystream (seeds (n / noncesPerSeed)) (List.replicate nonceLen 0)
        (sliceOffset (n % noncesPerSeed) + t) := by
  have hdiv : n / noncesPerRefill / refillsPerSeed = n / noncesPerSeed :=
    Nat.div_div_eq_div_mul _ _ _
  have hblock : n / noncesPerRefill % refillsPerSeed = n % noncesPerSeed / noncesPerRefill :=
    (Nat.mod_mul_right_div_self n noncesPerRefill refillsPerSeed).symm
  have hplace : n % noncesPerRefill = n % noncesPerSeed % noncesPerRefill :=
    (Nat.mod_mul_right_mod n noncesPerRefill refillsPerSeed).symm
  rw [blockByte, sliceOffset, hdiv, hblock, hplace, Nat.add_assoc]

theorem sliceOffset_lt (h : k < i) : sliceOffset k + nonceLen ≤ sliceOffset i := by
  have hper : noncesPerRefill = 341 := by decide
  simp only [sliceOffset, nonceBufferLen, nonceLen, hper]
  omega

theorem xor_eq_right_iff (a b : UInt8) : a ^^^ b = b ↔ a = 0 := by
  constructor
  · intro h
    simpa [UInt8.xor_assoc] using congrArg (· ^^^ b) h
  · rintro rfl
    simp

/-- A nonce is what the keystream has at its own place exactly if the blocks of the refills before
cancel out there. -/
theorem nonce_of_keystream_iff (chacha : ChaCha20) (seeds : Nat → Bytes) (n : Nat) :
    (nonce chacha seeds n =
        some (keystreamSlice chacha (seeds (n / noncesPerSeed))
          (sliceOffset (n % noncesPerSeed))) ∧
      (∀ k < n % noncesPerSeed, sliceOffset k + nonceLen ≤ sliceOffset (n % noncesPerSeed)) ∧
      ∃ gen, after chacha seeds (n + 1) = some gen ∧
        gen.cipher.key = seeds (n / noncesPerSeed) ∧ gen.cipher.position ≤ nonceReseedBytes) ↔
    ∀ t < nonceLen, residue chacha seeds (n / noncesPerRefill)
      (nonceLen * (n % noncesPerRefill) + t) = 0 := by
  have hused : ∃ gen, after chacha seeds (n + 1) = some gen ∧
      gen.cipher.key = seeds (n / noncesPerSeed) ∧ gen.cipher.position ≤ nonceReseedBytes := by
    refine ⟨_, after_succ_eq chacha seeds n, ?_, block_le_reseed _⟩
    exact congrArg seeds (Nat.div_div_eq_div_mul _ _ _)
  have hapart : ∀ k < n % noncesPerSeed,
      sliceOffset k + nonceLen ≤ sliceOffset (n % noncesPerSeed) := fun k => sliceOffset_lt
  rw [and_iff_left ⟨hapart, hused⟩, nonce_eq, keystreamSlice, Option.some_inj, List.map_inj_left]
  simp only [List.mem_range, residue, blockByte_eq, xor_eq_right_iff]

theorem second_refill_not_keystream :
    nonce .ones (fun _ => List.replicate 32 0) 341 ≠
      some (keystreamSlice .ones (List.replicate 32 0) 4096) := by
  rw [nonce_eq]
  decide

end NonceGenerator

end UncrownedKing.Mask
