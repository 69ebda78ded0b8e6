import Mathlib.Algebra.Group.Nat.Defs
import Mathlib.Data.Set.Function

/-!
This module contains the theory of the reflected binary Gray code on bit vectors of any width: its
encoding, and what is needed of a function in order to be the decoding.
-/

namespace Gray

variable {w : Nat}

def encode (b : BitVec w) : BitVec w :=
  b ^^^ (b >>> 1)

/--
The recursion that a decoder has to satisfy: every bit of its result is the xor of all the bits of
`g` from there upwards.
-/
structure IsDecoder (decode : BitVec w → BitVec w) : Prop where
  zero : decode 0#w = 0#w
  step : ∀ g : BitVec w, decode g = g ^^^ decode (g >>> 1)

def IsHighestBit (b : BitVec w) (i : Nat) : Prop :=
  b.getLsbD i = true ∧ ∀ j, i < j → b.getLsbD j = false

def below (w k : Nat) : Set (BitVec w) :=
  { b | b.toNat < 2 ^ k }

theorem toNat_shiftRight_one_lt {g : BitVec w} (h : g ≠ 0#w) : (g >>> 1).toNat < g.toNat := by
  have hne : g.toNat ≠ 0 := by
    intro hzero
    apply h
    apply BitVec.eq_of_toNat_eq
    simp [hzero]
  simp only [BitVec.toNat_ushiftRight, Nat.shiftRight_eq_div_pow]
  omega

@[elab_as_elim]
theorem shiftInduction {motive : BitVec w → Prop} (zero : motive 0#w)
    (shift : ∀ g, g ≠ 0#w → motive (g >>> 1) → motive g) (g : BitVec w)
    : motive g := by
  by_cases h : g = 0#w
  . rw [h]
    exact zero
  . apply shift g h
    have := toNat_shiftRight_one_lt h
    apply shiftInduction zero shift (g >>> 1)
termination_by g.toNat

@[simp]
theorem encode_zero : encode 0#w = 0#w := by
  simp [encode]

theorem encode_shiftRight (b : BitVec w) (k : Nat) : encode b >>> k = encode (b >>> k) := by
  simp only [encode, BitVec.ushiftRight_xor_distrib, ← BitVec.shiftRight_add, Nat.add_comm]

namespace IsDecoder

variable {decode : BitVec w → BitVec w}

theorem shiftRight_one (hd : IsDecoder decode) (g : BitVec w)
    : decode g >>> 1 = decode (g >>> 1) := by
  induction g using shiftInduction with
  | zero => simp [hd.zero]
  | shift g _ ih =>
    rw [hd.step g, BitVec.ushiftRight_xor_distrib, ih]
    exact (hd.step (g >>> 1)).symm

theorem shiftRight (hd : IsDecoder decode) (g : BitVec w) (k : Nat)
    : decode g >>> k = decode (g >>> k) := by
  induction k with
  | zero => simp
  | succ k ih =>
    rw [BitVec.shiftRight_add, ih, hd.shiftRight_one, ← BitVec.shiftRight_add]

theorem encode_decode (hd : IsDecoder decode) (g : BitVec w) : encode (decode g) = g := by
  unfold encode
  rw [hd.shiftRight_one]
  calc
    decode g ^^^ decode (g >>> 1) = g ^^^ decode (g >>> 1) ^^^ decode (g >>> 1) := by
      rw [← hd.step g]
    _ = g := by
      rw [BitVec.xor_assoc, BitVec.xor_self, BitVec.xor_zero]

theorem decode_encode (hd : IsDecoder decode) (b : BitVec w) : decode (encode b) = b := by
  induction b using shiftInduction with
  | zero => rw [encode_zero, hd.zero]
  | shift b _ ih =>
    rw [hd.step, encode_shiftRight, ih]
    unfold encode
    rw [BitVec.xor_assoc, BitVec.xor_self, BitVec.xor_zero]

theorem eq_zero_iff (hd : IsDecoder decode) (g : BitVec w) : decode g = 0#w ↔ g = 0#w := by
  constructor
  . intro h
    rw [← hd.encode_decode g, h, encode_zero]
  . intro h
    rw [h, hd.zero]

end IsDecoder

theorem lt_two_pow_iff_shiftRight_eq_zero (g : BitVec w) (k : Nat)
    : g.toNat < 2 ^ k ↔ g >>> k = 0#w := by
  constructor
  . intro h
    apply BitVec.eq_of_toNat_eq
    simp only [BitVec.toNat_ushiftRight, Nat.shiftRight_eq_div_pow, BitVec.toNat_ofNat,
      Nat.zero_mod]
    apply Nat.div_eq_of_lt h
  . intro h
    have hzero : g.toNat / 2 ^ k = 0 := by
      have := congrArg BitVec.toNat h
      simpa [BitVec.toNat_ushiftRight, Nat.shiftRight_eq_div_pow] using this
    rcases Nat.div_eq_zero_iff.mp hzero with hpow | hlt
    . have := Nat.two_pow_pos k
      omega
    . exact hlt

theorem isHighestBit_iff (b : BitVec w) (i : Nat)
    : IsHighestBit b i ↔ ¬ b.toNat < 2 ^ i ∧ b.toNat < 2 ^ (i + 1) := by
  unfold IsHighestBit
  constructor
  . rintro ⟨hset, hclear⟩
    refine ⟨Nat.not_lt.mpr (Nat.ge_two_pow_of_testBit hset), ?_⟩
    apply Nat.lt_pow_two_of_testBit
    intro j hj
    apply hclear j hj
  . rintro ⟨hle, hlt⟩
    have hclear : ∀ j, i < j → b.getLsbD j = false := by
      intro j hj
      apply Nat.testBit_lt_two_pow
      apply Nat.lt_of_lt_of_le hlt
      apply Nat.pow_le_pow_right (by omega) hj
    refine ⟨?_, hclear⟩
    by_contra hset
    apply hle
    apply Nat.lt_pow_two_of_testBit
    intro j hj
    rcases Nat.eq_or_lt_of_le hj with rfl | hlt
    . exact Bool.eq_false_iff.mpr hset
    . apply hclear j hlt

namespace IsDecoder

variable {decode : BitVec w → BitVec w}

theorem lt_two_pow_iff (hd : IsDecoder decode) (g : BitVec w) (k : Nat)
    : (decode g).toNat < 2 ^ k ↔ g.toNat < 2 ^ k := by
  rw [lt_two_pow_iff_shiftRight_eq_zero, lt_two_pow_iff_shiftRight_eq_zero, hd.shiftRight,
    hd.eq_zero_iff]

theorem isHighestBit_iff (hd : IsDecoder decode) (g : BitVec w) (i : Nat)
    : IsHighestBit (decode g) i ↔ IsHighestBit g i := by
  rw [Gray.isHighestBit_iff, Gray.isHighestBit_iff, hd.lt_two_pow_iff, hd.lt_two_pow_iff]

theorem invOn (hd : IsDecoder decode) (s t : Set (BitVec w)) : Set.InvOn encode decode s t :=
  ⟨fun g _ => hd.encode_decode g, fun b _ => hd.decode_encode b⟩

theorem bijOn (hd : IsDecoder decode) (k : Nat) : Set.BijOn decode (below w k) (below w k) := by
  apply (hd.invOn (below w k) (below w k)).bijOn
  . intro g hg
    exact (hd.lt_two_pow_iff g k).mpr hg
  . intro b hb
    have := (hd.lt_two_pow_iff (encode b) k).mp
    rw [hd.decode_encode] at this
    exact this hb

end IsDecoder

end Gray
