import SrsDaq.Utils.CommonFunctions

/-!
This module contains what the bit manipulating helpers compute: `byteSwap` reverses the bytes,
`mergeBits` puts two bit strings side by side, `subset` cuts them apart again and `grayToBinary`
decodes the Gray code.
-/

namespace Srs

theorem byteswapUint64_mul_pow {k x : Nat} (hk : k ≤ 8) (hx : x < 256 ^ k)
    : (byteswapUint64 (BitVec.ofNat 64 (x * 256 ^ (8 - k)))).toNat
        =
      Bytes.ofBE (Bytes.toLE k x) := by
  have hlt : x * 256 ^ (8 - k) < 2 ^ 64 := by
    have hmul := Nat.mul_lt_mul_of_pos_right hx (Nat.pow_pos (n := 8 - k) (by omega : 0 < 256))
    rw [← Nat.pow_add, show k + (8 - k) = 8 by omega] at hmul
    omega
  have hbe : Bytes.ofBE (Bytes.toLE k x) < 2 ^ 64 := by
    apply Nat.lt_of_lt_of_le (Bytes.ofBE_toLE_lt k x)
    apply Nat.pow_le_pow_right (by omega) (by omega)
  simp only [byteswapUint64, BitVec.toNat_ofNat, Nat.mod_eq_of_lt hlt]
  have hbytes := Bytes.toLE_mul_pow (8 - k) k x
  rw [show 8 - k + k = 8 by omega] at hbytes
  rw [hbytes, Bytes.ofBE_replicate_zero_append, Nat.mod_eq_of_lt hbe]

theorem toNat_lt_pow (bits : BitVec (8 * k)) : bits.toNat < 256 ^ k := by
  have hlt := bits.isLt
  rw [Nat.pow_mul] at hlt
  exact hlt

theorem toNat_setWidth_shiftLeft {n : Nat} (hn : n ≤ 64) (bits : BitVec n)
    : (bits.setWidth 64 <<< (64 - n)).toNat = bits.toNat * 2 ^ (64 - n) := by
  have hbits := bits.isLt
  have hsmall : bits.toNat < 2 ^ 64 := by
    apply Nat.lt_of_lt_of_le hbits
    apply Nat.pow_le_pow_right (by omega) hn
  have hmul : bits.toNat * 2 ^ (64 - n) < 2 ^ 64 := by
    calc
      bits.toNat * 2 ^ (64 - n) < 2 ^ n * 2 ^ (64 - n) :=
        Nat.mul_lt_mul_of_pos_right hbits (Nat.two_pow_pos _)
      _ = 2 ^ 64 := by rw [← Nat.pow_add, show n + (64 - n) = 64 by omega]
  rw [BitVec.toNat_shiftLeft, BitVec.toNat_setWidth, Nat.mod_eq_of_lt hsmall, Nat.shiftLeft_eq,
    Nat.mod_eq_of_lt hmul]

theorem toNat_byteswapUint64_shiftLeft {k : Nat} (hk : k ≤ 8) (bits : BitVec (8 * k))
    : (byteswapUint64 (bits.setWidth 64 <<< (64 - 8 * k))).toNat
        =
      Bytes.ofBE (Bytes.toLE k bits.toNat) := by
  have hexp : 2 ^ (64 - 8 * k) = 256 ^ (8 - k) := by
    rw [show 64 - 8 * k = 8 * (8 - k) by omega, Nat.pow_mul]
  have hshift := toNat_setWidth_shiftLeft (by omega) bits
  rw [hexp] at hshift
  rw [← byteswapUint64_mul_pow hk (toNat_lt_pow bits), ← hshift, BitVec.ofNat_toNat,
    BitVec.setWidth_eq]

theorem byteSwap_eq_ofBE {k : Nat} (hk : k ≤ 8) (bits : BitVec (8 * k))
    : byteSwap bits = BitVec.ofNat (8 * k) (Bytes.ofBE (Bytes.toLE k bits.toNat)) := by
  apply BitVec.eq_of_toNat_eq
  unfold byteSwap
  simp only [BitVec.toNat_setWidth, BitVec.toNat_ofNat, toNat_byteswapUint64_shiftLeft hk]

theorem toNat_byteSwap {k : Nat} (hk : k ≤ 8) (bits : BitVec (8 * k))
    : (byteSwap bits).toNat = Bytes.ofBE (Bytes.toLE k bits.toNat) := by
  rw [byteSwap_eq_ofBE hk, BitVec.toNat_ofNat, Nat.mod_eq_of_lt (Bytes.ofBE_toLE_lt k bits.toNat)]

theorem toLE_byteSwap {k : Nat} (hk : k ≤ 8) (bits : BitVec (8 * k))
    : Bytes.toLE k (byteSwap bits).toNat = (Bytes.toLE k bits.toNat).reverse := by
  have hbytes := Bytes.toLE_ofLE (Bytes.toLE k bits.toNat).reverse
  rw [List.length_reverse, Bytes.length_toLE] at hbytes
  rw [toNat_byteSwap hk, Bytes.ofBE, hbytes]

theorem byteSwap_byteSwap {k : Nat} (hk : k ≤ 8) (bits : BitVec (8 * k))
    : byteSwap (byteSwap bits) = bits := by
  apply BitVec.eq_of_toNat_eq
  apply Bytes.toLE_inj (toNat_lt_pow _) (toNat_lt_pow bits)
  rw [toLE_byteSwap hk, toLE_byteSwap hk, List.reverse_reverse]

theorem getElem_toLE_eq_extractLsb' (bits : BitVec n) (i : Nat)
    (hi : i < (Bytes.toLE k bits.toNat).length)
    : (Bytes.toLE k bits.toNat)[i] = bits.extractLsb' (8 * i) 8 := by
  rw [Bytes.getElem_toLE]
  apply BitVec.eq_of_toNat_eq
  rw [BitVec.extractLsb'_toNat, BitVec.toNat_ofNat, Nat.shiftRight_eq_div_pow, Nat.pow_mul]

theorem extractLsb'_byteSwap {k : Nat} (hk : k ≤ 8) (bits : BitVec (8 * k)) {i : Nat} (hi : i < k)
    : (byteSwap bits).extractLsb' (8 * i) 8 = bits.extractLsb' (8 * (k - 1 - i)) 8 := by
  have h1 : i < (Bytes.toLE k (byteSwap bits).toNat).length := by simpa using hi
  have h2 : i < (Bytes.toLE k bits.toNat).reverse.length := by simpa using hi
  have hget : (Bytes.toLE k (byteSwap bits).toNat)[i] = (Bytes.toLE k bits.toNat).reverse[i] := by
    simp only [toLE_byteSwap hk]
  rw [List.getElem_reverse] at hget
  simpa only [getElem_toLE_eq_extractLsb', Bytes.length_toLE] using hget

theorem eq_of_extractLsb'_eq {bits bits' : BitVec (8 * k)}
    (h : ∀ i, i < k → bits.extractLsb' (8 * i) 8 = bits'.extractLsb' (8 * i) 8)
    : bits = bits' := by
  apply BitVec.eq_of_toNat_eq
  apply Bytes.toLE_inj (toNat_lt_pow bits) (toNat_lt_pow bits')
  apply List.ext_getElem (by simp)
  intro i h1 h2
  rw [getElem_toLE_eq_extractLsb', getElem_toLE_eq_extractLsb']
  apply h i
  simpa using h1

theorem byteSwap_eq_self_iff {k : Nat} (hk : k ≤ 8) (bits : BitVec (8 * k))
    : byteSwap bits = bits
        ↔
      ∀ i, i < k → bits.extractLsb' (8 * i) 8 = bits.extractLsb' (8 * (k - 1 - i)) 8 := by
  constructor
  . intro h i hi
    rw [← extractLsb'_byteSwap hk bits hi, h]
  . intro h
    apply eq_of_extractLsb'_eq
    intro i hi
    rw [extractLsb'_byteSwap hk bits hi, h i hi]

theorem toNat_mergeBits (highBits : BitVec highSize) (lowBits : BitVec lowSize)
    (hsize : highSize + lowSize ≤ 64)
    : (mergeBits highBits lowBits).toNat = highBits.toNat * 2 ^ lowSize + lowBits.toNat := by
  have hhigh := highBits.isLt
  have hlow := lowBits.isLt
  have hsum : 2 ^ (highSize + lowSize) ≤ 2 ^ 64 := Nat.pow_le_pow_right (by omega) hsize
  have hhigh' : 2 ^ highSize ≤ 2 ^ (highSize + lowSize) := Nat.pow_le_pow_right (by omega) (by omega)
  have hlow' : 2 ^ lowSize ≤ 2 ^ (highSize + lowSize) := Nat.pow_le_pow_right (by omega) (by omega)
  have hshift : highBits.toNat * 2 ^ lowSize < 2 ^ (highSize + lowSize) := by
    rw [Nat.pow_add]
    apply Nat.mul_lt_mul_of_pos_right hhigh (Nat.two_pow_pos lowSize)
  have hor : highBits.toNat * 2 ^ lowSize ||| lowBits.toNat
      = highBits.toNat * 2 ^ lowSize + lowBits.toNat := by
    rw [Nat.mul_comm, Nat.two_pow_add_eq_or_of_lt hlow]
  unfold mergeBits
  simp only [BitVec.toNat_setWidth, BitVec.toNat_or, BitVec.toNat_shiftLeft, Nat.shiftLeft_eq]
  rw [Nat.mod_eq_of_lt (by omega : highBits.toNat < 2 ^ 64)]
  rw [Nat.mod_eq_of_lt (by omega : highBits.toNat < 2 ^ (highSize + lowSize))]
  rw [Nat.mod_eq_of_lt (by omega : lowBits.toNat < 2 ^ 64)]
  rw [Nat.mod_eq_of_lt (by omega : lowBits.toNat < 2 ^ (highSize + lowSize))]
  rw [Nat.mod_eq_of_lt hshift, hor]
  have hlt : highBits.toNat * 2 ^ lowSize + lowBits.toNat < 2 ^ (highSize + lowSize) := by
    rw [← hor]
    apply Nat.or_lt_two_pow hshift (by omega)
  rw [Nat.mod_eq_of_lt (by omega : _ < 2 ^ 64)]
  apply Nat.mod_eq_of_lt hlt

theorem ushiftRight_shiftLeft_eq (bits : BitVec bitSize) {max min : Nat}
    (hmax : max ≤ bitSize) (hmin : min ≤ max)
    : (bits <<< (bitSize - max)) >>> (bitSize - max + min)
        =
      (bits.extractLsb' min (max - min)).setWidth bitSize := by
  apply BitVec.eq_of_getLsbD_eq
  intro i hi
  simp only [BitVec.getLsbD_ushiftRight, BitVec.getLsbD_shiftLeft, BitVec.getLsbD_setWidth,
    BitVec.getLsbD_extractLsb']
  have hindex : bitSize - max + min + i - (bitSize - max) = min + i := by omega
  have hnot : ¬ bitSize - max + min + i < bitSize - max := by omega
  have hlast : bitSize - max + min + i < bitSize ↔ i < max - min := by omega
  simp only [hindex, hnot, hlast, hi, decide_false, decide_true, Bool.not_false, Bool.and_true, Bool.true_and]

theorem toUllong_setWidth {size : Nat} (hsize : size ≤ 64) (bits : BitVec size)
    : toUllong (bits.setWidth n) = .ok ((bits.setWidth n).setWidth 64) := by
  have hlt : (bits.setWidth n).toNat < 2 ^ 64 := by
    rw [BitVec.toNat_setWidth]
    calc
      bits.toNat % 2 ^ n ≤ bits.toNat := Nat.mod_le _ _
      _ < 2 ^ size := bits.isLt
      _ ≤ 2 ^ 64 := Nat.pow_le_pow_right (by omega) hsize
  unfold toUllong
  rw [if_pos hlt]

theorem subset_eq (range : BitRange) (bits : BitVec bitSize) (hmax : range.max ≤ bitSize)
    : subset range bits = .ok (bits.extractLsb' range.min range.size) := by
  have hmin := range.min_lt_max
  have hsize := range.size_le
  have hshift := ushiftRight_shiftLeft_eq bits hmax (Nat.le_of_lt hmin)
  unfold subset
  simp only [if_pos hmax, hshift]
  rw [toUllong_setWidth hsize]
  simp only [Except.map, Except.ok.injEq]
  apply BitVec.eq_of_getLsbD_eq
  intro i hi
  rw [BitRange.size] at hi ⊢
  simp only [BitVec.getLsbD_setWidth, hi, decide_true, Bool.true_and, show i < 64 by omega,
    show i < bitSize by omega]

theorem mergeBits_eq_append (highBits : BitVec highSize) (lowBits : BitVec lowSize)
    (hsize : highSize + lowSize ≤ 64)
    : mergeBits highBits lowBits = highBits ++ lowBits := by
  apply BitVec.eq_of_toNat_eq
  rw [toNat_mergeBits highBits lowBits hsize, BitVec.toNat_append,
    ← Nat.shiftLeft_add_eq_or_of_lt lowBits.isLt, Nat.shiftLeft_eq]

theorem extractLsb'_eq_append (bits : BitVec n) {start mid highSize lowSize size : Nat}
    (hmid : mid = start + lowSize) (hsize : highSize + lowSize = size)
    : bits.extractLsb' start size
        =
      (bits.extractLsb' mid highSize ++ bits.extractLsb' start lowSize).cast hsize := by
  subst hsize
  rw [BitVec.extractLsb'_append_extractLsb'_eq_extractLsb' hmid, BitVec.cast_eq]

/--
Cutting a merged value where it was merged gives back its two parts, and merging two neighbouring
ranges of the same bits gives the range over both. `to_ullong` never overflows in either.
-/
theorem mergeBits_subset_inverse
    : (∀ (highSize lowSize : Nat) (highBits : BitVec highSize) (lowBits : BitVec lowSize)
          (_ : 1 ≤ highSize) (_ : 1 ≤ lowSize) (_ : highSize + lowSize ≤ 64),
        (mergeBits highBits lowBits).toNat = highBits.toNat * 2 ^ lowSize + lowBits.toNat ∧
        subset ⟨highSize + lowSize, lowSize, by omega, by omega⟩ (mergeBits highBits lowBits)
          = .ok (highBits.cast (Nat.add_sub_cancel ..).symm) ∧
        subset ⟨lowSize, 0, by omega, by omega⟩ (mergeBits highBits lowBits) = .ok lowBits) ∧
      (∀ (bitSize : Nat) (bits : BitVec bitSize) (range : BitRange), range.max ≤ bitSize →
        ∃ part, subset range bits = .ok part) ∧
      ∀ (bitSize : Nat) (bits : BitVec bitSize) (max mid min : Nat)
          (_ : min < mid) (_ : mid < max) (_ : max ≤ bitSize) (_ : max - min ≤ 64),
        ∃ highBits lowBits,
          subset ⟨max, mid, by omega, by omega⟩ bits = .ok highBits ∧
          subset ⟨mid, min, by omega, by omega⟩ bits = .ok lowBits ∧
          subset ⟨max, min, by omega, by omega⟩ bits
            = .ok ((mergeBits highBits lowBits).cast (by simp only [BitRange.size]; omega)) := by
  refine ⟨?_, ?_, ?_⟩
  . intro highSize lowSize highBits lowBits _ _ hsize
    refine ⟨toNat_mergeBits highBits lowBits hsize, ?_, ?_⟩
    . rw [subset_eq _ _ (Nat.le_refl _), mergeBits_eq_append highBits lowBits hsize]
      apply congrArg Except.ok
      apply BitVec.eq_of_getLsbD_eq
      intro i hi
      rw [BitRange.size, Nat.add_sub_cancel] at hi
      simp [BitRange.size, BitVec.getLsbD_append, hi]
    . rw [subset_eq _ _ (Nat.le_add_left ..), mergeBits_eq_append highBits lowBits hsize]
      exact congrArg Except.ok BitVec.extractLsb'_append_eq_right
  . intro bitSize bits range hmax
    exact ⟨_, subset_eq range bits hmax⟩
  . intro bitSize bits max mid min hmid hmax hbits hsize
    refine ⟨_, _, subset_eq _ _ hbits, subset_eq _ _ (by simp only; omega), ?_⟩
    rw [subset_eq _ _ hbits, mergeBits_eq_append]
    . exact congrArg Except.ok
        (extractLsb'_eq_append bits (by simp only [BitRange.size]; omega) _)
    . simp only [BitRange.size]
      omega

theorem mergeBits_subset_inverse_timestamp
    : subset ⟨42, 10, by decide, by decide⟩ (mergeBits 0x89abcdef#32 0x155#10) = .ok 0x89abcdef#32
        ∧
      subset ⟨10, 0, by decide, by decide⟩ (mergeBits 0x89abcdef#32 0x155#10) = .ok 0x155#10 := by
  have h := mergeBits_subset_inverse.1 32 10 0x89abcdef#32 0x155#10 (by decide) (by decide)
    (by decide)
  exact h.2

namespace grayToBinary

@[simp]
theorem go_zero (binVal : BitVec w) : go 0#w binVal = binVal := by
  unfold go
  simp

theorem go_of_ne_zero {grayVal : BitVec w} (h : grayVal ≠ 0#w) (binVal : BitVec w)
    : go grayVal binVal = go (grayVal >>> 1) (binVal ^^^ (grayVal >>> 1)) := by
  have hpos : grayVal > 0#w := (BitVec.pos_iff_ne_zero grayVal).mpr h
  rw [go]
  simp [hpos]

theorem go_eq (grayVal binVal : BitVec w)
    : go grayVal binVal = binVal ^^^ grayToBinary (grayVal >>> 1) := by
  induction grayVal using Gray.shiftInduction generalizing binVal with
  | zero => simp [grayToBinary]
  | shift grayVal h ih =>
    have hshift : grayToBinary (grayVal >>> 1)
        = (grayVal >>> 1) ^^^ grayToBinary (grayVal >>> 1 >>> 1) := by
      rw [grayToBinary, ih]
    rw [go_of_ne_zero h, ih, hshift, BitVec.xor_assoc]

def body (vals : BitVec w × BitVec w) : BitVec w × BitVec w :=
  (vals.1 >>> 1, vals.2 ^^^ (vals.1 >>> 1))

theorem fst_iterate_body (vals : BitVec w × BitVec w) (n : Nat)
    : (body^[n] vals).1 = vals.1 >>> n := by
  induction n with
  | zero => simp
  | succ n ih =>
    rw [Function.iterate_succ_apply', body, ih, ← BitVec.shiftRight_add]

theorem exists_iterate_body (grayVal binVal : BitVec w)
    : ∃ n, (∀ m, m < n → (body^[m] (grayVal, binVal)).1 > 0#w) ∧
        body^[n] (grayVal, binVal) = (0#w, go grayVal binVal) := by
  induction grayVal using Gray.shiftInduction generalizing binVal with
  | zero => exact ⟨0, by simp, by simp⟩
  | shift grayVal h ih =>
    rcases ih (binVal ^^^ (grayVal >>> 1)) with ⟨n, hguard, hend⟩
    refine ⟨n + 1, ?_, ?_⟩
    . intro m hm
      cases m with
      | zero => exact (BitVec.pos_iff_ne_zero grayVal).mpr h
      | succ m =>
        rw [Function.iterate_succ_apply]
        apply hguard m
        omega
    . rw [Function.iterate_succ_apply, go_of_ne_zero h]
      exact hend

theorem loop_ends (grayVal binVal : BitVec w)
    : ∃ n, n ≤ w ∧ (∀ m, m < n → (body^[m] (grayVal, binVal)).1 > 0#w) ∧
        body^[n] (grayVal, binVal) = (0#w, go grayVal binVal) := by
  rcases exists_iterate_body grayVal binVal with ⟨n, hguard, hend⟩
  refine ⟨n, ?_, hguard, hend⟩
  -- After `w` rounds no bit is left, so the guard does not let one more begin.
  by_contra hn
  have hpos := hguard w (by omega)
  rw [fst_iterate_body, BitVec.ushiftRight_eq_zero (Nat.le_refl w)] at hpos
  exact BitVec.lt_irrefl _ hpos

end grayToBinary

theorem grayToBinary_isDecoder : Gray.IsDecoder (grayToBinary (w := w)) where
  zero := by simp [grayToBinary]
  step := by
    intro g
    apply grayToBinary.go_eq g g

/--
The loop ends, and what it computes is the inverse of the Gray encoding on the values of any number
of bits.
-/
theorem grayToBinary_inverts_encode (g b : BitVec w)
    : (∃ n, n ≤ w ∧ (∀ m, m < n → (grayToBinary.body^[m] (g, g)).1 > 0#w) ∧
          grayToBinary.body^[n] (g, g) = (0#w, grayToBinary g)) ∧
      grayToBinary g ^^^ (grayToBinary g >>> 1) = g ∧
      grayToBinary (b ^^^ (b >>> 1)) = b ∧
      (∀ i, Gray.IsHighestBit (grayToBinary g) i ↔ Gray.IsHighestBit g i) ∧
      ∀ k, Set.BijOn grayToBinary (Gray.below w k) (Gray.below w k) ∧
        Set.InvOn Gray.encode grayToBinary (Gray.below w k) (Gray.below w k) := by
  have hd := @grayToBinary_isDecoder w
  refine ⟨grayToBinary.loop_ends g g, hd.encode_decode g, hd.decode_encode b, ?_, ?_⟩
  . intro i
    apply hd.isHighestBit_iff
  . intro k
    exact ⟨hd.bijOn k, hd.invOn _ _⟩

end Srs
