import Mathlib.Data.Nat.Digits.Lemmas

/-!
This module contains the little endian and the big endian reading of byte strings, and the writing
of a number as a byte string of a given length.
-/

abbrev Byte := BitVec 8

namespace Bytes

def ofLE : List Byte → Nat
  | [] => 0
  | b :: bs => b.toNat + 256 * ofLE bs

def ofBE (bs : List Byte) : Nat :=
  ofLE bs.reverse

/--
The `len` low bytes of `n`, least significant byte first.
-/
def toLE : Nat → Nat → List Byte
  | 0, _ => []
  | len + 1, n => BitVec.ofNat 8 n :: toLE len (n / 256)

def toBE (len n : Nat) : List Byte :=
  (toLE len n).reverse

/--
The complete groups of `size` bytes that follow one another in `bs`; a rest of less than `size`
bytes is in none of them.
-/
def groups (size : Nat) (bs : List Byte) : List (List Byte) :=
  (List.range (bs.length / size)).map fun i => (bs.drop (i * size)).take size

theorem ofLE_eq_ofDigits (bs : List Byte)
    : ofLE bs = Nat.ofDigits 256 (bs.map BitVec.toNat) := by
  induction bs with
  | nil => simp [ofLE]
  | cons b bs ih => simp [ofLE, ih, Nat.ofDigits_cons]

@[simp]
theorem length_toLE (len n : Nat) : (toLE len n).length = len := by
  induction len generalizing n with
  | zero => rfl
  | succ len ih => simp [toLE, ih]

@[simp]
theorem length_toBE (len n : Nat) : (toBE len n).length = len := by
  simp [toBE]

theorem ofLE_append (bs cs : List Byte)
    : ofLE (bs ++ cs) = ofLE bs + 256 ^ bs.length * ofLE cs := by
  simp only [ofLE_eq_ofDigits, List.map_append]
  rw [Nat.ofDigits_append]
  simp

theorem ofLE_lt (bs : List Byte) : ofLE bs < 256 ^ bs.length := by
  rw [ofLE_eq_ofDigits]
  have := @Nat.ofDigits_lt_base_pow_length 256 (bs.map BitVec.toNat) (by omega)
  simp only [List.length_map] at this
  apply this
  intro x hx
  simp only [List.mem_map] at hx
  rcases hx with ⟨b, _, rfl⟩
  apply b.isLt

theorem ofBE_lt (bs : List Byte) : ofBE bs < 256 ^ bs.length := by
  have := ofLE_lt bs.reverse
  rw [List.length_reverse] at this
  exact this

@[simp]
theorem ofLE_replicate_zero (len : Nat) : ofLE (List.replicate len 0#8) = 0 := by
  induction len with
  | zero => rfl
  | succ len ih => simp [List.replicate_succ, ofLE, ih]

theorem ofLE_toLE (len n : Nat) : ofLE (toLE len n) = n % 256 ^ len := by
  induction len generalizing n with
  | zero => simp [toLE, ofLE, Nat.mod_one]
  | succ len ih =>
    have hb : (BitVec.ofNat 8 n).toNat = n % 256 := rfl
    rw [toLE, ofLE, ih, hb]
    rw [Nat.pow_succ', Nat.mod_mul]

theorem ofLE_toLE_of_lt {len n : Nat} (h : n < 256 ^ len) : ofLE (toLE len n) = n := by
  rw [ofLE_toLE, Nat.mod_eq_of_lt h]

theorem toLE_ofLE (bs : List Byte) : toLE bs.length (ofLE bs) = bs := by
  induction bs with
  | nil => rfl
  | cons b bs ih =>
    have hb : b.toNat < 256 := b.isLt
    have hdiv : (b.toNat + 256 * ofLE bs) / 256 = ofLE bs := by omega
    simp only [List.length_cons, toLE, ofLE, hdiv, ih, List.cons.injEq, and_true]
    apply BitVec.eq_of_toNat_eq
    simp only [BitVec.toNat_ofNat]
    omega

theorem ofBE_toBE_of_lt {len n : Nat} (h : n < 256 ^ len) : ofBE (toBE len n) = n := by
  simp only [ofBE, toBE, List.reverse_reverse]
  apply ofLE_toLE_of_lt h

theorem ofNat_ofBE_toBE {w len : Nat} (hlen : 2 ^ w ≤ 256 ^ len) (x : BitVec w)
    : BitVec.ofNat w (ofBE (toBE len x.toNat)) = x := by
  rw [ofBE_toBE_of_lt (Nat.lt_of_lt_of_le x.isLt hlen), BitVec.ofNat_toNat, BitVec.setWidth_eq]

theorem toBE_ofBE (bs : List Byte) : toBE bs.length (ofBE bs) = bs := by
  have hlength : bs.length = bs.reverse.length := by rw [List.length_reverse]
  rw [toBE, ofBE, hlength, toLE_ofLE, List.reverse_reverse]

theorem toBE_ofNat_ofBE {w : Nat} {bs : List Byte} (h : 256 ^ bs.length ≤ 2 ^ w)
    : toBE bs.length (BitVec.ofNat w (ofBE bs)).toNat = bs := by
  rw [BitVec.toNat_ofNat, Nat.mod_eq_of_lt (Nat.lt_of_lt_of_le (ofBE_lt bs) h), toBE_ofBE]

theorem ofBE_toLE_lt (len n : Nat) : ofBE (toLE len n) < 2 ^ (8 * len) := by
  have hlt := ofBE_lt (toLE len n)
  rw [length_toLE] at hlt
  rw [Nat.pow_mul]
  exact hlt

theorem toLE_inj {len m n : Nat} (hm : m < 256 ^ len) (hn : n < 256 ^ len)
    (h : toLE len m = toLE len n)
    : m = n := by
  rw [← ofLE_toLE_of_lt hm, ← ofLE_toLE_of_lt hn, h]

theorem toLE_mul_pow (low len n : Nat)
    : toLE (low + len) (n * 256 ^ low) = List.replicate low 0#8 ++ toLE len n := by
  induction low with
  | zero => simp
  | succ low ih =>
    have hdiv : n * 256 ^ (low + 1) / 256 = n * 256 ^ low := by
      rw [Nat.pow_succ, ← Nat.mul_assoc, Nat.mul_div_cancel _ (by omega)]
    have hzero : BitVec.ofNat 8 (n * 256 ^ (low + 1)) = 0#8 := by
      apply BitVec.eq_of_toNat_eq
      simp only [BitVec.toNat_ofNat, Nat.pow_succ, ← Nat.mul_assoc]
      omega
    rw [show low + 1 + len = (low + len) + 1 by omega]
    simp only [toLE, hdiv, hzero, ih, List.replicate_succ, List.cons_append]

theorem ofBE_replicate_zero_append (low : Nat) (bs : List Byte)
    : ofBE (List.replicate low 0#8 ++ bs) = ofBE bs := by
  simp [ofBE, ofLE_append]

theorem getElem_toLE (len n i : Nat) (hi : i < (toLE len n).length)
    : (toLE len n)[i] = BitVec.ofNat 8 (n / 256 ^ i) := by
  induction len generalizing n i with
  | zero => simp at hi
  | succ len ih =>
    cases i with
    | zero => simp [toLE]
    | succ i =>
      simp only [toLE, List.getElem_cons_succ]
      rw [ih]
      rw [Nat.div_div_eq_div_mul, Nat.pow_succ']

@[simp]
theorem length_groups (size : Nat) (bs : List Byte)
    : (groups size bs).length = bs.length / size := by
  simp [groups]

theorem length_of_mem_groups {size : Nat} {bs g : List Byte} (h : g ∈ groups size bs)
    : g.length = size := by
  simp only [groups, List.mem_map, List.mem_range] at h
  rcases h with ⟨i, hi, rfl⟩
  have hmul : (i + 1) * size ≤ bs.length := by
    apply Nat.le_trans (Nat.mul_le_mul_right size hi)
    apply Nat.div_mul_le_self bs.length size
  rw [Nat.add_mul, Nat.one_mul] at hmul
  simp only [List.length_take, List.length_drop]
  omega

theorem groups_take (size : Nat) (bs : List Byte)
    : groups size (bs.take (bs.length / size * size)) = groups size bs := by
  have hle : bs.length / size * size ≤ bs.length := Nat.div_mul_le_self bs.length size
  have hlen : (bs.take (bs.length / size * size)).length / size = bs.length / size := by
    rw [List.length_take, Nat.min_eq_left hle]
    cases size with
    | zero => simp
    | succ size => rw [Nat.mul_div_cancel _ (by omega)]
  simp only [groups, hlen]
  apply List.map_congr_left
  intro i hi
  rw [List.mem_range] at hi
  have hmul : (i + 1) * size ≤ bs.length / size * size := Nat.mul_le_mul_right size hi
  rw [Nat.add_mul, Nat.one_mul] at hmul
  rw [List.drop_take, List.take_take, Nat.min_eq_left (by omega)]

theorem groups_take_mul {size : Nat} (hsize : 0 < size) (n : Nat) (bs : List Byte)
    : groups size (bs.take (n * size)) = (groups size bs).take n := by
  have hlen : (bs.take (n * size)).length / size = min n (bs.length / size) := by
    rw [List.length_take]
    rcases Nat.le_total (n * size) bs.length with hle | hle
    . rw [Nat.min_eq_left hle, Nat.mul_div_cancel _ hsize,
        Nat.min_eq_left ((Nat.le_div_iff_mul_le hsize).mpr hle)]
    . rw [Nat.mul_comm] at hle
      rw [Nat.mul_comm, Nat.min_eq_right hle, Nat.min_eq_right (Nat.div_le_of_le_mul hle)]
  simp only [groups, hlen, ← List.map_take, List.take_range]
  apply List.map_congr_left
  intro i hi
  rw [List.mem_range] at hi
  have hmul : (i + 1) * size ≤ n * size := Nat.mul_le_mul_right size (by omega)
  rw [Nat.add_mul, Nat.one_mul] at hmul
  rw [List.drop_take, List.take_take, Nat.min_eq_left (by omega)]

theorem flatten_groups (size : Nat) (bs : List Byte)
    : (groups size bs).flatten = bs.take (bs.length / size * size) := by
  unfold groups
  induction bs.length / size with
  | zero => simp
  | succ n ih =>
    rw [List.range_succ, List.map_append, List.flatten_append, ih, Nat.succ_mul, List.take_add]
    simp

theorem groups_flatten {size : Nat} (hsize : 0 < size) (gs : List (List Byte))
    (h : ∀ g ∈ gs, g.length = size)
    : groups size gs.flatten = gs := by
  have hlen : gs.flatten.length = gs.length * size := by
    rw [List.length_flatten, List.map_eq_replicate_iff.mpr h]
    simp
  apply List.ext_getElem
  . rw [length_groups, hlen, Nat.mul_div_cancel _ hsize]
  . intro i h1 h2
    simp only [groups, List.getElem_map, List.getElem_range]
    clear h1 hlen
    induction gs generalizing i with
    | nil => simp at h2
    | cons g gs ih =>
      have hg : g.length = size := h g (by simp)
      cases i with
      | zero => simp [← hg]
      | succ i =>
        have hdrop : (i + 1) * size = g.length + i * size := by rw [hg, Nat.add_mul]; omega
        rw [hdrop, List.flatten_cons, List.drop_append]
        rw [List.drop_eq_nil_of_le (by omega)]
        simp only [List.nil_append, Nat.add_sub_cancel_left, List.getElem_cons_succ]
        apply ih
        intro g' hg'
        apply h
        simp [hg']

theorem groups_flatMap {α : Type} {size : Nat} (hsize : 0 < size) {f : α → List Byte}
    (hf : ∀ a, (f a).length = size) (as : List α)
    : groups size (as.flatMap f) = as.map f := by
  rw [List.flatMap_def]
  apply groups_flatten hsize
  intro group hgroup
  rcases List.mem_map.mp hgroup with ⟨a, _, rfl⟩
  apply hf a

end Bytes
