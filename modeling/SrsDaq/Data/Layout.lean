import Mathlib.Algebra.GroupWithZero.Nat
import Mathlib.Data.List.Basic

/-!
This module contains the layout of structs in a little endian System V ABI: the size of a struct,
the offsets of its bit-fields, and the packing of numbers of given widths into one word.
-/

structure Member where
  size : Nat
  align : Nat
  deriving Repr, DecidableEq

namespace Member

def alignUp (pos align : Nat) : Nat :=
  (pos + (align - 1)) / align * align

def endFrom (pos : Nat) : List Member → Nat
  | [] => pos
  | member :: members => endFrom (alignUp pos member.align + member.size) members

def sizeofStruct (members : List Member) : Nat :=
  alignUp (endFrom 0 members) (members.foldl (fun align member => max align member.align) 1)

end Member

/--
A bit-field of `width` bits whose declared type has `unit` bits.
-/
structure BitField where
  unit : Nat
  width : Nat
  deriving Repr, DecidableEq

namespace BitField

def place (field : BitField) (pos : Nat) : Nat :=
  -- Bit-fields follow each other from the least significant bit upwards. One that would cross the
  -- boundary of a storage unit of its type starts at the next unit.
  if pos % field.unit + field.width ≤ field.unit then
    pos
  else
    (pos / field.unit + 1) * field.unit

def offsetsFrom (pos : Nat) : List BitField → List Nat
  | [] => []
  | field :: fields => field.place pos :: offsetsFrom (field.place pos + field.width) fields

def offsets (fields : List BitField) : List Nat :=
  offsetsFrom 0 fields

def read (word : BitVec w) (offset width : Nat) : BitVec width :=
  word.extractLsb' offset width

@[simp]
theorem toNat_read (word : BitVec w) (offset width : Nat)
    : (read word offset width).toNat = word.toNat / 2 ^ offset % 2 ^ width := by
  simp [read, Nat.shiftRight_eq_div_pow]

def unpack : List Nat → Nat → List Nat
  | [], _ => []
  | w :: ws, x => x % 2 ^ w :: unpack ws (x / 2 ^ w)

def pack : List Nat → List Nat → Nat
  | w :: ws, v :: vs => v + 2 ^ w * pack ws vs
  | _, _ => 0

def Fits (ws vs : List Nat) : Prop :=
  List.Forall₂ (fun w v => v < 2 ^ w) ws vs

theorem pack_lt {ws vs : List Nat} (h : Fits ws vs) : pack ws vs < 2 ^ ws.sum := by
  induction h with
  | nil => simp [pack]
  | @cons w v ws vs hv _ ih =>
    simp only [pack, List.sum_cons, Nat.pow_add]
    have : 2 ^ w * (pack ws vs + 1) ≤ 2 ^ w * 2 ^ ws.sum := Nat.mul_le_mul_left _ ih
    rw [Nat.mul_add, Nat.mul_one] at this
    omega

theorem pack_unpack {ws : List Nat} {x : Nat} (h : x < 2 ^ ws.sum)
    : pack ws (unpack ws x) = x := by
  induction ws generalizing x with
  | nil =>
    simp only [List.sum_nil, Nat.pow_zero] at h
    simp only [pack]
    omega
  | cons w ws ih =>
    simp only [pack, unpack]
    rw [ih]
    . apply Nat.mod_add_div x (2 ^ w)
    . rw [List.sum_cons, Nat.pow_add] at h
      apply Nat.div_lt_of_lt_mul h

theorem unpack_pack {ws vs : List Nat} (h : Fits ws vs) : unpack ws (pack ws vs) = vs := by
  induction h with
  | nil => rfl
  | @cons w v ws vs hv _ ih =>
    have hpos := Nat.two_pow_pos w
    simp only [pack, unpack, List.cons.injEq]
    constructor
    . rw [Nat.add_mul_mod_self_left, Nat.mod_eq_of_lt hv]
    . rw [Nat.add_mul_div_left _ _ hpos, Nat.div_eq_of_lt hv, Nat.zero_add, ih]

theorem ofNat_pack_of_unpack_eq (ws : List Nat) {vs : List Nat} {word : BitVec ws.sum}
    (h : unpack ws word.toNat = vs)
    : BitVec.ofNat ws.sum (pack ws vs) = word := by
  rw [← h, pack_unpack word.isLt, BitVec.ofNat_toNat, BitVec.setWidth_eq]

theorem unpack_ofNat_pack (ws : List Nat) {vs : List Nat} (h : Fits ws vs)
    : unpack ws (BitVec.ofNat ws.sum (pack ws vs)).toNat = vs := by
  rw [BitVec.toNat_ofNat, Nat.mod_eq_of_lt (pack_lt h), unpack_pack h]

end BitField
