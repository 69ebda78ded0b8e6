import SrsDaq.Data.Gray
import SrsDaq.Utils.CommonDefinitions

/-!
This module contains the bit manipulating helpers that the decoding of a frame is built from.
-/

namespace Srs

def toUllong (bits : BitVec n) : Except Exception (BitVec 64) :=
  if bits.toNat < 2 ^ 64 then
    .ok (bits.setWidth 64)
  else
    .error .overflowError

/--
A half open range of bits that `subset` can be instantiated with.
-/
structure BitRange where
  max : Nat
  min : Nat := 0
  min_lt_max : min < max
  size_le : max - min ≤ 64

def BitRange.size (range : BitRange) : Nat :=
  range.max - range.min

def subset (range : BitRange) (bits : BitVec bitSize)
    : Except Exception (BitVec range.size) :=
  -- The difference of two sizes is of type `std::size_t`. Where it wraps around, the first shift
  -- leaves no bit for the second one.
  let ignoreHigh :=
    if range.max ≤ bitSize then
      bitSize - range.max
    else
      2 ^ 64 - (range.max - bitSize)
  let newBits := (bits <<< ignoreHigh) >>> (ignoreHigh + range.min)
  (toUllong newBits).map fun val => val.setWidth range.size

def byteswapUint64 (val : BitVec 64) : BitVec 64 :=
  BitVec.ofNat 64 (Bytes.ofBE (Bytes.toLE 8 val.toNat))

def byteSwap (bits : BitVec n) : BitVec n :=
  let val : BitVec 64 := bits.setWidth 64
  let val := val <<< (64 - n)
  let val := byteswapUint64 val
  val.setWidth n

def mergeBits (highBits : BitVec highSize) (lowBits : BitVec lowSize)
    : BitVec (highSize + lowSize) :=
  -- The two sizes add up to 64 at most, so `to_ullong` does not throw here.
  let highBitsPart : BitVec (highSize + lowSize) :=
    (highBits.setWidth 64).setWidth (highSize + lowSize)
  let lowBitsPart : BitVec (highSize + lowSize) :=
    (lowBits.setWidth 64).setWidth (highSize + lowSize)
  let newBits := (highBitsPart <<< lowSize) ||| lowBitsPart
  (newBits.setWidth 64).setWidth (highSize + lowSize)

def grayToBinary (grayVal : BitVec w) : BitVec w :=
  go grayVal grayVal
where
  go (grayVal binVal : BitVec w) : BitVec w :=
    if grayVal > 0#w then
      let grayVal' := grayVal >>> 1
      go grayVal' (binVal ^^^ grayVal')
    else
      binVal
  termination_by grayVal.toNat
  decreasing_by
    apply Gray.toNat_shiftRight_one_lt
    exact (BitVec.pos_iff_ne_zero grayVal).mp (by assumption)

end Srs
