import SrsDaq.Data.Bytes

/-!
This module contains what the program uses of the archives of `zpp::bits`, always opened with
`endian::network` and `no_size`. The library itself is a parameter: `ZppBits` are its two entry
points and `ZppBits.Lawful` is what it documents about them.
-/

structure WireFormat (H : Type) where
  size : Nat
  ofBytes : List Byte → H
  toBytes : H → List Byte
  length_toBytes : ∀ h, (toBytes h).length = size
  ofBytes_toBytes : ∀ h, ofBytes (toBytes h) = h

inductive OutValue (H : Type) where
  | uint8 (val : BitVec 8)
  | uint16 (val : BitVec 16)
  | uint32 (val : BitVec 32)
  | uint64 (val : BitVec 64)
  | header (val : H)
  -- a `std::vector<uint32_t>` and a `std::vector<std::bitset<w>>`
  | uint32s (vals : List (BitVec 32))
  | bitsets (w : Nat) (vals : List (BitVec w))

namespace OutValue

/--
Integers are written most significant byte first, a `std::bitset` with its low 8 bits first, and no
container is preceded by its size.
-/
def toBytes (format : WireFormat H) : OutValue H → List Byte
  | .uint8 val => [val]
  | .uint16 val => Bytes.toBE 2 val.toNat
  | .uint32 val => Bytes.toBE 4 val.toNat
  | .uint64 val => Bytes.toBE 8 val.toNat
  | .header val => format.toBytes val
  | .uint32s vals => vals.flatMap fun val => Bytes.toBE 4 val.toNat
  | .bitsets w vals => vals.flatMap fun val => Bytes.toLE (w / 8) val.toNat

end OutValue

structure ZppBits (H : Type) where
  -- `zpp::bits::in{ data }(header, body)`: what it leaves in `header` and `body`, and whether it
  -- succeeded.
  read : (w : Nat) → (data : List Byte) → H → List (BitVec w) → (H × List (BitVec w)) × Bool
  -- `zpp::bits::out{ data }(values...)` after its position was set: what it leaves in `data`.
  write : (data : List Byte) → (position : Nat) → List (OutValue H) → List Byte

namespace ZppBits

def readBitsets (w : Nat) (data : List Byte) : List (BitVec w) :=
  (Bytes.groups (w / 8) data).map fun group => BitVec.ofNat w (Bytes.ofLE group)

structure Lawful (zpp : ZppBits H) (format : WireFormat H) : Prop where
  -- With enough bytes the header is read, then as many elements as `body` holds.
  read_eq : ∀ (w : Nat) (data : List Byte) (header : H) (body : List (BitVec w)),
    8 ∣ w →
    format.size + w / 8 * body.length ≤ data.length →
      zpp.read w data header body
        =
      ((format.ofBytes (data.take format.size),
        readBitsets w ((data.drop format.size).take (w / 8 * body.length))), true)
  -- Writing starts at the position, and the data ends where the last value does when this is not
  -- before its old end.
  write_eq : ∀ (data : List Byte) (position : Nat) (values : List (OutValue H)),
    position ≤ data.length →
    data.length ≤ position + (values.flatMap (OutValue.toBytes format)).length →
      zpp.write data position values
        =
      data.take position ++ values.flatMap (OutValue.toBytes format)

/--
Archives that do what `Lawful` says and no more: a failed read leaves its targets alone.
-/
def reference (format : WireFormat H) : ZppBits H where
  read w data header body :=
    if format.size + w / 8 * body.length ≤ data.length then
      ((format.ofBytes (data.take format.size),
        readBitsets w ((data.drop format.size).take (w / 8 * body.length))), true)
    else
      ((header, body), false)
  write data position values :=
    let bytes := values.flatMap (OutValue.toBytes format)
    data.take position ++ bytes ++ data.drop (position + bytes.length)

theorem reference_lawful (format : WireFormat H) : (reference format).Lawful format where
  read_eq := by
    intro w data header body _ hlen
    simp [reference, hlen]
  write_eq := by
    intro data position values _ hlen
    simp only [reference]
    rw [List.drop_eq_nil_of_le hlen, List.append_nil]

end ZppBits
