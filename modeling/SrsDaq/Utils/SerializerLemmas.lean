import SrsDaq.Analysis.DataStructs
import SrsDaq.Utils.CommonFunctionsLemmas
import SrsDaq.Utils.Serializer

/-!
This module contains the specifications of `serialize` and `deserialize`: what one appends to the
buffer, what the other reads out of it, and how far they undo each other.
-/

namespace Srs
namespace SerializableMsgBuffer

def bigEndianElements (w : Nat) (data : List Byte) : List (BitVec w) :=
  (Bytes.groups (w / 8) data).map fun group => BitVec.ofNat w (Bytes.ofBE group)

theorem toNat_vectorSize {size sizeofHeader elementBytes : Nat} (hsize : size < 2 ^ 64)
    (hheader : sizeofHeader ≤ size) (helement : elementBytes < 2 ^ 64)
    : ((BitVec.ofNat 64 size - BitVec.ofNat 64 sizeofHeader) / BitVec.ofNat 64 elementBytes).toNat
        =
      (size - sizeofHeader) / elementBytes := by
  have hsub : (BitVec.ofNat 64 size - BitVec.ofNat 64 sizeofHeader).toNat = size - sizeofHeader := by
    simp only [BitVec.toNat_sub, BitVec.toNat_ofNat]
    omega
  rw [BitVec.toNat_udiv, hsub, BitVec.toNat_ofNat, Nat.mod_eq_of_lt helement]

theorem byteSwap_readBitsets {w : Nat} (hbytes : 8 ∣ w) (hpos : 0 < w) (hmax : w ≤ 64)
    (data : List Byte)
    : (ZppBits.readBitsets w data).map byteSwap = bigEndianElements w data := by
  rcases hbytes with ⟨k, rfl⟩
  have hdiv : 8 * k / 8 = k := by omega
  simp only [ZppBits.readBitsets, bigEndianElements, hdiv, List.map_map]
  apply List.map_congr_left
  intro group hgroup
  have hlen : group.length = k := Bytes.length_of_mem_groups hgroup
  have hlt : Bytes.ofLE group < 2 ^ (8 * k) := by
    rw [Nat.pow_mul, ← hlen]
    apply Bytes.ofLE_lt group
  simp only [Function.comp_apply]
  rw [byteSwap_eq_ofBE (by omega), BitVec.toNat_ofNat, Nat.mod_eq_of_lt hlt, ← hlen,
    Bytes.toLE_ofLE]

/--
The shift of `byteSwap` to the left and its truncation lose no bit, the byte `i` of the result is the
byte `i` from the top, and on the elements of a buffer it turns the little endian reading into the
big endian one.
-/
theorem byteSwap_reverses_bytes {n : Nat} (hbytes : 8 ∣ n) (hmin : 8 ≤ n) (hmax : n ≤ 64)
    (bits : BitVec n) (data : List Byte)
    : (∀ i, i < n / 8 →
          (byteSwap bits).extractLsb' (8 * i) 8 = bits.extractLsb' (8 * (n / 8 - 1 - i)) 8) ∧
      (bits.setWidth 64 <<< (64 - n)).toNat = bits.toNat * 2 ^ (64 - n) ∧
      (byteSwap bits).setWidth 64 = byteswapUint64 (bits.setWidth 64 <<< (64 - n)) ∧
      byteSwap (byteSwap bits) = bits ∧
      (ZppBits.readBitsets n data).map byteSwap = bigEndianElements n data := by
  have helements := byteSwap_readBitsets hbytes (by omega) hmax data
  have hshift := toNat_setWidth_shiftLeft hmax bits
  rcases hbytes with ⟨k, rfl⟩
  have hk : k ≤ 8 := by omega
  refine ⟨?_, hshift, ?_, byteSwap_byteSwap hk bits, helements⟩
  . intro i hi
    rw [Nat.mul_div_cancel_left k (by omega)] at hi ⊢
    apply extractLsb'_byteSwap hk bits hi
  . apply BitVec.eq_of_toNat_eq
    have hlt : (byteSwap bits).toNat < 2 ^ 64 := by
      apply Nat.lt_of_lt_of_le (byteSwap bits).isLt
      apply Nat.pow_le_pow_right (by omega) hmax
    rw [BitVec.toNat_setWidth, Nat.mod_eq_of_lt hlt, toNat_byteSwap hk,
      toNat_byteswapUint64_shiftLeft hk]

theorem byteSwap_reverses_bytes_example
    : byteSwap (byteSwap 0x0a0b0c0d0e0f#48) = 0x0a0b0c0d0e0f#48 ∧
      (ZppBits.readBitsets 48 [0x0a, 0x0b, 0x0c, 0x0d, 0x0e, 0x0f, 0x01]).map byteSwap
        = [0x0a0b0c0d0e0f#48] := by
  have h := byteSwap_reverses_bytes (by decide) (by decide) (by decide) 0x0a0b0c0d0e0f#48
    [0x0a, 0x0b, 0x0c, 0x0d, 0x0e, 0x0f, 0x01]
  exact ⟨h.2.2.2.1, h.2.2.2.2⟩

@[simp]
theorem length_resize (vectorSize : Nat) (body : List (BitVec w))
    : (resize vectorSize body).length = vectorSize := by
  simp only [resize, List.length_append, List.length_take, List.length_replicate]
  omega

theorem bigEndianElements_take (w : Nat) (data : List Byte)
    : bigEndianElements w (data.take (w / 8 * (data.length / (w / 8)))) = bigEndianElements w data := by
  unfold bigEndianElements
  rw [Nat.mul_comm, Bytes.groups_take]

theorem bigEndianElements_flatMap {w : Nat} (hbytes : 8 ∣ w) (hpos : 0 < w) (vals : List (BitVec w))
    : bigEndianElements w (vals.flatMap fun val => Bytes.toBE (w / 8) val.toNat) = vals := by
  rcases hbytes with ⟨k, rfl⟩
  have hdiv : 8 * k / 8 = k := by omega
  have hpow : 2 ^ (8 * k) ≤ 256 ^ k := by
    rw [Nat.pow_mul]
  rw [bigEndianElements, Bytes.groups_flatMap (by omega) fun val => Bytes.length_toBE _ _,
    List.map_map, hdiv]
  apply List.map_id''
  intro val
  apply Bytes.ofNat_ofBE_toBE hpow

theorem deserialize_returned {zpp : ZppBits H} {format : WireFormat H} (hzpp : zpp.Lawful format)
    {sizeofHeader : Nat} (hformat : format.size ≤ sizeofHeader)
    {w : Nat} (hbytes : 8 ∣ w) (hpos : 0 < w) (hmax : w ≤ 64)
    (buf : SerializableMsgBuffer) (hbuf : buf.data.length < 2 ^ 64)
    (hheader : sizeofHeader ≤ buf.data.length)
    (hcount : (buf.data.length - sizeofHeader) / (w / 8) ≤ maxSize) (header : H)
    (body : List (BitVec w))
    : deserialize zpp sizeofHeader buf header body
        =
      .returned (format.ofBytes (buf.data.take format.size),
        bigEndianElements w ((buf.data.drop format.size).take
          (w / 8 * ((buf.data.length - sizeofHeader) / (w / 8))))) := by
  have hsize := toNat_vectorSize hbuf hheader (by omega : w / 8 < 2 ^ 64)
  have hle : w / 8 * ((buf.data.length - sizeofHeader) / (w / 8)) ≤ buf.data.length - sizeofHeader :=
    Nat.mul_div_le _ _
  unfold deserialize
  simp only [byteBitLength, hsize, gt_iff_lt, Nat.not_lt.mpr hcount, BitVec.not_lt_zero, ↓reduceIte]
  rw [hzpp.read_eq]
  . simp only [List.length_map, length_resize]
    rw [byteSwap_readBitsets hbytes hpos hmax]
  . exact hbytes
  . simp only [List.length_map, length_resize]
    omega

theorem deserialize_eq {zpp : ZppBits H} {format : WireFormat H} (hzpp : zpp.Lawful format)
    {w : Nat} (hbytes : 8 ∣ w) (hpos : 0 < w) (hmax : w ≤ 64)
    (buf : SerializableMsgBuffer) (hbuf : buf.data.length < 2 ^ 64)
    (hheader : format.size ≤ buf.data.length)
    (hcount : (buf.data.length - format.size) / (w / 8) ≤ maxSize) (header : H)
    (body : List (BitVec w))
    : deserialize zpp format.size buf header body
        =
      .returned (format.ofBytes (buf.data.take format.size),
        bigEndianElements w (buf.data.drop format.size)) := by
  rw [deserialize_returned hzpp (Nat.le_refl _) hbytes hpos hmax buf hbuf hheader hcount,
    ← List.length_drop, bigEndianElements_take]

/-
The sizes that `deserialize` computes.
-/

def wrongHeaderType : Exception :=
  .runtimeError "Deserialization: Wrong header type!"

/--
The subtraction gives the difference, `deserialize` raises its own error on the buffers that are
shorter than the header and changes nothing then, and on the others it reads as many elements as the
buffer holds behind the header.
-/
structure SizesFit (zpp : ZppBits H) (format : WireFormat H) (sizeofHeader : Nat)
    (buf : SerializableMsgBuffer) (header : H) (body : List (BitVec w)) : Prop where
  difference : ((BitVec.ofNat 64 buf.data.length - BitVec.ofNat 64 sizeofHeader).toNat : Int)
    = (buf.data.length : Int) - sizeofHeader
  raises : (∃ filled, deserialize zpp sizeofHeader buf header body = .raised wrongHeaderType filled)
    ↔ buf.data.length < sizeofHeader
  unchanged : buf.data.length < sizeofHeader →
    (deserialize zpp sizeofHeader buf header body).state = (header, body)
  reads : sizeofHeader ≤ buf.data.length → ∃ filled elements,
    deserialize zpp sizeofHeader buf header body = .returned (filled, elements) ∧
    elements.length = (buf.data.length - sizeofHeader) / (w / 8) ∧
    format.size + w / 8 * elements.length ≤ buf.data.length

theorem toNat_sub_of_short {size sizeofHeader : Nat} (hheader : sizeofHeader < 2 ^ 63)
    (hshort : size < sizeofHeader)
    : (BitVec.ofNat 64 size - BitVec.ofNat 64 sizeofHeader).toNat
        =
      2 ^ 64 - (sizeofHeader - size) := by
  simp only [BitVec.toNat_sub, BitVec.toNat_ofNat]
  omega

/--
A short buffer passes the test for the wrong header type, and it asks for more elements than any
vector can hold.
-/
theorem deserialize_short (zpp : ZppBits H) {sizeofHeader : Nat} (hsizeof : sizeofHeader < 2 ^ 63)
    {w : Nat} (hpos : 8 ≤ w) (hmax : w ≤ 64) {buf : SerializableMsgBuffer}
    (hshort : buf.data.length < sizeofHeader) (header : H) (body : List (BitVec w))
    : deserialize zpp sizeofHeader buf header body = .raised .lengthError (header, body) := by
  have hdiv : 0 < w / 8 ∧ w / 8 ≤ 8 := by omega
  have hsub := toNat_sub_of_short hsizeof hshort
  have hcount : maxSize
      < ((BitVec.ofNat 64 buf.data.length - BitVec.ofNat 64 sizeofHeader)
          / BitVec.ofNat 64 (w / 8)).toNat := by
    rw [BitVec.toNat_udiv, hsub, BitVec.toNat_ofNat, Nat.mod_eq_of_lt (by omega), maxSize]
    calc 2 ^ 60 - 1 < 2 ^ 63 / 8 := by decide
      _ ≤ (2 ^ 64 - (sizeofHeader - buf.data.length)) / 8 := Nat.div_le_div_right (by omega)
      _ ≤ (2 ^ 64 - (sizeofHeader - buf.data.length)) / (w / 8) :=
        Nat.div_le_div_left hdiv.2 hdiv.1
  unfold deserialize
  dsimp only
  rw [if_neg BitVec.not_lt_zero, if_pos hcount]

theorem serialize_eq {zpp : ZppBits H} {format : WireFormat H} (hzpp : zpp.Lawful format)
    (buf : SerializableMsgBuffer) (structs : List (OutValue H))
    : serialize zpp buf structs = ⟨buf.data ++ structs.flatMap (OutValue.toBytes format)⟩ := by
  unfold serialize
  simp only [Nat.zero_add, SerializableMsgBuffer.mk.injEq]
  rw [hzpp.write_eq]
  . rw [List.take_length]
  . omega
  . omega

theorem serialize_serialize {zpp : ZppBits H} {format : WireFormat H}
    (hzpp : zpp.Lawful format) (buf : SerializableMsgBuffer) (structs structs' : List (OutValue H))
    : serialize zpp (serialize zpp buf structs) structs' = serialize zpp buf (structs ++ structs') := by
  simp only [serialize_eq hzpp, List.flatMap_append, List.append_assoc]

/--
What comes back after a header and a vector were serialized into an empty buffer: the reading side
swaps bytes that the writing side did not swap.
-/
theorem deserialize_serialize {zpp : ZppBits H} {format : WireFormat H} (hzpp : zpp.Lawful format)
    {w : Nat} (hbytes : 8 ∣ w) (hpos : 0 < w) (hmax : w ≤ 64) (hformat : format.size < 2 ^ 32)
    (h : H) (v : StdVector (BitVec w)) (header : H) (body : List (BitVec w))
    : deserialize zpp format.size (serialize zpp {} [.header h, .bitsets w v.toList]) header body
        =
      .returned (h, v.toList.map byteSwap) := by
  rcases hbytes with ⟨k, rfl⟩
  have hdiv : 8 * k / 8 = k := by omega
  have hk : 0 < k := by omega
  have hdata : (serialize zpp {} [.header h, .bitsets (8 * k) v.toList]).data
      = format.toBytes h ++ v.toList.flatMap fun x => Bytes.toLE k x.toNat := by
    rw [serialize_eq hzpp]
    simp [OutValue.toBytes]
  have hgroups := Bytes.groups_flatMap hk (f := fun x : BitVec (8 * k) => Bytes.toLE k x.toNat)
    (fun x => Bytes.length_toLE _ _) v.toList
  have hsum : (v.toList.flatMap fun x => Bytes.toLE k x.toNat).length = v.toList.length * k := by
    simp [List.length_flatMap]
  have hv := v.size_le
  have hdatalen : (serialize zpp {} [.header h, .bitsets (8 * k) v.toList]).data.length
      = format.size + v.toList.length * k := by
    rw [hdata, List.length_append, format.length_toBytes, hsum]
  have hbound : v.toList.length * k ≤ maxSize * 8 := Nat.mul_le_mul hv (by omega)
  simp only [maxSize] at hbound
  rw [deserialize_eq hzpp ⟨k, rfl⟩ hpos hmax]
  . rw [hdata, List.take_left' (format.length_toBytes h), List.drop_left' (format.length_toBytes h),
      format.ofBytes_toBytes]
    simp only [bigEndianElements, hdiv, hgroups, List.map_map, Outcome.returned.injEq, Prod.mk.injEq,
      true_and]
    apply List.map_congr_left
    intro x _
    rw [byteSwap_eq_ofBE (by omega)]
    rfl
  . omega
  . omega
  . rw [hdatalen, hdiv, Nat.add_sub_cancel_left, Nat.mul_div_cancel _ hk]
    exact hv

def roundTrip (zpp : ZppBits ReceiveDataHeader) (h : ReceiveDataHeader) (v : ReceiveDataSquence)
    (header : ReceiveDataHeader) (body : ReceiveDataSquence)
    : Outcome (ReceiveDataHeader × ReceiveDataSquence) :=
  let buf := serialize zpp {} [.header h, .bitsets hitDataBitLength v]
  deserialize zpp ReceiveDataHeader.sizeof buf header body

/--
`deserialize` undoes `serialize` exactly on the vectors whose elements read the same from both ends.
-/
theorem roundTrip_iff_palindromes {zpp : ZppBits ReceiveDataHeader}
    (hzpp : zpp.Lawful ReceiveDataHeader.wireFormat) (h : ReceiveDataHeader)
    (v : StdVector DataElementType) (header : ReceiveDataHeader) (body : ReceiveDataSquence)
    : roundTrip zpp h v.toList header body = .returned (h, v.toList)
        ↔
      ∀ x, x ∈ v.toList →
        ∀ i, i < 6 → x.extractLsb' (8 * i) 8 = x.extractLsb' (8 * (5 - i)) 8 := by
  have hsize : ReceiveDataHeader.sizeof = ReceiveDataHeader.wireFormat.size := by rfl
  unfold roundTrip
  rw [hsize, deserialize_serialize hzpp (by decide) (by decide) (by decide) (by decide)]
  simp only [Outcome.returned.injEq, Prod.mk.injEq, true_and]
  have hmap : v.toList.map byteSwap = v.toList ↔ ∀ x, x ∈ v.toList → byteSwap x = x := by
    simpa using List.map_inj_left (l := v.toList) (f := byteSwap) (g := id)
  rw [hmap]
  apply forall₂_congr fun x _ => byteSwap_eq_self_iff (k := 6) (by decide) x

theorem roundTrip_palindromes_example
    : roundTrip (ZppBits.reference ReceiveDataHeader.wireFormat) { frameCounter := 7 }
          [0x0a0b0c0c0b0a, 0] {} [1]
        =
      .returned ({ frameCounter := 7 }, [0x0a0b0c0c0b0a, 0]) := by
  have h := roundTrip_iff_palindromes (ZppBits.reference_lawful _) { frameCounter := 7 }
    ⟨[0x0a0b0c0c0b0a, 0], by simp [maxSize]⟩ {} [1]
  apply h.mpr
  intro x hx
  simp only [List.mem_cons, List.not_mem_nil, or_false] at hx
  rcases hx with rfl | rfl
  . decide
  . decide

theorem roundTrip_one
    : roundTrip (ZppBits.reference ReceiveDataHeader.wireFormat) {} [1] {} []
        =
      .returned ({}, [0x010000000000])
        ∧
      roundTrip (ZppBits.reference ReceiveDataHeader.wireFormat) {} [1] {} []
        ≠
      .returned ({}, [1]) := by
  decide +kernel

/--
The sizes are right exactly on the buffers that are not shorter than the header.
-/
theorem sizesFit_iff {zpp : ZppBits H} {format : WireFormat H} (hzpp : zpp.Lawful format)
    {sizeofHeader : Nat} (hsizeof : sizeofHeader < 2 ^ 63) (hformat : format.size ≤ sizeofHeader)
    {w : Nat} (hbytes : 8 ∣ w) (hpos : 0 < w) (hmax : w ≤ 64) (data : StdVector Byte)
    (header : H) (body : List (BitVec w))
    : SizesFit zpp format sizeofHeader ⟨data.toList⟩ header body
        ↔
      sizeofHeader ≤ data.toList.length := by
  have hdata := data.size_le
  simp only [maxSize] at hdata
  constructor
  . intro hfits
    by_contra hnot
    rcases hfits.raises.mpr (by simpa using hnot) with ⟨filled, hraised⟩
    rw [deserialize_short zpp hsizeof (by omega) hmax (by simpa using hnot)] at hraised
    cases hraised
  . intro hheader
    have hcount : (data.toList.length - sizeofHeader) / (w / 8) ≤ maxSize := by
      apply Nat.le_trans (Nat.div_le_self _ _)
      simp only [maxSize]
      omega
    have hmul := Nat.mul_div_le (data.toList.length - sizeofHeader) (w / 8)
    have hreturned := deserialize_returned hzpp hformat hbytes hpos hmax ⟨data.toList⟩
      (by simp only; omega) hheader hcount header body
    have hlength : (bigEndianElements w ((data.toList.drop format.size).take
        (w / 8 * ((data.toList.length - sizeofHeader) / (w / 8))))).length
        = (data.toList.length - sizeofHeader) / (w / 8) := by
      simp only [bigEndianElements, List.length_map, Bytes.length_groups, List.length_take,
        List.length_drop]
      rw [Nat.min_eq_left (by omega), Nat.mul_div_cancel_left _ (by omega)]
    constructor
    . simp only [BitVec.toNat_sub, BitVec.toNat_ofNat]
      omega
    . rw [hreturned]
      simpa using hheader
    . intro hshort
      apply absurd hheader (Nat.not_le.mpr hshort)
    . intro _
      refine ⟨_, _, hreturned, hlength, ?_⟩
      rw [hlength]
      simp only
      omega

def oneHit : StdVector Byte where
  toList := List.replicate 22 0
  size_le := by simp [maxSize]

theorem sizesFit_one_hit
    : SizesFit (ZppBits.reference ReceiveDataHeader.wireFormat) ReceiveDataHeader.wireFormat
        ReceiveDataHeader.sizeof ⟨oneHit.toList⟩ {} ([] : ReceiveDataSquence) := by
  rw [sizesFit_iff (ZppBits.reference_lawful _) (by decide) (by decide) (by decide) (by decide)
    (by decide)]
  decide

theorem empty_buffer_raises_lengthError
    : deserialize (ZppBits.reference ReceiveDataHeader.wireFormat) ReceiveDataHeader.sizeof {} {}
          ([] : ReceiveDataSquence)
        =
      .raised .lengthError ({}, [])
        ∧
      ¬ SizesFit (ZppBits.reference ReceiveDataHeader.wireFormat) ReceiveDataHeader.wireFormat
          ReceiveDataHeader.sizeof {} {} ([] : ReceiveDataSquence) := by
  have hraised : deserialize (ZppBits.reference ReceiveDataHeader.wireFormat)
      ReceiveDataHeader.sizeof {} {} ([] : ReceiveDataSquence) = .raised .lengthError ({}, []) := by
    apply deserialize_short <;> decide
  refine ⟨hraised, ?_⟩
  intro hfits
  rcases hfits.raises.mpr (by decide) with ⟨filled, hown⟩
  rw [hraised] at hown
  cases hown

end SerializableMsgBuffer
end Srs
