import SrsDaq.Analysis.DataProcessor
import SrsDaq.Utils.CommonFunctionsLemmas

/-!
This module contains the correspondence between the 48 bit elements of a frame and the hits and
markers that they are decoded into.
-/

namespace Srs

theorem toNat_convertTo (rawData : DataElementType)
    : (convertTo rawData).toNat = rawData.toNat * 2 ^ 16 := by
  have hlt : rawData.toNat < 2 ^ 48 := rawData.isLt
  have hpow : 2 ^ (64 - hitDataBitLength) = 2 ^ 16 := by rfl
  unfold convertTo
  rw [BitVec.toNat_shiftLeft, BitVec.toNat_setWidth, Nat.shiftLeft_eq, hpow]
  omega

theorem toNat_read_convertTo (rawData : DataElementType) (offset width : Nat)
    : (BitField.read (convertTo rawData) (16 + offset) width).toNat
        =
      rawData.toNat / 2 ^ offset % 2 ^ width := by
  rw [BitField.toNat_read, toNat_convertTo, Nat.pow_add, Nat.mul_comm rawData.toNat,
    Nat.mul_div_mul_left _ _ (by omega)]

theorem toNat_bits (e : DataElementType) (offset width : Nat)
    : (e.extractLsb' offset width).toNat = e.toNat / 2 ^ offset % 2 ^ width := by
  rw [BitVec.extractLsb'_toNat, Nat.shiftRight_eq_div_pow]

theorem toNat_field (e : DataElementType) (offset : Nat) {width size : Nat} (h : width ≤ size)
    : ((BitField.read (convertTo e) (16 + offset) width).setWidth size).toNat
        =
      (e.extractLsb' offset width).toNat := by
  rw [BitVec.toNat_setWidth, toNat_read_convertTo, toNat_bits]
  apply Nat.mod_eq_of_lt
  apply Nat.lt_of_lt_of_le (Nat.mod_lt _ (Nat.two_pow_pos width))
  apply Nat.pow_le_pow_right (by omega) h

theorem toNat_getLsbD (e : DataElementType) (i : Nat)
    : (e.getLsbD i).toNat = e.toNat / 2 ^ i % 2 ^ 1 := by
  rw [BitVec.getLsbD, Nat.toNat_testBit, Nat.pow_one]

theorem read_bit (e : DataElementType) (i : Nat)
    : BitField.read (convertTo e) (16 + i) 1 = BitVec.ofBool (e.getLsbD i) := by
  apply BitVec.eq_of_toNat_eq
  rw [toNat_read_convertTo, BitVec.toNat_ofBool, toNat_getLsbD]

theorem ofBool_bne_zero (b : Bool) : (BitVec.ofBool b != 0) = b := by
  cases b <;> rfl

namespace HitData

def wireWidths : List Nat :=
  [8, 6, 1, 1, 12, 10, 5, 5]

def wireFields (hit : HitData) : List Nat :=
  [hit.tdc.toNat, hit.channelNum.toNat, hit.isOverThreshold.toNat, 1,
    (Gray.encode hit.bcId).toNat, hit.adc.toNat, hit.vmmId.toNat, hit.offset.toNat]

def toRaw (hit : HitData) : DataElementType :=
  BitVec.ofNat hitDataBitLength (BitField.pack wireWidths hit.wireFields)

structure InRange (hit : HitData) : Prop where
  channelNum : hit.channelNum.toNat < 2 ^ 6
  offset : hit.offset.toNat < 2 ^ 5
  vmmId : hit.vmmId.toNat < 2 ^ 5
  adc : hit.adc.toNat < 2 ^ 10
  bcId : hit.bcId.toNat < 2 ^ 12

structure DecodedFrom (hit : HitData) (e : DataElementType) : Prop where
  tdc : hit.tdc.toNat = (e.extractLsb' 0 8).toNat
  channelNum : hit.channelNum.toNat = (e.extractLsb' 8 6).toNat
  isOverThreshold : hit.isOverThreshold = e.getLsbD 14
  bcId : (Gray.encode hit.bcId).toNat = (e.extractLsb' 16 12).toNat
  bcId_lt : hit.bcId.toNat < 2 ^ 12
  adc : hit.adc.toNat = (e.extractLsb' 28 10).toNat
  vmmId : hit.vmmId.toNat = (e.extractLsb' 38 5).toNat
  offset : hit.offset.toNat = (e.extractLsb' 43 5).toNat

theorem ofRaw_decodedFrom (e : DataElementType) : (ofRaw e).DecodedFrom e where
  tdc := toNat_field e 0 (by omega)
  channelNum := toNat_field e 8 (by omega)
  isOverThreshold := by
    have hread : (ofRaw e).isOverThreshold = (BitField.read (convertTo e) (16 + 14) 1 != 0) := by
      rfl
    rw [hread, read_bit, ofBool_bne_zero]
  bcId := by
    have hgray : Gray.encode (ofRaw e).bcId
        = (BitField.read (convertTo e) (16 + 16) 12).setWidth 16 :=
      grayToBinary_isDecoder.encode_decode _
    rw [hgray]
    apply toNat_field e 16 (by omega)
  bcId_lt := by
    have hlt : ((BitField.read (convertTo e) (16 + 16) 12).setWidth 16).toNat < 2 ^ 12 := by
      rw [toNat_field e 16 (by omega)]
      apply BitVec.isLt
    exact (grayToBinary_isDecoder.lt_two_pow_iff _ 12).mpr hlt
  adc := toNat_field e 28 (by omega)
  vmmId := toNat_field e 38 (by omega)
  offset := toNat_field e 43 (by omega)

theorem DecodedFrom.inRange {hit : HitData} {e : DataElementType} (h : hit.DecodedFrom e)
    : hit.InRange where
  channelNum := by
    rw [h.channelNum]
    apply BitVec.isLt
  offset := by
    rw [h.offset]
    apply BitVec.isLt
  vmmId := by
    rw [h.vmmId]
    apply BitVec.isLt
  adc := by
    rw [h.adc]
    apply BitVec.isLt
  bcId := h.bcId_lt

theorem fits_wireFields {hit : HitData} (h : hit.InRange)
    : BitField.Fits wireWidths hit.wireFields := by
  have hcode : (Gray.encode hit.bcId).toNat < 2 ^ 12 := by
    rw [← grayToBinary_isDecoder.lt_two_pow_iff, grayToBinary_isDecoder.decode_encode]
    apply h.bcId
  have hover : hit.isOverThreshold.toNat < 2 ^ 1 := hit.isOverThreshold.toNat_lt
  exact .cons hit.tdc.isLt (.cons h.channelNum (.cons hover (.cons (by decide) (.cons hcode
    (.cons h.adc (.cons h.vmmId (.cons h.offset .nil)))))))

theorem DecodedFrom.unpack_eq {hit : HitData} {e : DataElementType} (h : hit.DecodedFrom e)
    (hflag : e.getLsbD 15 = true)
    : BitField.unpack wireWidths e.toNat = hit.wireFields := by
  have hflagNat : e.toNat / 2 ^ 15 % 2 ^ 1 = 1 := by
    rw [← toNat_getLsbD, hflag]
    rfl
  have hover : hit.isOverThreshold.toNat = e.toNat / 2 ^ 14 % 2 ^ 1 := by
    rw [h.isOverThreshold, toNat_getLsbD]
  simp only [wireFields, h.tdc, h.channelNum, hover, h.bcId, h.adc, h.vmmId, h.offset, toNat_bits]
  simp only [wireWidths, BitField.unpack, Nat.div_div_eq_div_mul, ← Nat.pow_add, Nat.pow_zero,
    Nat.div_one, Nat.reduceAdd, hflagNat]

theorem wireFields_injective {hit hit' : HitData} (h : hit.wireFields = hit'.wireFields)
    : hit = hit' := by
  rcases hit with ⟨isOver, channelNum, tdc, offset, vmmId, adc, bcId⟩
  rcases hit' with ⟨isOver', channelNum', tdc', offset', vmmId', adc', bcId'⟩
  simp only [wireFields, List.cons.injEq, BitVec.toNat_inj, and_true, true_and] at h
  rcases h with ⟨htdc, hchannel, hover, hcode, hadc, hvmm, hoffset⟩
  have hbc : bcId = bcId' := by
    rw [← grayToBinary_isDecoder.decode_encode bcId, hcode, grayToBinary_isDecoder.decode_encode]
  have hover' : isOver = isOver' := by
    revert hover
    cases isOver <;> cases isOver' <;> simp
  simp only [htdc, hchannel, hover', hbc, hadc, hvmm, hoffset]

theorem toRaw_ofRaw {e : DataElementType} (hflag : e.getLsbD 15 = true) : (ofRaw e).toRaw = e := by
  apply BitField.ofNat_pack_of_unpack_eq wireWidths
  apply (ofRaw_decodedFrom e).unpack_eq hflag

theorem unpack_toRaw {hit : HitData} (h : hit.InRange)
    : BitField.unpack wireWidths hit.toRaw.toNat = hit.wireFields := by
  apply BitField.unpack_ofNat_pack wireWidths
  apply fits_wireFields h

theorem getLsbD_toRaw_flag {hit : HitData} (h : hit.InRange) : hit.toRaw.getLsbD 15 = true := by
  have hflag : hit.toRaw.toNat / 2 ^ 15 % 2 ^ 1 = 1 := by
    have := congrArg (fun fields => fields[3]?) (unpack_toRaw h)
    simpa [wireWidths, wireFields, BitField.unpack, Nat.div_div_eq_div_mul] using this
  rw [← toNat_getLsbD] at hflag
  simpa using hflag

theorem ofRaw_toRaw {hit : HitData} (h : hit.InRange) : ofRaw hit.toRaw = hit := by
  apply wireFields_injective
  rw [← (ofRaw_decodedFrom hit.toRaw).unpack_eq (getLsbD_toRaw_flag h), unpack_toRaw h]

end HitData

namespace MarkerData

def wireWidths : List Nat :=
  [srsTimestampLowBitLength, 5, 1, srsTimestampHighBitLength]

def wireFields (marker : MarkerData) : List Nat :=
  [marker.srsTimestamp.toNat % 2 ^ srsTimestampLowBitLength, marker.vmmId.toNat, 0,
    marker.srsTimestamp.toNat / 2 ^ srsTimestampLowBitLength]

def toRaw (marker : MarkerData) : DataElementType :=
  BitVec.ofNat hitDataBitLength (BitField.pack wireWidths marker.wireFields)

structure InRange (marker : MarkerData) : Prop where
  vmmId : marker.vmmId.toNat < 2 ^ 5
  srsTimestamp : marker.srsTimestamp.toNat < 2 ^ 42

structure DecodedFrom (marker : MarkerData) (e : DataElementType) : Prop where
  vmmId : marker.vmmId.toNat = (e.extractLsb' 10 5).toNat
  srsTimestamp : marker.srsTimestamp.toNat
    = (e.extractLsb' 16 32).toNat * 2 ^ 10 + (e.extractLsb' 0 10).toNat

theorem ofRaw_decodedFrom (e : DataElementType) : (ofRaw e).DecodedFrom e where
  vmmId := toNat_field e 10 (by omega)
  srsTimestamp := by
    have hhigh : (((BitField.read (convertTo e) (16 + 16) 32).setWidth 32).setWidth 32).toNat
        = (e.extractLsb' 16 32).toNat := by
      rw [BitVec.setWidth_eq, toNat_field e 16 (by omega)]
    have hlow : (((BitField.read (convertTo e) (16 + 0) 10).setWidth 32).setWidth 10).toNat
        = (e.extractLsb' 0 10).toNat := by
      rw [BitVec.toNat_setWidth, toNat_field e 0 (by omega)]
      apply Nat.mod_eq_of_lt (BitVec.isLt _)
    have hstamp : (ofRaw e).srsTimestamp
        = (mergeBits (((BitField.read (convertTo e) (16 + 16) 32).setWidth 32).setWidth 32)
            (((BitField.read (convertTo e) (16 + 0) 10).setWidth 32).setWidth 10)).setWidth 64 := by
      rfl
    rw [hstamp, BitVec.toNat_setWidth, toNat_mergeBits _ _ (by omega), hhigh, hlow]
    have hhigh' : (e.extractLsb' 16 32).toNat < 2 ^ 32 := BitVec.isLt _
    have hlow' : (e.extractLsb' 0 10).toNat < 2 ^ 10 := BitVec.isLt _
    omega

theorem DecodedFrom.inRange {marker : MarkerData} {e : DataElementType} (h : marker.DecodedFrom e)
    : marker.InRange where
  vmmId := by
    rw [h.vmmId]
    apply BitVec.isLt
  srsTimestamp := by
    rw [h.srsTimestamp]
    have hhigh : (e.extractLsb' 16 32).toNat < 2 ^ 32 := BitVec.isLt _
    have hlow : (e.extractLsb' 0 10).toNat < 2 ^ 10 := BitVec.isLt _
    omega

theorem fits_wireFields {marker : MarkerData} (h : marker.InRange)
    : BitField.Fits wireWidths marker.wireFields := by
  have hhigh : marker.srsTimestamp.toNat / 2 ^ srsTimestampLowBitLength
      < 2 ^ srsTimestampHighBitLength := by
    have := h.srsTimestamp
    simp only [srsTimestampLowBitLength, srsTimestampHighBitLength]
    omega
  exact .cons (Nat.mod_lt _ (by decide)) (.cons h.vmmId (.cons (by decide) (.cons hhigh .nil)))

theorem DecodedFrom.unpack_eq {marker : MarkerData} {e : DataElementType} (h : marker.DecodedFrom e)
    (hflag : e.getLsbD 15 = false)
    : BitField.unpack wireWidths e.toNat = marker.wireFields := by
  have hflagNat : e.toNat / 2 ^ 15 % 2 ^ 1 = 0 := by
    rw [← toNat_getLsbD, hflag]
    rfl
  have hlow : marker.srsTimestamp.toNat % 2 ^ 10 = e.toNat / 2 ^ 0 % 2 ^ 10 := by
    have hbits : (e.extractLsb' 0 10).toNat < 2 ^ 10 := BitVec.isLt _
    rw [h.srsTimestamp, ← toNat_bits]
    omega
  have hhigh : marker.srsTimestamp.toNat / 2 ^ 10 = e.toNat / 2 ^ 16 % 2 ^ 32 := by
    have hbits : (e.extractLsb' 0 10).toNat < 2 ^ 10 := BitVec.isLt _
    rw [h.srsTimestamp, ← toNat_bits]
    omega
  simp only [wireFields, srsTimestampLowBitLength, hlow, hhigh, h.vmmId, toNat_bits]
  simp only [wireWidths, BitField.unpack, Nat.div_div_eq_div_mul, ← Nat.pow_add, Nat.pow_zero,
    Nat.div_one, hflagNat]

theorem wireFields_injective {marker marker' : MarkerData}
    (h : marker.wireFields = marker'.wireFields)
    : marker = marker' := by
  rcases marker with ⟨vmmId, srsTimestamp⟩
  rcases marker' with ⟨vmmId', srsTimestamp'⟩
  simp only [wireFields, List.cons.injEq, BitVec.toNat_inj, and_true, true_and] at h
  rcases h with ⟨hlow, hvmm, hhigh⟩
  have hstamp : srsTimestamp = srsTimestamp' := by
    apply BitVec.eq_of_toNat_eq
    rw [← Nat.mod_add_div srsTimestamp.toNat (2 ^ srsTimestampLowBitLength), hlow, hhigh,
      Nat.mod_add_div]
  simp only [hvmm, hstamp]

theorem toRaw_ofRaw {e : DataElementType} (hflag : e.getLsbD 15 = false)
    : (ofRaw e).toRaw = e := by
  apply BitField.ofNat_pack_of_unpack_eq wireWidths
  apply (ofRaw_decodedFrom e).unpack_eq hflag

theorem unpack_toRaw {marker : MarkerData} (h : marker.InRange)
    : BitField.unpack wireWidths marker.toRaw.toNat = marker.wireFields := by
  apply BitField.unpack_ofNat_pack wireWidths
  apply fits_wireFields h

theorem getLsbD_toRaw_flag {marker : MarkerData} (h : marker.InRange)
    : marker.toRaw.getLsbD 15 = false := by
  have hflag : marker.toRaw.toNat / 2 ^ 15 % 2 ^ 1 = 0 := by
    have := congrArg (fun fields => fields[2]?) (unpack_toRaw h)
    simpa [wireWidths, wireFields, BitField.unpack, srsTimestampLowBitLength,
      Nat.div_div_eq_div_mul] using this
  rw [← toNat_getLsbD] at hflag
  simpa using hflag

theorem ofRaw_toRaw {marker : MarkerData} (h : marker.InRange) : ofRaw marker.toRaw = marker := by
  apply wireFields_injective
  rw [← (ofRaw_decodedFrom marker.toRaw).unpack_eq (getLsbD_toRaw_flag h), unpack_toRaw h]

end MarkerData

/--
The decoding of an element reads exactly its bits and is a bijection: between the elements with the
flag and the hits in range, and between the elements without the flag and the markers in range.
-/
theorem ofRaw_lossless
    : (∀ e : DataElementType, (HitData.ofRaw e).DecodedFrom e ∧ (MarkerData.ofRaw e).DecodedFrom e)
        ∧
      (∀ e : DataElementType,
        (HitDataCompact.ofStorage (convertTo e)).flag = BitVec.ofBool (DataProcessor.checkIsHit e) ∧
        (MarkerDataCompact.ofStorage (convertTo e)).flag
          = BitVec.ofBool (DataProcessor.checkIsHit e))
        ∧
      (∀ e : DataElementType, (HitData.ofRaw e).InRange ∧ (MarkerData.ofRaw e).InRange)
        ∧
      (∀ e : DataElementType,
        if DataProcessor.checkIsHit e then
          (HitData.ofRaw e).toRaw = e
        else
          (MarkerData.ofRaw e).toRaw = e)
        ∧
      (∀ e e' : DataElementType, DataProcessor.checkIsHit e → DataProcessor.checkIsHit e' →
        HitData.ofRaw e = HitData.ofRaw e' → e = e')
        ∧
      (∀ e e' : DataElementType, ¬ DataProcessor.checkIsHit e → ¬ DataProcessor.checkIsHit e' →
        MarkerData.ofRaw e = MarkerData.ofRaw e' → e = e')
        ∧
      (∀ hit : HitData, hit.InRange →
        ∃ e : DataElementType, DataProcessor.checkIsHit e ∧ HitData.ofRaw e = hit)
        ∧
      (∀ marker : MarkerData, marker.InRange →
        ∃ e : DataElementType, ¬ DataProcessor.checkIsHit e ∧ MarkerData.ofRaw e = marker) := by
  refine ⟨?_, ?_, ?_, ?_, ?_, ?_, ?_, ?_⟩
  . intro e
    exact ⟨HitData.ofRaw_decodedFrom e, MarkerData.ofRaw_decodedFrom e⟩
  . intro e
    exact ⟨read_bit e 15, read_bit e 15⟩
  . intro e
    exact ⟨(HitData.ofRaw_decodedFrom e).inRange, (MarkerData.ofRaw_decodedFrom e).inRange⟩
  . intro e
    split
    . next hflag => exact HitData.toRaw_ofRaw hflag
    . next hflag =>
      apply MarkerData.toRaw_ofRaw
      simpa [DataProcessor.checkIsHit] using hflag
  . intro e e' he he' h
    rw [← HitData.toRaw_ofRaw he, h, HitData.toRaw_ofRaw he']
  . intro e e' he he' h
    simp only [DataProcessor.checkIsHit, Bool.not_eq_true] at he he'
    rw [← MarkerData.toRaw_ofRaw he, h, MarkerData.toRaw_ofRaw he']
  . intro hit h
    exact ⟨hit.toRaw, HitData.getLsbD_toRaw_flag h, HitData.ofRaw_toRaw h⟩
  . intro marker h
    refine ⟨marker.toRaw, ?_, MarkerData.ofRaw_toRaw h⟩
    simp only [DataProcessor.checkIsHit, Bool.not_eq_true]
    apply MarkerData.getLsbD_toRaw_flag h

theorem ofRaw_lossless_example
    : ∃ e : DataElementType, DataProcessor.checkIsHit e
        ∧ HitData.ofRaw e = { channelNum := 63, adc := 1000, bcId := 4095 } :=
  ofRaw_lossless.2.2.2.2.2.2.1 { channelNum := 63, adc := 1000, bcId := 4095 }
    ⟨by decide, by decide, by decide, by decide, by decide⟩

end Srs
