import SrsDaq.Data.Layout
import SrsDaq.Utils.CommonFunctions
import SrsDaq.Utils.ZppBits

/-!
This module contains the data structures of a frame, and the decoding of one 48 bit element of a
frame into a hit or a marker.
-/

namespace Srs

structure ReceiveDataHeader where
  frameCounter : BitVec 32 := 0
  vmmTag : Vector Byte vmmTagBitLength := Vector.replicate vmmTagBitLength 0
  fecId : BitVec 8 := 0
  udpTimestamp : BitVec 32 := 0
  overflow : BitVec 32 := 0
  deriving DecidableEq, Repr

def ReceiveDataHeader.sizeof : Nat :=
  Member.sizeofStruct [⟨4, 4⟩, ⟨vmmTagBitLength, 1⟩, ⟨1, 1⟩, ⟨4, 4⟩, ⟨4, 4⟩]

namespace ReceiveDataHeader

def toBytes (header : ReceiveDataHeader) : List Byte :=
  Bytes.toBE 4 header.frameCounter.toNat ++ (header.vmmTag.toList ++ (header.fecId ::
    (Bytes.toBE 4 header.udpTimestamp.toNat ++ Bytes.toBE 4 header.overflow.toNat)))

def ofBytes (bs : List Byte) : ReceiveDataHeader where
  frameCounter := BitVec.ofNat 32 (Bytes.ofBE (bs.take 4))
  vmmTag := Vector.ofFn fun i => bs.getD (4 + i) 0
  fecId := bs.getD 7 0
  udpTimestamp := BitVec.ofNat 32 (Bytes.ofBE ((bs.drop 8).take 4))
  overflow := BitVec.ofNat 32 (Bytes.ofBE ((bs.drop 12).take 4))

theorem length_toBytes (header : ReceiveDataHeader) : header.toBytes.length = 16 := by
  have htag : header.vmmTag.toList.length = 3 := header.vmmTag.length_toList
  simp [toBytes, htag]

theorem ofBytes_toBytes (header : ReceiveDataHeader) : ofBytes header.toBytes = header := by
  rcases header with ⟨frameCounter, vmmTag, fecId, udpTimestamp, overflow⟩
  have hword (x : BitVec 32) : BitVec.ofNat 32 (Bytes.ofBE (Bytes.toBE 4 x.toNat)) = x :=
    Bytes.ofNat_ofBE_toBE (by decide) x
  have htag : vmmTag.toList.length = 3 := vmmTag.length_toList
  simp only [toBytes, ofBytes, ReceiveDataHeader.mk.injEq]
  refine ⟨?_, ?_, ?_, ?_, ?_⟩
  . simp [hword]
  . apply Vector.ext
    intro i hi
    simp [List.getElem?_append]
  . simp [htag]
  . simp [List.drop_append, List.drop_eq_nil_of_le, htag, hword]
  . simp [List.drop_append, List.drop_eq_nil_of_le, List.take_of_length_le, htag, hword]

def wireFormat : WireFormat ReceiveDataHeader where
  size := 16
  ofBytes := ofBytes
  toBytes := toBytes
  length_toBytes := length_toBytes
  ofBytes_toBytes := ofBytes_toBytes

end ReceiveDataHeader

abbrev DataElementType := BitVec hitDataBitLength

abbrev ReceiveDataSquence := List DataElementType

structure MarkerData where
  vmmId : BitVec 8 := 0
  srsTimestamp : BitVec 64 := 0
  deriving DecidableEq, Repr

structure HitData where
  isOverThreshold : Bool := false
  channelNum : BitVec 8 := 0
  tdc : BitVec 8 := 0
  offset : BitVec 8 := 0
  vmmId : BitVec 8 := 0
  adc : BitVec 16 := 0
  bcId : BitVec 16 := 0
  deriving DecidableEq, Repr

structure ExportData where
  header : ReceiveDataHeader := {}
  markerData : List MarkerData := []
  hitData : List HitData := []
  deriving DecidableEq, Repr

def convertTo (rawData : DataElementType) : BitVec 64 :=
  -- The storage of the struct that `convert_to` bit casts its argument to.
  let expandedRawData : BitVec 64 := rawData.setWidth 64
  expandedRawData <<< (64 - hitDataBitLength)

structure HitDataCompact where
  tdc : BitVec 8
  channelNum : BitVec 6
  isOverThreshold : BitVec 1
  flag : BitVec 1
  bcId : BitVec 12
  adc : BitVec 10
  vmmId : BitVec 5
  offset : BitVec 5
  deriving DecidableEq, Repr

namespace HitDataCompact

def bitFields : List BitField :=
  -- The members in the order of their declaration, the anonymous one of 16 bits first.
  [⟨16, 16⟩, ⟨16, 8⟩, ⟨16, 6⟩, ⟨16, 1⟩, ⟨16, 1⟩, ⟨32, 12⟩, ⟨32, 10⟩, ⟨32, 5⟩, ⟨32, 5⟩]

def ofStorage (storage : BitVec 64) : HitDataCompact :=
  let offsets := BitField.offsets bitFields
  {
    tdc := BitField.read storage offsets[1]! 8
    channelNum := BitField.read storage offsets[2]! 6
    isOverThreshold := BitField.read storage offsets[3]! 1
    flag := BitField.read storage offsets[4]! 1
    bcId := BitField.read storage offsets[5]! 12
    adc := BitField.read storage offsets[6]! 10
    vmmId := BitField.read storage offsets[7]! 5
    offset := BitField.read storage offsets[8]! 5
  }

end HitDataCompact

structure MarkerDataCompact where
  timestampLowBits : BitVec srsTimestampLowBitLength
  vmmId : BitVec 5
  flag : BitVec 1
  timestampHighBits : BitVec srsTimestampHighBitLength
  deriving DecidableEq, Repr

namespace MarkerDataCompact

def bitFields : List BitField :=
  [⟨16, 16⟩, ⟨16, srsTimestampLowBitLength⟩, ⟨16, 5⟩, ⟨16, 1⟩, ⟨32, srsTimestampHighBitLength⟩]

def ofStorage (storage : BitVec 64) : MarkerDataCompact :=
  let offsets := BitField.offsets bitFields
  {
    timestampLowBits := BitField.read storage offsets[1]! srsTimestampLowBitLength
    vmmId := BitField.read storage offsets[2]! 5
    flag := BitField.read storage offsets[3]! 1
    timestampHighBits := BitField.read storage offsets[4]! srsTimestampHighBitLength
  }

end MarkerDataCompact

def MarkerData.ofRaw (rawData : DataElementType) : MarkerData :=
  let markerDataCompact := MarkerDataCompact.ofStorage (convertTo rawData)
  let timestampHighBits : BitVec srsTimestampHighBitLength :=
    (markerDataCompact.timestampHighBits.setWidth 32).setWidth srsTimestampHighBitLength
  let timestampLowBits : BitVec srsTimestampLowBitLength :=
    (markerDataCompact.timestampLowBits.setWidth 32).setWidth srsTimestampLowBitLength
  {
    srsTimestamp := (mergeBits timestampHighBits timestampLowBits).setWidth 64
    vmmId := markerDataCompact.vmmId.setWidth 8
  }

def HitData.ofRaw (rawData : DataElementType) : HitData :=
  let hitDataCompact := HitDataCompact.ofStorage (convertTo rawData)
  let bcId : BitVec 16 := hitDataCompact.bcId.setWidth 16
  {
    isOverThreshold := hitDataCompact.isOverThreshold != 0
    channelNum := hitDataCompact.channelNum.setWidth 8
    tdc := hitDataCompact.tdc.setWidth 8
    offset := hitDataCompact.offset.setWidth 8
    vmmId := hitDataCompact.vmmId.setWidth 8
    adc := hitDataCompact.adc.setWidth 16
    bcId := grayToBinary bcId
  }

end Srs
