import SrsDaq.Analysis.DataStructs
import SrsDaq.Data.Columns

/-!
This module contains the writing of frames to a json file. The library that turns a struct into
json is a parameter.
-/

namespace Srs

def markerKeys : List String :=
  ["srs_timestamp", "vmm_id"]

def hitKeys : List String :=
  ["adc", "bc_id", "channel_num", "is_over_threshold", "offset", "tdc", "vmm_id"]

structure CompactExportData where
  header : ReceiveDataHeader := {}
  markerSize : Nat := 0
  hitSize : Nat := 0
  markerData : Columns markerKeys (BitVec 64) := .empty markerKeys (BitVec 64)
  hitData : Columns hitKeys (BitVec 16) := .empty hitKeys (BitVec 16)

namespace CompactExportData

def pushHit (columns : Columns hitKeys (BitVec 16)) (hit : HitData) : Columns hitKeys (BitVec 16) :=
  let columns := columns.pushBack "is_over_threshold" (by decide)
    ((BitVec.ofBool hit.isOverThreshold).setWidth 16)
  let columns := columns.pushBack "channel_num" (by decide) (hit.channelNum.setWidth 16)
  let columns := columns.pushBack "tdc" (by decide) (hit.tdc.setWidth 16)
  let columns := columns.pushBack "offset" (by decide) (hit.offset.setWidth 16)
  let columns := columns.pushBack "vmm_id" (by decide) (hit.vmmId.setWidth 16)
  let columns := columns.pushBack "adc" (by decide) hit.adc
  columns.pushBack "bc_id" (by decide) hit.bcId

def fillHitData (data : CompactExportData) (hits : List HitData) : CompactExportData :=
  { data with
    hitSize := hits.length
    hitData := hits.foldl pushHit data.hitData.clear }

def pushMarker (columns : Columns markerKeys (BitVec 64)) (marker : MarkerData)
    : Columns markerKeys (BitVec 64) :=
  let columns := columns.pushBack "vmm_id" (by decide) (marker.vmmId.setWidth 64)
  columns.pushBack "srs_timestamp" (by decide) marker.srsTimestamp

def fillMarkerData (data : CompactExportData) (markers : List MarkerData) : CompactExportData :=
  { data with
    markerSize := markers.length
    markerData := markers.foldl pushMarker data.markerData.clear }

def setValue (data : CompactExportData) (dataStruct : ExportData) : CompactExportData :=
  let data := { data with header := dataStruct.header }
  let data := data.fillHitData dataStruct.hitData
  data.fillMarkerData dataStruct.markerData

/-
The rows that the columns stand for. The program itself only writes them.
-/

def hitRow (columns : Columns hitKeys (BitVec 16)) (i : Nat) : Option HitData := do
  let isOverThreshold ← (columns.get "is_over_threshold" (by decide))[i]?
  let channelNum ← (columns.get "channel_num" (by decide))[i]?
  let tdc ← (columns.get "tdc" (by decide))[i]?
  let offset ← (columns.get "offset" (by decide))[i]?
  let vmmId ← (columns.get "vmm_id" (by decide))[i]?
  let adc ← (columns.get "adc" (by decide))[i]?
  let bcId ← (columns.get "bc_id" (by decide))[i]?
  return {
    isOverThreshold := isOverThreshold != 0
    channelNum := channelNum.setWidth 8
    tdc := tdc.setWidth 8
    offset := offset.setWidth 8
    vmmId := vmmId.setWidth 8
    adc := adc
    bcId := bcId
  }

def markerRow (columns : Columns markerKeys (BitVec 64)) (i : Nat) : Option MarkerData := do
  let vmmId ← (columns.get "vmm_id" (by decide))[i]?
  let srsTimestamp ← (columns.get "srs_timestamp" (by decide))[i]?
  return { vmmId := vmmId.setWidth 8, srsTimestamp := srsTimestamp }

end CompactExportData

/--
`glz::write`: what it leaves in a string, or the error it reports.
-/
abbrev Glaze := CompactExportData → (buffer : List Char) → Except String (List Char)

structure JsonWriter where
  fileStream : List Char
  dataBuffer : CompactExportData := {}
  stringBuffer : List Char := []

namespace JsonWriter

def construct (isOpen : Bool) : Except Exception JsonWriter :=
  if not isOpen then
    .error (.runtimeError "Error occured with JsonWriter")
  else
    .ok { fileStream := "[\n".toList }

def destruct (writer : JsonWriter) : List Char :=
  writer.fileStream ++ "]\n".toList

def write (glaze : Glaze) (dataStruct : ExportData) (writer : JsonWriter) : Outcome JsonWriter :=
  let writer := { writer with dataBuffer := writer.dataBuffer.setValue dataStruct }
  match glaze writer.dataBuffer writer.stringBuffer with
  | .error _ => .raised (.runtimeError "Error occured with JsonWriter") writer
  | .ok stringBuffer =>
    .returned { writer with
      fileStream := writer.fileStream ++ stringBuffer
      stringBuffer := [] }

def writeString (str : List Char) (writer : JsonWriter) : JsonWriter :=
  { writer with fileStream := writer.fileStream ++ str }

end JsonWriter

end Srs
