import SrsDaq.Analysis.JsonWriter
import SrsDaq.Data.JsonText

/-!
This module contains what the json writer leaves in its file.
-/

namespace Srs

theorem CompactExportData.setValue_eq (data : CompactExportData) (dataStruct : ExportData)
    : data.setValue dataStruct = setValue {} dataStruct := by
  simp [setValue, fillHitData, fillMarkerData]

def Glaze.Prints (glaze : Glaze) (encode : CompactExportData → List Char) : Prop :=
  ∀ data, glaze data [] = .ok (encode data)

namespace Glaze

def prettyNumber (number : Nat) : List Char :=
  Nat.toDigits 10 number

def prettyString (str : List Char) : List Char :=
  "\"".toList ++ str ++ "\"".toList

def prettyArray (numbers : List Nat) : List Char :=
  '[' :: [',', ' '].intercalate (numbers.map prettyNumber) ++ [']']

def prettyObject (depth : Nat) (members : List (String × List Char)) : List Char :=
  let newLine (depth : Nat) : List Char := '\n' :: List.replicate (3 * depth) ' '
  let lines := members.map fun (key, value) =>
    newLine (depth + 1) ++ prettyString key.toList ++ [':', ' '] ++ value
  '{' :: [','].intercalate lines ++ newLine depth ++ ['}']

def prettyColumns {keys : List String} (columns : Columns keys (BitVec w)) : List Char :=
  prettyObject 1 (columns.entries.map fun (key, column) =>
    (key, prettyArray (column.map BitVec.toNat)))

/--
A frame as the options `prettify = 1` and `new_lines_in_arrays = 0` lay it out. Its tag is taken for
printable.
-/
def pretty (data : CompactExportData) : List Char :=
  prettyObject 0 [
    ("header", prettyObject 1 [
      ("frame_counter", prettyNumber data.header.frameCounter.toNat),
      ("vmm_tag", prettyString (data.header.vmmTag.toList.map fun c => Char.ofNat c.toNat)),
      ("fec_id", prettyNumber data.header.fecId.toNat),
      ("udp_timestamp", prettyNumber data.header.udpTimestamp.toNat),
      ("overflow", prettyNumber data.header.overflow.toNat)]),
    ("marker_size", prettyNumber data.markerSize),
    ("hit_size", prettyNumber data.hitSize),
    ("marker_data", prettyColumns data.markerData),
    ("hit_data", prettyColumns data.hitData)]

def reference : Glaze :=
  fun data _ => .ok (pretty data)

theorem reference_prints : reference.Prints pretty := by
  intro data
  rfl

end Glaze

def ExportData.encoding (encode : CompactExportData → List Char) (dataStruct : ExportData)
    : List Char :=
  encode (CompactExportData.setValue {} dataStruct)

namespace JsonWriter

variable {glaze : Glaze} {encode : CompactExportData → List Char}

structure HoldsValues (values : List (List Char)) (writer : JsonWriter) : Prop where
  stringBuffer : writer.stringBuffer = []
  fileStream : ∃ text, writer.fileStream = "[\n".toList ++ text
    ∧ JsonText.IsElements values text

theorem write_eq (hglaze : glaze.Prints encode) (dataStruct : ExportData) (writer : JsonWriter)
    (hbuffer : writer.stringBuffer = [])
    : writer.write glaze dataStruct
        =
      .returned
        { fileStream := writer.fileStream ++ dataStruct.encoding encode
          dataBuffer := .setValue {} dataStruct } := by
  unfold write
  simp only [hbuffer, hglaze _, CompactExportData.setValue_eq writer.dataBuffer]
  rfl

theorem write_raised {dataStruct : ExportData} {writer writer' : JsonWriter} {exception : Exception}
    (h : writer.write glaze dataStruct = .raised exception writer')
    : exception = .runtimeError "Error occured with JsonWriter" := by
  unfold write at h
  dsimp only at h
  split at h
  . cases h
    rfl
  . cases h

theorem write_construct (hglaze : glaze.Prints encode) (dataStruct : ExportData)
    {constructed : JsonWriter} (h : construct true = .ok constructed)
    : ∃ written, constructed.write glaze dataStruct = .returned written
        ∧ written.HoldsValues [dataStruct.encoding encode] := by
  simp only [construct, Bool.not_true, Bool.false_eq_true, if_false, Except.ok.injEq] at h
  subst h
  refine ⟨_, write_eq hglaze dataStruct _ rfl, rfl, dataStruct.encoding encode, rfl, ?_⟩
  simpa using @JsonText.IsElements.single [] [] (dataStruct.encoding encode)
    JsonText.isBlank_nil JsonText.isBlank_nil

theorem HoldsValues.write_separated (hglaze : glaze.Prints encode) (dataStruct : ExportData)
    {values : List (List Char)} {writer : JsonWriter} (h : writer.HoldsValues values)
    (hvalues : values ≠ [])
    : ∃ written, (writer.writeString ",".toList).write glaze dataStruct = .returned written
        ∧ written.HoldsValues (values ++ [dataStruct.encoding encode]) := by
  rcases h.fileStream with ⟨text, hstream, helements⟩
  refine ⟨_, write_eq hglaze dataStruct _ h.stringBuffer, rfl, _, ?_,
    helements.concat hvalues (dataStruct.encoding encode)⟩
  simp [writeString, hstream]

theorem HoldsValues.isArrayOf_destruct {values : List (List Char)} {writer : JsonWriter}
    (h : writer.HoldsValues values)
    : JsonText.IsArrayOf values writer.destruct := by
  rcases h.fileStream with ⟨text, hstream, helements⟩
  refine ⟨[], '\n' :: text, ['\n'], JsonText.isBlank_nil, ?_, ?_, ?_⟩
  . simp [JsonText.IsBlank, JsonText.isWhitespace]
  . apply helements.cons_blank (by decide)
  . simp [destruct, hstream]

end JsonWriter

end Srs
