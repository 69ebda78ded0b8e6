import SrsDaq.Analysis.DataWriter
import SrsDaq.Analysis.JsonWriterLemmas
import Mathlib.Data.List.SplitLengths

/-!
This module contains what the outputs hold after any number of frames.
-/

namespace Srs

namespace DataWriter

variable {env : Environment} {encode : CompactExportData → List Char}

structure JsonEnabled (env : Environment) (writer : DataWriter) : Prop where
  json : writer.writeOption.overlaps .json = true
  root : writer.writeOption.overlaps .root = true → env.hasRoot = true →
    (writer.frontFilename .root (by decide)).isSome = true

theorem writeStructRoot_eq {writer : DataWriter}
    (h : env.hasRoot = true → (writer.frontFilename .root (by decide)).isSome = true)
    (dataStruct : ExportData)
    : ∃ rootFile, writer.writeStructRoot env dataStruct
        = .returned { writer with rootFile := rootFile } := by
  unfold writeStructRoot
  split
  . next hhas =>
    split
    . exact ⟨_, rfl⟩
    . rcases Option.isSome_iff_exists.mp (h hhas) with ⟨front, hfront⟩
      rw [hfront]
      exact ⟨_, rfl⟩
  . exact ⟨writer.rootFile, rfl⟩

theorem JsonEnabled.writeStruct_eq {writer : DataWriter} (h : writer.JsonEnabled env)
    {dataStruct : ExportData} {jsonFile : JsonWriter}
    (hjson : writer.writeStructJson env dataStruct
      = .returned { writer with jsonFile := some jsonFile })
    : ∃ rootFile, writer.writeStruct env dataStruct
        = .returned { writer with jsonFile := some jsonFile, rootFile := rootFile } := by
  have hon := h.json
  unfold writeStruct
  cases hroot : writer.writeOption.overlaps .root with
  | false => exact ⟨writer.rootFile, by simp [hon, hjson, hroot]⟩
  | true =>
    rcases @writeStructRoot_eq env { writer with jsonFile := some jsonFile } (h.root hroot)
      dataStruct with ⟨rootFile, heq⟩
    exact ⟨rootFile, by simp [hon, hjson, hroot, heq]⟩

theorem onJsonFile_some {f : JsonWriter → Outcome JsonWriter} {writer : DataWriter}
    {jsonFile written : JsonWriter} (hfile : writer.jsonFile = some jsonFile)
    (h : f jsonFile = .returned written)
    : onJsonFile f writer = .returned { writer with jsonFile := some written } := by
  simp only [onJsonFile, hfile, h, Outcome.map_returned]

theorem andThen_write_separated {dataStruct : ExportData} {writer : DataWriter}
    {jsonFile written : JsonWriter} (hfile : writer.jsonFile = some jsonFile)
    (h : (jsonFile.writeString ",".toList).write env.glaze dataStruct = .returned written)
    : (onJsonFile (fun jsonFile => .returned (jsonFile.writeString ",".toList)) writer).andThen
          (onJsonFile (JsonWriter.write env.glaze dataStruct))
        =
      .returned { writer with jsonFile := some written } := by
  simp only [onJsonFile, hfile, h, Outcome.map_returned, Outcome.andThen_returned]

theorem writeStructJson_open (hglaze : env.glaze.Prints encode) (dataStruct : ExportData)
    {writer : DataWriter} {jsonFile : JsonWriter} {values : List (List Char)}
    (hfile : writer.jsonFile = some jsonFile) (hholds : jsonFile.HoldsValues values)
    (hvalues : values ≠ [])
    : ∃ written, writer.writeStructJson env dataStruct
          = .returned { writer with jsonFile := some written }
        ∧ written.HoldsValues (values ++ [dataStruct.encoding encode]) := by
  rcases hholds.write_separated hglaze dataStruct hvalues with ⟨written, hwrite, hwritten⟩
  refine ⟨written, ?_, hwritten⟩
  unfold writeStructJson
  dsimp only
  rw [if_neg (by simp [hfile]), Outcome.andThen_returned, andThen_write_separated hfile hwrite]

theorem writeStructJson_first (hglaze : env.glaze.Prints encode) (dataStruct : ExportData)
    {writer : DataWriter} (hfile : writer.jsonFile = none) {front : String}
    (hfront : writer.frontFilename .json (by decide) = some front)
    (hopen : env.canOpen front = true)
    : ∃ written, writer.writeStructJson env dataStruct
          = .returned { writer with jsonFile := some written }
        ∧ written.HoldsValues [dataStruct.encoding encode, dataStruct.encoding encode] := by
  rcases JsonWriter.write_construct hglaze dataStruct rfl with ⟨first, hfirst, hholds⟩
  rcases hholds.write_separated hglaze dataStruct (by simp) with ⟨written, hwrite, hwritten⟩
  refine ⟨written, ?_, hwritten⟩
  have hopened : openJsonFile env writer
      = .returned { writer with jsonFile := some { fileStream := "[\n".toList } } := by
    simp only [openJsonFile, hfront, hopen]
    rfl
  unfold writeStructJson
  dsimp only
  rw [if_pos (by simp [hfile]), hopened, Outcome.andThen_returned, onJsonFile_some rfl hfirst,
    Outcome.andThen_returned, andThen_write_separated rfl hwrite]

theorem forEach_writeStruct_open (hglaze : env.glaze.Prints encode) (frames : List ExportData)
    {writer : DataWriter} (h : writer.JsonEnabled env) {jsonFile : JsonWriter}
    {values : List (List Char)} (hfile : writer.jsonFile = some jsonFile)
    (hholds : jsonFile.HoldsValues values) (hvalues : values ≠ [])
    : ∃ written file, Outcome.forEach (writeStruct env) frames writer = .returned written
        ∧ written.jsonFile = some file
        ∧ file.HoldsValues (values ++ frames.map (ExportData.encoding encode)) := by
  induction frames generalizing writer jsonFile values with
  | nil => exact ⟨writer, jsonFile, rfl, hfile, by simpa using hholds⟩
  | cons dataStruct frames ih =>
    rcases writeStructJson_open hglaze dataStruct hfile hholds hvalues
      with ⟨jsonFile', hjson, hholds'⟩
    rcases h.writeStruct_eq hjson with ⟨rootFile, hwrite⟩
    have henabled : JsonEnabled env
        { writer with jsonFile := some jsonFile', rootFile := rootFile } :=
      ⟨h.json, h.root⟩
    rcases ih henabled rfl hholds' (by simp) with ⟨written, file, hrun, hfile', hfinal⟩
    refine ⟨written, file, ?_, hfile', ?_⟩
    . rw [Outcome.forEach_cons, hwrite, Outcome.andThen_returned, hrun]
    . simpa using hfinal

theorem forEach_writeStruct_destruct (hglaze : env.glaze.Prints encode) {writer : DataWriter}
    (h : writer.JsonEnabled env) (hfile : writer.jsonFile = none) {front : String}
    (hfront : writer.frontFilename .json (by decide) = some front)
    (hopen : env.canOpen front = true) (first : ExportData) (rest : List ExportData)
    : ∃ written text,
        Outcome.forEach (writeStruct env) (first :: rest) writer = .returned written ∧
        written.destructJsonFile = some text ∧
        JsonText.IsArrayOf
          (first.encoding encode :: (first :: rest).map (ExportData.encoding encode)) text := by
  rcases writeStructJson_first hglaze first hfile hfront hopen with ⟨jsonFile, hjson, hholds⟩
  rcases h.writeStruct_eq hjson with ⟨rootFile, hwrite⟩
  have henabled : JsonEnabled env
      { writer with jsonFile := some jsonFile, rootFile := rootFile } :=
    ⟨h.json, h.root⟩
  rcases forEach_writeStruct_open hglaze rest henabled rfl hholds (by simp)
    with ⟨written, file, hrun, hfile', hfinal⟩
  refine ⟨written, file.destruct, ?_, ?_, hfinal.isArrayOf_destruct⟩
  . rw [Outcome.forEach_cons, hwrite, Outcome.andThen_returned, hrun]
  . rw [destructJsonFile, hfile', Option.map_some]

/-
Every file can be opened, and there is no ROOT.
-/
def plainEnvironment : Environment where
  hasRoot := false
  canOpen _ := true
  glaze := Glaze.reference

/-
A writer for the one file `output.json`, and a frame with nothing but its header.
-/

def jsonWriter : DataWriter where
  writeOption := .ofOption .json
  outputFilenames := .ofFn outputKinds fun kind => if kind = .json then ["output.json"] else []

def emptyFrame : ExportData where
  header := { frameCounter := 1, vmmTag := #v[86, 77, 51] }

theorem jsonWriter_enabled : jsonWriter.JsonEnabled plainEnvironment where
  json := by decide
  root := by simp [plainEnvironment]

theorem jsonWriter_frontFilename
    : jsonWriter.frontFilename .json (by decide) = some "output.json" := by
  simp [frontFilename, jsonWriter]

/--
The json file starts with the first frame twice, and so it is never the array of the frames.
-/
theorem writeStruct_repeats_first_frame (hglaze : env.glaze.Prints encode) {writer : DataWriter}
    (h : writer.JsonEnabled env) (hfile : writer.jsonFile = none) {front : String}
    (hfront : writer.frontFilename .json (by decide) = some front)
    (hopen : env.canOpen front = true) (frames : List ExportData) (hframes : frames ≠ [])
    : ∃ written text,
        Outcome.forEach (writeStruct env) frames writer = .returned written ∧
        written.destructJsonFile = some text ∧
        JsonText.IsArrayOf
          ((frames.take 1 ++ frames).map (ExportData.encoding encode)) text ∧
        ¬ JsonText.IsArrayOf (frames.map (ExportData.encoding encode)) text := by
  cases frames with
  | nil => contradiction
  | cons first rest =>
    rcases forEach_writeStruct_destruct hglaze h hfile hfront hopen first rest
      with ⟨written, text, hrun, htext, harray⟩
    exact ⟨written, text, hrun, htext, harray, harray.not_of_cons (by simp)⟩

theorem writeStruct_repeats_first_frame_example
    : ∃ written text,
        Outcome.forEach (writeStruct plainEnvironment) [emptyFrame, emptyFrame] jsonWriter
          = .returned written ∧
        written.destructJsonFile = some text ∧
        ¬ JsonText.IsArrayOf ([emptyFrame, emptyFrame].map (ExportData.encoding Glaze.pretty)) text := by
  rcases writeStruct_repeats_first_frame Glaze.reference_prints
      jsonWriter_enabled rfl jsonWriter_frontFilename rfl [emptyFrame, emptyFrame] (by simp)
    with ⟨written, text, hrun, htext, _, hnot⟩
  exact ⟨written, text, hrun, htext, hnot⟩

theorem writeStruct_one_frame
    : ∃ written text,
        Outcome.forEach (writeStruct plainEnvironment) [emptyFrame] jsonWriter
          = .returned written ∧
        written.destructJsonFile = some text ∧
        JsonText.IsArrayOf
          [emptyFrame.encoding Glaze.pretty, emptyFrame.encoding Glaze.pretty] text ∧
        ¬ JsonText.IsArrayOf [emptyFrame.encoding Glaze.pretty] text := by
  rcases forEach_writeStruct_destruct Glaze.reference_prints
      jsonWriter_enabled rfl jsonWriter_frontFilename rfl emptyFrame []
    with ⟨written, text, hrun, htext, harray⟩
  exact ⟨written, text, hrun, htext, harray, harray.not_of_cons (by simp)⟩

/-
The binary file.
-/

def binaryWriter : DataWriter where
  writeOption := .ofOption .binary
  outputFilenames := .ofFn outputKinds fun kind => if kind = .binary then ["output.bin"] else []

def binaryContent (writer : DataWriter) : List Byte :=
  (writer.binaryFile.map OFStream.content).getD []

structure BinaryEnabled (env : Environment) (writer : DataWriter) : Prop where
  binary : writer.writeOption.overlaps .binary = true
  front : ∃ front, writer.frontFilename .binary (by decide) = some front
    ∧ env.canOpen front = true
  isOpen : ∀ file, writer.binaryFile = some file → file.isOpen = true

theorem writeBinaryFile_eq {writer : DataWriter} (h : writer.BinaryEnabled env)
    (readData : List Byte)
    : writer.writeBinaryFile env readData
        =
      .returned { writer with binaryFile := some ⟨true, writer.binaryContent ++ readData⟩ } := by
  rcases h.front with ⟨front, hfront, hopen⟩
  unfold writeBinaryFile
  cases hfile : writer.binaryFile with
  | none => simp [hfront, hopen, binaryContent, hfile, OFStream.write]
  | some file =>
    rcases file with ⟨isOpen, content⟩
    have hisopen : isOpen = true := h.isOpen _ hfile
    simp [binaryContent, hfile, hisopen, OFStream.write]

theorem binaryEnabled_written {writer : DataWriter} (h : writer.BinaryEnabled env)
    (content : List Byte)
    : BinaryEnabled env { writer with binaryFile := some ⟨true, content⟩ } where
  binary := h.binary
  front := h.front
  isOpen := by
    intro file hfile
    cases hfile
    rfl

theorem forEach_writeBinaryFile (frames : List (List Byte)) {writer : DataWriter}
    (h : writer.BinaryEnabled env)
    : ∃ written, Outcome.forEach (writeBinaryFile env) frames writer = .returned written ∧
        written.binaryContent = writer.binaryContent ++ frames.flatten := by
  induction frames generalizing writer with
  | nil => exact ⟨writer, rfl, by simp⟩
  | cons frame frames ih =>
    rcases ih (binaryEnabled_written h (writer.binaryContent ++ frame))
      with ⟨written, hrun, hcontent⟩
    refine ⟨written, ?_, ?_⟩
    . rw [Outcome.forEach_cons, writeBinaryFile_eq h, Outcome.andThen_returned, hrun]
    . rw [hcontent]
      simp [binaryContent]

theorem splitLengths_flatten (frames : List (List Byte))
    : (frames.map List.length).splitLengths frames.flatten = frames := by
  induction frames with
  | nil => rfl
  | cons frame frames ih => simp [ih]

theorem state_writeBinary {writer : DataWriter} (h : writer.BinaryEnabled env)
    (readData : List Byte)
    : (writer.writeBinary env readData).state
        =
      { writer with binaryFile := some ⟨true, writer.binaryContent ++ readData⟩ } := by
  have hon := h.binary
  unfold writeBinary
  rw [if_pos hon, writeBinaryFile_eq h]
  cases hudp : writer.writeOption.overlaps .udp with
  | false => simp [hon, hudp, Outcome.state]
  | true => simp [hudp, writeBinaryUdp, Outcome.state]

theorem binaryWriter_enabled : binaryWriter.BinaryEnabled plainEnvironment where
  binary := by decide
  front := ⟨"output.bin", by simp [frontFilename, binaryWriter], rfl⟩
  isOpen := by simp [binaryWriter]

/--
A fresh file holds the frames one behind the other and nothing else, so only their lengths tell where
they begin.
-/
theorem recording_holds_frames {writer : DataWriter} (h : writer.BinaryEnabled env)
    (hfresh : writer.binaryFile = none) (frames frames' : List (List Byte))
    : ∃ written written',
        Outcome.forEach (writeBinaryFile env) frames writer = .returned written ∧
        Outcome.forEach (writeBinaryFile env) frames' writer = .returned written' ∧
        written.binaryContent = frames.flatten ∧
        (written.binaryContent = written'.binaryContent ↔ frames.flatten = frames'.flatten) ∧
        (frames ≠ frames' → frames.map List.length = frames'.map List.length →
          written.binaryContent ≠ written'.binaryContent) ∧
        (frames.map List.length).splitLengths written.binaryContent = frames := by
  have hempty : writer.binaryContent = [] := by simp [binaryContent, hfresh]
  rcases forEach_writeBinaryFile frames h with ⟨written, hrun, hcontent⟩
  rcases forEach_writeBinaryFile frames' h with ⟨written', hrun', hcontent'⟩
  rw [hempty, List.nil_append] at hcontent hcontent'
  refine ⟨written, written', hrun, hrun', hcontent, ?_, ?_, ?_⟩
  . rw [hcontent, hcontent']
  . intro hne hlengths hsame
    apply hne
    rw [List.eq_iff_flatten_eq]
    exact ⟨by rw [← hcontent, ← hcontent', hsame], hlengths⟩
  . rw [hcontent, splitLengths_flatten]

theorem recording_holds_frames_example
    : ∃ written, Outcome.forEach (writeBinaryFile plainEnvironment)
          [List.replicate 16 1, List.replicate 22 2] binaryWriter = .returned written ∧
        [16, 22].splitLengths written.binaryContent
          = [List.replicate 16 1, List.replicate 22 2] := by
  rcases recording_holds_frames binaryWriter_enabled rfl
      [List.replicate 16 1, List.replicate 22 2] []
    with ⟨written, _, hrun, _, _, _, _, hsplit⟩
  exact ⟨written, hrun, hsplit⟩

theorem recording_loses_boundaries
    : ∃ written written',
        Outcome.forEach (writeBinaryFile plainEnvironment) [List.replicate 32 0] binaryWriter
          = .returned written ∧
        Outcome.forEach (writeBinaryFile plainEnvironment)
          [List.replicate 16 0, List.replicate 16 0] binaryWriter = .returned written' ∧
        [List.replicate 32 0] ≠ [List.replicate 16 (0 : Byte), List.replicate 16 0] ∧
        written.binaryContent = written'.binaryContent := by
  rcases forEach_writeBinaryFile [List.replicate 32 0] binaryWriter_enabled
    with ⟨written, hrun, hcontent⟩
  rcases forEach_writeBinaryFile [List.replicate 16 0, List.replicate 16 0] binaryWriter_enabled
    with ⟨written', hrun', hcontent'⟩
  refine ⟨written, written', hrun, hrun', by decide, ?_⟩
  rw [hcontent, hcontent']
  rfl

def SameBinary (writer writer' : DataWriter) : Prop :=
  writer'.writeOption = writer.writeOption ∧
  writer'.outputFilenames = writer.outputFilenames ∧
  writer'.binaryFile = writer.binaryFile

theorem sameBinary_onJsonFile (f : JsonWriter → Outcome JsonWriter) {writer writer' : DataWriter}
    (h : SameBinary writer writer')
    : SameBinary writer (onJsonFile f writer').state := by
  unfold onJsonFile
  split
  . exact h
  . rw [Outcome.state_map]
    exact h

theorem sameBinary_openJsonFile (writer : DataWriter)
    : SameBinary writer (openJsonFile env writer).state := by
  unfold openJsonFile
  split
  . exact ⟨rfl, rfl, rfl⟩
  . split
    . exact ⟨rfl, rfl, rfl⟩
    . exact ⟨rfl, rfl, rfl⟩

theorem sameBinary_writeStructJson (dataStruct : ExportData) (writer : DataWriter)
    : SameBinary writer (writeStructJson env dataStruct writer).state := by
  unfold writeStructJson
  apply Outcome.andThen_state
  . apply Outcome.andThen_state
    . split
      . apply Outcome.andThen_state
        . apply sameBinary_openJsonFile
        . intro writer' h
          apply sameBinary_onJsonFile _ h
      . exact ⟨rfl, rfl, rfl⟩
    . intro writer' h
      apply sameBinary_onJsonFile _ h
  . intro writer' h
    apply sameBinary_onJsonFile _ h

theorem sameBinary_writeStructRoot (dataStruct : ExportData) (writer : DataWriter)
    : SameBinary writer (writeStructRoot env dataStruct writer).state := by
  unfold writeStructRoot
  repeat' split
  all_goals exact ⟨rfl, rfl, rfl⟩

theorem SameBinary.trans {writer₁ writer₂ writer₃ : DataWriter} (h : SameBinary writer₁ writer₂)
    (h' : SameBinary writer₂ writer₃)
    : SameBinary writer₁ writer₃ := by
  exact ⟨h'.1.trans h.1, h'.2.1.trans h.2.1, h'.2.2.trans h.2.2⟩

theorem sameBinary_writeStruct (readData : ExportData) (writer : DataWriter)
    : SameBinary writer (writeStruct env readData writer).state := by
  unfold writeStruct
  apply Outcome.andThen_state
  . apply Outcome.andThen_state
    . split
      . apply sameBinary_writeStructJson
      . exact ⟨rfl, rfl, rfl⟩
    . intro writer' h
      split
      . apply h.trans (sameBinary_writeStructRoot readData writer')
      . exact h
  . intro writer' h
    split
    . exact h
    . exact h

theorem BinaryEnabled.of_sameBinary {writer writer' : DataWriter} (h : writer.BinaryEnabled env)
    (hsame : SameBinary writer writer')
    : writer'.BinaryEnabled env ∧ writer'.binaryContent = writer.binaryContent := by
  rcases writer with ⟨writeOption, outputFilenames, binaryFile, jsonFile, rootFile⟩
  rcases writer' with ⟨writeOption', outputFilenames', binaryFile', jsonFile', rootFile'⟩
  rcases hsame with ⟨hoption, hnames, hfile⟩
  simp only at hoption hnames hfile
  subst hoption hnames hfile
  exact ⟨⟨h.binary, h.front, h.isOpen⟩, rfl⟩

end DataWriter

end Srs
