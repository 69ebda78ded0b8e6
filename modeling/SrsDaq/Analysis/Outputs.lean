import SrsDaq.Analysis.DataProcessorLemmas
import SrsDaq.Analysis.DataWriterLemmas
import SrsDaq.Analysis.SocketOutputs

/-!
This module contains what one frame leaves in all the outputs together, when writing it succeeds and
when one of them raises.
-/

namespace Srs

namespace DataWriter

variable {env : Environment} {makeAddress : List Char → Bool}
  {encode : CompactExportData → List Char}

def rootEntries (writer : DataWriter) : List ExportData :=
  writer.rootFile.getD []

def fillsRoot (env : Environment) (writer : DataWriter) : Bool :=
  writer.writeOption.overlaps .root && env.hasRoot

/-
The ROOT file. It is filled behind everything that can raise.
-/

theorem state_writeBinary_structs (readData : List Byte) (writer : DataWriter)
    : (writeBinary env readData writer).state.rootFile = writer.rootFile ∧
      (writeBinary env readData writer).state.jsonFile = writer.jsonFile := by
  let Same (writer' : DataWriter) : Prop :=
    writer'.rootFile = writer.rootFile ∧ writer'.jsonFile = writer.jsonFile
  have hfile (writer' : DataWriter) (h : Same writer')
      : Same (writeBinaryFile env readData writer').state := by
    unfold writeBinaryFile
    apply Outcome.andThen_state (P := Same)
    . split
      . exact h
      . split <;> exact h
    . exact fun _ hwritten => hwritten
  unfold writeBinary
  apply Outcome.andThen_state (P := Same)
  . apply Outcome.andThen_state (P := Same)
    . split
      . apply hfile writer ⟨rfl, rfl⟩
      . exact ⟨rfl, rfl⟩
    . intro writer' h
      split <;> exact h
  . intro writer' h
    split <;> exact h

theorem state_writeStructJson_rootFile (dataStruct : ExportData) (writer : DataWriter)
    : (writeStructJson env dataStruct writer).state.rootFile = writer.rootFile := by
  let Same (writer' : DataWriter) : Prop := writer'.rootFile = writer.rootFile
  have hon (f : JsonWriter → Outcome JsonWriter) (writer' : DataWriter) (h : Same writer')
      : Same (onJsonFile f writer').state := by
    unfold onJsonFile
    split
    . exact h
    . rw [Outcome.state_map]
      exact h
  have hopen : Same (openJsonFile env writer).state := by
    unfold openJsonFile
    split
    . rfl
    . split <;> rfl
  unfold writeStructJson
  apply Outcome.andThen_state (P := Same)
  . apply Outcome.andThen_state (P := Same)
    . split
      . apply Outcome.andThen_state (P := Same) hopen (hon _)
      . rfl
    . apply hon
  . apply hon

theorem writeStructRoot_returned {dataStruct : ExportData} {writer written : DataWriter}
    (h : writeStructRoot env dataStruct writer = .returned written)
    : written.rootEntries = writer.rootEntries ++ if env.hasRoot then [dataStruct] else [] := by
  unfold writeStructRoot at h
  split at h
  . next hroot =>
    split at h
    . next entries hfile =>
      cases h
      simp [rootEntries, hfile, hroot]
    . next hfile =>
      split at h
      . cases h
      . cases h
        simp [rootEntries, hfile, hroot]
  . next hroot =>
    cases h
    simp [hroot]

theorem writeStructRoot_raised_state {dataStruct : ExportData} {writer written : DataWriter}
    {exception : Exception} (h : writeStructRoot env dataStruct writer = .raised exception written)
    : written = writer := by
  unfold writeStructRoot at h
  repeat' split at h
  all_goals cases h
  rfl

theorem writeStruct_rootEntries (readData : ExportData) (writer : DataWriter)
    : (∀ written, writeStruct env readData writer = .returned written →
        written.rootEntries
          = writer.rootEntries ++ if writer.fillsRoot env then [readData] else []) ∧
      (∀ exception written, writeStruct env readData writer = .raised exception written →
        written.rootEntries = writer.rootEntries) := by
  have hjson (toJson : DataWriter)
      (h : (if writer.writeOption.overlaps .json then
          writeStructJson env readData writer
        else
          .returned writer).state = toJson)
      : toJson.rootFile = writer.rootFile ∧ toJson.writeOption = writer.writeOption := by
    rw [← h]
    split
    . exact ⟨state_writeStructJson_rootFile readData writer,
        (writes_writeStructJson readData writer).writeOption⟩
    . exact ⟨rfl, rfl⟩
  unfold writeStruct
  constructor
  . intro written h
    simp only [Outcome.andThen_eq_returned] at h
    rcases h with ⟨toRoot, ⟨toJson, htoJson, htoRoot⟩, hlast⟩
    rcases hjson toJson (by rw [htoJson]; rfl) with ⟨hfile, hoption⟩
    have hwritten : written = toRoot := by
      split at hlast
      . cases hlast
      . cases hlast
        rfl
    rw [hoption] at htoRoot
    subst hwritten
    split at htoRoot
    . next hroot =>
      rw [writeStructRoot_returned htoRoot, fillsRoot, hroot, Bool.true_and, rootEntries, hfile,
        rootEntries]
    . next hroot =>
      cases htoRoot
      simp [rootEntries, hfile, fillsRoot, hroot]
  . intro exception written h
    simp only [Outcome.andThen_eq_raised, Outcome.andThen_eq_returned] at h
    rcases h with (htoJson | ⟨toJson, htoJson, htoRoot⟩)
      | ⟨toRoot, ⟨toJson, htoJson, htoRoot⟩, hlast⟩
    . rw [rootEntries, (hjson written (by rw [htoJson]; rfl)).1, rootEntries]
    . rcases hjson toJson (by rw [htoJson]; rfl) with ⟨hfile, hoption⟩
      split at htoRoot
      . rw [writeStructRoot_raised_state htoRoot, rootEntries, hfile, rootEntries]
      . cases htoRoot
    . rcases hjson toJson (by rw [htoJson]; rfl) with ⟨hfile, hoption⟩
      have hwritten : written = toRoot := by
        split at hlast
        . cases hlast
          rfl
        . cases hlast
      subst hwritten
      split at htoRoot
      . next hroot =>
        have hsame := (@writes_writeStructRoot env readData toJson).writeOption
        rw [htoRoot, Outcome.state] at hsame
        rw [hsame, hroot] at hlast
        simp at hlast
      . cases htoRoot
        rw [rootEntries, hfile, rootEntries]

theorem writeDecoded_interface (frame : StdVector Byte) (writer : DataWriter)
    : DataProcessor.writeDecoded (interface env) frame writer
        =
      (if writer.isBinary then writer.writeBinary env frame.toList else .returned writer).andThen
        fun toBinary =>
          if toBinary.isStruct then
            toBinary.writeStruct env (Frame.exportData frame.toList)
          else
            .returned toBinary := by
  rfl

theorem writeDecoded_rootEntries (frame : StdVector Byte) (writer : DataWriter)
    : (∀ written, DataProcessor.writeDecoded (interface env) frame writer = .returned written →
        written.rootEntries = writer.rootEntries
          ++ if writer.fillsRoot env then [Frame.exportData frame.toList] else []) ∧
      (∀ exception written,
        DataProcessor.writeDecoded (interface env) frame writer = .raised exception written →
        written.rootEntries = writer.rootEntries) := by
  have hbinary (toBinary : DataWriter)
      (h : (if writer.isBinary then writer.writeBinary env frame.toList else .returned writer).state
        = toBinary)
      : toBinary.rootEntries = writer.rootEntries ∧ toBinary.writeOption = writer.writeOption := by
    rw [← h, rootEntries, rootEntries]
    split
    . rw [(state_writeBinary_structs frame.toList writer).1]
      exact ⟨rfl, (writes_writeBinary frame.toList writer).writeOption⟩
    . exact ⟨rfl, rfl⟩
  rw [writeDecoded_interface]
  constructor
  . intro written h
    rw [Outcome.andThen_eq_returned] at h
    rcases h with ⟨toBinary, htoBinary, hstruct⟩
    rcases hbinary toBinary (by rw [htoBinary]; rfl) with ⟨hentries, hoption⟩
    split at hstruct
    . rw [(writeStruct_rootEntries _ toBinary).1 written hstruct, hentries, fillsRoot, fillsRoot,
        hoption]
    . next hnot =>
      cases hstruct
      have hroot : writer.fillsRoot env = false := by
        rw [isStruct, hoption] at hnot
        simp_all [fillsRoot]
      simp [hroot, hentries]
  . intro exception written h
    rw [Outcome.andThen_eq_raised] at h
    rcases h with htoBinary | ⟨toBinary, htoBinary, hstruct⟩
    . exact (hbinary written (by rw [htoBinary]; rfl)).1
    . rcases hbinary toBinary (by rw [htoBinary]; rfl) with ⟨hentries, _⟩
      split at hstruct
      . rw [(writeStruct_rootEntries _ toBinary).2 exception written hstruct, hentries]
      . cases hstruct

theorem writes_writeDecoded (frame : StdVector Byte) (writer : DataWriter)
    : Writes writer (DataProcessor.writeDecoded (interface env) frame writer).state := by
  unfold DataProcessor.writeDecoded
  apply Writes.andThen
  . split
    . apply writes_writeBinary
    . apply Writes.refl
  . intro writer'
    split
    . apply writes_writeStruct
    . apply Writes.refl

theorem binaryContent_writeBinaryFile (readData : List Byte) (writer : DataWriter)
    : (writer.writeBinaryFile env readData).state.binaryContent = writer.binaryContent ∨
      (writer.writeBinaryFile env readData).state.binaryContent
        = writer.binaryContent ++ readData := by
  have hwrite (isOpen : Bool) (content : List Byte)
      : (OFStream.write ⟨isOpen, content⟩ readData).content = content ∨
        (OFStream.write ⟨isOpen, content⟩ readData).content = content ++ readData := by
    cases isOpen
    . exact Or.inl rfl
    . exact Or.inr rfl
  unfold writeBinaryFile
  cases hfile : writer.binaryFile with
  | some file => simpa [binaryContent, hfile, Outcome.state] using hwrite file.isOpen file.content
  | none =>
    cases hfront : writer.frontFilename .binary (by decide) with
    | none => exact Or.inl rfl
    | some front => simpa [binaryContent, hfile, Outcome.state] using hwrite (env.canOpen front) []

/--
With the output to a socket switched on, every frame raises, behind the binary file and before the
others.
-/
theorem writeDecoded_udp {writer : DataWriter} (hudp : writer.writeOption.overlaps .udp = true)
    (frame : StdVector Byte)
    : ∃ exception written,
        DataProcessor.writeDecoded (interface env) frame writer = .raised exception written ∧
        written.rootFile = writer.rootFile ∧ written.jsonFile = writer.jsonFile ∧
        (written.binaryContent = writer.binaryContent ∨
          written.binaryContent = writer.binaryContent ++ frame.toList) := by
  let toFile : Outcome DataWriter :=
    if writer.writeOption.overlaps .binary then
      writeBinaryFile env frame.toList writer
    else
      .returned writer
  have hbinary : ∃ exception, writer.writeBinary env frame.toList
      = .raised exception toFile.state := by
    have hoption : toFile.state.writeOption = writer.writeOption := by
      dsimp only [toFile]
      split
      . exact (writes_writeBinaryFile frame.toList writer).writeOption
      . rfl
    have hunfold : writer.writeBinary env frame.toList
        = (toFile.andThen fun writer =>
            if writer.writeOption.overlaps .udp then
              writeBinaryUdp writer
            else
              .returned writer).andThen fun writer =>
          if not (writer.writeOption.overlaps .binary)
              && not (writer.writeOption.overlaps .udp) then
            .raised (.runtimeError
              "DataWriter: write_binary is called but write option is not set to either \"binary\" or \"udp\"")
              writer
          else
            .returned writer := by
      rfl
    rw [hunfold]
    cases hfile : toFile with
    | raised exception written => exact ⟨exception, rfl⟩
    | returned written =>
      rw [hfile, Outcome.state] at hoption
      rw [Outcome.andThen_returned, hoption, if_pos hudp, writeBinaryUdp, Outcome.andThen_raised]
      exact ⟨_, rfl⟩
  have hcontent : toFile.state.binaryContent = writer.binaryContent ∨
      toFile.state.binaryContent = writer.binaryContent ++ frame.toList := by
    dsimp only [toFile]
    split
    . exact binaryContent_writeBinaryFile frame.toList writer
    . exact Or.inl rfl
  rcases hbinary with ⟨exception, hwrite⟩
  have hstructs := @state_writeBinary_structs env frame.toList writer
  rw [hwrite] at hstructs
  refine ⟨exception, toFile.state, ?_, hstructs.1, hstructs.2, hcontent⟩
  have hon : writer.isBinary = true := by simp [isBinary, hudp]
  rw [writeDecoded_interface, if_pos hon, hwrite, Outcome.andThen_raised]

/-
Outputs that can all be written to.
-/

/--
Every file that is switched on can be opened, and no socket is.
-/
structure Healthy (env : Environment) (writer : DataWriter) : Prop where
  noUdp : writer.writeOption.overlaps .udp = false
  opens : ∀ kind h, writer.writeOption.overlaps kind = true →
    ∃ front, writer.frontFilename kind h = some front ∧ env.canOpen front = true
  isOpen : ∀ file, writer.binaryFile = some file → file.isOpen = true

theorem Healthy.binaryEnabled {writer : DataWriter} (h : writer.Healthy env)
    (hon : writer.writeOption.overlaps .binary = true)
    : writer.BinaryEnabled env :=
  ⟨hon, h.opens .binary _ hon, h.isOpen⟩

/--
The json file holds the first frame once more.
-/
def HoldsJson (encode : CompactExportData → List Char) (frames : List ExportData)
    (writer : DataWriter) : Prop :=
  match frames with
  | [] => writer.jsonFile = none
  | first :: _ => ∃ jsonFile, writer.jsonFile = some jsonFile ∧
      jsonFile.HoldsValues ((first :: frames).map (ExportData.encoding encode))

theorem HoldsJson.destructJsonFile {frames : List ExportData} {writer : DataWriter}
    (hholds : writer.HoldsJson encode frames)
    : (frames = [] → writer.destructJsonFile = none) ∧
      ∀ first rest, frames = first :: rest →
        ∃ text, writer.destructJsonFile = some text ∧
          JsonText.IsArrayOf ((first :: first :: rest).map (ExportData.encoding encode)) text := by
  constructor
  . rintro rfl
    have hnone : writer.jsonFile = none := hholds
    rw [DataWriter.destructJsonFile, hnone, Option.map_none]
  . rintro first rest rfl
    rcases hholds with ⟨jsonFile, hsome, hvalues⟩
    refine ⟨jsonFile.destruct, ?_, hvalues.isArrayOf_destruct⟩
    rw [DataWriter.destructJsonFile, hsome, Option.map_some]

theorem HoldsJson.writeStructJson (hglaze : env.glaze.Prints encode) {frames : List ExportData}
    {writer : DataWriter} (hholds : writer.HoldsJson encode frames) (h : writer.Healthy env)
    (hon : writer.writeOption.overlaps .json = true) (readData : ExportData)
    : ∃ jsonFile, writer.writeStructJson env readData
          = .returned { writer with jsonFile := some jsonFile } ∧
        ∀ rootFile, HoldsJson encode (frames ++ [readData])
          { writer with jsonFile := some jsonFile, rootFile := rootFile } := by
  cases frames with
  | nil =>
    rcases h.opens .json _ hon with ⟨front, hfront, hopen⟩
    rcases writeStructJson_first hglaze readData hholds hfront hopen with ⟨jsonFile, hwrite, hvalues⟩
    exact ⟨jsonFile, hwrite, fun _ => ⟨jsonFile, rfl, hvalues⟩⟩
  | cons first rest =>
    rcases hholds with ⟨jsonFile, hfile, hvalues⟩
    rcases writeStructJson_open hglaze readData hfile hvalues (by simp) with ⟨written, hwrite, hmore⟩
    refine ⟨written, hwrite, fun _ => ⟨written, rfl, ?_⟩⟩
    simpa using hmore

theorem Healthy.writeStruct (hglaze : env.glaze.Prints encode) {frames : List ExportData}
    {writer : DataWriter} (h : writer.Healthy env) (hstruct : writer.isStruct = true)
    (hholds : writer.writeOption.overlaps .json = true → writer.HoldsJson encode frames)
    (readData : ExportData)
    : ∃ jsonFile rootFile, writer.writeStruct env readData
          = .returned { writer with jsonFile := jsonFile, rootFile := rootFile } ∧
        (writer.writeOption.overlaps .json = true →
          HoldsJson encode (frames ++ [readData])
            { writer with jsonFile := jsonFile, rootFile := rootFile }) := by
  have hfront (hroot : writer.writeOption.overlaps .root = true) (_ : env.hasRoot = true)
      : (writer.frontFilename .root (by decide)).isSome = true := by
    rcases h.opens .root (by decide) hroot with ⟨front, hfront, _⟩
    rw [hfront]
    rfl
  cases hjson : writer.writeOption.overlaps .json with
  | true =>
    rcases (hholds hjson).writeStructJson hglaze h hjson readData with ⟨jsonFile, hwrite, hmore⟩
    rcases (JsonEnabled.mk hjson hfront).writeStruct_eq hwrite with ⟨rootFile, heq⟩
    exact ⟨some jsonFile, rootFile, heq, fun _ => hmore rootFile⟩
  | false =>
    have hroot : writer.writeOption.overlaps .root = true := by
      simpa [isStruct, hjson] using hstruct
    rcases writeStructRoot_eq (hfront hroot) readData with ⟨rootFile, heq⟩
    refine ⟨writer.jsonFile, rootFile, ?_, by simp⟩
    unfold DataWriter.writeStruct
    simp [hjson, hroot, heq]

theorem Healthy.writeBinary {writer : DataWriter} (h : writer.Healthy env)
    (hbinary : writer.isBinary = true) (readData : List Byte)
    : ∃ file, file.isOpen = true ∧
        writer.writeBinary env readData = .returned { writer with binaryFile := some file } := by
  have hon : writer.writeOption.overlaps .binary = true := by
    simpa [isBinary, h.noUdp] using hbinary
  refine ⟨⟨true, writer.binaryContent ++ readData⟩, rfl, ?_⟩
  unfold DataWriter.writeBinary
  simp [hon, writeBinaryFile_eq (h.binaryEnabled hon), h.noUdp]

/--
While the outputs can be written to, no frame raises.
-/
theorem Healthy.writeDecoded (hglaze : env.glaze.Prints encode) {frames : List ExportData}
    {writer : DataWriter} (h : writer.Healthy env)
    (hholds : writer.writeOption.overlaps .json = true → writer.HoldsJson encode frames)
    (frame : StdVector Byte)
    : ∃ written, DataProcessor.writeDecoded (interface env) frame writer = .returned written ∧
        written.Healthy env ∧
        (written.writeOption.overlaps .json = true →
          written.HoldsJson encode (frames ++ [Frame.exportData frame.toList])) := by
  have hbinary : ∃ binaryFile, (∀ file, binaryFile = some file → file.isOpen = true) ∧
      (if writer.isBinary then writer.writeBinary env frame.toList else .returned writer)
        = .returned { writer with binaryFile := binaryFile } := by
    split
    . next hon =>
      rcases h.writeBinary hon frame.toList with ⟨file, hopen, hwrite⟩
      refine ⟨some file, ?_, hwrite⟩
      rintro _ ⟨⟩
      exact hopen
    . exact ⟨writer.binaryFile, h.isOpen, rfl⟩
  rcases hbinary with ⟨binaryFile, hopen, hwrite⟩
  have hhealthy : Healthy env { writer with binaryFile := binaryFile } := ⟨h.noUdp, h.opens, hopen⟩
  rw [writeDecoded_interface, hwrite, Outcome.andThen_returned]
  split
  . next hstruct =>
    have hbefore (hon : writer.writeOption.overlaps .json = true)
        : HoldsJson encode frames { writer with binaryFile := binaryFile } :=
      hholds hon
    rcases hhealthy.writeStruct hglaze hstruct hbefore (Frame.exportData frame.toList) with
      ⟨jsonFile, rootFile, heq, hmore⟩
    exact ⟨_, heq, ⟨h.noUdp, h.opens, hopen⟩, hmore⟩
  . next hnot =>
    refine ⟨_, rfl, hhealthy, ?_⟩
    intro hjson
    simp [isStruct, hjson] at hnot

/-
The writer that the names of the outputs make.
-/

theorem rootFile_setOutputFilenames (filenames : List String) (writer : DataWriter)
    : (setOutputFilenames env makeAddress filenames writer).state.rootFile = writer.rootFile := by
  unfold setOutputFilenames
  induction filenames generalizing writer with
  | nil => rfl
  | cons filename filenames ih =>
    rw [Outcome.forEach_cons]
    have heffect := @setOutputFilename_effect env makeAddress filename writer
    generalize setOutputFilename env makeAddress filename writer = outcome at heffect
    cases heffect with
    | added kind h hkind hcan =>
      rw [Outcome.andThen_returned, ih]
      rfl
    | ignored hkind hroot => rw [Outcome.andThen_returned, ih]
    | unrecognized hkind => rfl

theorem mem_takenNames {kind : DataWriterOption.Option} {filenames : List String} {filename : String}
    (h : filename ∈ takenNames env makeAddress kind filenames)
    : filename ∈ filenames ∧ outputKind makeAddress filename = some kind := by
  simp only [takenNames, List.mem_filter, isTakenAs, Bool.and_eq_true, decide_eq_true_eq] at h
  exact ⟨(List.takeWhile_sublist _).subset h.1, h.2.1⟩

theorem names_fresh (kind : DataWriterOption.Option) (h : kind ∈ outputKinds)
    : names {} kind h = [] := by
  simp [names, Columns.empty]

theorem overlaps_setOutputFilenames {kind : DataWriterOption.Option} (h : kind ∈ outputKinds)
    (filenames : List String)
    : (setOutputFilenames env makeAddress filenames {}).state.writeOption.overlaps kind = true
        ↔
      takenNames env makeAddress kind filenames ≠ [] := by
  rw [(setOutputFilenames_sets filenames {}).overlaps kind h, DataWriterOption.overlaps_noOutput,
    Bool.false_or, bne_iff_ne]

theorem frontFilename_setOutputFilenames (kind : DataWriterOption.Option) (h : kind ∈ outputKinds)
    (filenames : List String)
    : (setOutputFilenames env makeAddress filenames {}).state.frontFilename kind h
        =
      (takenNames env makeAddress kind filenames).head? := by
  have hnames := (@setOutputFilenames_sets env makeAddress filenames {}).names kind h
  rw [names_fresh, List.nil_append] at hnames
  rw [← hnames]
  rfl

theorem binaryFile_setOutputFilenames (filenames : List String)
    : (setOutputFilenames env makeAddress filenames {}).state.binaryFile = none := by
  rw [(setOutputFilenames_sets filenames {}).binaryFile]

theorem rootEntries_setOutputFilenames (filenames : List String)
    : (setOutputFilenames env makeAddress filenames {}).state.rootEntries = [] := by
  rw [rootEntries, rootFile_setOutputFilenames]
  rfl

theorem jsonFile_setOutputFilenames (filenames : List String)
    : (setOutputFilenames env makeAddress filenames {}).state.jsonFile = none := by
  rw [(setOutputFilenames_sets filenames {}).jsonFile]

theorem fillsRoot_setOutputFilenames (filenames : List String)
    : (setOutputFilenames env makeAddress filenames {}).state.fillsRoot env
        =
      (takenNames env makeAddress .root filenames != []) := by
  rw [fillsRoot, (setOutputFilenames_sets filenames {}).overlaps .root (by decide),
    DataWriterOption.overlaps_noOutput, Bool.false_or]
  cases hroot : env.hasRoot with
  | true => rw [Bool.and_true]
  | false =>
    have hnil : takenNames env makeAddress .root filenames = [] := by
      apply List.eq_nil_iff_forall_not_mem.mpr
      intro filename hmem
      simp [takenNames, isTakenAs, canOutput, hroot] at hmem
    simp [hnil]

theorem binaryEnabled_setOutputFilenames {filenames : List String} {front : String}
    (hfront : (takenNames env makeAddress .binary filenames).head? = some front)
    (hopen : env.canOpen front = true)
    : (setOutputFilenames env makeAddress filenames {}).state.BinaryEnabled env where
  binary := by
    rw [overlaps_setOutputFilenames (by decide)]
    intro hnil
    rw [hnil] at hfront
    cases hfront
  front := ⟨front, (frontFilename_setOutputFilenames _ _ filenames).trans hfront, hopen⟩
  isOpen := by
    rw [binaryFile_setOutputFilenames]
    rintro _ ⟨⟩

theorem healthy_setOutputFilenames {filenames : List String}
    (hudp : ∀ filename ∈ filenames, outputKind makeAddress filename ≠ some .udp)
    (hopens : ∀ filename ∈ filenames, env.canOpen filename = true)
    : (setOutputFilenames env makeAddress filenames {}).state.Healthy env where
  noUdp := by
    rw [Bool.eq_false_iff, ne_eq, overlaps_setOutputFilenames udp_mem_outputKinds, not_not]
    apply List.eq_nil_iff_forall_not_mem.mpr
    intro filename hmem
    rcases mem_takenNames hmem with ⟨hmem, hkind⟩
    apply hudp filename hmem hkind
  opens := by
    intro kind h hon
    rw [overlaps_setOutputFilenames h] at hon
    rcases List.exists_cons_of_ne_nil hon with ⟨front, rest, hcons⟩
    refine ⟨front, ?_, hopens front ?_⟩
    . rw [frontFilename_setOutputFilenames, hcons, List.head?_cons]
    . have htaken : front ∈ takenNames env makeAddress kind filenames := by
        rw [hcons]
        apply List.mem_cons_self
      exact (mem_takenNames htaken).1
  isOpen := by
    rw [binaryFile_setOutputFilenames]
    rintro _ ⟨⟩

end DataWriter

end Srs
