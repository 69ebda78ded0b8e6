import SrsDaq.Analysis.DataProcessor
import SrsDaq.Analysis.DataWriterLemmas

/-!
This module contains how the names of the outputs and the options that switch them on keep in step.
-/

namespace Srs

namespace DataWriterOption

theorem mem_outputKinds {kind : Option} : kind ∈ outputKinds ↔ kind ≠ .noOutput := by
  cases kind <;> decide

theorem overlaps_ofOption {kind kind' : Option} (h : kind ∈ outputKinds) (h' : kind' ∈ outputKinds)
    : (ofOption kind).overlaps kind' = decide (kind' = kind) := by
  rw [mem_outputKinds] at h h'
  cases kind <;> cases kind' <;> first | contradiction | decide

theorem overlaps_noOutput (kind : Option) : (ofOption .noOutput).overlaps kind = false := by
  cases kind <;> decide

theorem overlaps_union (left right : DataWriterOption) (kind : Option)
    : (left.union right).overlaps kind = (left.overlaps kind || right.overlaps kind) := by
  unfold overlaps union
  rw [BitVec.and_or_distrib_right, Bool.eq_iff_iff]
  simp only [Option.toUnderlying, bne_iff_ne, ne_eq, BitVec.ofNat_eq_ofNat, Bool.or_eq_true,
    BitVec.or_eq_zero_iff]
  tauto

end DataWriterOption

namespace DataWriter

variable (env : Environment) (makeAddress : List Char → Bool)

def names (writer : DataWriter) (kind : DataWriterOption.Option) (h : kind ∈ outputKinds)
    : List String :=
  writer.outputFilenames.get kind h

def outputKind (filename : String) : Option DataWriterOption.Option :=
  let fileExt := Path.extension filename.toList
  if fileExt = ".bin".toList || fileExt = ".lmd".toList then
    some .binary
  else if fileExt = ".root".toList then
    some .root
  else if fileExt = ".json".toList then
    some .json
  else if checkIsIpAddress makeAddress filename.toList then
    some .udp
  else
    none

def canOutput (kind : DataWriterOption.Option) : Bool :=
  kind != .root || env.hasRoot

def isTakenAs (kind : DataWriterOption.Option) (filename : String) : Bool :=
  outputKind makeAddress filename = some kind && canOutput env kind

variable {env makeAddress}

inductive NameEffect (env : Environment) (makeAddress : List Char → Bool) (filename : String)
    (writer : DataWriter)
    : Outcome DataWriter → Prop where
  | added (kind) (h : kind ∈ outputKinds) (hkind : outputKind makeAddress filename = some kind)
    (hcan : canOutput env kind = true)
    : NameEffect env makeAddress filename writer
        (.returned (writer.addOutputFilename kind h filename))
  | ignored (hkind : outputKind makeAddress filename = some .root) (hroot : env.hasRoot = false)
    : NameEffect env makeAddress filename writer (.returned writer)
  | unrecognized (hkind : outputKind makeAddress filename = none)
    : NameEffect env makeAddress filename writer
        (.raised (.runtimeError "Error occured at DataWriter") writer)

theorem setOutputFilename_effect (filename : String) (writer : DataWriter)
    : NameEffect env makeAddress filename writer
        (setOutputFilename env makeAddress filename writer) := by
  have hkind : outputKind makeAddress filename = outputKind makeAddress filename := rfl
  unfold setOutputFilename
  conv at hkind =>
    lhs
    unfold outputKind
  dsimp only at hkind ⊢
  repeat' split at hkind
  . next hbin =>
    rw [if_pos hbin]
    exact .added .binary _ hkind.symm rfl
  . next hbin hroot =>
    rw [if_neg hbin, if_pos hroot]
    split
    . next hhas => exact .added .root _ hkind.symm hhas
    . next hhas => exact .ignored hkind.symm (Bool.eq_false_iff.mpr hhas)
  . next hbin hroot hjson =>
    rw [if_neg hbin, if_neg hroot, if_pos hjson]
    exact .added .json _ hkind.symm rfl
  . next hbin hroot hjson hip =>
    rw [if_neg hbin, if_neg hroot, if_neg hjson, if_pos hip]
    exact .added .udp _ hkind.symm rfl
  . next hbin hroot hjson hip =>
    rw [if_neg hbin, if_neg hroot, if_neg hjson, if_neg hip]
    exact .unrecognized hkind.symm

@[simp]
theorem names_addOutputFilename (writer : DataWriter) (kind kind' : DataWriterOption.Option)
    (h : kind ∈ outputKinds) (h' : kind' ∈ outputKinds) (filename : String)
    : (writer.addOutputFilename kind h filename).names kind' h'
        =
      if kind' = kind then writer.names kind' h' ++ [filename] else writer.names kind' h' := by
  apply Columns.get_pushBack _ _ h

@[simp]
theorem overlaps_addOutputFilename (writer : DataWriter) (kind kind' : DataWriterOption.Option)
    (h : kind ∈ outputKinds) (h' : kind' ∈ outputKinds) (filename : String)
    : (writer.addOutputFilename kind h filename).writeOption.overlaps kind'
        =
      (writer.writeOption.overlaps kind' || decide (kind' = kind)) := by
  have hunion := DataWriterOption.overlaps_union writer.writeOption (.ofOption kind) kind'
  rw [DataWriterOption.overlaps_ofOption h h'] at hunion
  exact hunion

variable (env makeAddress) in
/--
The names that a call takes in as names of the kind: it stops at the first that has no kind.
-/
def takenNames (kind : DataWriterOption.Option) (filenames : List String) : List String :=
  (filenames.takeWhile fun filename => (outputKind makeAddress filename).isSome).filter
    (isTakenAs env makeAddress kind)

theorem takenNames_cons_none {filename : String} (h : outputKind makeAddress filename = none)
    (kind : DataWriterOption.Option) (filenames : List String)
    : takenNames env makeAddress kind (filename :: filenames) = [] := by
  simp [takenNames, h]

theorem takenNames_cons_some {filename : String} {kind : DataWriterOption.Option}
    (h : outputKind makeAddress filename = some kind) (kind' : DataWriterOption.Option)
    (filenames : List String)
    : takenNames env makeAddress kind' (filename :: filenames)
        =
      if kind' = kind && canOutput env kind then
        filename :: takenNames env makeAddress kind' filenames
      else
        takenNames env makeAddress kind' filenames := by
  unfold takenNames
  rw [List.takeWhile_cons_of_pos (by simp [h]), List.filter_cons]
  by_cases heq : kind' = kind
  . subst heq
    simp [isTakenAs, h]
  . have hne : kind ≠ kind' := by
      apply Ne.symm heq
    simp [isTakenAs, h, heq, hne]

structure SetsNames (env : Environment) (makeAddress : List Char → Bool) (filenames : List String)
    (writer writer' : DataWriter) : Prop where
  names : ∀ kind h, writer'.names kind h
    = writer.names kind h ++ takenNames env makeAddress kind filenames
  overlaps : ∀ kind, kind ∈ outputKinds → writer'.writeOption.overlaps kind
    = (writer.writeOption.overlaps kind || takenNames env makeAddress kind filenames != [])
  binaryFile : writer'.binaryFile = writer.binaryFile
  jsonFile : writer'.jsonFile = writer.jsonFile

theorem setOutputFilenames_sets (filenames : List String) (writer : DataWriter)
    : SetsNames env makeAddress filenames writer
        (setOutputFilenames env makeAddress filenames writer).state := by
  unfold setOutputFilenames
  induction filenames generalizing writer with
  | nil => constructor <;> simp [takenNames, Outcome.state]
  | cons filename filenames ih =>
    rw [Outcome.forEach_cons]
    have heffect := @setOutputFilename_effect env makeAddress filename writer
    generalize setOutputFilename env makeAddress filename writer = outcome at heffect
    cases heffect with
    | added kind h hkind hcan =>
      rcases ih (writer.addOutputFilename kind h filename) with ⟨hnames, hoverlaps, hbinary, hjson⟩
      rw [Outcome.andThen_returned]
      refine ⟨?_, ?_, hbinary, hjson⟩
      . intro kind' h'
        rw [hnames, takenNames_cons_some hkind]
        by_cases heq : kind' = kind <;> simp [heq, hcan]
      . intro kind' h'
        rw [hoverlaps kind' h', takenNames_cons_some hkind, overlaps_addOutputFilename _ _ _ h h']
        by_cases heq : kind' = kind <;> simp [heq, hcan]
    | ignored hkind hroot =>
      rcases ih writer with ⟨hnames, hoverlaps, hbinary, hjson⟩
      have hcan : canOutput env .root = false := by simp [canOutput, hroot]
      rw [Outcome.andThen_returned]
      refine ⟨?_, ?_, hbinary, hjson⟩
      . intro kind' h'
        rw [hnames, takenNames_cons_some hkind]
        simp [hcan]
      . intro kind' h'
        rw [hoverlaps kind' h', takenNames_cons_some hkind]
        simp [hcan]
    | unrecognized hkind =>
      rw [Outcome.andThen_raised]
      constructor <;> simp [takenNames_cons_none hkind, Outcome.state]

theorem setOutputFilenames_raises_iff (filenames : List String) (writer : DataWriter)
    : (∃ exception writer',
          setOutputFilenames env makeAddress filenames writer = .raised exception writer')
        ↔
      ∃ filename ∈ filenames, outputKind makeAddress filename = none := by
  unfold setOutputFilenames
  induction filenames generalizing writer with
  | nil => simp
  | cons filename filenames ih =>
    rw [Outcome.forEach_cons]
    have heffect := @setOutputFilename_effect env makeAddress filename writer
    generalize setOutputFilename env makeAddress filename writer = outcome at heffect
    cases heffect with
    | added kind h hkind hcan => simp [ih, hkind]
    | ignored hkind hroot => simp [ih, hkind]
    | unrecognized hkind => simp [hkind]

theorem takenNames_eq_filter {filenames : List String}
    (h : ∀ filename ∈ filenames, outputKind makeAddress filename ≠ none)
    (kind : DataWriterOption.Option)
    : takenNames env makeAddress kind filenames
        =
      filenames.filter (isTakenAs env makeAddress kind) := by
  unfold takenNames
  rw [List.takeWhile_eq_self_iff.mpr]
  intro filename hmem
  apply Option.isSome_iff_ne_none.mpr (h filename hmem)

def BitsMatchNames (writer : DataWriter) : Prop :=
  ∀ kind h, writer.writeOption.overlaps kind = true ↔ writer.names kind h ≠ []

theorem BitsMatchNames.setsNames {filenames : List String} {writer writer' : DataWriter}
    (h : writer.BitsMatchNames) (hsets : SetsNames env makeAddress filenames writer writer')
    : writer'.BitsMatchNames := by
  intro kind hkind
  rw [hsets.names, hsets.overlaps kind hkind]
  simp only [Bool.or_eq_true, h kind hkind, bne_iff_ne, ne_eq, List.append_eq_nil_iff]
  tauto

theorem bitsMatchNames_fresh : BitsMatchNames {} := by
  intro kind h
  rw [DataWriterOption.overlaps_noOutput]
  simp [names, Columns.empty]

/-
What the writing leaves behind.
-/

structure Writes (writer writer' : DataWriter) : Prop where
  writeOption : writer'.writeOption = writer.writeOption
  outputFilenames : writer'.outputFilenames = writer.outputFilenames
  binaryFile : writer'.binaryFile.isSome = true →
    writer.binaryFile.isSome = true ∨ (writer.frontFilename .binary (by decide)).isSome = true
  jsonFile : writer'.jsonFile.isSome = true →
    writer.jsonFile.isSome = true ∨ (writer.frontFilename .json (by decide)).isSome = true

theorem Writes.refl (writer : DataWriter) : Writes writer writer :=
  ⟨rfl, rfl, Or.inl, Or.inl⟩

theorem Writes.trans {writer₁ writer₂ writer₃ : DataWriter} (h : Writes writer₁ writer₂)
    (h' : Writes writer₂ writer₃)
    : Writes writer₁ writer₃ := by
  have hbinary := h'.binaryFile
  have hjson := h'.jsonFile
  unfold frontFilename at hbinary hjson
  rw [h.outputFilenames] at hbinary hjson
  refine ⟨h'.writeOption.trans h.writeOption, h'.outputFilenames.trans h.outputFilenames, ?_, ?_⟩
  . intro hfile
    rcases hbinary hfile with hfile | hfront
    . apply h.binaryFile hfile
    . exact Or.inr hfront
  . intro hfile
    rcases hjson hfile with hfile | hfront
    . apply h.jsonFile hfile
    . exact Or.inr hfront

theorem Writes.andThen {writer : DataWriter} {outcome : Outcome DataWriter}
    {next : DataWriter → Outcome DataWriter} (h : Writes writer outcome.state)
    (hnext : ∀ writer, Writes writer (next writer).state)
    : Writes writer (outcome.andThen next).state := by
  apply Outcome.andThen_state h
  intro writer' h'
  apply h'.trans (hnext writer')

theorem writes_writeBinaryFile (readData : List Byte) (writer : DataWriter)
    : Writes writer (writeBinaryFile env readData writer).state := by
  unfold writeBinaryFile
  apply Writes.andThen
  . split
    . apply Writes.refl
    . split
      . apply Writes.refl
      . next hfront => exact ⟨rfl, rfl, fun _ => Or.inr (by rw [hfront]; rfl), Or.inl⟩
  . intro writer
    exact ⟨rfl, rfl, fun h => Or.inl (by simpa [Outcome.state] using h), Or.inl⟩

theorem writes_writeBinary (readData : List Byte) (writer : DataWriter)
    : Writes writer (writeBinary env readData writer).state := by
  unfold writeBinary
  apply Writes.andThen
  . apply Writes.andThen
    . split
      . apply writes_writeBinaryFile
      . apply Writes.refl
    . intro writer
      split <;> apply Writes.refl
  . intro writer
    split <;> apply Writes.refl

theorem writes_onJsonFile (f : JsonWriter → Outcome JsonWriter) (writer : DataWriter)
    : Writes writer (onJsonFile f writer).state := by
  unfold onJsonFile
  split
  . apply Writes.refl
  . next hfile =>
    rw [Outcome.state_map]
    exact ⟨rfl, rfl, Or.inl, fun _ => Or.inl (by rw [hfile]; rfl)⟩

theorem writes_openJsonFile (writer : DataWriter)
    : Writes writer (openJsonFile env writer).state := by
  unfold openJsonFile
  split
  . apply Writes.refl
  . next hfront =>
    split
    . apply Writes.refl
    . exact ⟨rfl, rfl, Or.inl, fun _ => Or.inr (by rw [hfront]; rfl)⟩

theorem writes_writeStructJson (dataStruct : ExportData) (writer : DataWriter)
    : Writes writer (writeStructJson env dataStruct writer).state := by
  unfold writeStructJson
  apply Writes.andThen
  . apply Writes.andThen
    . split
      . apply Writes.andThen
        . apply writes_openJsonFile
        . apply writes_onJsonFile
      . apply Writes.refl
    . apply writes_onJsonFile
  . apply writes_onJsonFile

theorem writes_writeStructRoot (dataStruct : ExportData) (writer : DataWriter)
    : Writes writer (writeStructRoot env dataStruct writer).state := by
  unfold writeStructRoot
  repeat' split
  all_goals exact ⟨rfl, rfl, Or.inl, Or.inl⟩

theorem writes_writeStruct (readData : ExportData) (writer : DataWriter)
    : Writes writer (writeStruct env readData writer).state := by
  unfold writeStruct
  apply Writes.andThen
  . apply Writes.andThen
    . split
      . apply writes_writeStructJson
      . apply Writes.refl
    . intro writer
      split
      . apply writes_writeStructRoot
      . apply Writes.refl
  . intro writer
    split <;> apply Writes.refl

/-
What the writing raises.
-/

def jsonWriterError : Exception :=
  .runtimeError "Error occured with JsonWriter"

theorem writeBinaryFile_raised {readData : List Byte} {writer writer' : DataWriter}
    {exception : Exception} (h : writeBinaryFile env readData writer = .raised exception writer')
    : exception = .undefinedBehaviour ∧ writer.binaryFile = none ∧
      writer.frontFilename .binary (by decide) = none := by
  unfold writeBinaryFile at h
  split at h
  . cases h
  . next hfile =>
    split at h
    . next hfront =>
      cases h
      exact ⟨rfl, hfile, hfront⟩
    . cases h

theorem onJsonFile_returned {f : JsonWriter → Outcome JsonWriter} {writer writer' : DataWriter}
    (h : onJsonFile f writer = .returned writer')
    : writer'.jsonFile.isSome = true := by
  unfold onJsonFile at h
  split at h
  . cases h
  . next jsonFile _ =>
    cases hf : f jsonFile with
    | returned jsonFile' =>
      rw [hf] at h
      cases h
      rfl
    | raised exception jsonFile' =>
      rw [hf] at h
      cases h

theorem onJsonFile_raised {f : JsonWriter → Outcome JsonWriter} {writer writer' : DataWriter}
    {exception : Exception}
    (hf : ∀ jsonFile jsonFile', f jsonFile = .raised exception jsonFile' →
      exception = jsonWriterError)
    (hfile : writer.jsonFile.isSome = true) (h : onJsonFile f writer = .raised exception writer')
    : exception = jsonWriterError := by
  unfold onJsonFile at h
  split at h
  . next hnone => simp [hnone] at hfile
  . next jsonFile _ =>
    cases hjson : f jsonFile with
    | returned jsonFile' =>
      rw [hjson] at h
      cases h
    | raised exception jsonFile' =>
      rw [hjson] at h
      cases h
      apply hf _ _ hjson

theorem openJsonFile_returned {writer writer' : DataWriter}
    (h : openJsonFile env writer = .returned writer')
    : writer'.jsonFile.isSome = true := by
  unfold openJsonFile at h
  split at h
  . cases h
  . split at h
    . cases h
    . cases h
      rfl

theorem openJsonFile_raised {writer writer' : DataWriter} {exception : Exception}
    (h : openJsonFile env writer = .raised exception writer')
    : exception = jsonWriterError ∨
      exception = .undefinedBehaviour ∧ writer.frontFilename .json (by decide) = none := by
  unfold openJsonFile at h
  split at h
  . next hfront =>
    cases h
    exact Or.inr ⟨rfl, hfront⟩
  . next front _ =>
    split at h
    . next hconstruct =>
      cases h
      left
      unfold JsonWriter.construct at hconstruct
      split at hconstruct
      . cases hconstruct
        rfl
      . cases hconstruct
    . cases h

theorem writeStructJson_raised {dataStruct : ExportData} {writer writer' : DataWriter}
    {exception : Exception} (h : writeStructJson env dataStruct writer = .raised exception writer')
    : exception = jsonWriterError ∨
      exception = .undefinedBehaviour ∧ writer.jsonFile = none ∧
        writer.frontFilename .json (by decide) = none := by
  have hwrite (jsonFile jsonFile' : JsonWriter)
      (hraised : jsonFile.write env.glaze dataStruct = .raised exception jsonFile')
      : exception = jsonWriterError := by
    apply JsonWriter.write_raised hraised
  unfold writeStructJson at h
  simp only [Outcome.andThen_eq_raised, Outcome.andThen_eq_returned] at h
  rcases h with (hfirst | ⟨opened, hfirst, hseparated⟩) | ⟨separated, ⟨opened, _, hseparated⟩, hlast⟩
  . split at hfirst
    . next hnone =>
      rw [Outcome.andThen_eq_raised] at hfirst
      rcases hfirst with hopen | ⟨opened, hopen, hraised⟩
      . rcases openJsonFile_raised hopen with herror | ⟨hundefined, hfront⟩
        . exact Or.inl herror
        . exact Or.inr ⟨hundefined, Option.isNone_iff_eq_none.mp hnone, hfront⟩
      . apply Or.inl (onJsonFile_raised hwrite (openJsonFile_returned hopen) hraised)
    . cases hfirst
  . left
    refine onJsonFile_raised ?_ ?_ hseparated
    . intro jsonFile jsonFile' hraised
      cases hraised
    . split at hfirst
      . rw [Outcome.andThen_eq_returned] at hfirst
        rcases hfirst with ⟨opened', _, hreturned⟩
        apply onJsonFile_returned hreturned
      . next hsome =>
        cases hfirst
        simpa [Option.isSome_iff_ne_none] using hsome
  . apply Or.inl (onJsonFile_raised hwrite (onJsonFile_returned hseparated) hlast)

theorem writeStructRoot_raised {dataStruct : ExportData} {writer writer' : DataWriter}
    {exception : Exception} (h : writeStructRoot env dataStruct writer = .raised exception writer')
    : exception = .undefinedBehaviour := by
  unfold writeStructRoot at h
  repeat' split at h
  all_goals cases h
  rfl

/--
The errors of `write_binary` and `write_struct` about a write option that is not set.
-/
def IsNotSetError (exception : Exception) : Prop :=
  exception = .runtimeError
    "DataWriter: write_binary is called but write option is not set to either \"binary\" or \"udp\"" ∨
  exception = .runtimeError
    "DataWriter: write_struct is called but write option is not set to either \"root\" or \"json\""

theorem writeBinary_raised {readData : List Byte} {writer writer' : DataWriter}
    {exception : Exception} (hbinary : writer.isBinary = true)
    (h : writeBinary env readData writer = .raised exception writer')
    : ¬ IsNotSetError exception := by
  unfold writeBinary at h
  simp only [Outcome.andThen_eq_raised, Outcome.andThen_eq_returned] at h
  rcases h with (hfile | ⟨written, hfile, hudp⟩) | ⟨written, ⟨toFile, hfile, hudp⟩, hlast⟩
  . split at hfile
    . rw [(writeBinaryFile_raised hfile).1]
      simp [IsNotSetError]
    . cases hfile
  . split at hudp
    . cases hudp
      simp [IsNotSetError]
    . cases hudp
  . have hfirst : Writes writer toFile := by
      split at hfile
      . have hwrites := @writes_writeBinaryFile env readData writer
        rw [hfile] at hwrites
        exact hwrites
      . cases hfile
        apply Writes.refl
    split at hudp
    . cases hudp
    . cases hudp
      rw [hfirst.writeOption] at hlast
      unfold isBinary at hbinary
      rw [if_neg (by simpa [or_iff_not_imp_left] using hbinary)] at hlast
      cases hlast

theorem writeStruct_raised {readData : ExportData} {writer writer' : DataWriter}
    {exception : Exception} (hstruct : writer.isStruct = true)
    (h : writeStruct env readData writer = .raised exception writer')
    : ¬ IsNotSetError exception := by
  unfold writeStruct at h
  simp only [Outcome.andThen_eq_raised, Outcome.andThen_eq_returned] at h
  rcases h with (hjson | ⟨written, hjson, hroot⟩) | ⟨written, ⟨toJson, hjson, hroot⟩, hlast⟩
  . split at hjson
    . rcases writeStructJson_raised hjson with rfl | ⟨rfl, _⟩
      . simp [IsNotSetError, jsonWriterError]
      . simp [IsNotSetError]
    . cases hjson
  . split at hroot
    . rw [writeStructRoot_raised hroot]
      simp [IsNotSetError]
    . cases hroot
  . have hfirst : Writes writer toJson := by
      split at hjson
      . have hwrites := @writes_writeStructJson env readData writer
        rw [hjson] at hwrites
        exact hwrites
      . cases hjson
        apply Writes.refl
    have hsecond : Writes toJson written := by
      split at hroot
      . have hwrites := @writes_writeStructRoot env readData toJson
        rw [hroot] at hwrites
        exact hwrites
      . cases hroot
        apply Writes.refl
    rw [hsecond.writeOption, hfirst.writeOption] at hlast
    unfold isStruct at hstruct
    rw [Bool.or_comm] at hstruct
    rw [if_neg (by simpa [or_iff_not_imp_left] using hstruct)] at hlast
    cases hlast

theorem writeData_raised {aFrame : SerializableMsgBuffer} {exception : Exception}
    {processor processor' : DataProcessor DataWriter}
    (h : DataProcessor.writeData (interface env) aFrame processor = .raised exception processor')
    : ¬ IsNotSetError exception := by
  unfold DataProcessor.writeData at h
  rw [Outcome.andThen_eq_raised] at h
  rcases h with hbinary | ⟨written, _, hstruct⟩
  . split at hbinary
    . next hon =>
      rcases Outcome.map_eq_raised.mp hbinary with ⟨writer', hraised, _⟩
      apply writeBinary_raised hon hraised
    . cases hbinary
  . split at hstruct
    . next hon =>
      rcases Outcome.map_eq_raised.mp hstruct with ⟨writer', hraised, _⟩
      apply writeStruct_raised hon hraised
    . cases hstruct

/-
Calls of `set_output_filenames`, one after another.
-/

variable (env makeAddress) in
def afterCalls (calls : List (List String)) : DataWriter :=
  calls.foldl (fun writer filenames => (setOutputFilenames env makeAddress filenames writer).state) {}

theorem bitsMatchNames_afterCalls (calls : List (List String))
    : (afterCalls env makeAddress calls).BitsMatchNames := by
  unfold afterCalls
  apply List.foldlRecOn calls
  . apply bitsMatchNames_fresh
  . intro writer h filenames _
    apply h.setsNames (setOutputFilenames_sets filenames writer)

theorem taken_once {filename : String} (h : outputKind makeAddress filename ≠ none)
    : (outputKind makeAddress filename = some .root ∧ env.hasRoot = false ∧
          ∀ kind, isTakenAs env makeAddress kind filename = false) ∨
      ∃! kind, isTakenAs env makeAddress kind filename = true := by
  rcases Option.ne_none_iff_exists'.mp h with ⟨kind, hkind⟩
  cases hcan : canOutput env kind with
  | true =>
    right
    refine ⟨kind, by simp [isTakenAs, hkind, hcan], ?_⟩
    intro kind' htaken
    simp only [isTakenAs, hkind, Option.some.injEq, Bool.and_eq_true, decide_eq_true_eq] at htaken
    exact htaken.1.symm
  | false =>
    left
    simp only [canOutput, Bool.or_eq_false_iff, bne_eq_false_iff_eq] at hcan
    rcases hcan with ⟨rfl, hroot⟩
    refine ⟨hkind, hroot, ?_⟩
    intro kind'
    by_cases heq : kind' = .root
    . subst heq
      simp [isTakenAs, canOutput, hroot]
    . simp [isTakenAs, hkind, Ne.symm heq]

/--
After any calls, one more call that returns has sorted its names into the lists of their kinds, it
raises exactly if a name has no kind, the bits of the kinds and the lists match, and writing a frame
does not find the write option unset.
-/
theorem setOutputFilenames_sorts_names (env : Environment) (makeAddress : List Char → Bool)
    (calls : List (List String)) (filenames : List String)
    : (∀ writer', setOutputFilenames env makeAddress filenames (afterCalls env makeAddress calls)
            = .returned writer' →
          (∀ kind h, writer'.names kind h = (afterCalls env makeAddress calls).names kind h
            ++ filenames.filter (isTakenAs env makeAddress kind)) ∧
          ∀ filename ∈ filenames,
            (outputKind makeAddress filename = some .root ∧ env.hasRoot = false ∧
              ∀ kind, isTakenAs env makeAddress kind filename = false) ∨
            ∃! kind, isTakenAs env makeAddress kind filename = true) ∧
      ((∃ exception writer',
            setOutputFilenames env makeAddress filenames (afterCalls env makeAddress calls)
              = .raised exception writer') ↔
          ∃ filename ∈ filenames, outputKind makeAddress filename = none) ∧
      (∀ kind h, (afterCalls env makeAddress calls).writeOption.overlaps kind = true ↔
          (afterCalls env makeAddress calls).names kind h ≠ []) ∧
      ∀ aFrame (processor : DataProcessor DataWriter) exception processor',
          processor.dataWriter = afterCalls env makeAddress calls →
          processor.writeData (interface env) aFrame = .raised exception processor' →
          ¬ IsNotSetError exception := by
  refine ⟨?_, ?_, ?_, ?_⟩
  . intro writer' hreturned
    have hkinds : ∀ filename ∈ filenames, outputKind makeAddress filename ≠ none := by
      intro filename hmem hnone
      rcases (setOutputFilenames_raises_iff filenames (afterCalls env makeAddress calls)).mpr
        ⟨filename, hmem, hnone⟩ with ⟨exception, raised, hraised⟩
      rw [hreturned] at hraised
      cases hraised
    have hsets := @setOutputFilenames_sets env makeAddress filenames
      (afterCalls env makeAddress calls)
    rw [hreturned] at hsets
    constructor
    . intro kind h
      rw [← takenNames_eq_filter hkinds]
      apply hsets.names
    . intro filename hmem
      apply taken_once (hkinds filename hmem)
  . apply setOutputFilenames_raises_iff
  . apply bitsMatchNames_afterCalls
  . intro aFrame processor exception processor' _ hraised
    apply writeData_raised hraised

end DataWriter

end Srs
