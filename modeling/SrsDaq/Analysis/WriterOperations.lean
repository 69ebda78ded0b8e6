import SrsDaq.Analysis.OutputFilenames
import SrsDaq.Data.TransitionSystem

/-!
This module contains the public operations of the writer in any order. Whoever calls them may catch
what they raise and go on.
-/

namespace Srs

namespace DataWriter

inductive Operation where
  | setOutputFilenames (filenames : List String)
  | setWriteOption (option : DataWriterOption)
  | writeBinary (readData : List Byte)
  | writeStruct (readData : ExportData)

namespace Operation

variable (env : Environment) (makeAddress : List Char → Bool)

def run (writer : DataWriter) : Operation → Outcome DataWriter
  | .setOutputFilenames filenames => writer.setOutputFilenames env makeAddress filenames
  | .setWriteOption option => writer.setWriteOption env option
  | .writeBinary readData => writer.writeBinary env readData
  | .writeStruct readData => writer.writeStruct env readData

def isUndefined : Outcome DataWriter → Bool
  | .raised .undefinedBehaviour _ => true
  | _ => false

/--
Whether the operation gets to `write_binary_file` or `write_struct_json`, and this takes the front
of an empty vector.
-/
def takesEmptyFront (writer : DataWriter) : Operation → Bool
  | .writeBinary readData =>
    writer.writeOption.overlaps .binary && isUndefined (writer.writeBinaryFile env readData)
  | .writeStruct readData =>
    writer.writeOption.overlaps .json && isUndefined (writer.writeStructJson env readData)
  | _ => false

def system : TransitionSystem DataWriter Operation where
  init := {}
  next writer op := some (op.run env makeAddress writer).state

def record (writer : DataWriter) (op : Operation) (_ : DataWriter) : List (Operation × Bool) :=
  [(op, op.takesEmptyFront env writer)]

abbrev Recorded := DataWriter × List (Operation × Bool)

def recorded : TransitionSystem Recorded Operation :=
  (system env makeAddress).withHistory (record env)

def FrontsExist (s : Recorded) : Prop :=
  ∀ entry ∈ s.2, entry.2 = false

/-
What the operations so far say about the option and the names.
-/

def chooseOption (option : DataWriterOption) : Operation → DataWriterOption
  | .setWriteOption chosen => if chosen.overlaps .root && not env.hasRoot then option else chosen
  | _ => option

def chosenOption (ops : List Operation) : DataWriterOption :=
  ops.foldl (chooseOption env) (.ofOption .noOutput)

def givenNames (kind : DataWriterOption.Option) : Operation → List String
  | .setOutputFilenames filenames => takenNames env makeAddress kind filenames
  | _ => []

def allGivenNames (kind : DataWriterOption.Option) (ops : List Operation) : List String :=
  ops.flatMap (givenNames env makeAddress kind)

/--
The option that was chosen last leaves out the kind, or there was a name for it.
-/
def HasName (kind : DataWriterOption.Option) (ops : List Operation) : Prop :=
  (chosenOption env ops).overlaps kind = true → allGivenNames env makeAddress kind ops ≠ []

def WritesHaveNames (s : Recorded) : Operation → Prop
  | .writeBinary _ => HasName env makeAddress .binary (s.2.map Prod.fst)
  | .writeStruct _ => HasName env makeAddress .json (s.2.map Prod.fst)
  | _ => True

variable {env makeAddress}

theorem isUndefined_iff {outcome : Outcome DataWriter}
    : isUndefined outcome = true ↔ ∃ writer, outcome = .raised .undefinedBehaviour writer := by
  unfold isUndefined
  split <;> simp_all

theorem isUndefined_writeBinaryFile (readData : List Byte) (writer : DataWriter)
    : isUndefined (writer.writeBinaryFile env readData) = true
        ↔
      writer.binaryFile = none ∧ writer.names .binary (by decide) = [] := by
  rw [isUndefined_iff]
  constructor
  . rintro ⟨writer', h⟩
    rcases writeBinaryFile_raised h with ⟨_, hfile, hfront⟩
    exact ⟨hfile, List.head?_eq_none_iff.mp hfront⟩
  . rintro ⟨hfile, hnames⟩
    have hfront : writer.frontFilename .binary (by decide) = none :=
      List.head?_eq_none_iff.mpr hnames
    refine ⟨writer, ?_⟩
    simp [writeBinaryFile, hfile, hfront]

theorem isUndefined_writeStructJson (readData : ExportData) (writer : DataWriter)
    : isUndefined (writer.writeStructJson env readData) = true
        ↔
      writer.jsonFile = none ∧ writer.names .json (by decide) = [] := by
  rw [isUndefined_iff]
  constructor
  . rintro ⟨writer', h⟩
    rcases writeStructJson_raised h with herror | ⟨_, hfile, hfront⟩
    . cases herror
    . exact ⟨hfile, List.head?_eq_none_iff.mp hfront⟩
  . rintro ⟨hfile, hnames⟩
    have hfront : writer.frontFilename .json (by decide) = none :=
      List.head?_eq_none_iff.mpr hnames
    refine ⟨writer, ?_⟩
    simp [writeStructJson, openJsonFile, hfile, hfront]

variable (env makeAddress) in
structure Tracks (ops : List Operation) (writer : DataWriter) : Prop where
  names : ∀ kind h, writer.names kind h = allGivenNames env makeAddress kind ops
  ofChosen : ∀ kind, (chosenOption env ops).overlaps kind = true →
    writer.writeOption.overlaps kind = true
  overlaps : ∀ kind, kind ∈ outputKinds → writer.writeOption.overlaps kind = true →
    (chosenOption env ops).overlaps kind = true ∨ allGivenNames env makeAddress kind ops ≠ []
  binaryFile : writer.binaryFile.isSome = true → allGivenNames env makeAddress .binary ops ≠ []
  jsonFile : writer.jsonFile.isSome = true → allGivenNames env makeAddress .json ops ≠ []

theorem tracks_init : Tracks env makeAddress [] {} where
  names := by simp [DataWriter.names, Columns.empty, allGivenNames]
  ofChosen := by simp [chosenOption]
  overlaps := by
    intro kind _ hoverlaps
    exact Or.inl hoverlaps
  binaryFile := by simp
  jsonFile := by simp

theorem chosenOption_append (ops : List Operation) (op : Operation)
    : chosenOption env (ops ++ [op]) = chooseOption env (chosenOption env ops) op := by
  simp [chosenOption]

theorem allGivenNames_append (kind : DataWriterOption.Option) (ops : List Operation)
    (op : Operation)
    : allGivenNames env makeAddress kind (ops ++ [op])
        =
      allGivenNames env makeAddress kind ops ++ givenNames env makeAddress kind op := by
  simp [allGivenNames]

theorem Tracks.setOutputFilenames {ops : List Operation} {writer writer' : DataWriter}
    {filenames : List String} (h : Tracks env makeAddress ops writer)
    (hsets : SetsNames env makeAddress filenames writer writer')
    : Tracks env makeAddress (ops ++ [.setOutputFilenames filenames]) writer' := by
  have hgrows (kind : DataWriterOption.Option) (hnames : allGivenNames env makeAddress kind ops ≠ [])
      : allGivenNames env makeAddress kind (ops ++ [.setOutputFilenames filenames]) ≠ [] := by
    rw [allGivenNames_append]
    apply List.append_ne_nil_of_left_ne_nil hnames
  constructor
  . intro kind hkind
    rw [hsets.names, h.names, allGivenNames_append]
    rfl
  . intro kind hchosen
    have hkind : kind ∈ outputKinds := by
      rw [DataWriterOption.mem_outputKinds]
      rintro rfl
      simp [DataWriterOption.overlaps, DataWriterOption.Option.toUnderlying] at hchosen
    rw [hsets.overlaps kind hkind, h.ofChosen kind, Bool.true_or]
    rw [chosenOption_append] at hchosen
    exact hchosen
  . intro kind hkind hoverlaps
    rw [hsets.overlaps kind hkind, Bool.or_eq_true, bne_iff_ne] at hoverlaps
    rw [chosenOption_append, allGivenNames_append]
    rcases hoverlaps with hbefore | htaken
    . rcases h.overlaps kind hkind hbefore with hchosen | hnames
      . exact Or.inl hchosen
      . apply Or.inr (List.append_ne_nil_of_left_ne_nil hnames _)
    . apply Or.inr (List.append_ne_nil_of_right_ne_nil _ htaken)
  . intro hfile
    rw [hsets.binaryFile] at hfile
    apply hgrows .binary (h.binaryFile hfile)
  . intro hfile
    rw [hsets.jsonFile] at hfile
    apply hgrows .json (h.jsonFile hfile)

theorem Tracks.writes {ops : List Operation} {writer writer' : DataWriter} {op : Operation}
    (h : Tracks env makeAddress ops writer) (hwrites : Writes writer writer')
    (hoption : ∀ option, chooseOption env option op = option)
    (hnames : ∀ kind, givenNames env makeAddress kind op = [])
    : Tracks env makeAddress (ops ++ [op]) writer' := by
  have hfront (kind : DataWriterOption.Option) (hkind : kind ∈ outputKinds)
      (hsome : (writer.frontFilename kind hkind).isSome = true)
      : allGivenNames env makeAddress kind ops ≠ [] := by
    rw [← h.names kind hkind]
    intro hempty
    have hnone : writer.frontFilename kind hkind = none := List.head?_eq_none_iff.mpr hempty
    rw [hnone] at hsome
    cases hsome
  constructor
  all_goals
    simp only [chosenOption_append, allGivenNames_append, hoption, hnames, List.append_nil,
      hwrites.writeOption]
  . intro kind hkind
    rw [← h.names kind hkind, DataWriter.names, hwrites.outputFilenames, DataWriter.names]
  . apply h.ofChosen
  . apply h.overlaps
  . intro hfile
    rcases hwrites.binaryFile hfile with hfile | hsome
    . apply h.binaryFile hfile
    . apply hfront _ _ hsome
  . intro hfile
    rcases hwrites.jsonFile hfile with hfile | hsome
    . apply h.jsonFile hfile
    . apply hfront _ _ hsome

theorem Tracks.setWriteOption {ops : List Operation} {writer : DataWriter}
    (h : Tracks env makeAddress ops writer) (option : DataWriterOption)
    : Tracks env makeAddress (ops ++ [.setWriteOption option])
        (writer.setWriteOption env option).state := by
  have hnames (kind : DataWriterOption.Option)
      : givenNames env makeAddress kind (.setWriteOption option) = [] := by
    rfl
  unfold DataWriter.setWriteOption
  split
  . next hroot =>
    constructor
    all_goals
      simp only [chosenOption_append, allGivenNames_append, hnames, List.append_nil, chooseOption,
        if_pos hroot]
    . apply h.names
    . apply h.ofChosen
    . apply h.overlaps
    . apply h.binaryFile
    . apply h.jsonFile
  . next hroot =>
    constructor
    all_goals
      simp only [chosenOption_append, allGivenNames_append, hnames, List.append_nil, chooseOption,
        if_neg hroot]
    . apply h.names
    . exact fun _ => id
    . intro kind _ hoverlaps
      exact Or.inl hoverlaps
    . apply h.binaryFile
    . apply h.jsonFile

theorem Tracks.run {ops : List Operation} {writer : DataWriter}
    (h : Tracks env makeAddress ops writer) (op : Operation)
    : Tracks env makeAddress (ops ++ [op]) (op.run env makeAddress writer).state := by
  cases op with
  | setOutputFilenames filenames => apply h.setOutputFilenames (setOutputFilenames_sets _ writer)
  | setWriteOption option => apply h.setWriteOption
  | writeBinary readData =>
    apply h.writes (writes_writeBinary readData writer) <;> intros <;> rfl
  | writeStruct readData =>
    apply h.writes (writes_writeStruct readData writer) <;> intros <;> rfl

theorem Tracks.takes_iff {ops : List Operation} {writer : DataWriter}
    (h : Tracks env makeAddress ops writer) {kind : DataWriterOption.Option}
    (hkind : kind ∈ outputKinds) {isOpen : Bool}
    (hopen : isOpen = true → allGivenNames env makeAddress kind ops ≠ [])
    : (writer.writeOption.overlaps kind = true ∧ isOpen = false ∧ writer.names kind hkind = [])
        ↔
      ¬ HasName env makeAddress kind ops := by
  unfold HasName
  rw [h.names]
  constructor
  . rintro ⟨hoverlaps, _, hnames⟩ hchosen
    rcases h.overlaps kind hkind hoverlaps with hc | hn
    . apply hchosen hc hnames
    . apply hn hnames
  . intro hnot
    simp only [Classical.not_imp, ne_eq, not_not] at hnot
    refine ⟨h.ofChosen kind hnot.1, ?_, hnot.2⟩
    rw [Bool.eq_false_iff]
    intro hisOpen
    apply hopen hisOpen hnot.2

theorem Tracks.takesEmptyFront_iff {s : Recorded}
    (h : Tracks env makeAddress (s.2.map Prod.fst) s.1) (op : Operation)
    : op.takesEmptyFront env s.1 = true ↔ ¬ WritesHaveNames env makeAddress s op := by
  cases op with
  | setOutputFilenames filenames => simp [takesEmptyFront, WritesHaveNames]
  | setWriteOption option => simp [takesEmptyFront, WritesHaveNames]
  | writeBinary readData =>
    simp only [takesEmptyFront, WritesHaveNames]
    rw [← h.takes_iff _ h.binaryFile, Bool.and_eq_true, isUndefined_writeBinaryFile,
      Option.isSome_eq_false_iff, Option.isNone_iff_eq_none]
  | writeStruct readData =>
    simp only [takesEmptyFront, WritesHaveNames]
    rw [← h.takes_iff _ h.jsonFile, Bool.and_eq_true, isUndefined_writeStructJson,
      Option.isSome_eq_false_iff, Option.isNone_iff_eq_none]

theorem next_recorded {s s' : Recorded} {op : Operation}
    (h : (recorded env makeAddress).next s op = some s')
    : s'.1 = (op.run env makeAddress s.1).state ∧
      s'.2 = s.2 ++ [(op, op.takesEmptyFront env s.1)] := by
  rcases TransitionSystem.next_withHistory h with ⟨hnext, hrecord⟩
  exact ⟨(Option.some.inj hnext).symm, hrecord⟩

/--
In a run, the front of an empty vector of names is never taken if and only if each writing comes
when the option that was chosen last leaves out the kind that it opens, or there was a name for it.
-/
theorem fronts_exist_iff (env : Environment) (makeAddress : List Char → Bool)
    (ops : List Operation)
    : (recorded env makeAddress).Along FrontsExist ({}, []) ops
        ↔
      (recorded env makeAddress).StepsMeet (WritesHaveNames env makeAddress) ({}, []) ops := by
  have hexec : ∃ s, (recorded env makeAddress).exec ({}, []) ops = some s := by
    apply TransitionSystem.exec_of_total
    intro s op
    exact ⟨_, rfl⟩
  rcases hexec with ⟨s, hexec⟩
  apply TransitionSystem.along_iff_stepsMeet _ _ _ _ hexec
  . exact fun s => Tracks env makeAddress (s.2.map Prod.fst) s.1 ∧ FrontsExist s
  . exact fun s h => h.2
  . rintro s op s' ⟨htracks, hfronts⟩ hok hnext
    rcases next_recorded hnext with ⟨hrun, hrecord⟩
    have htakes : op.takesEmptyFront env s.1 = false := by
      rw [Bool.eq_false_iff, ne_eq, htracks.takesEmptyFront_iff, not_not]
      exact hok
    constructor
    . rw [hrun, hrecord, List.map_append]
      apply htracks.run op
    . intro entry hentry
      rw [hrecord, List.mem_append, List.mem_singleton] at hentry
      rcases hentry with hentry | rfl
      . apply hfronts entry hentry
      . exact htakes
  . rintro s op s' ⟨htracks, _⟩ hok hnext hfronts
    rcases next_recorded hnext with ⟨_, hrecord⟩
    have htakes := (htracks.takesEmptyFront_iff op).mpr hok
    have hentry := hfronts (op, op.takesEmptyFront env s.1) (by simp [hrecord])
    rw [htakes] at hentry
    cases hentry
  . exact ⟨tracks_init, by simp [FrontsExist]⟩

theorem chosen_json_takes_empty_front
    : (∃ writer, (({} : DataWriter).setWriteOption plainEnvironment (.ofOption .json)).state.writeStruct
          plainEnvironment emptyFrame = .raised .undefinedBehaviour writer) ∧
      ¬ (recorded plainEnvironment fun _ => false).Along FrontsExist ({}, [])
          [.setWriteOption (.ofOption .json), .writeStruct emptyFrame] := by
  have hjson : isUndefined (DataWriter.writeStructJson plainEnvironment emptyFrame
      { writeOption := .ofOption .json }) = true := by
    rw [isUndefined_writeStructJson]
    exact ⟨rfl, by simp [DataWriter.names, Columns.empty]⟩
  constructor
  . rcases isUndefined_iff.mp hjson with ⟨writer, hraised⟩
    refine ⟨writer, ?_⟩
    change DataWriter.writeStruct plainEnvironment emptyFrame { writeOption := .ofOption .json } = _
    unfold DataWriter.writeStruct
    rw [if_pos (by decide), hraised]
    rfl
  . intro halong
    have hlast := (halong.2 _ rfl).2 _ rfl
    have hentry := hlast (.writeStruct emptyFrame, true) (by
      apply List.mem_append_right
      simp [record, takesEmptyFront, Outcome.state]
      exact ⟨by decide, hjson⟩)
    cases hentry

end Operation

end DataWriter

end Srs
