import SrsDaq.Analysis.Outputs
import SrsDaq.Analysis.ProcessedFrames
import SrsDaq.Shutdown

/-!
This module contains what the outputs hold at any time of a run: the frames that were written, in the
order of their arrival, and how far the outputs can be apart once one of them has failed.
-/

namespace Srs

namespace Acquisition

variable {bufferSize : Nat} {cfg : Config} {writer : DataWriter}

/-
From one frame to a whole run. Nothing but the writing of frames reaches the outputs, and the loop is
over with the first frame that raises.
-/

structure Writing (env : Environment) (P Q : List (List Byte) → DataWriter → Prop) : Prop where
  returned : ∀ frames (frame : StdVector Byte) writer written, P frames writer →
    DataProcessor.writeDecoded (DataWriter.interface env) frame writer = .returned written →
    P (frames ++ [frame.toList]) written
  raised : ∀ frames (frame : StdVector Byte) writer exception written, P frames writer →
    DataProcessor.writeDecoded (DataWriter.interface env) frame writer
      = .raised exception written →
    Q (frames ++ [frame.toList]) written

structure Records (P Q : List (List Byte) → DataWriter → Prop) (daq : Acquisition bufferSize)
    : Prop where
  sound : daq.loopPc ≠ .failed .write → P daq.written daq.processor.dataWriter
  broken : daq.loopPc = .failed .write → Q daq.written daq.processor.dataWriter

variable {P Q : List (List Byte) → DataWriter → Prop} {daq daq' : Acquisition bufferSize}

theorem Records.kept (hdaq : daq.Records P Q) (hpc : daq.loopPc ≠ .failed .write)
    (hpc' : daq'.loopPc ≠ .failed .write) (hwritten : daq'.written = daq.written)
    (hwriter : daq'.processor.dataWriter = daq.processor.dataWriter)
    : daq'.Records P Q := by
  refine ⟨fun _ => ?_, fun hfailed => absurd hfailed hpc'⟩
  rw [hwritten, hwriter]
  apply hdaq.sound hpc

/--
What is written is the frame in hand, as it was decoded.
-/
theorem writeData_inHand (cfg : Config) (hprocesses : daq.Processes)
    (hsize : ∀ frame ∈ daq.inHand, frame.length ≤ maxSize) (hpc : daq.loopPc = .analysing .write)
    : ∃ frame : StdVector Byte, frame.toList = daq.inputDataBuffer.data ∧
        DataProcessor.writeData (DataWriter.interface cfg.env) daq.inputDataBuffer daq.processor
          = (DataProcessor.writeDecoded (DataWriter.interface cfg.env) frame
              daq.processor.dataWriter).map
            fun writer => { daq.processor with dataWriter := writer } := by
  have hlength := hsize daq.inputDataBuffer.data (by simp [inHand, hpc])
  have hexported := hprocesses.exported (by simp [holdsDecoded, hpc])
  exact ⟨⟨daq.inputDataBuffer.data, hlength⟩, rfl,
    DataProcessor.writeData_eq _ ⟨daq.inputDataBuffer.data, hlength⟩ daq.processor hexported⟩

theorem Records.write (hwriting : Writing cfg.env P Q) (hprocesses : daq.Processes)
    (hsize : ∀ frame ∈ daq.inHand, frame.length ≤ maxSize) (hdaq : daq.Records P Q)
    (hpc : daq.loopPc = .analysing .write) {processor : DataProcessor DataWriter}
    (hpart : DataProcessor.writeData (DataWriter.interface cfg.env) daq.inputDataBuffer
      daq.processor = .returned processor)
    : P (daq.analysed ++ [daq.inputDataBuffer.data]) processor.dataWriter := by
  have hsound := hdaq.sound (by simp [hpc])
  rw [written, hpc] at hsound
  rcases writeData_inHand cfg hprocesses hsize hpc with ⟨frame, hframe, heq⟩
  rw [heq] at hpart
  cases hdecoded : DataProcessor.writeDecoded (DataWriter.interface cfg.env) frame
      daq.processor.dataWriter with
  | returned written =>
    rw [hdecoded, Outcome.map_returned] at hpart
    cases hpart
    have hmore := hwriting.returned _ frame _ _ hsound hdecoded
    rw [hframe] at hmore
    exact hmore
  | raised exception written =>
    rw [hdecoded, Outcome.map_raised] at hpart
    cases hpart

theorem Records.writeFails (hwriting : Writing cfg.env P Q) (hprocesses : daq.Processes)
    (hsize : ∀ frame ∈ daq.inHand, frame.length ≤ maxSize) (hdaq : daq.Records P Q)
    (hpc : daq.loopPc = .analysing .write) {processor : DataProcessor DataWriter}
    {exception : Exception}
    (hpart : DataProcessor.writeData (DataWriter.interface cfg.env) daq.inputDataBuffer
      daq.processor = .raised exception processor)
    : Q (daq.analysed ++ [daq.inputDataBuffer.data]) processor.dataWriter := by
  have hsound := hdaq.sound (by simp [hpc])
  rw [written, hpc] at hsound
  rcases writeData_inHand cfg hprocesses hsize hpc with ⟨frame, hframe, heq⟩
  rw [heq] at hpart
  cases hdecoded : DataProcessor.writeDecoded (DataWriter.interface cfg.env) frame
      daq.processor.dataWriter with
  | returned written =>
    rw [hdecoded, Outcome.map_returned] at hpart
    cases hpart
  | raised exception written =>
    rw [hdecoded, Outcome.map_raised] at hpart
    cases hpart
    have hmore := hwriting.raised _ frame _ _ _ hsound hdecoded
    rw [hframe] at hmore
    exact hmore

theorem records_step {a : Action bufferSize} (hwriting : Writing cfg.env P Q)
    (hprocesses : daq.Processes) (hsize : ∀ frame ∈ daq.inHand, frame.length ≤ maxSize)
    (hdaq : daq.Records P Q) (h : next cfg daq a = some daq')
    : daq'.Records P Q := by
  have hdecode := state_decodeFrame_dataWriter cfg.zpp daq.inputDataBuffer daq.processor
  cases next_effect h with
  | decode processor hpc hpart =>
    rw [hpart, Outcome.state] at hdecode
    exact hdaq.kept (by simp [hpc]) (by simp) (by simp [written, hpc]) hdecode
  | decodeFails exception processor hpc hpart =>
    rw [hpart, Outcome.state] at hdecode
    exact hdaq.kept (by simp [hpc]) (by simp) (by simp [written, hpc]) hdecode
  | write processor hpc hpart =>
    exact ⟨fun _ => hdaq.write hwriting hprocesses hsize hpc hpart, by simp⟩
  | writeFails exception processor hpc hpart =>
    exact ⟨fun hne => absurd rfl hne,
      fun _ => hdaq.writeFails hwriting hprocesses hsize hpc hpart⟩
  | listen _ _
  | closeSocket
  | startRaises _
  | exchangeStopped
  | abortNothing _
  | receive _ _ _
  | countBytes _ _
  | emplace _ _ _
  | drop _ _ _
  | resetBuffer _
  | goOnReading _
  | leaveReading _
  | cancelReceive _ _ => exact ⟨hdaq.sound, hdaq.broken⟩
  | start hpc
  | abortPop _ hpc
  | enterLoop hpc
  | goOnPopping hpc _
  | leaveLoop hpc _
  | beginPop hpc
  | takeFrame _ _ _ hpc _
  | raiseAbort hpc
  | finish hpc => exact hdaq.kept (by simp [hpc]) (by simp) (by simp [written, hpc]) rfl

theorem records_reachable (hwriting : Writing cfg.env P Q) (hinit : P [] writer)
    (hzpp : cfg.zpp.Lawful ReceiveDataHeader.wireFormat) (hsize : bufferSize ≤ maxSize)
    (h : (system bufferSize cfg writer).Reachable daq)
    : daq.Records P Q := by
  induction h with
  | refl => exact ⟨fun _ => hinit, by simp [system, init]⟩
  | tail hreachable hnext ih =>
    rcases hnext with ⟨a, ha⟩
    apply records_step hwriting (processes_reachable hzpp hsize hreachable) _ ih ha
    intro frame hmem
    apply Nat.le_trans _ hsize
    apply length_le_of_mem_inHand (conserves_reachable hreachable).keepsFrames
      (fits_reachable hreachable) hmem

/-
How far the record got.
-/

/--
The frames that every output has taken.
-/
def stored (daq : Acquisition bufferSize) : List (List Byte) :=
  match daq.loopPc with
  | .analysing .clear => daq.analysed ++ [daq.inputDataBuffer.data]
  | _ => daq.analysed

theorem stored_of_ne {daq : Acquisition bufferSize} (h : daq.loopPc ≠ .failed .write)
    : daq.stored = daq.written := by
  unfold stored written
  split <;> simp_all

theorem stored_of_failed {daq : Acquisition bufferSize} (h : daq.loopPc = .failed .write)
    : daq.stored = daq.written.dropLast := by
  simp [stored, written, h]

theorem written_prefix_decoded (daq : Acquisition bufferSize) : daq.written <+: daq.decoded := by
  unfold written decoded
  split
  . next hpc => simp [hpc, holdsDecoded]
  . next hpc => simp [hpc, holdsDecoded]
  . split <;> simp

theorem decoded_prefix_accepted {daq : Acquisition bufferSize} (h : daq.KeepsFrames)
    : daq.decoded <+: select daq.arrived daq.outcomes := by
  have haccepted : daq.analysed ++ daq.inHand ++ daq.queued = select daq.arrived daq.outcomes := h
  rw [← haccepted]
  unfold decoded
  split
  . next hon =>
    have hhand : daq.inHand = [daq.inputDataBuffer.data] := by
      unfold holdsDecoded at hon
      unfold inHand
      split at hon <;> simp_all
    rw [hhand]
    apply List.prefix_append
  . rw [List.append_assoc]
    apply List.prefix_append

theorem analysed_prefix_written (daq : Acquisition bufferSize) : daq.analysed <+: daq.written := by
  unfold written
  split <;> simp

theorem accepted_step {daq daq' : Acquisition bufferSize} {a : Action bufferSize}
    (horder : daq.HandlesInOrder) (h : next cfg daq a = some daq')
    : daq.accepted <+: daq'.accepted := by
  rcases horder with ⟨done, harrived, hlength⟩
  have haccepted : daq.accepted = select done daq.outcomes := by
    rw [accepted, harrived, select_append_left hlength]
  cases next_effect h with
  | receive datagram hpc hopen =>
    rw [pending, hpc, List.append_nil] at harrived
    have hsame : daq.accepted = select (daq.arrived ++ [datagram.bytes]) daq.outcomes := by
      rw [haccepted, harrived, select_append_left hlength]
    exact ⟨[], (List.append_nil _).trans hsame⟩
  | emplace size hpc hroom =>
    rw [pending, hpc] at harrived
    have hnew := select_concat hlength (daq.reader.readMsg size) true
    rw [← harrived, ← haccepted] at hnew
    exact ⟨_, hnew.symm⟩
  | drop size hpc hfull =>
    rw [pending, hpc] at harrived
    have hnew := select_concat hlength (daq.reader.readMsg size) false
    rw [← harrived, ← haccepted] at hnew
    exact ⟨_, hnew.symm⟩
  | _ => exact List.prefix_rfl

theorem accepted_leads {daq daq' : Acquisition bufferSize}
    (h : (system bufferSize cfg writer).Reachable daq)
    (hleads : (system bufferSize cfg writer).Leads daq daq')
    : daq.accepted <+: daq'.accepted := by
  induction hleads with
  | refl => exact List.prefix_rfl
  | tail hleads hnext ih =>
    rcases hnext with ⟨a, ha⟩
    have horder := (conserves_reachable (Relation.ReflTransGen.trans h hleads)).handlesInOrder
    exact ih.trans (accepted_step horder ha)

/-
What the outputs hold.
-/

def rootRecord (env : Environment) (fills : Bool) (frames : List (List Byte)) (writer : DataWriter)
    : Prop :=
  writer.fillsRoot env = fills ∧
  writer.rootEntries = if fills then frames.map Frame.exportData else []

theorem writing_rootRecord (env : Environment) (fills : Bool)
    : Writing env (rootRecord env fills) fun frames => rootRecord env fills frames.dropLast where
  returned := by
    intro frames frame writer written ⟨hfills, hentries⟩ hwrite
    have hsame := (@DataWriter.writes_writeDecoded env frame writer).writeOption
    rw [hwrite, Outcome.state] at hsame
    refine ⟨?_, ?_⟩
    . rw [← hfills, DataWriter.fillsRoot, hsame, DataWriter.fillsRoot]
    . rw [(DataWriter.writeDecoded_rootEntries frame writer).1 written hwrite, hentries, hfills]
      cases fills <;> simp
  raised := by
    intro frames frame writer exception written ⟨hfills, hentries⟩ hwrite
    have hsame := (@DataWriter.writes_writeDecoded env frame writer).writeOption
    rw [hwrite, Outcome.state] at hsame
    refine ⟨?_, ?_⟩
    . rw [← hfills, DataWriter.fillsRoot, hsame, DataWriter.fillsRoot]
    . rw [(DataWriter.writeDecoded_rootEntries frame writer).2 exception written hwrite, hentries,
        List.dropLast_concat]

def jsonRecord (env : Environment) (encode : CompactExportData → List Char)
    (writeOption : DataWriterOption) (frames : List (List Byte)) (writer : DataWriter)
    : Prop :=
  writer.Healthy env ∧ writer.writeOption = writeOption ∧
  (writeOption.overlaps .json = true → writer.HoldsJson encode (frames.map Frame.exportData))

theorem writing_jsonRecord {env : Environment} {encode : CompactExportData → List Char}
    (hglaze : env.glaze.Prints encode) (writeOption : DataWriterOption)
    : Writing env (jsonRecord env encode writeOption) fun _ _ => False where
  returned := by
    intro frames frame writer written ⟨hhealthy, hoption, hholds⟩ hwrite
    rw [← hoption] at hholds
    have hsame := (@DataWriter.writes_writeDecoded env frame writer).writeOption
    rcases hhealthy.writeDecoded hglaze hholds frame with ⟨written', hwrite', hhealthy', hholds'⟩
    rw [hwrite] at hwrite' hsame
    cases hwrite'
    rw [Outcome.state, hoption] at hsame
    rw [hsame] at hholds'
    refine ⟨hhealthy', hsame, ?_⟩
    simpa using hholds'
  raised := by
    intro frames frame writer exception written ⟨hhealthy, hoption, hholds⟩ hwrite
    rw [← hoption] at hholds
    rcases hhealthy.writeDecoded hglaze hholds frame with ⟨written', hwrite', _⟩
    rw [hwrite] at hwrite'
    cases hwrite'

structure StopsAt (length : Nat) (frames : List (List Byte)) (writer : DataWriter) : Prop where
  length : frames.length = length
  binary : writer.binaryContent = [] ∨ writer.binaryContent = frames.flatten
  rootFile : writer.rootFile = none
  jsonFile : writer.jsonFile = none

theorem writing_stopsAt (env : Environment)
    : Writing env
        (fun frames writer => writer.writeOption.overlaps .udp = true ∧ StopsAt 0 frames writer)
        (StopsAt 1) where
  returned := by
    intro frames frame writer written ⟨hudp, _⟩ hwrite
    rcases DataWriter.writeDecoded_udp hudp frame with ⟨exception, written', hwrite', _⟩
    rw [hwrite] at hwrite'
    cases hwrite'
  raised := by
    intro frames frame writer exception written ⟨hudp, hstops⟩ hwrite
    rcases DataWriter.writeDecoded_udp hudp frame with
      ⟨exception', written', hwrite', hroot', hjson', hbinary'⟩
    rw [hwrite] at hwrite'
    cases hwrite'
    have hframes : frames = [] := List.eq_nil_of_length_eq_zero hstops.length
    have hempty : writer.binaryContent = [] := by
      simpa [hframes] using hstops.binary
    refine ⟨by simp [hframes], ?_, hroot'.trans hstops.rootFile, hjson'.trans hstops.jsonFile⟩
    simpa [hempty, hframes] using hbinary'

end Acquisition

namespace App

variable {bufferSize : Nat} {cfg : Config} {app : App bufferSize}

/-
Runs with two frames of hits and markers.
-/

def outputsConfig (canOpen makesAddress : String → Bool) (filenames : List String) : Config where
  daq :=
    { zpp := ZppBits.reference ReceiveDataHeader.wireFormat
      env := { hasRoot := true, canOpen := canOpen, glaze := Glaze.reference }
      capacity := 8 }
  outputs := DataWriter.setOutputFilenames
    { hasRoot := true, canOpen := canOpen, glaze := Glaze.reference }
    (fun address => makesAddress (String.ofList address)) filenames {}
  remoteEndpoint := ⟨"10.0.0.2", 6600⟩

def oneFrame : List (Action 40) :=
  startUp ++ receiveFrame firstDatagram ++ receiveFrame secondDatagram ++
    .daq .enterLoop :: analyseFrame

def twoFrames : List (Action 40) :=
  oneFrame ++ analyseFrame

/--
What the processor holds while it analyses belongs to the frame in hand, whatever the order of the
steps: nothing of a frame is left over for the next one, only the number of the hits goes on counting.
A frame that is decoded has a header at least, and one that cannot be decoded has none.
-/
theorem processor_keeps_to_frame (hzpp : cfg.daq.zpp.Lawful ReceiveDataHeader.wireFormat)
    (hsize : bufferSize ≤ maxSize) (h : (system bufferSize cfg).Reachable app)
    : app.daq.processor.totalProcessedHitNumer.toNat
        = Acquisition.hitCount app.daq.decoded % 2 ^ 64 ∧
      (∀ frame ∈ app.daq.decoded, 16 ≤ frame.length) ∧
      app.daq.decoded <+: Acquisition.select app.daq.arrived app.daq.outcomes ∧
      (Acquisition.holdsDecoded app.daq.loopPc = true →
        app.daq.processor.exportData = Frame.exportData app.daq.inputDataBuffer.data) ∧
      (Acquisition.holdsDecoded app.daq.loopPc = false →
        app.daq.processor.exportData = {} ∧ app.daq.processor.receiveRawData = []) ∧
      (app.daq.loopPc = .failed .decode → app.daq.inputDataBuffer.data.length < 16) := by
  have hreachable := (acquisition bufferSize cfg).reachable h
  have hprocesses := Acquisition.processes_reachable hzpp hsize hreachable
  have hkeeps := (Acquisition.conserves_reachable hreachable).keepsFrames
  refine ⟨?_, hprocesses.long, Acquisition.decoded_prefix_accepted hkeeps, hprocesses.exported, ?_,
    hprocesses.failed⟩
  . have hhits : app.daq.processor.totalProcessedHitNumer
        = BitVec.ofNat 64 (Acquisition.hitCount app.daq.decoded) := hprocesses.hits
    rw [hhits, BitVec.toNat_ofNat]
  . intro hoff
    have hcleared := hprocesses.cleared hoff
    exact ⟨hcleared.exportData, hcleared.receiveRawData⟩

theorem processor_keeps_to_frame_example
    : ∃ app, (system 40 plainConfig).Reachable app ∧
        app.daq.loopPc = .analysing .clear ∧
        app.daq.processor.exportData = Frame.exportData DataProcessor.markerAndHits ∧
        app.daq.processor.totalProcessedHitNumer.toNat = 3 := by
  have hrun : ((system 40 plainConfig).exec (init 40 plainConfig) twoFrames.dropLast).map
        (fun app => decide (app.daq.loopPc = .analysing .clear ∧
          app.daq.inputDataBuffer.data = DataProcessor.markerAndHits ∧
          app.daq.decoded = [DataProcessor.hitAndMarker, DataProcessor.markerAndHits]))
      = some true := by
    decide +kernel
  rcases Option.map_eq_some_iff.mp hrun with ⟨app, hexec, happ⟩
  rcases of_decide_eq_true happ with ⟨hpc, hhand, hdecoded⟩
  have hreachable := TransitionSystem.Reachable.of_exec hexec
  rcases processor_keeps_to_frame (ZppBits.reference_lawful _) (by decide) hreachable with
    ⟨hhits, _, _, hexported, _⟩
  refine ⟨app, hreachable, hpc, ?_, ?_⟩
  . rw [hexported (by rw [hpc]; rfl), hhand]
  . rw [hhits, hdecoded]
    decide +kernel

theorem prefix_of_long {frames before behind : List (List Byte)} {short : List Byte}
    (hlong : ∀ frame ∈ frames, 16 ≤ frame.length) (hshort : short.length < 16)
    (hleading : frames <+: before ++ short :: behind)
    : frames <+: before := by
  have hnot : short ∉ frames := by
    intro hmem
    have := hlong short hmem
    omega
  have hwith : before ++ [short] <+: before ++ short :: behind := by
    simp
  rcases List.prefix_or_prefix_of_prefix hleading hwith with hle | hge
  . rcases List.prefix_concat_iff.mp hle with heq | hbefore
    . rw [heq] at hnot
      simp at hnot
    . exact hbefore
  . exact absurd (hge.subset (by simp)) hnot

/--
One datagram that is shorter than a header ends the record for good: nothing that was queued behind it
is decoded or written, in whatever order the steps are taken from there on.
-/
theorem short_datagram_ends_record (hzpp : cfg.daq.zpp.Lawful ReceiveDataHeader.wireFormat)
    (hsize : bufferSize ≤ maxSize) (h : (system bufferSize cfg).Reachable app)
    {before behind : List (List Byte)} {short : List Byte} (hshort : short.length < 16)
    (hqueued : Acquisition.select app.daq.arrived app.daq.outcomes = before ++ short :: behind)
    {later : App bufferSize} (hleads : (system bufferSize cfg).Leads app later)
    : later.daq.decoded <+: before ∧ later.daq.written <+: before ∧
      later.daq.analysed <+: before := by
  have hreachable := (acquisition bufferSize cfg).reachable (h.trans hleads)
  have hprocesses := Acquisition.processes_reachable hzpp hsize hreachable
  have hkeeps := (Acquisition.conserves_reachable hreachable).keepsFrames
  rcases Acquisition.accepted_leads ((acquisition bufferSize cfg).reachable h)
      ((acquisition bufferSize cfg).leads hleads) with ⟨rest, hrest⟩
  have haccepted : later.daq.accepted = before ++ short :: (behind ++ rest) := by
    have happ : app.daq.accepted = before ++ short :: behind := hqueued
    refine Eq.trans hrest.symm ?_
    simp [acquisition, happ]
  have hdecoded : later.daq.decoded <+: before := by
    have hleading : later.daq.decoded <+: before ++ short :: (behind ++ rest) := by
      rw [← haccepted]
      apply Acquisition.decoded_prefix_accepted hkeeps
    apply prefix_of_long hprocesses.long hshort hleading
  have hwritten := (Acquisition.written_prefix_decoded later.daq).trans hdecoded
  exact ⟨hdecoded, hwritten, (Acquisition.analysed_prefix_written later.daq).trans hwritten⟩

theorem length_twos : ([2, 2] : List Byte).length ≤ 20 := by
  decide

def shortFrame : List (Action 20) :=
  startUp ++ receiveFrame ⟨List.replicate 16 1, length_ones⟩ ++ receiveFrame ⟨[2, 2], length_twos⟩

theorem short_datagram_ends_record_example
    : ∃ app later, (system 20 plainConfig).Reachable app ∧ (system 20 plainConfig).Leads app later ∧
        later.daq.loopPc = .failed .decode ∧ later.daq.analysed <+: [List.replicate 16 1] := by
  have hrun : ((system 20 plainConfig).exec (init 20 plainConfig) shortFrame).map
        (fun app => decide (Acquisition.select app.daq.arrived app.daq.outcomes
          = [List.replicate 16 1] ++ [2, 2] :: []))
      = some true := by
    decide +kernel
  rcases Option.map_eq_some_iff.mp hrun with ⟨app, hexec, happ⟩
  have hlater : ((system 20 plainConfig).exec (init 20 plainConfig) shortFrame).bind (fun app =>
        ((system 20 plainConfig).exec app
          (.daq .enterLoop :: analyseFrame ++ analyseFrame.take 4)).map
            fun app => decide (app.daq.loopPc = .failed .decode))
      = some true := by
    decide +kernel
  rw [hexec, Option.bind_some] at hlater
  rcases Option.map_eq_some_iff.mp hlater with ⟨later, hleads, hpc⟩
  have hreachable := TransitionSystem.Reachable.of_exec hexec
  have hleads := TransitionSystem.Leads.of_exec hleads
  exact ⟨app, later, hreachable, hleads, of_decide_eq_true hpc,
    (short_datagram_ends_record (ZppBits.reference_lawful _) (by decide) hreachable (by decide)
      (of_decide_eq_true happ) hleads).2.2⟩

/-
The outputs that the names of the command line switch on.
-/

section OutputFilenames

variable {makeAddress : List Char → Bool} {filenames : List String}
  {encode : CompactExportData → List Char}

variable (cfg makeAddress filenames) in
abbrev namesOf (kind : DataWriterOption.Option) : List String :=
  DataWriter.takenNames cfg.daq.env makeAddress kind filenames

theorem binaryContent_eq
    (houtputs : cfg.outputs
      = DataWriter.setOutputFilenames cfg.daq.env makeAddress filenames {})
    (h : (system bufferSize cfg).Reachable app) {front : String}
    (hfront : (namesOf cfg makeAddress filenames .binary).head? = some front)
    (hopen : cfg.daq.env.canOpen front = true)
    : app.daq.processor.dataWriter.binaryContent = app.daq.written.flatten := by
  have henabled := DataWriter.binaryEnabled_setOutputFilenames hfront hopen
  have hreachable := (acquisition bufferSize cfg).reachable h
  rw [← houtputs] at henabled
  apply (Acquisition.keepsFile_reachable hreachable henabled _).2
  rw [houtputs, DataWriter.binaryContent, DataWriter.binaryFile_setOutputFilenames]
  rfl

theorem rootRecord_reachable (hzpp : cfg.daq.zpp.Lawful ReceiveDataHeader.wireFormat)
    (hsize : bufferSize ≤ maxSize)
    (houtputs : cfg.outputs
      = DataWriter.setOutputFilenames cfg.daq.env makeAddress filenames {})
    (h : (system bufferSize cfg).Reachable app)
    : app.daq.processor.dataWriter.rootEntries
        =
      if namesOf cfg makeAddress filenames .root = [] then
        []
      else
        app.daq.stored.map Frame.exportData := by
  have hrecords := Acquisition.records_reachable
    (Acquisition.writing_rootRecord cfg.daq.env (cfg.outputs.state.fillsRoot cfg.daq.env))
    ⟨rfl, by rw [houtputs, DataWriter.rootEntries_setOutputFilenames]; simp⟩ hzpp hsize
    ((acquisition bufferSize cfg).reachable h)
  have hentries : app.daq.processor.dataWriter.rootEntries
      = if cfg.outputs.state.fillsRoot cfg.daq.env then
          app.daq.stored.map Frame.exportData
        else
          [] := by
    by_cases hpc : app.daq.loopPc = .failed .write
    . rw [Acquisition.stored_of_failed hpc]
      exact (hrecords.broken hpc).2
    . rw [Acquisition.stored_of_ne hpc]
      exact (hrecords.sound hpc).2
  rw [hentries, houtputs, DataWriter.fillsRoot_setOutputFilenames]
  by_cases hnil : namesOf cfg makeAddress filenames .root = []
  . simp [hnil]
  . simp [hnil]

/--
Whichever output fails and whenever it does, the ROOT file holds the frames that all the outputs have
taken, and the binary file those and at most the one that failed. Both hold the frames in the order of
their arrival, without a gap.
-/
theorem record_survives_failure (hzpp : cfg.daq.zpp.Lawful ReceiveDataHeader.wireFormat)
    (hsize : bufferSize ≤ maxSize)
    (houtputs : cfg.outputs
      = DataWriter.setOutputFilenames cfg.daq.env makeAddress filenames {})
    (h : (system bufferSize cfg).Reachable app)
    : app.daq.written <+: Acquisition.select app.daq.arrived app.daq.outcomes ∧
      (∃ failed, app.daq.written = app.daq.stored ++ failed ∧ failed.length ≤ 1 ∧
        (failed ≠ [] → app.daq.loopPc = .failed .write)) ∧
      (∀ front, (namesOf cfg makeAddress filenames .binary).head? = some front →
        cfg.daq.env.canOpen front = true →
        app.daq.processor.dataWriter.binaryContent = app.daq.written.flatten) ∧
      app.daq.processor.dataWriter.rootEntries
        =
      if namesOf cfg makeAddress filenames .root = [] then
        []
      else
        app.daq.stored.map Frame.exportData := by
  have hreachable := (acquisition bufferSize cfg).reachable h
  have hkeeps := (Acquisition.conserves_reachable hreachable).keepsFrames
  refine ⟨(Acquisition.written_prefix_decoded _).trans (Acquisition.decoded_prefix_accepted hkeeps),
    ?_, fun front => binaryContent_eq houtputs h, rootRecord_reachable hzpp hsize houtputs h⟩
  by_cases hpc : app.daq.loopPc = .failed .write
  . refine ⟨[app.daq.inputDataBuffer.data], ?_, by simp, fun _ => hpc⟩
    simp [Acquisition.written, Acquisition.stored, hpc]
  . refine ⟨[], ?_, by simp, by simp⟩
    rw [Acquisition.stored_of_ne hpc, List.append_nil]

def brokenJson : Config :=
  outputsConfig (fun filename => filename != "run.json") (fun _ => false)
    ["run.bin", "run.root", "run.json"]

theorem record_survives_failure_example
    : ∃ app, (system 40 brokenJson).Reachable app ∧ app.daq.loopPc = .failed .write ∧
        app.daq.processor.dataWriter.binaryContent = DataProcessor.hitAndMarker ∧
        app.daq.processor.dataWriter.rootEntries = [] := by
  have hrun : ((system 40 brokenJson).exec (init 40 brokenJson) oneFrame.dropLast).map
        (fun app => decide (app.daq.loopPc = .failed .write ∧
          app.daq.written = [DataProcessor.hitAndMarker] ∧ app.daq.stored = []))
      = some true := by
    decide +kernel
  have hfront : (namesOf brokenJson (fun _ => false) ["run.bin", "run.root", "run.json"]
      .binary).head? = some "run.bin" := by
    decide +kernel
  rcases Option.map_eq_some_iff.mp hrun with ⟨app, hexec, happ⟩
  rcases of_decide_eq_true happ with ⟨hpc, hwritten, hstored⟩
  have hreachable := TransitionSystem.Reachable.of_exec hexec
  rcases record_survives_failure (ZppBits.reference_lawful _) (by decide) rfl hreachable with
    ⟨_, _, hbinary, hroot⟩
  refine ⟨app, hreachable, hpc, ?_, ?_⟩
  . rw [hbinary "run.bin" hfront rfl, hwritten]
    rfl
  . rw [hroot, hstored, List.map_nil, ite_self]

theorem binaryContent_of_names
    (houtputs : cfg.outputs
      = DataWriter.setOutputFilenames cfg.daq.env makeAddress filenames {})
    (hopens : ∀ filename ∈ filenames, cfg.daq.env.canOpen filename = true)
    (h : (system bufferSize cfg).Reachable app)
    (hnames : namesOf cfg makeAddress filenames .binary ≠ [])
    : app.daq.processor.dataWriter.binaryContent = app.daq.written.flatten := by
  rcases List.exists_cons_of_ne_nil hnames with ⟨front, rest, hcons⟩
  have hmem : front ∈ namesOf cfg makeAddress filenames .binary := by
    rw [hcons]
    apply List.mem_cons_self
  apply binaryContent_eq houtputs h
  . rw [hcons, List.head?_cons]
  . apply hopens front (DataWriter.mem_takenNames hmem).1

theorem holdsJson_reachable (hzpp : cfg.daq.zpp.Lawful ReceiveDataHeader.wireFormat)
    (hsize : bufferSize ≤ maxSize) (hglaze : cfg.daq.env.glaze.Prints encode)
    (houtputs : cfg.outputs
      = DataWriter.setOutputFilenames cfg.daq.env makeAddress filenames {})
    (hudp : ∀ filename ∈ filenames, DataWriter.outputKind makeAddress filename ≠ some .udp)
    (hopens : ∀ filename ∈ filenames, cfg.daq.env.canOpen filename = true)
    (h : (system bufferSize cfg).Reachable app)
    : app.daq.loopPc ≠ .failed .write ∧
      (namesOf cfg makeAddress filenames .json ≠ [] →
        app.daq.processor.dataWriter.HoldsJson encode (app.daq.written.map Frame.exportData)) := by
  have hhealthy := @DataWriter.healthy_setOutputFilenames cfg.daq.env makeAddress filenames hudp hopens
  rw [← houtputs] at hhealthy
  have hrecords := Acquisition.records_reachable
    (Acquisition.writing_jsonRecord hglaze cfg.outputs.state.writeOption)
    ⟨hhealthy, rfl, fun _ => by
      rw [houtputs]
      exact DataWriter.jsonFile_setOutputFilenames filenames⟩
    hzpp hsize ((acquisition bufferSize cfg).reachable h)
  have hpc : app.daq.loopPc ≠ .failed .write := fun hpc => hrecords.broken hpc
  refine ⟨hpc, ?_⟩
  intro hnames
  have hjson : cfg.outputs.state.writeOption.overlaps .json = true := by
    rw [houtputs, DataWriter.overlaps_setOutputFilenames (by decide)]
    exact hnames
  exact (hrecords.sound hpc).2.2 hjson

/--
As long as all the files can be opened, no output fails and all of them hold the same frames: the
frames read back from the binary file are those of the ROOT file, and those of the json file but for
the first, which stands there once more.
-/
theorem outputs_hold_same_frames (hzpp : cfg.daq.zpp.Lawful ReceiveDataHeader.wireFormat)
    (hsize : bufferSize ≤ maxSize) (hglaze : cfg.daq.env.glaze.Prints encode)
    (houtputs : cfg.outputs
      = DataWriter.setOutputFilenames cfg.daq.env makeAddress filenames {})
    (hudp : ∀ filename ∈ filenames, DataWriter.outputKind makeAddress filename ≠ some .udp)
    (hopens : ∀ filename ∈ filenames, cfg.daq.env.canOpen filename = true)
    (h : (system bufferSize cfg).Reachable app)
    : app.daq.loopPc ≠ .failed .write ∧
      (namesOf cfg makeAddress filenames .binary ≠ [] →
        (app.daq.written.map List.length).splitLengths
          app.daq.processor.dataWriter.binaryContent = app.daq.written) ∧
      (namesOf cfg makeAddress filenames .root ≠ [] →
        app.daq.processor.dataWriter.rootEntries = app.daq.written.map Frame.exportData) ∧
      (namesOf cfg makeAddress filenames .json ≠ [] →
        (app.daq.written = [] → app.daq.processor.dataWriter.destructJsonFile = none) ∧
        ∀ first rest, app.daq.written = first :: rest →
          ∃ text, app.daq.processor.dataWriter.destructJsonFile = some text ∧
            JsonText.IsArrayOf
              ((first :: first :: rest).map fun frame =>
                (Frame.exportData frame).encoding encode)
              text) := by
  rcases holdsJson_reachable hzpp hsize hglaze houtputs hudp hopens h with ⟨hpc, hjson⟩
  refine ⟨hpc, ?_, ?_, ?_⟩
  . intro hnames
    rw [binaryContent_of_names houtputs hopens h hnames, DataWriter.splitLengths_flatten]
  . intro hnames
    rw [rootRecord_reachable hzpp hsize houtputs h, if_neg hnames, Acquisition.stored_of_ne hpc]
  . intro hnames
    have htext := (hjson hnames).destructJsonFile
    constructor
    . intro hnil
      apply htext.1
      rw [hnil, List.map_nil]
    . intro first rest hcons
      rcases htext.2 (Frame.exportData first) (rest.map Frame.exportData)
          (by rw [hcons, List.map_cons]) with ⟨text, htext, hvalues⟩
      refine ⟨text, htext, ?_⟩
      simpa [Function.comp_def] using hvalues

def plainFiles : Config :=
  outputsConfig (fun _ => true) (fun _ => false) ["run.bin", "run.root", "run.json"]

theorem outputs_hold_same_frames_example
    : ∃ app, (system 40 plainFiles).Reachable app ∧
        app.daq.analysed = [DataProcessor.hitAndMarker, DataProcessor.markerAndHits] ∧
        [30, 34].splitLengths app.daq.processor.dataWriter.binaryContent
          = [DataProcessor.hitAndMarker, DataProcessor.markerAndHits] ∧
        app.daq.processor.dataWriter.rootEntries
          = [Frame.exportData DataProcessor.hitAndMarker,
            Frame.exportData DataProcessor.markerAndHits] ∧
        ∃ text, app.daq.processor.dataWriter.destructJsonFile = some text := by
  have hrun : ((system 40 plainFiles).exec (init 40 plainFiles) twoFrames).map
        (fun app => decide
          (app.daq.analysed = [DataProcessor.hitAndMarker, DataProcessor.markerAndHits] ∧
            app.daq.written = [DataProcessor.hitAndMarker, DataProcessor.markerAndHits]))
      = some true := by
    decide +kernel
  have hnames (kind : DataWriterOption.Option) (hkind : kind = .binary ∨ kind = .root ∨ kind = .json)
      : namesOf plainFiles (fun _ => false) ["run.bin", "run.root", "run.json"] kind ≠ [] := by
    rcases hkind with rfl | rfl | rfl <;> decide +kernel
  have hudp : ∀ filename ∈ ["run.bin", "run.root", "run.json"],
      DataWriter.outputKind (fun _ => false) filename ≠ some .udp := by
    decide +kernel
  rcases Option.map_eq_some_iff.mp hrun with ⟨app, hexec, happ⟩
  rcases of_decide_eq_true happ with ⟨hanalysed, hwritten⟩
  have hreachable := TransitionSystem.Reachable.of_exec hexec
  rcases outputs_hold_same_frames (ZppBits.reference_lawful _) (by decide) Glaze.reference_prints rfl
      hudp (fun _ _ => rfl) hreachable with ⟨_, hbinary, hroot, hjson⟩
  refine ⟨app, hreachable, hanalysed, ?_, ?_, ?_⟩
  . have hsplit := hbinary (hnames .binary (by simp))
    rw [hwritten] at hsplit
    exact hsplit
  . rw [hroot (hnames .root (by simp)), hwritten, List.map_cons, List.map_cons, List.map_nil]
  . rcases (hjson (hnames .json (by simp))).2 _ _ hwritten with ⟨text, htext, _⟩
    exact ⟨text, htext⟩

/--
With the name of a socket among the outputs the record ends with the first frame: nothing is analysed
to the end, and that frame reaches the binary file at most.
-/
theorem udp_output_ends_record (hzpp : cfg.daq.zpp.Lawful ReceiveDataHeader.wireFormat)
    (hsize : bufferSize ≤ maxSize)
    (houtputs : cfg.outputs
      = DataWriter.setOutputFilenames cfg.daq.env makeAddress filenames {})
    (hudp : namesOf cfg makeAddress filenames .udp ≠ [])
    (h : (system bufferSize cfg).Reachable app)
    : app.daq.analysed = [] ∧ app.daq.loopPc ≠ .analysing .clear ∧
      (app.daq.written ≠ [] → app.daq.loopPc = .failed .write) ∧
      app.daq.written.length ≤ 1 ∧
      app.daq.written <+: Acquisition.select app.daq.arrived app.daq.outcomes ∧
      (app.daq.processor.dataWriter.binaryContent = [] ∨
        app.daq.processor.dataWriter.binaryContent = app.daq.written.flatten) ∧
      (∀ front, (namesOf cfg makeAddress filenames .binary).head? = some front →
        cfg.daq.env.canOpen front = true →
        app.daq.processor.dataWriter.binaryContent = app.daq.written.flatten) ∧
      app.daq.processor.dataWriter.rootFile = none ∧
      app.daq.processor.dataWriter.jsonFile = none := by
  have hon : cfg.outputs.state.writeOption.overlaps .udp = true := by
    rw [houtputs, DataWriter.overlaps_setOutputFilenames DataWriter.udp_mem_outputKinds]
    exact hudp
  have hreachable := (acquisition bufferSize cfg).reachable h
  have hinit : Acquisition.StopsAt 0 [] cfg.outputs.state := by
    refine ⟨rfl, Or.inl ?_, ?_, ?_⟩
    . rw [houtputs, DataWriter.binaryContent, DataWriter.binaryFile_setOutputFilenames]
      rfl
    . rw [houtputs, DataWriter.rootFile_setOutputFilenames]
    . rw [houtputs, DataWriter.jsonFile_setOutputFilenames]
  have hrecords := Acquisition.records_reachable (Acquisition.writing_stopsAt cfg.daq.env)
    ⟨hon, hinit⟩ hzpp hsize hreachable
  have hstops : ∃ length, length ≤ 1 ∧
      Acquisition.StopsAt length app.daq.written app.daq.processor.dataWriter ∧
      (app.daq.loopPc ≠ .failed .write → length = 0) := by
    by_cases hpc : app.daq.loopPc = .failed .write
    . exact ⟨1, Nat.le_refl 1, hrecords.broken hpc, fun hne => absurd hpc hne⟩
    . exact ⟨0, Nat.zero_le 1, (hrecords.sound hpc).2, fun _ => rfl⟩
  rcases hstops with ⟨length, hle, hstops, hzero⟩
  have hfailed : app.daq.written ≠ [] → app.daq.loopPc = .failed .write := by
    intro hne
    by_contra hpc
    apply hne
    apply List.eq_nil_of_length_eq_zero
    rw [hstops.length, hzero hpc]
  have hkeeps := (Acquisition.conserves_reachable hreachable).keepsFrames
  refine ⟨?_, ?_, hfailed, by rw [hstops.length]; exact hle,
    (Acquisition.written_prefix_decoded _).trans (Acquisition.decoded_prefix_accepted hkeeps),
    hstops.binary, fun front => binaryContent_eq houtputs h, hstops.rootFile, hstops.jsonFile⟩
  . by_cases hpc : app.daq.loopPc = .failed .write
    . have hlength := hstops.length
      simp only [Acquisition.written, hpc, List.length_append, List.length_singleton] at hlength
      exact List.eq_nil_of_length_eq_zero (by omega)
    . have hanalysed := Acquisition.analysed_prefix_written app.daq
      rwa [List.eq_nil_of_length_eq_zero (hstops.length.trans (hzero hpc)), List.prefix_nil]
        at hanalysed
  . intro hclear
    have hpc := hfailed (by simp [Acquisition.written, hclear])
    rw [hclear] at hpc
    cases hpc

def withSocket : Config :=
  outputsConfig (fun _ => true) (fun address => address = "127.0.0.1")
    ["127.0.0.1:9000", "run.bin", "run.json"]

theorem udp_output_ends_record_example
    : ∃ app, (system 40 withSocket).Reachable app ∧ app.daq.analysed = [] ∧
        app.daq.queued = [DataProcessor.markerAndHits] ∧
        app.daq.processor.dataWriter.binaryContent = DataProcessor.hitAndMarker ∧
        app.daq.processor.dataWriter.jsonFile.isNone = true := by
  have hrun : ((system 40 withSocket).exec (init 40 withSocket) oneFrame.dropLast).map
        (fun app => decide (app.daq.written = [DataProcessor.hitAndMarker] ∧
          app.daq.queued = [DataProcessor.markerAndHits]))
      = some true := by
    decide +kernel
  have hnames : (namesOf withSocket (fun address => String.ofList address = "127.0.0.1")
        ["127.0.0.1:9000", "run.bin", "run.json"] .udp ≠ []) ∧
      (namesOf withSocket (fun address => String.ofList address = "127.0.0.1")
        ["127.0.0.1:9000", "run.bin", "run.json"] .binary).head? = some "run.bin" := by
    decide +kernel
  rcases Option.map_eq_some_iff.mp hrun with ⟨app, hexec, happ⟩
  rcases of_decide_eq_true happ with ⟨hwritten, hqueued⟩
  have hreachable := TransitionSystem.Reachable.of_exec hexec
  rcases udp_output_ends_record (ZppBits.reference_lawful _) (by decide) rfl hnames.1 hreachable with
    ⟨hanalysed, _, _, _, _, _, hbinary, _, hjson⟩
  refine ⟨app, hreachable, hanalysed, hqueued, ?_, by rw [hjson]; rfl⟩
  rw [hbinary "run.bin" hnames.2 rfl, hwritten]
  rfl

end OutputFilenames

end App

end Srs
