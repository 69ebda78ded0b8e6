import SrsDaq.Analysis.FrameFormat
import SrsDaq.Recording

/-!
This module contains the way of the frames from end to end: the headers, hits and markers that were sent
against those that stand in the outputs.
-/

namespace Srs

namespace Frame

/--
A frame as the other side of the connection makes it.
-/
structure Sent where
  header : ReceiveDataHeader
  items : List Item
  rest : List Byte
  short : rest.length < 6

namespace Sent

def bytes (sent : Sent) : List Byte :=
  encode sent.header (sent.items.map Item.toRaw) ++ sent.rest

def exportData (sent : Sent) : ExportData where
  header := sent.header
  hitData := sent.items.filterMap Item.hit?
  markerData := sent.items.filterMap Item.marker?

theorem le_length_bytes (sent : Sent) : 16 ≤ sent.bytes.length := by
  rw [bytes, List.length_append, length_encode]
  omega

theorem exportData_bytes (sent : Sent) : Frame.exportData sent.bytes = sent.exportData :=
  exportData_encode sent.header sent.items sent.short

theorem map_exportData (frames : List Sent)
    : (frames.map bytes).map Frame.exportData = frames.map exportData := by
  rw [List.map_map]
  apply List.map_congr_left
  intro sent _
  exact exportData_bytes sent

end Sent

end Frame

namespace Acquisition

variable {bufferSize : Nat} {α β : Type}

theorem select_map (f : α → β) (entries : List α) (answers : List Bool)
    : select (entries.map f) answers = (select entries answers).map f := by
  unfold select
  rw [List.zip_map_left, List.filter_map, List.map_map, List.map_map]
  rfl

theorem select_eq_self {entries : List α} {answers : List Bool}
    (hlength : entries.length = answers.length) (h : answers.count false = 0)
    : select entries answers = entries := by
  have hall : ∀ entry ∈ entries.zip answers, entry.2 = true := by
    intro entry hmem
    have hanswer := (List.of_mem_zip hmem).2
    cases htrue : entry.2 with
    | true => rfl
    | false =>
      rw [htrue] at hanswer
      exact absurd hanswer (List.count_eq_zero.mp h)
  unfold select
  rw [List.filter_eq_self.mpr hall, List.map_fst_zip (Nat.le_of_eq hlength)]

theorem not_failed_decode {daq : Acquisition bufferSize} (hprocesses : daq.Processes)
    (hkeeps : daq.KeepsFrames) {sent : List Frame.Sent}
    (hsent : daq.arrived = sent.map Frame.Sent.bytes)
    : daq.loopPc ≠ .failed .decode := by
  intro hpc
  have hshort := hprocesses.failed hpc
  have hmem : daq.inputDataBuffer.data ∈ daq.arrived := by
    apply mem_arrived_of_mem_inHand hkeeps
    simp [inHand, hpc]
  rw [hsent] at hmem
  rcases List.mem_map.mp hmem with ⟨frame, _, hbytes⟩
  have hlong := frame.le_length_bytes
  rw [hbytes] at hlong
  omega

theorem written_of_inHand {daq : Acquisition bufferSize} (h : daq.inHand = [])
    : daq.written = daq.analysed := by
  unfold inHand at h
  unfold written
  split <;> simp_all

/--
Where all the datagrams are frames, those that were written are a part of the frames that found room in
the queue.
-/
theorem written_eq_map {daq : Acquisition bufferSize} (horder : daq.HandlesInOrder)
    (hkeeps : daq.KeepsFrames) {sent : List Frame.Sent}
    (hsent : daq.arrived = sent.map Frame.Sent.bytes)
    : ∃ recorded, daq.written = recorded.map Frame.Sent.bytes ∧
        recorded <+: select sent daq.outcomes ∧
        (daq.inHand = [] → daq.queued = [] → recorded = select sent daq.outcomes) ∧
        (daq.pending = [] → daq.outcomes.count false = 0 → select sent daq.outcomes = sent) := by
  have haccepted : select daq.arrived daq.outcomes
      = (select sent daq.outcomes).map Frame.Sent.bytes := by
    rw [hsent, select_map]
  have hprefix := (written_prefix_decoded daq).trans (decoded_prefix_accepted hkeeps)
  rw [haccepted] at hprefix
  rcases List.prefix_map_iff.mp hprefix with ⟨recorded, hrecorded, hwritten⟩
  refine ⟨recorded, hwritten, hrecorded, ?_, ?_⟩
  . intro hhand hqueued
    have hkept : daq.analysed ++ daq.inHand ++ daq.queued = select daq.arrived daq.outcomes := hkeeps
    rw [hhand, hqueued, List.append_nil, List.append_nil, ← written_of_inHand hhand, hwritten,
      haccepted] at hkept
    apply hrecorded.eq_of_length
    simpa using congrArg List.length hkept
  . intro hpending hnone
    rcases horder with ⟨done, harrived, hlength⟩
    rw [hpending, List.append_nil, hsent] at harrived
    apply select_eq_self _ hnone
    rw [← hlength, ← harrived, List.length_map]

end Acquisition

namespace App

variable {bufferSize : Nat} {cfg : Config} {app : App bufferSize}
  {makeAddress : List Char → Bool} {filenames : List String}
  {encode : CompactExportData → List Char}

/--
What is sent is what is recorded. With files that can be opened and no socket among the outputs the
analysis never fails, and every output holds, in their order, the headers, hits and markers of the
frames that found room in the queue, as far as they have been written. None is missing once none is on
its way and none was dropped.
-/
theorem sent_frames_are_recorded (hzpp : cfg.daq.zpp.Lawful ReceiveDataHeader.wireFormat)
    (hsize : bufferSize ≤ maxSize) (hglaze : cfg.daq.env.glaze.Prints encode)
    (houtputs : cfg.outputs
      = DataWriter.setOutputFilenames cfg.daq.env makeAddress filenames {})
    (hudp : ∀ filename ∈ filenames, DataWriter.outputKind makeAddress filename ≠ some .udp)
    (hopens : ∀ filename ∈ filenames, cfg.daq.env.canOpen filename = true)
    (h : (system bufferSize cfg).Reachable app) {sent : List Frame.Sent}
    (hsent : app.daq.arrived = sent.map Frame.Sent.bytes)
    : app.daq.loopPc ≠ .failed .decode ∧ app.daq.loopPc ≠ .failed .write ∧
      ∃ recorded, recorded <+: Acquisition.select sent app.daq.outcomes ∧
        (app.daq.inHand = [] → app.daq.queued = [] →
          recorded = Acquisition.select sent app.daq.outcomes) ∧
        (app.daq.pending = [] → app.daq.outcomes.count false = 0 →
          Acquisition.select sent app.daq.outcomes = sent) ∧
        (namesOf cfg makeAddress filenames .binary ≠ [] →
          app.daq.processor.dataWriter.binaryContent
            = (recorded.map Frame.Sent.bytes).flatten) ∧
        (namesOf cfg makeAddress filenames .root ≠ [] →
          app.daq.processor.dataWriter.rootEntries = recorded.map Frame.Sent.exportData) ∧
        (namesOf cfg makeAddress filenames .json ≠ [] →
          (recorded = [] → app.daq.processor.dataWriter.destructJsonFile = none) ∧
          ∀ first rest, recorded = first :: rest →
            ∃ text, app.daq.processor.dataWriter.destructJsonFile = some text ∧
              JsonText.IsArrayOf
                ((first :: first :: rest).map fun frame => frame.exportData.encoding encode)
                text) := by
  have hreachable := (acquisition bufferSize cfg).reachable h
  have hconserves := Acquisition.conserves_reachable hreachable
  have hprocesses := Acquisition.processes_reachable hzpp hsize hreachable
  rcases holdsJson_reachable hzpp hsize hglaze houtputs hudp hopens h with ⟨hpc, hjson⟩
  rcases Acquisition.written_eq_map hconserves.handlesInOrder hconserves.keepsFrames hsent with
    ⟨recorded, hwritten, hrecorded, hcomplete, hall⟩
  refine ⟨Acquisition.not_failed_decode hprocesses hconserves.keepsFrames hsent, hpc, recorded,
    hrecorded, hcomplete, hall, ?_, ?_, ?_⟩
  . intro hnames
    rw [binaryContent_of_names houtputs hopens h hnames]
    exact congrArg List.flatten hwritten
  . intro hnames
    rw [rootRecord_reachable hzpp hsize houtputs h, if_neg hnames, Acquisition.stored_of_ne hpc,
      ← Frame.Sent.map_exportData]
    exact congrArg (List.map Frame.exportData) hwritten
  . intro hnames
    have hholds := hjson hnames
    have hstructs : app.daq.written.map Frame.exportData = recorded.map Frame.Sent.exportData := by
      rw [← Frame.Sent.map_exportData]
      exact congrArg (List.map Frame.exportData) hwritten
    rw [hstructs] at hholds
    have htext := hholds.destructJsonFile
    constructor
    . rintro rfl
      exact htext.1 rfl
    . rintro first rest rfl
      rcases htext.2 _ _ rfl with ⟨text, htext, hvalues⟩
      refine ⟨text, htext, ?_⟩
      simpa [Function.comp_def] using hvalues

/-
A run with two of them: a hit in front of a marker and three bytes that make no element, and two hits.
-/

theorem hit_inRange : HitData.InRange { channelNum := 5, vmmId := 1, adc := 9, bcId := 77 } :=
  ⟨by decide, by decide, by decide, by decide, by decide⟩

theorem marker_inRange : MarkerData.InRange { vmmId := 2, srsTimestamp := 1000 } :=
  ⟨by decide, by decide⟩

def firstSent : Frame.Sent where
  header := { frameCounter := 7, fecId := 3 }
  items := [.hit _ hit_inRange, .marker _ marker_inRange]
  rest := [1, 2, 3]
  short := by decide

def secondSent : Frame.Sent where
  header := { frameCounter := 8, fecId := 3 }
  items := [.hit _ hit_inRange, .hit _ hit_inRange]
  rest := []
  short := by decide

theorem length_firstSent : firstSent.bytes.length ≤ 40 := by
  decide +kernel

theorem length_secondSent : secondSent.bytes.length ≤ 40 := by
  decide +kernel

def recordSent : List (Action 40) :=
  startUp ++ receiveFrame ⟨firstSent.bytes, length_firstSent⟩ ++ .daq .enterLoop :: analyseFrame ++
    receiveFrame ⟨secondSent.bytes, length_secondSent⟩ ++ analyseFrame

theorem sent_frames_are_recorded_example
    : ∃ app, (system 40 plainFiles).Reachable app ∧
        app.daq.processor.dataWriter.binaryContent = firstSent.bytes ++ secondSent.bytes ∧
        app.daq.processor.dataWriter.rootEntries
          = [{ header := { frameCounter := 7, fecId := 3 }
               hitData := [{ channelNum := 5, vmmId := 1, adc := 9, bcId := 77 }]
               markerData := [{ vmmId := 2, srsTimestamp := 1000 }] },
             { header := { frameCounter := 8, fecId := 3 }
               hitData := [{ channelNum := 5, vmmId := 1, adc := 9, bcId := 77 },
                 { channelNum := 5, vmmId := 1, adc := 9, bcId := 77 }] }] := by
  have hrun : ((system 40 plainFiles).exec (init 40 plainFiles) recordSent).map
        (fun app => decide (app.daq.arrived = [firstSent, secondSent].map Frame.Sent.bytes ∧
          app.daq.outcomes = [true, true] ∧ app.daq.inHand = [] ∧ app.daq.queued = []))
      = some true := by
    decide +kernel
  have hnames : (namesOf plainFiles (fun _ => false) ["run.bin", "run.root", "run.json"] .binary
        ≠ []) ∧
      namesOf plainFiles (fun _ => false) ["run.bin", "run.root", "run.json"] .root ≠ [] := by
    decide +kernel
  have hudp : ∀ filename ∈ ["run.bin", "run.root", "run.json"],
      DataWriter.outputKind (fun _ => false) filename ≠ some .udp := by
    decide +kernel
  rcases Option.map_eq_some_iff.mp hrun with ⟨app, hexec, happ⟩
  rcases of_decide_eq_true happ with ⟨hsent, houtcomes, hhand, hqueued⟩
  have hreachable := TransitionSystem.Reachable.of_exec hexec
  rcases sent_frames_are_recorded (ZppBits.reference_lawful _) (by decide) Glaze.reference_prints rfl
      hudp (fun _ _ => rfl) hreachable hsent with
    ⟨_, _, recorded, _, hcomplete, _, hbinary, hroot, _⟩
  have hrecorded : recorded = [firstSent, secondSent] := by
    rw [hcomplete hhand hqueued, houtcomes]
    rfl
  refine ⟨app, hreachable, ?_, ?_⟩
  . rw [hbinary hnames.1, hrecorded]
    simp
  . rw [hroot hnames.2, hrecorded]
    rfl

end App

end Srs
