import SrsDaq.Analysis.AcquisitionLemmas
import SrsDaq.Analysis.DataProcessorLemmas

/-!
This module contains what the processor holds while the data is on its way, whatever the order of the
steps: the decoding of the frame in hand and nothing of the frames before it.
-/

namespace Srs

theorem DataProcessor.decodeFrame_short {W : Type} (zpp : ZppBits ReceiveDataHeader)
    {aFrame : SerializableMsgBuffer} (hshort : aFrame.data.length < 16)
    (processor : DataProcessor W)
    : decodeFrame zpp aFrame processor = .raised .lengthError processor := by
  have hheader : aFrame.data.length < ReceiveDataHeader.sizeof := hshort
  unfold decodeFrame deserializeFrame
  rw [SerializableMsgBuffer.deserialize_short zpp (by decide) (by decide) (by decide) hheader]
  rfl

namespace Acquisition

variable {bufferSize : Nat}

/-
The frames fit into the read buffer.
-/

def Fits (daq : Acquisition bufferSize) : Prop :=
  ∀ datagram ∈ daq.arrived, datagram.length ≤ bufferSize

theorem fits_step {cfg : Config} {daq daq' : Acquisition bufferSize} {a : Action bufferSize}
    (hdaq : daq.Fits) (h : next cfg daq a = some daq')
    : daq'.Fits := by
  unfold Fits at *
  cases next_effect h with
  | receive datagram hpc hopen =>
    intro datagram' hmem
    rcases List.mem_append.mp hmem with hmem | hmem
    . apply hdaq datagram' hmem
    . rw [List.mem_singleton.mp hmem]
      exact datagram.length_le
  | _ => exact hdaq

theorem mem_of_mem_select {entries : List α} {answers : List Bool} {entry : α}
    (h : entry ∈ select entries answers)
    : entry ∈ entries := by
  simp only [select, List.mem_map, List.mem_filter] at h
  rcases h with ⟨⟨entry', answer⟩, ⟨hmem, _⟩, rfl⟩
  exact (List.of_mem_zip hmem).1

theorem mem_arrived_of_mem_inHand {daq : Acquisition bufferSize} (hkeeps : daq.KeepsFrames)
    {frame : List Byte} (h : frame ∈ daq.inHand)
    : frame ∈ daq.arrived := by
  have haccepted : frame ∈ select daq.arrived daq.outcomes := by
    change frame ∈ daq.accepted
    rw [← hkeeps]
    simp [h]
  exact mem_of_mem_select haccepted

theorem length_le_of_mem_inHand {daq : Acquisition bufferSize} (hkeeps : daq.KeepsFrames)
    (hfits : daq.Fits) {frame : List Byte} (h : frame ∈ daq.inHand)
    : frame.length ≤ bufferSize :=
  hfits frame (mem_arrived_of_mem_inHand hkeeps h)

/-
The decoded frames.
-/

def holdsDecoded : LoopPc → Bool
  | .analysing .write => true
  | .analysing .clear => true
  | .failed .write => true
  | _ => false

def decoded (daq : Acquisition bufferSize) : List (List Byte) :=
  if holdsDecoded daq.loopPc then
    daq.analysed ++ [daq.inputDataBuffer.data]
  else
    daq.analysed

def hitCount (frames : List (List Byte)) : Nat :=
  (frames.map fun frame => (Frame.hits frame).length).sum

theorem hitCount_concat (frames : List (List Byte)) (frame : List Byte)
    : hitCount (frames ++ [frame]) = hitCount frames + (Frame.hits frame).length := by
  simp [hitCount]

/-
What has been handed over and what has been decoded only grows.
-/

theorem handedOver_step {cfg : Config} {daq daq' : Acquisition bufferSize} {a : Action bufferSize}
    (h : next cfg daq a = some daq')
    : daq.handedOver <+: daq'.handedOver := by
  cases next_effect h with
  | receive datagram hpc hopen => simp [handedOver, hpc]
  | countBytes size hpc =>
    simp only [handedOver, hpc]
    apply List.dropLast_prefix
  | listen _ hpc
  | emplace _ hpc _
  | drop _ hpc _
  | resetBuffer hpc
  | goOnReading hpc
  | leaveReading hpc
  | cancelReceive hpc _ => simp [handedOver, hpc]
  | _ => exact List.prefix_rfl

theorem decoded_step {cfg : Config} {daq daq' : Acquisition bufferSize} {a : Action bufferSize}
    (h : next cfg daq a = some daq')
    : daq.decoded <+: daq'.decoded := by
  cases next_effect h with
  | start hpc
  | abortPop _ hpc
  | enterLoop hpc
  | goOnPopping hpc _
  | leaveLoop hpc _
  | beginPop hpc
  | takeFrame _ _ _ hpc _
  | raiseAbort hpc
  | decode _ hpc _
  | decodeFails _ _ hpc _
  | write _ hpc _
  | writeFails _ _ hpc _
  | finish hpc => simp [decoded, holdsDecoded, hpc]
  | _ => exact List.prefix_rfl

structure Processes (daq : Acquisition bufferSize) : Prop where
  long : ∀ frame ∈ daq.decoded, 16 ≤ frame.length
  hits : daq.processor.totalProcessedHitNumer = BitVec.ofNat 64 (hitCount daq.decoded)
  cleared : holdsDecoded daq.loopPc = false → daq.processor.IsCleared
  exported : holdsDecoded daq.loopPc = true →
    daq.processor.exportData = Frame.exportData daq.inputDataBuffer.data
  failed : daq.loopPc = .failed .decode → daq.inputDataBuffer.data.length < 16

/--
The steps between two frames.
-/
theorem Processes.congr {daq daq' : Acquisition bufferSize} (hdaq : daq.Processes)
    (hprocessor : daq'.processor = daq.processor) (hanalysed : daq'.analysed = daq.analysed)
    (hpc : holdsDecoded daq.loopPc = false) (hpc' : holdsDecoded daq'.loopPc = false)
    (hfailed : daq'.loopPc ≠ .failed .decode)
    : daq'.Processes := by
  have hdecoded : daq'.decoded = daq.decoded := by simp [decoded, hpc, hpc', hanalysed]
  constructor
  . rw [hdecoded]
    exact hdaq.long
  . rw [hdecoded, hprocessor]
    exact hdaq.hits
  . rw [hprocessor]
    exact fun _ => hdaq.cleared hpc
  . intro hon
    rw [hpc'] at hon
    cases hon
  . exact fun h => absurd h hfailed

theorem Processes.decode {zpp : ZppBits ReceiveDataHeader}
    (hzpp : zpp.Lawful ReceiveDataHeader.wireFormat) {daq : Acquisition bufferSize}
    (hdaq : daq.Processes) (hpc : daq.loopPc = .analysing .decode)
    (hsize : daq.inputDataBuffer.data.length ≤ maxSize) {processor : DataProcessor DataWriter}
    (hpart : DataProcessor.decodeFrame zpp daq.inputDataBuffer daq.processor = .returned processor)
    : Processes { daq with processor := processor, loopPc := .analysing .write } := by
  have hnot : holdsDecoded daq.loopPc = false := by simp [holdsDecoded, hpc]
  have hdecoded : daq.decoded = daq.analysed := by simp [decoded, hnot]
  have hlong : 16 ≤ daq.inputDataBuffer.data.length := by
    by_contra hshort
    rw [DataProcessor.decodeFrame_short zpp (by omega)] at hpart
    cases hpart
  have hclear := hdaq.cleared hnot
  rw [DataProcessor.decodeFrame_eq hzpp ⟨_, hsize⟩ hlong _ (by rw [hclear.exportData])
    (by rw [hclear.exportData])] at hpart
  cases hpart
  constructor
  . intro frame hmem
    simp only [decoded, holdsDecoded, if_true, List.mem_append, List.mem_singleton] at hmem
    rcases hmem with hmem | rfl
    . apply hdaq.long
      rw [hdecoded]
      exact hmem
    . exact hlong
  . have hhits := hdaq.hits
    rw [hdecoded] at hhits
    simp only [decoded, holdsDecoded, if_true, hitCount_concat, BitVec.ofNat_add, hhits]
  . intro hoff
    cases hoff
  . exact fun _ => rfl
  . intro hfailed
    cases hfailed

theorem Processes.decodeFails {zpp : ZppBits ReceiveDataHeader}
    (hzpp : zpp.Lawful ReceiveDataHeader.wireFormat) {daq : Acquisition bufferSize}
    (hdaq : daq.Processes) (hpc : daq.loopPc = .analysing .decode)
    (hsize : daq.inputDataBuffer.data.length ≤ maxSize) {exception : Exception}
    {processor : DataProcessor DataWriter}
    (hpart : DataProcessor.decodeFrame zpp daq.inputDataBuffer daq.processor
      = .raised exception processor)
    : processor = daq.processor ∧
      Processes { daq with processor := processor, loopPc := .failed .decode } := by
  have hnot : holdsDecoded daq.loopPc = false := by simp [holdsDecoded, hpc]
  have hdecoded : daq.decoded = daq.analysed := by simp [decoded, hnot]
  have hclear := hdaq.cleared hnot
  have hshort : daq.inputDataBuffer.data.length < 16 := by
    by_contra hlong
    rw [DataProcessor.decodeFrame_eq hzpp ⟨_, hsize⟩ (Nat.le_of_not_lt hlong) _
      (by rw [hclear.exportData]) (by rw [hclear.exportData])] at hpart
    cases hpart
  rw [DataProcessor.decodeFrame_short zpp hshort] at hpart
  cases hpart
  refine ⟨rfl, ?_, ?_, fun _ => hclear, ?_, fun _ => hshort⟩
  . have hlong := hdaq.long
    rw [hdecoded] at hlong
    exact hlong
  . have hhits := hdaq.hits
    rw [hdecoded] at hhits
    exact hhits
  . intro hon
    cases hon

theorem writeData_keeps {env : Environment} (aFrame : SerializableMsgBuffer)
    (processor : DataProcessor DataWriter)
    : let written := (DataProcessor.writeData (DataWriter.interface env) aFrame processor).state
      written.exportData = processor.exportData ∧
      written.totalProcessedHitNumer = processor.totalProcessedHitNumer := by
  unfold DataProcessor.writeData
  apply Outcome.andThen_state (P := fun written : DataProcessor DataWriter =>
    written.exportData = processor.exportData ∧
    written.totalProcessedHitNumer = processor.totalProcessedHitNumer)
  . split
    . rw [Outcome.state_map]
      exact ⟨rfl, rfl⟩
    . exact ⟨rfl, rfl⟩
  . intro written hwritten
    split
    . rw [Outcome.state_map]
      exact hwritten
    . exact hwritten

theorem Processes.write {env : Environment} {daq : Acquisition bufferSize} (hdaq : daq.Processes)
    (hpc : daq.loopPc = .analysing .write) {processor : DataProcessor DataWriter} {loopPc : LoopPc}
    (hpart : (DataProcessor.writeData (DataWriter.interface env) daq.inputDataBuffer
      daq.processor).state = processor)
    (hloop : loopPc = .analysing .clear ∨ loopPc = .failed .write)
    : Processes { daq with processor := processor, loopPc := loopPc } := by
  have hkeeps := @writeData_keeps env daq.inputDataBuffer daq.processor
  simp only [hpart] at hkeeps
  have hon : holdsDecoded daq.loopPc = true := by simp [holdsDecoded, hpc]
  have hon' : holdsDecoded loopPc = true := by rcases hloop with rfl | rfl <;> rfl
  have hdecoded : daq.decoded = daq.analysed ++ [daq.inputDataBuffer.data] := by simp [decoded, hon]
  constructor
  . have hlong := hdaq.long
    rw [hdecoded] at hlong
    simpa only [decoded, hon', if_true] using hlong
  . have hhits := hdaq.hits
    rw [hdecoded] at hhits
    simp only [decoded, hon', if_true, hkeeps.2, hhits]
  . intro hoff
    rw [hon'] at hoff
    cases hoff
  . exact fun _ => hkeeps.1.trans (hdaq.exported hon)
  . rintro rfl
    rcases hloop with hloop | hloop <;> cases hloop

theorem Processes.finish {daq : Acquisition bufferSize} (hdaq : daq.Processes)
    (hpc : daq.loopPc = .analysing .clear)
    : Processes
        { daq with
          processor := daq.processor.clearDataBuffer
          inputDataBuffer := daq.inputDataBuffer.clear
          analysed := daq.analysed ++ [daq.inputDataBuffer.data]
          loopPc := .testing } := by
  have hon : holdsDecoded daq.loopPc = true := by simp [holdsDecoded, hpc]
  have hdecoded : daq.decoded = daq.analysed ++ [daq.inputDataBuffer.data] := by simp [decoded, hon]
  constructor
  . have hlong := hdaq.long
    rw [hdecoded] at hlong
    exact hlong
  . have hhits := hdaq.hits
    rw [hdecoded] at hhits
    exact hhits
  . exact fun _ => ⟨rfl, rfl⟩
  . intro hon'
    cases hon'
  . intro hfailed
    cases hfailed

theorem processes_step {cfg : Config} (hzpp : cfg.zpp.Lawful ReceiveDataHeader.wireFormat)
    (hsize : bufferSize ≤ maxSize) {daq daq' : Acquisition bufferSize} {a : Action bufferSize}
    (hkeeps : daq.KeepsFrames) (hfits : daq.Fits) (hdaq : daq.Processes)
    (h : next cfg daq a = some daq')
    : daq'.Processes := by
  have hhand (hpc : daq.loopPc = .analysing .decode) : daq.inputDataBuffer.data.length ≤ maxSize := by
    apply Nat.le_trans (length_le_of_mem_inHand hkeeps hfits _) hsize
    simp [inHand, hpc]
  cases next_effect h with
  | decode processor hpc hpart => apply hdaq.decode hzpp hpc (hhand hpc) hpart
  | decodeFails exception processor hpc hpart =>
    exact (hdaq.decodeFails hzpp hpc (hhand hpc) hpart).2
  | write processor hpc hpart =>
    exact hdaq.write hpc (by rw [hpart]; rfl) (Or.inl rfl)
  | writeFails exception processor hpc hpart =>
    exact hdaq.write hpc (by rw [hpart]; rfl) (Or.inr rfl)
  | finish hpc => apply hdaq.finish hpc
  | start hpc
  | abortPop _ hpc
  | enterLoop hpc
  | goOnPopping hpc _
  | leaveLoop hpc _
  | beginPop hpc
  | takeFrame _ _ _ hpc _
  | raiseAbort hpc => exact hdaq.congr rfl rfl (by simp [holdsDecoded, hpc]) rfl (by simp)
  | _ => exact ⟨hdaq.long, hdaq.hits, hdaq.cleared, hdaq.exported, hdaq.failed⟩

theorem processes_init (writer : DataWriter) : (init bufferSize writer).Processes where
  long := by simp [decoded, holdsDecoded, init]
  hits := by rfl
  cleared := fun _ => ⟨rfl, rfl⟩
  exported := by simp [holdsDecoded, init]
  failed := by simp [init]

section Reachable

variable {cfg : Config} {writer : DataWriter} {daq : Acquisition bufferSize}

theorem fits_reachable (h : (system bufferSize cfg writer).Reachable daq) : daq.Fits := by
  refine h.invariant ?_ ?_
  . simp [Fits, system, init]
  . intro daq a daq' hdaq hnext
    apply fits_step hdaq hnext

theorem processes_reachable (hzpp : cfg.zpp.Lawful ReceiveDataHeader.wireFormat)
    (hsize : bufferSize ≤ maxSize) (h : (system bufferSize cfg writer).Reachable daq)
    : daq.Processes := by
  suffices hall : daq.Conserves ∧ daq.Fits ∧ daq.Processes from hall.2.2
  refine h.invariant (P := fun daq : Acquisition bufferSize =>
    daq.Conserves ∧ daq.Fits ∧ daq.Processes) ?_ ?_
  . exact ⟨conserves_reachable (.refl _), fits_reachable (.refl _), processes_init writer⟩
  . rintro daq a daq' ⟨hconserves, hfits, hdaq⟩ hnext
    refine ⟨⟨?_, ?_, ?_⟩, fits_step hfits hnext,
      processes_step hzpp hsize hconserves.keepsFrames hfits hdaq hnext⟩
    . apply handlesInOrder_step hconserves.handlesInOrder hnext
    . apply countsBytes_step hconserves.handlesInOrder hconserves.countsBytes hnext
    . apply keepsFrames_step hconserves.handlesInOrder hconserves.keepsFrames hnext

end Reachable

end Acquisition

end Srs
