import SrsDaq.Analysis.Acquisition
import SrsDaq.Analysis.DataWriterLemmas
import SrsDaq.Utils.ConnectionBaseLemmas

/-!
This module contains the invariants of the way of the data: what was queued is what was analysed,
what is in hand and what is still in the queue, whatever the order of the steps.
-/

namespace Srs

namespace Acquisition

variable {bufferSize : Nat}

/--
What a step can do, with the guard that it is taken under.
-/
inductive Effect (cfg : Config) (daq : Acquisition bufferSize)
    : Action bufferSize → Acquisition bufferSize → Prop where
  | listen (reader) (hpc : daq.listenPc = .notSpawned)
    : Effect cfg daq .listen { daq with reader := reader, listenPc := .receiving }
  | closeSocket : Effect cfg daq .closeSocket { daq with reader := daq.reader.closeSocket }
  | start (hpc : daq.loopPc = .notPosted)
    : Effect cfg daq .start { daq with isStopped := false, loopPc := .posted }
  | startRaises (hpc : daq.loopPc = .notPosted)
    : Effect cfg daq .startRaises { daq with isStopped := false }
  | exchangeStopped : Effect cfg daq .exchangeStopped { daq with isStopped := true }
  | abortPop (isAborted) (hpc : daq.loopPc = .popping isAborted)
    : Effect cfg daq .abortQueue { daq with loopPc := .popping true }
  | abortNothing (hpc : ∀ isAborted, daq.loopPc ≠ .popping isAborted)
    : Effect cfg daq .abortQueue daq
  | receive (datagram) (hpc : daq.listenPc = .receiving) (hopen : daq.reader.isOpen = true)
    : Effect cfg daq (.receive datagram)
        { daq with
          reader := (daq.reader.asyncReceive datagram.bytes).1
          listenPc := .received (daq.reader.asyncReceive datagram.bytes).2
          arrived := daq.arrived ++ [datagram.bytes] }
  | countBytes (size) (hpc : daq.listenPc = .received size)
    : Effect cfg daq .countBytes
        { daq with
          totalReadDataBytes :=
            daq.totalReadDataBytes + BitVec.ofNat 64 (daq.reader.readMsg size).length
          listenPc := .counted size }
  | emplace (size) (hpc : daq.listenPc = .counted size) (hroom : daq.dataQueue.length < cfg.capacity)
    : Effect cfg daq .emplace
        { daq with
          dataQueue := daq.dataQueue ++ [.ofSpan (daq.reader.readMsg size)]
          outcomes := daq.outcomes ++ [true]
          listenPc := .handled }
  | drop (size) (hpc : daq.listenPc = .counted size) (hfull : ¬ daq.dataQueue.length < cfg.capacity)
    : Effect cfg daq .emplace
        { daq with
          outcomes := daq.outcomes ++ [false]
          listenPc := .handled }
  | resetBuffer (hpc : daq.listenPc = .handled)
    : Effect cfg daq .resetBuffer
        { daq with reader := daq.reader.resetReadMsgBuffer, listenPc := .reset }
  | goOnReading (hpc : daq.listenPc = .reset)
    : Effect cfg daq (.testAcqOff false) { daq with listenPc := .receiving }
  | leaveReading (hpc : daq.listenPc = .reset)
    : Effect cfg daq (.testAcqOff true) { daq with listenPc := .left }
  | cancelReceive (hpc : daq.listenPc = .receiving) (hclosed : daq.reader.isOpen = false)
    : Effect cfg daq .cancelReceive { daq with listenPc := .cancelled }
  | enterLoop (hpc : daq.loopPc = .posted)
    : Effect cfg daq .enterLoop { daq with loopPc := .testing, inputDataBuffer := {} }
  | goOnPopping (hpc : daq.loopPc = .testing) (hgo : daq.isStopped = false)
    : Effect cfg daq .testStopped { daq with loopPc := .tested }
  | leaveLoop (hpc : daq.loopPc = .testing) (hstop : daq.isStopped = true)
    : Effect cfg daq .testStopped { daq with loopPc := .stopped }
  | beginPop (hpc : daq.loopPc = .tested)
    : Effect cfg daq .beginPop { daq with loopPc := .popping false }
  | takeFrame (isAborted) (aFrame) (dataQueue) (hpc : daq.loopPc = .popping isAborted)
    (hqueue : daq.dataQueue = aFrame :: dataQueue)
    : Effect cfg daq .takeFrame
        { daq with
          inputDataBuffer := aFrame
          dataQueue := dataQueue
          loopPc := .analysing .decode }
  | raiseAbort (hpc : daq.loopPc = .popping true)
    : Effect cfg daq .raiseAbort { daq with loopPc := .userAbort }
  | decode (processor) (hpc : daq.loopPc = .analysing .decode)
    (hpart : DataProcessor.decodeFrame cfg.zpp daq.inputDataBuffer daq.processor
      = .returned processor)
    : Effect cfg daq .decodeFrame
        { daq with processor := processor, loopPc := .analysing .write }
  | decodeFails (exception) (processor) (hpc : daq.loopPc = .analysing .decode)
    (hpart : DataProcessor.decodeFrame cfg.zpp daq.inputDataBuffer daq.processor
      = .raised exception processor)
    : Effect cfg daq .decodeFrame { daq with processor := processor, loopPc := .failed .decode }
  | write (processor) (hpc : daq.loopPc = .analysing .write)
    (hpart : DataProcessor.writeData (DataWriter.interface cfg.env) daq.inputDataBuffer
      daq.processor = .returned processor)
    : Effect cfg daq .writeFrame
        { daq with processor := processor, loopPc := .analysing .clear }
  | writeFails (exception) (processor) (hpc : daq.loopPc = .analysing .write)
    (hpart : DataProcessor.writeData (DataWriter.interface cfg.env) daq.inputDataBuffer
      daq.processor = .raised exception processor)
    : Effect cfg daq .writeFrame { daq with processor := processor, loopPc := .failed .write }
  | finish (hpc : daq.loopPc = .analysing .clear)
    : Effect cfg daq .finishFrame
        { daq with
          processor := daq.processor.clearDataBuffer
          inputDataBuffer := daq.inputDataBuffer.clear
          analysed := daq.analysed ++ [daq.inputDataBuffer.data]
          loopPc := .testing }

variable {cfg : Config} {daq daq' : Acquisition bufferSize}

/-
The steps of the threads that start it and stop it.
-/

theorem listen_effect (h : daq.listen = some daq') : Effect cfg daq .listen daq' := by
  unfold Acquisition.listen at h
  split at h
  . next hpc _ =>
    cases h
    exact .listen _ hpc
  . cases h

theorem start_effect (h : daq.start = some daq') : Effect cfg daq .start daq' := by
  unfold Acquisition.start at h
  split at h
  . next hpc =>
    cases h
    exact .start hpc
  . cases h

theorem startRaises_effect (h : daq.startRaises = some daq')
    : Effect cfg daq .startRaises daq' := by
  unfold Acquisition.startRaises at h
  split at h
  . next hpc =>
    cases h
    exact .startRaises hpc
  . cases h

theorem abortQueue_effect (h : daq.abortQueue = some daq') : Effect cfg daq .abortQueue daq' := by
  unfold Acquisition.abortQueue at h
  split at h
  . next isAborted hpc =>
    cases h
    exact .abortPop isAborted hpc
  . next hpc =>
    cases h
    exact .abortNothing hpc

/-
The steps of the reader.
-/

theorem receive_effect {datagram : Datagram bufferSize} (h : daq.receive datagram = some daq')
    : Effect cfg daq (.receive datagram) daq' := by
  unfold Acquisition.receive at h
  split at h
  . next hpc hopen =>
    cases h
    exact .receive datagram hpc hopen
  . cases h

theorem countBytes_effect (h : daq.countBytes = some daq') : Effect cfg daq .countBytes daq' := by
  unfold Acquisition.countBytes at h
  split at h
  . next size hpc =>
    cases h
    exact .countBytes size hpc
  . cases h

theorem emplace_effect (h : daq.emplace cfg = some daq') : Effect cfg daq .emplace daq' := by
  unfold Acquisition.emplace at h
  split at h
  . next size hpc =>
    cases h
    by_cases hroom : daq.dataQueue.length < cfg.capacity
    . simp only [hroom, if_true, decide_true]
      exact .emplace size hpc hroom
    . simp only [hroom, if_false, decide_false]
      exact .drop size hpc hroom
  . cases h

theorem resetBuffer_effect (h : daq.resetBuffer = some daq')
    : Effect cfg daq .resetBuffer daq' := by
  unfold Acquisition.resetBuffer at h
  split at h
  . next hpc =>
    cases h
    exact .resetBuffer hpc
  . cases h

theorem testAcqOff_effect {isAcqOff : Bool} (h : daq.testAcqOff isAcqOff = some daq')
    : Effect cfg daq (.testAcqOff isAcqOff) daq' := by
  unfold Acquisition.testAcqOff at h
  split at h
  . next hpc =>
    cases h
    cases isAcqOff with
    | false => exact .goOnReading hpc
    | true => exact .leaveReading hpc
  . cases h

theorem cancelReceive_effect (h : daq.cancelReceive = some daq')
    : Effect cfg daq .cancelReceive daq' := by
  unfold Acquisition.cancelReceive at h
  split at h
  . next hpc hclosed =>
    cases h
    exact .cancelReceive hpc hclosed
  . cases h

/-
The steps of the loop.
-/

theorem enterLoop_effect (h : daq.enterLoop = some daq') : Effect cfg daq .enterLoop daq' := by
  unfold Acquisition.enterLoop at h
  split at h
  . next hpc =>
    cases h
    exact .enterLoop hpc
  . cases h

theorem testStopped_effect (h : daq.testStopped = some daq')
    : Effect cfg daq .testStopped daq' := by
  unfold Acquisition.testStopped at h
  split at h
  . next hpc =>
    cases h
    by_cases hstop : daq.isStopped = true
    . rw [if_pos hstop]
      exact .leaveLoop hpc hstop
    . rw [if_neg hstop]
      exact .goOnPopping hpc (Bool.eq_false_iff.mpr hstop)
  . cases h

theorem beginPop_effect (h : daq.beginPop = some daq') : Effect cfg daq .beginPop daq' := by
  unfold Acquisition.beginPop at h
  split at h
  . next hpc =>
    cases h
    exact .beginPop hpc
  . cases h

theorem takeFrame_effect (h : daq.takeFrame = some daq') : Effect cfg daq .takeFrame daq' := by
  unfold Acquisition.takeFrame at h
  split at h
  . next isAborted aFrame dataQueue hpc hqueue =>
    cases h
    exact .takeFrame isAborted aFrame dataQueue hpc hqueue
  . cases h

theorem raiseAbort_effect (h : daq.raiseAbort = some daq') : Effect cfg daq .raiseAbort daq' := by
  unfold Acquisition.raiseAbort at h
  split at h
  . next hpc =>
    cases h
    exact .raiseAbort hpc
  . cases h

theorem decodeFrame_effect (h : daq.decodeFrame cfg = some daq')
    : Effect cfg daq .decodeFrame daq' := by
  simp only [Acquisition.decodeFrame, analyse] at h
  split at h
  . next hpc =>
    split at h
    . next processor hpart =>
      cases h
      exact .decode processor hpc hpart
    . next exception processor hpart =>
      cases h
      exact .decodeFails exception processor hpc hpart
  . cases h

theorem writeFrame_effect (h : daq.writeFrame cfg = some daq')
    : Effect cfg daq .writeFrame daq' := by
  simp only [Acquisition.writeFrame, analyse] at h
  split at h
  . next hpc =>
    split at h
    . next processor hpart =>
      cases h
      exact .write processor hpc hpart
    . next exception processor hpart =>
      cases h
      exact .writeFails exception processor hpc hpart
  . cases h

theorem finishFrame_effect (h : daq.finishFrame = some daq')
    : Effect cfg daq .finishFrame daq' := by
  unfold Acquisition.finishFrame at h
  split at h
  . next hpc =>
    cases h
    exact .finish hpc
  . cases h

theorem next_effect {a : Action bufferSize} (h : next cfg daq a = some daq')
    : Effect cfg daq a daq' := by
  cases a with
  | listen => exact listen_effect h
  | closeSocket =>
    cases h
    exact .closeSocket
  | start => exact start_effect h
  | startRaises => exact startRaises_effect h
  | exchangeStopped =>
    cases h
    exact .exchangeStopped
  | abortQueue => exact abortQueue_effect h
  | receive datagram => exact receive_effect h
  | countBytes => exact countBytes_effect h
  | emplace => exact emplace_effect h
  | resetBuffer => exact resetBuffer_effect h
  | testAcqOff isAcqOff => exact testAcqOff_effect h
  | cancelReceive => exact cancelReceive_effect h
  | enterLoop => exact enterLoop_effect h
  | testStopped => exact testStopped_effect h
  | beginPop => exact beginPop_effect h
  | takeFrame => exact takeFrame_effect h
  | raiseAbort => exact raiseAbort_effect h
  | decodeFrame => exact decodeFrame_effect h
  | writeFrame => exact writeFrame_effect h
  | finishFrame => exact finishFrame_effect h

/--
The three parts of a round are one call of `analyse_one_frame`.
-/
theorem exec_analyseOneFrame {cfg : Config} {writer : DataWriter} {daq : Acquisition bufferSize}
    {processor : DataProcessor DataWriter} (hpc : daq.loopPc = .analysing .decode)
    (h : DataProcessor.analyseOneFrame cfg.zpp (DataWriter.interface cfg.env) daq.inputDataBuffer
      daq.processor = .returned processor)
    : (system bufferSize cfg writer).exec daq [.decodeFrame, .writeFrame, .finishFrame]
        =
      some { daq with
        processor := processor
        inputDataBuffer := daq.inputDataBuffer.clear
        analysed := daq.analysed ++ [daq.inputDataBuffer.data]
        loopPc := .testing } := by
  simp only [DataProcessor.analyseOneFrame, Outcome.andThen_eq_returned, Outcome.returned.injEq] at h
  rcases h with ⟨written, ⟨decoded, hdecode, hwrite⟩, rfl⟩
  simp [TransitionSystem.exec, system, next, decodeFrame, writeFrame, finishFrame, analyse, hpc,
    hdecode, hwrite]

def pending (daq : Acquisition bufferSize) : List (List Byte) :=
  match daq.listenPc with
  | .received size => [daq.reader.readMsg size]
  | .counted size => [daq.reader.readMsg size]
  | _ => []

/--
Every datagram that arrived has an outcome, but for the one that is being handled. The read buffer
still holds this one.
-/
def HandlesInOrder (daq : Acquisition bufferSize) : Prop :=
  ∃ done, daq.arrived = done ++ daq.pending ∧ done.length = daq.outcomes.length

theorem handlesInOrder_step {cfg : Config} {daq daq' : Acquisition bufferSize}
    {a : Action bufferSize} (hdaq : daq.HandlesInOrder) (h : next cfg daq a = some daq')
    : daq'.HandlesInOrder := by
  rcases hdaq with ⟨done, harrived, hlength⟩
  cases next_effect h with
  | listen reader hpc =>
    rw [pending, hpc] at harrived
    exact ⟨done, harrived, hlength⟩
  | closeSocket => exact ⟨done, harrived, hlength⟩
  | receive datagram hpc hopen =>
    rw [pending, hpc, List.append_nil] at harrived
    refine ⟨done, ?_, hlength⟩
    simp only [pending, harrived, ConnectionBase.readMsg_asyncReceive _ datagram.length_le]
  | countBytes size hpc =>
    rw [pending, hpc] at harrived
    exact ⟨done, harrived, hlength⟩
  | emplace size hpc hroom =>
    rw [pending, hpc] at harrived
    refine ⟨_, harrived.trans (List.append_nil _).symm, ?_⟩
    simp [hlength]
  | drop size hpc hfull =>
    rw [pending, hpc] at harrived
    refine ⟨_, harrived.trans (List.append_nil _).symm, ?_⟩
    simp [hlength]
  | resetBuffer hpc =>
    rw [pending, hpc] at harrived
    exact ⟨done, harrived, hlength⟩
  | goOnReading hpc =>
    rw [pending, hpc] at harrived
    exact ⟨done, harrived, hlength⟩
  | leaveReading hpc =>
    rw [pending, hpc] at harrived
    exact ⟨done, harrived, hlength⟩
  | cancelReceive hpc hclosed =>
    rw [pending, hpc] at harrived
    exact ⟨done, harrived, hlength⟩
  | _ => exact ⟨done, harrived, hlength⟩

def CountsBytes (daq : Acquisition bufferSize) : Prop :=
  daq.totalReadDataBytes = BitVec.ofNat 64 (daq.handedOver.map List.length).sum

theorem countsBytes_step {cfg : Config} {daq daq' : Acquisition bufferSize}
    {a : Action bufferSize} (horder : daq.HandlesInOrder) (hdaq : daq.CountsBytes)
    (h : next cfg daq a = some daq')
    : daq'.CountsBytes := by
  unfold CountsBytes at *
  cases next_effect h with
  | receive datagram hpc hopen =>
    rw [handedOver, hpc] at hdaq
    simpa [handedOver] using hdaq
  | countBytes size hpc =>
    rcases horder with ⟨done, harrived, hlength⟩
    rw [pending, hpc] at harrived
    rw [handedOver, hpc, harrived, List.dropLast_concat] at hdaq
    simp only [handedOver, harrived, hdaq, List.map_append, List.sum_append, List.map_cons,
      List.map_nil, List.sum_cons, List.sum_nil, Nat.add_zero, BitVec.ofNat_add]
  | listen reader hpc =>
    rw [handedOver, hpc] at hdaq
    exact hdaq
  | emplace size hpc hroom =>
    rw [handedOver, hpc] at hdaq
    exact hdaq
  | drop size hpc hfull =>
    rw [handedOver, hpc] at hdaq
    exact hdaq
  | resetBuffer hpc =>
    rw [handedOver, hpc] at hdaq
    exact hdaq
  | goOnReading hpc =>
    rw [handedOver, hpc] at hdaq
    exact hdaq
  | leaveReading hpc =>
    rw [handedOver, hpc] at hdaq
    exact hdaq
  | cancelReceive hpc hclosed =>
    rw [handedOver, hpc] at hdaq
    exact hdaq
  | _ => exact hdaq

theorem select_append_left {entries : List α} {answers : List Bool}
    (h : entries.length = answers.length) (rest : List α)
    : select (entries ++ rest) answers = select entries answers := by
  have hzip : (entries ++ rest).zip (answers ++ []) = entries.zip answers ++ rest.zip [] :=
    List.zip_append h
  rw [List.append_nil, List.zip_nil_right, List.append_nil] at hzip
  unfold select
  rw [hzip]

theorem select_concat {entries : List α} {answers : List Bool}
    (h : entries.length = answers.length) (entry : α) (answer : Bool)
    : select (entries ++ [entry]) (answers ++ [answer])
        =
      select entries answers ++ (if answer then [entry] else []) := by
  unfold select
  rw [List.zip_append h, List.filter_append, List.map_append]
  cases answer <;> rfl

def KeepsFrames (daq : Acquisition bufferSize) : Prop :=
  daq.analysed ++ daq.inHand ++ daq.queued = daq.accepted

theorem keepsFrames_step {cfg : Config} {daq daq' : Acquisition bufferSize}
    {a : Action bufferSize} (horder : daq.HandlesInOrder) (hdaq : daq.KeepsFrames)
    (h : next cfg daq a = some daq')
    : daq'.KeepsFrames := by
  rcases horder with ⟨done, harrived, hlength⟩
  unfold KeepsFrames at *
  have haccepted : daq.accepted = select done daq.outcomes := by
    rw [accepted, harrived, select_append_left hlength]
  cases next_effect h with
  | receive datagram hpc hopen =>
    rw [pending, hpc, List.append_nil] at harrived
    rw [haccepted] at hdaq
    refine Eq.trans hdaq ?_
    rw [← select_append_left hlength [datagram.bytes], ← harrived]
    rfl
  | emplace size hpc hroom =>
    rw [pending, hpc] at harrived
    have hnew := select_concat hlength (daq.reader.readMsg size) true
    rw [← harrived, ← haccepted, ← hdaq] at hnew
    refine Eq.trans ?_ hnew.symm
    simp [inHand, queued, SerializableMsgBuffer.ofSpan]
  | drop size hpc hfull =>
    rw [pending, hpc] at harrived
    have hnew := select_concat hlength (daq.reader.readMsg size) false
    rw [← harrived, ← haccepted, ← hdaq] at hnew
    refine Eq.trans ?_ hnew.symm
    simp [inHand, queued]
  | takeFrame isAborted aFrame dataQueue hpc hqueue =>
    refine Eq.trans ?_ hdaq
    simp [inHand, queued, hpc, hqueue]
  | finish hpc =>
    refine Eq.trans ?_ hdaq
    simp [inHand, queued, hpc]
  | _ =>
    refine Eq.trans ?_ hdaq
    simp_all [inHand, queued]

def LoopOver (daq : Acquisition bufferSize) : Prop :=
  daq.loopPc = .stopped ∨ daq.loopPc = .userAbort

/--
Behind the end of the loop nothing is analysed, and the queue only grows.
-/
theorem loopOver_step {cfg : Config} {daq daq' : Acquisition bufferSize} {a : Action bufferSize}
    (hover : daq.LoopOver) (h : next cfg daq a = some daq')
    : daq'.LoopOver ∧ daq'.analysed = daq.analysed ∧ daq.queued <+: daq'.queued := by
  unfold LoopOver at *
  cases next_effect h with
  | emplace size hpc hroom =>
    refine ⟨hover, rfl, ?_⟩
    simp [queued]
  | exchangeStopped => exact ⟨hover, rfl, List.prefix_rfl⟩
  | abortNothing hpc => exact ⟨hover, rfl, List.prefix_rfl⟩
  | _ => simp_all [queued]

theorem notPosted_next {cfg : Config} {daq daq' : Acquisition bufferSize} {a : Action bufferSize}
    (hpc : daq.loopPc = .notPosted) (hstart : a ≠ .start) (h : next cfg daq a = some daq')
    : daq'.loopPc = .notPosted := by
  cases next_effect h with
  | start _ => contradiction
  | _ => simp_all

theorem LoopOver.inHand_eq_nil {daq : Acquisition bufferSize} (h : daq.LoopOver)
    : daq.inHand = [] := by
  rcases h with h | h <;> simp [inHand, h]

theorem LoopOver.written_eq_analysed {daq : Acquisition bufferSize} (h : daq.LoopOver)
    : daq.written = daq.analysed := by
  rcases h with h | h <;> simp [written, h]

/-
The binary file.
-/

theorem state_decodeFrame_dataWriter {W : Type} (zpp : ZppBits ReceiveDataHeader)
    (aFrame : SerializableMsgBuffer) (processor : DataProcessor W)
    : (DataProcessor.decodeFrame zpp aFrame processor).state.dataWriter = processor.dataWriter := by
  unfold DataProcessor.decodeFrame DataProcessor.deserializeFrame
  apply Outcome.andThen_state (P := fun processor' : DataProcessor W =>
    processor'.dataWriter = processor.dataWriter)
  . rw [Outcome.state_map]
  . intro processor' h
    exact h

theorem state_writeData_dataWriter {env : Environment} (aFrame : SerializableMsgBuffer)
    {processor : DataProcessor DataWriter} (h : processor.dataWriter.BinaryEnabled env)
    : let writer := (DataProcessor.writeData (DataWriter.interface env) aFrame
        processor).state.dataWriter
      writer.BinaryEnabled env ∧
      writer.binaryContent = processor.dataWriter.binaryContent ++ aFrame.data := by
  have hbinary : (DataWriter.interface env).isBinary processor.dataWriter = true := by
    simp [DataWriter.interface, DataWriter.isBinary, h.binary]
  have hwrite : (DataWriter.interface env).writeBinary aFrame.data processor.dataWriter
      = processor.dataWriter.writeBinary env aFrame.data := by
    rfl
  unfold DataProcessor.writeData
  apply Outcome.andThen_state (P := fun processor' : DataProcessor DataWriter =>
    processor'.dataWriter.BinaryEnabled env ∧
    processor'.dataWriter.binaryContent = processor.dataWriter.binaryContent ++ aFrame.data)
  . rw [if_pos hbinary, Outcome.state_map, hwrite, DataWriter.state_writeBinary h]
    refine ⟨⟨h.binary, h.front, ?_⟩, rfl⟩
    intro file hfile
    cases hfile
    rfl
  . intro processor' hprocessor'
    split
    . rw [Outcome.state_map]
      have hsame : DataWriter.SameBinary processor'.dataWriter
          (processor'.dataWriter.writeStruct env processor'.exportData).state := by
        apply DataWriter.sameBinary_writeStruct
      have henabled := hprocessor'.1.of_sameBinary hsame
      exact ⟨henabled.1, henabled.2.trans hprocessor'.2⟩
    . exact hprocessor'

def KeepsFile (env : Environment) (daq : Acquisition bufferSize) : Prop :=
  daq.processor.dataWriter.BinaryEnabled env ∧
  daq.processor.dataWriter.binaryContent = daq.written.flatten

theorem keepsFile_step {cfg : Config} {daq daq' : Acquisition bufferSize}
    {a : Action bufferSize} (hdaq : daq.KeepsFile cfg.env) (h : next cfg daq a = some daq')
    : daq'.KeepsFile cfg.env := by
  rcases hdaq with ⟨henabled, hcontent⟩
  have hdecode := state_decodeFrame_dataWriter cfg.zpp daq.inputDataBuffer daq.processor
  have hwrite := state_writeData_dataWriter daq.inputDataBuffer henabled
  cases next_effect h with
  | decode processor hpc hpart =>
    rw [hpart, Outcome.state] at hdecode
    rw [written, hpc] at hcontent
    unfold KeepsFile
    rw [hdecode]
    exact ⟨henabled, hcontent⟩
  | decodeFails exception processor hpc hpart =>
    rw [hpart, Outcome.state] at hdecode
    rw [written, hpc] at hcontent
    unfold KeepsFile
    rw [hdecode]
    exact ⟨henabled, hcontent⟩
  | write processor hpc hpart =>
    rw [hpart, Outcome.state] at hwrite
    rw [written, hpc] at hcontent
    refine ⟨hwrite.1, hwrite.2.trans ?_⟩
    simp [written, hcontent]
  | writeFails exception processor hpc hpart =>
    rw [hpart, Outcome.state] at hwrite
    rw [written, hpc] at hcontent
    refine ⟨hwrite.1, hwrite.2.trans ?_⟩
    simp [written, hcontent]
  | _ =>
    refine ⟨henabled, hcontent.trans ?_⟩
    simp_all [written]

structure Conserves (daq : Acquisition bufferSize) : Prop where
  handlesInOrder : daq.HandlesInOrder
  countsBytes : daq.CountsBytes
  keepsFrames : daq.KeepsFrames

section Reachable

variable {cfg : Config} {writer : DataWriter} {daq : Acquisition bufferSize}

theorem conserves_reachable (h : (system bufferSize cfg writer).Reachable daq)
    : daq.Conserves := by
  refine h.invariant ?_ ?_
  . exact ⟨⟨[], rfl, rfl⟩, rfl, rfl⟩
  . intro daq a daq' hdaq hnext
    exact ⟨handlesInOrder_step hdaq.handlesInOrder hnext,
      countsBytes_step hdaq.handlesInOrder hdaq.countsBytes hnext,
      keepsFrames_step hdaq.handlesInOrder hdaq.keepsFrames hnext⟩

theorem keepsFile_reachable (h : (system bufferSize cfg writer).Reachable daq)
    (henabled : writer.BinaryEnabled cfg.env) (hcontent : writer.binaryContent = [])
    : daq.KeepsFile cfg.env := by
  refine h.invariant ?_ ?_
  . exact ⟨henabled, hcontent⟩
  . intro daq a daq' hdaq hnext
    apply keepsFile_step hdaq hnext

/--
The way of the data loses, repeats, reorders and alters nothing, in every reachable state. All
datagrams but the one that is being handled have an outcome. Those that were queued are the analysed
ones, the one in hand and those in the queue. All that were handed over are counted. And the binary
file consists of the frames that were written.
-/
theorem reachable_conserves (h : (system bufferSize cfg writer).Reachable daq)
    : daq.outcomes.length ≤ daq.arrived.length ∧ daq.arrived.length ≤ daq.outcomes.length + 1 ∧
      daq.analysed ++ daq.inHand ++ daq.queued = select daq.arrived daq.outcomes ∧
      daq.totalReadDataBytes.toNat = (daq.handedOver.map List.length).sum % 2 ^ 64 ∧
      (writer.BinaryEnabled cfg.env → writer.binaryContent = [] →
        daq.processor.dataWriter.binaryContent = daq.written.flatten) := by
  have hconserves := conserves_reachable h
  rcases hconserves.handlesInOrder with ⟨done, harrived, hlength⟩
  have hpending : daq.pending.length ≤ 1 := by
    unfold pending
    split <;> simp
  have harrivedLength : daq.arrived.length = daq.outcomes.length + daq.pending.length := by
    rw [harrived, List.length_append, hlength]
  refine ⟨by omega, by omega, hconserves.keepsFrames, ?_, ?_⟩
  . rw [hconserves.countsBytes, BitVec.toNat_ofNat]
  . intro henabled hcontent
    exact (keepsFile_reachable h henabled hcontent).2

end Reachable

def plainConfig (capacity : Nat) : Config where
  zpp := ZppBits.reference ReceiveDataHeader.wireFormat
  env := DataWriter.plainEnvironment
  capacity := capacity

def twoDatagrams : List (Action 20) :=
  [.listen, .start, .enterLoop, .receive ⟨List.replicate 16 1, by decide⟩, .countBytes, .emplace,
    .resetBuffer, .testAcqOff false, .receive ⟨[2, 2], by decide⟩, .countBytes, .emplace,
    .testStopped, .beginPop, .exchangeStopped, .abortQueue, .takeFrame, .decodeFrame, .writeFrame]

theorem reachable_conserves_example
    : ∃ daq, (system 20 (plainConfig 1) DataWriter.binaryWriter).Reachable daq ∧
        daq.arrived = [List.replicate 16 1, [2, 2]] ∧
        daq.analysed ++ daq.inHand ++ daq.queued = [List.replicate 16 1] ∧
        daq.totalReadDataBytes.toNat = 18 ∧
        daq.processor.dataWriter.binaryContent = List.replicate 16 1 := by
  have hrun : ((system 20 (plainConfig 1) DataWriter.binaryWriter).exec
        (init 20 DataWriter.binaryWriter) twoDatagrams).map
          (fun daq => (daq.arrived, daq.outcomes, daq.handedOver, daq.written))
      = some ([List.replicate 16 1, [2, 2]], [true, false], [List.replicate 16 1, [2, 2]],
          [List.replicate 16 1]) := by
    decide +kernel
  rcases Option.map_eq_some_iff.mp hrun with ⟨daq, hexec, hdaq⟩
  simp only [Prod.mk.injEq] at hdaq
  rcases hdaq with ⟨harrived, houtcomes, hhanded, hwritten⟩
  have hreachable := TransitionSystem.Reachable.of_exec hexec
  rcases reachable_conserves hreachable with ⟨_, _, hframes, htotal, hfile⟩
  refine ⟨daq, hreachable, harrived, ?_, ?_, ?_⟩
  . rw [hframes, harrived, houtcomes]
    rfl
  . rw [htotal, hhanded]
    rfl
  . rw [hfile DataWriter.binaryWriter_enabled rfl, hwritten]
    rfl

end Acquisition

end Srs
