import SrsDaq.Analysis.DataProcessorLemmas
import SrsDaq.ApplicationLemmas

/-!
This module contains what a shutdown leaves behind: the data that nobody analyses any more.
-/

namespace Srs

namespace App

variable {bufferSize : Nat}

def acqOffFrame : List Byte :=
  ConnectionBase.commandFrame initCountValue [0, 15, 0] nullAddress

def AcqOffIssued (app : App bufferSize) : Prop :=
  some acqOffFrame ∈ app.acqOffIssued

/-
The parts of a run. The application starts up and the Starter gets its reply, then the handler of the
signals calls `exit`.
-/

def plainConfig : Config where
  daq := Acquisition.plainConfig 8
  outputs := .returned DataWriter.binaryWriter
  remoteEndpoint := ⟨"10.0.0.2", 6600⟩

def startUp : List (Action bufferSize) :=
  List.replicate 7 (.main true) ++
    [.coroutine .readerSignal, .coroutine .starterSignal, .receiveReply,
      .coroutine .starterListen, .coroutine .starterListen, .coroutine .starterListen,
      .cancelCoroutine .starterSignal]

def stopProcessor : List (Action bufferSize) :=
  .exit .handler .call :: List.replicate 5 (.exit .handler .advance)

def switchOff : List (Action bufferSize) :=
  [.coroutine .readerSignal, .coroutine .readerSignal, .coroutine .readerSignal,
    .daq .cancelReceive, .cancelCoroutine .readerListen,
    .exit .handler (.wait .test), .exit .handler (.wait .test),
    .exit .handler .advance, .exit .handler .advance, .exit .handler .advance,
    .exit .handler .advance]

def receiveFrame (datagram : Datagram bufferSize) : List (Action bufferSize) :=
  [.daq (.receive datagram), .daq .countBytes, .daq .emplace, .daq .resetBuffer,
    .daq (.testAcqOff false)]

def analyseFrame : List (Action bufferSize) :=
  [.daq .testStopped, .daq .beginPop, .daq .takeFrame, .daq .decodeFrame, .daq .writeFrame,
    .daq .finishFrame]

def interrupted : List (Action 20) :=
  startUp ++ .signal .sigint :: stopProcessor ++ switchOff

def firstDatagram : Datagram 40 :=
  ⟨DataProcessor.hitAndMarker, by decide⟩

def secondDatagram : Datagram 40 :=
  ⟨DataProcessor.markerAndHits, by decide⟩

/-
The data that is left.
-/

/--
Once the analysis loop has ended without an error, the frames that were queued are those that were
analysed and written and those that are still in the queue. These are never analysed, and what comes
later stays in the queue as well.
-/
theorem queue_is_left_behind (cfg : Config) {app : App bufferSize}
    (h : (system bufferSize cfg).Reachable app) (hover : app.daq.LoopOver)
    : Acquisition.select app.daq.arrived app.daq.outcomes = app.daq.analysed ++ app.daq.queued ∧
      app.daq.written = app.daq.analysed ∧
      ∀ later, (system bufferSize cfg).Leads app later →
        later.daq.analysed = app.daq.analysed ∧
        app.daq.queued <+: later.daq.queued ∧
        Acquisition.select later.daq.arrived later.daq.outcomes
          = app.daq.analysed ++ later.daq.queued := by
  have hkeeps (app : App bufferSize) (h : (system bufferSize cfg).Reachable app)
      (hover : app.daq.LoopOver)
      : Acquisition.select app.daq.arrived app.daq.outcomes
          = app.daq.analysed ++ app.daq.queued := by
    have hdaq := (acquisition bufferSize cfg).reachable h
    have hframes := (Acquisition.conserves_reachable hdaq).keepsFrames
    have hview : (acquisition bufferSize cfg).view app = app.daq := by rfl
    rw [hview, Acquisition.KeepsFrames, hover.inHand_eq_nil, List.append_nil] at hframes
    apply hframes.symm
  refine ⟨hkeeps app h hover, hover.written_eq_analysed, ?_⟩
  intro later hleads
  have hlater : later.daq.LoopOver ∧ later.daq.analysed = app.daq.analysed
      ∧ app.daq.queued <+: later.daq.queued := by
    refine hleads.invariant (P := fun later : App bufferSize =>
      later.daq.LoopOver ∧ later.daq.analysed = app.daq.analysed
        ∧ app.daq.queued <+: later.daq.queued) ?_ ⟨hover, rfl, List.prefix_rfl⟩
    rintro app₁ a app₂ ⟨hover₁, hanalysed₁, hqueued₁⟩ hnext
    rcases daq_next hnext with hsame | ⟨b, hstep⟩
    . rw [hsame]
      exact ⟨hover₁, hanalysed₁, hqueued₁⟩
    . rcases Acquisition.loopOver_step hover₁ hstep with ⟨hover₂, hanalysed₂, hqueued₂⟩
      exact ⟨hover₂, hanalysed₂.trans hanalysed₁, hqueued₁.trans hqueued₂⟩
  rcases hlater with ⟨hlaterOver, hanalysed, hqueued⟩
  refine ⟨hanalysed, hqueued, ?_⟩
  rw [hkeeps later (h.trans hleads) hlaterOver, hanalysed]

theorem length_ones : (List.replicate 16 1 : List Byte).length ≤ 20 := by
  decide

def abandoned : List (Action 20) :=
  startUp ++ receiveFrame ⟨List.replicate 16 1, length_ones⟩ ++
    .signal .sigint :: stopProcessor ++ [.daq .enterLoop, .daq .testStopped] ++ switchOff

theorem exec_abandoned
    : ∃ app, (system 20 plainConfig).exec (init 20 plainConfig) abandoned = some app ∧
        app.handlerExit.pc = .returned ∧ app.status.isReading = false ∧ app.daq.LoopOver ∧
        app.daq.arrived = [List.replicate 16 1] ∧ app.daq.outcomes = [true] ∧
        app.daq.analysed = [] ∧ app.daq.queued = [List.replicate 16 1] := by
  have hrun : ((system 20 plainConfig).exec (init 20 plainConfig) abandoned).map
        (fun app => decide (app.handlerExit.pc = .returned ∧ app.status.isReading = false ∧
          app.daq.loopPc = .stopped ∧ app.daq.arrived = [List.replicate 16 1] ∧
          app.daq.outcomes = [true] ∧ app.daq.analysed = [] ∧
          app.daq.queued = [List.replicate 16 1]))
      = some true := by
    decide +kernel
  rcases Option.map_eq_some_iff.mp hrun with ⟨app, hexec, happ⟩
  rcases of_decide_eq_true happ
    with ⟨hexit, hreading, hloop, harrived, houtcomes, hanalysed, hqueued⟩
  exact ⟨app, hexec, hexit, hreading, Or.inl hloop, harrived, houtcomes, hanalysed, hqueued⟩

theorem queue_is_left_behind_example
    : ∃ app, (system 20 plainConfig).Reachable app ∧ app.handlerExit.pc = .returned ∧
        ∀ later, (system 20 plainConfig).Leads app later → later.daq.analysed = [] := by
  rcases exec_abandoned with ⟨app, hexec, hexit, _, hover, _, _, hanalysed, _⟩
  have hreachable := TransitionSystem.Reachable.of_exec hexec
  rcases queue_is_left_behind plainConfig hreachable hover with ⟨_, _, hlater⟩
  refine ⟨app, hreachable, hexit, ?_⟩
  intro later hleads
  rw [(hlater later hleads).1, hanalysed]

theorem abandoned_datagram
    : ∃ app, (system 20 plainConfig).exec (init 20 plainConfig) abandoned = some app ∧
        app.handlerExit.pc = .returned ∧ app.status.isReading = false ∧ app.daq.LoopOver ∧
        List.replicate 16 1 ∈ Acquisition.select app.daq.arrived app.daq.outcomes ∧
        List.replicate 16 1 ∉ app.daq.analysed ∧ app.daq.queued ≠ [] := by
  rcases exec_abandoned
    with ⟨app, hexec, hexit, hreading, hover, harrived, houtcomes, hanalysed, hqueued⟩
  refine ⟨app, hexec, hexit, hreading, hover, ?_, ?_, ?_⟩
  . rw [harrived, houtcomes]
    simp [Acquisition.select]
  . simp [hanalysed]
  . simp [hqueued]

end App

end Srs
