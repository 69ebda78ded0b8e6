import SrsDaq.Joined
import SrsDaq.Released

/-!
This module contains the way from the release of the work guard to the end of the program.
-/

namespace Srs

namespace Acquisition

variable {bufferSize : Nat} {cfg : Config} {daq daq' : Acquisition bufferSize}

/--
The loop does not wait for a frame that is not there.
-/
def PopsOn (daq : Acquisition bufferSize) : Prop :=
  daq.loopPc = .tested ∨ daq.loopPc = .popping false → daq.dataQueue ≠ []

theorem popsOn_next {a : Action bufferSize} (hpops : daq.PopsOn) (hstopped : daq.isStopped = true)
    (h : next cfg daq a = some daq')
    : daq'.PopsOn := by
  cases next_effect h with
  | goOnPopping _ hgo =>
    rw [hstopped] at hgo
    cases hgo
  | beginPop hpc =>
    intro _
    exact hpops (Or.inl hpc)
  | emplace _ _ _ =>
    intro _
    simp
  | start _
  | abortPop _ _
  | enterLoop _
  | leaveLoop _ _
  | takeFrame _ _ _ _ _
  | raiseAbort _
  | decode _ _ _
  | decodeFails _ _ _ _
  | write _ _ _
  | writeFails _ _ _ _
  | finish _ =>
    intro hwaits
    simp at hwaits
  | _ => exact hpops

def loopLeft : LoopPc → Nat
  | .tested => 7
  | .popping _ => 6
  | .analysing .decode => 5
  | .analysing .write => 4
  | .analysing .clear => 3
  | .posted => 2
  | .testing => 1
  | _ => 0

end Acquisition

namespace App

variable {bufferSize : Nat} {cfg : Config} {app app' : App bufferSize}

/--
The guard is released, and the destructor waits for the threads.
-/
structure Leaving (cfg : Config) (app : App bufferSize) : Prop where
  reachable : (system bufferSize cfg).Reachable app
  main : app.mainPc = .join ∨ app.mainPc = .unwind
  released : app.ioWorkGuard = false
  stopped : app.daq.isStopped = true
  pops : app.daq.PopsOn

theorem Leaving.started (h : app.Leaving cfg) : stage .startProcessor < stage app.mainPc := by
  rcases h.main with hmain | hmain <;> simp [hmain, stage]

theorem Leaving.next {a : Action bufferSize} (h : app.Leaving cfg)
    (hnext : App.next cfg app a = some app') (hmain : app'.mainPc = app.mainPc)
    : app'.Leaving cfg where
  reachable := Relation.ReflTransGen.tail h.reachable ⟨a, hnext⟩
  main := by
    rw [hmain]
    exact h.main
  released := ioWorkGuard_next hnext h.released
  stopped := isStopped_next h.started h.stopped hnext
  pops := by
    rcases daq_next hnext with hsame | ⟨b, hdaq⟩
    . rw [hsame]
      exact h.pops
    . exact Acquisition.popsOn_next h.pops h.stopped hdaq

theorem Leaving.off (h : app.Leaving cfg)
    : app.signalWait ≠ .armed ∧ app.status.isAcqOff = true ∧ app.starter.isOpen = false := by
  have hinv := releaseInv_reachable h.reachable
  rcases (appInv_reachable h.reachable).exits.released h.released with ⟨caller, hpc⟩
  refine ⟨hinv.signals caller ?_, hinv.off caller ?_, ?_⟩
  . rw [hpc]
    rfl
  . rw [hpc]
    rfl
  . refine (starterOver_of_sending h.reachable caller ?_).2
    rw [hpc]
    rfl

/-
How much is left of each part of the program.
-/

def waitLeft : WaitPc → Nat
  | .testing => 3
  | .entering => 2
  | _ => 1

def exitLeft : ExitPc → Nat
  | .notCalled => 20
  | .cancelSignals => 19
  | .exchangeStopped => 18
  | .stopMonitor => 17
  | .abortQueue => 16
  | .storeAcqOff => 15
  | .waitReading pc => 11 + waitLeft pc
  | .waitAcqOn pc => 7 + waitLeft pc
  | .listenStopper => 6
  | .sendAcqOff => 4
  | .storeAcqOn => 3
  | .resetGuard => 2
  | .returned => 0
  | .raised _ => 0

def runLeft (run : ExitRun) : Nat :=
  exitLeft run.pc + run.stopper.isSome.toNat

def coroutineLeft : CoroutinePc → Nat
  | .starting => 5
  | .running => 4
  | .closeSocket => 3
  | .storeStatus => 2
  | .notify => 1
  | _ => 0

def daqLeft (daq : Acquisition bufferSize) : Nat :=
  Acquisition.loopLeft daq.loopPc + listenRank daq.listenPc

def left (app : App bufferSize) : Nat :=
  runLeft app.handlerExit + runLeft app.analysisExit + daqLeft app.daq +
    (coroutineLeft app.readerListen + coroutineLeft app.readerSignal +
      coroutineLeft app.starterListen + coroutineLeft app.starterSignal)

/--
A step that is no signal comes closer to the end.
-/
def ComesCloser (cfg : Config) (app : App bufferSize) : Prop :=
  ∃ a app', isSignal a = false ∧ App.next cfg app a = some app' ∧ app'.mainPc = app.mainPc ∧
    app'.left < app.left

theorem daqLeft_exit {caller : ExitCaller} {a : ExitAction} (h : app.exit cfg caller a = some app')
    : daqLeft app'.daq = daqLeft app.daq := by
  cases exit_effect h with
  | exchangeStopped _ daq _ _ hdaq =>
    cases hdaq
    simp [setExitPc, daqLeft]
  | abortQueue _ daq _ hdaq =>
    rw [setExitPc, daq_setExitRun]
    unfold Acquisition.abortQueue at hdaq
    split at hdaq
    . next hpc =>
      cases hdaq
      simp [daqLeft, hpc, Acquisition.loopLeft]
    . cases hdaq
      rfl
  | _ => simp [setExitPc]

theorem comesCloser_exit {caller : ExitCaller} {a : ExitAction}
    (h : app.exit cfg caller a = some app')
    (hless : runLeft (app'.exitRun caller) < runLeft (app.exitRun caller))
    : app.ComesCloser cfg := by
  refine ⟨.exit caller a, app', rfl, h, (exit_keeps h).1, ?_⟩
  rcases exit_keeps h with ⟨_, hlisten, hsignal, _⟩
  rcases starts_exit h with ⟨hlisten', hsignal', _⟩
  unfold left
  rw [daqLeft_exit h, hlisten, hsignal, hlisten', hsignal']
  cases caller with
  | handler =>
    have hother : app'.analysisExit = app.analysisExit :=
      exitRun_exit_of_ne h (show ExitCaller.analysis ≠ .handler by simp)
    simp only [exitRun] at hless
    rw [hother]
    omega
  | analysis =>
    have hother : app'.handlerExit = app.handlerExit :=
      exitRun_exit_of_ne h (show ExitCaller.handler ≠ .analysis by simp)
    simp only [exitRun] at hless
    rw [hother]
    omega

theorem comesCloser_setExitPc {caller : ExitCaller} {a : ExitAction} {pc : ExitPc}
    (h : app.exit cfg caller a = some (app.setExitPc caller pc))
    (hless : exitLeft pc < exitLeft (app.exitRun caller).pc)
    : app.ComesCloser cfg := by
  apply comesCloser_exit h
  simpa [setExitPc, runLeft] using hless

theorem comesCloser_wait {caller : ExitCaller} (condition : Status → Bool) (pc : WaitPc)
    (waits : WaitPc → ExitPc) (next : ExitPc)
    (hexit : ∀ a, app.exit cfg caller (.wait a)
      = app.waitForStatus condition pc waits next caller a)
    (hwaits : ∀ pc' : WaitPc, waitLeft pc' < waitLeft pc →
      exitLeft (waits pc') < exitLeft (app.exitRun caller).pc)
    (hnext : exitLeft next < exitLeft (app.exitRun caller).pc)
    (hwaiting : 0 < exitLeft (app.exitRun caller).pc)
    : app.ComesCloser cfg := by
  cases pc with
  | testing =>
    by_cases hcondition : condition app.status = true
    . have hstep : app.exit cfg caller (.wait .test) = some (app.setExitPc caller next) := by
        simp [hexit, waitForStatus, WaitPc.next, hcondition]
      apply comesCloser_setExitPc hstep hnext
    . have hstep : app.exit cfg caller (.wait .test)
          = some (app.setExitPc caller (waits .entering)) := by
        simp [hexit, waitForStatus, WaitPc.next, hcondition]
      apply comesCloser_setExitPc hstep
      apply hwaits
      simp [waitLeft]
  | entering =>
    have hstep : app.exit cfg caller (.wait .enter)
        = some (app.setExitPc caller (waits .waiting)) := by
      simp [hexit, waitForStatus, WaitPc.next]
    apply comesCloser_setExitPc hstep
    apply hwaits
    simp [waitLeft]
  | waiting
  | notified =>
    -- the time is up, whatever the condition says
    have hstep : app.exit cfg caller (.wait .timeOut)
        = some (app.setExitPc caller (.raised (.runtimeError "TIMEOUT"))) := by
      simp [hexit, waitForStatus, WaitPc.next]
    apply comesCloser_setExitPc hstep hwaiting

theorem comesCloser_advance (caller : ExitCaller)
    (h : ∃ app', app.exit cfg caller .advance = some app')
    : app.ComesCloser cfg := by
  rcases h with ⟨app', hstep⟩
  apply comesCloser_exit hstep
  cases exit_effect hstep with
  | listenStopper _ stopper hpc _ =>
    rw [exitRun_setExitRun]
    simp [runLeft, exitLeft, hpc]
    omega
  | sendAcqOff _ stopper hpc hstopper => simp [runLeft, exitLeft, hpc, hstopper]
  | alreadyStopped _ hpc _
  | stopMonitor _ hpc => simp [setExitPc, runLeft, exitLeft, hpc]
  | cancelSignals _ _ hpc
  | exchangeStopped _ _ hpc _ _
  | abortQueue _ _ hpc _
  | storeAcqOff _ hpc
  | storeAcqOn _ hpc
  | resetGuard _ hpc =>
    simp only [setExitPc, exitRun_setExitRun, runLeft, exitLeft, hpc]
    cases caller <;> simp [exitRun, waitLeft]

theorem Leaving.exit (h : app.Leaving cfg) (caller : ExitCaller)
    (hcalled : (app.exitRun caller).pc ≠ .notCalled)
    (hended : isEnded (app.exitRun caller).pc = false)
    : app.ComesCloser cfg := by
  cases hpc : (app.exitRun caller).pc with
  | notCalled => contradiction
  | returned | raised _ => simp [hpc, isEnded] at hended
  | waitReading pc =>
    have hexit (a : WaitAction) : app.exit cfg caller (.wait a)
        = app.waitForStatus (fun status => not status.isReading) pc .waitReading
          (.waitAcqOn .testing) caller a := by
      simp only [App.exit, hpc]
    apply comesCloser_wait _ pc _ _ hexit
    . intro pc' hless
      simp [hpc, exitLeft, hless]
    . simp [hpc, exitLeft, waitLeft]
      omega
    . simp [hpc, exitLeft]
  | waitAcqOn pc =>
    have hexit (a : WaitAction) : app.exit cfg caller (.wait a)
        = app.waitForStatus (fun status => status.isAcqOn) pc .waitAcqOn .listenStopper caller a := by
      simp only [App.exit, hpc]
    apply comesCloser_wait _ pc _ _ hexit
    . intro pc' hless
      simp [hpc, exitLeft, hless]
    . simp [hpc, exitLeft]
      omega
    . simp [hpc, exitLeft]
  | listenStopper =>
    have hstep : app.exit cfg caller .listenFails
        = some (app.setExitPc caller (.raised .addressInUse)) := by
      simp [App.exit, hpc]
    apply comesCloser_setExitPc hstep
    simp [hpc, exitLeft]
  | _ =>
    apply comesCloser_advance caller
    apply exists_advance (appInv_reachable h.reachable).exits
    simp [hpc, goesOn]

/-
The other parts of the program.
-/

theorem Leaving.handler (h : app.Leaving cfg)
    (hwaits : ¬ (app.signalWait = .cancelled ∨ isEnded app.handlerExit.pc = true))
    : app.ComesCloser cfg := by
  rw [not_or, Bool.not_eq_true] at hwaits
  rcases hwaits with ⟨hcancelled, hended⟩
  cases hsignal : app.signalWait with
  | armed => exact absurd hsignal h.off.1
  | cancelled => contradiction
  | handled =>
    have hcalled := (releaseInv_reachable h.reachable).handled hsignal
    exact h.exit .handler hcalled hended
  | queued =>
    have hpc := (appInv_reachable h.reachable).exits.waiting (Or.inr hsignal)
    have hstep : app.exit cfg .handler .call
        = some { app with
            signalWait := .handled
            handlerExit := { app.handlerExit with pc := .cancelSignals } } := by
      simp [App.exit, exitRun, hpc, callExit, hsignal]
    apply comesCloser_exit hstep
    simp [exitRun, runLeft, exitLeft, hpc]

theorem comesCloser_daq {a : Acquisition.Action bufferSize} {daq : Acquisition bufferSize}
    (hown : app.isOwn a = true) (h : app.daq.next cfg.daq a = some daq)
    (hless : daqLeft daq < daqLeft app.daq)
    : app.ComesCloser cfg := by
  have hnext : App.next cfg app (.daq a) = some { app with daq := daq } := by
    simp [App.next, acquire, hown, h]
  refine ⟨.daq a, _, rfl, hnext, rfl, ?_⟩
  unfold left
  simp only
  omega

theorem Leaving.popping (h : app.Leaving cfg) {isAborted : Bool}
    (hpc : app.daq.loopPc = .popping isAborted)
    : app.ComesCloser cfg := by
  cases hqueue : app.daq.dataQueue with
  | cons aFrame dataQueue =>
    apply comesCloser_daq (a := .takeFrame) rfl
    . simp only [Acquisition.next, Acquisition.takeFrame, hpc, hqueue]
      rfl
    . simp [daqLeft, hpc, Acquisition.loopLeft]
  | nil =>
    cases isAborted with
    | false => exact absurd hqueue (h.pops (Or.inr hpc))
    | true =>
      apply comesCloser_daq (a := .raiseAbort) rfl
      . simp only [Acquisition.next, Acquisition.raiseAbort, hpc]
        rfl
      . simp [daqLeft, hpc, Acquisition.loopLeft]

theorem comesCloser_analysing {phase : FramePhase} (hpc : app.daq.loopPc = .analysing phase)
    : app.ComesCloser cfg := by
  cases phase with
  | decode =>
    rcases hpart : DataProcessor.decodeFrame cfg.daq.zpp app.daq.inputDataBuffer app.daq.processor
      with processor | ⟨exception, processor⟩
    . apply comesCloser_daq (a := .decodeFrame) rfl
      . simp only [Acquisition.next, Acquisition.decodeFrame, Acquisition.analyse, hpc, hpart]
        rfl
      . simp [daqLeft, hpc, Acquisition.loopLeft]
    . apply comesCloser_daq (a := .decodeFrame) rfl
      . simp only [Acquisition.next, Acquisition.decodeFrame, Acquisition.analyse, hpc, hpart]
        rfl
      . simp [daqLeft, hpc, Acquisition.loopLeft]
  | write =>
    rcases hpart : DataProcessor.writeData (DataWriter.interface cfg.daq.env)
        app.daq.inputDataBuffer app.daq.processor
      with processor | ⟨exception, processor⟩
    . apply comesCloser_daq (a := .writeFrame) rfl
      . simp only [Acquisition.next, Acquisition.writeFrame, Acquisition.analyse, hpc, hpart]
        rfl
      . simp [daqLeft, hpc, Acquisition.loopLeft]
    . apply comesCloser_daq (a := .writeFrame) rfl
      . simp only [Acquisition.next, Acquisition.writeFrame, Acquisition.analyse, hpc, hpart]
        rfl
      . simp [daqLeft, hpc, Acquisition.loopLeft]
  | clear =>
    apply comesCloser_daq (a := .finishFrame) rfl
    . simp only [Acquisition.next, Acquisition.finishFrame, hpc]
      rfl
    . simp [daqLeft, hpc, Acquisition.loopLeft]

theorem Leaving.loop (h : app.Leaving cfg) (hover : app.loopIsOver = false)
    : app.ComesCloser cfg := by
  cases hpc : app.daq.loopPc with
  | notPosted | stopped | userAbort => simp [loopIsOver, hpc] at hover
  | posted =>
    apply comesCloser_daq (a := .enterLoop) rfl
    . simp only [Acquisition.next, Acquisition.enterLoop, hpc]
      rfl
    . simp [daqLeft, hpc, Acquisition.loopLeft]
  | testing =>
    apply comesCloser_daq (a := .testStopped) rfl
    . simp only [Acquisition.next, Acquisition.testStopped, hpc, h.stopped]
      rfl
    . simp [daqLeft, hpc, Acquisition.loopLeft]
  | tested =>
    apply comesCloser_daq (a := .beginPop) rfl
    . simp only [Acquisition.next, Acquisition.beginPop, hpc]
      rfl
    . simp [daqLeft, hpc, Acquisition.loopLeft]
  | popping isAborted => exact h.popping hpc
  | analysing phase => exact comesCloser_analysing hpc
  | failed phase =>
    simp only [loopIsOver, hpc] at hover
    by_cases hcalled : app.analysisExit.pc = .notCalled
    . have hstep : app.exit cfg .analysis .call
          = some { app with analysisExit := { app.analysisExit with pc := .cancelSignals } } := by
        simp [App.exit, exitRun, hcalled, callExit, hpc]
      apply comesCloser_exit hstep
      simp [exitRun, runLeft, exitLeft, hcalled]
    . exact h.exit .analysis hcalled hover

theorem left_setCoroutinePc (app : App bufferSize) (c : Coroutine) (pc : CoroutinePc)
    : (app.setCoroutinePc c pc).left + coroutineLeft (app.coroutinePc c)
      = app.left + coroutineLeft pc := by
  cases c <;> simp only [left, setCoroutinePc, coroutinePc] <;> omega

theorem left_closeSocket {c : Coroutine} {closed : App bufferSize}
    (h : app.closeSocket c = some closed)
    : closed.left = app.left := by
  cases c <;> cases h <;> rfl

theorem left_storeStatus (app : App bufferSize) (c : Coroutine)
    : (app.storeStatus c).left = app.left := by
  cases c <;> rfl

theorem runLeft_notify (run : ExitRun)
    : runLeft { run with pc := ExitPc.notify run.pc } = runLeft run := by
  rcases run with ⟨pc, stopper⟩
  cases pc with
  | waitReading pc | waitAcqOn pc => cases pc <;> rfl
  | _ => rfl

theorem left_notifyStatusChange (app : App bufferSize) : app.notifyStatusChange.left = app.left := by
  simp only [left, notifyStatusChange, runLeft_notify]

theorem comesCloser_setCoroutinePc {a : Action bufferSize} {c : Coroutine} {pc : CoroutinePc}
    (hsignal : isSignal a = false) (h : App.next cfg app a = some (app'.setCoroutinePc c pc))
    (hmain : app'.mainPc = app.mainPc) (hleft : app'.left = app.left)
    (hpc : app'.coroutinePc c = app.coroutinePc c)
    (hless : coroutineLeft pc < coroutineLeft (app.coroutinePc c))
    : app.ComesCloser cfg := by
  refine ⟨a, _, hsignal, h, by rw [mainPc_setCoroutinePc, hmain], ?_⟩
  have hset := left_setCoroutinePc app' c pc
  rw [hpc, hleft] at hset
  omega

theorem comesCloser_coroutine (c : Coroutine) (hidle : isIdle (app.coroutinePc c) = false)
    (hrunning : app.coroutinePc c = .running → app.ComesCloser cfg)
    : app.ComesCloser cfg := by
  cases hpc : app.coroutinePc c with
  | notSpawned | ended => simp [hpc, isIdle] at hidle
  | running => exact hrunning hpc
  | starting =>
    have hnext : App.next cfg app (.coroutine c) = some (app.setCoroutinePc c .running) := by
      simp [App.next, App.coroutine, hpc]
    apply comesCloser_setCoroutinePc rfl hnext rfl rfl rfl
    simp [hpc, coroutineLeft]
  | closeSocket =>
    rcases hclosed : app.closeSocket c with _ | closed
    . cases c <;> cases hclosed
    . have hnext : App.next cfg app (.coroutine c) = some (closed.setCoroutinePc c .storeStatus) := by
        simp [App.next, App.coroutine, hpc, hclosed]
      have hmain : closed.mainPc = app.mainPc := by
        cases c <;> cases hclosed <;> rfl
      apply comesCloser_setCoroutinePc rfl hnext hmain (left_closeSocket hclosed)
        (coroutinePc_closeSocket hclosed)
      simp [hpc, coroutineLeft]
  | storeStatus =>
    have hnext : App.next cfg app (.coroutine c)
        = some ((app.storeStatus c).setCoroutinePc c .notify) := by
      simp [App.next, App.coroutine, hpc]
    have hmain : (app.storeStatus c).mainPc = app.mainPc := by
      cases c <;> rfl
    apply comesCloser_setCoroutinePc rfl hnext hmain (left_storeStatus app c)
      (coroutinePc_storeStatus app c)
    simp [hpc, coroutineLeft]
  | notify =>
    have hnext : App.next cfg app (.coroutine c)
        = some (app.notifyStatusChange.setCoroutinePc c .ended) := by
      simp [App.next, App.coroutine, hpc]
    have hsame : app.notifyStatusChange.coroutinePc c = app.coroutinePc c := by
      cases c <;> rfl
    apply comesCloser_setCoroutinePc rfl hnext rfl (left_notifyStatusChange app) hsame
    simp [hpc, coroutineLeft]

theorem comesCloser_cancel (c : Coroutine) (hcancel : app.canCancel c = true)
    (hidle : isIdle (app.coroutinePc c) = false)
    : app.ComesCloser cfg := by
  have hnext : App.next cfg app (.cancelCoroutine c) = some (app.setCoroutinePc c .ended) := by
    simp [App.next, App.cancelCoroutine, hcancel]
  apply comesCloser_setCoroutinePc rfl hnext rfl rfl rfl
  cases hpc : app.coroutinePc c with
  | notSpawned | ended => simp [hpc, isIdle] at hidle
  | _ => simp [coroutineLeft]

theorem Leaving.readerRunning (h : app.Leaving cfg) (hpc : app.readerListen = .running)
    : app.ComesCloser cfg := by
  have hspawned : app.daq.listenPc ≠ .notSpawned := by
    have hagrees := (endInv_reachable h.reachable).reading.agrees
    rw [hpc] at hagrees
    exact hagrees
  cases hlisten : app.daq.listenPc with
  | notSpawned => contradiction
  | receiving =>
    cases hopen : app.daq.reader.isOpen with
    | true =>
      -- the one datagram that is missing, any will do
      apply comesCloser_daq (a := .receive ⟨[], by simp⟩) rfl
      . simp only [Acquisition.next, Acquisition.receive, hlisten, hopen]
        rfl
      . simp [daqLeft, hlisten, listenRank]
    | false =>
      apply comesCloser_daq (a := .cancelReceive) rfl
      . simp only [Acquisition.next, Acquisition.cancelReceive, hlisten, hopen]
        rfl
      . simp [daqLeft, hlisten, listenRank]
  | received size =>
    apply comesCloser_daq (a := .countBytes) rfl
    . simp only [Acquisition.next, Acquisition.countBytes, hlisten]
      rfl
    . simp [daqLeft, hlisten, listenRank]
  | counted size =>
    apply comesCloser_daq (a := .emplace) rfl
    . simp only [Acquisition.next, Acquisition.emplace, hlisten]
      rfl
    . simp [daqLeft, hlisten, listenRank]
  | handled =>
    apply comesCloser_daq (a := .resetBuffer) rfl
    . simp only [Acquisition.next, Acquisition.resetBuffer, hlisten]
      rfl
    . simp [daqLeft, hlisten, listenRank]
  | reset =>
    apply comesCloser_daq (a := .testAcqOff true)
    . simp [isOwn, h.off.2.1]
    . simp only [Acquisition.next, Acquisition.testAcqOff, hlisten]
      rfl
    . simp [daqLeft, hlisten, listenRank]
  | left =>
    have hnext : App.next cfg app (.coroutine .readerListen)
        = some (app.setCoroutinePc .readerListen .closeSocket) := by
      simp [App.next, App.coroutine, coroutinePc, hpc, hlisten]
    apply comesCloser_setCoroutinePc rfl hnext rfl rfl rfl
    simp [coroutinePc, hpc, coroutineLeft]
  | cancelled =>
    apply comesCloser_cancel .readerListen
    . simp [canCancel, hpc, hlisten]
    . simp [coroutinePc, hpc, isIdle]

theorem Leaving.coroutines (h : app.Leaving cfg) (c : Coroutine)
    (hidle : isIdle (app.coroutinePc c) = false)
    : app.ComesCloser cfg := by
  have hinv := releaseInv_reachable h.reachable
  have hended {pc : CoroutinePc} (hidle : isIdle pc = true) (hspawned : pc ≠ .notSpawned)
      : pc = .ended := by
    cases pc <;> first | rfl | contradiction
  have hreader (hidle : isIdle app.readerListen = false) : app.ComesCloser cfg :=
    comesCloser_coroutine .readerListen hidle h.readerRunning
  have hstarter (hidle : isIdle app.starterListen = false) : app.ComesCloser cfg := by
    apply comesCloser_coroutine .starterListen hidle
    intro hpc
    apply comesCloser_cancel .starterListen
    . simp only [coroutinePc] at hpc
      simp [canCancel, hpc, h.off.2.2]
    . exact hidle
  cases c with
  | readerListen => exact hreader hidle
  | starterListen => exact hstarter hidle
  | readerSignal =>
    by_cases hlisten : isIdle app.readerListen = true
    . apply comesCloser_coroutine .readerSignal hidle
      intro hpc
      simp only [coroutinePc] at hpc
      have hspawned : app.readerListen ≠ .notSpawned := by
        intro hnone
        cases hpc.symm.trans (hinv.reader hnone)
      apply comesCloser_cancel .readerSignal
      . simp [canCancel, hpc, hended hlisten hspawned]
      . exact hidle
    . exact hreader (by simpa using hlisten)
  | starterSignal =>
    by_cases hlisten : isIdle app.starterListen = true
    . apply comesCloser_coroutine .starterSignal hidle
      intro hpc
      simp only [coroutinePc] at hpc
      have hspawned : app.starterListen ≠ .notSpawned := by
        intro hnone
        cases hpc.symm.trans (hinv.starter hnone)
      apply comesCloser_cancel .starterSignal
      . simp [canCancel, hpc, hended hlisten hspawned]
      . exact hidle
    . exact hstarter (by simpa using hlisten)

theorem Leaving.stopper (h : app.Leaving cfg) (caller : ExitCaller)
    (hopen : app.holdsPort (.stopper caller) = true)
    : app.ComesCloser cfg := by
  simp only [holdsPort] at hopen
  cases hstopper : (app.exitRun caller).stopper with
  | none =>
    rw [hstopper] at hopen
    cases hopen
  | some stopper =>
    by_cases hpc : (app.exitRun caller).pc = .sendAcqOff
    . apply h.exit caller <;> simp [hpc, isEnded]
    . have hnext : App.next cfg app (.endStopper caller)
          = some (app.setExitRun caller { app.exitRun caller with stopper := none }) := by
        simp only [App.next, App.endStopper, hstopper]
      refine ⟨.endStopper caller, _, rfl, hnext, by simp, ?_⟩
      cases caller <;> simp only [exitRun] at hstopper <;>
        simp [left, setExitRun, exitRun, runLeft, hstopper]

theorem Leaving.comesCloser (h : app.Leaving cfg) (hdone : ¬ app.poolIsDone = true)
    : app.ComesCloser cfg := by
  by_contra hstays
  have hidle (c : Coroutine) : isIdle (app.coroutinePc c) = true := by
    by_contra hbusy
    exact hstays (h.coroutines c (by simpa using hbusy))
  have hclosed (caller : ExitCaller) : app.holdsPort (.stopper caller) = false := by
    by_contra hopen
    exact hstays (h.stopper caller (by simpa using hopen))
  have hloop : app.loopIsOver = true := by
    by_contra hruns
    exact hstays (h.loop (by simpa using hruns))
  have hhandler : app.signalWait = .cancelled ∨ isEnded app.handlerExit.pc = true := by
    by_contra hwaits
    exact hstays (h.handler hwaits)
  apply hdone
  exact poolIsDone_iff.mpr ⟨h.released, hloop, hhandler, hidle, hclosed⟩

theorem Leaving.joins (h : app.Leaving cfg) (terminates : Bool)
    : ∃ later,
        (process bufferSize cfg terminates).LeadsBy (fun a => isSignal a = false) app later ∧
        (later.mainPc = .joined ∨ later.mainPc = .unwound ∨
          later.isTerminated terminates = true) := by
  have hprogress (app : App bufferSize) (h : app.Leaving cfg)
      (hgoal : ¬ (app.Leaving cfg ∧
        (app.poolIsDone = true ∨ app.isTerminated terminates = true)))
      : ∃ a app', isSignal a = false ∧ (process bufferSize cfg terminates).next app a = some app' ∧
          app'.Leaving cfg ∧ app'.left < app.left := by
    rw [not_and, not_or, Bool.not_eq_true (app.isTerminated terminates)] at hgoal
    rcases h.comesCloser (hgoal h).1 with ⟨a, app', hsignal, hnext, hmain, hless⟩
    exact ⟨a, app', hsignal, TransitionSystem.next_haltsWhen.mpr ⟨(hgoal h).2, hnext⟩,
      h.next hnext hmain, hless⟩
  rcases TransitionSystem.exists_leadsBy left hprogress h with ⟨last, hleads, hlast, hends⟩
  by_cases hterminated : last.isTerminated terminates = true
  . exact ⟨last, hleads, Or.inr (Or.inr hterminated)⟩
  have hdone : last.poolIsDone = true := hends.resolve_right hterminated
  rw [Bool.not_eq_true] at hterminated
  have hstep {pc : MainPc} (hnext : last.main cfg true = some { last with mainPc := pc })
      : (process bufferSize cfg terminates).LeadsBy (fun a => isSignal a = false) app
          { last with mainPc := pc } :=
    Relation.ReflTransGen.tail hleads
      ⟨.main true, rfl, TransitionSystem.next_haltsWhen.mpr ⟨hterminated, hnext⟩⟩
  rcases hlast.main with hpc | hpc
  . refine ⟨{ last with mainPc := .joined }, hstep ?_, Or.inl rfl⟩
    simp [App.main, hpc, hdone]
  . refine ⟨{ last with mainPc := .unwound }, hstep ?_, Or.inr (Or.inl rfl)⟩
    simp [App.main, hpc, hdone]

/--
Behind the release of the guard the program can always end without another signal, unless the loop
waits for a frame that is not there: whatever the calls of `exit`, the connections and the frame in hand
have left to do comes to its end, and the threads are joined. Only an exception that leaves `exit` may
end the process before.
-/
theorem released_program_joins (h : (system bufferSize cfg).Reachable app)
    (hmain : app.mainPc = .join ∨ app.mainPc = .unwind) (hreleased : app.ioWorkGuard = false)
    (hstopped : app.daq.isStopped = true) (hpops : app.daq.PopsOn) (terminates : Bool)
    : ∃ later,
        (process bufferSize cfg terminates).LeadsBy (fun a => isSignal a = false) app later ∧
        (later.mainPc = .joined ∨ later.mainPc = .unwound ∨
          later.isTerminated terminates = true) := by
  have hleaving : app.Leaving cfg := ⟨h, hmain, hreleased, hstopped, hpops⟩
  exact hleaving.joins terminates

/--
The abort comes before the `pop`, but there is a frame that the loop takes nevertheless.
-/
def abortedWithFrame : List (Action 20) :=
  startUp ++ [.daq .enterLoop, .daq .testStopped,
      .daq (.receive ⟨List.replicate 16 1, length_ones⟩), .daq .countBytes, .daq .emplace,
      .daq .resetBuffer, .daq (.testAcqOff false)] ++
    .signal .sigint :: stopProcessor ++ switchOff

theorem released_program_joins_example
    : ∃ app, (system 20 plainConfig).Reachable app ∧ app.daq.loopPc = .tested ∧
        ∃ later,
          (process 20 plainConfig true).LeadsBy (fun a => isSignal a = false) app later ∧
          (later.mainPc = .joined ∨ later.mainPc = .unwound ∨ later.isTerminated true = true) := by
  have hrun : ((system 20 plainConfig).exec (init 20 plainConfig) abortedWithFrame).map
        (fun app => decide (app.mainPc = .join ∧ app.ioWorkGuard = false ∧
          app.daq.isStopped = true ∧ app.daq.loopPc = .tested ∧
          app.daq.queued = [List.replicate 16 1]))
      = some true := by
    decide +kernel
  rcases Option.map_eq_some_iff.mp hrun with ⟨app, hexec, happ⟩
  rcases of_decide_eq_true happ with ⟨hmain, hreleased, hstopped, hloop, hqueued⟩
  have hpops : app.daq.PopsOn := by
    intro _ hempty
    simp [Acquisition.queued, hempty] at hqueued
  have hreachable := TransitionSystem.Reachable.of_exec hexec
  exact ⟨app, hreachable, hloop,
    released_program_joins hreachable (Or.inl hmain) hreleased hstopped hpops true⟩

end App

end Srs
