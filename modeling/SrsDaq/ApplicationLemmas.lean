import SrsDaq.Analysis.AcquisitionLemmas
import SrsDaq.Application
import SrsDaq.Utils.AppStatusLemmas

/-!
This module contains what the steps of the application do with the data that is on its way and with
the calls of `exit`.
-/

namespace Srs

namespace App

variable {bufferSize : Nat}

@[simp]
theorem daq_setExitRun (app : App bufferSize) (caller : ExitCaller) (run : ExitRun)
    : (app.setExitRun caller run).daq = app.daq := by
  cases caller <;> rfl

@[simp]
theorem acqOffIssued_setExitRun (app : App bufferSize) (caller : ExitCaller) (run : ExitRun)
    : (app.setExitRun caller run).acqOffIssued = app.acqOffIssued := by
  cases caller <;> rfl

@[simp]
theorem exitRun_setExitRun (app : App bufferSize) (caller : ExitCaller) (run : ExitRun)
    : (app.setExitRun caller run).exitRun caller = run := by
  cases caller <;> rfl

theorem exitRun_setExitRun_of_ne (app : App bufferSize) {caller other : ExitCaller} (run : ExitRun)
    (h : other ≠ caller)
    : (app.setExitRun caller run).exitRun other = app.exitRun other := by
  cases caller <;> cases other <;> first | rfl | contradiction

theorem forall_exitRun_setExitRun {P : ExitRun → Prop} {app : App bufferSize} {caller : ExitCaller}
    {run : ExitRun} (hrun : P run) (hexits : ∀ other, P (app.exitRun other)) (other : ExitCaller)
    : P ((app.setExitRun caller run).exitRun other) := by
  by_cases heq : other = caller
  . subst heq
    rw [exitRun_setExitRun]
    exact hrun
  . rw [exitRun_setExitRun_of_ne _ _ heq]
    apply hexits other

@[simp]
theorem status_setExitRun (app : App bufferSize) (caller : ExitCaller) (run : ExitRun)
    : (app.setExitRun caller run).status = app.status := by
  cases caller <;> rfl

@[simp]
theorem mainPc_setExitRun (app : App bufferSize) (caller : ExitCaller) (run : ExitRun)
    : (app.setExitRun caller run).mainPc = app.mainPc := by
  cases caller <;> rfl

@[simp]
theorem signalWait_setExitRun (app : App bufferSize) (caller : ExitCaller) (run : ExitRun)
    : (app.setExitRun caller run).signalWait = app.signalWait := by
  cases caller <;> rfl

@[simp]
theorem ioWorkGuard_setExitRun (app : App bufferSize) (caller : ExitCaller) (run : ExitRun)
    : (app.setExitRun caller run).ioWorkGuard = app.ioWorkGuard := by
  cases caller <;> rfl

@[simp]
theorem starter_setExitRun (app : App bufferSize) (caller : ExitCaller) (run : ExitRun)
    : (app.setExitRun caller run).starter = app.starter := by
  cases caller <;> rfl

@[simp]
theorem starterReplied_setExitRun (app : App bufferSize) (caller : ExitCaller) (run : ExitRun)
    : (app.setExitRun caller run).starterReplied = app.starterReplied := by
  cases caller <;> rfl

@[simp]
theorem readerListen_setExitRun (app : App bufferSize) (caller : ExitCaller) (run : ExitRun)
    : (app.setExitRun caller run).readerListen = app.readerListen := by
  cases caller <;> rfl

@[simp]
theorem readerSignal_setExitRun (app : App bufferSize) (caller : ExitCaller) (run : ExitRun)
    : (app.setExitRun caller run).readerSignal = app.readerSignal := by
  cases caller <;> rfl

@[simp]
theorem starterListen_setExitRun (app : App bufferSize) (caller : ExitCaller) (run : ExitRun)
    : (app.setExitRun caller run).starterListen = app.starterListen := by
  cases caller <;> rfl

@[simp]
theorem starterSignal_setExitRun (app : App bufferSize) (caller : ExitCaller) (run : ExitRun)
    : (app.setExitRun caller run).starterSignal = app.starterSignal := by
  cases caller <;> rfl

@[simp]
theorem daq_setCoroutinePc (app : App bufferSize) (c : Coroutine) (pc : CoroutinePc)
    : (app.setCoroutinePc c pc).daq = app.daq := by
  cases c <;> rfl

@[simp]
theorem status_setCoroutinePc (app : App bufferSize) (c : Coroutine) (pc : CoroutinePc)
    : (app.setCoroutinePc c pc).status = app.status := by
  cases c <;> rfl

@[simp]
theorem mainPc_setCoroutinePc (app : App bufferSize) (c : Coroutine) (pc : CoroutinePc)
    : (app.setCoroutinePc c pc).mainPc = app.mainPc := by
  cases c <;> rfl

@[simp]
theorem starterReplied_setCoroutinePc (app : App bufferSize) (c : Coroutine) (pc : CoroutinePc)
    : (app.setCoroutinePc c pc).starterReplied = app.starterReplied := by
  cases c <;> rfl

inductive ExitEffect (cfg : Config) (app : App bufferSize)
    : ExitCaller → ExitAction → App bufferSize → Prop where
  | callHandler (hpc : app.handlerExit.pc = .notCalled) (hsignal : app.signalWait = .queued)
    : ExitEffect cfg app .handler .call
        { app with
          signalWait := .handled
          handlerExit := { app.handlerExit with pc := .cancelSignals } }
  | callAnalysis (phase) (hpc : app.analysisExit.pc = .notCalled)
    (hfailed : app.daq.loopPc = .failed phase)
    : ExitEffect cfg app .analysis .call
        { app with analysisExit := { app.analysisExit with pc := .cancelSignals } }
  | cancelSignals (caller) (signalWait) (hpc : (app.exitRun caller).pc = .cancelSignals)
    : ExitEffect cfg app caller .advance
        ({ app with signalWait := signalWait }.setExitPc caller .exchangeStopped)
  | alreadyStopped (caller) (hpc : (app.exitRun caller).pc = .exchangeStopped)
    (hstopped : app.daq.isStopped = true)
    : ExitEffect cfg app caller .advance (app.setExitPc caller .storeAcqOff)
  | exchangeStopped (caller) (daq) (hpc : (app.exitRun caller).pc = .exchangeStopped)
    (hrunning : app.daq.isStopped = false) (hdaq : app.daq.exchangeStopped = some daq)
    : ExitEffect cfg app caller .advance ({ app with daq := daq }.setExitPc caller .stopMonitor)
  | stopMonitor (caller) (hpc : (app.exitRun caller).pc = .stopMonitor)
    : ExitEffect cfg app caller .advance (app.setExitPc caller .abortQueue)
  | abortQueue (caller) (daq) (hpc : (app.exitRun caller).pc = .abortQueue)
    (hdaq : app.daq.abortQueue = some daq)
    : ExitEffect cfg app caller .advance ({ app with daq := daq }.setExitPc caller .storeAcqOff)
  | storeAcqOff (caller) (hpc : (app.exitRun caller).pc = .storeAcqOff)
    : ExitEffect cfg app caller .advance
        ({ app with status := { app.status with isAcqOff := true } }.setExitPc caller
          (.waitReading .testing))
  | waitReading (caller) (a) (pc pc') (hpc : (app.exitRun caller).pc = .waitReading pc)
    (hwait : pc.next (fun status => not status.isReading) app.status a = some (.goesOn pc'))
    : ExitEffect cfg app caller (.wait a) (app.setExitPc caller (.waitReading pc'))
  | isNotReading (caller) (a) (pc) (hpc : (app.exitRun caller).pc = .waitReading pc)
    (hwait : pc.next (fun status => not status.isReading) app.status a = some .returned)
    : ExitEffect cfg app caller (.wait a) (app.setExitPc caller (.waitAcqOn .testing))
  | timeOutReading (caller) (a) (pc) (hpc : (app.exitRun caller).pc = .waitReading pc)
    (hwait : pc.next (fun status => not status.isReading) app.status a = some .timedOut)
    : ExitEffect cfg app caller (.wait a)
        (app.setExitPc caller (.raised (.runtimeError "TIMEOUT")))
  | waitAcqOn (caller) (a) (pc pc') (hpc : (app.exitRun caller).pc = .waitAcqOn pc)
    (hwait : pc.next (fun status => status.isAcqOn) app.status a = some (.goesOn pc'))
    : ExitEffect cfg app caller (.wait a) (app.setExitPc caller (.waitAcqOn pc'))
  | isAcqOn (caller) (a) (pc) (hpc : (app.exitRun caller).pc = .waitAcqOn pc)
    (hwait : pc.next (fun status => status.isAcqOn) app.status a = some .returned)
    : ExitEffect cfg app caller (.wait a) (app.setExitPc caller .listenStopper)
  | timeOutAcqOn (caller) (a) (pc) (hpc : (app.exitRun caller).pc = .waitAcqOn pc)
    (hwait : pc.next (fun status => status.isAcqOn) app.status a = some .timedOut)
    : ExitEffect cfg app caller (.wait a)
        (app.setExitPc caller (.raised (.runtimeError "TIMEOUT")))
  | listenStopper (caller) (stopper) (hpc : (app.exitRun caller).pc = .listenStopper)
    (hlisten : (controlConnection cfg).listen (fun _ => app.controlPortFree) = .returned stopper)
    : ExitEffect cfg app caller .advance
        (app.setExitRun caller { pc := .sendAcqOff, stopper := some stopper })
  | listenFails (caller) (hpc : (app.exitRun caller).pc = .listenStopper)
    : ExitEffect cfg app caller .listenFails (app.setExitPc caller (.raised .addressInUse))
  | sendAcqOff (caller) (stopper) (hpc : (app.exitRun caller).pc = .sendAcqOff)
    (hstopper : (app.exitRun caller).stopper = some stopper)
    : ExitEffect cfg app caller .advance
        ({ app with
            acqOffIssued := app.acqOffIssued ++
              [(stopper.encodeWriteMsg cfg.daq.zpp [0, 15, 0] nullAddress).sendMessage]
          }.setExitRun caller
            { pc := .storeAcqOn
              stopper := some (stopper.encodeWriteMsg cfg.daq.zpp [0, 15, 0] nullAddress) })
  | storeAcqOn (caller) (hpc : (app.exitRun caller).pc = .storeAcqOn)
    : ExitEffect cfg app caller .advance
        ({ app with status := { app.status with isAcqOn := false } }.setExitPc caller .resetGuard)
  | resetGuard (caller) (hpc : (app.exitRun caller).pc = .resetGuard)
    : ExitEffect cfg app caller .advance
        ({ app with ioWorkGuard := false }.setExitPc caller .returned)

theorem exit_effect {cfg : Config} {app app' : App bufferSize} {caller : ExitCaller}
    {a : ExitAction} (h : app.exit cfg caller a = some app')
    : ExitEffect cfg app caller a app' := by
  unfold exit at h
  split at h
  . next hpc =>
    unfold callExit at h
    split at h
    . next hsignal =>
      cases h
      exact .callHandler hpc hsignal
    . next phase hfailed =>
      cases h
      exact .callAnalysis phase hpc hfailed
    . cases h
  . next hpc =>
    cases h
    exact .cancelSignals caller _ hpc
  . next hpc =>
    split at h
    . next hstopped =>
      cases h
      exact .alreadyStopped caller hpc hstopped
    . next hrunning =>
      cases h
      exact .exchangeStopped caller _ hpc (Bool.eq_false_iff.mpr hrunning) rfl
  . next hpc =>
    cases h
    exact .stopMonitor caller hpc
  . next hpc =>
    simp only [Option.map_eq_some_iff] at h
    rcases h with ⟨daq, hdaq, rfl⟩
    exact .abortQueue caller daq hpc hdaq
  . next hpc =>
    cases h
    exact .storeAcqOff caller hpc
  . next pc a hpc =>
    unfold waitForStatus at h
    split at h
    . next pc' hwait =>
      cases h
      exact .waitReading caller a pc pc' hpc hwait
    . next hwait =>
      cases h
      exact .isNotReading caller a pc hpc hwait
    . next hwait =>
      cases h
      exact .timeOutReading caller a pc hpc hwait
    . cases h
  . next pc a hpc =>
    unfold waitForStatus at h
    split at h
    . next pc' hwait =>
      cases h
      exact .waitAcqOn caller a pc pc' hpc hwait
    . next hwait =>
      cases h
      exact .isAcqOn caller a pc hpc hwait
    . next hwait =>
      cases h
      exact .timeOutAcqOn caller a pc hpc hwait
    . cases h
  . next hpc =>
    unfold listenStopper at h
    split at h
    . next stopper hlisten =>
      cases h
      exact .listenStopper caller stopper hpc hlisten
    . cases h
  . next hpc =>
    cases h
    exact .listenFails caller hpc
  . next hpc =>
    unfold sendAcqOff at h
    split at h
    . cases h
    . next stopper hstopper =>
      cases h
      exact .sendAcqOff caller stopper hpc hstopper
  . next hpc =>
    cases h
    exact .storeAcqOn caller hpc
  . next hpc =>
    cases h
    exact .resetGuard caller hpc
  . cases h

theorem exitRun_exit_of_ne {cfg : Config} {app app' : App bufferSize} {caller other : ExitCaller}
    {a : ExitAction} (h : app.exit cfg caller a = some app') (hne : other ≠ caller)
    : app'.exitRun other = app.exitRun other := by
  cases exit_effect h with
  | callHandler hpc hsignal =>
    cases other with
    | handler => contradiction
    | analysis => rfl
  | callAnalysis phase hpc hfailed =>
    cases other with
    | handler => rfl
    | analysis => contradiction
  | _ => exact exitRun_setExitRun_of_ne _ _ hne

/-
The steps of the application.
-/

def startUpRaises (cfg : Config) (app : App bufferSize) (succeeds : Bool) : Bool :=
  match app.mainPc, succeeds, cfg.outputs with
  | .setRemoteEndpoint, false, _ => true
  | .setOutputFilenames, _, .raised _ _ => true
  | .listenReader, false, _ => true
  | .listenStarter, false, _ => true
  | _, _, _ => false

inductive Effect (cfg : Config) (app : App bufferSize) : Action bufferSize → App bufferSize → Prop where
  | setRemoteEndpoint (hpc : app.mainPc = .setRemoteEndpoint)
    : Effect cfg app (.main true) { app with mainPc := .setOutputFilenames }
  | setOutputFilenames (succeeds) (hpc : app.mainPc = .setOutputFilenames)
    : Effect cfg app (.main succeeds) { app with mainPc := .storeReading }
  | storeReading (succeeds) (hpc : app.mainPc = .storeReading)
    : Effect cfg app (.main succeeds)
        { app with status := { app.status with isReading := true }, mainPc := .listenReader }
  | listenReader (daq) (hpc : app.mainPc = .listenReader) (hdaq : app.daq.listen = some daq)
    : Effect cfg app (.main true)
        { app with
          daq := daq
          readerListen := .running
          readerSignal := .starting
          mainPc := .listenStarter }
  | switchOn (starter) (hpc : app.mainPc = .listenStarter)
    (hlisten : app.starter.listen (fun _ => app.controlPortFree) = .returned starter)
    : Effect cfg app (.main true)
        { app with
          starter := starter
          starterListen := .running
          starterSignal := .starting
          mainPc := .sendAcqOn }
  | sendAcqOn (succeeds) (hpc : app.mainPc = .sendAcqOn)
    : Effect cfg app (.main succeeds)
        { app with
          starter := app.starter.encodeWriteMsg cfg.daq.zpp [0, 15, 1] nullAddress
          mainPc := .startProcessor }
  | start (daq) (hpc : app.mainPc = .startProcessor) (hdaq : app.daq.start = some daq)
    : Effect cfg app (.main true) { app with daq := daq, mainPc := .join }
  | startRaises (daq) (hpc : app.mainPc = .startProcessor) (hdaq : app.daq.startRaises = some daq)
    : Effect cfg app (.main false) { app with daq := daq, mainPc := .unwind }
  | raises (succeeds) (hraises : app.startUpRaises cfg succeeds = true)
    : Effect cfg app (.main succeeds) { app with mainPc := .unwind }
  | joined (succeeds) (hpc : app.mainPc = .join) (hdone : app.poolIsDone = true)
    : Effect cfg app (.main succeeds) { app with mainPc := .joined }
  | unwound (succeeds) (hpc : app.mainPc = .unwind) (hdone : app.poolIsDone = true)
    : Effect cfg app (.main succeeds) { app with mainPc := .unwound }
  | signal (sig) : Effect cfg app (.signal sig) (app.signal sig)
  | daq (a) (daq) (hown : app.isOwn a = true) (hdaq : app.daq.next cfg.daq a = some daq)
    : Effect cfg app (.daq a) { app with daq := daq }
  | receiveReply (hpc : app.starterListen = .running) (hopen : app.starter.isOpen = true)
    : Effect cfg app .receiveReply { app with starterListen := .closeSocket, starterReplied := true }
  | armSignal (c) (hpc : app.coroutinePc c = .starting)
    : Effect cfg app (.coroutine c) (app.setCoroutinePc c .running)
  | leaveReading (hpc : app.readerListen = .running) (hleft : app.daq.listenPc = .left)
    : Effect cfg app (.coroutine .readerListen) (app.setCoroutinePc .readerListen .closeSocket)
  | closeSocket (c) (closed) (hpc : app.coroutinePc c = .closeSocket)
    (hclosed : app.closeSocket c = some closed)
    : Effect cfg app (.coroutine c) (closed.setCoroutinePc c .storeStatus)
  | storeStatus (c) (hpc : app.coroutinePc c = .storeStatus)
    : Effect cfg app (.coroutine c) ((app.storeStatus c).setCoroutinePc c .notify)
  | notify (c) (hpc : app.coroutinePc c = .notify)
    : Effect cfg app (.coroutine c) (app.notifyStatusChange.setCoroutinePc c .ended)
  | cancelCoroutine (c) (hcancel : app.canCancel c = true)
    : Effect cfg app (.cancelCoroutine c) (app.setCoroutinePc c .ended)
  | exit (caller) (a) (app') (heffect : ExitEffect cfg app caller a app')
    : Effect cfg app (.exit caller a) app'
  | endStopper (caller) (hpc : (app.exitRun caller).pc ≠ .sendAcqOff)
    : Effect cfg app (.endStopper caller)
        (app.setExitRun caller { app.exitRun caller with stopper := none })

variable {cfg : Config} {app app' : App bufferSize}

theorem main_effect {succeeds : Bool} (h : app.main cfg succeeds = some app')
    : Effect cfg app (.main succeeds) app' := by
  unfold main at h
  split at h
  . next hpc =>
    cases h
    exact .setRemoteEndpoint hpc
  . next hpc =>
    cases h
    exact .raises _ (by simp [startUpRaises, hpc])
  . next hpc =>
    split at h
    . cases h
      exact .setOutputFilenames _ hpc
    . next houtputs =>
      cases h
      exact .raises _ (by simp [startUpRaises, hpc, houtputs])
  . next hpc =>
    cases h
    exact .storeReading _ hpc
  . next hpc =>
    simp only [Option.map_eq_some_iff] at h
    rcases h with ⟨daq, hdaq, rfl⟩
    exact .listenReader daq hpc hdaq
  . next hpc =>
    cases h
    exact .raises _ (by simp [startUpRaises, hpc])
  . next hpc =>
    unfold App.switchOn at h
    split at h
    . next starter hlisten =>
      cases h
      exact .switchOn starter hpc hlisten
    . cases h
  . next hpc =>
    cases h
    exact .raises _ (by simp [startUpRaises, hpc])
  . next hpc =>
    cases h
    exact .sendAcqOn _ hpc
  . next hpc =>
    simp only [Option.map_eq_some_iff] at h
    rcases h with ⟨daq, hdaq, rfl⟩
    exact .start daq hpc hdaq
  . next hpc =>
    simp only [Option.map_eq_some_iff] at h
    rcases h with ⟨daq, hdaq, rfl⟩
    exact .startRaises daq hpc hdaq
  . next hpc =>
    split at h
    . next hdone =>
      cases h
      exact .joined _ hpc hdone
    . cases h
  . next hpc =>
    split at h
    . next hdone =>
      cases h
      exact .unwound _ hpc hdone
    . cases h
  . cases h
  . cases h

theorem coroutine_effect {c : Coroutine} (h : app.coroutine c = some app')
    : Effect cfg app (.coroutine c) app' := by
  unfold App.coroutine at h
  split at h
  . next hpc =>
    cases h
    exact .armSignal c hpc
  . next hpc =>
    split at h
    . next hleft =>
      cases h
      simp only [Bool.and_eq_true, decide_eq_true_eq] at hleft
      rcases hleft with ⟨rfl, hleft⟩
      exact .leaveReading hpc hleft
    . cases h
  . next hpc =>
    simp only [Option.map_eq_some_iff] at h
    rcases h with ⟨closed, hclosed, rfl⟩
    exact .closeSocket c closed hpc hclosed
  . next hpc =>
    cases h
    exact .storeStatus c hpc
  . next hpc =>
    cases h
    exact .notify c hpc
  . cases h

theorem next_effect {a : Action bufferSize} (h : next cfg app a = some app')
    : Effect cfg app a app' := by
  cases a with
  | main succeeds => apply main_effect h
  | signal sig =>
    cases h
    exact .signal sig
  | daq a =>
    simp only [next, acquire] at h
    split at h
    . next hown =>
      simp only [Option.map_eq_some_iff] at h
      rcases h with ⟨daq, hdaq, rfl⟩
      exact .daq a daq hown hdaq
    . cases h
  | receiveReply =>
    simp only [next, App.receiveReply] at h
    split at h
    . next hreply =>
      cases h
      simp only [Bool.and_eq_true, decide_eq_true_eq] at hreply
      exact .receiveReply hreply.1 hreply.2
    . cases h
  | coroutine c => apply coroutine_effect h
  | cancelCoroutine c =>
    simp only [next, App.cancelCoroutine] at h
    split at h
    . next hcancel =>
      cases h
      exact .cancelCoroutine c hcancel
    . cases h
  | exit caller a => exact .exit caller a app' (exit_effect h)
  | endStopper caller =>
    simp only [next, App.endStopper] at h
    split at h
    . cases h
    . cases h
    . next hpc =>
      cases h
      exact .endStopper caller hpc

/-
What all of them leave behind.
-/

def SameExits (app app' : App bufferSize) : Prop :=
  app'.handlerExit = app.handlerExit ∧ app'.analysisExit = app.analysisExit ∧
  app'.acqOffIssued = app.acqOffIssued

theorem SameExits.exitRun (h : SameExits app app') (caller : ExitCaller)
    : app'.exitRun caller = app.exitRun caller := by
  cases caller with
  | handler => apply h.1
  | analysis => apply h.2.1

inductive Touched (run : ExitRun) : ExitRun → Prop where
  | same : Touched run run
  | notified : Touched run { run with pc := ExitPc.notify run.pc }
  | stopperEnded (hpc : run.pc ≠ .sendAcqOff) : Touched run { run with stopper := none }

/--
What a step that is not a step of `exit` leaves behind.
-/
structure Beside (cfg : Config) (app app' : App bufferSize) : Prop where
  daq : app'.daq = app.daq ∨ ∃ b, app.daq.next cfg.daq b = some app'.daq
  acqOffIssued : app'.acqOffIssued = app.acqOffIssued
  exitRun : ∀ caller, Touched (app.exitRun caller) (app'.exitRun caller)

theorem SameExits.beside (h : SameExits app app')
    (hdaq : app'.daq = app.daq ∨ ∃ b, app.daq.next cfg.daq b = some app'.daq)
    : Beside cfg app app' where
  daq := hdaq
  acqOffIssued := h.2.2
  exitRun := by
    intro caller
    rw [h.exitRun caller]
    exact .same

theorem Beside.setCoroutinePc (h : Beside cfg app app') (c : Coroutine) (pc : CoroutinePc)
    : Beside cfg app (app'.setCoroutinePc c pc) := by
  cases c <;> exact ⟨h.daq, h.acqOffIssued, h.exitRun⟩

theorem beside_closeSocket {c : Coroutine} (h : app.closeSocket c = some app')
    : Beside cfg app app' := by
  cases c with
  | readerListen =>
    cases h
    exact SameExits.beside ⟨rfl, rfl, rfl⟩ (Or.inr ⟨.closeSocket, rfl⟩)
  | readerSignal =>
    cases h
    exact SameExits.beside ⟨rfl, rfl, rfl⟩ (Or.inr ⟨.closeSocket, rfl⟩)
  | starterListen =>
    cases h
    exact SameExits.beside ⟨rfl, rfl, rfl⟩ (Or.inl rfl)
  | starterSignal =>
    cases h
    exact SameExits.beside ⟨rfl, rfl, rfl⟩ (Or.inl rfl)

theorem beside_storeStatus (app : App bufferSize) (c : Coroutine)
    : Beside cfg app (app.storeStatus c) := by
  cases c <;> exact SameExits.beside ⟨rfl, rfl, rfl⟩ (Or.inl rfl)

theorem touched_notifyStatusChange (app : App bufferSize) (caller : ExitCaller)
    : Touched (app.exitRun caller) (app.notifyStatusChange.exitRun caller) := by
  cases caller with
  | handler => exact .notified
  | analysis => exact .notified

theorem beside_notifyStatusChange (app : App bufferSize)
    : Beside cfg app app.notifyStatusChange where
  daq := Or.inl rfl
  acqOffIssued := by rfl
  exitRun := touched_notifyStatusChange app

theorem beside_endStopper {caller : ExitCaller} (hpc : (app.exitRun caller).pc ≠ .sendAcqOff)
    : Beside cfg app (app.setExitRun caller { app.exitRun caller with stopper := none }) where
  daq := by simp
  acqOffIssued := by simp
  exitRun := by
    intro other
    by_cases heq : other = caller
    . subst heq
      rw [exitRun_setExitRun]
      exact .stopperEnded hpc
    . rw [exitRun_setExitRun_of_ne _ _ heq]
      exact .same

theorem exit_or_beside {a : Action bufferSize} (h : next cfg app a = some app')
    : (∃ caller b, a = .exit caller b) ∨ Beside cfg app app' := by
  have hsame : Beside cfg app app := SameExits.beside ⟨rfl, rfl, rfl⟩ (Or.inl rfl)
  cases next_effect h with
  | exit caller b _ heffect => exact Or.inl ⟨caller, b, rfl⟩
  | listenReader daq hpc hdaq =>
    exact Or.inr (SameExits.beside ⟨rfl, rfl, rfl⟩ (Or.inr ⟨.listen, hdaq⟩))
  | start daq hpc hdaq =>
    exact Or.inr (SameExits.beside ⟨rfl, rfl, rfl⟩ (Or.inr ⟨.start, hdaq⟩))
  | startRaises daq hpc hdaq =>
    exact Or.inr (SameExits.beside ⟨rfl, rfl, rfl⟩ (Or.inr ⟨.startRaises, hdaq⟩))
  | daq a daq hown hdaq =>
    exact Or.inr (SameExits.beside ⟨rfl, rfl, rfl⟩ (Or.inr ⟨a, hdaq⟩))
  | armSignal c hpc => apply Or.inr (hsame.setCoroutinePc c .running)
  | leaveReading hpc hleft => apply Or.inr (hsame.setCoroutinePc .readerListen .closeSocket)
  | closeSocket c closed hpc hclosed =>
    apply Or.inr ((beside_closeSocket hclosed).setCoroutinePc c .storeStatus)
  | storeStatus c hpc => apply Or.inr ((beside_storeStatus app c).setCoroutinePc c .notify)
  | notify c hpc => apply Or.inr ((beside_notifyStatusChange app).setCoroutinePc c .ended)
  | cancelCoroutine c hcancel => apply Or.inr (hsame.setCoroutinePc c .ended)
  | endStopper caller hpc => apply Or.inr (beside_endStopper hpc)
  | _ => exact Or.inr (SameExits.beside ⟨rfl, rfl, rfl⟩ (Or.inl rfl))

theorem daq_exit {caller : ExitCaller} {a : ExitAction} (h : app.exit cfg caller a = some app')
    : app'.daq = app.daq ∨
        ∃ b, (b = .exchangeStopped ∨ b = .abortQueue) ∧ app.daq.next cfg.daq b = some app'.daq := by
  cases exit_effect h with
  | exchangeStopped _ daq _ _ hdaq =>
    rw [setExitPc, daq_setExitRun]
    exact Or.inr ⟨.exchangeStopped, Or.inl rfl, hdaq⟩
  | abortQueue _ daq _ hdaq =>
    rw [setExitPc, daq_setExitRun]
    exact Or.inr ⟨.abortQueue, Or.inr rfl, hdaq⟩
  | _ => simp [setExitPc]

theorem daq_next {a : Action bufferSize} (h : next cfg app a = some app')
    : app'.daq = app.daq ∨ ∃ b, app.daq.next cfg.daq b = some app'.daq := by
  rcases exit_or_beside h with ⟨caller, b, rfl⟩ | hbeside
  . rcases daq_exit h with hsame | ⟨b, _, hdaq⟩
    . exact Or.inl hsame
    . exact Or.inr ⟨b, hdaq⟩
  . apply hbeside.daq

def acquisition (bufferSize : Nat) (cfg : Config)
    : (system bufferSize cfg).Projection
        (Acquisition.system bufferSize cfg.daq cfg.outputs.state) where
  view app := app.daq
  view_init := by rfl
  view_next := by
    intro app a app' h
    apply daq_next h

end App

end Srs
