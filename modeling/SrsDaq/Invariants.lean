import SrsDaq.Acknowledgement
import SrsDaq.StartRace

/-!
This module contains what holds in every state of the application of how far the start-up has come
and what the calls of `exit` have done.
-/

namespace Srs

namespace App

variable {bufferSize : Nat} {cfg : Config} {app app' : App bufferSize}

theorem mainPc_next {a : Action bufferSize} (h : next cfg app a = some app')
    : app'.mainPc = app.mainPc ∨ ∃ succeeds, a = .main succeeds := by
  cases next_effect h with
  | exit caller b _ heffect => exact Or.inl (exit_keeps h).1
  | closeSocket c closed hpc hclosed => cases c <;> cases hclosed <;> exact Or.inl rfl
  | storeStatus c hpc => cases c <;> exact Or.inl rfl
  | notify c hpc => cases c <;> exact Or.inl rfl
  | signal sig => exact Or.inl rfl
  | daq a daq hown hdaq => exact Or.inl rfl
  | receiveReply hpc hopen => exact Or.inl rfl
  | armSignal c hpc => simp
  | leaveReading hpc hleft => exact Or.inl rfl
  | cancelCoroutine c hcancel => simp
  | endStopper caller hpc => simp
  | _ => exact Or.inr ⟨_, rfl⟩

/--
How far `main` has come. It unwinds from anywhere short of the join.
-/
def stage : MainPc → Nat
  | .setRemoteEndpoint => 0
  | .setOutputFilenames => 1
  | .storeReading => 2
  | .listenReader => 3
  | .listenStarter => 4
  | .sendAcqOn => 5
  | .startProcessor => 6
  | .unwind => 7
  | .unwound => 8
  | .join => 9
  | .joined => 10

theorem stage_of_startUpRaises {succeeds : Bool} (h : app.startUpRaises cfg succeeds = true)
    : stage app.mainPc ≤ stage .listenStarter := by
  unfold startUpRaises at h
  split at h
  . next hpc => simp [hpc, stage]
  . next hpc _ => simp [hpc, stage]
  . next hpc => simp [hpc, stage]
  . next hpc => simp [hpc, stage]
  . cases h

theorem stage_next {a : Action bufferSize} (h : next cfg app a = some app')
    : stage app.mainPc ≤ stage app'.mainPc := by
  rcases mainPc_next h with hsame | ⟨succeeds, rfl⟩
  . rw [hsame]
  . cases next_effect h with
    | raises _ hraises =>
      apply Nat.le_trans (stage_of_startUpRaises hraises)
      simp [stage]
    | setRemoteEndpoint hpc
    | setOutputFilenames _ hpc
    | storeReading _ hpc
    | listenReader _ hpc _
    | switchOn _ hpc _
    | sendAcqOn _ hpc
    | start _ hpc _
    | startRaises _ hpc _
    | joined _ hpc _
    | unwound _ hpc _ => simp [stage, hpc]

/-
The analysis loop.
-/

/--
The loop runs, and may call `exit`, only behind the start of it.
-/
def LoopInv (app : App bufferSize) : Prop :=
  stage app.mainPc < stage .join →
    app.daq.loopPc = .notPosted ∧ (app.exitRun .analysis).pc = .notCalled

theorem daq_exit_of_ne {caller : ExitCaller} {a : ExitAction} {b : Acquisition.Action bufferSize}
    (hstop : b ≠ .exchangeStopped) (habort : b ≠ .abortQueue) (h : app.exit cfg caller a = some app')
    : app'.daq = app.daq ∨ ∃ c, c ≠ b ∧ app.daq.next cfg.daq c = some app'.daq := by
  rcases daq_exit h with hsame | ⟨c, rfl | rfl, hdaq⟩
  . exact Or.inl hsame
  . exact Or.inr ⟨.exchangeStopped, hstop.symm, hdaq⟩
  . exact Or.inr ⟨.abortQueue, habort.symm, hdaq⟩

theorem notPosted_next {a : Action bufferSize} (hpc : app.daq.loopPc = .notPosted)
    (h : next cfg app a = some app')
    : app'.daq.loopPc = .notPosted ∨ app'.mainPc = .join := by
  have hdaq {b : Acquisition.Action bufferSize} {daq : Acquisition bufferSize} (hstart : b ≠ .start)
      (hnext : app.daq.next cfg.daq b = some daq)
      : daq.loopPc = .notPosted :=
    Acquisition.notPosted_next hpc hstart hnext
  cases next_effect h with
  | start daq hmain hnext => exact Or.inr rfl
  | listenReader daq hmain hnext => exact Or.inl (hdaq (b := .listen) (by simp) hnext)
  | startRaises daq hmain hnext => exact Or.inl (hdaq (b := .startRaises) (by simp) hnext)
  | daq b daq hown hnext =>
    refine Or.inl (hdaq ?_ hnext)
    rintro rfl
    cases hown
  | exit caller b _ heffect =>
    rcases daq_exit_of_ne (b := .start) (by simp) (by simp) h with hsame | ⟨c, hstart, hnext⟩
    . rw [hsame]
      exact Or.inl hpc
    . exact Or.inl (hdaq hstart hnext)
  | closeSocket c closed hclosing hclosed =>
    cases c <;> cases hclosed <;> exact Or.inl hpc
  | armSignal c _ | storeStatus c _ | notify c _ | cancelCoroutine c _ =>
    cases c <;> exact Or.inl hpc
  | endStopper caller _ => cases caller <;> exact Or.inl hpc
  | _ => exact Or.inl hpc

theorem loopInv_next {a : Action bufferSize} (hinv : app.LoopInv) (h : next cfg app a = some app')
    : app'.LoopInv := by
  intro hstage
  rcases hinv (Nat.lt_of_le_of_lt (stage_next h) hstage) with ⟨hpc, hexit⟩
  constructor
  . rcases notPosted_next hpc h with hpc' | hjoin
    . exact hpc'
    . simp [hjoin] at hstage
  . apply notCalled_next hexit _ h
    rintro rfl
    cases next_effect h with
    | exit _ _ _ heffect =>
      cases heffect with
      | callAnalysis phase _ hfailed =>
        rw [hpc] at hfailed
        cases hfailed

/-
The calls of `exit`.
-/

structure RunInv (isAcqOff ioWorkGuard : Bool) (run : ExitRun) : Prop where
  off : ∀ pc, run.pc = .waitReading pc → isAcqOff = true
  early : phase run.pc ≤ 3 → run.stopper = none
  sending : run.pc = .sendAcqOff → run.stopper.isSome = true
  returned : run.pc = .returned → ioWorkGuard = false

structure ExitInv (app : App bufferSize) : Prop where
  runs : ∀ caller, RunInv app.status.isAcqOff app.ioWorkGuard (app.exitRun caller)
  released : app.ioWorkGuard = false → ∃ caller, (app.exitRun caller).pc = .returned
  waiting : app.signalWait = .armed ∨ app.signalWait = .queued → app.handlerExit.pc = .notCalled

theorem RunInv.touched {isAcqOff ioWorkGuard : Bool} {run run' : ExitRun}
    (h : RunInv isAcqOff ioWorkGuard run) (htouched : Touched run run')
    : RunInv isAcqOff ioWorkGuard run' := by
  rcases run with ⟨pc, stopper⟩
  cases htouched with
  | same => exact h
  | notified =>
    cases pc with
    | waitReading pc =>
      simp only [ExitPc.notify]
      exact ⟨fun _ _ => h.off pc rfl, fun _ => h.early (by simp [phase]), by simp, by simp⟩
    | waitAcqOn pc =>
      simp only [ExitPc.notify]
      exact ⟨by simp, fun _ => h.early (by simp [phase]), by simp, by simp⟩
    | _ => exact ⟨h.off, h.early, h.sending, h.returned⟩
  | stopperEnded hpc => exact ⟨h.off, fun _ => rfl, fun hsending => absurd hsending hpc, h.returned⟩

theorem returned_of_touched {run run' : ExitRun} (h : Touched run run') (hpc : run.pc = .returned)
    : run'.pc = .returned := by
  cases h with
  | same => exact hpc
  | notified => simp [ExitPc.notify, hpc]
  | stopperEnded _ => exact hpc

theorem runInv_exit {caller : ExitCaller} {a : ExitAction} (hinv : app.ExitInv)
    (h : app.exit cfg caller a = some app')
    : RunInv app'.status.isAcqOff app'.ioWorkGuard (app'.exitRun caller) := by
  have hrun := hinv.runs caller
  cases exit_effect h with
  | callHandler hpc hsignal =>
    have hnone := hrun.early (by simp [exitRun, hpc, phase])
    simp only [exitRun]
    exact ⟨by simp, fun _ => hnone, by simp, by simp⟩
  | callAnalysis _ hpc hfailed =>
    have hnone := hrun.early (by simp [exitRun, hpc, phase])
    simp only [exitRun]
    exact ⟨by simp, fun _ => hnone, by simp, by simp⟩
  | cancelSignals _ _ hpc
  | alreadyStopped _ hpc _
  | exchangeStopped _ _ hpc _ _
  | stopMonitor _ hpc
  | abortQueue _ _ hpc _
  | isNotReading _ _ _ hpc _
  | waitAcqOn _ _ _ _ hpc _
  | isAcqOn _ _ _ hpc _ =>
    have hnone := hrun.early (by simp [hpc, phase])
    simp only [setExitPc, exitRun_setExitRun]
    exact ⟨by simp, fun _ => hnone, by simp, by simp⟩
  | storeAcqOff _ hpc =>
    have hnone := hrun.early (by simp [hpc, phase])
    simp only [setExitPc, exitRun_setExitRun, status_setExitRun]
    exact ⟨fun _ _ => rfl, fun _ => hnone, by simp, by simp⟩
  | waitReading _ _ pc _ hpc _ =>
    have hnone := hrun.early (by simp [hpc, phase])
    simp only [setExitPc, exitRun_setExitRun, status_setExitRun]
    exact ⟨fun _ _ => hrun.off pc hpc, fun _ => hnone, by simp, by simp⟩
  | timeOutReading _ _ _ hpc _
  | timeOutAcqOn _ _ _ hpc _
  | listenFails _ hpc =>
    simp only [setExitPc, exitRun_setExitRun]
    exact ⟨by simp, by simp [phase], by simp, by simp⟩
  | listenStopper _ stopper hpc hlisten =>
    simp only [exitRun_setExitRun]
    exact ⟨by simp, by simp [phase], fun _ => rfl, by simp⟩
  | sendAcqOff _ stopper hpc hstopper =>
    simp only [exitRun_setExitRun]
    exact ⟨by simp, by simp [phase], by simp, by simp⟩
  | storeAcqOn _ hpc =>
    simp only [setExitPc, exitRun_setExitRun]
    exact ⟨by simp, by simp [phase], by simp, by simp⟩
  | resetGuard _ hpc =>
    simp only [setExitPc, exitRun_setExitRun, ioWorkGuard_setExitRun]
    exact ⟨by simp, by simp [phase], by simp, fun _ => rfl⟩

theorem guards_exit {caller : ExitCaller} {a : ExitAction} (h : app.exit cfg caller a = some app')
    : (app.status.isAcqOff = true → app'.status.isAcqOff = true) ∧
      (app'.ioWorkGuard = app.ioWorkGuard ∨
        app'.ioWorkGuard = false ∧ (app'.exitRun caller).pc = .returned) := by
  cases exit_effect h with
  | resetGuard _ hpc => simp [setExitPc]
  | _ => simp [setExitPc]

theorem not_returned_of_exit {caller : ExitCaller} {a : ExitAction}
    (h : app.exit cfg caller a = some app')
    : (app.exitRun caller).pc ≠ .returned := by
  intro hpc
  simp [exit, hpc] at h

theorem signalWait_exit {caller : ExitCaller} {a : ExitAction}
    (h : app.exit cfg caller a = some app')
    : app'.signalWait = app.signalWait ∨ caller = .handler ∧ app'.signalWait = .handled ∨
      app.signalWait = .armed ∧ app'.signalWait = .cancelled := by
  by_cases hpc : (app.exitRun caller).pc = .cancelSignals
  . cases a <;> simp only [exit, hpc] at h <;> cases h
    rw [setExitPc, signalWait_setExitRun]
    split
    . next harmed => exact Or.inr (Or.inr ⟨harmed, rfl⟩)
    . exact Or.inl rfl
  . cases exit_effect h with
    | cancelSignals _ _ hcancel => contradiction
    | callHandler _ _ => exact Or.inr (Or.inl ⟨rfl, rfl⟩)
    | _ => simp [setExitPc]

theorem exitInv_exit {caller : ExitCaller} {a : ExitAction} (hinv : app.ExitInv)
    (h : app.exit cfg caller a = some app')
    : app'.ExitInv := by
  have hnext : next cfg app (.exit caller a) = some app' := h
  rcases guards_exit h with ⟨hoff, hguard⟩
  constructor
  . intro other
    by_cases heq : other = caller
    . subst heq
      apply runInv_exit hinv h
    . rw [exitRun_exit_of_ne h heq]
      have hrun := hinv.runs other
      refine ⟨fun pc hpc => hoff (hrun.off pc hpc), hrun.early, hrun.sending, ?_⟩
      intro hpc
      rcases hguard with hguard | ⟨hguard, _⟩
      . rw [hguard]
        apply hrun.returned hpc
      . exact hguard
  . intro hreleased
    rcases hguard with hguard | ⟨_, hreturned⟩
    . rw [hguard] at hreleased
      rcases hinv.released hreleased with ⟨other, hpc⟩
      refine ⟨other, ?_⟩
      rw [exitRun_exit_of_ne h]
      . exact hpc
      . rintro rfl
        apply not_returned_of_exit h hpc
    . exact ⟨caller, hreturned⟩
  . intro hwaiting
    rcases signalWait_exit h with hsame | ⟨_, hsame⟩ | ⟨_, hsame⟩
    . rw [hsame] at hwaiting
      apply notCalled_next (c := .handler) (hinv.waiting hwaiting) _ hnext
      intro hcall
      injection hcall with hcaller haction
      subst hcaller haction
      cases exit_effect h with
      | callHandler hpc hsignal =>
        simp at hsame
        simp [← hsame] at hsignal
    . simp [hsame] at hwaiting
    . simp [hsame] at hwaiting

theorem guards_beside {a : Action bufferSize} (h : next cfg app a = some app')
    (hbeside : ¬ ∃ caller b, a = .exit caller b)
    : app'.status.isAcqOff = app.status.isAcqOff ∧ app'.ioWorkGuard = app.ioWorkGuard ∧
      (app'.signalWait = app.signalWait ∨ app.signalWait = .armed ∧ ∃ sig, a = .signal sig) := by
  cases next_effect h with
  | exit caller b _ heffect => exact absurd ⟨caller, b, rfl⟩ hbeside
  | signal sig =>
    refine ⟨rfl, rfl, ?_⟩
    simp only [App.signal]
    split
    . next harmed => exact Or.inr ⟨harmed, sig, rfl⟩
    . exact Or.inl rfl
  | closeSocket c closed _ hclosed => cases c <;> cases hclosed <;> exact ⟨rfl, rfl, Or.inl rfl⟩
  | armSignal c _ | storeStatus c _ | notify c _ | cancelCoroutine c _ =>
    cases c <;> exact ⟨rfl, rfl, Or.inl rfl⟩
  | endStopper caller _ => cases caller <;> exact ⟨rfl, rfl, Or.inl rfl⟩
  | _ => exact ⟨rfl, rfl, Or.inl rfl⟩

theorem exitInv_next {a : Action bufferSize} (hinv : app.ExitInv) (h : next cfg app a = some app')
    : app'.ExitInv := by
  by_cases hexit : ∃ caller b, a = .exit caller b
  . rcases hexit with ⟨caller, b, rfl⟩
    apply exitInv_exit hinv h
  . rcases guards_beside h hexit with ⟨hoff, hguard, hsignal⟩
    have htouched := ((exit_or_beside h).resolve_left hexit).exitRun
    constructor
    . intro caller
      rw [hoff, hguard]
      apply (hinv.runs caller).touched (htouched caller)
    . intro hreleased
      rw [hguard] at hreleased
      rcases hinv.released hreleased with ⟨caller, hpc⟩
      exact ⟨caller, returned_of_touched (htouched caller) hpc⟩
    . intro hwaiting
      have hwaiting' : app.signalWait = .armed ∨ app.signalWait = .queued := by
        rcases hsignal with hsame | ⟨harmed, _⟩
        . rw [← hsame]
          exact hwaiting
        . exact Or.inl harmed
      apply notCalled_next (c := .handler) (hinv.waiting hwaiting') _ h
      rintro rfl
      exact hexit ⟨_, _, rfl⟩

/-
Before there is a Starter.
-/

/--
Nobody turns the acquisition on, and no call of `exit` gets past the wait for it.
-/
structure NoStarter (app : App bufferSize) : Prop where
  listen : app.starterListen = .notSpawned
  signal : app.starterSignal = .notSpawned
  acqOn : app.status.isAcqOn = false
  guard : app.ioWorkGuard = true
  exits : ∀ caller, app.phases caller ≤ 2 ∨ app.phases caller = 8

theorem phases_exit_of_acqOff {caller : ExitCaller} {a : ExitAction}
    (hacq : app.status.isAcqOn = false)
    (hphase : app.phases caller ≤ 2 ∨ app.phases caller = 8) (h : app.exit cfg caller a = some app')
    : app'.phases caller ≤ 2 ∨ app'.phases caller = 8 := by
  unfold phases at *
  cases exit_effect h with
  | isAcqOn _ _ pc hpc hwait =>
    cases WaitPc.next_effect hwait with
    | found hfound =>
      rw [hacq] at hfound
      cases hfound
  | listenStopper _ _ hpc _ => simp [hpc, phase] at hphase
  | sendAcqOff _ _ hpc _ => simp [hpc, phase] at hphase
  | storeAcqOn _ hpc => simp [hpc, phase] at hphase
  | resetGuard _ hpc => simp [hpc, phase] at hphase
  | callHandler _ _ => simp [exitRun, phase]
  | callAnalysis _ _ _ => simp [exitRun, phase]
  | _ => simp [setExitPc, phase]

theorem starts_exit {caller : ExitCaller} {a : ExitAction} (h : app.exit cfg caller a = some app')
    : app'.starterListen = app.starterListen ∧ app'.starterSignal = app.starterSignal ∧
      (app'.status.isAcqOn = true → app.status.isAcqOn = true) := by
  cases exit_effect h <;> simp [setExitPc]

theorem noStarter_exit {caller : ExitCaller} {a : ExitAction} (hinv : app.NoStarter)
    (h : app.exit cfg caller a = some app')
    : app'.NoStarter := by
  rcases starts_exit h with ⟨hlisten, hsignal, hacq⟩
  have hexit := phases_exit_of_acqOff hinv.acqOn (hinv.exits caller) h
  constructor
  . rw [hlisten, hinv.listen]
  . rw [hsignal, hinv.signal]
  . rw [Bool.eq_false_iff]
    intro hon
    rw [hinv.acqOn] at hacq
    apply absurd (hacq hon) (by simp)
  . rcases (guards_exit h).2 with hguard | ⟨_, hreturned⟩
    . rw [hguard, hinv.guard]
    . simp [phases, hreturned, phase] at hexit
  . intro other
    by_cases heq : other = caller
    . subst heq
      exact hexit
    . rw [phases_exit_of_ne h heq]
      apply hinv.exits other

theorem noStarter_next {a : Action bufferSize} (hinv : app.NoStarter)
    (h : next cfg app a = some app')
    : app'.NoStarter ∨ app'.mainPc = .sendAcqOn := by
  by_cases hexit : ∃ caller b, a = .exit caller b
  . rcases hexit with ⟨caller, b, rfl⟩
    exact Or.inl (noStarter_exit hinv h)
  . have hexits (caller : ExitCaller) : app'.phases caller ≤ 2 ∨ app'.phases caller = 8 := by
      rw [phases_beside ((exit_or_beside h).resolve_left hexit)]
      apply hinv.exits caller
    have hguard : app'.ioWorkGuard = true := by
      rw [(guards_beside h hexit).2.1, hinv.guard]
    cases next_effect h with
    | exit caller b _ heffect => exact absurd ⟨caller, b, rfl⟩ hexit
    | switchOn starter hpc hlisten => exact Or.inr rfl
    | signal sig =>
      refine Or.inl ⟨hinv.listen, ?_, hinv.acqOn, hguard, hexits⟩
      simp [App.signal, hinv.signal]
    | receiveReply hpc hopen =>
      rw [hinv.listen] at hpc
      cases hpc
    | armSignal c hpc
    | storeStatus c hpc
    | notify c hpc =>
      cases c with
      | starterListen => cases hinv.listen.symm.trans hpc
      | starterSignal => cases hinv.signal.symm.trans hpc
      | _ => exact Or.inl ⟨hinv.listen, hinv.signal, hinv.acqOn, hguard, hexits⟩
    | closeSocket c closed hpc hclosed =>
      cases c with
      | starterListen => cases hinv.listen.symm.trans hpc
      | starterSignal => cases hinv.signal.symm.trans hpc
      | _ =>
        cases hclosed
        exact Or.inl ⟨hinv.listen, hinv.signal, hinv.acqOn, hguard, hexits⟩
    | cancelCoroutine c hcancel =>
      have hspawned := spawned_of_canCancel hcancel
      cases c with
      | starterListen => exact absurd hinv.listen hspawned
      | starterSignal => exact absurd hinv.signal hspawned
      | _ => exact Or.inl ⟨hinv.listen, hinv.signal, hinv.acqOn, hguard, hexits⟩
    | endStopper caller _ =>
      cases caller <;> exact Or.inl ⟨hinv.listen, hinv.signal, hinv.acqOn, hguard, hexits⟩
    | _ => exact Or.inl ⟨hinv.listen, hinv.signal, hinv.acqOn, hguard, hexits⟩

def UnstartedInv (app : App bufferSize) : Prop :=
  stage app.mainPc ≤ stage .listenStarter → app.NoStarter

theorem unstartedInv_next {a : Action bufferSize} (hinv : app.UnstartedInv)
    (h : next cfg app a = some app')
    : app'.UnstartedInv := by
  intro hstage
  rcases noStarter_next (hinv (Nat.le_trans (stage_next h) hstage)) h with hnone | hpc
  . exact hnone
  . simp [hpc, stage] at hstage

end App

end Srs
