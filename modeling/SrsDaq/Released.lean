import SrsDaq.FailedStart
import SrsDaq.ControlPort
import SrsDaq.Overrun

/-!
This module contains what the calls of `exit` leave behind them, up to the release of the work guard.
-/

namespace Srs

namespace App

variable {bufferSize : Nat} {cfg : Config} {app app' : App bufferSize}

def isBehindCancel : ExitPc → Bool
  | .notCalled => false
  | .cancelSignals => false
  | _ => true

def isBehindStore : ExitPc → Bool
  | .waitReading _ => true
  | .waitAcqOn _ => true
  | .listenStopper => true
  | .sendAcqOff => true
  | .storeAcqOn => true
  | .resetGuard => true
  | .returned => true
  | _ => false

structure ReleaseInv (app : App bufferSize) : Prop where
  signals : ∀ caller, isBehindCancel (app.exitRun caller).pc = true → app.signalWait ≠ .armed
  off : ∀ caller, isBehindStore (app.exitRun caller).pc = true → app.status.isAcqOff = true
  handled : app.signalWait = .handled → app.handlerExit.pc ≠ .notCalled
  reader : app.readerListen = .notSpawned → app.readerSignal = .notSpawned
  starter : app.starterListen = .notSpawned → app.starterSignal = .notSpawned

theorem armed_next {a : Action bufferSize} (harmed : app.signalWait ≠ .armed)
    (h : next cfg app a = some app')
    : app'.signalWait ≠ .armed := by
  by_cases hexit : ∃ caller b, a = .exit caller b
  . rcases hexit with ⟨caller, b, rfl⟩
    rcases signalWait_exit h with hsame | ⟨_, hhandled⟩ | ⟨harmed', _⟩
    . rw [hsame]
      exact harmed
    . simp [hhandled]
    . contradiction
  . rcases (guards_beside h hexit).2.2 with hsame | ⟨harmed', _⟩
    . rw [hsame]
      exact harmed
    . contradiction

theorem behindCancel_exit {caller : ExitCaller} {a : ExitAction}
    (h : app.exit cfg caller a = some app')
    (hbehind : isBehindCancel (app'.exitRun caller).pc = true)
    : isBehindCancel (app.exitRun caller).pc = true ∨ app'.signalWait ≠ .armed := by
  by_cases hcancel : (app.exitRun caller).pc = .cancelSignals
  . right
    cases a <;> simp only [exit, hcancel] at h <;> cases h
    rw [setExitPc, signalWait_setExitRun]
    split
    . simp
    . assumption
  . cases hpc : (app.exitRun caller).pc with
    | cancelSignals => contradiction
    | notCalled =>
      have hcall : a = .call := by
        cases a <;> simp [exit, hpc] at h ⊢
      subst hcall
      cases exit_effect h with
      | callHandler _ _ => cases hbehind
      | callAnalysis _ _ _ => cases hbehind
    | _ => exact Or.inl rfl

theorem behindStore_exit {caller : ExitCaller} {a : ExitAction}
    (h : app.exit cfg caller a = some app')
    (hbehind : isBehindStore (app'.exitRun caller).pc = true)
    : isBehindStore (app.exitRun caller).pc = true ∨ app'.status.isAcqOff = true := by
  cases exit_effect h with
  | storeAcqOff _ hpc => simp [setExitPc]
  | isNotReading _ _ _ hpc _
  | waitReading _ _ _ _ hpc _
  | waitAcqOn _ _ _ _ hpc _
  | isAcqOn _ _ _ hpc _
  | listenStopper _ _ hpc _
  | sendAcqOff _ _ hpc _
  | storeAcqOn _ hpc
  | resetGuard _ hpc => exact Or.inl (by simp [hpc, isBehindStore])
  | callHandler _ _ => cases hbehind
  | callAnalysis _ _ _ => cases hbehind
  | _ => simp [setExitPc, isBehindStore] at hbehind

theorem called_exit (caller : ExitCaller) {a : ExitAction} (h : app.exit cfg caller a = some app')
    : (app'.exitRun caller).pc ≠ .notCalled := by
  cases exit_effect h with
  | callHandler _ _ => simp [exitRun]
  | callAnalysis _ _ _ => simp [exitRun]
  | _ => simp [setExitPc]

theorem called_next (caller : ExitCaller) {a : Action bufferSize}
    (hcalled : (app.exitRun caller).pc ≠ .notCalled) (h : next cfg app a = some app')
    : (app'.exitRun caller).pc ≠ .notCalled := by
  by_cases hexit : ∃ other b, a = .exit other b
  . rcases hexit with ⟨other, b, rfl⟩
    by_cases heq : caller = other
    . subst heq
      exact called_exit caller h
    . rw [exitRun_exit_of_ne h heq]
      exact hcalled
  . have htouched := ((exit_or_beside h).resolve_left hexit).exitRun caller
    generalize app.exitRun caller = run at htouched hcalled
    generalize app'.exitRun caller = run' at htouched
    rcases run with ⟨pc, stopper⟩
    cases htouched with
    | same => exact hcalled
    | notified => cases pc <;> simp_all [ExitPc.notify]
    | stopperEnded _ => exact hcalled

theorem handled_next {a : Action bufferSize}
    (hinv : app.signalWait = .handled → app.handlerExit.pc ≠ .notCalled)
    (h : next cfg app a = some app') (hhandled : app'.signalWait = .handled)
    : app'.handlerExit.pc ≠ .notCalled := by
  have hkeeps (hsame : app'.signalWait = app.signalWait) : app'.handlerExit.pc ≠ .notCalled :=
    called_next .handler (hinv (hsame.symm.trans hhandled)) h
  by_cases hexit : ∃ caller b, a = .exit caller b
  . rcases hexit with ⟨caller, b, rfl⟩
    rcases signalWait_exit h with hsame | ⟨rfl, _⟩ | ⟨_, hcancelled⟩
    . exact hkeeps hsame
    . exact called_exit .handler h
    . cases hhandled.symm.trans hcancelled
  . rcases (guards_beside h hexit).2.2 with hsame | ⟨harmed, sig, rfl⟩
    . exact hkeeps hsame
    . cases h
      simp [App.signal, harmed] at hhandled

theorem signals_next {a : Action bufferSize} (hinv : app.ReleaseInv) (h : next cfg app a = some app')
    : (app'.readerListen = .notSpawned → app'.readerSignal = .notSpawned) ∧
      (app'.starterListen = .notSpawned → app'.starterSignal = .notSpawned) := by
  have hreader := hinv.reader
  have hstarter := hinv.starter
  cases next_effect h with
  | exit caller b _ heffect =>
    rw [(exit_keeps h).2.1, (exit_keeps h).2.2.1, (starts_exit h).1, (starts_exit h).2.1]
    exact ⟨hreader, hstarter⟩
  | listenReader _ _ _ => exact ⟨by simp, hstarter⟩
  | switchOn _ _ _ => exact ⟨hreader, by simp⟩
  | signal sig =>
    refine ⟨?_, ?_⟩
    . intro hpc
      simp [App.signal, hreader hpc]
    . intro hpc
      simp [App.signal, hstarter hpc]
  | receiveReply _ _ => exact ⟨hreader, by simp⟩
  | leaveReading _ _ => exact ⟨by simp [setCoroutinePc], hstarter⟩
  | closeSocket c closed hpc hclosed =>
    cases c <;> cases hclosed <;> simp only [coroutinePc] at hpc <;> simp_all [setCoroutinePc]
  | armSignal c hpc
  | storeStatus c hpc
  | notify c hpc =>
    cases c <;> simp only [coroutinePc] at hpc <;>
      simp_all [setCoroutinePc, notifyStatusChange, App.storeStatus]
  | cancelCoroutine c hcancel =>
    have hspawned := spawned_of_canCancel hcancel
    cases c <;> simp only [coroutinePc] at hspawned <;> simp_all [setCoroutinePc]
  | endStopper caller _ => cases caller <;> exact ⟨hreader, hstarter⟩
  | _ => exact ⟨hreader, hstarter⟩

theorem releaseInv_next {a : Action bufferSize} (hinv : app.ReleaseInv)
    (h : next cfg app a = some app')
    : app'.ReleaseInv where
  signals := by
    have hnotify (pc : ExitPc) : isBehindCancel (ExitPc.notify pc) = isBehindCancel pc := by
      cases pc <;> rfl
    exact passed_next (Q := fun app => app.signalWait ≠ .armed) hnotify
      (fun _ _ _ hexit => behindCancel_exit hexit) (fun harmed => armed_next harmed h) hinv.signals h
  off := by
    have hnotify (pc : ExitPc) : isBehindStore (ExitPc.notify pc) = isBehindStore pc := by
      cases pc <;> rfl
    exact passed_next (Q := fun app => app.status.isAcqOff = true) hnotify
      (fun _ _ _ hexit => behindStore_exit hexit) (fun hoff => isAcqOff_next hoff h) hinv.off h
  handled := handled_next hinv.handled h
  reader := (signals_next hinv h).1
  starter := (signals_next hinv h).2

theorem releaseInv_init (cfg : Config) : (init bufferSize cfg).ReleaseInv where
  signals := by
    intro caller hbehind
    cases caller <;> cases hbehind
  off := by
    intro caller hbehind
    cases caller <;> cases hbehind
  handled := by simp [init]
  reader _ := rfl
  starter _ := rfl

theorem releaseInv_reachable (h : (system bufferSize cfg).Reachable app) : app.ReleaseInv := by
  refine h.invariant (releaseInv_init cfg) ?_
  intro app a app' hinv hnext
  exact releaseInv_next hinv hnext

end App

end Srs
