import SrsDaq.ControlPort

/-!
This module contains what is left to happen once the threads are joined.
-/

namespace Srs

namespace Acquisition

variable {bufferSize : Nat} {cfg : Config} {daq daq' : Acquisition bufferSize}

def isFailed : LoopPc → Bool
  | .failed _ => true
  | _ => false

def isLeft : ListenPc → Bool
  | .left => true
  | .cancelled => true
  | _ => false

theorem isFailed_next {a : Action bufferSize} (hfailed : isFailed daq.loopPc = true)
    (h : next cfg daq a = some daq')
    : isFailed daq'.loopPc = true := by
  cases next_effect h with
  | decodeFails _ _ hpc _ => rfl
  | writeFails _ _ hpc _ => rfl
  | start hpc
  | abortPop _ hpc
  | enterLoop hpc
  | goOnPopping hpc _
  | leaveLoop hpc _
  | beginPop hpc
  | takeFrame _ _ _ hpc _
  | raiseAbort hpc
  | decode _ hpc _
  | write _ hpc _
  | finish hpc => simp [hpc, isFailed] at hfailed
  | _ => exact hfailed

/--
How far the coroutine of the Reader is, given how far what it awaits is.
-/
def Agrees : CoroutinePc → ListenPc → Prop
  | .notSpawned, pc => pc = .notSpawned
  -- it runs from its spawning on
  | .starting, _ => False
  | .running, pc => pc ≠ .notSpawned
  | _, pc => isLeft pc = true

theorem listenPc_next {a : Action bufferSize}
    (hidle : daq.listenPc = .notSpawned ∨ isLeft daq.listenPc = true) (hlisten : a ≠ .listen)
    (h : next cfg daq a = some daq')
    : daq'.listenPc = daq.listenPc := by
  cases next_effect h with
  | listen _ hpc => contradiction
  | receive _ hpc _
  | countBytes _ hpc
  | emplace _ hpc _
  | drop _ hpc _
  | resetBuffer hpc
  | goOnReading hpc
  | leaveReading hpc
  | cancelReceive hpc _ => simp [hpc, isLeft] at hidle
  | _ => rfl

theorem spawned_next {a : Action bufferSize} (hspawned : daq.listenPc ≠ .notSpawned)
    (h : next cfg daq a = some daq')
    : daq'.listenPc ≠ .notSpawned := by
  cases next_effect h with
  | listen _ hpc => contradiction
  | receive _ _ _
  | countBytes _ _
  | emplace _ _ _
  | drop _ _ _
  | resetBuffer _
  | goOnReading _
  | leaveReading _
  | cancelReceive _ _ => simp
  | _ => exact hspawned

theorem agrees_next {pc : CoroutinePc} {a : Action bufferSize} (hagrees : Agrees pc daq.listenPc)
    (hlisten : a ≠ .listen) (h : next cfg daq a = some daq')
    : Agrees pc daq'.listenPc := by
  cases pc with
  | starting => cases hagrees
  | running => exact spawned_next hagrees h
  | notSpawned =>
    rw [listenPc_next (Or.inl hagrees) hlisten h]
    exact hagrees
  | _ =>
    rw [listenPc_next (Or.inr hagrees) hlisten h]
    exact hagrees

theorem closed_next {a : Action bufferSize} (hclosed : daq.reader.isOpen = false)
    (hlisten : a ≠ .listen) (h : next cfg daq a = some daq')
    : daq'.reader.isOpen = false := by
  cases next_effect h with
  | listen _ _ => contradiction
  | closeSocket => apply ConnectionBase.isOpen_closeSocket
  | _ => exact hclosed

theorem cancelled_next {a : Action bufferSize} (h : next cfg daq a = some daq')
    (hcancelled : daq'.listenPc = .cancelled)
    : daq.listenPc = .cancelled ∨ daq.reader.isOpen = false := by
  cases next_effect h with
  | cancelReceive _ hclosed => exact Or.inr hclosed
  | listen _ _
  | receive _ _ _
  | countBytes _ _
  | emplace _ _ _
  | drop _ _ _
  | resetBuffer _
  | goOnReading _
  | leaveReading _ => cases hcancelled
  | _ => exact Or.inl hcancelled

/--
Whether the coroutine that listens on a socket has yet to open it or has lost it already.
-/
def isSettled : CoroutinePc → Bool
  | .notSpawned => true
  | .storeStatus => true
  | .notify => true
  | .ended => true
  | _ => false

structure ReaderEnd (pc : CoroutinePc) (daq : Acquisition bufferSize) : Prop where
  agrees : Agrees pc daq.listenPc
  closed : isSettled pc = true → daq.reader.isOpen = false
  cancelled : daq.listenPc = .cancelled → daq.reader.isOpen = false

theorem ReaderEnd.next {pc : CoroutinePc} {a : Action bufferSize} (hend : ReaderEnd pc daq)
    (hlisten : a ≠ .listen) (h : next cfg daq a = some daq')
    : ReaderEnd pc daq' where
  agrees := agrees_next hend.agrees hlisten h
  closed hsettled := closed_next (hend.closed hsettled) hlisten h
  cancelled hcancelled := by
    refine closed_next ?_ hlisten h
    rcases cancelled_next h hcancelled with hcancelled' | hclosed
    . exact hend.cancelled hcancelled'
    . exact hclosed

theorem readerEnd_listen (h : daq.listen = some daq') : ReaderEnd .running daq' := by
  unfold Acquisition.listen at h
  split at h
  . cases h
    exact ⟨by simp [Agrees], by simp [isSettled], by simp⟩
  . cases h

theorem ReaderEnd.leave {pc : CoroutinePc} (hend : ReaderEnd pc daq) (hleft : daq.listenPc = .left)
    : ReaderEnd .closeSocket daq where
  agrees := by rw [hleft]; rfl
  closed := by simp [isSettled]
  cancelled := hend.cancelled

theorem ReaderEnd.cancel {pc : CoroutinePc} (hend : ReaderEnd pc daq)
    (hcancelled : daq.listenPc = .cancelled)
    : ReaderEnd .ended daq where
  agrees := by rw [hcancelled]; rfl
  closed _ := hend.cancelled hcancelled
  cancelled := hend.cancelled

theorem ReaderEnd.close {pc : CoroutinePc} (hend : ReaderEnd pc daq)
    : ReaderEnd pc { daq with reader := daq.reader.closeSocket } where
  agrees := hend.agrees
  closed _ := ConnectionBase.isOpen_closeSocket daq.reader
  cancelled _ := ConnectionBase.isOpen_closeSocket daq.reader

end Acquisition

namespace App

variable {bufferSize : Nat} {cfg : Config} {app app' : App bufferSize}

/--
Where the ends of a part of the program agree on how far it is.
-/
structure EndInv (app : App bufferSize) : Prop where
  cancelled : app.signalWait = .cancelled → app.handlerExit.pc = .notCalled
  failed : app.analysisExit.pc ≠ .notCalled → Acquisition.isFailed app.daq.loopPc = true
  reading : Acquisition.ReaderEnd app.readerListen app.daq
  starting : Acquisition.isSettled app.starterListen = true → app.starter.isOpen = false

theorem cancelled_next {a : Action bufferSize} (hexits : app.ExitInv) (hinv : app.EndInv)
    (h : next cfg app a = some app') (hcancelled : app'.signalWait = .cancelled)
    : app'.handlerExit.pc = .notCalled := by
  have hcall : a ≠ .exit .handler .call := by
    rintro rfl
    have hexit : app.exit cfg .handler .call = some app' := h
    cases exit_effect hexit with
    | callHandler hpc hsignal => cases hcancelled
  refine notCalled_next (c := .handler) ?_ hcall h
  by_cases hexit : ∃ caller b, a = .exit caller b
  . rcases hexit with ⟨caller, b, rfl⟩
    rcases signalWait_exit h with hsame | ⟨_, hhandled⟩ | ⟨harmed, _⟩
    . exact hinv.cancelled (hsame.symm.trans hcancelled)
    . rw [hhandled] at hcancelled
      cases hcancelled
    . exact hexits.waiting (Or.inl harmed)
  . rcases (guards_beside h hexit).2.2 with hsame | ⟨harmed, _⟩
    . exact hinv.cancelled (hsame.symm.trans hcancelled)
    . exact hexits.waiting (Or.inl harmed)

theorem failed_next {a : Action bufferSize} (hinv : app.EndInv) (h : next cfg app a = some app')
    (hcalled : app'.analysisExit.pc ≠ .notCalled)
    : Acquisition.isFailed app'.daq.loopPc = true := by
  by_cases hpc : app.analysisExit.pc = .notCalled
  . have hcall : a = .exit .analysis .call := by
      by_contra hne
      exact hcalled (notCalled_next (c := .analysis) hpc hne h)
    subst hcall
    have hexit : app.exit cfg .analysis .call = some app' := h
    cases exit_effect hexit with
    | callAnalysis phase _ hfailed =>
      simp [hfailed, Acquisition.isFailed]
  . rcases daq_next h with hsame | ⟨b, hdaq⟩
    . rw [hsame]
      exact hinv.failed hpc
    . exact Acquisition.isFailed_next (hinv.failed hpc) hdaq

theorem reading_next {a : Action bufferSize} (hinv : app.EndInv) (h : next cfg app a = some app')
    : Acquisition.ReaderEnd app'.readerListen app'.daq := by
  have hreading := hinv.reading
  cases next_effect h with
  | listenReader daq hpc hdaq => exact Acquisition.readerEnd_listen hdaq
  | start daq hpc hdaq =>
    have hnext : app.daq.next cfg.daq .start = some daq := hdaq
    exact hreading.next (by simp) hnext
  | startRaises daq hpc hdaq =>
    have hnext : app.daq.next cfg.daq .startRaises = some daq := hdaq
    exact hreading.next (by simp) hnext
  | daq b daq hown hdaq =>
    refine hreading.next ?_ hdaq
    rintro rfl
    cases hown
  | exit caller b _ heffect =>
    rw [(exit_keeps h).2.1]
    rcases daq_exit_of_ne (b := .listen) (by simp) (by simp) h with hsame | ⟨c, hlisten, hdaq⟩
    . rw [hsame]
      exact hreading
    . exact hreading.next hlisten hdaq
  | armSignal c hpc =>
    cases c with
    | readerListen =>
      simp only [coroutinePc] at hpc
      rw [hpc] at hreading
      cases hreading.agrees
    | _ => exact hreading
  | leaveReading hpc hleft => exact hreading.leave hleft
  | closeSocket c closed hpc hclosed =>
    cases c <;> cases hclosed
    . simp only [coroutinePc] at hpc
      rw [hpc] at hreading
      exact ⟨hreading.agrees, fun _ => ConnectionBase.isOpen_closeSocket app.daq.reader,
        hreading.close.cancelled⟩
    . exact hreading.close
    . exact hreading
    . exact hreading
  | storeStatus c hpc
  | notify c hpc =>
    cases c with
    | readerListen =>
      simp only [coroutinePc] at hpc
      rw [hpc] at hreading
      exact ⟨hreading.agrees, fun _ => hreading.closed rfl, hreading.cancelled⟩
    | _ => exact hreading
  | cancelCoroutine c hcancel =>
    cases c with
    | readerListen =>
      simp only [canCancel, Bool.and_eq_true, decide_eq_true_eq] at hcancel
      exact hreading.cancel hcancel.2
    | _ => exact hreading
  | endStopper caller hpc => cases caller <;> exact hreading
  | _ => exact hreading

theorem starting_next {a : Action bufferSize} (hinv : app.EndInv) (h : next cfg app a = some app')
    (hsettled : Acquisition.isSettled app'.starterListen = true)
    : app'.starter.isOpen = false := by
  have hstarting := hinv.starting
  cases next_effect h with
  | switchOn starter hpc hlisten => cases hsettled
  | exit caller b _ heffect =>
    rw [(starts_exit h).1] at hsettled
    rw [(starter_exit h).1]
    exact hstarting hsettled
  | receiveReply hpc hopen => cases hsettled
  | armSignal c hpc =>
    cases c with
    | starterListen => cases hsettled
    | _ => exact hstarting hsettled
  | closeSocket c closed hpc hclosed =>
    cases c <;> cases hclosed
    . exact hstarting hsettled
    . exact hstarting hsettled
    . apply ConnectionBase.isOpen_closeSocket
    . apply ConnectionBase.isOpen_closeSocket
  | storeStatus c hpc
  | notify c hpc =>
    cases c with
    | starterListen =>
      simp only [coroutinePc] at hpc
      exact hstarting (by rw [hpc]; rfl)
    | _ => exact hstarting hsettled
  | cancelCoroutine c hcancel =>
    cases c with
    | starterListen =>
      simp only [canCancel, Bool.and_eq_true, Bool.not_eq_true'] at hcancel
      exact hcancel.2
    | _ => exact hstarting hsettled
  | endStopper caller hpc => cases caller <;> exact hstarting hsettled
  | _ => exact hstarting hsettled

theorem endInv_next {a : Action bufferSize} (hexits : app.ExitInv) (hinv : app.EndInv)
    (h : next cfg app a = some app')
    : app'.EndInv where
  cancelled := cancelled_next hexits hinv h
  failed := failed_next hinv h
  reading := reading_next hinv h
  starting := starting_next hinv h

theorem endInv_init (cfg : Config) : (init bufferSize cfg).EndInv where
  cancelled := by simp [init]
  failed := by simp [init]
  reading := ⟨rfl, fun _ => rfl, fun _ => rfl⟩
  starting _ := rfl

theorem endInv_reachable (h : (system bufferSize cfg).Reachable app) : app.EndInv := by
  refine (h.invariant (P := fun app => app.AppInv ∧ app.EndInv) ?_ ?_).2
  . exact ⟨appInv_init cfg, endInv_init cfg⟩
  . rintro app a app' ⟨hinv, hends⟩ hnext
    exact ⟨appInv_next hinv hnext, endInv_next hinv.exits hends hnext⟩

/-
The steps that a joined program does not take.
-/

/--
Why `join` returns.
-/
structure Done (app : App bufferSize) : Prop where
  guard : app.ioWorkGuard = false
  loop : app.loopIsOver = true
  handler : app.signalWait = .cancelled ∨ isEnded app.handlerExit.pc = true
  coroutines : ∀ c, isIdle (app.coroutinePc c) = true
  stoppers : ∀ caller, app.holdsPort (.stopper caller) = false

theorem poolIsDone_iff : app.poolIsDone = true ↔ app.Done := by
  simp only [poolIsDone, Bool.and_eq_true, Bool.or_eq_true, Bool.not_eq_true', decide_eq_true_eq]
  constructor
  . rintro ⟨⟨⟨⟨⟨⟨⟨⟨hguard, hloop⟩, hhandler⟩, hlisten⟩, hsignal⟩, hlisten'⟩, hsignal'⟩, hstopper⟩,
      hstopper'⟩
    refine ⟨hguard, hloop, hhandler, ?_, ?_⟩
    . intro c
      cases c <;> assumption
    . intro caller
      cases caller <;> assumption
  . intro h
    exact ⟨⟨⟨⟨⟨⟨⟨⟨h.guard, h.loop⟩, h.handler⟩, h.coroutines .readerListen⟩,
      h.coroutines .readerSignal⟩, h.coroutines .starterListen⟩, h.coroutines .starterSignal⟩,
      h.stoppers .handler⟩, h.stoppers .analysis⟩

theorem not_own_of_done {a : Acquisition.Action bufferSize} (hdone : app.Done) (hends : app.EndInv)
    (hown : app.isOwn a = true)
    : app.daq.next cfg.daq a = none := by
  have hloop := hdone.loop
  have hidle : app.daq.listenPc = .notSpawned ∨ Acquisition.isLeft app.daq.listenPc = true := by
    have hagrees := hends.reading.agrees
    have hpc := hdone.coroutines .readerListen
    simp only [coroutinePc] at hpc
    cases hlisten : app.readerListen with
    | notSpawned => exact Or.inl (by rw [hlisten] at hagrees; exact hagrees)
    | ended => exact Or.inr (by rw [hlisten] at hagrees; exact hagrees)
    | _ =>
      rw [hlisten] at hpc
      cases hpc
  rw [Option.eq_none_iff_forall_ne_some]
  intro daq hnext
  cases Acquisition.next_effect hnext with
  | listen _ _ | closeSocket | start _ | startRaises _ | exchangeStopped | abortPop _ _
  | abortNothing _ => cases hown
  | receive _ hpc _
  | countBytes _ hpc
  | emplace _ hpc _
  | drop _ hpc _
  | resetBuffer hpc
  | goOnReading hpc
  | leaveReading hpc
  | cancelReceive hpc _ => simp [hpc, Acquisition.isLeft] at hidle
  | enterLoop hpc
  | goOnPopping hpc _
  | leaveLoop hpc _
  | beginPop hpc
  | takeFrame _ _ _ hpc _
  | raiseAbort hpc
  | decode _ hpc _
  | decodeFails _ _ hpc _
  | write _ hpc _
  | writeFails _ _ hpc _
  | finish hpc => simp [loopIsOver, hpc] at hloop

theorem not_exit_of_done {caller : ExitCaller} {a : ExitAction} (hdone : app.Done)
    (hends : app.EndInv)
    : app.exit cfg caller a = none := by
  have hended (h : isEnded (app.exitRun caller).pc = true) : app.exit cfg caller a = none := by
    cases hpc : (app.exitRun caller).pc with
    | returned | raised _ => simp [exit, hpc]
    | _ =>
      rw [hpc] at h
      cases h
  have huncalled (h : (app.exitRun caller).pc = .notCalled) (hcall : app.callExit caller = none)
      : app.exit cfg caller a = none := by
    cases a <;> simp [exit, h, hcall]
  cases caller with
  | handler =>
    rcases hdone.handler with hcancelled | hover
    . apply huncalled (hends.cancelled hcancelled)
      simp [callExit, hcancelled]
    . exact hended hover
  | analysis =>
    have hloop := hdone.loop
    cases hpc : app.daq.loopPc with
    | failed phase =>
      simp only [loopIsOver, hpc] at hloop
      exact hended hloop
    | _ =>
      have hcalled : app.analysisExit.pc = .notCalled := by
        by_contra hne
        have hfailed := hends.failed hne
        rw [hpc] at hfailed
        cases hfailed
      apply huncalled hcalled
      simp [callExit, hpc]

theorem signal_of_done (sig : Signal) (hdone : app.Done) (hexits : app.ExitInv)
    : app.signal sig = app := by
  have harmed : app.signalWait ≠ .armed := by
    intro harmed
    rcases hdone.handler with hcancelled | hended
    . cases harmed.symm.trans hcancelled
    . rw [hexits.waiting (Or.inl harmed)] at hended
      cases hended
  have hreader : app.readerSignal ≠ .running := by
    intro hpc
    have hidle := hdone.coroutines .readerSignal
    simp [coroutinePc, hpc, isIdle] at hidle
  have hstarter : app.starterSignal ≠ .running := by
    intro hpc
    have hidle := hdone.coroutines .starterSignal
    simp [coroutinePc, hpc, isIdle] at hidle
  simp [App.signal, harmed, hreader, hstarter]

theorem not_coroutine_of_done {c : Coroutine} (hdone : app.Done)
    : app.coroutine c = none ∧ app.cancelCoroutine c = none := by
  have hidle := hdone.coroutines c
  constructor
  . unfold App.coroutine
    split <;> simp_all [isIdle]
  . have hcancel : app.canCancel c = false := by
      cases c <;> simp only [coroutinePc] at hidle <;> simp only [canCancel]
      . cases hpc : app.readerListen <;> simp_all [isIdle]
      . cases hpc : app.readerSignal <;> simp_all [isIdle]
      . cases hpc : app.starterListen <;> simp_all [isIdle]
      . cases hpc : app.starterSignal <;> simp_all [isIdle]
    simp [App.cancelCoroutine, hcancel]

/--
The threads are joined, and only the Stoppers have to be dropped.
-/
structure Joined (app : App bufferSize) : Prop where
  main : app.mainPc = .joined ∨ app.mainPc = .unwound
  done : app.Done
  ends : app.EndInv
  exits : app.ExitInv

theorem Joined.next {a : Action bufferSize} (hjoined : app.Joined) (h : next cfg app a = some app')
    : app' = app ∨
      ∃ caller, app' = app.setExitRun caller { app.exitRun caller with stopper := none } := by
  cases a with
  | main succeeds =>
    rcases hjoined.main with hpc | hpc <;> simp [App.next, App.main, hpc] at h
  | signal sig =>
    cases h
    exact Or.inl (signal_of_done sig hjoined.done hjoined.exits)
  | daq a =>
    simp only [App.next, acquire] at h
    split at h
    . next hown => simp [not_own_of_done hjoined.done hjoined.ends hown] at h
    . cases h
  | receiveReply =>
    have hidle := hjoined.done.coroutines .starterListen
    simp only [coroutinePc] at hidle
    simp only [App.next, App.receiveReply] at h
    split at h
    . next hreply =>
      simp only [Bool.and_eq_true, decide_eq_true_eq] at hreply
      simp [hreply.1, isIdle] at hidle
    . cases h
  | coroutine c => simp [App.next, (not_coroutine_of_done hjoined.done).1] at h
  | cancelCoroutine c => simp [App.next, (not_coroutine_of_done hjoined.done).2] at h
  | exit caller a => simp [App.next, not_exit_of_done hjoined.done hjoined.ends] at h
  | endStopper caller =>
    cases next_effect h with
    | endStopper _ _ => exact Or.inr ⟨caller, rfl⟩

def dropStopper (app : App bufferSize) (caller : ExitCaller) : App bufferSize :=
  app.setExitRun caller { app.exitRun caller with stopper := none }

theorem Done.dropStopper (hdone : app.Done) (caller : ExitCaller) : (app.dropStopper caller).Done := by
  refine ⟨?_, ?_, ?_, ?_, ?_⟩
  . cases caller <;> exact hdone.guard
  . cases caller <;> exact hdone.loop
  . cases caller <;> exact hdone.handler
  . intro c
    cases caller <;> exact hdone.coroutines c
  . intro other
    have hstopper := hdone.stoppers other
    cases caller <;> cases other <;> first | rfl | exact hstopper

theorem doneInv_next {a : Action bufferSize} (hends : app.EndInv) (hexits : app.ExitInv)
    (hinv : app.mainPc = .joined ∨ app.mainPc = .unwound → app.Done)
    (h : App.next cfg app a = some app')
    : app'.mainPc = .joined ∨ app'.mainPc = .unwound → app'.Done := by
  intro hmain'
  by_cases hmain : app.mainPc = .joined ∨ app.mainPc = .unwound
  . have hjoined : app.Joined := ⟨hmain, hinv hmain, hends, hexits⟩
    rcases hjoined.next h with hsame | ⟨caller, hsame⟩
    . rw [hsame]
      exact hjoined.done
    . rw [hsame]
      exact hjoined.done.dropStopper caller
  . rcases mainPc_next h with hsame | ⟨succeeds, rfl⟩
    . rw [hsame] at hmain'
      contradiction
    . have hdone (pc : MainPc) (hpool : app.poolIsDone = true) : { app with mainPc := pc }.Done := by
        apply poolIsDone_iff.mp
        exact hpool
      cases next_effect h with
      | joined _ hpc hpool => exact hdone .joined hpool
      | unwound _ hpc hpool => exact hdone .unwound hpool
      | _ => simp at hmain'

theorem joined_reachable (h : (system bufferSize cfg).Reachable app)
    (hmain : app.mainPc = .joined ∨ app.mainPc = .unwound)
    : app.Joined := by
  refine ⟨hmain, ?_, endInv_reachable h, (appInv_reachable h).exits⟩
  revert hmain
  induction h with
  | refl => simp [system, init]
  | tail hreachable hnext ih =>
    rcases hnext with ⟨a, ha⟩
    exact doneInv_next (endInv_reachable hreachable) (appInv_reachable hreachable).exits ih ha

def withoutStoppers (app : App bufferSize) : App bufferSize :=
  { app with
    handlerExit := { app.handlerExit with stopper := none }
    analysisExit := { app.analysisExit with stopper := none } }

theorem withoutStoppers_leads {later : App bufferSize} (h : (system bufferSize cfg).Reachable app)
    (hmain : app.mainPc = .joined ∨ app.mainPc = .unwound)
    (hleads : (system bufferSize cfg).Leads app later)
    : later.withoutStoppers = app.withoutStoppers := by
  suffices hboth : later.withoutStoppers = app.withoutStoppers ∧ later.Joined from hboth.1
  refine hleads.invariant (P := fun later => later.withoutStoppers = app.withoutStoppers ∧
    later.Joined) ?_ ⟨rfl, joined_reachable h hmain⟩
  rintro mid a last ⟨hsame, hjoined⟩ hnext
  rcases hjoined.next hnext with rfl | ⟨caller, rfl⟩
  . exact ⟨hsame, hjoined⟩
  . refine ⟨?_, ?_⟩
    . rw [← hsame]
      cases caller <;> rfl
    . have hdone := hjoined.done.dropStopper caller
      have hexits := exitInv_next hjoined.exits hnext
      have hends := endInv_next hjoined.exits hjoined.ends hnext
      exact ⟨by cases caller <;> exact hjoined.main, hdone, hends, hexits⟩

/--
The threads of the program are joined only after a call of `exit` has got through. By then every socket
is closed, and from then on nothing changes any more, the outputs and the status included.
-/
theorem joined_is_final (h : (system bufferSize cfg).Reachable app)
    (hmain : app.mainPc = .joined ∨ app.mainPc = .unwound)
    : (∃ caller, (app.exitRun caller).pc = .returned) ∧ app.daq.reader.isOpen = false ∧
      (∀ socket, app.holdsPort socket = false) ∧
      ∀ later, (system bufferSize cfg).Leads app later →
        later.withoutStoppers = app.withoutStoppers := by
  have hjoined := joined_reachable h hmain
  have hsettled (c : Coroutine) : Acquisition.isSettled (app.coroutinePc c) = true := by
    have hidle := hjoined.done.coroutines c
    cases hpc : app.coroutinePc c with
    | notSpawned | ended => rfl
    | _ =>
      rw [hpc] at hidle
      cases hidle
  refine ⟨hjoined.exits.released hjoined.done.guard,
    hjoined.ends.reading.closed (hsettled .readerListen), ?_, ?_⟩
  . intro socket
    cases socket with
    | starter => exact hjoined.ends.starting (hsettled .starterListen)
    | stopper caller => exact hjoined.done.stoppers caller
  . intro later hleads
    exact withoutStoppers_leads h hmain hleads

def abandonedAndJoined : List (Action 20) :=
  abandoned ++ [.endStopper .handler, .main true]

theorem joined_is_final_example
    : ∃ app, (system 20 plainConfig).Reachable app ∧ app.daq.queued = [List.replicate 16 1] ∧
        app.daq.reader.isOpen = false ∧
        ∀ later, (system 20 plainConfig).Leads app later →
          later.withoutStoppers = app.withoutStoppers := by
  have hrun : ((system 20 plainConfig).exec (init 20 plainConfig) abandonedAndJoined).map
        (fun app => decide (app.mainPc = .joined ∧ app.daq.queued = [List.replicate 16 1]))
      = some true := by
    decide +kernel
  rcases Option.map_eq_some_iff.mp hrun with ⟨app, hexec, happ⟩
  rcases of_decide_eq_true happ with ⟨hmain, hqueued⟩
  have hreachable := TransitionSystem.Reachable.of_exec hexec
  rcases joined_is_final hreachable (Or.inl hmain) with ⟨_, hclosed, _, hfinal⟩
  exact ⟨app, hreachable, hqueued, hclosed, hfinal⟩

end App

end Srs
