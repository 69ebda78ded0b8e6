import SrsDaq.EndOfRead

/-!
This module contains the way to the release of the work guard while the destructor of the application
waits for it.
-/

namespace Srs

namespace App

variable {bufferSize : Nat}

def hasRaised : ExitPc → Bool
  | .raised _ => true
  | _ => false

def isUnderWay (pc : ExitPc) : Bool :=
  pc ≠ .notCalled && not (hasRaised pc)

def isSignal : Action bufferSize → Bool
  | .signal _ => true
  | _ => false

/--
The guard is released, or the handler of the signals is on its way to that.
-/
def canRelease (app : App bufferSize) : Bool :=
  not app.ioWorkGuard || app.signalWait = .queued || isUnderWay app.handlerExit.pc

structure AppInv (app : App bufferSize) : Prop where
  loop : app.LoopInv
  exits : app.ExitInv
  unstarted : app.UnstartedInv
  reader : app.ReaderInv
  starter : app.StarterInv

variable {cfg : Config} {app app' : App bufferSize}

theorem appInv_next {a : Action bufferSize} (hinv : app.AppInv) (h : next cfg app a = some app')
    : app'.AppInv where
  loop := loopInv_next hinv.loop h
  exits := exitInv_next hinv.exits h
  unstarted := unstartedInv_next hinv.unstarted h
  reader := readerInv_next hinv.reader h
  starter := starterInv_next hinv.starter hinv.unstarted h

theorem appInv_init (cfg : Config) : (init bufferSize cfg).AppInv where
  loop := by
    intro _
    exact ⟨rfl, rfl⟩
  exits := by
    refine ⟨?_, by simp [init], fun _ => rfl⟩
    intro caller
    cases caller <;> exact ⟨by simp [init, exitRun], fun _ => rfl, by simp [init, exitRun],
      by simp [init, exitRun]⟩
  unstarted := by
    intro _
    refine ⟨rfl, rfl, rfl, rfl, ?_⟩
    intro caller
    cases caller <;> exact Or.inl (by simp [phases, exitRun, init, phase])
  reader := ⟨fun _ => rfl, by simp [init]⟩
  starter := by
    refine ⟨by simp [init], by simp [init], by simp [init], ?_, by simp [init]⟩
    intro _ _
    rfl

/-
How far away the release of the guard is.
-/

def exitRank : ExitPc → Nat
  | .notCalled => 20
  | .cancelSignals => 19
  | .exchangeStopped => 18
  | .stopMonitor => 17
  | .abortQueue => 16
  | .storeAcqOff => 15
  | .waitReading pc => 10 + pc.rank
  | .waitAcqOn pc => 6 + pc.rank
  | .listenStopper => 5
  | .sendAcqOff => 4
  | .storeAcqOn => 3
  | .resetGuard => 2
  | .returned => 0
  | .raised _ => 0

def remaining (caller : ExitCaller) (app : App bufferSize) : Nat :=
  -- A step of the call pays for whatever it does to the ranks of the connections.
  32 * exitRank (app.exitRun caller).pc + app.readerRank + app.starterRank

theorem remaining_lt_of_exitRank {caller : ExitCaller}
    (h : exitRank (app'.exitRun caller).pc < exitRank (app.exitRun caller).pc)
    : app'.remaining caller < app.remaining caller := by
  have hreader := readerRank_le app'
  have hstarter := starterRank_le app'
  unfold remaining
  omega

theorem remaining_lt_of_approaches (h : app.Approaches app') (caller : ExitCaller)
    : app'.remaining caller < app.remaining caller := by
  have hcloser := h.closer
  unfold remaining
  rw [h.exits caller]
  omega

/--
The places from which `exit` goes on by itself.
-/
def goesOn : ExitPc → Bool
  | .cancelSignals => true
  | .exchangeStopped => true
  | .stopMonitor => true
  | .abortQueue => true
  | .storeAcqOff => true
  | .sendAcqOff => true
  | .storeAcqOn => true
  | .resetGuard => true
  | _ => false

theorem exists_advance {caller : ExitCaller} (hinv : app.ExitInv)
    (hpc : goesOn (app.exitRun caller).pc = true)
    : ∃ app', app.exit cfg caller .advance = some app' := by
  cases hplace : (app.exitRun caller).pc with
  | notCalled | waitReading _ | waitAcqOn _ | listenStopper | returned | raised _ =>
    simp [hplace, goesOn] at hpc
  | exchangeStopped =>
    simp only [exit, hplace]
    split <;> exact ⟨_, rfl⟩
  | abortQueue =>
    simp only [exit, hplace, Acquisition.abortQueue]
    split <;> exact ⟨_, rfl⟩
  | sendAcqOff =>
    rcases Option.isSome_iff_exists.mp ((hinv.runs caller).sending hplace) with ⟨stopper, hstopper⟩
    simp [exit, hplace, App.sendAcqOff, hstopper]
  | cancelSignals | stopMonitor | storeAcqOff | storeAcqOn | resetGuard =>
    simp only [exit, hplace]
    exact ⟨_, rfl⟩

theorem exists_listenStopper {caller : ExitCaller} (hpc : (app.exitRun caller).pc = .listenStopper)
    (hfree : app.controlPortFree = true)
    : ∃ app', app.exit cfg caller .advance = some app' := by
  have hlisten : ∃ stopper, (controlConnection cfg).listen (fun _ => app.controlPortFree)
      = .returned stopper :=
    ⟨_, ConnectionBase.listen_closed rfl hfree⟩
  rcases hlisten with ⟨stopper, hlisten⟩
  simp [exit, hpc, App.listenStopper, hlisten]

theorem exitRank_advance {caller : ExitCaller} (h : app.exit cfg caller .advance = some app')
    : exitRank (app'.exitRun caller).pc < exitRank (app.exitRun caller).pc ∧
      isUnderWay (app'.exitRun caller).pc = true := by
  cases exit_effect h with
  | cancelSignals _ _ hpc
  | alreadyStopped _ hpc _
  | exchangeStopped _ _ hpc _ _
  | stopMonitor _ hpc
  | abortQueue _ _ hpc _
  | storeAcqOff _ hpc
  | listenStopper _ _ hpc _
  | sendAcqOff _ _ hpc _
  | storeAcqOn _ hpc
  | resetGuard _ hpc => simp [setExitPc, hpc, exitRank, WaitPc.rank, isUnderWay, hasRaised]

def Progresses (cfg : Config) (app : App bufferSize) : Prop :=
  ∃ a app', isSignal a = false ∧ next cfg app a = some app' ∧ app'.mainPc = app.mainPc ∧
    (app'.canRelease = true) ∧ app'.remaining .handler < app.remaining .handler

theorem canRelease_of_isUnderWay (h : isUnderWay app.handlerExit.pc = true)
    : app.canRelease = true := by
  simp [canRelease, h]

theorem progresses_exit {a : ExitAction} (h : app.exit cfg .handler a = some app')
    (hrank : exitRank app'.handlerExit.pc < exitRank app.handlerExit.pc)
    (hunder : isUnderWay app'.handlerExit.pc = true)
    : app.Progresses cfg :=
  ⟨.exit .handler a, app', rfl, h, (exit_keeps h).1, canRelease_of_isUnderWay hunder,
    remaining_lt_of_exitRank hrank⟩

theorem isSignal_of_needsNoInput {a : Action bufferSize} (h : needsNoInput a = true)
    : isSignal a = false := by
  cases a with
  | signal sig => cases h
  | _ => rfl

theorem progresses_end {a : Action bufferSize} (hsignal : isSignal a = false)
    (h : next cfg app a = some app') (happroaches : app.Approaches app')
    (hunder : isUnderWay app.handlerExit.pc = true)
    : app.Progresses cfg := by
  have hexit : app'.handlerExit = app.handlerExit := happroaches.exits .handler
  refine ⟨a, app', hsignal, h, happroaches.main, ?_, remaining_lt_of_approaches happroaches .handler⟩
  apply canRelease_of_isUnderWay
  rw [hexit, hunder]

theorem progresses_reader (hunder : isUnderWay app.handlerExit.pc = true)
    (hreading : app.status.isReading = true)
    (hoff : app.status.isAcqOff = true)
    (hends : WillEnd app.daq.IsLive app.readerListen app.readerSignal)
    : app.Progresses cfg := by
  by_cases hinput : app.ReadingEnds
  . rcases approaches_reader hreading hoff hinput with ⟨a, app', hinput, hnext, happroaches⟩
    exact progresses_end (isSignal_of_needsNoInput hinput) hnext happroaches hunder
  . rcases receives_of_not_readingEnds hends hinput with ⟨hpc, hlisten, hopen⟩
    -- any datagram will do
    rcases approaches_receive ⟨[], by simp⟩ hreading hpc hlisten hopen with
      ⟨app', hnext, happroaches⟩
    exact progresses_end rfl hnext happroaches hunder

theorem progresses_starter (hunder : isUnderWay app.handlerExit.pc = true)
    (hacq : app.status.isAcqOn = false)
    (hends : WillEnd (app.starter.isOpen = true) app.starterListen app.starterSignal)
    : app.Progresses cfg := by
  have hprogress (hends : endsReading app.starterListen = true ∨ endsReading app.starterSignal = true)
      : app.Progresses cfg := by
    rcases approaches_starter hacq hends with ⟨a, app', hinput, hnext, happroaches⟩
    exact progresses_end (isSignal_of_needsNoInput hinput) hnext happroaches hunder
  rcases hends with hlisten | hsignal | ⟨hpc, hopen⟩
  . exact hprogress (Or.inl hlisten)
  . exact hprogress (Or.inr hsignal)
  . rcases approaches_reply hacq hpc hopen with ⟨app', hnext, happroaches⟩
    exact progresses_end rfl hnext happroaches hunder

/--
The destructor waits behind a start-up that got as far as `run`.
-/
structure Winding (app : App bufferSize) : Prop where
  inv : app.AppInv
  joins : app.mainPc = .unwind
  reader : app.readerListen ≠ .notSpawned
  starter : app.starterListen ≠ .notSpawned
  release : app.canRelease = true

theorem Winding.analysis (h : app.Winding)
    : app.daq.loopPc = .notPosted ∧ (app.exitRun .analysis).pc = .notCalled := by
  apply h.inv.loop
  simp [h.joins, stage]

theorem progresses_advance (h : ∃ app', app.exit cfg .handler .advance = some app')
    : app.Progresses cfg := by
  rcases h with ⟨app', hstep⟩
  rcases exitRank_advance hstep with ⟨hrank, hunder⟩
  apply progresses_exit hstep hrank hunder

theorem progresses_wait (condition : Status → Bool) (pc : WaitPc) (waits : WaitPc → ExitPc)
    (next : ExitPc) (hcondition : condition app.status = true)
    (hexit : ∀ a, app.exit cfg .handler (.wait a)
      = app.waitForStatus condition pc waits next .handler a)
    (hwaits : ∀ pc' : WaitPc, pc'.rank < pc.rank →
      exitRank (waits pc') < exitRank app.handlerExit.pc ∧ isUnderWay (waits pc') = true)
    (hreturns : exitRank next < exitRank app.handlerExit.pc ∧ isUnderWay next = true)
    : app.Progresses cfg := by
  rcases WaitPc.exists_next hcondition pc with ⟨a, hfound | ⟨pc', hgoes, hless⟩⟩
  . have hstep : app.exit cfg .handler (.wait a) = some (app.setExitPc .handler next) := by
      rw [hexit a, waitForStatus, hfound]
    apply progresses_exit hstep hreturns.1 hreturns.2
  . have hstep : app.exit cfg .handler (.wait a) = some (app.setExitPc .handler (waits pc')) := by
      rw [hexit a, waitForStatus, hgoes]
    apply progresses_exit hstep (hwaits pc' hless).1 (hwaits pc' hless).2

theorem Winding.listenStopper (h : app.Winding) (hpc : app.handlerExit.pc = .listenStopper)
    : ∃ app', app.exit cfg .handler .advance = some app' := by
  have hclosed := h.inv.starter.exits .handler (by simp [phases, exitRun, hpc, phase])
  have hhandler := (h.inv.exits.runs .handler).early (by simp [exitRun, hpc, phase])
  have hanalysis := (h.inv.exits.runs .analysis).early (by simp [h.analysis.2, phase])
  simp only [exitRun] at hhandler hanalysis
  have hplace : (app.exitRun .handler).pc = .listenStopper := hpc
  apply exists_listenStopper hplace
  simp [controlPortFree, hclosed, hhandler, hanalysis]

theorem Winding.waitReading (h : app.Winding) {pc : WaitPc}
    (hpc : app.handlerExit.pc = .waitReading pc)
    : app.Progresses cfg := by
  by_cases hreading : app.status.isReading = true
  . apply progresses_reader _ hreading
    . apply (h.inv.exits.runs .handler).off pc hpc
    . apply h.inv.reader.ends hreading h.reader
    . simp [hpc, isUnderWay, hasRaised]
  . apply progresses_wait (fun status => not status.isReading) pc .waitReading (.waitAcqOn .testing)
    . simpa using hreading
    . intro a
      simp only [exit, exitRun, hpc]
    . intro pc' hless
      simp [hpc, exitRank, isUnderWay, hasRaised, hless]
    . simp [hpc, exitRank, isUnderWay, hasRaised, WaitPc.rank]
      omega

theorem Winding.waitAcqOn (h : app.Winding) {pc : WaitPc}
    (hpc : app.handlerExit.pc = .waitAcqOn pc)
    : app.Progresses cfg := by
  by_cases hacq : app.status.isAcqOn = true
  . apply progresses_wait (fun status => status.isAcqOn) pc .waitAcqOn .listenStopper hacq
    . intro a
      simp only [exit, exitRun, hpc]
    . intro pc' hless
      simp [hpc, exitRank, isUnderWay, hasRaised, hless]
    . simp [hpc, exitRank, isUnderWay, hasRaised]
      omega
  . rw [Bool.not_eq_true] at hacq
    apply progresses_starter _ hacq
    . apply h.inv.starter.ends hacq h.starter
      intro caller
      cases caller with
      | handler => simp [phases, exitRun, hpc, phase]
      | analysis => simp [phases, h.analysis.2, phase]
    . simp [hpc, isUnderWay, hasRaised]

theorem Winding.queued (h : app.Winding) (hqueued : app.signalWait = .queued)
    : app.Progresses cfg := by
  have hpc := h.inv.exits.waiting (Or.inr hqueued)
  have hstep : app.exit cfg .handler .call
      = some { app with
          signalWait := .handled
          handlerExit := { app.handlerExit with pc := .cancelSignals } } := by
    simp [exit, exitRun, hpc, callExit, hqueued]
  apply progresses_exit hstep
  . simp [hpc, exitRank]
  . rfl

theorem Winding.isUnderWay (h : app.Winding) (hheld : app.ioWorkGuard = true)
    (hqueued : app.signalWait ≠ .queued)
    : isUnderWay app.handlerExit.pc = true := by
  simpa [canRelease, hheld, hqueued] using h.release

theorem Winding.progresses (h : app.Winding) (hheld : app.ioWorkGuard = true)
    : app.Progresses cfg := by
  by_cases hqueued : app.signalWait = .queued
  . apply h.queued hqueued
  have hunder := h.isUnderWay hheld hqueued
  cases hpc : app.handlerExit.pc with
  | notCalled | raised _ => simp [hpc, App.isUnderWay, hasRaised] at hunder
  | returned =>
    have hreleased := (h.inv.exits.runs .handler).returned hpc
    rw [hheld] at hreleased
    cases hreleased
  | waitReading pc => apply h.waitReading hpc
  | waitAcqOn pc => apply h.waitAcqOn hpc
  | listenStopper => apply progresses_advance (h.listenStopper hpc)
  | _ =>
    apply progresses_advance
    apply exists_advance h.inv.exits
    simp [exitRun, hpc, goesOn]

end App

end Srs
