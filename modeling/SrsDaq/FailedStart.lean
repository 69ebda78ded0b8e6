import SrsDaq.Release

/-!
This module contains the start-up that fails: whether the destructor of the application, which joins
the working thread, ever returns.
-/

namespace Srs

namespace App

variable {bufferSize : Nat}

def isTerminated (terminates : Bool) (app : App bufferSize) : Bool :=
  terminates && (hasRaised app.handlerExit.pc || hasRaised app.analysisExit.pc)

/--
The application, in a process that an exception which leaves `exit` ends or does not end.
-/
def process (bufferSize : Nat) (cfg : Config) (terminates : Bool)
    : TransitionSystem (App bufferSize) (Action bufferSize) :=
  (system bufferSize cfg).haltsWhen (isTerminated terminates)

/--
The destructor waits in a process that is still there, and without another signal the guard is held
for good.
-/
structure Deadlocked (cfg : Config) (terminates : Bool) (app : App bufferSize) : Prop where
  joins : app.mainPc = .unwind
  isRunning : app.isTerminated terminates = false
  held : ∀ later,
    (process bufferSize cfg terminates).LeadsBy (fun a => isSignal a = false) app later →
      later.ioWorkGuard = true

def givesUp : ExitAction → Bool
  | .wait .timeOut => true
  | .listenFails => true
  | _ => false

/--
No step of the start-up before `run` raises, `run` raises only when the guard can be released, and
the handler does not raise while the destructor waits, or that ends the process.
-/
def RaisesReleased (cfg : Config) (terminates : Bool) (app : App bufferSize)
    : Action bufferSize → Prop
  | .main succeeds =>
    app.startUpRaises cfg succeeds = false ∧
    (app.mainPc = .startProcessor → succeeds = false → app.canRelease = true)
  -- Nobody else calls `exit` there, the loop was never posted.
  | .exit .handler a => app.mainPc = .unwind → givesUp a = true → terminates = true
  | _ => True

instance (cfg : Config) (terminates : Bool) (app : App bufferSize)
    : (a : Action bufferSize) → Decidable (RaisesReleased cfg terminates app a)
  | .main _ => inferInstanceAs (Decidable (_ ∧ _))
  | .exit .handler _ => inferInstanceAs (Decidable (_ → _))
  | .exit .analysis _ => .isTrue trivial
  | .signal _ => .isTrue trivial
  | .daq _ => .isTrue trivial
  | .receiveReply => .isTrue trivial
  | .coroutine _ => .isTrue trivial
  | .cancelCoroutine _ => .isTrue trivial
  | .endStopper _ => .isTrue trivial

variable {cfg : Config} {app app' : App bufferSize}

/-
What the steps leave of the connections and of the handler.
-/

theorem spawned_next {a : Action bufferSize} (h : next cfg app a = some app')
    : (app.readerListen ≠ .notSpawned → app'.readerListen ≠ .notSpawned) ∧
      (app.starterListen ≠ .notSpawned → app'.starterListen ≠ .notSpawned) := by
  cases next_effect h with
  | exit caller b _ heffect =>
    rw [(exit_keeps h).2.1, (starts_exit h).1]
    exact ⟨id, id⟩
  | listenReader _ _ _ => exact ⟨by simp, id⟩
  | switchOn _ _ _ => exact ⟨id, by simp⟩
  | receiveReply _ _ => exact ⟨id, by simp⟩
  | leaveReading _ _ => exact ⟨by simp [setCoroutinePc], id⟩
  | closeSocket c closed _ hclosed => cases c <;> cases hclosed <;> simp [setCoroutinePc]
  | armSignal c _ | notify c _ | cancelCoroutine c _ =>
    cases c <;> simp [setCoroutinePc, notifyStatusChange]
  | storeStatus c _ => cases c <;> simp [setCoroutinePc, App.storeStatus]
  | endStopper caller _ => simp
  | _ => exact ⟨id, id⟩

theorem isUnderWay_touched {run run' : ExitRun} (h : Touched run run')
    : isUnderWay run'.pc = isUnderWay run.pc := by
  cases h with
  | same => rfl
  | notified => cases run.pc <;> rfl
  | stopperEnded _ => rfl

theorem isUnderWay_exit {a : ExitAction} (h : app.exit cfg .handler a = some app')
    : isUnderWay app'.handlerExit.pc = true ∨
      givesUp a = true ∧ hasRaised app'.handlerExit.pc = true := by
  cases exit_effect h with
  | timeOutReading _ _ _ _ hwait | timeOutAcqOn _ _ _ _ hwait =>
    cases WaitPc.eq_timeOut_of_timedOut hwait
    exact Or.inr ⟨rfl, rfl⟩
  | listenFails _ _ => exact Or.inr ⟨rfl, rfl⟩
  | _ => exact Or.inl rfl

theorem ioWorkGuard_next {a : Action bufferSize} (h : next cfg app a = some app')
    (hguard : app.ioWorkGuard = false)
    : app'.ioWorkGuard = false := by
  by_cases hexit : ∃ caller b, a = .exit caller b
  . rcases hexit with ⟨caller, b, rfl⟩
    rcases (guards_exit h).2 with hsame | ⟨hreleased, _⟩
    . rw [hsame, hguard]
    . exact hreleased
  . rw [(guards_beside h hexit).2.1, hguard]

theorem canRelease_next {a : Action bufferSize} (h : next cfg app a = some app')
    (hrelease : app.canRelease = true)
    : app'.canRelease = true ∨
      (∃ b, a = .exit .handler b ∧ givesUp b = true) ∧ hasRaised app'.handlerExit.pc = true := by
  by_cases hhandler : ∃ b, a = .exit .handler b
  . rcases hhandler with ⟨b, rfl⟩
    rcases isUnderWay_exit h with hunder | ⟨hgives, hraised⟩
    . exact Or.inl (by simp [canRelease, hunder])
    . exact Or.inr ⟨⟨b, rfl, hgives⟩, hraised⟩
  . left
    simp only [canRelease, Bool.or_eq_true, Bool.not_eq_true', decide_eq_true_eq] at hrelease ⊢
    rcases hrelease with (hguard | hqueued) | hunder
    . exact Or.inl (Or.inl (ioWorkGuard_next h hguard))
    . refine Or.inl (Or.inr ?_)
      by_cases hexit : ∃ caller b, a = .exit caller b
      . rcases hexit with ⟨caller, b, rfl⟩
        rcases signalWait_exit h with hsame | ⟨rfl, _⟩ | ⟨harmed, _⟩
        . rw [hsame, hqueued]
        . exact absurd ⟨b, rfl⟩ hhandler
        . simp [hqueued] at harmed
      . rcases (guards_beside h hexit).2.2 with hsame | ⟨harmed, _⟩
        . rw [hsame, hqueued]
        . simp [hqueued] at harmed
    . refine Or.inr ?_
      by_cases hexit : ∃ caller b, a = .exit caller b
      . rcases hexit with ⟨caller, b, rfl⟩
        have hne : ExitCaller.handler ≠ caller := by
          rintro rfl
          exact hhandler ⟨b, rfl⟩
        have hsame : app'.handlerExit = app.handlerExit := exitRun_exit_of_ne h hne
        rw [hsame, hunder]
      . have htouched := ((exit_or_beside h).resolve_left hexit).exitRun .handler
        exact (isUnderWay_touched htouched).trans hunder

/-
The start-ups that raise where the guard can be released.
-/

theorem Winding.of_progress (h : app.Winding) {a : Action bufferSize}
    (hnext : next cfg app a = some app') (hmain : app'.mainPc = app.mainPc)
    (hrelease : app'.canRelease = true)
    : app'.Winding where
  inv := appInv_next h.inv hnext
  joins := by rw [hmain, h.joins]
  reader := (spawned_next hnext).1 h.reader
  starter := (spawned_next hnext).2 h.starter
  release := hrelease

theorem Winding.isTerminated (h : app.Winding) (hheld : app.ioWorkGuard = true)
    (terminates : Bool)
    : app.isTerminated terminates = false := by
  have hanalysis : hasRaised app.analysisExit.pc = false := by
    rw [show app.analysisExit.pc = .notCalled from h.analysis.2]
    rfl
  have hhandler : hasRaised app.handlerExit.pc = false := by
    by_cases hqueued : app.signalWait = .queued
    . simp [h.inv.exits.waiting (Or.inr hqueued), hasRaised]
    . have hunder := h.isUnderWay hheld hqueued
      simp only [App.isUnderWay, Bool.and_eq_true, Bool.not_eq_true'] at hunder
      exact hunder.2
  simp [App.isTerminated, hhandler, hanalysis]

theorem Winding.released (h : app.Winding) (cfg : Config) (terminates : Bool)
    : ∃ later,
        (process bufferSize cfg terminates).LeadsBy (fun a => isSignal a = false) app later ∧
        later.ioWorkGuard = false := by
  have hprogress (app : App bufferSize) (h : app.Winding) (hheld : ¬ app.ioWorkGuard = false)
      : ∃ a app', isSignal a = false ∧ (process bufferSize cfg terminates).next app a = some app' ∧
          app'.Winding ∧ app'.remaining .handler < app.remaining .handler := by
    rw [Bool.not_eq_false] at hheld
    rcases h.progresses hheld with ⟨a, app', hsignal, hnext, hmain, hrelease, hless⟩
    refine ⟨a, app', hsignal, ?_, h.of_progress hnext hmain hrelease, hless⟩
    exact TransitionSystem.next_haltsWhen.mpr ⟨h.isTerminated hheld terminates, hnext⟩
  exact TransitionSystem.exists_leadsBy (remaining .handler) hprogress h

structure StartInv (terminates : Bool) (app : App bufferSize) : Prop where
  inv : app.AppInv
  reader : stage .listenReader < stage app.mainPc → app.readerListen ≠ .notSpawned
  starter : stage .listenStarter < stage app.mainPc → app.starterListen ≠ .notSpawned
  alive : app.mainPc = .unwind →
    app.canRelease = true ∨ terminates = true ∧ hasRaised app.handlerExit.pc = true

theorem StartInv.not_deadlocked {terminates : Bool} (h : app.StartInv terminates)
    : ¬ app.Deadlocked cfg terminates := by
  intro hdead
  rcases h.alive hdead.joins with hrelease | ⟨rfl, hraised⟩
  . have hwinding : app.Winding := by
      refine ⟨h.inv, hdead.joins, h.reader ?_, h.starter ?_, hrelease⟩
      . simp [hdead.joins, stage]
      . simp [hdead.joins, stage]
    rcases hwinding.released cfg terminates with ⟨later, hleads, hreleased⟩
    rw [hdead.held later hleads] at hreleased
    cases hreleased
  . have hrunning := hdead.isRunning
    simp [isTerminated, hraised] at hrunning

theorem spawned_main {succeeds : Bool} (h : next cfg app (.main succeeds) = some app')
    (hraises : app.startUpRaises cfg succeeds = false)
    : (stage app.mainPc ≤ stage .listenReader → stage .listenReader < stage app'.mainPc →
        app'.readerListen ≠ .notSpawned) ∧
      (stage app.mainPc ≤ stage .listenStarter → stage .listenStarter < stage app'.mainPc →
        app'.starterListen ≠ .notSpawned) := by
  cases next_effect h with
  | raises _ htrue =>
    rw [hraises] at htrue
    cases htrue
  | setRemoteEndpoint hpc
  | setOutputFilenames _ hpc
  | storeReading _ hpc
  | listenReader _ hpc _
  | switchOn _ hpc _
  | sendAcqOn _ hpc
  | start _ hpc _
  | startRaises _ hpc _
  | joined _ hpc _
  | unwound _ hpc _ => simp [hpc, stage]

theorem canRelease_main {succeeds : Bool} (h : next cfg app (.main succeeds) = some app')
    (hraises : app.startUpRaises cfg succeeds = false)
    (hrun : app.mainPc = .startProcessor → succeeds = false → app.canRelease = true)
    (hunwinds : app'.mainPc = .unwind)
    : app'.canRelease = true := by
  cases next_effect h with
  | raises _ htrue =>
    rw [hraises] at htrue
    cases htrue
  | startRaises daq hpc hdaq => exact hrun hpc rfl
  | _ => cases hunwinds

theorem startInv_next {terminates : Bool} {a : Action bufferSize} (hinv : app.StartInv terminates)
    (hok : RaisesReleased cfg terminates app a)
    (h : (process bufferSize cfg terminates).next app a = some app')
    : app'.StartInv terminates := by
  rcases TransitionSystem.next_haltsWhen.mp h with ⟨hrunning, hnext⟩
  have hspawned := spawned_next hnext
  refine ⟨appInv_next hinv.inv hnext, ?_, ?_, ?_⟩
  . intro hstage
    by_cases hbehind : stage .listenReader < stage app.mainPc
    . apply hspawned.1 (hinv.reader hbehind)
    . rcases mainPc_next hnext with hsame | ⟨succeeds, rfl⟩
      . rw [hsame] at hstage
        contradiction
      . apply (spawned_main hnext hok.1).1 (Nat.le_of_not_lt hbehind) hstage
  . intro hstage
    by_cases hbehind : stage .listenStarter < stage app.mainPc
    . apply hspawned.2 (hinv.starter hbehind)
    . rcases mainPc_next hnext with hsame | ⟨succeeds, rfl⟩
      . rw [hsame] at hstage
        contradiction
      . apply (spawned_main hnext hok.1).2 (Nat.le_of_not_lt hbehind) hstage
  . intro hunwinds
    rcases mainPc_next hnext with hsame | ⟨succeeds, rfl⟩
    . rw [hsame] at hunwinds
      rcases hinv.alive hunwinds with hrelease | ⟨rfl, hraised⟩
      . rcases canRelease_next hnext hrelease with hrelease' | ⟨⟨b, rfl, hgives⟩, hraised⟩
        . exact Or.inl hrelease'
        . exact Or.inr ⟨hok hunwinds hgives, hraised⟩
      . simp [isTerminated, hraised] at hrunning
    . exact Or.inl (canRelease_main hnext hok.1 hok.2 hunwinds)

/-
The start-ups that raise anywhere else.
-/

theorem mainPc_of_unwind {a : Action bufferSize} (h : next cfg app a = some app')
    (hpc : app.mainPc = .unwind) (hheld : app.ioWorkGuard = true)
    : app'.mainPc = .unwind := by
  rcases mainPc_next h with hsame | ⟨succeeds, rfl⟩
  . rw [hsame, hpc]
  . simp [next, main, hpc, poolIsDone, hheld] at h

theorem deadlocked_of_noStarter {terminates : Bool} (hnone : app.NoStarter)
    (hpc : app.mainPc = .unwind) (hrunning : app.isTerminated terminates = false)
    : app.Deadlocked cfg terminates := by
  refine ⟨hpc, hrunning, ?_⟩
  intro later hleads
  -- not even a signal helps: the call of `exit` it leads to does not get past its second wait
  have hlater : later.NoStarter ∧ later.mainPc = .unwind := by
    apply hleads.invariant (P := fun later => later.NoStarter ∧ later.mainPc = .unwind) _
      ⟨hnone, hpc⟩
    rintro app a app' ⟨hnone, hpc⟩ _ hnext
    have hstep := (TransitionSystem.next_haltsWhen.mp hnext).2
    have hpc' := mainPc_of_unwind hstep hpc hnone.guard
    refine ⟨(noStarter_next hnone hstep).resolve_right ?_, hpc'⟩
    simp [hpc']
  exact hlater.1.guard

structure Stuck (app : App bufferSize) : Prop where
  joins : app.mainPc = .unwind
  guard : app.ioWorkGuard = true
  loop : app.LoopInv
  signal : app.signalWait ≠ .queued
  handler : isUnderWay app.handlerExit.pc = false

theorem Stuck.no_exit (h : app.Stuck) (caller : ExitCaller) (a : ExitAction)
    : app.exit cfg caller a = none := by
  cases caller with
  | handler =>
    have hunder := h.handler
    cases hpc : app.handlerExit.pc with
    | notCalled =>
      cases a with
      | call =>
        simp only [exit, exitRun, hpc, callExit]
        split
        . next _ hqueued => exact absurd hqueued h.signal
        . contradiction
        . rfl
      | _ => simp [exit, exitRun, hpc]
    | raised _ => simp [exit, exitRun, hpc]
    | _ => simp [hpc, isUnderWay, hasRaised] at hunder
  | analysis =>
    rcases h.loop (by simp [h.joins, stage]) with ⟨hloop, hpc⟩
    cases a <;> simp [exit, hpc, callExit, hloop]

theorem stuck_next {a : Action bufferSize} (hinv : app.Stuck) (hsignal : isSignal a = false)
    (h : next cfg app a = some app')
    : app'.Stuck := by
  have hexit : ¬ ∃ caller b, a = .exit caller b := by
    rintro ⟨caller, b, rfl⟩
    have hstep : app.exit cfg caller b = some app' := h
    rw [hinv.no_exit] at hstep
    cases hstep
  rcases guards_beside h hexit with ⟨_, hguard, hwait⟩
  have htouched := ((exit_or_beside h).resolve_left hexit).exitRun .handler
  constructor
  . apply mainPc_of_unwind h hinv.joins hinv.guard
  . rw [hguard, hinv.guard]
  . apply loopInv_next hinv.loop h
  . rcases hwait with hsame | ⟨_, sig, rfl⟩
    . rw [hsame]
      exact hinv.signal
    . cases hsignal
  . exact (isUnderWay_touched htouched).trans hinv.handler

theorem Stuck.deadlocked {terminates : Bool} (h : app.Stuck)
    (hrunning : app.isTerminated terminates = false)
    : app.Deadlocked cfg terminates := by
  refine ⟨h.joins, hrunning, ?_⟩
  intro later hleads
  have hlater : later.Stuck := by
    apply hleads.invariant _ h
    intro app a app' hinv hsignal hnext
    apply stuck_next hinv hsignal (TransitionSystem.next_haltsWhen.mp hnext).2
  exact hlater.guard

theorem main_of_startUpRaises {succeeds : Bool} (h : app.startUpRaises cfg succeeds = true)
    : app.main cfg succeeds = some { app with mainPc := .unwind } := by
  unfold startUpRaises at h
  split at h
  . next hpc => simp [main, hpc]
  . next hpc houtputs => simp [main, hpc, houtputs]
  . next hpc => simp [main, hpc]
  . next hpc => simp [main, hpc]
  . cases h

theorem deadlocked_of_startUpRaises {terminates : Bool} {succeeds : Bool}
    (hinv : app.UnstartedInv) (hrunning : app.isTerminated terminates = false)
    (hraises : app.startUpRaises cfg succeeds = true)
    (h : next cfg app (.main succeeds) = some app')
    : app'.Deadlocked cfg terminates := by
  have hmain : app.main cfg succeeds = some app' := h
  rw [main_of_startUpRaises hraises] at hmain
  cases hmain
  have hnone := hinv (stage_of_startUpRaises hraises)
  refine deadlocked_of_noStarter ?_ rfl hrunning
  exact ⟨hnone.listen, hnone.signal, hnone.acqOn, hnone.guard, hnone.exits⟩

theorem deadlocked_of_startRaises {terminates : Bool} (hinv : app.AppInv)
    (hrunning : app.isTerminated terminates = false) (hpc : app.mainPc = .startProcessor)
    (hrelease : app.canRelease = false) (h : next cfg app (.main false) = some app')
    : app'.Deadlocked cfg terminates := by
  have hloop := loopInv_next hinv.loop h
  simp only [next, main, hpc, Option.map_eq_some_iff] at h
  rcases h with ⟨daq, _, rfl⟩
  simp only [canRelease, Bool.or_eq_false_iff, Bool.not_eq_false', decide_eq_false_iff_not]
    at hrelease
  rcases hrelease with ⟨⟨hguard, hsignal⟩, hunder⟩
  exact Stuck.deadlocked ⟨rfl, hguard, hloop, hsignal, hunder⟩ hrunning

theorem raised_of_givesUp {caller : ExitCaller} {a : ExitAction} (hgives : givesUp a = true)
    (h : app.exit cfg caller a = some app')
    : hasRaised (app'.exitRun caller).pc = true := by
  cases exit_effect h with
  | timeOutReading _ _ _ _ _
  | timeOutAcqOn _ _ _ _ _
  | listenFails _ _ => simp [setExitPc, hasRaised]
  | waitReading _ _ _ _ _ hwait
  | isNotReading _ _ _ _ hwait
  | waitAcqOn _ _ _ _ _ hwait
  | isAcqOn _ _ _ _ hwait => cases WaitPc.next_effect hwait <;> cases hgives
  | _ => cases hgives

theorem held_of_exit (hinv : app.AppInv) (hpc : app.mainPc = .unwind) {a : ExitAction}
    (h : app.exit cfg .handler a = some app')
    : app.ioWorkGuard = true := by
  rw [← Bool.not_eq_false]
  intro hreleased
  rcases hinv.exits.released hreleased with ⟨caller, hreturned⟩
  cases caller with
  | handler => apply not_returned_of_exit h hreturned
  | analysis =>
    rw [(hinv.loop (by simp [hpc, stage])).2] at hreturned
    cases hreturned

theorem deadlocked_of_givesUp {a : ExitAction} (hinv : app.AppInv) (hpc : app.mainPc = .unwind)
    (hgives : givesUp a = true) (h : app.exit cfg .handler a = some app')
    : app'.Deadlocked cfg false := by
  have hnext : next cfg app (.exit .handler a) = some app' := h
  have hinv' := appInv_next hinv hnext
  have hraised : hasRaised app'.handlerExit.pc = true := raised_of_givesUp hgives h
  have hheld := held_of_exit hinv hpc h
  refine Stuck.deadlocked ⟨?_, ?_, hinv'.loop, ?_, ?_⟩ rfl
  . rw [(exit_keeps h).1, hpc]
  . rcases (guards_exit h).2 with hsame | ⟨_, hreturned⟩
    . rw [hsame, hheld]
    . simp only [exitRun] at hreturned
      simp [hreturned, hasRaised] at hraised
  . intro hqueued
    simp [hinv'.exits.waiting (Or.inr hqueued), hasRaised] at hraised
  . simp [isUnderWay, hraised]

theorem deadlocked_of_not_raisesReleased {terminates : Bool} {a : Action bufferSize}
    (hinv : app.StartInv terminates) (hok : ¬ RaisesReleased cfg terminates app a)
    (h : (process bufferSize cfg terminates).next app a = some app')
    : app'.Deadlocked cfg terminates := by
  rcases TransitionSystem.next_haltsWhen.mp h with ⟨hrunning, hnext⟩
  unfold RaisesReleased at hok
  split at hok
  . next succeeds =>
    cases hraises : app.startUpRaises cfg succeeds with
    | true => apply deadlocked_of_startUpRaises hinv.inv.unstarted hrunning hraises hnext
    | false =>
      simp only [hraises, true_and, Classical.not_imp, Bool.not_eq_true] at hok
      rcases hok with ⟨hpc, rfl, hrelease⟩
      apply deadlocked_of_startRaises hinv.inv hrunning hpc hrelease hnext
  . simp only [Classical.not_imp, Bool.not_eq_true] at hok
    rcases hok with ⟨hpc, hgives, rfl⟩
    apply deadlocked_of_givesUp hinv.inv hpc hgives hnext
  . apply absurd trivial hok

theorem startInv_init (cfg : Config) (terminates : Bool)
    : (init bufferSize cfg).StartInv terminates :=
  ⟨appInv_init cfg, by simp [init, stage], by simp [init, stage], by simp [init]⟩

/--
In a run, the destructor never waits in vain if and only if what raises can be released.
-/
theorem never_deadlocked_iff (cfg : Config) (terminates : Bool) (as : List (Action bufferSize))
    (app : App bufferSize)
    (hexec : (process bufferSize cfg terminates).exec (init bufferSize cfg) as = some app)
    : (process bufferSize cfg terminates).Along (fun app => ¬ app.Deadlocked cfg terminates)
          (init bufferSize cfg) as
        ↔
      (process bufferSize cfg terminates).StepsMeet (RaisesReleased cfg terminates)
        (init bufferSize cfg) as := by
  apply TransitionSystem.along_iff_stepsMeet
    (P := fun app : App bufferSize => ¬ app.Deadlocked cfg terminates) _ _ _ _ hexec
  . exact StartInv terminates
  . exact fun app hinv => hinv.not_deadlocked
  . intro app a app' hinv hok hnext
    apply startInv_next hinv hok hnext
  . intro app a app' hinv hok hnext hnot
    apply hnot (deadlocked_of_not_raisesReleased hinv hok hnext)
  . apply startInv_init

def interruptedRun : List (Action 20) :=
  List.replicate 6 (.main true) ++
    [.coroutine .readerSignal, .coroutine .starterSignal, .receiveReply,
      .coroutine .starterListen, .coroutine .starterListen, .coroutine .starterListen,
      .cancelCoroutine .starterSignal, .signal .sigint, .main false] ++
    stopProcessor ++ switchOff

theorem never_deadlocked_interruptedRun
    : ∃ app, (process 20 plainConfig true).exec (init 20 plainConfig) interruptedRun = some app ∧
        app.mainPc = .unwind ∧
        (process 20 plainConfig true).Along (fun app => ¬ app.Deadlocked plainConfig true)
          (init 20 plainConfig) interruptedRun := by
  have hrun : ((process 20 plainConfig true).exec (init 20 plainConfig) interruptedRun).map
        (fun app => app.mainPc)
      = some .unwind := by
    decide +kernel
  rcases Option.map_eq_some_iff.mp hrun with ⟨app, hexec, hpc⟩
  refine ⟨app, hexec, hpc, ?_⟩
  rw [never_deadlocked_iff plainConfig true interruptedRun app hexec]
  decide +kernel

def unknownOutputConfig : Config :=
  { plainConfig with
    outputs := DataWriter.setOutputFilenames DataWriter.plainEnvironment (fun _ => false)
      ["output.txt"] {} }

theorem unknown_output_deadlocks
    : ∃ app, (process 20 unknownOutputConfig true).exec (init 20 unknownOutputConfig)
          [.main true, .main true] = some app ∧
        app.Deadlocked unknownOutputConfig true ∧
        ¬ (process 20 unknownOutputConfig true).Along
          (fun app => ¬ app.Deadlocked unknownOutputConfig true) (init 20 unknownOutputConfig)
          [.main true, .main true] := by
  have hexec : (process 20 unknownOutputConfig true).exec (init 20 unknownOutputConfig)
      [.main true, .main true] = some { init 20 unknownOutputConfig with mainPc := .unwind } := by
    rfl
  have hinv : (init 20 unknownOutputConfig).AppInv := appInv_init unknownOutputConfig
  have hnone := hinv.unstarted (by decide)
  have hdead : Deadlocked unknownOutputConfig true
      { init 20 unknownOutputConfig with mainPc := .unwind } :=
    deadlocked_of_noStarter ⟨hnone.listen, hnone.signal, hnone.acqOn, hnone.guard, hnone.exits⟩ rfl
      rfl
  refine ⟨_, hexec, hdead, ?_⟩
  intro halong
  apply halong.last hexec hdead

end App

end Srs
