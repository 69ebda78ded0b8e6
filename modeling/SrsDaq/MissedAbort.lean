import SrsDaq.Joining
import SrsDaq.MonitoredApp

/-!
This module contains the abort of the queue that comes before the `pop`, and what it means for the end
of the program, with the monitor beside it.
-/

namespace Srs

namespace Acquisition

variable {bufferSize : Nat} {cfg : Config} {daq daq' : Acquisition bufferSize}

/--
The loop waits for a frame, and nobody is left to bring one.
-/
structure Hangs (daq : Acquisition bufferSize) : Prop where
  stopped : daq.isStopped = true
  waits : daq.loopPc = .tested ∨ daq.loopPc = .popping false
  empty : daq.dataQueue = []
  idle : daq.listenPc = .notSpawned ∨ isLeft daq.listenPc = true

theorem hangs_next {a : Action bufferSize} (hhangs : daq.Hangs) (hlisten : a ≠ .listen)
    (habort : a ≠ .abortQueue) (h : next cfg daq a = some daq')
    : daq'.Hangs := by
  have hwaits := hhangs.waits
  have hidle := hhangs.idle
  cases next_effect h with
  | listen _ _ => contradiction
  | abortPop _ _ => contradiction
  | abortNothing _ => contradiction
  | closeSocket => exact ⟨hhangs.stopped, hwaits, hhangs.empty, hidle⟩
  | exchangeStopped => exact ⟨rfl, hwaits, hhangs.empty, hidle⟩
  | beginPop _ => exact ⟨hhangs.stopped, Or.inr rfl, hhangs.empty, hidle⟩
  | takeFrame _ _ _ _ hqueue =>
    rw [hhangs.empty] at hqueue
    cases hqueue
  | receive _ hpc _
  | countBytes _ hpc
  | emplace _ hpc _
  | drop _ hpc _
  | resetBuffer hpc
  | goOnReading hpc
  | leaveReading hpc
  | cancelReceive hpc _ => simp [hpc, isLeft] at hidle
  | start hpc
  | startRaises hpc
  | enterLoop hpc
  | goOnPopping hpc _
  | leaveLoop hpc _
  | raiseAbort hpc
  | decode _ hpc _
  | decodeFails _ _ hpc _
  | write _ hpc _
  | writeFails _ _ hpc _
  | finish hpc => simp [hpc] at hwaits

end Acquisition

namespace App

variable {bufferSize : Nat} {cfg : Config} {app app' : App bufferSize}

def isAborting : ExitPc → Bool
  | .stopMonitor => true
  | .abortQueue => true
  | _ => false

structure Missed (app : App bufferSize) : Prop where
  main : app.mainPc = .join ∨ app.mainPc = .unwind
  hangs : app.daq.Hangs
  aborted : ∀ caller, isAborting (app.exitRun caller).pc = false

theorem missed_exit {caller : ExitCaller} {a : ExitAction} (hmissed : app.Missed)
    (h : app.exit cfg caller a = some app')
    : app'.daq = app.daq ∧ isAborting (app'.exitRun caller).pc = false := by
  have haborted := hmissed.aborted caller
  cases exit_effect h with
  | exchangeStopped _ _ _ hrunning _ =>
    rw [hmissed.hangs.stopped] at hrunning
    cases hrunning
  | abortQueue _ _ hpc _ => simp [hpc, isAborting] at haborted
  | stopMonitor _ hpc => simp [hpc, isAborting] at haborted
  | callHandler _ _ => exact ⟨rfl, rfl⟩
  | callAnalysis _ _ _ => exact ⟨rfl, rfl⟩
  | _ => simp [setExitPc, isAborting]

theorem Missed.not_done (h : app.Missed) : app.poolIsDone = false := by
  rw [Bool.eq_false_iff]
  intro hdone
  have hloop := (poolIsDone_iff.mp hdone).loop
  rcases h.hangs.waits with hpc | hpc <;> simp [loopIsOver, hpc] at hloop

theorem not_main_of_missed {succeeds : Bool} (hmissed : app.Missed)
    : app.main cfg succeeds = none := by
  rcases hmissed.main with hpc | hpc <;> simp [App.main, hpc, hmissed.not_done]

theorem hangs_beside {a : Action bufferSize} (hmissed : app.Missed) (h : next cfg app a = some app')
    (hbeside : ¬ ∃ caller b, a = .exit caller b)
    : app'.daq.Hangs := by
  have hhangs := hmissed.hangs
  cases a with
  | exit caller b => exact absurd ⟨caller, b, rfl⟩ hbeside
  | main succeeds => simp [next, not_main_of_missed hmissed] at h
  | signal sig =>
    cases h
    exact hhangs
  | daq b =>
    cases next_effect h with
    | daq _ daq hown hdaq =>
      refine Acquisition.hangs_next hhangs ?_ ?_ hdaq
      . rintro rfl
        cases hown
      . rintro rfl
        cases hown
  | receiveReply =>
    cases next_effect h with
    | receiveReply _ _ => exact hhangs
  | coroutine c =>
    cases next_effect h with
    | armSignal _ _ =>
      rw [daq_setCoroutinePc]
      exact hhangs
    | leaveReading _ _ => exact hhangs
    | closeSocket _ closed _ hclosed =>
      rw [daq_setCoroutinePc]
      cases c with
      | readerListen | readerSignal =>
        cases hclosed
        have hclosing : app.daq.next cfg.daq .closeSocket
            = some { app.daq with reader := app.daq.reader.closeSocket } := by
          rfl
        exact Acquisition.hangs_next hhangs (by simp) (by simp) hclosing
      | starterListen | starterSignal =>
        cases hclosed
        exact hhangs
    | storeStatus _ _ =>
      rw [daq_setCoroutinePc]
      cases c <;> exact hhangs
    | notify _ _ =>
      rw [daq_setCoroutinePc]
      exact hhangs
  | cancelCoroutine c =>
    cases next_effect h with
    | cancelCoroutine _ _ =>
      rw [daq_setCoroutinePc]
      exact hhangs
  | endStopper caller =>
    cases next_effect h with
    | endStopper _ _ =>
      rw [daq_setExitRun]
      exact hhangs

theorem missed_next {a : Action bufferSize} (hmissed : app.Missed) (h : next cfg app a = some app')
    : app'.Missed := by
  have hmain : app'.mainPc = app.mainPc := by
    rcases mainPc_next h with hsame | ⟨succeeds, rfl⟩
    . exact hsame
    . simp [next, not_main_of_missed hmissed] at h
  by_cases hexit : ∃ caller b, a = .exit caller b
  . rcases hexit with ⟨caller, b, rfl⟩
    rcases missed_exit hmissed h with ⟨hdaq, haborted⟩
    refine ⟨by rw [hmain]; exact hmissed.main, by rw [hdaq]; exact hmissed.hangs, ?_⟩
    intro other
    by_cases heq : other = caller
    . subst heq
      exact haborted
    . rw [exitRun_exit_of_ne h heq]
      exact hmissed.aborted other
  . refine ⟨by rw [hmain]; exact hmissed.main, hangs_beside hmissed h hexit, ?_⟩
    intro caller
    have htouched := ((exit_or_beside h).resolve_left hexit).exitRun caller
    have haborted := hmissed.aborted caller
    generalize app.exitRun caller = run at htouched haborted
    generalize app'.exitRun caller = run' at htouched
    cases htouched with
    | same => exact haborted
    | notified =>
      rcases run with ⟨pc, stopper⟩
      cases pc <;> exact haborted
    | stopperEnded _ => exact haborted

/--
Once the reader has left its loop and the calls of `exit` have issued their aborts, an abort that came
before the `pop` is lost for good.
-/
theorem popsOn_of_joins (h : (system bufferSize cfg).Reachable app)
    (hmain : app.mainPc = .join ∨ app.mainPc = .unwind) (hstopped : app.daq.isStopped = true)
    (hreader : app.readerListen ≠ .running)
    (haborted : ∀ caller, isAborting (app.exitRun caller).pc = false) {later : App bufferSize}
    (hleads : (system bufferSize cfg).Leads app later)
    (hjoined : later.mainPc ≠ .join ∧ later.mainPc ≠ .unwind)
    : app.daq.PopsOn := by
  intro hwaits hempty
  have hidle : app.daq.listenPc = .notSpawned ∨ Acquisition.isLeft app.daq.listenPc = true := by
    have hagrees := (endInv_reachable h).reading.agrees
    cases hpc : app.readerListen with
    | running => contradiction
    | starting =>
      rw [hpc] at hagrees
      cases hagrees
    | notSpawned =>
      rw [hpc] at hagrees
      exact Or.inl hagrees
    | _ =>
      rw [hpc] at hagrees
      exact Or.inr hagrees
  have hmissed : app.Missed := ⟨hmain, ⟨hstopped, hwaits, hempty, hidle⟩, haborted⟩
  have hlater : later.Missed := by
    refine hleads.invariant ?_ hmissed
    intro app a app' hinv hnext
    exact missed_next hinv hnext
  rcases hlater.main with hpc | hpc
  . exact hjoined.1 hpc
  . exact hjoined.2 hpc

end App

namespace MonitoredApp

variable {bufferSize : Nat} {cfg : Config} {sys : MonitoredApp bufferSize}

/--
The monitored application, in a process that an exception which leaves `exit` ends or does not end.
-/
def process (bufferSize : Nat) (cfg : Config) (terminates : Bool)
    : TransitionSystem (MonitoredApp bufferSize) (Action bufferSize) :=
  (system bufferSize cfg).haltsWhen fun sys => sys.app.isTerminated terminates

theorem process_false {sys sys' : MonitoredApp bufferSize}
    (h : (process bufferSize cfg false).Leads sys sys')
    : (system bufferSize cfg).Leads sys sys' :=
  TransitionSystem.leads_of_haltsWhen h

/--
A monitor that has come to its end, or never was, holds nobody up.
-/
theorem leads_beside_monitor {terminates : Bool} {app later : App bufferSize} {monitor : DataMonitor}
    (h : (App.process bufferSize cfg.app terminates).Leads app later) (hsettled : Settled app)
    (hover : monitor.isLive = false)
    : (process bufferSize cfg terminates).Leads { app := app, monitor := monitor }
        { app := later, monitor := monitor } := by
  have hlater : Settled later ∧
      (process bufferSize cfg terminates).Leads { app := app, monitor := monitor }
        { app := later, monitor := monitor } := by
    induction h with
    | refl => exact ⟨hsettled, .refl _⟩
    | @tail mid last _ hnext ih =>
      rcases ih with ⟨hmid, hleads⟩
      rcases hnext with ⟨a, ha⟩
      rcases TransitionSystem.next_haltsWhen.mp ha with ⟨hrunning, hstep⟩
      refine ⟨hmid.next hstep, Relation.ReflTransGen.tail hleads ⟨.app a, ?_⟩⟩
      have hheld : isHeld a { app := mid, monitor := monitor } = false := by
        unfold isHeld
        split
        . exact hover
        . exact hover
        . rfl
      have hmonitor : monitorBehind cfg a { app := mid, monitor := monitor } = monitor := by
        unfold monitorBehind
        split
        . split
          . next hpc =>
            have hstarted := hmid.started
            rw [show mid.mainPc = .startProcessor from hpc] at hstarted
            exact absurd hstarted (Nat.lt_irrefl _)
          . rfl
        . next caller => rw [if_neg (hmid.noStop caller)]
        . rfl
      refine TransitionSystem.next_haltsWhen.mpr ⟨hrunning, ?_⟩
      simp only [system, next, hheld, hmonitor, Bool.false_eq_true, if_false, Option.map_eq_some_iff]
      exact ⟨last, hstep, rfl⟩
  exact hlater.2

/--
What is left of a monitor whose wait was cancelled is its exception.
-/
theorem leads_over (hcycling : sys.monitor.isCycling = false) {terminates : Bool}
    (hrunning : sys.app.isTerminated terminates = false)
    : ∃ monitor : DataMonitor, monitor.isLive = false ∧
        (process bufferSize cfg terminates).Leads sys { sys with monitor := monitor } := by
  cases hpc : sys.monitor.pc with
  | notSpawned | ended => exact ⟨sys.monitor, by simp [DataMonitor.isLive, hpc], .refl _⟩
  | cancelled =>
    refine ⟨{ sys.monitor with pc := .ended }, rfl, Relation.ReflTransGen.single ⟨.monitor .raise, ?_⟩⟩
    refine TransitionSystem.next_haltsWhen.mpr ⟨hrunning, ?_⟩
    simp [system, next, DataMonitor.printCycle, DataMonitor.raise, hpc]
  | _ => simp [DataMonitor.isCycling, hpc] at hcycling

theorem settled_of_stopped {app : App bufferSize} (hmain : app.mainPc = .join ∨ app.mainPc = .unwind)
    (hstopped : app.daq.isStopped = true)
    (haborted : ∀ caller, App.isAborting (app.exitRun caller).pc = false)
    : Settled app := by
  refine ⟨?_, hstopped, ?_⟩
  . rcases hmain with hpc | hpc <;> simp [hpc, App.stage]
  . intro caller hpc
    have hdone := haborted caller
    simp [hpc, App.isAborting] at hdone

theorem isJoined_iff {pc : MainPc} : isJoined pc = true ↔ pc = .joined ∨ pc = .unwound := by
  cases pc <;> simp [isJoined]

theorem exists_joined (hreachable : (App.system bufferSize cfg.app).Reachable sys.app)
    (hmain : sys.app.mainPc = .join ∨ sys.app.mainPc = .unwind)
    (hreleased : sys.app.ioWorkGuard = false) (hsettled : Settled sys.app)
    (hpops : sys.app.daq.PopsOn) (hcycling : sys.monitor.isCycling = false) (terminates : Bool)
    : ∃ later, (process bufferSize cfg terminates).Leads sys later ∧
        (isJoined later.app.mainPc = true ∨ later.app.isTerminated terminates = true) := by
  by_cases hrunning : sys.app.isTerminated terminates = true
  . exact ⟨sys, .refl sys, Or.inr hrunning⟩
  rw [Bool.not_eq_true] at hrunning
  have hleaving : sys.app.Leaving cfg.app :=
    ⟨hreachable, hmain, hreleased, hsettled.stopped, hpops⟩
  rcases hleaving.joins terminates with ⟨last, hleads, hlast⟩
  rcases leads_over hcycling hrunning with ⟨monitor, hover, hraises⟩
  refine ⟨_, hraises.trans (leads_beside_monitor hleads.leads hsettled hover), ?_⟩
  rw [isJoined_iff, or_assoc]
  exact hlast

/--
Once the reader has left its loop and the calls of `exit` have issued their aborts, the threads can
still be joined if and only if the loop does not wait for a frame and the monitor does not go on: an
abort that came before the `pop` is lost for good, and so is the cancel of a clock that nobody waited
for. Only where an exception that leaves `exit` ends the process may it end before the join.
-/
theorem joins_iff_popsOn (h : (system bufferSize cfg).Reachable sys)
    (hmain : sys.app.mainPc = .join ∨ sys.app.mainPc = .unwind)
    (hreleased : sys.app.ioWorkGuard = false) (hstopped : sys.app.daq.isStopped = true)
    (hreader : sys.app.readerListen ≠ .running)
    (haborted : ∀ caller, App.isAborting (sys.app.exitRun caller).pc = false)
    : ((∃ later, (system bufferSize cfg).Leads sys later ∧ isJoined later.app.mainPc = true) ↔
        sys.app.daq.PopsOn ∧ sys.monitor.isCycling = false) ∧
      (sys.app.daq.PopsOn → sys.monitor.isCycling = false →
        ∃ later, (process bufferSize cfg true).Leads sys later ∧
          (isJoined later.app.mainPc = true ∨ later.app.isTerminated true = true)) := by
  have hreachable := (application bufferSize cfg).reachable h
  have hsettled := settled_of_stopped hmain hstopped haborted
  have hends (terminates : Bool) (hpops : sys.app.daq.PopsOn)
      (hcycling : sys.monitor.isCycling = false) :=
    exists_joined hreachable hmain hreleased hsettled hpops hcycling terminates
  refine ⟨⟨?_, ?_⟩, hends true⟩
  . rintro ⟨later, hleads, hjoined⟩
    constructor
    . apply App.popsOn_of_joins hreachable hmain hstopped hreader haborted
        ((application bufferSize cfg).leads hleads)
      rcases isJoined_iff.mp hjoined with hpc | hpc <;> simp [application, hpc]
    . rw [Bool.eq_false_iff]
      intro hcycling
      have hwaits : isJoined sys.app.mainPc = false := by
        rcases hmain with hpc | hpc <;> simp [hpc, isJoined]
      have hnever := ((settled_leads hleads hsettled).2 hcycling hwaits).2
      rw [hjoined] at hnever
      cases hnever
  . rintro ⟨hpops, hcycling⟩
    rcases hends false hpops hcycling with ⟨later, hleads, hjoined | hterminated⟩
    . exact ⟨later, process_false hleads, hjoined⟩
    . cases hterminated

/--
An interrupt behind these steps of the monitor and of the loop.
-/
def interruptedBehind (monitor : List DataMonitor.Action) (loop : List (App.Action 20))
    : List (Action 20) :=
  App.startUp.map .app ++ monitor.map .monitor ++ loop.map .app ++
    (App.Action.signal .sigint :: App.stopProcessor ++ App.switchOff).map .app

def areReleased (sys : MonitoredApp 20) : Bool :=
  decide (sys.app.mainPc = .join ∧ sys.app.ioWorkGuard = false ∧ sys.app.daq.isStopped = true ∧
    sys.app.readerListen ≠ .running ∧ sys.app.handlerExit.pc = .returned ∧
    sys.app.analysisExit.pc = .notCalled)

/--
The program ends if the monitor waits for its clock when the interrupt comes. It does not if the loop
is about to `pop` then, nor if the monitor has yet to wait.
-/
theorem joins_iff_popsOn_example
    : (∃ sys, (system 20 plainConfig).Reachable sys ∧ sys.monitor.pc = .cancelled ∧
        ∃ later, (system 20 plainConfig).Leads sys later ∧ isJoined later.app.mainPc = true) ∧
      (∃ sys, (system 20 plainConfig).Reachable sys ∧ sys.app.daq.loopPc = .tested ∧
        ¬ ∃ later, (system 20 plainConfig).Leads sys later ∧ isJoined later.app.mainPc = true) ∧
      ∃ sys, (system 20 plainConfig).Reachable sys ∧ sys.monitor.pc = .starting ∧
        ¬ ∃ later, (system 20 plainConfig).Leads sys later ∧ isJoined later.app.mainPc = true := by
  have hjoins {as : List (Action 20)} {monitor : MonitorPc} {loop : LoopPc}
      (hrun : ((system 20 plainConfig).exec (init 20 plainConfig) as).map
          (fun sys => areReleased sys && decide (sys.monitor.pc = monitor ∧
            sys.app.daq.loopPc = loop ∧ sys.app.daq.queued = []))
        = some true)
      : ∃ sys, (system 20 plainConfig).Reachable sys ∧ sys.monitor.pc = monitor ∧
          sys.app.daq.loopPc = loop ∧ sys.app.daq.dataQueue = [] ∧
          ((∃ later, (system 20 plainConfig).Leads sys later ∧ isJoined later.app.mainPc = true) ↔
            sys.app.daq.PopsOn ∧ sys.monitor.isCycling = false) := by
    rcases Option.map_eq_some_iff.mp hrun with ⟨sys, hexec, hsys⟩
    rw [Bool.and_eq_true] at hsys
    rcases of_decide_eq_true hsys.1 with
      ⟨hmain, hreleased, hstopped, hreader, hhandler, hanalysis⟩
    rcases of_decide_eq_true hsys.2 with ⟨hmonitor, hloop, hqueued⟩
    have haborted (caller : ExitCaller) : App.isAborting (sys.app.exitRun caller).pc = false := by
      cases caller <;> simp [App.exitRun, hhandler, hanalysis, App.isAborting]
    have hreachable := TransitionSystem.Reachable.of_exec hexec
    exact ⟨sys, hreachable, hmonitor, hloop, by simpa [Acquisition.queued] using hqueued,
      (joins_iff_popsOn hreachable (Or.inl hmain) hreleased hstopped hreader haborted).1⟩
  refine ⟨?_, ?_, ?_⟩
  . have hrun : ((system 20 plainConfig).exec (init 20 plainConfig)
          (interruptedBehind [.enter] [])).map
          (fun sys => areReleased sys && decide (sys.monitor.pc = .cancelled ∧
            sys.app.daq.loopPc = .posted ∧ sys.app.daq.queued = []))
        = some true := by
      decide +kernel
    rcases hjoins hrun with ⟨sys, hreachable, hmonitor, hloop, _, hiff⟩
    refine ⟨sys, hreachable, hmonitor, hiff.mpr ⟨?_, by simp [DataMonitor.isCycling, hmonitor]⟩⟩
    simp [Acquisition.PopsOn, hloop]
  . have hrun : ((system 20 plainConfig).exec (init 20 plainConfig)
          (interruptedBehind [.enter] [.daq .enterLoop, .daq .testStopped])).map
          (fun sys => areReleased sys && decide (sys.monitor.pc = .cancelled ∧
            sys.app.daq.loopPc = .tested ∧ sys.app.daq.queued = []))
        = some true := by
      decide +kernel
    rcases hjoins hrun with ⟨sys, hreachable, _, hloop, hempty, hiff⟩
    refine ⟨sys, hreachable, hloop, ?_⟩
    rw [hiff]
    exact fun hends => hends.1 (Or.inl hloop) hempty
  . have hrun : ((system 20 plainConfig).exec (init 20 plainConfig) (interruptedBehind [] [])).map
          (fun sys => areReleased sys && decide (sys.monitor.pc = .starting ∧
            sys.app.daq.loopPc = .posted ∧ sys.app.daq.queued = []))
        = some true := by
      decide +kernel
    rcases hjoins hrun with ⟨sys, hreachable, hmonitor, _, _, hiff⟩
    refine ⟨sys, hreachable, hmonitor, ?_⟩
    rw [hiff]
    intro hends
    simp [DataMonitor.isCycling, hmonitor] at hends

end MonitoredApp

end Srs
