import SrsDaq.Release

/-!
This module contains the local port of the commands, which the Starter and the Stoppers of both callers
of `exit` share, and what is sent from it.
-/

namespace Srs

namespace App

variable {bufferSize : Nat} {cfg : Config} {app app' : App bufferSize}

inductive ControlSocket where
  | starter
  | stopper (caller : ExitCaller)
  deriving DecidableEq

def holdsPort (app : App bufferSize) : ControlSocket → Bool
  | .starter => app.starter.isOpen
  | .stopper caller => (app.exitRun caller).stopper.any ConnectionBase.isOpen

theorem controlPortFree_iff
    : app.controlPortFree = true ↔ ∀ socket, app.holdsPort socket = false := by
  simp only [controlPortFree, Bool.and_eq_true, Bool.not_eq_true']
  constructor
  . rintro ⟨⟨hstarter, hhandler⟩, hanalysis⟩ socket
    rcases socket with _ | _ | _
    . exact hstarter
    . exact hhandler
    . exact hanalysis
  . intro h
    exact ⟨⟨h .starter, h (.stopper .handler)⟩, h (.stopper .analysis)⟩

/-
Who holds the port.
-/

def Exclusive (app : App bufferSize) : Prop :=
  ∀ socket socket', app.holdsPort socket = true → app.holdsPort socket' = true → socket = socket'

/--
A socket is opened only while nobody holds the port, and then no other one is.
-/
def Opens (app app' : App bufferSize) (socket : ControlSocket) : Prop :=
  app.controlPortFree = true ∧
  ∀ socket', socket' ≠ socket → app'.holdsPort socket' = app.holdsPort socket'

theorem stopper_exit {caller : ExitCaller} {a : ExitAction} (h : app.exit cfg caller a = some app')
    (hopen : app'.holdsPort (.stopper caller) = true)
    : app.holdsPort (.stopper caller) = true ∨ app.controlPortFree = true := by
  simp only [holdsPort] at *
  cases exit_effect h with
  | listenStopper _ stopper hpc hlisten => exact Or.inr (ConnectionBase.isFree_of_listen hlisten)
  | sendAcqOff _ stopper hpc hstopper =>
    simp only [exitRun_setExitRun, Option.any_some, ConnectionBase.isOpen_encodeWriteMsg] at hopen
    simp [hstopper, hopen]
  | callHandler hpc hsignal => exact Or.inl hopen
  | callAnalysis phase hpc hfailed => exact Or.inl hopen
  | _ =>
    simp only [setExitPc, exitRun_setExitRun] at hopen
    exact Or.inl hopen

theorem stopper_touched {run run' : ExitRun} (h : Touched run run')
    (hopen : run'.stopper.any ConnectionBase.isOpen = true)
    : run.stopper.any ConnectionBase.isOpen = true := by
  cases h with
  | same => exact hopen
  | notified => exact hopen
  | stopperEnded _ => cases hopen

theorem starter_beside {a : Action bufferSize} (h : next cfg app a = some app')
    (hbeside : ¬ ∃ caller b, a = .exit caller b) (hopen : app'.starter.isOpen = true)
    : app.starter.isOpen = true ∨
      app.mainPc = .listenStarter ∧ app'.mainPc = .sendAcqOn ∧ app.controlPortFree = true ∧
        ∀ caller, app'.exitRun caller = app.exitRun caller := by
  cases next_effect h with
  | exit caller b _ heffect => exact absurd ⟨caller, b, rfl⟩ hbeside
  | switchOn starter hpc hlisten =>
    refine Or.inr ⟨hpc, rfl, ConnectionBase.isFree_of_listen hlisten, ?_⟩
    intro caller
    cases caller <;> rfl
  | closeSocket c closed hpc hclosed =>
    cases c <;> cases hclosed
    . exact Or.inl hopen
    . exact Or.inl hopen
    . simp [setCoroutinePc] at hopen
    . simp [setCoroutinePc] at hopen
  | armSignal c hpc => cases c <;> exact Or.inl hopen
  | storeStatus c hpc => cases c <;> exact Or.inl hopen
  | notify c hpc => cases c <;> exact Or.inl hopen
  | cancelCoroutine c hcancel => cases c <;> exact Or.inl hopen
  | endStopper caller hpc => cases caller <;> exact Or.inl hopen
  | _ => exact Or.inl hopen

theorem holdsPort_next {a : Action bufferSize} (h : next cfg app a = some app')
    {socket : ControlSocket} (hopen : app'.holdsPort socket = true)
    : app.holdsPort socket = true ∨ Opens app app' socket := by
  by_cases hexit : ∃ caller b, a = .exit caller b
  . rcases hexit with ⟨caller, b, rfl⟩
    have hstarter : app'.starter = app.starter := (starter_exit h).1
    have hother {other : ExitCaller} (hne : other ≠ caller)
        : app'.holdsPort (.stopper other) = app.holdsPort (.stopper other) := by
      simp only [holdsPort, exitRun_exit_of_ne h hne]
    cases socket with
    | starter =>
      simp only [holdsPort, hstarter] at *
      exact Or.inl hopen
    | stopper other =>
      by_cases heq : other = caller
      . subst heq
        refine (stopper_exit h hopen).imp id fun hfree => ⟨hfree, ?_⟩
        intro socket' hne
        cases socket' with
        | starter => simp only [holdsPort, hstarter]
        | stopper other' => exact hother fun heq => hne (by rw [heq])
      . rw [hother heq] at hopen
        exact Or.inl hopen
  . have hbeside := (exit_or_beside h).resolve_left hexit
    cases socket with
    | starter =>
      refine (starter_beside h hexit hopen).imp id fun ⟨_, _, hfree, hsame⟩ => ⟨hfree, ?_⟩
      intro socket' hne
      cases socket' with
      | starter => contradiction
      | stopper other => simp only [holdsPort, hsame]
    | stopper caller => exact Or.inl (stopper_touched (hbeside.exitRun caller) hopen)

theorem exclusive_next {a : Action bufferSize} (hinv : app.Exclusive)
    (h : next cfg app a = some app')
    : app'.Exclusive := by
  intro socket socket' hopen hopen'
  by_contra hne
  rcases holdsPort_next h hopen with hold | ⟨hfree, hsame⟩
  . rcases holdsPort_next h hopen' with hold' | ⟨hfree, _⟩
    . exact hne (hinv socket socket' hold hold')
    . rw [controlPortFree_iff] at hfree
      rw [hfree socket] at hold
      cases hold
  . rw [controlPortFree_iff] at hfree
    rw [hsame socket' (Ne.symm hne), hfree socket'] at hopen'
    cases hopen'

theorem appInv_reachable (h : (system bufferSize cfg).Reachable app) : app.AppInv := by
  refine h.invariant (appInv_init cfg) ?_
  intro app a app' hinv hnext
  exact appInv_next hinv hnext

/-
When the sockets are opened.
-/

/--
Before the Starter listens there is neither its own socket nor a Stopper.
-/
structure UnopenedInv (app : App bufferSize) : Prop where
  starter : stage app.mainPc ≤ stage .listenStarter → app.starter.isOpen = false
  stoppers : stage app.mainPc ≤ stage .listenStarter →
    ∀ caller, (app.exitRun caller).stopper = none

theorem stopper_exit_eq_none {caller : ExitCaller} {a : ExitAction}
    (hphase : app.phases caller ≤ 2 ∨ app.phases caller = 8)
    (hnone : (app.exitRun caller).stopper = none) (h : app.exit cfg caller a = some app')
    : (app'.exitRun caller).stopper = none := by
  unfold phases at hphase
  cases exit_effect h with
  | listenStopper _ stopper hpc hlisten => simp [hpc, phase] at hphase
  | sendAcqOff _ stopper hpc hstopper => simp [hpc, phase] at hphase
  | callHandler hpc hsignal => exact hnone
  | callAnalysis phase hpc hfailed => exact hnone
  | _ =>
    simp only [setExitPc, exitRun_setExitRun]
    exact hnone

theorem unopenedInv_next {a : Action bufferSize} (hinv : app.UnopenedInv)
    (hunstarted : app.UnstartedInv) (h : next cfg app a = some app')
    : app'.UnopenedInv := by
  constructor
  . intro hstage
    have hclosed := hinv.starter (Nat.le_trans (stage_next h) hstage)
    by_cases hexit : ∃ caller b, a = .exit caller b
    . rcases hexit with ⟨caller, b, rfl⟩
      rw [(starter_exit h).1, hclosed]
    . rw [Bool.eq_false_iff]
      intro hopen
      rcases starter_beside h hexit hopen with hopen | ⟨_, hpc, _⟩
      . rw [hclosed] at hopen
        cases hopen
      . simp [hpc, stage] at hstage
  . intro hstage caller
    have hstage' := Nat.le_trans (stage_next h) hstage
    have hnone := hinv.stoppers hstage' caller
    by_cases hexit : ∃ caller b, a = .exit caller b
    . rcases hexit with ⟨other, b, rfl⟩
      by_cases heq : caller = other
      . subst heq
        apply stopper_exit_eq_none ((hunstarted hstage').exits caller) hnone h
      . rw [exitRun_exit_of_ne h heq, hnone]
    . have htouched := ((exit_or_beside h).resolve_left hexit).exitRun caller
      generalize app.exitRun caller = run at htouched hnone
      generalize app'.exitRun caller = run' at htouched
      cases htouched with
      | same => exact hnone
      | notified => exact hnone
      | stopperEnded _ => rfl

theorem unopenedInv_reachable (h : (system bufferSize cfg).Reachable app) : app.UnopenedInv := by
  induction h with
  | refl =>
    refine ⟨fun _ => rfl, ?_⟩
    intro _ caller
    cases caller <;> rfl
  | tail hreachable hnext ih =>
    rcases hnext with ⟨a, ha⟩
    apply unopenedInv_next ih (appInv_reachable hreachable).unstarted ha

/--
No two of the sockets that send commands are ever open at a time. The Starter always finds the port
free, and a Stopper finds it taken by nothing but the Stopper of the other caller.
-/
theorem control_port_is_exclusive (h : (system bufferSize cfg).Reachable app)
    : (∀ socket socket', app.holdsPort socket = true → app.holdsPort socket' = true →
        socket = socket') ∧
      (app.mainPc = .listenStarter → ∀ socket, app.holdsPort socket = false) ∧
      ∀ caller, (app.exitRun caller).pc = .listenStopper → ∀ socket, app.holdsPort socket = true →
        ∃ other, other ≠ caller ∧ socket = .stopper other := by
  have hinv := appInv_reachable h
  have hunopened := unopenedInv_reachable h
  refine ⟨?_, ?_, ?_⟩
  . refine h.invariant (P := Exclusive) ?_ ?_
    . intro socket _ hopen
      rcases socket with _ | _ | _ <;> cases hopen
    . intro app a app' hinv hnext
      exact exclusive_next hinv hnext
  . intro hpc socket
    have hstage : stage app.mainPc ≤ stage .listenStarter := by rw [hpc]
    cases socket with
    | starter => exact hunopened.starter hstage
    | stopper caller => simp [holdsPort, hunopened.stoppers hstage caller]
  . intro caller hpc socket hopen
    cases socket with
    | starter =>
      have hclosed := hinv.starter.exits caller (by simp [phases, hpc, phase])
      simp [holdsPort, hclosed] at hopen
    | stopper other =>
      refine ⟨other, ?_, rfl⟩
      rintro rfl
      have hnone := (hinv.exits.runs other).early (by simp [hpc, phase])
      simp [holdsPort, hnone] at hopen

/--
Both callers wait while the Stopper of the handler is open.
-/
def bothStop : List (Action 20) :=
  shortInHand ++ .signal .sigint :: stopProcessor ++ switchOff.take 9 ++
    [.daq .decodeFrame, .exit .analysis .call] ++ List.replicate 3 (.exit .analysis .advance) ++
    [.exit .analysis (.wait .test), .exit .analysis (.wait .test)]

/--
The Starter has the port alone, and so does the Stopper of the handler when the other caller is about to
open its own.
-/
theorem control_port_is_exclusive_example
    : (∃ app, (system 20 plainConfig).Reachable app ∧ app.holdsPort .starter = true ∧
          ∀ socket, app.holdsPort socket = true → socket = .starter) ∧
      ∃ app, (system 20 plainConfig).Reachable app ∧
        (app.exitRun .analysis).pc = .listenStopper ∧ app.holdsPort (.stopper .handler) = true ∧
        (∀ socket, app.holdsPort socket = true → socket = .stopper .handler) ∧
        ∀ socket, app.holdsPort socket = true →
          ∃ other, other ≠ .analysis ∧ socket = .stopper other := by
  constructor
  . have hrun : ((system 20 plainConfig).exec (init 20 plainConfig)
          (List.replicate 5 (.main true))).map (fun app => app.holdsPort .starter)
        = some true := by
      decide +kernel
    rcases Option.map_eq_some_iff.mp hrun with ⟨app, hexec, hopen⟩
    have hreachable := TransitionSystem.Reachable.of_exec hexec
    refine ⟨app, hreachable, hopen, ?_⟩
    intro socket hsocket
    exact (control_port_is_exclusive hreachable).1 socket .starter hsocket hopen
  . have hrun : ((system 20 plainConfig).exec (init 20 plainConfig) bothStop).map
          (fun app => ((app.exitRun .analysis).pc, app.holdsPort (.stopper .handler)))
        = some (.listenStopper, true) := by
      decide +kernel
    rcases Option.map_eq_some_iff.mp hrun with ⟨app, hexec, happ⟩
    simp only [Prod.mk.injEq] at happ
    rcases happ with ⟨hpc, hopen⟩
    have hreachable := TransitionSystem.Reachable.of_exec hexec
    rcases control_port_is_exclusive hreachable with ⟨hexclusive, _, hstoppers⟩
    refine ⟨app, hreachable, hpc, hopen, ?_, hstoppers .analysis hpc⟩
    intro socket hsocket
    apply hexclusive socket (.stopper .handler) hsocket hopen

/-
The commands.
-/

def acqOnFrame : List Byte :=
  ConnectionBase.commandFrame initCountValue [0, 15, 1] nullAddress

def issues : ExitPc → Nat
  | .storeAcqOn => 1
  | .resetGuard => 1
  | .returned => 1
  | _ => 0

def isSending : ExitPc → Bool
  | .sendAcqOff => true
  | .storeAcqOn => true
  | .resetGuard => true
  | .returned => true
  | _ => false

/--
The Starter has been opened and closed, and it is opened only once.
-/
def StarterOver (app : App bufferSize) : Prop :=
  stage .listenStarter < stage app.mainPc ∧ app.starter.isOpen = false

theorem starterOver_next {a : Action bufferSize} (hover : app.StarterOver)
    (h : next cfg app a = some app')
    : app'.StarterOver := by
  rcases hover with ⟨hstage, hclosed⟩
  refine ⟨Nat.lt_of_lt_of_le hstage (stage_next h), ?_⟩
  rw [Bool.eq_false_iff]
  intro hopen
  by_cases hexit : ∃ caller b, a = .exit caller b
  . rcases hexit with ⟨caller, b, rfl⟩
    rw [(starter_exit h).1, hclosed] at hopen
    cases hopen
  . rcases starter_beside h hexit hopen with hopen' | ⟨hpc, _⟩
    . rw [hclosed] at hopen'
      cases hopen'
    . simp [hpc] at hstage

/--
What is left behind, for good, by whichever call of `exit` has passed some point of it.
-/
theorem passed_next {passed : ExitPc → Bool} {Q : App bufferSize → Prop} {a : Action bufferSize}
    (hnotify : ∀ pc, passed (ExitPc.notify pc) = passed pc)
    (henters : ∀ caller b, a = .exit caller b → app.exit cfg caller b = some app' →
      passed (app'.exitRun caller).pc = true → passed (app.exitRun caller).pc = true ∨ Q app')
    (hkeeps : Q app → Q app') (hinv : ∀ caller, passed (app.exitRun caller).pc = true → Q app)
    (h : next cfg app a = some app')
    : ∀ caller, passed (app'.exitRun caller).pc = true → Q app' := by
  intro caller hpassed
  by_cases hexit : ∃ other b, a = .exit other b
  . rcases hexit with ⟨other, b, rfl⟩
    by_cases heq : caller = other
    . subst heq
      rcases henters caller b rfl h hpassed with hbefore | hleft
      . exact hkeeps (hinv caller hbefore)
      . exact hleft
    . rw [exitRun_exit_of_ne h heq] at hpassed
      exact hkeeps (hinv caller hpassed)
  . have htouched := ((exit_or_beside h).resolve_left hexit).exitRun caller
    refine hkeeps (hinv caller ?_)
    generalize app.exitRun caller = run at htouched
    generalize app'.exitRun caller = run' at htouched hpassed
    cases htouched with
    | same => exact hpassed
    | notified =>
      rw [← hnotify]
      exact hpassed
    | stopperEnded _ => exact hpassed

theorem sending_exit {caller : ExitCaller} {a : ExitAction} (hinv : app.AppInv)
    (h : app.exit cfg caller a = some app') (hsending : isSending (app'.exitRun caller).pc = true)
    : isSending (app.exitRun caller).pc = true ∨ app.StarterOver := by
  cases exit_effect h with
  | listenStopper _ stopper hpc hlisten =>
    refine Or.inr ⟨?_, ?_⟩
    . by_contra hstage
      have hearly := (hinv.unstarted (Nat.le_of_not_lt hstage)).exits caller
      simp [phases, hpc, phase] at hearly
    . apply hinv.starter.exits caller
      simp [phases, hpc, phase]
  | sendAcqOff _ _ hpc _ => exact Or.inl (by simp [hpc, isSending])
  | storeAcqOn _ hpc => exact Or.inl (by simp [hpc, isSending])
  | resetGuard _ hpc => exact Or.inl (by simp [hpc, isSending])
  | callHandler _ _ => cases hsending
  | callAnalysis _ _ _ => cases hsending
  | _ => simp [setExitPc, isSending] at hsending

theorem starterOver_of_sending (h : (system bufferSize cfg).Reachable app)
    : ∀ caller, isSending (app.exitRun caller).pc = true → app.StarterOver := by
  induction h with
  | refl =>
    intro caller hsending
    cases caller <;> cases hsending
  | tail hreachable hnext ih =>
    rcases hnext with ⟨a, ha⟩
    have hnotify (pc : ExitPc) : isSending (ExitPc.notify pc) = isSending pc := by
      cases pc <;> rfl
    have hkeeps := fun hover => starterOver_next hover ha
    refine passed_next hnotify ?_ hkeeps ih ha
    intro caller b _ hexit hsending
    exact (sending_exit (appInv_reachable hreachable) hexit hsending).imp id hkeeps

def issuedCount (app : App bufferSize) : Nat :=
  issues (app.exitRun .handler).pc + issues (app.exitRun .analysis).pc

structure CommandInv (cfg : Config) (app : App bufferSize) : Prop where
  starter : ∃ socket,
    app.starter = { controlConnection cfg with socket := socket } ∨
    stage .sendAcqOn < stage app.mainPc ∧
      app.starter
        = { controlConnection cfg with socket := socket, writeMsgBuffer := ⟨acqOnFrame⟩ }
  stoppers : ∀ caller, (app.exitRun caller).pc = .sendAcqOff →
    ∃ socket, (app.exitRun caller).stopper = some { controlConnection cfg with socket := socket }
  issued : app.acqOffIssued = List.replicate app.issuedCount (some acqOffFrame)

theorem starter_next {a : Action bufferSize} (h : next cfg app a = some app')
    : (∃ socket, app'.starter = { app.starter with socket := socket }) ∨
      app.mainPc = .sendAcqOn ∧ app'.mainPc = .startProcessor ∧
        app'.starter = app.starter.encodeWriteMsg cfg.daq.zpp [0, 15, 1] nullAddress := by
  cases next_effect h with
  | exit caller b _ heffect =>
    rw [(starter_exit h).1]
    exact Or.inl ⟨app.starter.socket, rfl⟩
  | switchOn starter hpc hlisten =>
    rcases ConnectionBase.listen_returned hlisten with ⟨socket, hstarter⟩
    exact Or.inl ⟨some socket, hstarter⟩
  | sendAcqOn _ hpc => exact Or.inr ⟨hpc, rfl, rfl⟩
  | closeSocket c closed hpc hclosed =>
    cases c <;> cases hclosed
    . exact Or.inl ⟨app.starter.socket, rfl⟩
    . exact Or.inl ⟨app.starter.socket, rfl⟩
    . exact Or.inl ⟨_, rfl⟩
    . exact Or.inl ⟨_, rfl⟩
  | armSignal c hpc => cases c <;> exact Or.inl ⟨app.starter.socket, rfl⟩
  | storeStatus c hpc => cases c <;> exact Or.inl ⟨app.starter.socket, rfl⟩
  | notify c hpc => cases c <;> exact Or.inl ⟨app.starter.socket, rfl⟩
  | cancelCoroutine c hcancel => cases c <;> exact Or.inl ⟨app.starter.socket, rfl⟩
  | endStopper caller hpc => cases caller <;> exact Or.inl ⟨app.starter.socket, rfl⟩
  | _ => exact Or.inl ⟨app.starter.socket, rfl⟩

theorem encodeWriteMsg_controlConnection (hzpp : cfg.daq.zpp.Lawful ReceiveDataHeader.wireFormat)
    (data : List (BitVec 32)) (socket : Option UdpSocket)
    : ConnectionBase.encodeWriteMsg cfg.daq.zpp data nullAddress
        { controlConnection cfg with socket := socket }
        =
      { controlConnection cfg with
        socket := socket
        writeMsgBuffer := ⟨ConnectionBase.commandFrame initCountValue data nullAddress⟩ } := by
  rw [ConnectionBase.encodeWriteMsg_eq hzpp]
  rfl

theorem commandInv_starter (hzpp : cfg.daq.zpp.Lawful ReceiveDataHeader.wireFormat)
    {a : Action bufferSize} (hinv : CommandInv cfg app) (h : next cfg app a = some app')
    : ∃ socket,
        app'.starter = { controlConnection cfg with socket := socket } ∨
        stage .sendAcqOn < stage app'.mainPc ∧
          app'.starter
            = { controlConnection cfg with socket := socket, writeMsgBuffer := ⟨acqOnFrame⟩ } := by
  rcases hinv.starter with ⟨socket, hfresh | ⟨hstage, hwritten⟩⟩
  . rcases starter_next h with ⟨socket', hsame⟩ | ⟨_, hpc, hencoded⟩
    . rw [hsame, hfresh]
      exact ⟨socket', Or.inl rfl⟩
    . rw [hencoded, hfresh, hpc, encodeWriteMsg_controlConnection hzpp]
      exact ⟨socket, Or.inr ⟨by simp [stage], rfl⟩⟩
  . rcases starter_next h with ⟨socket', hsame⟩ | ⟨hpc, _⟩
    . rw [hsame, hwritten]
      exact ⟨socket', Or.inr ⟨Nat.lt_of_lt_of_le hstage (stage_next h), rfl⟩⟩
    . simp [hpc] at hstage

theorem issued_exit (hzpp : cfg.daq.zpp.Lawful ReceiveDataHeader.wireFormat) {caller : ExitCaller}
    {a : ExitAction} (hinv : CommandInv cfg app) (h : app.exit cfg caller a = some app')
    : ∃ k, issues (app'.exitRun caller).pc = issues (app.exitRun caller).pc + k ∧
        app'.acqOffIssued = app.acqOffIssued ++ List.replicate k (some acqOffFrame) := by
  cases exit_effect h with
  | sendAcqOff _ stopper hpc hstopper =>
    rcases hinv.stoppers caller hpc with ⟨socket, hfresh⟩
    rw [hstopper, Option.some.injEq] at hfresh
    refine ⟨1, by simp [issues, hpc], ?_⟩
    rw [hfresh, encodeWriteMsg_controlConnection hzpp]
    simp [ConnectionBase.sendMessage, acqOffFrame, controlConnection, ConnectionBase.ofInfo]
  | callHandler hpc hsignal =>
    refine ⟨0, ?_, by simp⟩
    simp [exitRun, hpc, issues]
  | callAnalysis phase hpc hfailed =>
    refine ⟨0, ?_, by simp⟩
    simp [exitRun, hpc, issues]
  | listenStopper _ stopper hpc hlisten => exact ⟨0, by simp [issues, hpc], by simp⟩
  | cancelSignals _ _ hpc
  | alreadyStopped _ hpc _
  | exchangeStopped _ _ hpc _ _
  | stopMonitor _ hpc
  | abortQueue _ _ hpc _
  | storeAcqOff _ hpc
  | waitReading _ _ _ _ hpc _
  | isNotReading _ _ _ hpc _
  | timeOutReading _ _ _ hpc _
  | waitAcqOn _ _ _ _ hpc _
  | isAcqOn _ _ _ hpc _
  | timeOutAcqOn _ _ _ hpc _
  | listenFails _ hpc
  | storeAcqOn _ hpc
  | resetGuard _ hpc => exact ⟨0, by simp [setExitPc, issues, hpc], by simp [setExitPc]⟩

theorem issuedCount_exit {caller : ExitCaller} {a : ExitAction} {k : Nat}
    (h : app.exit cfg caller a = some app')
    (hk : issues (app'.exitRun caller).pc = issues (app.exitRun caller).pc + k)
    : app'.issuedCount = app.issuedCount + k := by
  unfold issuedCount
  cases caller with
  | handler =>
    have hother : ExitCaller.analysis ≠ .handler := by simp
    rw [hk, exitRun_exit_of_ne h hother]
    omega
  | analysis =>
    have hother : ExitCaller.handler ≠ .analysis := by simp
    rw [hk, exitRun_exit_of_ne h hother]
    omega

theorem pc_touched {run run' : ExitRun} (h : Touched run run')
    : issues run'.pc = issues run.pc ∧ (run'.pc = .sendAcqOff → run' = run) := by
  cases h with
  | same => exact ⟨rfl, fun _ => rfl⟩
  | notified =>
    rcases run with ⟨pc, stopper⟩
    cases pc <;> simp [ExitPc.notify, issues]
  | stopperEnded hpc => exact ⟨rfl, fun hsending => absurd hsending hpc⟩

theorem fresh_exit {caller : ExitCaller} {a : ExitAction} (h : app.exit cfg caller a = some app')
    (hpc' : (app'.exitRun caller).pc = .sendAcqOff)
    : ∃ socket, (app'.exitRun caller).stopper
        = some { controlConnection cfg with socket := socket } := by
  cases exit_effect h with
  | listenStopper _ stopper hpc hlisten =>
    rcases ConnectionBase.listen_returned hlisten with ⟨socket, hstopper⟩
    rw [exitRun_setExitRun]
    exact ⟨some socket, by rw [hstopper]⟩
  | sendAcqOff _ stopper hpc hstopper => simp at hpc'
  | callHandler hpc hsignal => cases hpc'
  | callAnalysis phase hpc hfailed => cases hpc'
  | _ => simp [setExitPc] at hpc'

theorem commandInv_next (hzpp : cfg.daq.zpp.Lawful ReceiveDataHeader.wireFormat)
    {a : Action bufferSize} (hcommand : CommandInv cfg app) (h : next cfg app a = some app')
    : CommandInv cfg app' := by
  have hstarter := commandInv_starter hzpp hcommand h
  by_cases hexit : ∃ caller b, a = .exit caller b
  . rcases hexit with ⟨caller, b, rfl⟩
    refine ⟨hstarter, ?_, ?_⟩
    . intro other hpc
      by_cases heq : other = caller
      . subst heq
        exact fresh_exit h hpc
      . rw [exitRun_exit_of_ne h heq] at hpc ⊢
        exact hcommand.stoppers other hpc
    . rcases issued_exit hzpp hcommand h with ⟨k, hk, hissued⟩
      rw [hissued, hcommand.issued, issuedCount_exit h hk, List.replicate_append_replicate]
  . have hbeside := (exit_or_beside h).resolve_left hexit
    have htouched (caller : ExitCaller) := pc_touched (hbeside.exitRun caller)
    refine ⟨hstarter, ?_, ?_⟩
    . intro caller hpc
      have hsame := (htouched caller).2 hpc
      rw [hsame] at hpc ⊢
      exact hcommand.stoppers caller hpc
    . rw [hbeside.acqOffIssued, hcommand.issued]
      simp only [issuedCount, (htouched _).1]

theorem commandInv_reachable (hzpp : cfg.daq.zpp.Lawful ReceiveDataHeader.wireFormat)
    (h : (system bufferSize cfg).Reachable app)
    : CommandInv cfg app := by
  refine h.invariant (P := CommandInv cfg) ?_ ?_
  . refine ⟨⟨none, Or.inl rfl⟩, ?_, rfl⟩
    intro caller hpc
    cases caller <;> cases hpc
  . intro app a app' hcommand hnext
    exact commandInv_next hzpp hcommand hnext

theorem issues_le (pc : ExitPc) : issues pc ≤ 1 ∧ (issues pc ≠ 0 → isSending pc = true) := by
  cases pc <;> simp [issues, isSending]

/--
All that the Starter sends is the acq-on command, and all that the Stoppers send is the acq-off command,
once for each call of `exit` that gets so far. Once it is sent, the Starter is closed for good: no
acq-on command leaves behind an acq-off command.
-/
theorem commands_on_the_wire (hzpp : cfg.daq.zpp.Lawful ReceiveDataHeader.wireFormat)
    (h : (system bufferSize cfg).Reachable app)
    : (app.starter.writeMsgBuffer.data = [] ∨ app.starter.writeMsgBuffer.data = acqOnFrame) ∧
      app.acqOffIssued = List.replicate app.issuedCount (some acqOffFrame) ∧
      app.issuedCount ≤ 2 ∧
      (app.acqOffIssued ≠ [] → ∀ later, (system bufferSize cfg).Leads app later →
        later.starter.isOpen = false) := by
  have hcommand := commandInv_reachable hzpp h
  refine ⟨?_, hcommand.issued, ?_, ?_⟩
  . rcases hcommand.starter with ⟨socket, hfresh | ⟨_, hwritten⟩⟩
    . rw [hfresh]
      exact Or.inl rfl
    . rw [hwritten]
      exact Or.inr rfl
  . have hhandler := (issues_le (app.exitRun .handler).pc).1
    have hanalysis := (issues_le (app.exitRun .analysis).pc).1
    unfold issuedCount
    omega
  . intro hissued later hleads
    have hover : app.StarterOver := by
      rw [hcommand.issued, ne_eq, List.replicate_eq_nil_iff] at hissued
      by_cases hhandler : issues (app.exitRun .handler).pc = 0
      . have hanalysis : issues (app.exitRun .analysis).pc ≠ 0 := by
          intro hanalysis
          simp [issuedCount, hhandler, hanalysis] at hissued
        exact starterOver_of_sending h .analysis ((issues_le _).2 hanalysis)
      . exact starterOver_of_sending h .handler ((issues_le _).2 hhandler)
    have hlater := hleads.invariant (P := StarterOver) ?_ hover
    . exact hlater.2
    . intro app a app' hover hnext
      exact starterOver_next hover hnext

theorem commands_on_the_wire_example
    : ∃ app, (system 20 plainConfig).Reachable app ∧ app.acqOffIssued = [some acqOffFrame] ∧
        ∀ later, (system 20 plainConfig).Leads app later → later.starter.isOpen = false := by
  have hrun : ((system 20 plainConfig).exec (init 20 plainConfig) interrupted).map issuedCount
      = some 1 := by
    decide +kernel
  rcases Option.map_eq_some_iff.mp hrun with ⟨app, hexec, hcount⟩
  have hreachable := TransitionSystem.Reachable.of_exec hexec
  rcases commands_on_the_wire (ZppBits.reference_lawful _) hreachable with ⟨_, hissued, _, hclosed⟩
  rw [hcount] at hissued
  refine ⟨app, hreachable, hissued, hclosed ?_⟩
  rw [hissued]
  simp

end App

end Srs
