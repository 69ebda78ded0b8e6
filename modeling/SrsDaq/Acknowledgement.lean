import SrsDaq.Shutdown

/-!
This module contains what the status "turned on" rests on: the reply to the acq-on command, or a
signal.
-/

namespace Srs

namespace App

variable {bufferSize : Nat}

/--
The acquisition counts as turned on, and is turned off, after the Starter has received a datagram.
-/
def RestsOnReply (app : App bufferSize) : Prop :=
  (app.status.isAcqOn = true → app.starterReplied = true) ∧
  (app.acqOffIssued ≠ [] → app.starterReplied = true)

/--
The coroutine of the Starter that waits for a signal does not store the status before the reply.
-/
def SignalsBehindReply (app : App bufferSize) : Action bufferSize → Prop
  | .coroutine .starterSignal => app.starterSignal = .storeStatus → app.starterReplied = true
  | _ => True

def endsReading : CoroutinePc → Bool
  | .closeSocket => true
  | .storeStatus => true
  | _ => false

def isBehindAcqOn : ExitPc → Bool
  | .listenStopper => true
  | .sendAcqOff => true
  | _ => false

structure ReplyInv (app : App bufferSize) : Prop where
  acqOn : app.status.isAcqOn = true → app.starterReplied = true
  issued : app.acqOffIssued ≠ [] → app.starterReplied = true
  listening : endsReading app.starterListen = true → app.starterReplied = true
  exits : ∀ caller, isBehindAcqOn (app.exitRun caller).pc = true → app.starterReplied = true

variable {cfg : Config} {app app' : App bufferSize}

theorem isBehindAcqOn_touched {run run' : ExitRun} (h : Touched run run')
    : isBehindAcqOn run'.pc = isBehindAcqOn run.pc := by
  cases h with
  | same => rfl
  | notified => cases run.pc <;> simp [ExitPc.notify, isBehindAcqOn]
  | stopperEnded _ => rfl

theorem ReplyInv.setExitRun (app : App bufferSize) (hinv : app.ReplyInv) (caller : ExitCaller)
    {run : ExitRun} (hrun : isBehindAcqOn run.pc = true → app.starterReplied = true)
    : (app.setExitRun caller run).ReplyInv := by
  constructor
  . simpa using hinv.acqOn
  . simpa using hinv.issued
  . simpa using hinv.listening
  . simp only [starterReplied_setExitRun]
    apply forall_exitRun_setExitRun
      (P := fun run : ExitRun => isBehindAcqOn run.pc = true → app.starterReplied = true) hrun
    apply hinv.exits

theorem ReplyInv.setCoroutinePc (app : App bufferSize) (hinv : app.ReplyInv) (c : Coroutine)
    {pc : CoroutinePc}
    (hpc : c = .starterListen → endsReading pc = true → app.starterReplied = true)
    : (app.setCoroutinePc c pc).ReplyInv := by
  cases c with
  | starterListen => exact ⟨hinv.acqOn, hinv.issued, hpc rfl, hinv.exits⟩
  | _ => exact ⟨hinv.acqOn, hinv.issued, hinv.listening, hinv.exits⟩

theorem replyInv_exit {caller : ExitCaller} {a : ExitAction} (hinv : app.ReplyInv)
    (h : app.exit cfg caller a = some app')
    : app'.ReplyInv := by
  have hexit := hinv.exits caller
  cases exit_effect h with
  | callHandler hpc hsignal =>
    apply ReplyInv.setExitRun { app with signalWait := .handled }
      ⟨hinv.acqOn, hinv.issued, hinv.listening, hinv.exits⟩ .handler
    simp [isBehindAcqOn]
  | callAnalysis phase hpc hfailed =>
    apply ReplyInv.setExitRun app hinv .analysis
    simp [isBehindAcqOn]
  | isAcqOn _ _ pc hpc hwait =>
    apply ReplyInv.setExitRun app hinv
    intro _
    cases WaitPc.next_effect hwait with
    | found hfound => apply hinv.acqOn hfound
  | listenStopper _ stopper hpc hlisten =>
    apply ReplyInv.setExitRun app hinv
    intro _
    apply hexit
    rw [hpc]
    rfl
  | sendAcqOff _ stopper hpc hstopper =>
    have hreplied : app.starterReplied = true := by
      apply hexit
      rw [hpc]
      rfl
    refine ReplyInv.setExitRun _ ?_ caller (by simp [isBehindAcqOn])
    exact ⟨hinv.acqOn, fun _ => hreplied, hinv.listening, hinv.exits⟩
  | storeAcqOn _ hpc =>
    refine ReplyInv.setExitRun _ ?_ caller (by simp [isBehindAcqOn])
    exact ⟨by simp, hinv.issued, hinv.listening, hinv.exits⟩
  | _ =>
    refine ReplyInv.setExitRun _ ?_ caller (by simp [isBehindAcqOn])
    exact ⟨hinv.acqOn, hinv.issued, hinv.listening, hinv.exits⟩

theorem replyInv_storeStatus {c : Coroutine} (hinv : app.ReplyInv)
    (hok : app.SignalsBehindReply (.coroutine c)) (hpc : app.coroutinePc c = .storeStatus)
    : (app.storeStatus c).ReplyInv := by
  cases c with
  | readerListen => exact ⟨hinv.acqOn, hinv.issued, hinv.listening, hinv.exits⟩
  | readerSignal => exact ⟨hinv.acqOn, hinv.issued, hinv.listening, hinv.exits⟩
  | starterListen =>
    refine ⟨?_, hinv.issued, hinv.listening, hinv.exits⟩
    intro _
    apply hinv.listening
    rw [show app.starterListen = .storeStatus from hpc]
    rfl
  | starterSignal =>
    refine ⟨?_, hinv.issued, hinv.listening, hinv.exits⟩
    intro _
    apply hok hpc

theorem replyInv_closeSocket {c : Coroutine} {closed : App bufferSize} (hinv : app.ReplyInv)
    (hclosed : app.closeSocket c = some closed)
    : closed.ReplyInv := by
  cases c <;> cases hclosed <;> exact ⟨hinv.acqOn, hinv.issued, hinv.listening, hinv.exits⟩

theorem replyInv_notifyStatusChange (hinv : app.ReplyInv) : app.notifyStatusChange.ReplyInv := by
  refine ⟨hinv.acqOn, hinv.issued, hinv.listening, ?_⟩
  intro caller hbehind
  rw [isBehindAcqOn_touched (touched_notifyStatusChange app caller)] at hbehind
  apply hinv.exits caller hbehind

theorem replyInv_next {a : Action bufferSize} (hinv : app.ReplyInv) (hok : app.SignalsBehindReply a)
    (h : next cfg app a = some app')
    : app'.ReplyInv := by
  cases next_effect h with
  | exit caller b _ heffect => apply replyInv_exit hinv h
  | switchOn starter hpc hlisten =>
    exact ⟨hinv.acqOn, hinv.issued, by simp [endsReading], hinv.exits⟩
  | receiveReply hpc hopen => exact ⟨fun _ => rfl, fun _ => rfl, fun _ => rfl, fun _ _ => rfl⟩
  | armSignal c hpc =>
    apply ReplyInv.setCoroutinePc app hinv
    simp [endsReading]
  | leaveReading hpc hleft =>
    apply ReplyInv.setCoroutinePc app hinv
    simp
  | closeSocket c closed hpc hclosed =>
    apply ReplyInv.setCoroutinePc _ (replyInv_closeSocket hinv hclosed)
    rintro rfl _
    cases hclosed
    apply hinv.listening
    rw [show app.starterListen = .closeSocket from hpc]
    rfl
  | storeStatus c hpc =>
    apply ReplyInv.setCoroutinePc _ (replyInv_storeStatus hinv hok hpc)
    simp [endsReading]
  | notify c hpc =>
    apply ReplyInv.setCoroutinePc _ (replyInv_notifyStatusChange hinv)
    simp [endsReading]
  | cancelCoroutine c hcancel =>
    apply ReplyInv.setCoroutinePc app hinv
    simp [endsReading]
  | endStopper caller hpc =>
    apply ReplyInv.setExitRun app hinv
    apply hinv.exits caller
  | _ => exact ⟨hinv.acqOn, hinv.issued, hinv.listening, hinv.exits⟩

theorem not_restsOnReply_of_not_signalsBehindReply {a : Action bufferSize}
    (hok : ¬ app.SignalsBehindReply a) (h : next cfg app a = some app')
    : ¬ app'.RestsOnReply := by
  unfold SignalsBehindReply at hok
  split at hok
  . simp only [Classical.not_imp, Bool.not_eq_true] at hok
    rcases hok with ⟨hpc, hreplied⟩
    simp only [next, App.coroutine, coroutinePc, hpc] at h
    cases h
    intro hrests
    have hon := hrests.1 rfl
    rw [starterReplied_setCoroutinePc] at hon
    rw [show (app.storeStatus .starterSignal).starterReplied = app.starterReplied from rfl,
      hreplied] at hon
    cases hon
  . apply absurd trivial hok

/--
In a run, the status "turned on" and the acq-off command always rest on a reply if and only if the
coroutine of the Starter that waits for a signal never stores the status before the reply came.
-/
theorem restsOnReply_iff (cfg : Config) (as : List (Action bufferSize)) (app : App bufferSize)
    (hexec : (system bufferSize cfg).exec (init bufferSize cfg) as = some app)
    : (system bufferSize cfg).Along RestsOnReply (init bufferSize cfg) as
        ↔
      (system bufferSize cfg).StepsMeet SignalsBehindReply (init bufferSize cfg) as := by
  apply TransitionSystem.along_iff_stepsMeet _ _ _ _ hexec
  . exact ReplyInv
  . exact fun app hinv => ⟨hinv.acqOn, hinv.issued⟩
  . intro app a app' hinv hok hnext
    apply replyInv_next hinv hok hnext
  . intro app a app' _ hok hnext
    apply not_restsOnReply_of_not_signalsBehindReply hok hnext
  . constructor
    . simp [init]
    . simp [init]
    . simp [init, endsReading]
    . intro caller
      cases caller <;> simp [exitRun, init, isBehindAcqOn]

def acknowledged : List (Action 20) :=
  List.replicate 7 (.main true) ++
    [.receiveReply, .coroutine .starterListen, .coroutine .starterListen]

theorem restsOnReply_acknowledged
    : ∃ app, (system 20 plainConfig).exec (init 20 plainConfig) acknowledged = some app ∧
        app.status.isAcqOn = true ∧
        (system 20 plainConfig).Along RestsOnReply (init 20 plainConfig) acknowledged := by
  have hrun : ((system 20 plainConfig).exec (init 20 plainConfig) acknowledged).map
        (fun app => app.status.isAcqOn)
      = some true := by
    decide +kernel
  rcases Option.map_eq_some_iff.mp hrun with ⟨app, hexec, hon⟩
  refine ⟨app, hexec, hon, ?_⟩
  rw [restsOnReply_iff plainConfig acknowledged app hexec]
  simp [acknowledged, TransitionSystem.StepsMeet, SignalsBehindReply]

def interruptedEarly : List (Action 20) :=
  List.replicate 7 (.main true) ++
    [.coroutine .readerSignal, .coroutine .starterSignal, .signal .sigint,
      .coroutine .starterSignal, .coroutine .starterSignal, .coroutine .starterSignal] ++
    stopProcessor ++ switchOff

theorem interruptedEarly_is_turned_off
    : ∃ app, (system 20 plainConfig).exec (init 20 plainConfig) interruptedEarly = some app ∧
        app.starterReplied = false ∧ app.AcqOffIssued ∧
        ¬ (system 20 plainConfig).Along RestsOnReply (init 20 plainConfig) interruptedEarly := by
  have hrun : ((system 20 plainConfig).exec (init 20 plainConfig) interruptedEarly).map
        (fun app => (app.starterReplied, app.acqOffIssued))
      = some (false, [some acqOffFrame]) := by
    decide +kernel
  rcases Option.map_eq_some_iff.mp hrun with ⟨app, hexec, happ⟩
  simp only [Prod.mk.injEq] at happ
  rcases happ with ⟨hreplied, hissued⟩
  refine ⟨app, hexec, hreplied, by simp [AcqOffIssued, hissued], ?_⟩
  intro halong
  have hrests := (halong.last hexec).2 (by simp [hissued])
  rw [hreplied] at hrests
  cases hrests

end App

end Srs
