import SrsDaq.ControlPort
import SrsDaq.FailedStart

/-!
This module contains whether a shutdown turns the acquisition off: how a call of `exit` gives up before
that, and what has to come from outside for it to get so far.
-/

namespace Srs

namespace App

variable {bufferSize : Nat} {cfg : Config} {app app' : App bufferSize}

def ExitEnded (app : App bufferSize) : Prop :=
  ∃ caller, isEnded (app.exitRun caller).pc = true

def hasSent : ExitPc → Bool
  | .storeAcqOn => true
  | .resetGuard => true
  | .returned => true
  | _ => false

def otherCaller : ExitCaller → ExitCaller
  | .handler => .analysis
  | .analysis => .handler

/--
A call of `exit` gives up, because a wait times out or the port of the Stopper is taken, only behind
the send of the other call.
-/
def GivesUpBehindSend (app : App bufferSize) : Action bufferSize → Prop
  | .exit caller a => givesUp a = true → hasSent (app.exitRun (otherCaller caller)).pc = true
  | _ => True

instance (app : App bufferSize) : (a : Action bufferSize) → Decidable (app.GivesUpBehindSend a)
  | .exit _ _ => inferInstanceAs (Decidable (_ → _))
  | .main _ => .isTrue trivial
  | .signal _ => .isTrue trivial
  | .daq _ => .isTrue trivial
  | .receiveReply => .isTrue trivial
  | .coroutine _ => .isTrue trivial
  | .cancelCoroutine _ => .isTrue trivial
  | .endStopper _ => .isTrue trivial

/-
The calls that give up.
-/

theorem eq_or_eq_otherCaller (caller other : ExitCaller)
    : other = caller ∨ other = otherCaller caller := by
  cases caller <;> cases other <;> simp [otherCaller]

theorem otherCaller_ne (caller : ExitCaller) : otherCaller caller ≠ caller := by
  cases caller <;> simp [otherCaller]

theorem issues_ne_zero_iff (pc : ExitPc) : issues pc ≠ 0 ↔ hasSent pc = true := by
  cases pc <;> simp [issues, hasSent]

theorem acqOffIssued_iff (hcommand : CommandInv cfg app)
    : app.AcqOffIssued ↔ ∃ caller, hasSent (app.exitRun caller).pc = true := by
  unfold AcqOffIssued
  rw [hcommand.issued, List.mem_replicate, issuedCount]
  constructor
  . rintro ⟨hcount, _⟩
    by_cases hhandler : issues (app.exitRun .handler).pc = 0
    . exact ⟨.analysis, (issues_ne_zero_iff _).mp (by omega)⟩
    . exact ⟨.handler, (issues_ne_zero_iff _).mp hhandler⟩
  . rintro ⟨caller, hsent⟩
    have hissues := (issues_ne_zero_iff _).mpr hsent
    refine ⟨?_, rfl⟩
    cases caller with
    | handler => omega
    | analysis => omega

theorem acqOffIssued_next (hzpp : cfg.daq.zpp.Lawful ReceiveDataHeader.wireFormat)
    {a : Action bufferSize} (hcommand : CommandInv cfg app) (h : next cfg app a = some app')
    (hissued : app.AcqOffIssued)
    : app'.AcqOffIssued := by
  unfold AcqOffIssued at *
  rcases exit_or_beside h with ⟨caller, b, rfl⟩ | hbeside
  . rcases issued_exit hzpp hcommand h with ⟨k, _, hsame⟩
    rw [hsame]
    exact List.mem_append_left _ hissued
  . rw [hbeside.acqOffIssued]
    exact hissued

theorem ended_exit {caller : ExitCaller} {a : ExitAction} (h : app.exit cfg caller a = some app')
    (hended : isEnded (app'.exitRun caller).pc = true)
    : givesUp a = true ∨ hasSent (app'.exitRun caller).pc = true := by
  cases exit_effect h with
  | timeOutReading _ a _ _ hwait | timeOutAcqOn _ a _ _ hwait =>
    cases WaitPc.eq_timeOut_of_timedOut hwait
    exact Or.inl rfl
  | listenFails _ _ => exact Or.inl rfl
  | resetGuard _ _ => exact Or.inr (by simp [setExitPc, hasSent])
  | callHandler _ _ => cases hended
  | callAnalysis _ _ _ => cases hended
  | _ => simp [setExitPc, isEnded] at hended

structure TurnedOffInv (cfg : Config) (app : App bufferSize) : Prop where
  command : CommandInv cfg app
  ended : ∀ caller, isEnded (app.exitRun caller).pc = true → app.AcqOffIssued

theorem turnedOffInv_next (hzpp : cfg.daq.zpp.Lawful ReceiveDataHeader.wireFormat)
    {a : Action bufferSize} (hinv : TurnedOffInv cfg app) (hok : app.GivesUpBehindSend a)
    (h : next cfg app a = some app')
    : TurnedOffInv cfg app' := by
  have hcommand := commandInv_next hzpp hinv.command h
  have hkeeps := acqOffIssued_next hzpp hinv.command h
  have hnotify (pc : ExitPc) : isEnded (ExitPc.notify pc) = isEnded pc := by
    cases pc <;> rfl
  refine ⟨hcommand, passed_next hnotify ?_ hkeeps hinv.ended h⟩
  rintro caller b rfl hexit hended
  right
  rcases ended_exit hexit hended with hgives | hsent
  . exact hkeeps ((acqOffIssued_iff hinv.command).mpr ⟨_, hok hgives⟩)
  . exact (acqOffIssued_iff hcommand).mpr ⟨caller, hsent⟩

theorem not_issued_of_not_givesUpBehindSend (hcommand : CommandInv cfg app') {a : Action bufferSize}
    (hok : ¬ app.GivesUpBehindSend a) (h : next cfg app a = some app')
    : app'.ExitEnded ∧ ¬ app'.AcqOffIssued := by
  unfold GivesUpBehindSend at hok
  split at hok
  . next caller b =>
    simp only [Classical.not_imp, Bool.not_eq_true] at hok
    rcases hok with ⟨hgives, hsent⟩
    have hraised := raised_of_givesUp hgives h
    constructor
    . refine ⟨caller, ?_⟩
      cases hpc : (app'.exitRun caller).pc <;> simp [hpc, hasRaised, isEnded] at hraised ⊢
    . rw [acqOffIssued_iff hcommand]
      rintro ⟨other, hother⟩
      rcases eq_or_eq_otherCaller caller other with rfl | rfl
      . cases hpc : (app'.exitRun other).pc <;> simp [hpc, hasRaised, hasSent] at hraised hother
      . rw [exitRun_exit_of_ne h (otherCaller_ne caller), hsent] at hother
        cases hother
  . exact absurd trivial hok

theorem turnedOff_iff (hzpp : cfg.daq.zpp.Lawful ReceiveDataHeader.wireFormat)
    {as : List (Action bufferSize)}
    (hexec : (system bufferSize cfg).exec (init bufferSize cfg) as = some app)
    : (system bufferSize cfg).Along (fun app => app.ExitEnded → app.AcqOffIssued)
          (init bufferSize cfg) as
        ↔
      (system bufferSize cfg).StepsMeet GivesUpBehindSend (init bufferSize cfg) as := by
  apply TransitionSystem.along_iff_stepsMeet
    (P := fun app : App bufferSize => app.ExitEnded → app.AcqOffIssued) _ _ _ _ hexec
  . exact TurnedOffInv cfg
  . rintro app hinv ⟨caller, hended⟩
    exact hinv.ended caller hended
  . intro app a app' hinv hok hnext
    exact turnedOffInv_next hzpp hinv hok hnext
  . intro app a app' hinv hok hnext hturns
    have hcommand := commandInv_next hzpp hinv.command hnext
    rcases not_issued_of_not_givesUpBehindSend hcommand hok hnext with ⟨hended, hissued⟩
    exact hissued (hturns hended)
  . refine ⟨commandInv_reachable hzpp (.refl _), ?_⟩
    intro caller hended
    cases caller <;> cases hended

/--
Time alone decides: while no wait times out and no Stopper fails to bind, `exit` never ends without
the command.
-/
theorem turnsOff_of_noneGivesUp (hzpp : cfg.daq.zpp.Lawful ReceiveDataHeader.wireFormat)
    {as : List (Action bufferSize)}
    (hexec : (system bufferSize cfg).exec (init bufferSize cfg) as = some app)
    (hnone : ∀ caller a, givesUp a = true → .exit caller a ∉ as)
    : (system bufferSize cfg).Along (fun app => app.ExitEnded → app.AcqOffIssued)
        (init bufferSize cfg) as := by
  rw [turnedOff_iff hzpp hexec]
  apply TransitionSystem.stepsMeet_of_forall
  intro a ha s
  cases a with
  | exit caller b => exact fun hgives => absurd ha (hnone caller b hgives)
  | _ => trivial

/-
The way to the send that needs no input.
-/

/--
Whether the call goes on by itself as soon as the status lets it: it is under way and does not sleep
in `wait_for`.
-/
def isAwake : ExitPc → Bool
  | .waitReading .testing => true
  | .waitAcqOn .testing => true
  | .listenStopper => true
  | pc => goesOn pc

/--
The call is awake, or a signal or an exception of the analysis has yet to bring it about.
-/
def Comes (app : App bufferSize) (caller : ExitCaller) : Prop :=
  isAwake (app.exitRun caller).pc = true ∨
    (app.exitRun caller).pc = .notCalled ∧ (app.callExit caller).isSome = true

/--
Whether the call has found `is_reading` to be false, and has not given up since.
-/
def isBehindReading : ExitPc → Bool
  | .waitAcqOn _ => true
  | .listenStopper => true
  | pc => isSending pc

def isBehindReply : CoroutinePc → Bool
  | .closeSocket => true
  | .storeStatus => true
  | .notify => true
  | .ended => true
  | _ => false

structure ReplyOrder (app : App bufferSize) : Prop where
  reader : app.mainPc = .listenStarter → app.readerListen ≠ .notSpawned
  starter : app.starterListen ≠ .notSpawned → app.readerListen ≠ .notSpawned
  replied : app.starterReplied = true → isBehindReply app.starterListen = true
  raised : ∀ caller, hasRaised (app.exitRun caller).pc = true → (app.exitRun caller).stopper = none

theorem raised_exit {caller : ExitCaller} {a : ExitAction} (hexits : app.ExitInv)
    (h : app.exit cfg caller a = some app') (hraised : hasRaised (app'.exitRun caller).pc = true)
    : (app'.exitRun caller).stopper = none := by
  have hearly := (hexits.runs caller).early
  cases exit_effect h with
  | timeOutReading _ _ _ hpc _
  | timeOutAcqOn _ _ _ hpc _
  | listenFails _ hpc =>
    simp only [setExitPc, exitRun_setExitRun]
    exact hearly (by simp [hpc, phase])
  | callHandler _ _ => cases hraised
  | callAnalysis _ _ _ => cases hraised
  | listenStopper _ _ _ _ => simp [hasRaised] at hraised
  | sendAcqOff _ _ _ _ => simp [hasRaised] at hraised
  | _ => simp [setExitPc, hasRaised] at hraised

theorem raised_next {a : Action bufferSize} (hexits : app.ExitInv)
    (hinv : ∀ caller, hasRaised (app.exitRun caller).pc = true → (app.exitRun caller).stopper = none)
    (h : next cfg app a = some app') (caller : ExitCaller)
    (hraised : hasRaised (app'.exitRun caller).pc = true)
    : (app'.exitRun caller).stopper = none := by
  rcases exit_or_beside h with ⟨other, b, rfl⟩ | hbeside
  . by_cases heq : caller = other
    . subst heq
      exact raised_exit hexits h hraised
    . rw [exitRun_exit_of_ne h heq] at hraised ⊢
      exact hinv caller hraised
  . have htouched := hbeside.exitRun caller
    have hbefore := hinv caller
    generalize app.exitRun caller = run at htouched hbefore
    generalize app'.exitRun caller = run' at htouched hraised ⊢
    cases htouched with
    | same => exact hbefore hraised
    | notified =>
      rcases run with ⟨pc, stopper⟩
      cases pc <;> simp [ExitPc.notify, hasRaised] at hraised
      exact hbefore rfl
    | stopperEnded _ => rfl

theorem replied_next {a : Action bufferSize} (hunstarted : app.UnstartedInv)
    (hinv : app.starterReplied = true → isBehindReply app.starterListen = true)
    (h : next cfg app a = some app') (hreplied : app'.starterReplied = true)
    : isBehindReply app'.starterListen = true := by
  have hspawn (hreplied : app.starterReplied = true) (hpc : app.starterListen = .notSpawned)
      : False := by
    have hbehind := hinv hreplied
    simp [hpc, isBehindReply] at hbehind
  cases next_effect h with
  | exit caller b _ heffect =>
    rw [(starts_exit h).1]
    apply hinv
    cases heffect <;> simpa [setExitPc] using hreplied
  | switchOn _ hpc _ =>
    have hnone := hunstarted (by simp [hpc])
    exact absurd hnone.listen (hspawn hreplied)
  | receiveReply _ _ => rfl
  | closeSocket c _ hpc hclosed =>
    cases c <;> cases hclosed <;> first | exact hinv hreplied | rfl
  | storeStatus c _ | notify c _ | cancelCoroutine c _ =>
    cases c <;> first | exact hinv hreplied | rfl
  | armSignal c hpc =>
    cases c with
    | starterListen =>
      have hbehind := hinv hreplied
      simp only [coroutinePc] at hpc
      simp [hpc, isBehindReply] at hbehind
    | _ => exact hinv hreplied
  | endStopper caller _ => cases caller <;> exact hinv hreplied
  | _ => exact hinv hreplied

theorem starterListen_next {a : Action bufferSize} (h : next cfg app a = some app')
    : app.starterListen ≠ .notSpawned ∨ app'.starterListen = .notSpawned ∨
      app.mainPc = .listenStarter := by
  by_cases hpc : app.starterListen = .notSpawned
  . right
    cases next_effect h with
    | exit caller b _ heffect => exact Or.inl ((starts_exit h).1.trans hpc)
    | switchOn _ hmain _ => exact Or.inr hmain
    | receiveReply hrunning _ => simp [hpc] at hrunning
    | closeSocket c _ hclosing hclosed =>
      cases c <;> cases hclosed <;> first | exact Or.inl hpc | simp [coroutinePc, hpc] at hclosing
    | storeStatus c hplace | notify c hplace | armSignal c hplace =>
      cases c <;> first | exact Or.inl hpc | simp [coroutinePc, hpc] at hplace
    | cancelCoroutine c hcancel =>
      have hspawned := spawned_of_canCancel hcancel
      cases c <;> first | exact Or.inl hpc | exact absurd hpc hspawned
    | endStopper caller _ => cases caller <;> exact Or.inl hpc
    | _ => exact Or.inl hpc
  . exact Or.inl hpc

theorem replyOrder_next {a : Action bufferSize} (hinv : app.AppInv) (horder : app.ReplyOrder)
    (h : next cfg app a = some app')
    : app'.ReplyOrder := by
  have hspawned := (spawned_next h).1
  refine ⟨?_, ?_, replied_next hinv.unstarted horder.replied h,
    raised_next hinv.exits horder.raised h⟩
  . intro hpc'
    rcases mainPc_next h with hsame | ⟨succeeds, rfl⟩
    . rw [hsame] at hpc'
      exact hspawned (horder.reader hpc')
    . cases next_effect h with
      | listenReader _ _ _ => simp
      | _ => cases hpc'
  . intro hstarter
    rcases starterListen_next h with hbefore | hnone | hpc
    . exact hspawned (horder.starter hbefore)
    . exact absurd hnone hstarter
    . exact hspawned (horder.reader hpc)

theorem replyOrder_init (cfg : Config) : (init bufferSize cfg).ReplyOrder where
  reader := by simp [init]
  starter := by simp [init]
  replied := by simp [init]
  raised := by
    intro caller _
    cases caller <;> rfl

theorem replyOrder_reachable (h : (system bufferSize cfg).Reachable app) : app.ReplyOrder := by
  induction h with
  | refl => exact replyOrder_init cfg
  | tail hreachable hnext ih =>
    rcases hnext with ⟨a, ha⟩
    exact replyOrder_next (appInv_reachable hreachable) ih ha

theorem starterReplied_next {a : Action bufferSize} (hreplied : app.starterReplied = true)
    (h : next cfg app a = some app')
    : app'.starterReplied = true := by
  cases next_effect h with
  | exit caller b _ heffect => cases heffect <;> simpa [setExitPc] using hreplied
  | receiveReply _ _ => rfl
  | closeSocket c _ _ hclosed => cases c <;> cases hclosed <;> exact hreplied
  | armSignal c _ | storeStatus c _ | notify c _ | cancelCoroutine c _ =>
    cases c <;> exact hreplied
  | endStopper caller _ => cases caller <;> exact hreplied
  | _ => exact hreplied

theorem listenPc_exit {caller : ExitCaller} {a : ExitAction} (h : app.exit cfg caller a = some app')
    : app'.daq.listenPc = app.daq.listenPc ∧ app'.daq.reader = app.daq.reader := by
  cases exit_effect h with
  | exchangeStopped _ daq _ _ hdaq =>
    cases hdaq
    simp [setExitPc]
  | abortQueue _ daq _ hdaq =>
    have hnext : app.daq.next cfg.daq .abortQueue = some daq := hdaq
    cases Acquisition.next_effect hnext <;> simp [setExitPc]
  | _ => simp [setExitPc]

theorem readingEnds_exit {caller : ExitCaller} {a : ExitAction}
    (h : app.exit cfg caller a = some app') (hends : app.ReadingEnds)
    : app'.ReadingEnds := by
  rcases exit_keeps h with ⟨_, hlisten, hsignal, hreading, _⟩
  unfold ReadingEnds at *
  rw [hreading, hlisten, hsignal, (listenPc_exit h).1]
  exact hends

/--
A call of `exit` that gets to its send by itself: the Starter has its reply, and the reading needs no
other input to end or the call has already seen the end of it.
-/
structure TurnsOff (caller : ExitCaller) (app : App bufferSize) : Prop where
  inv : app.AppInv
  order : app.ReplyOrder
  replied : app.starterReplied = true
  comes : app.Comes caller
  ends : app.ReadingEnds ∨ isBehindReading (app.exitRun caller).pc = true

def Sends (app : App bufferSize) : Prop :=
  ∃ caller, isSending (app.exitRun caller).pc = true

def NearsSend (cfg : Config) (caller : ExitCaller) (app : App bufferSize) : Prop :=
  ∃ a app', needsNoInput a = true ∧ next cfg app a = some app' ∧ app'.TurnsOff caller ∧
    app'.remaining caller < app.remaining caller

variable {caller : ExitCaller}

theorem TurnsOff.of_exit (h : app.TurnsOff caller) {a : ExitAction}
    (hinput : needsNoInput (.exit caller a : Action bufferSize) = true)
    (hexit : app.exit cfg caller a = some app') (hawake : isAwake (app'.exitRun caller).pc = true)
    (hbehind : isBehindReading (app.exitRun caller).pc = true →
      isBehindReading (app'.exitRun caller).pc = true)
    (hrank : exitRank (app'.exitRun caller).pc < exitRank (app.exitRun caller).pc)
    : app.NearsSend cfg caller := by
  have hnext : next cfg app (.exit caller a) = some app' := hexit
  refine ⟨_, app', hinput, hnext, ?_, remaining_lt_of_exitRank hrank⟩
  refine ⟨appInv_next h.inv hnext, replyOrder_next h.inv h.order hnext,
    starterReplied_next h.replied hnext, Or.inl hawake, ?_⟩
  exact h.ends.imp (readingEnds_exit hexit) hbehind

theorem TurnsOff.of_approaches (h : app.TurnsOff caller)
    (hawake : isAwake (app.exitRun caller).pc = true)
    (hends : ∃ a app', needsNoInput a = true ∧ next cfg app a = some app' ∧ app.Approaches app')
    : app.NearsSend cfg caller := by
  rcases hends with ⟨a, app', hinput, hnext, happroaches⟩
  refine ⟨a, app', hinput, hnext, ?_, remaining_lt_of_approaches happroaches caller⟩
  refine ⟨appInv_next h.inv hnext, replyOrder_next h.inv h.order hnext,
    starterReplied_next h.replied hnext, ?_, ?_⟩
  . left
    rw [happroaches.exits caller, hawake]
  . rw [happroaches.exits caller]
    exact h.ends.imp happroaches.reading id

theorem moves_advance (h : app.exit cfg caller .advance = some app')
    (hsending : isSending (app.exitRun caller).pc = false)
    : isAwake (app'.exitRun caller).pc = true ∧
      (isBehindReading (app.exitRun caller).pc = true →
        isBehindReading (app'.exitRun caller).pc = true) := by
  cases exit_effect h with
  | sendAcqOff _ _ hpc _
  | storeAcqOn _ hpc
  | resetGuard _ hpc => simp [hpc, isSending] at hsending
  | cancelSignals _ _ hpc
  | alreadyStopped _ hpc _
  | exchangeStopped _ _ hpc _ _
  | stopMonitor _ hpc
  | abortQueue _ _ hpc _
  | storeAcqOff _ hpc
  | listenStopper _ _ hpc _ => simp [setExitPc, hpc, isAwake, goesOn, isBehindReading, isSending]

theorem TurnsOff.advance (h : app.TurnsOff caller) (hsends : ¬ app.Sends)
    (hadvance : ∃ app', app.exit cfg caller .advance = some app')
    : app.NearsSend cfg caller := by
  rcases hadvance with ⟨app', hexit⟩
  have hsending := Bool.eq_false_iff.mpr fun hsending => hsends ⟨caller, hsending⟩
  rcases moves_advance hexit hsending with ⟨hawake, hbehind⟩
  exact h.of_exit rfl hexit hawake hbehind (exitRank_advance hexit).1

theorem TurnsOff.found (h : app.TurnsOff caller) (condition : Status → Bool)
    (waits : WaitPc → ExitPc) (next : ExitPc) (hcondition : condition app.status = true)
    (hexit : app.exit cfg caller (.wait .test)
      = app.waitForStatus condition .testing waits next caller .test)
    (hawake : isAwake next = true) (hbehind : isBehindReading next = true)
    (hrank : exitRank next < exitRank (app.exitRun caller).pc)
    : app.NearsSend cfg caller := by
  have hfound : app.exit cfg caller (.wait .test) = some (app.setExitPc caller next) := by
    rw [hexit, waitForStatus]
    simp [WaitPc.next, hcondition]
  apply h.of_exit rfl hfound
  . simpa [setExitPc] using hawake
  . intro _
    simpa [setExitPc] using hbehind
  . simpa [setExitPc] using hrank

theorem TurnsOff.waitReading (h : app.TurnsOff caller)
    (hpc : (app.exitRun caller).pc = .waitReading .testing)
    : app.NearsSend cfg caller := by
  by_cases hreading : app.status.isReading = true
  . have hends : app.ReadingEnds := by
      apply h.ends.resolve_right
      simp [hpc, isBehindReading, isSending]
    have hoff := (h.inv.exits.runs caller).off .testing hpc
    exact h.of_approaches (by simp [hpc, isAwake]) (approaches_reader hreading hoff hends)
  . apply h.found (fun status => not status.isReading) .waitReading (.waitAcqOn .testing)
    . simpa using hreading
    . simp [exit, hpc]
    . rfl
    . rfl
    . simp [hpc, exitRank, WaitPc.rank]

theorem TurnsOff.waitAcqOn (h : app.TurnsOff caller) (hsends : ¬ app.Sends)
    (hpc : (app.exitRun caller).pc = .waitAcqOn .testing)
    : app.NearsSend cfg caller := by
  by_cases hacq : app.status.isAcqOn = true
  . apply h.found (fun status => status.isAcqOn) .waitAcqOn .listenStopper hacq
    . simp [exit, hpc]
    . rfl
    . rfl
    . simp [hpc, exitRank, WaitPc.rank]
  . rw [Bool.not_eq_true] at hacq
    have hreplied := h.order.replied h.replied
    have hspawned : app.starterListen ≠ .notSpawned := by
      intro hnone
      simp [hnone, isBehindReply] at hreplied
    have hphases (other : ExitCaller) : app.phases other ≤ 5 ∨ app.phases other = 8 := by
      unfold phases
      cases hother : (app.exitRun other).pc with
      | resetGuard | returned => exact absurd ⟨other, by rw [hother]; rfl⟩ hsends
      | _ => simp [phase]
    apply h.of_approaches (by simp [hpc, isAwake])
    apply approaches_starter hacq
    rcases h.inv.starter.ends hacq hspawned hphases with hlisten | hsignal | ⟨hrunning, _⟩
    . exact Or.inl hlisten
    . exact Or.inr hsignal
    . simp [hrunning, isBehindReply] at hreplied

theorem TurnsOff.controlPortFree (h : app.TurnsOff caller) (hsends : ¬ app.Sends)
    (hpc : (app.exitRun caller).pc = .listenStopper)
    : app.controlPortFree = true := by
  rw [controlPortFree_iff]
  intro socket
  cases socket with
  | starter => exact h.inv.starter.exits caller (by simp [phases, hpc, phase])
  | stopper other =>
    have hnone : (app.exitRun other).stopper = none := by
      cases hother : (app.exitRun other).pc with
      | sendAcqOff | storeAcqOn | resetGuard | returned =>
        exact absurd ⟨other, by rw [hother]; rfl⟩ hsends
      | raised exception => exact h.order.raised other (by simp [hother, hasRaised])
      | _ => exact (h.inv.exits.runs other).early (by simp [hother, phase])
    simp [holdsPort, hnone]

theorem TurnsOff.call (h : app.TurnsOff caller) (hpc : (app.exitRun caller).pc = .notCalled)
    (hcall : (app.callExit caller).isSome = true)
    : app.NearsSend cfg caller := by
  rcases Option.isSome_iff_exists.mp hcall with ⟨app', hcalled⟩
  have hexit : app.exit cfg caller .call = some app' := by
    rw [← hcalled]
    simp only [exit, hpc]
  have hpc' : (app'.exitRun caller).pc = .cancelSignals := by
    cases exit_effect hexit <;> rfl
  apply h.of_exit rfl hexit
  . simp [hpc', isAwake, goesOn]
  . simp [hpc, isBehindReading, isSending]
  . simp [hpc, hpc', exitRank]

theorem TurnsOff.nearsSend (h : app.TurnsOff caller) (hsends : ¬ app.Sends)
    : app.NearsSend cfg caller := by
  rcases h.comes with hawake | ⟨hpc, hcall⟩
  . cases hpc : (app.exitRun caller).pc with
    | notCalled | returned | raised _ => simp [hpc, isAwake, goesOn] at hawake
    | waitReading pc =>
      cases pc with
      | testing => exact h.waitReading hpc
      | _ => simp [hpc, isAwake, goesOn] at hawake
    | waitAcqOn pc =>
      cases pc with
      | testing => exact h.waitAcqOn hsends hpc
      | _ => simp [hpc, isAwake, goesOn] at hawake
    | listenStopper =>
      exact h.advance hsends (exists_listenStopper hpc (h.controlPortFree hsends hpc))
    | _ => exact h.advance hsends (exists_advance h.inv.exits (by rw [hpc]; rfl))
  . exact h.call hpc hcall

theorem TurnsOff.exists_sends (h : app.TurnsOff caller)
    : ∃ later, (system bufferSize cfg).LeadsBy (fun a => needsNoInput a = true) app later ∧
        later.Sends := by
  refine TransitionSystem.exists_leadsBy (remaining caller) ?_ h
  intro app hturns hsends
  exact hturns.nearsSend hsends

theorem hasSent_sendAcqOff (hpc : (app.exitRun caller).pc = .sendAcqOff)
    (h : app.exit cfg caller .advance = some app')
    : hasSent (app'.exitRun caller).pc = true := by
  simp only [exit, hpc, App.sendAcqOff] at h
  split at h
  . cases h
  . cases h
    simp [hasSent]

theorem exists_issued (hzpp : cfg.daq.zpp.Lawful ReceiveDataHeader.wireFormat)
    (h : (system bufferSize cfg).Reachable app) (hsends : app.Sends)
    : ∃ later, (system bufferSize cfg).LeadsBy (fun a => needsNoInput a = true) app later ∧
        later.AcqOffIssued := by
  have hcommand := commandInv_reachable hzpp h
  rcases hsends with ⟨caller, hsending⟩
  by_cases hpc : (app.exitRun caller).pc = .sendAcqOff
  . have hadvance : ∃ app', app.exit cfg caller .advance = some app' := by
      apply exists_advance (appInv_reachable h).exits
      simp [hpc, goesOn]
    rcases hadvance with ⟨app', hexit⟩
    have hnext : next cfg app (.exit caller .advance) = some app' := hexit
    refine ⟨app', Relation.ReflTransGen.single ⟨.exit caller .advance, rfl, hnext⟩, ?_⟩
    rw [acqOffIssued_iff (commandInv_next hzpp hcommand hnext)]
    exact ⟨caller, hasSent_sendAcqOff hpc hexit⟩
  . refine ⟨app, .refl, (acqOffIssued_iff hcommand).mpr ⟨caller, ?_⟩⟩
    cases hplace : (app.exitRun caller).pc <;> simp [hplace, isSending, hasSent] at hsending hpc ⊢

/-
The two inputs that end the reading.
-/

def bringsEnd : Action bufferSize → Bool
  | .daq (.receive _) => true
  | .signal .sigint => true
  | _ => false

/--
The reader waits for a datagram, and every call of `exit` for the reader, unless it has given up.
-/
structure KeepsReading (app : App bufferSize) : Prop where
  reading : app.status.isReading = true
  listen : app.readerListen = .running
  receives : app.daq.listenPc = .receiving
  isOpen : app.daq.reader.isOpen = true
  signal : endsReading app.readerSignal = false
  stage : stage .listenReader < stage app.mainPc
  exits : ∀ caller, isBehindReading (app.exitRun caller).pc = false

theorem KeepsReading.not_issued (h : app.KeepsReading) (hcommand : CommandInv cfg app)
    : ¬ app.AcqOffIssued := by
  rw [acqOffIssued_iff hcommand]
  rintro ⟨caller, hsent⟩
  have hexits := h.exits caller
  cases hpc : (app.exitRun caller).pc <;>
    simp [hpc, hasSent, isBehindReading, isSending] at hsent hexits

theorem behindReading_exit {a : ExitAction} (hreading : app.status.isReading = true)
    (hbehind : isBehindReading (app.exitRun caller).pc = false)
    (h : app.exit cfg caller a = some app')
    : isBehindReading (app'.exitRun caller).pc = false := by
  cases exit_effect h with
  | isNotReading _ _ pc _ hwait =>
    cases WaitPc.next_effect hwait with
    | found hfound => simp [hreading] at hfound
  | isAcqOn _ _ _ hpc _
  | waitAcqOn _ _ _ _ hpc _
  | timeOutAcqOn _ _ _ hpc _
  | listenStopper _ _ hpc _
  | listenFails _ hpc
  | sendAcqOff _ _ hpc _
  | storeAcqOn _ hpc
  | resetGuard _ hpc => simp [hpc, isBehindReading, isSending] at hbehind
  | callHandler _ _ => rfl
  | callAnalysis _ _ _ => rfl
  | _ => simp [setExitPc, isBehindReading, isSending]

theorem behindReading_touched {run run' : ExitRun} (h : Touched run run')
    : isBehindReading run'.pc = isBehindReading run.pc := by
  cases h with
  | same => rfl
  | notified => cases run.pc <;> rfl
  | stopperEnded _ => rfl

theorem behindReading_next {a : Action bufferSize} (hinv : app.KeepsReading)
    (h : next cfg app a = some app') (caller : ExitCaller)
    : isBehindReading (app'.exitRun caller).pc = false := by
  rcases exit_or_beside h with ⟨other, b, rfl⟩ | hbeside
  . by_cases heq : caller = other
    . subst heq
      exact behindReading_exit hinv.reading (hinv.exits caller) h
    . rw [exitRun_exit_of_ne h heq]
      exact hinv.exits caller
  . rw [behindReading_touched (hbeside.exitRun caller)]
    exact hinv.exits caller

theorem receiving_next {daq daq' : Acquisition bufferSize} {b : Acquisition.Action bufferSize}
    (hreceives : daq.listenPc = .receiving) (hopen : daq.reader.isOpen = true)
    (hclose : b ≠ .closeSocket) (hdatagram : ∀ datagram, b ≠ .receive datagram)
    (h : daq.next cfg.daq b = some daq')
    : daq'.listenPc = .receiving ∧ daq'.reader.isOpen = true := by
  cases Acquisition.next_effect h with
  | closeSocket => contradiction
  | receive datagram _ _ => exact absurd rfl (hdatagram datagram)
  | listen _ hpc
  | countBytes _ hpc
  | emplace _ hpc _
  | drop _ hpc _
  | resetBuffer hpc
  | goOnReading hpc
  | leaveReading hpc => simp [hreceives] at hpc
  | cancelReceive _ hclosed => simp [hopen] at hclosed
  | _ => exact ⟨hreceives, hopen⟩

theorem keepsReading_coroutine {c : Coroutine} (hinv : app.KeepsReading)
    (hexits : ∀ caller, isBehindReading (app'.exitRun caller).pc = false)
    (h : next cfg app (.coroutine c) = some app')
    : app'.KeepsReading := by
  have hsignal := hinv.signal
  cases next_effect h with
  | leaveReading _ hleft => simp [hinv.receives] at hleft
  | armSignal _ hpc | notify _ hpc =>
    cases c with
    | readerListen => simp [coroutinePc, hinv.listen] at hpc
    | readerSignal =>
      exact ⟨hinv.reading, hinv.listen, hinv.receives, hinv.isOpen, rfl, hinv.stage, hexits⟩
    | _ =>
      exact ⟨hinv.reading, hinv.listen, hinv.receives, hinv.isOpen, hsignal, hinv.stage, hexits⟩
  | storeStatus _ hpc =>
    cases c with
    | readerListen => simp [coroutinePc, hinv.listen] at hpc
    | readerSignal =>
      simp only [coroutinePc] at hpc
      simp [hpc, endsReading] at hsignal
    | _ =>
      exact ⟨hinv.reading, hinv.listen, hinv.receives, hinv.isOpen, hsignal, hinv.stage, hexits⟩
  | closeSocket _ _ hpc hclosed =>
    cases c with
    | readerListen => simp [coroutinePc, hinv.listen] at hpc
    | readerSignal =>
      simp only [coroutinePc] at hpc
      simp [hpc, endsReading] at hsignal
    | _ =>
      cases hclosed
      exact ⟨hinv.reading, hinv.listen, hinv.receives, hinv.isOpen, hsignal, hinv.stage, hexits⟩

theorem keepsReading_next {a : Action bufferSize} (hinv : app.KeepsReading)
    (hinput : bringsEnd a = false) (h : next cfg app a = some app')
    : app'.KeepsReading := by
  have hexits := behindReading_next hinv h
  have hstage := Nat.lt_of_lt_of_le hinv.stage (stage_next h)
  have hdaq {b : Acquisition.Action bufferSize} {daq : Acquisition bufferSize}
      (hclose : b ≠ .closeSocket) (hdatagram : ∀ datagram, b ≠ .receive datagram)
      (hnext : app.daq.next cfg.daq b = some daq)
      : daq.listenPc = .receiving ∧ daq.reader.isOpen = true :=
    receiving_next hinv.receives hinv.isOpen hclose hdatagram hnext
  cases next_effect h with
  | exit caller b _ heffect =>
    rcases exit_keeps h with ⟨_, hlisten, hsignal, hreading, _⟩
    rcases listenPc_exit h with ⟨hreceives, hreader⟩
    refine ⟨?_, ?_, ?_, ?_, ?_, hstage, hexits⟩
    . rw [hreading, hinv.reading]
    . rw [hlisten, hinv.listen]
    . rw [hreceives, hinv.receives]
    . rw [hreader, hinv.isOpen]
    . rw [hsignal, hinv.signal]
  | armSignal _ _
  | leaveReading _ _
  | closeSocket _ _ _ _
  | storeStatus _ _
  | notify _ _ => exact keepsReading_coroutine hinv hexits h
  | cancelCoroutine c hcancel =>
    cases c with
    | readerListen => simp [canCancel, hinv.receives] at hcancel
    | readerSignal => simp [canCancel, hinv.listen] at hcancel
    | _ =>
      exact ⟨hinv.reading, hinv.listen, hinv.receives, hinv.isOpen, hinv.signal, hstage, hexits⟩
  | storeReading _ hpc =>
    exact ⟨rfl, hinv.listen, hinv.receives, hinv.isOpen, hinv.signal, hstage, hexits⟩
  | listenReader _ hpc _ =>
    have hpast := hinv.stage
    simp [hpc] at hpast
  | start daq _ hnext =>
    rcases hdaq (b := .start) (by simp) (by simp) hnext with ⟨hreceives, hopen⟩
    exact ⟨hinv.reading, hinv.listen, hreceives, hopen, hinv.signal, hstage, hexits⟩
  | startRaises daq _ hnext =>
    rcases hdaq (b := .startRaises) (by simp) (by simp) hnext with ⟨hreceives, hopen⟩
    exact ⟨hinv.reading, hinv.listen, hreceives, hopen, hinv.signal, hstage, hexits⟩
  | daq b daq hown hnext =>
    have hkeeps : daq.listenPc = .receiving ∧ daq.reader.isOpen = true := by
      apply hdaq _ _ hnext
      . rintro rfl
        cases hown
      . rintro datagram rfl
        cases hinput
    exact ⟨hinv.reading, hinv.listen, hkeeps.1, hkeeps.2, hinv.signal, hstage, hexits⟩
  | signal sig =>
    refine ⟨hinv.reading, hinv.listen, hinv.receives, hinv.isOpen, ?_, hstage, hexits⟩
    cases sig with
    | sigint => cases hinput
    | sigterm => simpa [App.signal] using hinv.signal
  | endStopper caller _ =>
    cases caller <;>
      exact ⟨hinv.reading, hinv.listen, hinv.receives, hinv.isOpen, hinv.signal, hstage, hexits⟩
  | _ => exact ⟨hinv.reading, hinv.listen, hinv.receives, hinv.isOpen, hinv.signal, hstage, hexits⟩

theorem keepsReading_of_not_readingEnds (hinv : app.AppInv) (horder : app.ReplyOrder)
    (hreplied : app.starterReplied = true) (hnot : ¬ app.ReadingEnds)
    (hexits : ∀ caller, isBehindReading (app.exitRun caller).pc = false)
    : app.KeepsReading := by
  have hreading : app.status.isReading = true := by
    rw [← Bool.not_eq_false]
    exact fun hidle => hnot (Or.inl hidle)
  have hbehind := horder.replied hreplied
  have hspawned : app.readerListen ≠ .notSpawned := by
    apply horder.starter
    intro hnone
    simp [hnone, isBehindReply] at hbehind
  rcases receives_of_not_readingEnds (hinv.reader.ends hreading hspawned) hnot with
    ⟨hlisten, hreceives, hopen⟩
  refine ⟨hreading, hlisten, hreceives, hopen, ?_, ?_, hexits⟩
  . rw [Bool.eq_false_iff]
    exact fun hsignal => hnot (Or.inr (Or.inr (Or.inl hsignal)))
  . exact Nat.lt_of_not_le fun hstage => hspawned (hinv.reader.unspawned hstage)

theorem KeepsReading.receive (h : app.KeepsReading) (datagram : Datagram bufferSize)
    : ∃ received, next cfg app (.daq (.receive datagram)) = some received ∧
        received.ReadingEnds := by
  have hnext : app.daq.next cfg.daq (.receive datagram)
      = some { app.daq with
          reader := (app.daq.reader.asyncReceive datagram.bytes).1
          listenPc := .received (app.daq.reader.asyncReceive datagram.bytes).2
          arrived := app.daq.arrived ++ [datagram.bytes] } := by
    simp [Acquisition.next, Acquisition.receive, h.receives, h.isOpen]
  refine ⟨_, by simp [next, acquire, isOwn, hnext]; rfl, ?_⟩
  exact Or.inr (Or.inr (Or.inr ⟨h.listen, rfl⟩))

theorem KeepsReading.signal_readingEnds (h : app.KeepsReading) (sig : Signal)
    : (app.signal sig).ReadingEnds ↔ sig = .sigint ∧ app.readerSignal = .running := by
  have hsignal := h.signal
  unfold ReadingEnds
  by_cases hcompletes : sig = .sigint ∧ app.readerSignal = .running
  . simp [App.signal, hcompletes, endsReading]
  . have hsame : (if sig = .sigint && app.readerSignal = .running then CoroutinePc.closeSocket
        else app.readerSignal) = app.readerSignal := by
      simpa using fun hsig hrunning => absurd ⟨hsig, hrunning⟩ hcompletes
    simp only [App.signal, hsame, h.reading, h.listen, h.receives, hsignal, hcompletes]
    simp [endsReading, Acquisition.holdsDatagram]

/--
In a run, no call of `exit` ends before the acq-off command was issued if and only if none of them gives
up in front of the send of the other one. What has to come for that, once the Starter has its reply,
depends on the cause and on the traffic. A call that is awake needs nothing more where the end of the
reading is under way, or behind it. Elsewhere every call waits for a datagram or for a SIGINT that the
reader waits for as well, and neither SIGTERM nor anything else helps.
-/
theorem exit_turns_off_iff (cfg : Config) (hzpp : cfg.daq.zpp.Lawful ReceiveDataHeader.wireFormat)
    (as : List (Action bufferSize)) (app : App bufferSize)
    (hexec : (system bufferSize cfg).exec (init bufferSize cfg) as = some app)
    : ((system bufferSize cfg).Along (fun app => app.ExitEnded → app.AcqOffIssued)
            (init bufferSize cfg) as
          ↔
        (system bufferSize cfg).StepsMeet GivesUpBehindSend (init bufferSize cfg) as) ∧
      (app.starterReplied = true →
        (∀ caller, app.Comes caller →
          app.ReadingEnds ∨ isBehindReading (app.exitRun caller).pc = true →
            ∃ later, (system bufferSize cfg).LeadsBy (fun a => needsNoInput a = true) app later ∧
              later.AcqOffIssued) ∧
        (¬ app.ReadingEnds → (∀ caller, isBehindReading (app.exitRun caller).pc = false) →
          (∀ later, (system bufferSize cfg).LeadsBy (fun a => bringsEnd a = false) app later →
            ¬ later.AcqOffIssued) ∧
          (∀ datagram, ∃ received, next cfg app (.daq (.receive datagram)) = some received ∧
            received.ReadingEnds) ∧
          ∀ sig, (app.signal sig).ReadingEnds ↔ sig = .sigint ∧ app.readerSignal = .running)) := by
  have hreachable : (system bufferSize cfg).Reachable app := .of_exec hexec
  have hinv := appInv_reachable hreachable
  have horder := replyOrder_reachable hreachable
  refine ⟨turnedOff_iff hzpp hexec, ?_⟩
  intro hreplied
  constructor
  . intro caller hcomes hends
    have hturns : app.TurnsOff caller := ⟨hinv, horder, hreplied, hcomes, hends⟩
    rcases hturns.exists_sends with ⟨between, hleads, hsends⟩
    rcases exists_issued hzpp (hreachable.trans hleads.leads) hsends with ⟨later, hrest, hissued⟩
    exact ⟨later, hleads.trans hrest, hissued⟩
  . intro hnot hexits
    have hkeeps := keepsReading_of_not_readingEnds hinv horder hreplied hnot hexits
    refine ⟨?_, hkeeps.receive, hkeeps.signal_readingEnds⟩
    intro later hleads
    have hlater : later.KeepsReading := by
      apply hleads.invariant _ hkeeps
      intro app a app' hkeeps hinput hnext
      exact keepsReading_next hkeeps hinput hnext
    exact hlater.not_issued (commandInv_reachable hzpp (hreachable.trans hleads.leads))

def terminatedReading : List (Action 20) :=
  startUp ++ .signal .sigterm :: stopProcessor

/--
A shutdown on SIGINT, one on SIGTERM in front of a datagram, and one on SIGTERM with no datagram to
come.
-/
theorem exit_turns_off_iff_example
    : (system 20 plainConfig).Along (fun app => app.ExitEnded → app.AcqOffIssued)
          (init 20 plainConfig) interrupted ∧
      (∃ app later, (system 20 plainConfig).exec (init 20 plainConfig)
            (terminatedReading ++ [.daq (.receive ⟨List.replicate 16 1, length_ones⟩)]) = some app ∧
          (system 20 plainConfig).LeadsBy (fun a => needsNoInput a = true) app later ∧
          later.AcqOffIssued) ∧
      ∃ app, (system 20 plainConfig).exec (init 20 plainConfig) terminatedReading = some app ∧
        ∀ later, (system 20 plainConfig).LeadsBy (fun a => bringsEnd a = false) app later →
          ¬ later.AcqOffIssued := by
  have hlawful := ZppBits.reference_lawful ReceiveDataHeader.wireFormat
  refine ⟨?_, ?_, ?_⟩
  . have hexec : ((system 20 plainConfig).exec (init 20 plainConfig) interrupted).isSome = true := by
      decide +kernel
    rcases Option.isSome_iff_exists.mp hexec with ⟨app, happ⟩
    rw [(exit_turns_off_iff plainConfig hlawful interrupted app happ).1]
    decide +kernel
  . have hrun : ((system 20 plainConfig).exec (init 20 plainConfig)
          (terminatedReading ++ [.daq (.receive ⟨List.replicate 16 1, length_ones⟩)])).map
            (fun app => decide (app.starterReplied = true ∧ app.readerListen = .running ∧
              Acquisition.holdsDatagram app.daq.listenPc = true ∧
              isAwake (app.exitRun .handler).pc = true))
        = some true := by
      decide +kernel
    rcases Option.map_eq_some_iff.mp hrun with ⟨app, hexec, happ⟩
    rcases of_decide_eq_true happ with ⟨hreplied, hlisten, hholds, hawake⟩
    have hends : app.ReadingEnds := Or.inr (Or.inr (Or.inr ⟨hlisten, hholds⟩))
    rcases ((exit_turns_off_iff plainConfig hlawful _ app hexec).2 hreplied).1 .handler
      (Or.inl hawake) (Or.inl hends) with ⟨later, hleads, hissued⟩
    exact ⟨app, later, hexec, hleads, hissued⟩
  . have hrun : ((system 20 plainConfig).exec (init 20 plainConfig) terminatedReading).map
            (fun app => decide (app.starterReplied = true ∧ app.status.isReading = true ∧
              app.readerListen = .running ∧ app.readerSignal = .running ∧
              app.daq.listenPc = .receiving ∧ isBehindReading (app.exitRun .handler).pc = false ∧
              isBehindReading (app.exitRun .analysis).pc = false))
        = some true := by
      decide +kernel
    rcases Option.map_eq_some_iff.mp hrun with ⟨app, hexec, happ⟩
    rcases of_decide_eq_true happ with
      ⟨hreplied, hreading, hlisten, hsignal, hreceives, hhandler, hanalysis⟩
    have hnot : ¬ app.ReadingEnds := by
      simp [ReadingEnds, hreading, hlisten, hsignal, hreceives, endsReading,
        Acquisition.holdsDatagram]
    have hexits (caller : ExitCaller) : isBehindReading (app.exitRun caller).pc = false := by
      cases caller with
      | handler => exact hhandler
      | analysis => exact hanalysis
    exact ⟨app, hexec,
      (((exit_turns_off_iff plainConfig hlawful _ app hexec).2 hreplied).2 hnot hexits).1⟩

def terminated : List (Action 20) :=
  terminatedReading ++
    [.exit .handler (.wait .test), .exit .handler (.wait .enter), .exit .handler (.wait .timeOut)]

theorem terminated_stays_on
    : ∃ app, (system 20 plainConfig).exec (init 20 plainConfig) terminated = some app ∧
        app.starterReplied = true ∧ app.ExitEnded ∧ ¬ app.AcqOffIssued := by
  have hrun : ((system 20 plainConfig).exec (init 20 plainConfig) terminated).map
        (fun app => (app.starterReplied, isEnded (app.exitRun .handler).pc, app.acqOffIssued))
      = some (true, true, []) := by
    decide +kernel
  rcases Option.map_eq_some_iff.mp hrun with ⟨app, hexec, happ⟩
  simp only [Prod.mk.injEq] at happ
  rcases happ with ⟨hreplied, hended, hissued⟩
  refine ⟨app, hexec, hreplied, ⟨.handler, hended⟩, ?_⟩
  simp [AcqOffIssued, hissued]

end App

end Srs
