import SrsDaq.Shutdown

/-!
This module contains the race of the two callers of `exit` with each other and with the start-up.
Besides the state of the application, what has happened so far is kept in a list of events.
-/

namespace Srs

namespace App

variable {bufferSize : Nat}

inductive ExitEvent where
  | startedReader
  | startedLoop
  -- `DataProcessor::stop` has returned.
  | stopped (caller : ExitCaller)
  -- `is_reading` was found to be false, `switch_off` creates its Stopper.
  | createdStopper (caller : ExitCaller)
  | issuedAcqOff (caller : ExitCaller)
  | resetAcqOn (caller : ExitCaller)
  -- The wait for `is_acq_on` has timed out.
  | timedOut (caller : ExitCaller)
  deriving DecidableEq, Repr

def exitEvents (caller : ExitCaller) (before after : ExitPc) : List ExitEvent :=
  match before, after with
  | .exchangeStopped, .storeAcqOff => [.stopped caller]
  | .abortQueue, .storeAcqOff => [.stopped caller]
  | .waitReading _, .waitAcqOn _ => [.createdStopper caller]
  | .sendAcqOff, .storeAcqOn => [.issuedAcqOff caller]
  | .storeAcqOn, .resetGuard => [.resetAcqOn caller]
  | .waitAcqOn _, .raised _ => [.timedOut caller]
  | _, _ => []

def mainEvents (before after : MainPc) : List ExitEvent :=
  match before, after with
  | .listenReader, .listenStarter => [.startedReader]
  | .startProcessor, .join => [.startedLoop]
  | _, _ => []

def events (app : App bufferSize) (a : Action bufferSize) (app' : App bufferSize)
    : List ExitEvent :=
  match a with
  | .exit caller _ => exitEvents caller (app.exitRun caller).pc (app'.exitRun caller).pc
  | .main _ => mainEvents app.mainPc app'.mainPc
  | _ => []

abbrev Recorded (bufferSize : Nat) := App bufferSize × List ExitEvent

def recorded (bufferSize : Nat) (cfg : Config)
    : TransitionSystem (Recorded bufferSize) (Action bufferSize) :=
  (system bufferSize cfg).withHistory events

/--
No event of the second kind comes behind one of the first kind.
-/
def Excludes (first second : ExitEvent → Bool) (log : List ExitEvent) : Prop :=
  log.Pairwise fun before after => first before = true → second after = false

theorem excludes_append_singleton {first second : ExitEvent → Bool} {log : List ExitEvent}
    (h : Excludes first second log) {event : ExitEvent}
    (hevent : second event = true → ∀ before ∈ log, first before = false)
    : Excludes first second (log ++ [event]) := by
  unfold Excludes
  rw [List.pairwise_append]
  refine ⟨h, List.pairwise_singleton _ _, ?_⟩
  intro before hbefore after hafter hfirst
  rw [List.mem_singleton] at hafter
  subst hafter
  rw [Bool.eq_false_iff]
  intro hsecond
  rw [hevent hsecond before hbefore] at hfirst
  cases hfirst

/-
Two calls of `exit`.
-/

def createsStopper : ExitEvent → Bool
  | .createdStopper _ => true
  | _ => false

def issuesAcqOff : ExitEvent → Bool
  | .issuedAcqOff _ => true
  | _ => false

def resetsAcqOn : ExitEvent → Bool
  | .resetAcqOn _ => true
  | _ => false

def timesOut : ExitEvent → Bool
  | .timedOut _ => true
  | _ => false

/--
One call at most creates a Stopper and one at most issues the acq-off command, and no wait for
`is_acq_on` times out behind the reset of it.
-/
structure RunsOnce (s : Recorded bufferSize) : Prop where
  creates : s.2.countP createsStopper ≤ 1
  issues : s.2.countP issuesAcqOff ≤ 1
  waits : Excludes resetsAcqOn timesOut s.2

/--
No call finds `is_reading` false after the other one did.
-/
def FindsAlone (s : Recorded bufferSize) : Action bufferSize → Prop
  | .exit caller (.wait .test) =>
    (s.1.exitRun caller).pc = .waitReading .testing → s.1.status.isReading = false →
      ∀ event ∈ s.2, createsStopper event = false
  | _ => True

instance (s : Recorded bufferSize) : (a : Action bufferSize) → Decidable (FindsAlone s a)
  | .exit _ (.wait .test) => inferInstanceAs (Decidable (_ → _ → _))
  | .exit _ (.wait .enter) => .isTrue trivial
  | .exit _ (.wait .wake) => .isTrue trivial
  | .exit _ (.wait .timeOut) => .isTrue trivial
  | .exit _ .call => .isTrue trivial
  | .exit _ .advance => .isTrue trivial
  | .exit _ .listenFails => .isTrue trivial
  | .main _ => .isTrue trivial
  | .signal _ => .isTrue trivial
  | .daq _ => .isTrue trivial
  | .receiveReply => .isTrue trivial
  | .coroutine _ => .isTrue trivial
  | .cancelCoroutine _ => .isTrue trivial
  | .endStopper _ => .isTrue trivial

def phase : ExitPc → Nat
  | .waitAcqOn _ => 2
  | .listenStopper => 3
  | .sendAcqOff => 4
  | .storeAcqOn => 5
  | .resetGuard => 6
  | .returned => 7
  | .raised _ => 8
  | _ => 1

def phases (app : App bufferSize) (caller : ExitCaller) : Nat :=
  phase (app.exitRun caller).pc

def isQuiet : ExitEvent → Bool
  | .startedReader => true
  | .startedLoop => true
  | .stopped _ => true
  | _ => false

inductive Moves (caller : ExitCaller) (found : Prop) : Nat → Nat → List ExitEvent → Prop where
  | quiet (p p') (es : List ExitEvent) (hle : p ≤ p') (hbehind : 2 ≤ p' → p' ≤ 7 → 2 ≤ p)
    (hes : es = [] ∨ ∃ event, es = [event] ∧ isQuiet event = true)
    : Moves caller found p p' es
  | create (hfound : found) : Moves caller found 1 2 [.createdStopper caller]
  | issue : Moves caller found 4 5 [.issuedAcqOff caller]
  | reset : Moves caller found 5 6 [.resetAcqOn caller]
  | timeOut : Moves caller found 2 8 [.timedOut caller]

variable {cfg : Config} {app app' : App bufferSize}

def FindsIdle (app : App bufferSize) (caller : ExitCaller) (a : ExitAction) : Prop :=
  a = .wait .test ∧ (app.exitRun caller).pc = .waitReading .testing ∧
  app.status.isReading = false

theorem findsIdle_of_returned {caller : ExitCaller} {a : WaitAction} {pc : WaitPc}
    (hpc : (app.exitRun caller).pc = .waitReading pc)
    (hwait : pc.next (fun status => not status.isReading) app.status a = some .returned)
    : app.FindsIdle caller (.wait a) := by
  cases WaitPc.next_effect hwait with
  | found hfound => exact ⟨rfl, hpc, by simpa using hfound⟩

theorem exit_moves {caller : ExitCaller} {a : ExitAction} (h : app.exit cfg caller a = some app')
    : Moves caller (app.FindsIdle caller a) (app.phases caller) (app'.phases caller)
        (events app (.exit caller a) app') := by
  change Moves caller (app.FindsIdle caller a) (phase (app.exitRun caller).pc)
    (phase (app'.exitRun caller).pc)
    (exitEvents caller (app.exitRun caller).pc (app'.exitRun caller).pc)
  cases exit_effect h with
  | callHandler hpc hsignal =>
    rw [show (app.exitRun .handler).pc = .notCalled from hpc]
    apply Moves.quiet <;> simp [phase, exitRun, exitEvents]
  | callAnalysis phase hpc hfailed =>
    rw [show (app.exitRun .analysis).pc = .notCalled from hpc]
    apply Moves.quiet <;> simp [App.phase, exitRun, exitEvents]
  | isNotReading _ _ pc hpc hwait =>
    have hfound := findsIdle_of_returned hpc hwait
    rw [hpc]
    simp only [setExitPc, exitRun_setExitRun, exitEvents]
    exact .create hfound
  | timeOutAcqOn _ _ pc hpc hwait =>
    rw [hpc]
    simp only [setExitPc, exitRun_setExitRun, exitEvents]
    exact .timeOut
  | sendAcqOff _ stopper hpc hstopper =>
    rw [hpc]
    simp only [exitRun_setExitRun, exitEvents]
    exact .issue
  | storeAcqOn _ hpc =>
    rw [hpc]
    simp only [setExitPc, exitRun_setExitRun, exitEvents]
    exact .reset
  | cancelSignals _ _ hpc
  | alreadyStopped _ hpc _
  | exchangeStopped _ _ hpc _ _
  | stopMonitor _ hpc
  | abortQueue _ _ hpc _
  | storeAcqOff _ hpc
  | waitReading _ _ _ _ hpc _
  | timeOutReading _ _ _ hpc _
  | waitAcqOn _ _ _ _ hpc _
  | isAcqOn _ _ _ hpc _
  | listenStopper _ _ hpc _
  | listenFails _ hpc
  | resetGuard _ hpc =>
    rw [hpc]
    simp only [setExitPc, exitRun_setExitRun]
    apply Moves.quiet <;> simp [phase, exitEvents, isQuiet]

structure OnceInv (ph : ExitCaller → Nat) (log : List ExitEvent) : Prop where
  creates : log.countP createsStopper ≤ 1
  issues : log.countP issuesAcqOff ≤ 1
  waits : Excludes resetsAcqOn timesOut log
  behind : ∀ c, 2 ≤ ph c → ph c ≤ 7 → .createdStopper c ∈ log
  created : ∀ c, .createdStopper c ∈ log → 2 ≤ ph c
  issued : ∀ c, .issuedAcqOff c ∈ log → 5 ≤ ph c ∧ .createdStopper c ∈ log
  reset : ∀ c, .resetAcqOn c ∈ log → 6 ≤ ph c ∧ .createdStopper c ∈ log

variable {ph ph' : ExitCaller → Nat} {log : List ExitEvent}

theorem OnceInv.creator_eq (h : OnceInv ph log) {c c' : ExitCaller}
    (hc : .createdStopper c ∈ log) (hc' : .createdStopper c' ∈ log)
    : c = c' := by
  have hlength := h.creates
  rw [List.countP_eq_length_filter] at hlength
  have hmem : ExitEvent.createdStopper c ∈ log.filter createsStopper :=
    List.mem_filter.mpr ⟨hc, rfl⟩
  have hmem' : ExitEvent.createdStopper c' ∈ log.filter createsStopper :=
    List.mem_filter.mpr ⟨hc', rfl⟩
  generalize log.filter createsStopper = creators at hlength hmem hmem'
  rcases creators with _ | ⟨event, _ | _⟩
  . simp at hmem
  . simp only [List.mem_singleton] at hmem hmem'
    rw [← hmem'] at hmem
    injection hmem
  . simp at hlength

theorem OnceInv.append (h : OnceInv ph log) (hmono : ∀ c, ph c ≤ ph' c) {es : List ExitEvent}
    (hcreates : (log ++ es).countP createsStopper ≤ 1)
    (hissues : (log ++ es).countP issuesAcqOff ≤ 1)
    (hwaits : Excludes resetsAcqOn timesOut (log ++ es))
    (hbehind : ∀ c, 2 ≤ ph' c → ph' c ≤ 7 → .createdStopper c ∈ log ++ es)
    (hcreated : ∀ c, .createdStopper c ∈ es → 2 ≤ ph' c)
    (hissued : ∀ c, .issuedAcqOff c ∈ es → 5 ≤ ph' c ∧ .createdStopper c ∈ log)
    (hreset : ∀ c, .resetAcqOn c ∈ es → 6 ≤ ph' c ∧ .createdStopper c ∈ log)
    : OnceInv ph' (log ++ es) := by
  refine ⟨hcreates, hissues, hwaits, hbehind, ?_, ?_, ?_⟩
  . intro c hmem
    rcases List.mem_append.mp hmem with hmem | hmem
    . apply Nat.le_trans (h.created c hmem) (hmono c)
    . apply hcreated c hmem
  . intro c hmem
    rcases List.mem_append.mp hmem with hmem | hmem
    . rcases h.issued c hmem with ⟨hphase, hcreator⟩
      exact ⟨Nat.le_trans hphase (hmono c), List.mem_append_left _ hcreator⟩
    . rcases hissued c hmem with ⟨hphase, hcreator⟩
      exact ⟨hphase, List.mem_append_left _ hcreator⟩
  . intro c hmem
    rcases List.mem_append.mp hmem with hmem | hmem
    . rcases h.reset c hmem with ⟨hphase, hcreator⟩
      exact ⟨Nat.le_trans hphase (hmono c), List.mem_append_left _ hcreator⟩
    . rcases hreset c hmem with ⟨hphase, hcreator⟩
      exact ⟨hphase, List.mem_append_left _ hcreator⟩

theorem OnceInv.quiet (h : OnceInv ph log) (hmono : ∀ c, ph c ≤ ph' c)
    (hbehind : ∀ c, 2 ≤ ph' c → ph' c ≤ 7 → 2 ≤ ph c ∧ ph c ≤ 7) {es : List ExitEvent}
    (hes : es = [] ∨ ∃ event, es = [event] ∧ isQuiet event = true)
    : OnceInv ph' (log ++ es) := by
  have hcreator (c : ExitCaller) (hlow : 2 ≤ ph' c) (hhigh : ph' c ≤ 7)
      : .createdStopper c ∈ log ++ es := by
    rcases hbehind c hlow hhigh with ⟨hlow, hhigh⟩
    apply List.mem_append_left _ (h.behind c hlow hhigh)
  rcases hes with rfl | ⟨event, rfl, hquiet⟩
  . apply h.append hmono <;> first | exact hcreator | simp [h.creates, h.issues, h.waits]
  . have hkinds : createsStopper event = false ∧ issuesAcqOff event = false ∧
        timesOut event = false := by
      cases event <;> first | contradiction | exact ⟨rfl, rfl, rfl⟩
    apply h.append hmono
    . simpa [hkinds.1] using h.creates
    . simpa [hkinds.2.1] using h.issues
    . apply excludes_append_singleton h.waits
      simp [hkinds.2.2]
    . exact hcreator
    all_goals
      intro c hmem
      rw [List.mem_singleton] at hmem
      rw [← hmem] at hquiet
      cases hquiet

/--
Only one of the calls moves, from `p` to `p'`.
-/
structure MovesAlone (ph ph' : ExitCaller → Nat) (caller : ExitCaller) (p p' : Nat) : Prop where
  own : ph caller = p
  own' : ph' caller = p'
  others : ∀ c, c ≠ caller → ph' c = ph c

variable {caller : ExitCaller} {p p' : Nat}

theorem MovesAlone.mono (h : MovesAlone ph ph' caller p p') (hle : p ≤ p') (c : ExitCaller)
    : ph c ≤ ph' c := by
  by_cases heq : c = caller
  . rw [heq, h.own, h.own']
    exact hle
  . rw [h.others c heq]

theorem OnceInv.behind_alone (h : OnceInv ph log) (halone : MovesAlone ph ph' caller p p')
    {es : List ExitEvent} (hown : 2 ≤ p' → p' ≤ 7 → .createdStopper caller ∈ log ++ es)
    (c : ExitCaller) (hlow : 2 ≤ ph' c) (hhigh : ph' c ≤ 7)
    : .createdStopper c ∈ log ++ es := by
  by_cases heq : c = caller
  . rw [heq, halone.own'] at hlow hhigh
    rw [heq]
    apply hown hlow hhigh
  . rw [halone.others c heq] at hlow hhigh
    apply List.mem_append_left _ (h.behind c hlow hhigh)

theorem OnceInv.quiet_alone (h : OnceInv ph log) (halone : MovesAlone ph ph' caller p p')
    (hle : p ≤ p') (hfrom : 2 ≤ p' → p' ≤ 7 → 2 ≤ p) {es : List ExitEvent}
    (hes : es = [] ∨ ∃ event, es = [event] ∧ isQuiet event = true)
    : OnceInv ph' (log ++ es) := by
  apply h.quiet (halone.mono hle) _ hes
  intro c hlow hhigh
  by_cases heq : c = caller
  . rw [heq, halone.own'] at hlow hhigh
    rw [heq, halone.own]
    exact ⟨hfrom hlow hhigh, by omega⟩
  . rw [halone.others c heq] at hlow hhigh
    exact ⟨hlow, hhigh⟩

theorem OnceInv.create (h : OnceInv ph log) (halone : MovesAlone ph ph' caller 1 2)
    (hnone : ∀ event ∈ log, createsStopper event = false)
    : OnceInv ph' (log ++ [.createdStopper caller]) := by
  apply h.append (halone.mono (by decide))
  . rw [List.countP_append, List.countP_eq_zero.mpr (by simpa using hnone)]
    simp [createsStopper]
  . simpa [issuesAcqOff] using h.issues
  . apply excludes_append_singleton h.waits (by simp [timesOut])
  . apply h.behind_alone halone
    simp
  . intro c hmem
    simp only [List.mem_singleton, ExitEvent.createdStopper.injEq] at hmem
    rw [hmem, halone.own']
  . simp
  . simp

theorem OnceInv.issue (h : OnceInv ph log) (halone : MovesAlone ph ph' caller 4 5)
    : OnceInv ph' (log ++ [.issuedAcqOff caller]) := by
  have hown := halone.own
  have hcreator := h.behind caller (by omega) (by omega)
  -- who has issued the command has created a Stopper, which is this call
  have hnone : ∀ event ∈ log, issuesAcqOff event = false := by
    intro event hmem
    cases event with
    | issuedAcqOff c =>
      rcases h.issued c hmem with ⟨hphase, hcreator'⟩
      rw [h.creator_eq hcreator' hcreator, hown] at hphase
      contradiction
    | _ => rfl
  apply h.append (halone.mono (by decide))
  . simpa [createsStopper] using h.creates
  . rw [List.countP_append, List.countP_eq_zero.mpr (by simpa using hnone)]
    simp [issuesAcqOff]
  . apply excludes_append_singleton h.waits (by simp [timesOut])
  . apply h.behind_alone halone
    intro _ _
    apply List.mem_append_left _ hcreator
  . simp
  . intro c hmem
    simp only [List.mem_singleton, ExitEvent.issuedAcqOff.injEq] at hmem
    rw [hmem, halone.own']
    exact ⟨Nat.le_refl 5, hcreator⟩
  . simp

theorem OnceInv.resetAcqOn (h : OnceInv ph log) (halone : MovesAlone ph ph' caller 5 6)
    : OnceInv ph' (log ++ [.resetAcqOn caller]) := by
  have hown := halone.own
  have hcreator := h.behind caller (by omega) (by omega)
  apply h.append (halone.mono (by decide))
  . simpa [createsStopper] using h.creates
  . simpa [issuesAcqOff] using h.issues
  . apply excludes_append_singleton h.waits (by simp [timesOut])
  . apply h.behind_alone halone
    intro _ _
    apply List.mem_append_left _ hcreator
  . simp
  . simp
  . intro c hmem
    simp only [List.mem_singleton, ExitEvent.resetAcqOn.injEq] at hmem
    rw [hmem, halone.own']
    exact ⟨Nat.le_refl 6, hcreator⟩

theorem OnceInv.timeOut (h : OnceInv ph log) (halone : MovesAlone ph ph' caller 2 8)
    : OnceInv ph' (log ++ [.timedOut caller]) := by
  have hown := halone.own
  have hcreator := h.behind caller (by omega) (by omega)
  apply h.append (halone.mono (by decide))
  . simpa [createsStopper] using h.creates
  . simpa [issuesAcqOff] using h.issues
  . apply excludes_append_singleton h.waits
    intro _ event hmem
    cases event with
    | resetAcqOn c =>
      rcases h.reset c hmem with ⟨hphase, hcreator'⟩
      rw [h.creator_eq hcreator' hcreator, hown] at hphase
      contradiction
    | _ => rfl
  . apply h.behind_alone halone
    omega
  . simp
  . simp
  . simp

theorem OnceInv.moves (h : OnceInv ph log) {found : Prop}
    (hother : ∀ c, c ≠ caller → ph' c = ph c) {es : List ExitEvent}
    (hmove : Moves caller found (ph caller) (ph' caller) es)
    (hok : found → ∀ event ∈ log, createsStopper event = false)
    : OnceInv ph' (log ++ es) := by
  have halone : MovesAlone ph ph' caller (ph caller) (ph' caller) := ⟨rfl, rfl, hother⟩
  generalize ph caller = p at hmove halone
  generalize ph' caller = p' at hmove halone
  cases hmove with
  | quiet _ _ _ hle hfrom hes => exact h.quiet_alone halone hle hfrom hes
  | create hfound => exact h.create halone (hok hfound)
  | issue => exact h.issue halone
  | reset => exact h.resetAcqOn halone
  | timeOut => exact h.timeOut halone

theorem next_recorded {s s' : Recorded bufferSize} {a : Action bufferSize}
    (h : (recorded bufferSize cfg).next s a = some s')
    : next cfg s.1 a = some s'.1 ∧ s'.2 = s.2 ++ events s.1 a s'.1 := by
  apply TransitionSystem.next_withHistory h

theorem phases_beside (h : Beside cfg app app') (caller : ExitCaller)
    : app'.phases caller = app.phases caller := by
  unfold phases
  have htouched := h.exitRun caller
  generalize app.exitRun caller = run at htouched
  generalize app'.exitRun caller = run' at htouched
  cases htouched with
  | same => rfl
  | notified => cases hpc : run.pc <;> rfl
  | stopperEnded _ => rfl

theorem phases_exit_of_ne {caller other : ExitCaller} {a : ExitAction}
    (h : app.exit cfg caller a = some app') (hne : other ≠ caller)
    : app'.phases other = app.phases other := by
  unfold phases
  rw [exitRun_exit_of_ne h hne]

theorem mainEvents_quiet (before after : MainPc)
    : mainEvents before after = [] ∨
      ∃ event, mainEvents before after = [event] ∧ isQuiet event = true := by
  unfold mainEvents
  split
  . exact Or.inr ⟨_, rfl, rfl⟩
  . exact Or.inr ⟨_, rfl, rfl⟩
  . exact Or.inl rfl

theorem events_quiet {a : Action bufferSize} (h : ¬ ∃ caller b, a = .exit caller b)
    : events app a app' = [] ∨ ∃ event, events app a app' = [event] ∧ isQuiet event = true := by
  cases a with
  | exit caller b => exact absurd ⟨caller, b, rfl⟩ h
  | main succeeds => apply mainEvents_quiet
  | _ => exact Or.inl rfl

theorem onceInv_next {s s' : Recorded bufferSize} {a : Action bufferSize}
    (hinv : OnceInv s.1.phases s.2) (hok : FindsAlone s a)
    (h : (recorded bufferSize cfg).next s a = some s')
    : OnceInv s'.1.phases s'.2 := by
  rcases next_recorded h with ⟨hnext, hlog⟩
  rw [hlog]
  by_cases hexit : ∃ caller b, a = .exit caller b
  . rcases hexit with ⟨caller, b, rfl⟩
    apply hinv.moves _ (exit_moves hnext)
    . rintro ⟨rfl, hpc, hidle⟩
      apply hok hpc hidle
    . intro other hne
      apply phases_exit_of_ne hnext hne
  . have hphases := phases_beside ((exit_or_beside hnext).resolve_left hexit)
    apply hinv.quiet
    . intro c
      rw [hphases c]
    . intro c hlow hhigh
      rw [hphases c] at hlow hhigh
      exact ⟨hlow, hhigh⟩
    . apply events_quiet hexit

theorem not_runsOnce_of_not_findsAlone {s s' : Recorded bufferSize} {a : Action bufferSize}
    (hok : ¬ FindsAlone s a) (h : (recorded bufferSize cfg).next s a = some s')
    : ¬ RunsOnce s' := by
  rcases next_recorded h with ⟨hnext, hlog⟩
  unfold FindsAlone at hok
  split at hok
  . next caller =>
    simp only [Classical.not_imp, not_forall, Bool.not_eq_false] at hok
    rcases hok with ⟨hpc, hidle, event, hmem, hcreates⟩
    have hevents : events s.1 (.exit caller (.wait .test)) s'.1 = [.createdStopper caller] := by
      have hexit : s.1.exit cfg caller (.wait .test) = some s'.1 := hnext
      simp only [exit, hpc, waitForStatus, WaitPc.next, hidle, Bool.not_false, if_pos] at hexit
      rw [Option.some.injEq] at hexit
      simp [events, hpc, ← hexit, setExitPc, exitEvents]
    intro honce
    have hcreators := honce.creates
    have hone : 0 < s.2.countP createsStopper := List.countP_pos_iff.mpr ⟨event, hmem, hcreates⟩
    rw [hlog, hevents, List.countP_append] at hcreators
    simp only [List.countP_singleton, createsStopper, if_pos] at hcreators
    omega
  . apply absurd trivial hok

theorem onceInv_init (cfg : Config) : OnceInv (init bufferSize cfg).phases [] := by
  constructor
  . simp
  . simp
  . simp [Excludes]
  . rintro (_ | _) <;> simp [phases, exitRun, init, phase]
  all_goals simp

theorem findsAlone_of_notCalled {s : Recorded bufferSize} {c : ExitCaller}
    (hinv : OnceInv s.1.phases s.2) (hpc : (s.1.exitRun c).pc = .notCalled)
    (a : Action bufferSize)
    : FindsAlone s a := by
  unfold FindsAlone
  split
  . next caller =>
    intro htesting _ event hmem
    have hlow (other : ExitCaller) (hphase : s.1.phases other = 1)
        : .createdStopper other ∉ s.2 := by
      intro hcreated
      have := hinv.created other hcreated
      omega
    have hc := hlow c (by simp [phases, hpc, phase])
    have hcaller := hlow caller (by simp [phases, htesting, phase])
    cases event with
    | createdStopper other =>
      have hne : c ≠ caller := by
        rintro rfl
        rw [hpc] at htesting
        cases htesting
      cases c <;> cases caller <;> cases other <;> contradiction
    | _ => rfl
  . trivial

theorem notCalled_next {c : ExitCaller} {a : Action bufferSize}
    (hpc : (app.exitRun c).pc = .notCalled) (hok : a ≠ .exit c .call)
    (h : next cfg app a = some app')
    : (app'.exitRun c).pc = .notCalled := by
  by_cases hexit : ∃ caller b, a = .exit caller b
  . rcases hexit with ⟨caller, b, rfl⟩
    by_cases heq : c = caller
    . subst heq
      have hown : app.exit cfg c b = some app' := h
      cases b with
      | call => contradiction
      | _ => simp [exit, hpc] at hown
    . rw [exitRun_exit_of_ne h heq]
      exact hpc
  . have htouched := ((exit_or_beside h).resolve_left hexit).exitRun c
    generalize app.exitRun c = run at hpc htouched
    generalize app'.exitRun c = run' at htouched
    cases htouched with
    | same => exact hpc
    | notified => simp [ExitPc.notify, hpc]
    | stopperEnded _ => exact hpc

/--
The shutdown runs at most once as long as one of the two callers never comes.
-/
theorem runsOnce_of_one_caller (cfg : Config) (c : ExitCaller) {as : List (Action bufferSize)}
    (h : ∀ a ∈ as, a ≠ .exit c .call)
    : (recorded bufferSize cfg).Along RunsOnce (init bufferSize cfg, []) as := by
  apply TransitionSystem.along_of_stepsMeet _ _ _
    (TransitionSystem.stepsMeet_of_forall (fun a ha _ => h a ha) _)
  . exact fun s => OnceInv s.1.phases s.2 ∧ (s.1.exitRun c).pc = .notCalled
  . exact fun s hinv => ⟨hinv.1.creates, hinv.1.issues, hinv.1.waits⟩
  . rintro s a s' ⟨hinv, hpc⟩ hok hnext
    constructor
    . apply onceInv_next hinv (findsAlone_of_notCalled hinv hpc a) hnext
    . apply notCalled_next hpc hok (next_recorded hnext).1
  . refine ⟨onceInv_init cfg, ?_⟩
    cases c <;> rfl

/--
In a run, the shutdown runs at most once if and only if no call of `exit` finds `is_reading` false
after the other one did.
-/
theorem runsOnce_iff (cfg : Config) (as : List (Action bufferSize)) (s : Recorded bufferSize)
    (hexec : (recorded bufferSize cfg).exec (init bufferSize cfg, []) as = some s)
    : (recorded bufferSize cfg).Along RunsOnce (init bufferSize cfg, []) as
        ↔
      (recorded bufferSize cfg).StepsMeet FindsAlone (init bufferSize cfg, []) as := by
  apply TransitionSystem.along_iff_stepsMeet _ _ _ _ hexec
  . exact fun s => OnceInv s.1.phases s.2
  . exact fun s hinv => ⟨hinv.creates, hinv.issues, hinv.waits⟩
  . intro s a s' hinv hok hnext
    apply onceInv_next hinv hok hnext
  . intro s a s' _ hok hnext
    apply not_runsOnce_of_not_findsAlone hok hnext
  . apply onceInv_init

/-
A short datagram is in the hands of the loop when `SIGINT` comes, and the analysis of it fails. Either
the analysis is the first to wait, and the handler runs the shutdown while it sleeps or after it gave
up, or the analysis fails after the handler has begun its shutdown.
-/

def shortInHand : List (Action 20) :=
  startUp ++ receiveFrame ⟨[0], by decide⟩ ++
    [.daq .enterLoop, .daq .testStopped, .daq .beginPop, .daq .takeFrame]

def analysisWaits : List (Action 20) :=
  shortInHand ++ [.signal .sigint, .daq .decodeFrame, .exit .analysis .call] ++
    List.replicate 5 (.exit .analysis .advance) ++
    [.exit .analysis (.wait .test), .exit .analysis (.wait .enter)]

def handlerExits : List (Action 20) :=
  .exit .handler .call :: List.replicate 3 (.exit .handler .advance) ++ switchOff

def failing : List (Action 20) :=
  shortInHand ++ .signal .sigint :: stopProcessor ++ switchOff.take 9 ++
    [.endStopper .handler, .daq .decodeFrame, .exit .analysis .call] ++
    List.replicate 3 (.exit .analysis .advance)

/--
A shutdown by the handler alone, and two for which both callers come.
-/
theorem runsOnce_interrupted
    : (recorded 20 plainConfig).Along RunsOnce (init 20 plainConfig, []) interrupted ∧
      (recorded 20 plainConfig).Along RunsOnce (init 20 plainConfig, [])
        (analysisWaits ++ handlerExits) ∧
      (recorded 20 plainConfig).Along RunsOnce (init 20 plainConfig, [])
        (analysisWaits ++ .exit .analysis (.wait .timeOut) :: handlerExits) := by
  have honce (as : List (Action 20))
      (hexec : ((recorded 20 plainConfig).exec (init 20 plainConfig, []) as).isSome = true)
      (hmeet : (recorded 20 plainConfig).StepsMeet FindsAlone (init 20 plainConfig, []) as)
      : (recorded 20 plainConfig).Along RunsOnce (init 20 plainConfig, []) as := by
    rcases Option.isSome_iff_exists.mp hexec with ⟨s, hs⟩
    rw [runsOnce_iff plainConfig as s hs]
    exact hmeet
  refine ⟨honce _ ?_ ?_, honce _ ?_ ?_, honce _ ?_ ?_⟩
  all_goals decide +kernel

def issuesTwice : List (Action 20) :=
  failing ++
    [.exit .analysis (.wait .test), .exit .analysis (.wait .test), .exit .analysis .advance,
      .exit .analysis .advance]

def timesOutBehindReset : List (Action 20) :=
  failing ++
    [.exit .handler .advance, .exit .analysis (.wait .test), .exit .analysis (.wait .test),
      .exit .analysis (.wait .enter), .exit .analysis (.wait .timeOut)]

theorem exec_issuesTwice
    : ∃ s, (recorded 20 plainConfig).exec (init 20 plainConfig, []) issuesTwice = some s ∧
        s.2.countP createsStopper = 2 ∧ s.2.countP issuesAcqOff = 2 := by
  have hrun : ((recorded 20 plainConfig).exec (init 20 plainConfig, []) issuesTwice).map
        (fun s => (s.2.countP createsStopper, s.2.countP issuesAcqOff))
      = some (2, 2) := by
    decide +kernel
  rcases Option.map_eq_some_iff.mp hrun with ⟨s, hexec, hcounts⟩
  simp only [Prod.mk.injEq] at hcounts
  exact ⟨s, hexec, hcounts⟩

theorem exec_timesOutBehindReset
    : ∃ s, (recorded 20 plainConfig).exec (init 20 plainConfig, []) timesOutBehindReset = some s ∧
        ∃ before, s.2 = before ++ [.resetAcqOn .handler, .createdStopper .analysis,
          .timedOut .analysis] := by
  have hrun : ((recorded 20 plainConfig).exec (init 20 plainConfig, []) timesOutBehindReset).map
        (fun s => s.2.drop 6)
      = some [.resetAcqOn .handler, .createdStopper .analysis, .timedOut .analysis] := by
    decide +kernel
  rcases Option.map_eq_some_iff.mp hrun with ⟨s, hexec, hlog⟩
  refine ⟨s, hexec, s.2.take 6, ?_⟩
  rw [← hlog, List.take_append_drop]

theorem shutdown_runs_twice
    : (∃ s, (recorded 20 plainConfig).exec (init 20 plainConfig, []) issuesTwice = some s ∧
          s.2.countP createsStopper = 2 ∧ s.2.countP issuesAcqOff = 2) ∧
      ¬ (recorded 20 plainConfig).Along RunsOnce (init 20 plainConfig, []) issuesTwice ∧
      ¬ (recorded 20 plainConfig).Along RunsOnce (init 20 plainConfig, []) timesOutBehindReset := by
  refine ⟨exec_issuesTwice, ?_, ?_⟩
  . intro halong
    rcases exec_issuesTwice with ⟨s, hexec, hcreates, _⟩
    have honce := (halong.last hexec).creates
    rw [hcreates] at honce
    contradiction
  . intro halong
    rcases exec_timesOutBehindReset with ⟨s, hexec, before, hlog⟩
    have hwaits := (halong.last hexec).waits
    rw [hlog] at hwaits
    simp [Excludes, List.pairwise_append, resetsAcqOn, timesOut] at hwaits

end App

end Srs
