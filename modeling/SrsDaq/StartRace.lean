import SrsDaq.ExitRace

/-!
This module contains the race of a shutdown with the start-up that it comes into.
-/

namespace Srs

theorem Acquisition.isStopped_start {daq daq' : Acquisition bufferSize} (h : daq.start = some daq')
    : daq'.isStopped = false := by
  unfold start at h
  split at h
  . cases h
    rfl
  . cases h

theorem Acquisition.isStopped_startRaises {daq daq' : Acquisition bufferSize}
    (h : daq.startRaises = some daq')
    : daq'.isStopped = false := by
  unfold startRaises at h
  split at h
  . cases h
    rfl
  . cases h

theorem Acquisition.isStopped_listen {daq daq' : Acquisition bufferSize} (h : daq.listen = some daq')
    : daq'.isStopped = daq.isStopped := by
  unfold listen at h
  split at h
  . cases h
    rfl
  . cases h

theorem Acquisition.isStopped_abortQueue {daq daq' : Acquisition bufferSize}
    (h : daq.abortQueue = some daq')
    : daq'.isStopped = daq.isStopped := by
  unfold abortQueue at h
  split at h <;> cases h <;> rfl

namespace App

variable {bufferSize : Nat} {cfg : Config} {app app' : App bufferSize}

theorem isStopped_own {a : Acquisition.Action bufferSize} {daq : Acquisition bufferSize}
    (hown : app.isOwn a = true) (hdaq : app.daq.next cfg.daq a = some daq)
    : daq.isStopped = app.daq.isStopped := by
  cases Acquisition.next_effect hdaq with
  | start => cases hown
  | startRaises => cases hown
  | exchangeStopped => cases hown
  | _ => rfl

def stopsProcessor : ExitEvent → Bool
  | .stopped _ => true
  | _ => false

def startsLoop : ExitEvent → Bool
  | .startedLoop => true
  | _ => false

def startsReader : ExitEvent → Bool
  | .startedReader => true
  | _ => false

/--
Once a call of `exit` has stopped the processor, it stays stopped and no loop is started, and once
one has found `is_reading` false, it stays so and no reader is started.
-/
structure StaysDown (s : Recorded bufferSize) : Prop where
  stopped : (∃ event ∈ s.2, stopsProcessor event = true) → s.1.daq.isStopped = true
  notReading : (∃ event ∈ s.2, createsStopper event = true) → s.1.status.isReading = false
  loops : Excludes stopsProcessor startsLoop s.2
  readers : Excludes createsStopper startsReader s.2

/--
`start` does not come after a `stop` that has returned, nor between the exchange of the flag in `stop`
and its return, and `read_data` does not come after `is_reading` was found to be false.
-/
def StartsBefore (s : Recorded bufferSize) : Action bufferSize → Prop
  | .main _ =>
    (s.1.mainPc = .startProcessor → ∀ event ∈ s.2, stopsProcessor event = false) ∧
    (s.1.mainPc = .storeReading → ∀ event ∈ s.2, createsStopper event = false)
  | .exit caller .advance => (s.1.exitRun caller).pc = .abortQueue → s.1.daq.isStopped = true
  | _ => True

instance (s : Recorded bufferSize) : (a : Action bufferSize) → Decidable (StartsBefore s a)
  | .main _ => inferInstanceAs (Decidable (_ ∧ _))
  | .exit _ .advance => inferInstanceAs (Decidable (_ → _))
  | .exit _ .call => .isTrue trivial
  | .exit _ (.wait _) => .isTrue trivial
  | .exit _ .listenFails => .isTrue trivial
  | .signal _ => .isTrue trivial
  | .daq _ => .isTrue trivial
  | .receiveReply => .isTrue trivial
  | .coroutine _ => .isTrue trivial
  | .cancelCoroutine _ => .isTrue trivial
  | .endStopper _ => .isTrue trivial

def isBeforeReader : MainPc → Bool
  | .setRemoteEndpoint => true
  | .setOutputFilenames => true
  | .storeReading => true
  | .listenReader => true
  | _ => false

structure DownInv (app : App bufferSize) (log : List ExitEvent) : Prop where
  down : StaysDown (app, log)
  unspawned : isBeforeReader app.mainPc = true →
    app.readerListen = .notSpawned ∧ app.readerSignal = .notSpawned
  reading : app.mainPc = .listenReader → app.status.isReading = true

variable {log : List ExitEvent}

/-
The steps that are not recorded.
-/

theorem DownInv.congr (h : DownInv app log) (hstopped : app'.daq.isStopped = app.daq.isStopped)
    (hreading : app'.status.isReading = app.status.isReading) (hpc : app'.mainPc = app.mainPc)
    (hlisten : app'.readerListen = app.readerListen)
    (hsignal : app'.readerSignal = app.readerSignal)
    : DownInv app' log := by
  rcases h with ⟨⟨hdown, hnot, hloops, hreaders⟩, hunspawned, hread⟩
  refine ⟨⟨?_, ?_, hloops, hreaders⟩, ?_, ?_⟩
  . simpa only [hstopped] using hdown
  . simpa only [hreading] using hnot
  . rw [hpc, hlisten, hsignal]
    exact hunspawned
  . rw [hpc, hreading]
    exact hread

theorem DownInv.setCoroutinePc (h : DownInv app log) {c : Coroutine}
    (hc : app.coroutinePc c ≠ .notSpawned) (pc : CoroutinePc)
    : DownInv (app.setCoroutinePc c pc) log := by
  refine ⟨⟨?_, ?_, h.down.loops, h.down.readers⟩, ?_, ?_⟩
  . simpa using h.down.stopped
  . simpa using h.down.notReading
  . rw [mainPc_setCoroutinePc]
    intro hbefore
    rcases h.unspawned hbefore with ⟨hlisten, hsignal⟩
    cases c with
    | readerListen => exact absurd hlisten hc
    | readerSignal => exact absurd hsignal hc
    | _ => exact ⟨hlisten, hsignal⟩
  . simpa using h.reading

theorem DownInv.closeSocket (h : DownInv app log) {c : Coroutine} {closed : App bufferSize}
    (hclosed : app.closeSocket c = some closed)
    : DownInv closed log := by
  cases c <;> cases hclosed <;> apply h.congr <;> rfl

theorem DownInv.storeStatus (h : DownInv app log) {c : Coroutine}
    (hc : app.coroutinePc c ≠ .notSpawned)
    : DownInv (app.storeStatus c) log := by
  have hreader (hspawned : ¬ (app.readerListen = .notSpawned ∧ app.readerSignal = .notSpawned))
      : DownInv { app with status := { app.status with isReading := false } } log := by
    refine ⟨⟨h.down.stopped, fun _ => rfl, h.down.loops, h.down.readers⟩, h.unspawned, ?_⟩
    intro hpc
    apply absurd (h.unspawned (by rw [show app.mainPc = .listenReader from hpc]; rfl)) hspawned
  cases c with
  | readerListen => apply hreader (fun hunspawned => hc hunspawned.1)
  | readerSignal => apply hreader (fun hunspawned => hc hunspawned.2)
  | _ => apply h.congr <;> rfl

/-
The steps of `exit`.
-/

theorem exit_keeps {caller : ExitCaller} {a : ExitAction} (h : app.exit cfg caller a = some app')
    : app'.mainPc = app.mainPc ∧ app'.readerListen = app.readerListen ∧
      app'.readerSignal = app.readerSignal ∧ app'.status.isReading = app.status.isReading ∧
      (app.daq.isStopped = true → app'.daq.isStopped = true) := by
  cases exit_effect h with
  | exchangeStopped _ daq hpc hrunning hdaq =>
    cases hdaq
    simp [setExitPc]
  | abortQueue _ daq hpc hdaq => simp [setExitPc, Acquisition.isStopped_abortQueue hdaq]
  | _ => simp [setExitPc]

theorem exitEvents_append {caller : ExitCaller} {before after : ExitPc}
    (hlog : Excludes stopsProcessor startsLoop log ∧ Excludes createsStopper startsReader log)
    : Excludes stopsProcessor startsLoop (log ++ exitEvents caller before after) ∧
      Excludes createsStopper startsReader (log ++ exitEvents caller before after) := by
  unfold exitEvents
  split
  case h_7 => simpa using hlog
  all_goals
    constructor
    . apply excludes_append_singleton hlog.1 (by simp [startsLoop])
    . apply excludes_append_singleton hlog.2 (by simp [startsReader])

theorem stops_of_exitEvents {caller : ExitCaller} {before after : ExitPc} {event : ExitEvent}
    (hmem : event ∈ exitEvents caller before after) (hstops : stopsProcessor event = true)
    : (before = .exchangeStopped ∨ before = .abortQueue) ∧ after = .storeAcqOff := by
  unfold exitEvents at hmem
  split at hmem
  case h_1 => exact ⟨Or.inl rfl, rfl⟩
  case h_2 => exact ⟨Or.inr rfl, rfl⟩
  case h_7 => cases hmem
  all_goals
    rw [List.mem_singleton] at hmem
    subst hmem
    cases hstops

theorem creates_of_moves {caller : ExitCaller} {found : Prop} {p p' : Nat} {es : List ExitEvent}
    (h : Moves caller found p p' es) {event : ExitEvent} (hmem : event ∈ es)
    (hcreates : createsStopper event = true)
    : found := by
  cases h with
  | create hfound => exact hfound
  | quiet _ _ _ hle hbehind hes =>
    rcases hes with rfl | ⟨quiet, rfl, hquiet⟩
    . cases hmem
    . rw [List.mem_singleton] at hmem
      subst hmem
      cases event with
      | createdStopper c => cases hquiet
      | _ => cases hcreates
  | _ =>
    rw [List.mem_singleton] at hmem
    subst hmem
    cases hcreates

theorem isStopped_of_stop {caller : ExitCaller} {a : ExitAction}
    (hok : (app.exitRun caller).pc = .abortQueue → a = .advance → app.daq.isStopped = true)
    (h : app.exit cfg caller a = some app')
    (hpc : (app.exitRun caller).pc = .exchangeStopped ∨ (app.exitRun caller).pc = .abortQueue)
    (hpc' : (app'.exitRun caller).pc = .storeAcqOff)
    : app.daq.isStopped = true := by
  cases a with
  | advance =>
    rcases hpc with hpc | hpc
    . simp only [exit, hpc] at h
      split at h
      . next hstopped => exact hstopped
      . simp only [Option.map_eq_some_iff] at h
        rcases h with ⟨daq, _, rfl⟩
        simp [setExitPc] at hpc'
    . apply hok hpc rfl
  | _ => rcases hpc with hpc | hpc <;> simp [exit, hpc] at h

theorem downInv_exit {caller : ExitCaller} {a : ExitAction} (hinv : DownInv app log)
    (hok : StartsBefore (app, log) (.exit caller a)) (h : app.exit cfg caller a = some app')
    : DownInv app' (log ++ events app (.exit caller a) app') := by
  rcases exit_keeps h with ⟨hmain, hlisten, hsignal, hreading, hstopped⟩
  have horder : Excludes stopsProcessor startsLoop (log ++ events app (.exit caller a) app') ∧
      Excludes createsStopper startsReader (log ++ events app (.exit caller a) app') :=
    exitEvents_append ⟨hinv.down.loops, hinv.down.readers⟩
  refine ⟨⟨?_, ?_, horder.1, horder.2⟩, ?_, ?_⟩
  . rintro ⟨event, hmem, hstops⟩
    apply hstopped
    rcases List.mem_append.mp hmem with hmem | hmem
    . apply hinv.down.stopped ⟨event, hmem, hstops⟩
    . rcases stops_of_exitEvents hmem hstops with ⟨hpc, hpc'⟩
      apply isStopped_of_stop _ h hpc hpc'
      rintro hpc rfl
      apply hok hpc
  . rintro ⟨event, hmem, hcreates⟩
    rw [hreading]
    rcases List.mem_append.mp hmem with hmem | hmem
    . apply hinv.down.notReading ⟨event, hmem, hcreates⟩
    . exact (creates_of_moves (exit_moves h) hmem hcreates).2.2
  . rw [hmain, hlisten, hsignal]
    exact hinv.unspawned
  . rw [hmain, hreading]
    exact hinv.reading

/-
The steps of `main`.
-/

theorem DownInv.mainPc (h : DownInv app log) (pc : MainPc)
    (hbefore : isBeforeReader pc = true → isBeforeReader app.mainPc = true)
    (hreader : pc ≠ .listenReader)
    : DownInv { app with mainPc := pc } log :=
  ⟨⟨h.down.stopped, h.down.notReading, h.down.loops, h.down.readers⟩,
    fun hpc => h.unspawned (hbefore hpc), fun hpc => absurd hpc hreader⟩

theorem not_exists_of_forall {kind : ExitEvent → Bool} (h : ∀ event ∈ log, kind event = false)
    : ¬ ∃ event ∈ log, kind event = true := by
  rintro ⟨event, hmem, hkind⟩
  rw [h event hmem] at hkind
  cases hkind

theorem downInv_storeReading (hinv : DownInv app log) (hpc : app.mainPc = .storeReading)
    (hnone : ∀ event ∈ log, createsStopper event = false)
    : DownInv { app with
        status := { app.status with isReading := true }
        mainPc := .listenReader } log := by
  refine ⟨⟨hinv.down.stopped, ?_, hinv.down.loops, hinv.down.readers⟩, ?_, fun _ => rfl⟩
  . intro hcreates
    apply absurd hcreates (not_exists_of_forall hnone)
  . intro _
    apply hinv.unspawned
    rw [hpc]
    rfl

theorem downInv_listenReader (hinv : DownInv app log) (hpc : app.mainPc = .listenReader)
    {daq : Acquisition bufferSize} (hdaq : app.daq.listen = some daq)
    : DownInv { app with
        daq := daq
        readerListen := .running
        readerSignal := .starting
        mainPc := .listenStarter } (log ++ [.startedReader]) := by
  have hnone : ∀ event ∈ log, createsStopper event = false := by
    intro event hmem
    rw [Bool.eq_false_iff]
    intro hcreates
    have hidle := hinv.down.notReading ⟨event, hmem, hcreates⟩
    rw [show app.status.isReading = true from hinv.reading hpc] at hidle
    cases hidle
  refine ⟨⟨?_, ?_, ?_, ?_⟩, by simp [isBeforeReader], by simp⟩
  . rw [Acquisition.isStopped_listen hdaq]
    simpa [stopsProcessor] using hinv.down.stopped
  . simpa [createsStopper] using hinv.down.notReading
  . apply excludes_append_singleton hinv.down.loops (by simp [startsLoop])
  . apply excludes_append_singleton hinv.down.readers
    intro _
    exact hnone

theorem downInv_start (hinv : DownInv app log)
    (hnone : ∀ event ∈ log, stopsProcessor event = false) (daq : Acquisition bufferSize)
    : DownInv { app with daq := daq, mainPc := .join } (log ++ [.startedLoop]) := by
  refine ⟨⟨?_, ?_, ?_, ?_⟩, by simp [isBeforeReader], by simp⟩
  . intro hstops
    have hnone' : ∀ event ∈ log ++ [.startedLoop], stopsProcessor event = false := by
      intro event hmem
      rw [List.mem_append, List.mem_singleton] at hmem
      rcases hmem with hmem | rfl
      . apply hnone event hmem
      . rfl
    apply absurd hstops (not_exists_of_forall hnone')
  . simpa [createsStopper] using hinv.down.notReading
  . apply excludes_append_singleton hinv.down.loops
    intro _
    exact hnone
  . apply excludes_append_singleton hinv.down.readers (by simp [startsReader])

theorem downInv_startRaises (hinv : DownInv app log)
    (hnone : ∀ event ∈ log, stopsProcessor event = false) (daq : Acquisition bufferSize)
    : DownInv { app with daq := daq, mainPc := .unwind } log := by
  refine ⟨⟨?_, hinv.down.notReading, hinv.down.loops, hinv.down.readers⟩, by simp [isBeforeReader],
    by simp⟩
  intro hstops
  apply absurd hstops (not_exists_of_forall hnone)

theorem mainEvents_unwind (pc : MainPc) : mainEvents pc .unwind = [] := by
  cases pc <;> rfl

theorem downInv_main {succeeds : Bool} (hinv : DownInv app log)
    (hok : StartsBefore (app, log) (.main succeeds)) (h : next cfg app (.main succeeds) = some app')
    : DownInv app' (log ++ mainEvents app.mainPc app'.mainPc) := by
  cases next_effect h with
  | setRemoteEndpoint hpc =>
    simp only [hpc, mainEvents, List.append_nil]
    apply hinv.mainPc _ (by simp [hpc, isBeforeReader]) (by simp)
  | setOutputFilenames _ hpc =>
    simp only [hpc, mainEvents, List.append_nil]
    apply hinv.mainPc _ (by simp [hpc, isBeforeReader]) (by simp)
  | storeReading _ hpc =>
    simp only [hpc, mainEvents, List.append_nil]
    apply downInv_storeReading hinv hpc (hok.2 hpc)
  | listenReader daq hpc hdaq =>
    simp only [hpc, mainEvents]
    apply downInv_listenReader hinv hpc hdaq
  | switchOn starter hpc hlisten =>
    simp only [hpc, mainEvents, List.append_nil]
    apply (hinv.mainPc .sendAcqOn (by simp [isBeforeReader]) (by simp)).congr <;> rfl
  | sendAcqOn _ hpc =>
    simp only [hpc, mainEvents, List.append_nil]
    apply (hinv.mainPc .startProcessor (by simp [isBeforeReader]) (by simp)).congr <;> rfl
  | start daq hpc hdaq =>
    simp only [hpc, mainEvents]
    apply downInv_start hinv (hok.1 hpc)
  | startRaises daq hpc hdaq =>
    simp only [hpc, mainEvents, List.append_nil]
    apply downInv_startRaises hinv (hok.1 hpc)
  | raises _ hraises =>
    rw [mainEvents_unwind, List.append_nil]
    apply hinv.mainPc _ (by simp [isBeforeReader]) (by simp)
  | joined _ hpc hdone =>
    simp only [hpc, mainEvents, List.append_nil]
    apply hinv.mainPc _ (by simp [isBeforeReader]) (by simp)
  | unwound _ hpc hdone =>
    simp only [hpc, mainEvents, List.append_nil]
    apply hinv.mainPc _ (by simp [isBeforeReader]) (by simp)

theorem downInv_signal (hinv : DownInv app log) (sig : Signal) : DownInv (app.signal sig) log := by
  refine ⟨⟨hinv.down.stopped, hinv.down.notReading, hinv.down.loops, hinv.down.readers⟩, ?_,
    hinv.reading⟩
  intro hbefore
  rcases hinv.unspawned hbefore with ⟨hlisten, hsignal⟩
  refine ⟨hlisten, ?_⟩
  simp [App.signal, hsignal]

theorem coroutinePc_closeSocket {c : Coroutine} {closed : App bufferSize}
    (h : app.closeSocket c = some closed)
    : closed.coroutinePc c = app.coroutinePc c := by
  cases c <;> cases h <;> rfl

theorem coroutinePc_storeStatus (app : App bufferSize) (c : Coroutine)
    : (app.storeStatus c).coroutinePc c = app.coroutinePc c := by
  cases c <;> rfl

theorem spawned_of_canCancel {c : Coroutine} (h : app.canCancel c = true)
    : app.coroutinePc c ≠ .notSpawned := by
  intro hpc
  cases c <;> simp_all [canCancel, coroutinePc]

theorem downInv_coroutine {c : Coroutine} (hinv : DownInv app log)
    (h : next cfg app (.coroutine c) = some app')
    : DownInv app' log := by
  cases next_effect h with
  | armSignal _ hpc => apply hinv.setCoroutinePc (by simp [hpc])
  | leaveReading hpc hleft => apply hinv.setCoroutinePc (by simp [coroutinePc, hpc])
  | closeSocket _ closed hpc hclosed =>
    apply (hinv.closeSocket hclosed).setCoroutinePc
    rw [coroutinePc_closeSocket hclosed, hpc]
    simp
  | storeStatus _ hpc =>
    apply (hinv.storeStatus _).setCoroutinePc
    . rw [coroutinePc_storeStatus, hpc]
      simp
    . rw [hpc]
      simp
  | notify _ hpc =>
    have hnotified : DownInv app.notifyStatusChange log := by
      apply hinv.congr <;> rfl
    apply hnotified.setCoroutinePc
    rw [show app.notifyStatusChange.coroutinePc c = app.coroutinePc c by cases c <;> rfl, hpc]
    simp

theorem downInv_next {a : Action bufferSize} (hinv : DownInv app log)
    (hok : StartsBefore (app, log) a) (h : next cfg app a = some app')
    : DownInv app' (log ++ events app a app') := by
  cases a with
  | main succeeds => apply downInv_main hinv hok h
  | exit caller b => apply downInv_exit hinv hok h
  | coroutine c =>
    simp only [events, List.append_nil]
    apply downInv_coroutine hinv h
  | signal sig =>
    cases h
    simp only [events, List.append_nil]
    apply downInv_signal hinv
  | daq a =>
    simp only [events, List.append_nil]
    cases next_effect h with
    | daq _ daq hown hdaq => apply hinv.congr (isStopped_own hown hdaq) <;> rfl
  | receiveReply =>
    simp only [events, List.append_nil]
    cases next_effect h with
    | receiveReply hpc hopen => apply hinv.congr <;> rfl
  | cancelCoroutine c =>
    simp only [events, List.append_nil]
    cases next_effect h with
    | cancelCoroutine _ hcancel => apply hinv.setCoroutinePc (spawned_of_canCancel hcancel)
  | endStopper caller =>
    simp only [events, List.append_nil]
    cases next_effect h with
    | endStopper _ hpc => apply hinv.congr <;> simp

theorem not_staysDown_of_not_startsBefore {s s' : Recorded bufferSize} {a : Action bufferSize}
    (hok : ¬ StartsBefore s a) (h : (recorded bufferSize cfg).next s a = some s')
    : ¬ StaysDown s' := by
  rcases s with ⟨app, log⟩
  rcases s' with ⟨app', log'⟩
  rcases next_recorded h with ⟨hnext, hlog⟩
  simp only at hnext hlog
  intro hdown
  unfold StartsBefore at hok
  split at hok
  . next succeeds =>
    rw [not_and_or] at hok
    simp only [Classical.not_imp, not_forall, Bool.not_eq_false] at hok
    rcases hok with ⟨hpc, event, hmem, hkind⟩ | ⟨hpc, event, hmem, hkind⟩
    . have hstopped := hdown.stopped ⟨event, by simp [hlog, hmem], hkind⟩
      cases succeeds with
      | true =>
        simp only [next, main, hpc, Option.map_eq_some_iff] at hnext
        rcases hnext with ⟨daq, hdaq, rfl⟩
        rw [Acquisition.isStopped_start hdaq] at hstopped
        cases hstopped
      | false =>
        simp only [next, main, hpc, Option.map_eq_some_iff] at hnext
        rcases hnext with ⟨daq, hdaq, rfl⟩
        rw [Acquisition.isStopped_startRaises hdaq] at hstopped
        cases hstopped
    . have hidle := hdown.notReading ⟨event, by simp [hlog, hmem], hkind⟩
      simp only [next, main, hpc, Option.some.injEq] at hnext
      rw [← hnext] at hidle
      cases hidle
  . next caller =>
    simp only [Classical.not_imp, Bool.not_eq_true] at hok
    rcases hok with ⟨hpc, hrunning⟩
    have hexit : app.exit cfg caller .advance = some app' := hnext
    simp only [exit, hpc, Option.map_eq_some_iff] at hexit
    rcases hexit with ⟨daq, hdaq, rfl⟩
    have hevent : ExitEvent.stopped caller ∈ log' := by
      rw [hlog]
      apply List.mem_append_right
      simp [events, hpc, setExitPc, exitEvents]
    have hstopped := hdown.stopped ⟨_, hevent, rfl⟩
    simp only [setExitPc, daq_setExitRun, Acquisition.isStopped_abortQueue hdaq, hrunning] at hstopped
    cases hstopped
  . apply absurd trivial hok

/--
In a run, the start-up undoes nothing of a shutdown if and only if no flag that a call of `exit`
relies on is stored behind it.
-/
theorem staysDown_iff (cfg : Config) (as : List (Action bufferSize)) (s : Recorded bufferSize)
    (hexec : (recorded bufferSize cfg).exec (init bufferSize cfg, []) as = some s)
    : (recorded bufferSize cfg).Along StaysDown (init bufferSize cfg, []) as
        ↔
      (recorded bufferSize cfg).StepsMeet StartsBefore (init bufferSize cfg, []) as := by
  apply TransitionSystem.along_iff_stepsMeet _ _ _ _ hexec
  . exact fun s => DownInv s.1 s.2
  . exact fun s hinv => hinv.down
  . intro s a s' hinv hok hnext
    rcases next_recorded hnext with ⟨happ, hlog⟩
    rw [hlog]
    apply downInv_next hinv hok happ
  . intro s a s' _ hok hnext
    apply not_staysDown_of_not_startsBefore hok hnext
  . refine ⟨⟨by simp, by simp, by simp [Excludes], by simp [Excludes]⟩, ?_, by simp [init]⟩
    intro _
    exact ⟨rfl, rfl⟩

theorem staysDown_interrupted
    : (recorded 20 plainConfig).Along StaysDown (init 20 plainConfig, []) interrupted := by
  have hexec : ((recorded 20 plainConfig).exec (init 20 plainConfig, []) interrupted).isSome
      = true := by
    decide +kernel
  rcases Option.isSome_iff_exists.mp hexec with ⟨s, hs⟩
  rw [staysDown_iff plainConfig interrupted s hs]
  decide +kernel

/-
A signal comes before the reading and the processor are started.
-/

def interruptedAtOnce : List (Action 20) :=
  .signal .sigterm :: stopProcessor ++ [.exit .handler (.wait .test)] ++
    List.replicate 7 (.main true)

theorem exec_interruptedAtOnce
    : ∃ s, (recorded 20 plainConfig).exec (init 20 plainConfig, []) interruptedAtOnce = some s ∧
        s.2 = [.stopped .handler, .createdStopper .handler, .startedReader, .startedLoop] ∧
        s.1.daq.isStopped = false ∧ s.1.status.isReading = true := by
  have hrun : ((recorded 20 plainConfig).exec (init 20 plainConfig, []) interruptedAtOnce).map
        (fun s => (s.2, s.1.daq.isStopped, s.1.status.isReading))
      = some ([.stopped .handler, .createdStopper .handler, .startedReader, .startedLoop], false,
          true) := by
    decide +kernel
  rcases Option.map_eq_some_iff.mp hrun with ⟨s, hexec, hs⟩
  simp only [Prod.mk.injEq] at hs
  exact ⟨s, hexec, hs⟩

theorem shutdown_is_undone
    : (∃ s, (recorded 20 plainConfig).exec (init 20 plainConfig, []) interruptedAtOnce = some s ∧
          s.2 = [.stopped .handler, .createdStopper .handler, .startedReader, .startedLoop] ∧
          s.1.daq.isStopped = false ∧ s.1.status.isReading = true) ∧
      ¬ (recorded 20 plainConfig).Along StaysDown (init 20 plainConfig, []) interruptedAtOnce := by
  refine ⟨exec_interruptedAtOnce, ?_⟩
  intro halong
  rcases exec_interruptedAtOnce with ⟨s, hexec, hlog, hrunning, _⟩
  have hstopped := (halong.last hexec).stopped ⟨.stopped .handler, by simp [hlog], rfl⟩
  rw [hrunning] at hstopped
  cases hstopped

end App

end Srs
