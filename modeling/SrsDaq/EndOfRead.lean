import SrsDaq.Invariants

/-!
This module contains what the connections have yet to do until `end_of_read` has stored to the status.
-/

namespace Srs

def Acquisition.isListening : ListenPc → Bool
  | .notSpawned => false
  | .cancelled => false
  | _ => true

/--
Whether the coroutine has a datagram in hand, or has left its loop.
-/
def Acquisition.holdsDatagram : ListenPc → Bool
  | .received _ => true
  | .counted _ => true
  | .handled => true
  | .reset => true
  | .left => true
  | _ => false

/--
Datagrams take the coroutine around its loop, and to the end of it once the acquisition is off.
-/
def Acquisition.IsLive (daq : Acquisition bufferSize) : Prop :=
  daq.reader.isOpen = true ∧ isListening daq.listenPc = true

theorem Acquisition.isLive_next {cfg : Config} {daq daq' : Acquisition bufferSize}
    {a : Action bufferSize} (hlive : daq.IsLive) (hclose : a ≠ .closeSocket)
    (h : daq.next cfg a = some daq')
    : daq'.IsLive := by
  rcases hlive with ⟨hopen, hlistening⟩
  cases next_effect h with
  | listen reader hpc => simp [hpc, isListening] at hlistening
  | closeSocket => contradiction
  | cancelReceive _ hclosed =>
    rw [hopen] at hclosed
    cases hclosed
  | receive _ _ _
  | countBytes _ _
  | emplace _ _ _
  | drop _ _ _
  | resetBuffer _
  | goOnReading _
  | leaveReading _ => exact ⟨hopen, rfl⟩
  | _ => exact ⟨hopen, hlistening⟩

theorem Acquisition.isLive_listen {daq daq' : Acquisition bufferSize} (h : daq.listen = some daq')
    : daq'.IsLive := by
  unfold Acquisition.listen at h
  split at h
  . next reader hpc hlisten =>
    cases h
    exact ⟨ConnectionBase.isOpen_of_listen hlisten, rfl⟩
  . cases h

namespace App

variable {bufferSize : Nat} {cfg : Config} {app app' : App bufferSize}

/--
One of the two coroutines of a connection gets to store the status.
-/
def WillEnd (live : Prop) (listen signal : CoroutinePc) : Prop :=
  endsReading listen = true ∨ endsReading signal = true ∨ listen = .running ∧ live

theorem WillEnd.setListen {live : Prop} {listen signal : CoroutinePc}
    (h : WillEnd live listen signal) (hends : endsReading listen = false)
    (hlive : listen = .running → ¬ live) (listen' : CoroutinePc)
    : WillEnd live listen' signal := by
  rcases h with h | h | ⟨hpc, h⟩
  . rw [hends] at h
    cases h
  . exact Or.inr (Or.inl h)
  . exact absurd h (hlive hpc)

theorem WillEnd.setSignal {live : Prop} {listen signal : CoroutinePc}
    (h : WillEnd live listen signal) (hends : endsReading signal = false) (signal' : CoroutinePc)
    : WillEnd live listen signal' := by
  rcases h with h | h | h
  . exact Or.inl h
  . rw [hends] at h
    cases h
  . exact Or.inr (Or.inr h)

theorem WillEnd.mono {live live' : Prop} {listen signal : CoroutinePc}
    (h : WillEnd live listen signal) (hlive : live → live')
    : WillEnd live' listen signal := by
  rcases h with h | h | ⟨hpc, h⟩
  . exact Or.inl h
  . exact Or.inr (Or.inl h)
  . exact Or.inr (Or.inr ⟨hpc, hlive h⟩)

theorem WillEnd.signal {live : Prop} {listen signal : CoroutinePc}
    (h : WillEnd live listen signal) (sig : Signal)
    : WillEnd live listen
        (if sig = .sigint && signal = .running then .closeSocket else signal) := by
  split
  . exact Or.inr (Or.inl rfl)
  . exact h

/-
The reader.
-/

structure ReaderInv (app : App bufferSize) : Prop where
  unspawned : stage app.mainPc ≤ stage .listenReader → app.readerListen = .notSpawned
  ends : app.status.isReading = true → app.readerListen ≠ .notSpawned →
    WillEnd app.daq.IsLive app.readerListen app.readerSignal

theorem readerInv_exit {caller : ExitCaller} {a : ExitAction} (hinv : app.ReaderInv)
    (h : app.exit cfg caller a = some app')
    : app'.ReaderInv := by
  rcases exit_keeps h with ⟨hmain, hlisten, hsignal, hreading, _⟩
  constructor
  . rw [hmain, hlisten]
    exact hinv.unspawned
  . rw [hreading, hlisten, hsignal]
    intro hon hspawned
    apply (hinv.ends hon hspawned).mono
    intro hlive
    rcases daq_exit_of_ne (b := .closeSocket) (by simp) (by simp) h with hsame | ⟨b, hclose, hnext⟩
    . rw [hsame]
      exact hlive
    . apply Acquisition.isLive_next hlive hclose hnext

theorem readerInv_coroutine {c : Coroutine} (hinv : app.ReaderInv)
    (h : next cfg app (.coroutine c) = some app')
    : app'.ReaderInv := by
  have hspawned (hpc : app.readerListen ≠ .notSpawned) (pc : CoroutinePc)
      : stage app.mainPc ≤ stage .listenReader → pc = .notSpawned :=
    fun hstage => absurd (hinv.unspawned hstage) hpc
  cases next_effect h with
  | armSignal _ hpc
  | notify _ hpc =>
    cases c with
    | readerListen =>
      simp only [coroutinePc] at hpc
      refine ⟨hspawned (by simp [hpc]) _, ?_⟩
      intro hon _
      apply (hinv.ends hon (by simp [hpc])).setListen <;> simp [hpc, endsReading]
    | readerSignal =>
      simp only [coroutinePc] at hpc
      refine ⟨hinv.unspawned, ?_⟩
      intro hon hlisten
      apply (hinv.ends hon hlisten).setSignal
      simp [hpc, endsReading]
    | _ => exact ⟨hinv.unspawned, hinv.ends⟩
  | leaveReading hpc hleft => exact ⟨hspawned (by simp [hpc]) _, fun _ _ => Or.inl rfl⟩
  | closeSocket _ closed hpc hclosed =>
    cases c <;> cases hclosed
    . simp only [coroutinePc] at hpc
      exact ⟨hspawned (by simp [hpc]) _, fun _ _ => Or.inl rfl⟩
    . exact ⟨hinv.unspawned, fun _ _ => Or.inr (Or.inl rfl)⟩
    . exact ⟨hinv.unspawned, hinv.ends⟩
    . exact ⟨hinv.unspawned, hinv.ends⟩
  | storeStatus _ hpc =>
    cases c with
    | readerListen =>
      simp only [coroutinePc] at hpc
      exact ⟨hspawned (by simp [hpc]) _, by simp [App.storeStatus, App.setCoroutinePc]⟩
    | readerSignal => exact ⟨hinv.unspawned, by simp [App.storeStatus, App.setCoroutinePc]⟩
    | _ => exact ⟨hinv.unspawned, hinv.ends⟩

theorem readerInv_cancelCoroutine {c : Coroutine} (hinv : app.ReaderInv)
    (hcancel : app.canCancel c = true)
    : (app.setCoroutinePc c .ended).ReaderInv := by
  cases c with
  | readerListen =>
    simp only [canCancel, Bool.and_eq_true, decide_eq_true_eq] at hcancel
    rcases hcancel with ⟨hpc, hcancelled⟩
    refine ⟨fun hstage => absurd (hinv.unspawned hstage) (by simp [hpc]), ?_⟩
    intro hon _
    apply (hinv.ends hon (by simp [hpc])).setListen
    . simp [hpc, endsReading]
    . rintro _ ⟨_, hlistening⟩
      simp [hcancelled, Acquisition.isListening] at hlistening
  | readerSignal =>
    simp only [canCancel, Bool.and_eq_true, Bool.or_eq_true, decide_eq_true_eq] at hcancel
    refine ⟨hinv.unspawned, ?_⟩
    intro hon hlisten
    apply (hinv.ends hon hlisten).setSignal
    rcases hcancel.1 with hpc | hpc <;> simp [hpc, endsReading]
  | _ => exact ⟨hinv.unspawned, hinv.ends⟩

theorem readerInv_next {a : Action bufferSize} (hinv : app.ReaderInv)
    (h : next cfg app a = some app')
    : app'.ReaderInv := by
  have hunspawned (hsame : app'.readerListen = app.readerListen)
      : stage app'.mainPc ≤ stage .listenReader → app'.readerListen = .notSpawned := by
    intro hstage
    rw [hsame]
    apply hinv.unspawned (Nat.le_trans (stage_next h) hstage)
  have hlive {b : Acquisition.Action bufferSize} {daq : Acquisition bufferSize}
      (hclose : b ≠ .closeSocket) (hnext : app.daq.next cfg.daq b = some daq)
      : app.daq.IsLive → daq.IsLive :=
    fun hlive => Acquisition.isLive_next hlive hclose hnext
  cases next_effect h with
  | exit caller b _ heffect => apply readerInv_exit hinv h
  | armSignal _ _
  | leaveReading _ _
  | closeSocket _ _ _ _
  | storeStatus _ _
  | notify _ _ => apply readerInv_coroutine hinv h
  | cancelCoroutine c hcancel => apply readerInv_cancelCoroutine hinv hcancel
  | storeReading _ hpc =>
    refine ⟨hunspawned rfl, ?_⟩
    intro _ hspawned
    apply absurd (hinv.unspawned _) hspawned
    simp [hpc, stage]
  | listenReader daq hpc hdaq =>
    refine ⟨by simp [stage], ?_⟩
    intro _ _
    exact Or.inr (Or.inr ⟨rfl, Acquisition.isLive_listen hdaq⟩)
  | start daq hpc hdaq =>
    refine ⟨hunspawned rfl, ?_⟩
    intro hon hspawned
    apply (hinv.ends hon hspawned).mono (hlive (b := .start) (by simp) hdaq)
  | startRaises daq hpc hdaq =>
    refine ⟨hunspawned rfl, ?_⟩
    intro hon hspawned
    apply (hinv.ends hon hspawned).mono (hlive (b := .startRaises) (by simp) hdaq)
  | daq b daq hown hdaq =>
    refine ⟨hunspawned rfl, ?_⟩
    intro hon hspawned
    apply (hinv.ends hon hspawned).mono (hlive _ hdaq)
    rintro rfl
    cases hown
  | signal sig =>
    refine ⟨hunspawned rfl, ?_⟩
    intro hon hspawned
    apply (hinv.ends hon hspawned).signal
  | endStopper caller _ => cases caller <;> exact ⟨hunspawned rfl, hinv.ends⟩
  | _ => exact ⟨hunspawned rfl, hinv.ends⟩

/-
The Starter.
-/

structure StarterInv (app : App bufferSize) : Prop where
  acqOn : app.status.isAcqOn = true → app.starter.isOpen = false
  listen : app.starterListen = .storeStatus → app.starter.isOpen = false
  signal : app.starterSignal = .storeStatus → app.starter.isOpen = false
  -- who found the acquisition turned on
  exits : ∀ caller, app.phases caller = 3 → app.starter.isOpen = false
  -- as long as nobody has reset the status
  ends : app.status.isAcqOn = false → app.starterListen ≠ .notSpawned →
    (∀ caller, app.phases caller ≤ 5 ∨ app.phases caller = 8) →
      WillEnd (app.starter.isOpen = true) app.starterListen app.starterSignal

theorem starter_exit {caller : ExitCaller} {a : ExitAction} (h : app.exit cfg caller a = some app')
    : app'.starter = app.starter ∧
      (app'.status.isAcqOn = app.status.isAcqOn ∨ app'.phases caller = 6) ∧
      (app'.phases caller ≤ 5 ∨ app'.phases caller = 8 → app.phases caller ≤ 5) ∧
      (app'.phases caller = 3 → app.status.isAcqOn = true) := by
  unfold phases
  cases exit_effect h with
  | callHandler hpc hsignal => simp [exitRun, hpc, phase]
  | callAnalysis _ hpc hfailed => simp [exitRun, hpc, phase]
  | isAcqOn _ _ pc hpc hwait =>
    cases WaitPc.next_effect hwait with
    | found hfound => simp [setExitPc, hpc, phase, hfound]
  | cancelSignals _ _ hpc
  | alreadyStopped _ hpc _
  | exchangeStopped _ _ hpc _ _
  | stopMonitor _ hpc
  | abortQueue _ _ hpc _
  | storeAcqOff _ hpc
  | waitReading _ _ _ _ hpc _
  | isNotReading _ _ _ hpc _
  | timeOutReading _ _ _ hpc _
  | waitAcqOn _ _ _ _ hpc _
  | timeOutAcqOn _ _ _ hpc _
  | listenStopper _ _ hpc _
  | listenFails _ hpc
  | sendAcqOff _ _ hpc _
  | storeAcqOn _ hpc
  | resetGuard _ hpc => simp [setExitPc, hpc, phase]

theorem starterInv_exit {caller : ExitCaller} {a : ExitAction} (hinv : app.StarterInv)
    (h : app.exit cfg caller a = some app')
    : app'.StarterInv := by
  rcases starter_exit h with ⟨hstarter, hacq, hreset, hfound⟩
  rcases starts_exit h with ⟨hlisten, hsignal, hon⟩
  constructor
  . rw [hstarter]
    intro hacqOn
    apply hinv.acqOn (hon hacqOn)
  . rw [hstarter, hlisten]
    exact hinv.listen
  . rw [hstarter, hsignal]
    exact hinv.signal
  . intro other hphase
    rw [hstarter]
    by_cases heq : other = caller
    . subst heq
      apply hinv.acqOn (hfound hphase)
    . rw [phases_exit_of_ne h heq] at hphase
      apply hinv.exits other hphase
  . rw [hstarter, hlisten, hsignal]
    intro hoff hspawned hnone
    have hcaller := hnone caller
    rcases hacq with hsame | hphase
    . rw [hsame] at hoff
      apply hinv.ends hoff hspawned
      intro other
      by_cases heq : other = caller
      . subst heq
        exact Or.inl (hreset hcaller)
      . rw [← phases_exit_of_ne h heq]
        apply hnone other
    . omega

theorem starterInv_coroutine {c : Coroutine} (hinv : app.StarterInv)
    (h : next cfg app (.coroutine c) = some app')
    : app'.StarterInv := by
  have hphases (caller : ExitCaller) : app'.phases caller = app.phases caller := by
    rcases exit_or_beside h with ⟨_, _, hexit⟩ | hbeside
    . cases hexit
    . apply phases_beside hbeside
  have hexits : ∀ caller, app'.phases caller = 3 → app.starter.isOpen = false := by
    intro caller hphase
    rw [hphases] at hphase
    apply hinv.exits caller hphase
  have hends (hoff : app.status.isAcqOn = false) (hspawned : app.starterListen ≠ .notSpawned)
      (hnone : ∀ caller, app'.phases caller ≤ 5 ∨ app'.phases caller = 8)
      : WillEnd (app.starter.isOpen = true) app.starterListen app.starterSignal := by
    apply hinv.ends hoff hspawned
    intro caller
    rw [← hphases]
    apply hnone caller
  cases next_effect h with
  | armSignal _ hpc
  | notify _ hpc =>
    cases c with
    | starterListen =>
      simp only [coroutinePc] at hpc
      refine ⟨hinv.acqOn, by simp [setCoroutinePc], hinv.signal, hexits, ?_⟩
      intro hoff _ hnone
      apply (hends hoff (by simp [hpc]) hnone).setListen <;> simp [hpc, endsReading]
    | starterSignal =>
      simp only [coroutinePc] at hpc
      refine ⟨hinv.acqOn, hinv.listen, by simp [setCoroutinePc], hexits, ?_⟩
      intro hoff hspawned hnone
      apply (hends hoff hspawned hnone).setSignal
      simp [hpc, endsReading]
    | _ => exact ⟨hinv.acqOn, hinv.listen, hinv.signal, hexits, hends⟩
  | leaveReading hpc hleft => exact ⟨hinv.acqOn, hinv.listen, hinv.signal, hexits, hends⟩
  | closeSocket _ closed hpc hclosed =>
    have hclosed' := ConnectionBase.isOpen_closeSocket app.starter
    cases c <;> cases hclosed
    . exact ⟨hinv.acqOn, hinv.listen, hinv.signal, hexits, hends⟩
    . exact ⟨hinv.acqOn, hinv.listen, hinv.signal, hexits, hends⟩
    . exact ⟨fun _ => hclosed', fun _ => hclosed', fun _ => hclosed', fun _ _ => hclosed',
        fun _ _ _ => Or.inl rfl⟩
    . exact ⟨fun _ => hclosed', fun _ => hclosed', fun _ => hclosed', fun _ _ => hclosed',
        fun _ _ _ => Or.inr (Or.inl rfl)⟩
  | storeStatus _ hpc =>
    cases c with
    | starterListen =>
      have hclosed := hinv.listen hpc
      exact ⟨fun _ => hclosed, fun _ => hclosed, fun _ => hclosed, fun _ _ => hclosed,
        by simp [App.storeStatus, setCoroutinePc]⟩
    | starterSignal =>
      have hclosed := hinv.signal hpc
      exact ⟨fun _ => hclosed, fun _ => hclosed, fun _ => hclosed, fun _ _ => hclosed,
        by simp [App.storeStatus, setCoroutinePc]⟩
    | _ => exact ⟨hinv.acqOn, hinv.listen, hinv.signal, hexits, hends⟩

theorem starterInv_cancelCoroutine {c : Coroutine} (hinv : app.StarterInv)
    (hcancel : app.canCancel c = true)
    : (app.setCoroutinePc c .ended).StarterInv := by
  cases c with
  | starterListen =>
    simp only [canCancel, Bool.and_eq_true, Bool.not_eq_true', decide_eq_true_eq] at hcancel
    rcases hcancel with ⟨hpc, hclosed⟩
    refine ⟨hinv.acqOn, by simp [setCoroutinePc], hinv.signal, hinv.exits, ?_⟩
    intro hoff _ hnone
    apply (hinv.ends hoff (by simp [hpc]) hnone).setListen
    . simp [hpc, endsReading]
    . simp [hclosed]
  | starterSignal =>
    simp only [canCancel, Bool.and_eq_true, Bool.or_eq_true, decide_eq_true_eq] at hcancel
    refine ⟨hinv.acqOn, hinv.listen, by simp [setCoroutinePc], hinv.exits, ?_⟩
    intro hoff hspawned hnone
    apply (hinv.ends hoff hspawned hnone).setSignal
    rcases hcancel.1 with hpc | hpc <;> simp [hpc, endsReading]
  | _ => exact ⟨hinv.acqOn, hinv.listen, hinv.signal, hinv.exits, hinv.ends⟩

theorem starterInv_next {a : Action bufferSize} (hinv : app.StarterInv)
    (hunstarted : app.UnstartedInv) (h : next cfg app a = some app')
    : app'.StarterInv := by
  cases next_effect h with
  | exit caller b _ heffect => apply starterInv_exit hinv h
  | armSignal _ _
  | leaveReading _ _
  | closeSocket _ _ _ _
  | storeStatus _ _
  | notify _ _ => apply starterInv_coroutine hinv h
  | cancelCoroutine c hcancel => apply starterInv_cancelCoroutine hinv hcancel
  | switchOn starter hpc hlisten =>
    have hnone := hunstarted (by simp [hpc])
    refine ⟨by simp [hnone.acqOn], by simp, by simp, ?_, ?_⟩
    . intro caller hphase
      have hearly := hnone.exits caller
      rw [show app.phases caller = 3 from hphase] at hearly
      omega
    . intro _ _ _
      exact Or.inr (Or.inr ⟨rfl, ConnectionBase.isOpen_of_listen hlisten⟩)
  | receiveReply hpc hopen =>
    exact ⟨hinv.acqOn, by simp, hinv.signal, hinv.exits, fun _ _ _ => Or.inl rfl⟩
  | signal sig =>
    refine ⟨hinv.acqOn, hinv.listen, ?_, hinv.exits, ?_⟩
    . simp only [App.signal]
      split
      . simp
      . exact hinv.signal
    . intro hoff hspawned hnone
      apply (hinv.ends hoff hspawned hnone).signal
  | endStopper caller hpc =>
    have hbeside : Beside cfg app (app.setExitRun caller _) := beside_endStopper hpc
    have hphases := phases_beside hbeside
    refine ⟨?_, ?_, ?_, ?_, ?_⟩
    . simpa using hinv.acqOn
    . simpa using hinv.listen
    . simpa using hinv.signal
    . simpa [hphases] using hinv.exits
    . simpa [hphases] using hinv.ends
  | _ => exact ⟨hinv.acqOn, hinv.listen, hinv.signal, hinv.exits, hinv.ends⟩

/-
How far away the end of the reading and the end of the start-up are.
-/

def endRank : CoroutinePc → Nat
  | .closeSocket => 2
  | .storeStatus => 1
  | _ => 0

def listenRank : ListenPc → Nat
  | .receiving => 8
  | .received _ => 7
  | .counted _ => 6
  | .handled => 5
  | .reset => 4
  | _ => 3

def readerRank (app : App bufferSize) : Nat :=
  if app.status.isReading then
    endRank app.readerSignal +
      if app.readerListen = .running then listenRank app.daq.listenPc else endRank app.readerListen
  else
    0

def starterRank (app : App bufferSize) : Nat :=
  if app.status.isAcqOn then
    0
  else
    endRank app.starterSignal +
      if app.starterListen = .running then 3 else endRank app.starterListen

theorem endRank_le (pc : CoroutinePc) : endRank pc ≤ 2 := by
  cases pc <;> decide

theorem listenRank_le (pc : ListenPc) : listenRank pc ≤ 8 := by
  cases pc <;> simp [listenRank]

theorem readerRank_le (app : App bufferSize) : app.readerRank ≤ 10 := by
  have hsignal := endRank_le app.readerSignal
  have hlisten := endRank_le app.readerListen
  have hreceive := listenRank_le app.daq.listenPc
  unfold readerRank
  split
  . split <;> omega
  . omega

theorem starterRank_le (app : App bufferSize) : app.starterRank ≤ 5 := by
  have hsignal := endRank_le app.starterSignal
  have hlisten := endRank_le app.starterListen
  unfold starterRank
  split
  . omega
  . split <;> omega

def isPending (app : App bufferSize) : Coroutine → Bool
  | .readerListen => app.status.isReading
  | .readerSignal => app.status.isReading
  | .starterListen => not app.status.isAcqOn
  | .starterSignal => not app.status.isAcqOn

theorem endsReading_iff {pc : CoroutinePc}
    : endsReading pc = true ↔ pc = .closeSocket ∨ pc = .storeStatus := by
  cases pc <;> simp [endsReading]

/--
Whether a step needs no input: no signal and no datagram comes, nothing fails, no time is over and
nobody wakes up.
-/
def needsNoInput : Action bufferSize → Bool
  | .main false => false
  | .signal _ => false
  | .daq (.receive _) => false
  | .receiveReply => false
  | .exit _ (.wait .wake) => false
  | .exit _ (.wait .timeOut) => false
  | .exit _ .listenFails => false
  | _ => true

/--
The reading is over, or comes to its end without another input: one of the two coroutines of the
reader is on its way there, or the reader has a datagram in hand.
-/
def ReadingEnds (app : App bufferSize) : Prop :=
  app.status.isReading = false ∨
    endsReading app.readerListen = true ∨ endsReading app.readerSignal = true ∨
    app.readerListen = .running ∧ Acquisition.holdsDatagram app.daq.listenPc = true

/--
What a step of a connection towards its end does to the rest.
-/
structure Approaches (app app' : App bufferSize) : Prop where
  main : app'.mainPc = app.mainPc
  exits : ∀ caller, app'.exitRun caller = app.exitRun caller
  reading : app.ReadingEnds → app'.ReadingEnds
  closer : app'.readerRank + app'.starterRank < app.readerRank + app.starterRank

theorem approaches_closeSocket {c : Coroutine} (hpending : app.isPending c = true)
    (hpc : app.coroutinePc c = .closeSocket)
    : ∃ app', next cfg app (.coroutine c) = some app' ∧ app.Approaches app' := by
  have hclosing : endRank .closeSocket = 2 := by rfl
  have hstoring : endRank .storeStatus = 1 := by rfl
  rcases hclosed : app.closeSocket c with _ | closed
  . cases c <;> cases hclosed
  . have hnext : next cfg app (.coroutine c) = some (closed.setCoroutinePc c .storeStatus) := by
      simp [next, App.coroutine, hpc, hclosed]
    refine ⟨_, hnext, ?_⟩
    cases c with
    | readerListen =>
      cases hclosed
      refine ⟨rfl, fun caller => by cases caller <;> rfl, fun _ => Or.inr (Or.inl rfl),
        Nat.add_lt_add_right ?_ _⟩
      simp only [isPending, coroutinePc] at hpending hpc
      simp [setCoroutinePc, readerRank, hpending, hpc, hclosing, hstoring]
    | readerSignal =>
      cases hclosed
      refine ⟨rfl, fun caller => by cases caller <;> rfl, fun _ => Or.inr (Or.inr (Or.inl rfl)),
        Nat.add_lt_add_right ?_ _⟩
      simp only [isPending, coroutinePc] at hpending hpc
      simp only [setCoroutinePc, readerRank, hpending, hpc, hclosing, hstoring]
      exact Nat.add_lt_add_right (by decide) _
    | starterListen =>
      cases hclosed
      refine ⟨rfl, fun caller => by cases caller <;> rfl, fun hends => hends,
        Nat.add_lt_add_left ?_ _⟩
      simp only [isPending, coroutinePc, Bool.not_eq_true'] at hpending hpc
      simp [setCoroutinePc, starterRank, hpending, hpc, hclosing, hstoring]
    | starterSignal =>
      cases hclosed
      refine ⟨rfl, fun caller => by cases caller <;> rfl, fun hends => hends,
        Nat.add_lt_add_left ?_ _⟩
      simp only [isPending, coroutinePc, Bool.not_eq_true'] at hpending hpc
      simp only [setCoroutinePc, starterRank, hpending, hpc, hclosing, hstoring]
      exact Nat.add_lt_add_right (by decide) _

theorem approaches_storeStatus {c : Coroutine} (hpending : app.isPending c = true)
    (hpc : app.coroutinePc c = .storeStatus)
    : ∃ app', next cfg app (.coroutine c) = some app' ∧ app.Approaches app' := by
  have hstoring : endRank .storeStatus = 1 := by rfl
  have hnext : next cfg app (.coroutine c) = some ((app.storeStatus c).setCoroutinePc c .notify) := by
    simp [next, App.coroutine, hpc]
  refine ⟨_, hnext, ?_⟩
  cases c with
  | readerListen | readerSignal =>
    refine ⟨rfl, fun caller => by cases caller <;> rfl, fun _ => Or.inl rfl,
      Nat.add_lt_add_right ?_ _⟩
    simp only [isPending, coroutinePc] at hpending hpc
    simp [setCoroutinePc, App.storeStatus, readerRank, hpending, hpc, hstoring]
  | starterListen | starterSignal =>
    refine ⟨rfl, fun caller => by cases caller <;> rfl, fun hends => hends,
      Nat.add_lt_add_left ?_ _⟩
    simp only [isPending, coroutinePc, Bool.not_eq_true'] at hpending hpc
    simp [setCoroutinePc, App.storeStatus, starterRank, hpending, hpc, hstoring]

theorem approaches_coroutine {c : Coroutine} (hpending : app.isPending c = true)
    (hends : endsReading (app.coroutinePc c) = true)
    : ∃ app', next cfg app (.coroutine c) = some app' ∧ app.Approaches app' := by
  rcases endsReading_iff.mp hends with hpc | hpc
  . exact approaches_closeSocket hpending hpc
  . exact approaches_storeStatus hpending hpc

theorem approaches_daq {b : Acquisition.Action bufferSize} {daq : Acquisition bufferSize}
    (hreading : app.status.isReading = true) (hpc : app.readerListen = .running)
    (hown : app.isOwn b = true) (hnext : app.daq.next cfg.daq b = some daq)
    (hholds : Acquisition.holdsDatagram daq.listenPc = true)
    (hrank : listenRank daq.listenPc < listenRank app.daq.listenPc)
    : ∃ app', next cfg app (.daq b) = some app' ∧ app.Approaches app' := by
  have hacquire : next cfg app (.daq b) = some { app with daq := daq } := by
    simp [next, acquire, hown, hnext]
  refine ⟨_, hacquire, rfl, fun caller => by cases caller <;> rfl, ?_, ?_⟩
  . exact fun _ => Or.inr (Or.inr (Or.inr ⟨hpc, hholds⟩))
  . simpa [readerRank, starterRank, hreading, hpc] using hrank

theorem approaches_receive (datagram : Datagram bufferSize) (hreading : app.status.isReading = true)
    (hpc : app.readerListen = .running) (hlisten : app.daq.listenPc = .receiving)
    (hopen : app.daq.reader.isOpen = true)
    : ∃ app', next cfg app (.daq (.receive datagram)) = some app' ∧ app.Approaches app' := by
  apply approaches_daq hreading hpc rfl
  . simp only [Acquisition.next, Acquisition.receive, hlisten, hopen]
    rfl
  . rfl
  . simp [hlisten, listenRank]

/--
A reader that needs another input is waiting for a datagram.
-/
theorem receives_of_not_readingEnds
    (hends : WillEnd app.daq.IsLive app.readerListen app.readerSignal) (hnot : ¬ app.ReadingEnds)
    : app.readerListen = .running ∧ app.daq.listenPc = .receiving ∧
        app.daq.reader.isOpen = true := by
  unfold ReadingEnds at hnot
  simp only [not_or] at hnot
  rcases hnot with ⟨_, hlisten, hsignal, hholds⟩
  rcases hends with hends | hends | ⟨hpc, hopen, hlistening⟩
  . contradiction
  . contradiction
  . refine ⟨hpc, ?_, hopen⟩
    cases hlisten : app.daq.listenPc with
    | receiving => rfl
    | notSpawned | cancelled => simp [hlisten, Acquisition.isListening] at hlistening
    | _ => exact absurd ⟨hpc, by rw [hlisten]; rfl⟩ hholds

theorem approaches_reader (hreading : app.status.isReading = true)
    (hoff : app.status.isAcqOff = true) (hends : app.ReadingEnds)
    : ∃ a app', needsNoInput a = true ∧ next cfg app a = some app' ∧ app.Approaches app' := by
  rcases hends with hnot | hlisten | hsignal | ⟨hpc, hholds⟩
  . rw [hreading] at hnot
    cases hnot
  . rcases approaches_coroutine (c := .readerListen) hreading hlisten with ⟨app', happroaches⟩
    exact ⟨_, app', rfl, happroaches⟩
  . rcases approaches_coroutine (c := .readerSignal) hreading hsignal with ⟨app', happroaches⟩
    exact ⟨_, app', rfl, happroaches⟩
  . have hdaq {b : Acquisition.Action bufferSize} {daq : Acquisition bufferSize}
        (hinput : needsNoInput (.daq b) = true) (hown : app.isOwn b = true)
        (hnext : app.daq.next cfg.daq b = some daq)
        (hholds : Acquisition.holdsDatagram daq.listenPc = true)
        (hrank : listenRank daq.listenPc < listenRank app.daq.listenPc)
        : ∃ a app', needsNoInput a = true ∧ next cfg app a = some app' ∧ app.Approaches app' := by
      rcases approaches_daq hreading hpc hown hnext hholds hrank with ⟨app', happroaches⟩
      exact ⟨_, app', hinput, happroaches⟩
    cases hlisten : app.daq.listenPc with
    | notSpawned | cancelled | receiving => simp [hlisten, Acquisition.holdsDatagram] at hholds
    | received size =>
      apply hdaq (b := .countBytes) rfl rfl
      . simp only [Acquisition.next, Acquisition.countBytes, hlisten]
        rfl
      . rfl
      . simp [hlisten, listenRank]
    | counted size =>
      apply hdaq (b := .emplace) rfl rfl
      . simp only [Acquisition.next, Acquisition.emplace, hlisten]
        rfl
      . rfl
      . simp [hlisten, listenRank]
    | handled =>
      apply hdaq (b := .resetBuffer) rfl rfl
      . simp only [Acquisition.next, Acquisition.resetBuffer, hlisten]
        rfl
      . rfl
      . simp [hlisten, listenRank]
    | reset =>
      -- the loop of the reader ends here, `exit` has stored `is_acq_off`
      apply hdaq (b := .testAcqOff true) rfl
      . simp [isOwn, hoff]
      . simp only [Acquisition.next, Acquisition.testAcqOff, hlisten]
        rfl
      . rfl
      . simp [hlisten, listenRank]
    | left =>
      have hnext : next cfg app (.coroutine .readerListen)
          = some { app with readerListen := .closeSocket } := by
        simp [next, App.coroutine, coroutinePc, hpc, hlisten, setCoroutinePc]
      refine ⟨.coroutine .readerListen, _, rfl, hnext, rfl, fun caller => by cases caller <;> rfl,
        fun _ => Or.inr (Or.inl rfl), ?_⟩
      simp [readerRank, starterRank, hreading, hpc, hlisten, listenRank, endRank]

theorem approaches_starter (hacq : app.status.isAcqOn = false)
    (hends : endsReading app.starterListen = true ∨ endsReading app.starterSignal = true)
    : ∃ a app', needsNoInput a = true ∧ next cfg app a = some app' ∧ app.Approaches app' := by
  have hpending : (!app.status.isAcqOn) = true := by simp [hacq]
  rcases hends with hlisten | hsignal
  . rcases approaches_coroutine (c := .starterListen) hpending hlisten with ⟨app', happroaches⟩
    exact ⟨_, app', rfl, happroaches⟩
  . rcases approaches_coroutine (c := .starterSignal) hpending hsignal with ⟨app', happroaches⟩
    exact ⟨_, app', rfl, happroaches⟩

theorem approaches_reply (hacq : app.status.isAcqOn = false) (hpc : app.starterListen = .running)
    (hopen : app.starter.isOpen = true)
    : ∃ app', next cfg app .receiveReply = some app' ∧ app.Approaches app' := by
  have hnext : next cfg app .receiveReply
      = some { app with starterListen := .closeSocket, starterReplied := true } := by
    simp [next, App.receiveReply, hpc, hopen]
  refine ⟨_, hnext, rfl, fun caller => by cases caller <;> rfl, fun hends => hends, ?_⟩
  simp [readerRank, starterRank, hacq, hpc, endRank]

end App

end Srs
