import SrsDaq.Analysis.AcquisitionLemmas

/-!
This module contains one call of `stop` that races with the analysis loop, and the runs in which the
loop is left waiting for a frame that never comes.
-/

namespace Srs

inductive StopPc where
  | exchange
  | stopMonitor
  | abortQueue
  | returned
  deriving DecidableEq, Repr

structure StopRace (bufferSize : Nat) where
  daq : Acquisition bufferSize
  stopPc : StopPc := .exchange

namespace StopRace

variable {bufferSize : Nat}

inductive Action (bufferSize : Nat) where
  | stop
  | acquire (a : Acquisition.Action bufferSize)

def stop (race : StopRace bufferSize) : Option (StopRace bufferSize) :=
  -- The next step of `stop`. Only the call that sets `is_stopped` goes on, the clock of the monitor
  -- is not modelled.
  match race.stopPc with
  | .exchange =>
    if race.daq.isStopped then
      some { race with stopPc := .returned }
    else
      race.daq.exchangeStopped.map fun daq => { daq := daq, stopPc := .stopMonitor }
  | .stopMonitor => some { race with stopPc := .abortQueue }
  | .abortQueue => race.daq.abortQueue.map fun daq => { daq := daq, stopPc := .returned }
  | .returned => none

def acquire (cfg : Acquisition.Config) (a : Acquisition.Action bufferSize)
    (race : StopRace bufferSize)
    : Option (StopRace bufferSize) :=
  match a with
  | .start => none
  | .startRaises => none
  | .exchangeStopped => none
  | .abortQueue => none
  | a => (race.daq.next cfg a).map fun daq => { race with daq := daq }

def next (cfg : Acquisition.Config) (race : StopRace bufferSize)
    : Action bufferSize → Option (StopRace bufferSize)
  | .stop => race.stop
  | .acquire a => race.acquire cfg a

def system (cfg : Acquisition.Config) (started : Acquisition bufferSize)
    : TransitionSystem (StopRace bufferSize) (Action bufferSize) where
  init := { daq := started }
  next := next cfg

def Hangs (race : StopRace bufferSize) : Prop :=
  race.stopPc = .returned ∧ race.daq.loopPc = .popping false ∧ race.daq.dataQueue = []

def PopsInTime (race : StopRace bufferSize) : Action bufferSize → Prop
  | .acquire .beginPop => race.stopPc = .returned → race.daq.dataQueue ≠ []
  | _ => True

structure Inv (race : StopRace bufferSize) : Prop where
  not_hangs : ¬ race.Hangs
  notStopped : race.stopPc = .exchange → race.daq.isStopped = false

theorem inv_stop {race race' : StopRace bufferSize} (hinv : race.Inv)
    (h : race.stop = some race')
    : race'.Inv := by
  unfold stop at h
  split at h
  . next hpc =>
    rw [if_neg (by simp [hinv.notStopped hpc])] at h
    simp only [Acquisition.exchangeStopped, Option.map_some, Option.some.injEq] at h
    subst h
    constructor
    . simp [Hangs]
    . simp
  . next hpc =>
    cases h
    constructor
    . simp [Hangs]
    . simp
  . next hpc =>
    simp only [Option.map_eq_some_iff] at h
    rcases h with ⟨daq, habort, rfl⟩
    constructor
    . unfold Acquisition.abortQueue at habort
      split at habort
      . cases habort
        simp [Hangs]
      . next hnot =>
        cases habort
        rintro ⟨_, hpopping, _⟩
        apply hnot false hpopping
    . simp
  . cases h

theorem acquire_eq_some {cfg : Acquisition.Config} {a : Acquisition.Action bufferSize}
    {race race' : StopRace bufferSize} (h : race.acquire cfg a = some race')
    : race'.stopPc = race.stopPc ∧ race.daq.next cfg a = some race'.daq ∧
      a ≠ .start ∧ a ≠ .startRaises ∧ a ≠ .exchangeStopped := by
  unfold acquire at h
  split at h
  . cases h
  . cases h
  . cases h
  . cases h
  . next hstart hraises hexchange _ =>
    simp only [Option.map_eq_some_iff] at h
    rcases h with ⟨daq, hnext, rfl⟩
    exact ⟨rfl, hnext, hstart, hraises, hexchange⟩

theorem inv_acquire {cfg : Acquisition.Config} {a : Acquisition.Action bufferSize}
    {race race' : StopRace bufferSize} (hinv : race.Inv) (hok : race.PopsInTime (.acquire a))
    (h : race.acquire cfg a = some race')
    : race'.Inv := by
  rcases race with ⟨daq, stopPc⟩
  rcases race' with ⟨daq', stopPc'⟩
  rcases acquire_eq_some h with ⟨hpc, hnext, hstart, hraises, hexchange⟩
  rcases hinv with ⟨hhangs, hrunning⟩
  simp only [Hangs, not_and] at hpc hnext hhangs hrunning
  subst hpc
  constructor
  . rintro ⟨hreturned, hpopping, hempty⟩
    have hbefore := hhangs hreturned
    cases Acquisition.next_effect hnext with
    | beginPop hpc => apply hok hreturned hempty
    | emplace size hpc hroom => simp at hempty
    | _ => simp_all
  . intro hexchanging
    have hbefore := hrunning hexchanging
    cases Acquisition.next_effect hnext with
    | exchangeStopped => apply absurd rfl hexchange
    | start hpc => apply absurd rfl hstart
    | startRaises hpc => apply absurd rfl hraises
    | _ => exact hbefore

/--
After `start`, the loop is never left waiting in a run if and only if no `pop` of the run begins too
late, when the queue is empty and `abort` has been called.
-/
theorem never_hangs_iff_popsInTime (cfg : Acquisition.Config) (started : Acquisition bufferSize)
    (hposted : started.loopPc = .posted) (hrunning : started.isStopped = false)
    (as : List (Action bufferSize)) (race : StopRace bufferSize)
    (hexec : (system cfg started).exec (system cfg started).init as = some race)
    : (system cfg started).Along (fun race => ¬ race.Hangs) (system cfg started).init as
        ↔
      (system cfg started).StepsMeet PopsInTime (system cfg started).init as := by
  apply TransitionSystem.along_iff_stepsMeet (P := fun race : StopRace bufferSize => ¬ race.Hangs) _ _ _
    _ hexec
  . exact Inv
  . intro race hinv
    apply hinv.not_hangs
  . intro race a race' hinv hok hnext
    cases a with
    | stop => apply inv_stop hinv hnext
    | acquire a => apply inv_acquire hinv hok hnext
  . intro race a race' _ hok hnext
    unfold PopsInTime at hok
    split at hok
    . simp only [Classical.not_imp, not_not] at hok
      have hacquire : race.acquire cfg .beginPop = some race' := hnext
      rcases acquire_eq_some hacquire with ⟨hpc, hpop, _⟩
      rcases race' with ⟨daq', stopPc'⟩
      simp only at hpc hpop
      cases Acquisition.next_effect hpop with
      | beginPop _ =>
        rw [not_not]
        exact ⟨hpc.trans hok.1, rfl, hok.2⟩
    . apply absurd trivial hok
  . constructor
    . simp [Hangs, system, hposted]
    . intro _
      exact hrunning

/-
The acquisition right after `start`, and two ways to stop it.
-/

def startedPlain : Acquisition 4 :=
  { Acquisition.init 4 DataWriter.binaryWriter with loopPc := .posted }

def plainRace : TransitionSystem (StopRace 4) (Action 4) :=
  system (Acquisition.plainConfig 1) startedPlain

def stopDuringPop : List (Action 4) :=
  [.acquire .enterLoop, .acquire .testStopped, .acquire .beginPop, .stop, .stop, .stop]

theorem never_hangs_iff_popsInTime_example
    : plainRace.Along (fun race => ¬ race.Hangs) plainRace.init stopDuringPop := by
  have hexec : ∃ race, plainRace.exec plainRace.init stopDuringPop = some race := ⟨_, rfl⟩
  rcases hexec with ⟨race, hrace⟩
  rw [plainRace, never_hangs_iff_popsInTime (Acquisition.plainConfig 1) startedPlain rfl rfl
    stopDuringPop race hrace]
  unfold stopDuringPop
  rw [TransitionSystem.stepsMeet_cons rfl, TransitionSystem.stepsMeet_cons rfl,
    TransitionSystem.stepsMeet_cons rfl, TransitionSystem.stepsMeet_cons rfl,
    TransitionSystem.stepsMeet_cons rfl, TransitionSystem.stepsMeet_cons rfl]
  simp [PopsInTime, TransitionSystem.StepsMeet, system]

def stopBeforePop : List (Action 4) :=
  [.acquire .enterLoop, .acquire .testStopped, .stop, .stop, .stop, .acquire .beginPop]

theorem stopBeforePop_hangs
    : Acquisition.start (.init 4 DataWriter.binaryWriter) = some startedPlain ∧
      ∃ race, plainRace.exec plainRace.init stopBeforePop = some race ∧ race.Hangs ∧
        race.daq.takeFrame = none ∧ race.daq.raiseAbort = none := by
  exact ⟨rfl, _, rfl, ⟨rfl, rfl, rfl⟩, rfl, rfl⟩

/-
The window in which the wake-up is lost.
-/

/--
`abort` is not called while the loop is on its way from its test of `is_stopped` into `pop`.
-/
def AbortsOutsideWindow (race : StopRace bufferSize) : Action bufferSize → Prop
  | .stop => race.stopPc = .abortQueue → race.daq.loopPc ≠ .tested
  | _ => True

structure WindowInv (race : StopRace bufferSize) : Prop where
  isStopped : race.stopPc ≠ .exchange → race.daq.isStopped = true
  notStopped : race.stopPc = .exchange → race.daq.isStopped = false
  woken : race.stopPc = .returned → race.daq.loopPc ≠ .tested ∧ race.daq.loopPc ≠ .popping false

theorem windowInv_stop {race race' : StopRace bufferSize} (hinv : race.WindowInv)
    (hok : race.AbortsOutsideWindow .stop) (h : race.stop = some race')
    : race'.WindowInv := by
  unfold stop at h
  split at h
  . next hpc =>
    rw [if_neg (by simp [hinv.notStopped hpc])] at h
    simp only [Acquisition.exchangeStopped, Option.map_some, Option.some.injEq] at h
    subst h
    constructor <;> simp
  . next hpc =>
    have hset := hinv.isStopped (by simp [hpc])
    cases h
    constructor <;> simp [hset]
  . next hpc =>
    have hset := hinv.isStopped (by simp [hpc])
    have hwindow := hok hpc
    simp only [Option.map_eq_some_iff] at h
    rcases h with ⟨daq, habort, rfl⟩
    unfold Acquisition.abortQueue at habort
    split at habort
    . cases habort
      constructor <;> simp [hset]
    . next hnot =>
      have hnotPopping : race.daq.loopPc ≠ .popping false := hnot false
      cases habort
      constructor <;> simp [hset, hwindow, hnotPopping]
  . cases h

theorem windowInv_acquire {cfg : Acquisition.Config} {a : Acquisition.Action bufferSize}
    {race race' : StopRace bufferSize} (hinv : race.WindowInv)
    (h : race.acquire cfg a = some race')
    : race'.WindowInv := by
  rcases race with ⟨daq, stopPc⟩
  rcases race' with ⟨daq', stopPc'⟩
  rcases acquire_eq_some h with ⟨hpc, hnext, hstart, hraises, hexchange⟩
  rcases hinv with ⟨hset, hnotset, hwoken⟩
  simp only at hpc hnext hset hnotset hwoken
  subst hpc
  have hsame : daq'.isStopped = daq.isStopped := by
    cases Acquisition.next_effect hnext with
    | exchangeStopped => apply absurd rfl hexchange
    | start hpc => apply absurd rfl hstart
    | startRaises hpc => apply absurd rfl hraises
    | _ => rfl
  constructor
  . simpa [hsame] using hset
  . simpa [hsame] using hnotset
  . intro hreturned
    have hbefore := hwoken hreturned
    have hstopped := hset (by simp only at hreturned; simp [hreturned])
    cases Acquisition.next_effect hnext with
    | goOnPopping hpc hgo => simp_all
    | beginPop hpc => apply absurd hpc hbefore.1
    | _ => simp_all

/--
A run in which `abort` is never called in the window never leaves the loop waiting.
-/
theorem never_hangs_of_abortsOutsideWindow (cfg : Acquisition.Config)
    (started : Acquisition bufferSize) (hposted : started.loopPc = .posted)
    (hrunning : started.isStopped = false) (as : List (Action bufferSize))
    (hwindow : (system cfg started).StepsMeet AbortsOutsideWindow (system cfg started).init as)
    : (system cfg started).Along (fun race => ¬ race.Hangs) (system cfg started).init as := by
  apply TransitionSystem.along_of_stepsMeet _ _ _ hwindow
  . exact WindowInv
  . rintro race hinv ⟨hreturned, hpopping, _⟩
    exact (hinv.woken hreturned).2 hpopping
  . intro race a race' hinv hok hnext
    cases a with
    | stop => apply windowInv_stop hinv hok hnext
    | acquire a => apply windowInv_acquire hinv hnext
  . constructor <;> simp [system, hrunning, hposted]

end StopRace

end Srs
