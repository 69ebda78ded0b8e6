import SrsDaq.Data.TransitionSystem
import SrsDaq.Utils.AppStatus

/-!
This module contains what a call of `wait_for_status` knows about the status when it ends, for any
order of its steps and those of the threads that store to the status and notify it.
-/

namespace Srs

namespace WaitPc

inductive Effect (condition : Status → Bool) (status : Status)
    : WaitPc → WaitAction → WaitResult → Prop where
  | found (h : condition status = true) : Effect condition status .testing .test .returned
  | missed (h : condition status = false)
    : Effect condition status .testing .test (.goesOn .entering)
  | enter : Effect condition status .entering .enter (.goesOn .waiting)
  | wake (pc) (hpc : pc = .waiting ∨ pc = .notified)
    : Effect condition status pc .wake (.goesOn .testing)
  | timeOut (pc) (hpc : pc = .waiting ∨ pc = .notified)
    : Effect condition status pc .timeOut .timedOut

theorem next_effect {condition : Status → Bool} {status : Status} {pc : WaitPc} {a : WaitAction}
    {result : WaitResult} (h : pc.next condition status a = some result)
    : Effect condition status pc a result := by
  unfold next at h
  split at h
  . split at h
    . next hfound =>
      cases h
      exact .found hfound
    . next hmissed =>
      cases h
      exact .missed (Bool.eq_false_iff.mpr hmissed)
  . cases h
    exact .enter
  . cases h
    exact .wake _ (Or.inl rfl)
  . cases h
    exact .wake _ (Or.inr rfl)
  . cases h
    exact .timeOut _ (Or.inl rfl)
  . cases h
    exact .timeOut _ (Or.inr rfl)
  . cases h

theorem eq_timeOut_of_timedOut {condition : Status → Bool} {status : Status} {pc : WaitPc}
    {a : WaitAction} (h : pc.next condition status a = some .timedOut)
    : a = .timeOut := by
  cases next_effect h with
  | timeOut _ _ => rfl

def rank : WaitPc → Nat
  | .testing => 0
  | .waiting => 1
  | .notified => 1
  | .entering => 2

theorem exists_next {condition : Status → Bool} {status : Status} (h : condition status = true)
    (pc : WaitPc)
    : ∃ a, pc.next condition status a = some .returned ∨
        ∃ pc', pc.next condition status a = some (.goesOn pc') ∧ pc'.rank < pc.rank := by
  cases pc with
  | testing => exact ⟨.test, Or.inl (by simp [next, h])⟩
  | entering => exact ⟨.enter, Or.inr ⟨.waiting, rfl, by decide⟩⟩
  | waiting => exact ⟨.wake, Or.inr ⟨.testing, rfl, by decide⟩⟩
  | notified => exact ⟨.wake, Or.inr ⟨.testing, rfl, by decide⟩⟩

end WaitPc

inductive StatusFlag where
  | isConfigured
  | isAcqOn
  | isReading
  | isAcqOff
  deriving DecidableEq, Repr

def Status.store (status : Status) (flag : StatusFlag) (val : Bool) : Status :=
  match flag with
  | .isConfigured => { status with isConfigured := val }
  | .isAcqOn => { status with isAcqOn := val }
  | .isReading => { status with isReading := val }
  | .isAcqOff => { status with isAcqOff := val }

def WaitResult.notify : WaitResult → WaitResult
  | .goesOn pc => .goesOn pc.notify
  | result => result

/--
A call of `wait_for_status`. The last three are no members of the program: what the last test found,
what the status has been since then, one entry for each store, and the status when the call raised.
-/
structure StatusWait where
  status : Status
  result : WaitResult := .goesOn .testing
  lastTest : Option Bool := none
  stored : List Status := []
  raisedIn : Option Status := none

namespace StatusWait

inductive Action where
  | wait (a : WaitAction)
  -- steps of other threads
  | store (flag : StatusFlag) (val : Bool)
  | notifyAll
  deriving DecidableEq, Repr

def proceed (condition : Status → Bool) (a : WaitAction) (call : StatusWait) : Option StatusWait :=
  match call.result with
  | .goesOn pc =>
    (pc.next condition call.status a).map fun result =>
      { call with
        result := result
        lastTest := if a = .test then some (condition call.status) else call.lastTest
        stored := if a = .test then [] else call.stored
        raisedIn := if result = .timedOut then some call.status else none }
  | _ => none

def next (condition : Status → Bool) (call : StatusWait) : Action → Option StatusWait
  | .wait a => call.proceed condition a
  | .store flag val =>
    let status := call.status.store flag val
    some { call with status := status, stored := call.stored ++ [status] }
  | .notifyAll => some { call with result := call.result.notify }

def system (condition : Status → Bool) (status : Status) : TransitionSystem StatusWait Action where
  init := { status := status }
  next := next condition

/--
The call raises in a state without the condition only, and returns after a test that found it.
-/
structure EndsRightly (condition : Status → Bool) (call : StatusWait) : Prop where
  raised : ∀ status, call.raisedIn = some status → condition status = false
  timedOut : call.result = .timedOut → call.raisedIn ≠ none
  returned : call.result = .returned → call.lastTest = some true

/--
If other threads have stored to the status since the last test, the last of these stores has left it
without the condition when the wait times out.
-/
def TimesOutUnmet (condition : Status → Bool) (call : StatusWait) : Action → Prop
  | .wait .timeOut => ∀ status, call.stored.getLast? = some status → condition status = false
  | _ => True

def isBehindTest : WaitResult → Bool
  | .goesOn .testing => false
  | .goesOn _ => true
  | _ => false

structure Tracks (condition : Status → Bool) (call : StatusWait) : Prop where
  ends : call.EndsRightly condition
  missed : call.stored = [] → isBehindTest call.result = true → condition call.status = false
  stored : ∀ status, call.stored.getLast? = some status → call.status = status

theorem condition_of_tracks {condition : Status → Bool} {call : StatusWait}
    (h : call.Tracks condition) (hbehind : isBehindTest call.result = true)
    : (∀ status, call.stored.getLast? = some status → condition status = false)
        ↔
      condition call.status = false := by
  constructor
  . intro hstored
    cases hlast : call.stored.getLast? with
    | none => apply h.missed (List.getLast?_eq_none_iff.mp hlast) hbehind
    | some status =>
      rw [h.stored status hlast]
      apply hstored status hlast
  . intro hfalse status hlast
    rw [← h.stored status hlast]
    exact hfalse

theorem isBehindTest_of_waits {pc : WaitPc} (h : pc = .waiting ∨ pc = .notified)
    : isBehindTest (.goesOn pc) = true := by
  rcases h with rfl | rfl <;> rfl

theorem isBehindTest_notify (result : WaitResult)
    : isBehindTest result.notify = isBehindTest result := by
  cases result with
  | goesOn pc => cases pc <;> rfl
  | returned => rfl
  | timedOut => rfl

theorem notify_eq_timedOut {result : WaitResult}
    : result.notify = .timedOut ↔ result = .timedOut := by
  cases result with
  | goesOn pc => simp [WaitResult.notify]
  | returned => simp [WaitResult.notify]
  | timedOut => simp [WaitResult.notify]

theorem notify_eq_returned {result : WaitResult}
    : result.notify = .returned ↔ result = .returned := by
  cases result with
  | goesOn pc => simp [WaitResult.notify]
  | returned => simp [WaitResult.notify]
  | timedOut => simp [WaitResult.notify]

variable {condition : Status → Bool}

theorem proceed_eq {call call' : StatusWait} {a : WaitAction}
    (h : call.proceed condition a = some call')
    : ∃ pc result, call.result = .goesOn pc ∧ pc.Effect condition call.status a result ∧
        call' = { call with
          result := result
          lastTest := if a = .test then some (condition call.status) else call.lastTest
          stored := if a = .test then [] else call.stored
          raisedIn := if result = .timedOut then some call.status else none } := by
  unfold proceed at h
  split at h
  . next pc hpc =>
    simp only [Option.map_eq_some_iff] at h
    rcases h with ⟨result, hnext, rfl⟩
    exact ⟨pc, result, hpc, WaitPc.next_effect hnext, rfl⟩
  . cases h

theorem tracks_proceed {call call' : StatusWait} {a : WaitAction} (h : call.Tracks condition)
    (hok : call.TimesOutUnmet condition (.wait a)) (hnext : call.proceed condition a = some call')
    : call'.Tracks condition := by
  rcases proceed_eq hnext with ⟨pc, result, hpc, heffect, rfl⟩
  cases heffect with
  | found hfound => exact ⟨⟨by simp, by simp, by simp [hfound]⟩, by simp [isBehindTest], by simp⟩
  | missed hmissed => exact ⟨⟨by simp, by simp, by simp⟩, by simp [hmissed], by simp⟩
  | enter =>
    refine ⟨⟨by simp, by simp, by simp⟩, ?_, by simpa using h.stored⟩
    intro hstored _
    apply h.missed (by simpa using hstored)
    rw [hpc]
    rfl
  | wake _ _ =>
    exact ⟨⟨by simp, by simp, by simp⟩, by simp [isBehindTest], by simpa using h.stored⟩
  | timeOut _ hwaiting =>
    have hbehind : isBehindTest call.result = true := by
      rw [hpc, isBehindTest_of_waits hwaiting]
    have hfalse := (condition_of_tracks h hbehind).mp hok
    exact ⟨⟨by simp [hfalse], by simp, by simp⟩, by simp [isBehindTest], by simpa using h.stored⟩

theorem tracks_next {call call' : StatusWait} {a : Action} (h : call.Tracks condition)
    (hok : call.TimesOutUnmet condition a) (hnext : call.next condition a = some call')
    : call'.Tracks condition := by
  cases a with
  | wait a => apply tracks_proceed h hok hnext
  | store flag val =>
    cases hnext
    exact ⟨⟨h.ends.raised, h.ends.timedOut, h.ends.returned⟩, by simp, by simp⟩
  | notifyAll =>
    cases hnext
    refine ⟨⟨h.ends.raised, ?_, ?_⟩, ?_, h.stored⟩
    . intro htimedOut
      apply h.ends.timedOut (notify_eq_timedOut.mp htimedOut)
    . intro hreturned
      apply h.ends.returned (notify_eq_returned.mp hreturned)
    . intro hstored hbehind
      apply h.missed hstored
      rw [isBehindTest_notify] at hbehind
      exact hbehind

theorem not_endsRightly_of_not_timesOutUnmet {call call' : StatusWait} {a : Action}
    (h : call.Tracks condition) (hok : ¬ call.TimesOutUnmet condition a)
    (hnext : call.next condition a = some call')
    : ¬ call'.EndsRightly condition := by
  unfold TimesOutUnmet at hok
  split at hok
  . rcases proceed_eq hnext with ⟨pc, result, hpc, heffect, rfl⟩
    cases heffect with
    | timeOut _ hwaiting =>
      have hbehind : isBehindTest call.result = true := by
        rw [hpc, isBehindTest_of_waits hwaiting]
      rw [condition_of_tracks h hbehind] at hok
      intro hends
      apply hok (hends.raised call.status (by simp))
  . apply absurd trivial hok

/--
In a run, the call ends rightly if and only if the wait never times out behind a store that brought
the condition about and that no other store has undone.
-/
theorem endsRightly_iff (condition : Status → Bool) (status : Status) (as : List Action)
    (call : StatusWait)
    (hexec : (system condition status).exec { status := status } as = some call)
    : (system condition status).Along (EndsRightly condition) { status := status } as
        ↔
      (system condition status).StepsMeet (TimesOutUnmet condition) { status := status } as := by
  apply TransitionSystem.along_iff_stepsMeet _ _ _ _ hexec
  . exact Tracks condition
  . exact fun call h => h.ends
  . intro call a call' h hok hnext
    apply tracks_next h hok hnext
  . intro call a call' h hok hnext
    apply not_endsRightly_of_not_timesOutUnmet h hok hnext
  . exact ⟨⟨by simp, by simp, by simp⟩, by simp [isBehindTest], by simp⟩

def notified : List Action :=
  [.wait .test, .wait .enter, .store .isAcqOn true, .notifyAll, .wait .wake, .wait .test]

theorem endsRightly_notified
    : (system Status.isAcqOn {}).Along (EndsRightly Status.isAcqOn) { status := {} } notified := by
  have hexec : ((system Status.isAcqOn {}).exec { status := {} } notified).isSome = true := by
    decide
  rcases Option.isSome_iff_exists.mp hexec with ⟨call, hcall⟩
  rw [endsRightly_iff Status.isAcqOn {} notified call hcall]
  simp [notified, TransitionSystem.StepsMeet, TimesOutUnmet]

def lostNotification : List Action :=
  [.wait .test, .store .isAcqOn true, .notifyAll, .wait .enter, .wait .timeOut]

theorem lostNotification_raises
    : ∃ call, (system Status.isAcqOn {}).exec { status := {} } lostNotification = some call ∧
        call.result = .timedOut ∧ call.status.isAcqOn = true ∧
        ¬ call.EndsRightly Status.isAcqOn := by
  refine ⟨_, rfl, rfl, rfl, ?_⟩
  intro hends
  have hraised := hends.raised _ rfl
  cases hraised

/-
The order of the stores alone.
-/

/--
No store comes between a test and a time-out with no other test between them.
-/
def StoresOutside (as : List Action) : Prop :=
  ∀ front window rest, as = front ++ .wait .test :: window ++ .wait .timeOut :: rest →
    .wait .test ∉ window → ∀ flag val, .store flag val ∉ window

/--
The steps before a state hold the last test of the call and, behind it, what was stored since then.
-/
def TestedIn (before : List Action) (call : StatusWait) : Prop :=
  isBehindTest call.result = true →
    ∃ front window, before = front ++ .wait .test :: window ∧ .wait .test ∉ window ∧
      (call.stored ≠ [] → ∃ flag val, .store flag val ∈ window)

theorem TestedIn.append {before : List Action} {call call' : StatusWait} {a : Action}
    (h : call.TestedIn before) (ha : a ≠ .wait .test)
    (hbehind : isBehindTest call'.result = true → isBehindTest call.result = true)
    (hstored : call'.stored ≠ [] → call.stored ≠ [] ∨ ∃ flag val, a = .store flag val)
    : call'.TestedIn (before ++ [a]) := by
  intro hbehind'
  rcases h (hbehind hbehind') with ⟨front, window, rfl, htest, hstores⟩
  refine ⟨front, window ++ [a], by simp, by simp [htest, ha.symm], ?_⟩
  intro hnonempty
  rcases hstored hnonempty with hearlier | ⟨flag, val, rfl⟩
  . rcases hstores hearlier with ⟨flag, val, hmem⟩
    exact ⟨flag, val, List.mem_append_left _ hmem⟩
  . exact ⟨flag, val, by simp⟩

theorem testedIn_next {before : List Action} {call call' : StatusWait} {a : Action}
    (h : call.TestedIn before) (hnext : call.next condition a = some call')
    : call'.TestedIn (before ++ [a]) := by
  cases a with
  | wait a =>
    rcases proceed_eq hnext with ⟨pc, result, hpc, heffect, rfl⟩
    cases heffect with
    | found _ => simp [TestedIn, isBehindTest]
    | missed _ => exact fun _ => ⟨before, [], rfl, by simp, by simp⟩
    | enter => exact h.append (by simp) (by simp [hpc, isBehindTest]) (by simp)
    | wake _ _ => simp [TestedIn, isBehindTest]
    | timeOut _ _ => simp [TestedIn, isBehindTest]
  | store flag val =>
    cases hnext
    exact h.append (by simp) id fun _ => Or.inr ⟨flag, val, rfl⟩
  | notifyAll =>
    cases hnext
    exact h.append (by simp) (by simp [isBehindTest_notify]) Or.inl

theorem timesOutUnmet_of_storesOutside {before as : List Action} {call call' : StatusWait}
    {a : Action} (htested : call.TestedIn before) (houtside : StoresOutside (before ++ a :: as))
    (hnext : call.next condition a = some call')
    : call.TimesOutUnmet condition a := by
  unfold TimesOutUnmet
  split
  . rcases proceed_eq hnext with ⟨pc, result, hpc, heffect, _⟩
    cases heffect with
    | timeOut _ hwaiting =>
      have hbehind : isBehindTest call.result = true := by
        rw [hpc, isBehindTest_of_waits hwaiting]
      rcases htested hbehind with ⟨front, window, rfl, htest, hstores⟩
      intro status hlast
      rcases hstores (List.getLast?_isSome.mp (by simp [hlast])) with ⟨flag, val, hmem⟩
      exact absurd hmem (houtside front window as rfl htest flag val)
  . trivial

/--
In a run with no store in the window between a test and a time-out, the call ends rightly, whatever is
stored outside of it and whenever somebody notifies.
-/
theorem endsRightly_of_storesOutside (condition : Status → Bool) (status : Status)
    {as : List Action} (houtside : StoresOutside as)
    : (system condition status).Along (EndsRightly condition) { status := status } as := by
  have halong (before as : List Action) (call : StatusWait) (hcall : call.Tracks condition)
      (htested : call.TestedIn before) (houtside : StoresOutside (before ++ as))
      : (system condition status).Along (EndsRightly condition) call as := by
    induction as generalizing before call with
    | nil => exact hcall.ends
    | cons a as ih =>
      refine ⟨hcall.ends, ?_⟩
      intro call' hnext
      apply ih (before ++ [a])
      . apply tracks_next hcall (timesOutUnmet_of_storesOutside htested houtside hnext) hnext
      . apply testedIn_next htested hnext
      . rw [List.append_assoc]
        exact houtside
  apply halong [] as _ _ _ houtside
  . exact ⟨⟨by simp, by simp, by simp⟩, by simp [isBehindTest], by simp⟩
  . simp [TestedIn, isBehindTest]

end StatusWait

end Srs
