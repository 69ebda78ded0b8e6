/-!
This module contains the status that the threads of the program share, and the timed wait for it.
-/

namespace Srs

structure Status where
  isConfigured : Bool := false
  isAcqOn : Bool := false
  isReading : Bool := false
  isAcqOff : Bool := false
  deriving DecidableEq, Repr

/--
Where a call of `wait_for_status` stands. The mutex is local to the call and keeps nobody else out.
-/
inductive WaitPc where
  | testing
  -- The condition was false, `wait_for` is next.
  | entering
  | waiting
  -- A notification has reached `wait_for`, which has not returned yet.
  | notified
  deriving DecidableEq, Repr

inductive WaitAction where
  | test
  | enter
  | wake
  | timeOut
  deriving DecidableEq, Repr

inductive WaitResult where
  | goesOn (pc : WaitPc)
  | returned
  | timedOut
  deriving DecidableEq, Repr

namespace WaitPc

def next (condition : Status → Bool) (status : Status) : WaitPc → WaitAction → Option WaitResult
  | .testing, .test => some (if condition status then .returned else .goesOn .entering)
  | .entering, .enter => some (.goesOn .waiting)
  | .waiting, .wake => some (.goesOn .testing)
  | .notified, .wake => some (.goesOn .testing)
  | .waiting, .timeOut => some .timedOut
  -- the time may be over before a notified `wait_for` gets to return
  | .notified, .timeOut => some .timedOut
  | _, _ => none

def notify : WaitPc → WaitPc
  | .waiting => .notified
  | pc => pc

end WaitPc

end Srs
