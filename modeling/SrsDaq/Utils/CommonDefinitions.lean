import SrsDaq.Data.Bytes

/-!
This module contains the constants of the program, and the exceptions that its functions raise.
-/

namespace Srs

abbrev byteBitLength : Nat := 8

def writeCommandBits : BitVec 8 := 0xaa
def defaultTypeBits : BitVec 8 := 0xaa
def commandLengthBits : BitVec 16 := 0xffff
def zeroUint16Padding : BitVec 16 := 0
def smallReadMsgBufferSize : Nat := 100
def largeReadMsgBufferSize : Nat := 10000

def nullAddress : BitVec 16 := 0x000f
def initCountValue : BitVec 32 := 0x80000000

def fecDaqReceivePort : Nat := 6006
def fecControlLocalPort : Nat := 6007

abbrev hitDataBitLength : Nat := 48
abbrev vmmTagBitLength : Nat := 3
abbrev srsTimestampHighBitLength : Nat := 32
abbrev srsTimestampLowBitLength : Nat := 10
abbrev flagBitPosition : Nat := 15

inductive Exception where
  | runtimeError (what : String)
  | logicError (what : String)
  | lengthError
  | overflowError
  | archiveError
  | addressInUse
  -- No exception of the program: an operation was called outside of its precondition.
  | undefinedBehaviour
  deriving DecidableEq, Repr

inductive Outcome (σ : Type) where
  | returned (state : σ)
  | raised (exception : Exception) (state : σ)
  deriving DecidableEq, Repr

namespace Outcome

def state : Outcome σ → σ
  | .returned state => state
  | .raised _ state => state

def andThen : Outcome σ → (σ → Outcome σ) → Outcome σ
  | .returned state, next => next state
  | .raised exception state, _ => .raised exception state

def map (f : σ → τ) : Outcome σ → Outcome τ
  | .returned state => .returned (f state)
  | .raised exception state => .raised exception (f state)

def forEach (f : α → σ → Outcome σ) : List α → σ → Outcome σ
  | [], state => .returned state
  | a :: as, state => (f a state).andThen (forEach f as)

@[simp]
theorem andThen_returned (state : σ) (next : σ → Outcome σ)
    : (returned state).andThen next = next state := by
  rfl

@[simp]
theorem andThen_raised (exception : Exception) (state : σ) (next : σ → Outcome σ)
    : (raised exception state).andThen next = raised exception state := by
  rfl

@[simp]
theorem map_returned (f : σ → τ) (state : σ) : (returned state).map f = returned (f state) := by
  rfl

@[simp]
theorem map_raised (f : σ → τ) (exception : Exception) (state : σ)
    : (raised exception state).map f = raised exception (f state) := by
  rfl

@[simp]
theorem forEach_nil (f : α → σ → Outcome σ) (state : σ) : forEach f [] state = returned state := by
  rfl

@[simp]
theorem forEach_cons (f : α → σ → Outcome σ) (a : α) (as : List α) (state : σ)
    : forEach f (a :: as) state = (f a state).andThen (forEach f as) := by
  rfl

@[simp]
theorem state_map (f : σ → τ) (outcome : Outcome σ) : (outcome.map f).state = f outcome.state := by
  cases outcome <;> rfl

theorem andThen_state {P : σ → Prop} {outcome : Outcome σ} {next : σ → Outcome σ}
    (h : P outcome.state) (hnext : ∀ state, P state → P (next state).state)
    : P (outcome.andThen next).state := by
  cases outcome with
  | returned state => apply hnext state h
  | raised exception state => exact h

theorem andThen_eq_returned {outcome : Outcome σ} {next : σ → Outcome σ} {state : σ}
    : outcome.andThen next = returned state
        ↔
      ∃ state', outcome = returned state' ∧ next state' = returned state := by
  cases outcome with
  | returned state' => simp
  | raised exception state' => simp

theorem andThen_eq_raised {outcome : Outcome σ} {next : σ → Outcome σ} {exception : Exception}
    {state : σ}
    : outcome.andThen next = raised exception state
        ↔
      outcome = raised exception state ∨
      ∃ state', outcome = returned state' ∧ next state' = raised exception state := by
  cases outcome with
  | returned state' => simp
  | raised exception' state' => simp

theorem map_eq_raised {f : σ → τ} {outcome : Outcome σ} {exception : Exception} {state : τ}
    : outcome.map f = raised exception state
        ↔
      ∃ state', outcome = raised exception state' ∧ f state' = state := by
  cases outcome with
  | returned state' => simp
  | raised exception' state' => simp

end Outcome

def maxSize : Nat := 2 ^ 60 - 1

/--
The content of a `std::vector`. A vector of eight byte elements cannot be larger than `maxSize`,
and no address space lets a vector of bytes come near it.
-/
structure StdVector (α : Type) where
  toList : List α
  size_le : toList.length ≤ maxSize

namespace StdVector

def size (v : StdVector α) : Nat :=
  v.toList.length

theorem size_lt (v : StdVector α) : v.size < 2 ^ 60 := by
  have := v.size_le
  simp only [maxSize] at this
  simp only [size]
  omega

end StdVector

end Srs
