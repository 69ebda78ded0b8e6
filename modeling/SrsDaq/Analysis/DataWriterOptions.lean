/-!
This module contains the set of outputs that are switched on.
-/

namespace Srs

namespace DataWriterOption

inductive Option where
  | noOutput
  | root
  | json
  | binary
  | udp
  deriving DecidableEq, Repr

def Option.toUnderlying : Option → BitVec 8
  | .noOutput => 0x0
  | .root => 0x1
  | .json => 0x2
  | .binary => 0x4
  | .udp => 0x8

end DataWriterOption

/--
Holds the underlying value of the enumeration, which may be the union of several enumerators.
-/
structure DataWriterOption where
  option : BitVec 8
  deriving DecidableEq, Repr

namespace DataWriterOption

def ofOption (option : Option) : DataWriterOption where
  option := option.toUnderlying

def union (left right : DataWriterOption) : DataWriterOption where
  option := left.option ||| right.option

def overlaps (left : DataWriterOption) (right : Option) : Bool :=
  -- `operator==`, which asks whether the two options have an output in common.
  (left.option &&& right.toUnderlying) != Option.noOutput.toUnderlying

end DataWriterOption

end Srs
