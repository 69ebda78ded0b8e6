import SrsDaq.Utils.CommonFunctions
import SrsDaq.Utils.ZppBits

/-!
This module contains the buffer that carries a message between its bytes and its values.
-/

namespace Srs

structure SerializableMsgBuffer where
  data : List Byte := []
  deriving DecidableEq, Repr

namespace SerializableMsgBuffer

def ofSpan (readData : List Byte) : SerializableMsgBuffer where
  data := readData

def serialize (zpp : ZppBits H) (buf : SerializableMsgBuffer) (structs : List (OutValue H))
    : SerializableMsgBuffer :=
  let size := buf.data.length
  -- a new archive stands at position 0
  let position := 0 + size
  { buf with data := zpp.write buf.data position structs }

def resize (vectorSize : Nat) (body : List (BitVec w)) : List (BitVec w) :=
  body.take vectorSize ++ List.replicate (vectorSize - body.length) 0

def deserialize (zpp : ZppBits H) (sizeofHeader : Nat) (buf : SerializableMsgBuffer) (header : H)
    (body : List (BitVec w))
    : Outcome (H × List (BitVec w)) :=
  let readBytes := BitVec.ofNat 64 buf.data.length
  let headerBytes := BitVec.ofNat 64 sizeofHeader
  let elementBytes := BitVec.ofNat 64 (w / byteBitLength)
  let vectorSize := (readBytes - headerBytes) / elementBytes
  if vectorSize < 0#64 then
    .raised (.runtimeError "Deserialization: Wrong header type!") (header, body)
  else if vectorSize.toNat > maxSize then
    .raised .lengthError (header, body)
  else
    let body := resize vectorSize.toNat body
    let body := body.map fun _ => 0
    match zpp.read w buf.data header body with
    | (filled, false) => .raised .archiveError filled
    -- the archive reads the bytes of an element in the wrong order
    | ((header, body), true) => .returned (header, body.map byteSwap)

def clear (buf : SerializableMsgBuffer) : SerializableMsgBuffer :=
  { buf with data := [] }

end SerializableMsgBuffer

end Srs
