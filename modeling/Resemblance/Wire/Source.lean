import Resemblance.Failure
import Resemblance.Wire.Varint

/-!
# Reading bytes

A `Source` is what is left of a byte string, together with the position that was reached, the depth
of nested typed constants, and what happens when the bytes run out. A `Reader` takes bytes from a
source and gives a value or a failure; the source that it leaves is kept in both cases. Failures of
the format carry the position at which they were noticed.

Numbers of fixed width have their lowest byte first. Lengths and indices are variable-length
numbers with an upper bound, and nested constants are at most `Reader.maxNesting` deep.
-/

namespace Resemblance

/-- What a source answers once its bytes are used up. -/
inductive Ending where
  | endOfBytes
  | broken
  deriving DecidableEq, Repr

/-- The state of a byte string that is being read. -/
structure Source where
  rest : List UInt8
  position : Nat := 0
  /-- The number of typed constants that enclose the next byte. -/
  depth : Nat := 0
  /-- What happens after the last byte. -/
  ending : Ending := .endOfBytes
  deriving DecidableEq, Repr

namespace Source

def ofBytes (bytes : List UInt8) : Source :=
  { rest := bytes }

/-- The source after `count` more of its bytes were taken. -/
def advance (source : Source) (count : Nat) : Source :=
  { source with rest := source.rest.drop count, position := source.position + count }

def failure (source : Source) (fault : FormatFault) : Failure :=
  .format fault none (some source.position)

/-- The failure of a read that needs more bytes than are left. -/
def shortage (source : Source) (fault : FormatFault) : Failure :=
  match source.ending with
  | .endOfBytes => source.failure fault
  | .broken => .io .readProfile []

end Source

abbrev Reader (Result : Type) := EStateM Failure Source Result

/-- The number whose bytes are given, lowest first. -/
def ofLittleEndian (bytes : List UInt8) : Nat :=
  bytes.foldr (fun byte number => byte.toNat + 256 * number) 0

namespace Reader

variable {Result : Type}

def maxStringLength : Nat := 16 * 1024 * 1024

def maxCollectionLength : Nat := 256 * 1024 * 1024

/-- The greatest number of typed constants inside one another. -/
def maxNesting : Nat := 64

def position : Reader Nat :=
  fun source => .ok source.position source

def failAt (offset : Nat) (fault : FormatFault) : Reader Result :=
  fun source => .error (.format fault none (some offset)) source

def fail (fault : FormatFault) : Reader Result :=
  fun source => .error (source.failure fault) source

/-- Descends into a typed constant, unless too many of them enclose it. -/
def enter : Reader Unit :=
  fun source =>
    if maxNesting ≤ source.depth then .error (source.failure .nestingTooDeep) source
    else .ok () { source with depth := source.depth + 1 }

def exit : Reader Unit :=
  fun source => .ok () { source with depth := source.depth - 1 }

/-- Reads inside a typed constant, which is left also when the reading fails. -/
def nested (inner : Reader Result) : Reader Result := do
  enter
  fun source =>
    match inner source with
    | .ok result source => .ok result { source with depth := source.depth - 1 }
    | .error failure source => .error failure { source with depth := source.depth - 1 }

def exact (count : Nat) : Reader { bytes : List UInt8 // bytes.length = count } :=
  fun source =>
    let bytes := source.rest.take count
    if complete : bytes.length = count then .ok ⟨bytes, complete⟩ (source.advance count)
    else .error (source.shortage .truncated) source

def u8 : Reader UInt8 := do
  let bytes ← exact 1
  return (ofLittleEndian bytes).toUInt8

def u32 : Reader UInt32 := do
  let bytes ← exact 4
  return (ofLittleEndian bytes).toUInt32

def i32 : Reader Int32 := do
  let number ← u32
  return number.toInt32

def u64 : Reader UInt64 := do
  let bytes ← exact 8
  return (ofLittleEndian bytes).toUInt64

def i64 : Reader Int64 := do
  let number ← u64
  return number.toInt64

/-- Reads a truth value, which is the byte 0 or 1. -/
def bool : Reader Bool := do
  let byte ← u8
  if byte = 0 then return false
  else if byte = 1 then return true
  else fail (.notBoolean byte)

def varint : Reader UInt64 :=
  fun source =>
    match Varint.decode source.rest with
    | .ok (number, consumed) => .ok number (source.advance consumed)
    | .error ⟨.truncated, consumed⟩ =>
        let source := source.advance consumed
        .error (source.shortage .truncatedVarint) source
    | .error ⟨.overflow, consumed⟩ =>
        let source := source.advance consumed
        .error (source.failure .varintOverflow) source

def signed : Reader Int64 := do
  let number ← varint
  return ZigZag.decode number

def length : Reader Nat := do
  let number ← varint
  if number.toNat ≤ maxCollectionLength then return number.toNat
  else fail (.collectionTooLong number)

def index : Reader UInt32 := do
  let number ← varint
  if number.toNat < UInt32.size then return number.toUInt32
  else fail (.indexTooLarge number)

/-- Reads a text: its length in bytes, then its UTF-8 form. -/
def string : Reader String := do
  let length ← varint
  if length.toNat ≤ maxStringLength then
    let bytes ← exact length.toNat
    match Text.Utf8.decode bytes with
    | .ok text => return text
    | .error fault => fail (.notUtf8 fault)
  else fail (.stringTooLong length)

def replicate (count : Nat) (item : Reader Result) : Reader (List Result) :=
  match count with
  | 0 => return []
  | count + 1 => do
      let first ← item
      let others ← replicate count item
      return first :: others

end Reader

end Resemblance
