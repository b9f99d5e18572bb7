import Resemblance.Failure
import Resemblance.Wire.Varint

/-!
# Writing bytes

A `Sink` is the byte string that was written so far, the number of bytes in its completed writes,
and the number of bytes that it still takes. A `Writer` adds bytes to a sink and gives a value or a
failure; the sink that it leaves is kept in both cases. Each form that a `Reader` takes has the
writer of the same name.
-/

namespace Resemblance

/-- The state of a byte string that is being written. -/
structure Sink where
  written : Array UInt8 := #[]
  /-- The number of bytes in the writes that completed. -/
  position : Nat := 0
  /-- The number of bytes that the sink still takes, unlimited if absent. -/
  room? : Option Nat := none
  deriving DecidableEq, Repr

namespace Sink

def empty : Sink := {}

def bytes (sink : Sink) : List UInt8 :=
  sink.written.toList

end Sink

abbrev Writer (Result : Type) := EStateM Failure Sink Result

/-- The lowest `width` bytes of a number, lowest first. -/
def toLittleEndian : (width number : Nat) → List UInt8
  | 0, _ => []
  | width + 1, number => (number % 256).toUInt8 :: toLittleEndian width (number / 256)

namespace Writer

/--
Adds bytes. A sink with too little room takes the bytes for which there is room, and the write does
not complete.
-/
def bytes (bytes : List UInt8) : Writer Unit :=
  fun sink =>
    match sink.room? with
    | none =>
        .ok () { sink with
          written := sink.written ++ bytes.toArray
          position := sink.position + bytes.length }
    | some room =>
        if bytes.length ≤ room then
          .ok () { sink with
            written := sink.written ++ bytes.toArray
            position := sink.position + bytes.length
            room? := some (room - bytes.length) }
        else
          .error (.io .writeProfile [])
            { sink with written := sink.written ++ (bytes.take room).toArray, room? := some 0 }

def u8 (number : UInt8) : Writer Unit :=
  bytes (toLittleEndian 1 number.toNat)

def u32 (number : UInt32) : Writer Unit :=
  bytes (toLittleEndian 4 number.toNat)

def i32 (number : Int32) : Writer Unit :=
  u32 number.toUInt32

def u64 (number : UInt64) : Writer Unit :=
  bytes (toLittleEndian 8 number.toNat)

def i64 (number : Int64) : Writer Unit :=
  u64 number.toUInt64

def bool (value : Bool) : Writer Unit :=
  u8 (if value then 1 else 0)

def varint (number : UInt64) : Writer Unit :=
  bytes (Varint.encode number)

/-- Writes a signed number in its shortest variable-length form. -/
def signed (number : Int64) : Writer Unit :=
  varint (ZigZag.encode number)

def length (length : Nat) : Writer Unit :=
  varint length.toUInt64

def index (index : UInt32) : Writer Unit :=
  varint index.toUInt64

/-- Writes a text: its length in bytes, then its UTF-8 form. -/
def string (text : String) : Writer Unit := do
  let form := Text.Utf8.encode text
  length form.length
  bytes form

def each {Item : Type} (write : Item → Writer Unit) : List Item → Writer Unit
  | [] => return ()
  | item :: items => do
      write item
      each write items

end Writer

end Resemblance
