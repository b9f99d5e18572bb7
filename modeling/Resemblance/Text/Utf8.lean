/-!
# UTF-8

Text as bytes and back. `Utf8.decode` accepts exactly the well-formed byte strings; a refusal says
where the first malformed sequence starts and how many of its bytes began a sequence correctly.
-/

namespace Resemblance.Text

/--
The first malformed sequence of a byte string: the index at which it starts and the number of its
bytes that are the beginning of some sequence, at least one; no number when the string ends inside
a sequence that was well formed so far.
-/
structure Utf8Fault where
  /-- Index of the first byte of the sequence. -/
  start : Nat
  /-- Length of the malformed sequence, absent when the string ends inside it. -/
  length? : Option Nat
  deriving DecidableEq, Repr

namespace Utf8Fault

def message : Utf8Fault → String
  | ⟨start, some length⟩ => s!"invalid utf-8 sequence of {length} bytes from index {start}"
  | ⟨start, none⟩ => s!"incomplete utf-8 byte sequence from index {start}"

end Utf8Fault

namespace Utf8

def encode (text : String) : List UInt8 :=
  text.toUTF8.data.toList

/-- The range of bytes that continue a sequence, unless the first byte narrows it. -/
def continuation : UInt8 × UInt8 := (0x80, 0xBF)

/--
The ranges in which the bytes after the first byte of a sequence lie: overlong forms, surrogates
and values past the last code point are excluded by the range of the second byte. No range list
is given to a byte that starts no sequence.
-/
def followers? (first : UInt8) : Option (List (UInt8 × UInt8)) :=
  if first < 0x80 then some []
  else if first < 0xC2 then none
  else if first < 0xE0 then some [continuation]
  else if first = 0xE0 then some [(0xA0, 0xBF), continuation]
  else if first = 0xED then some [(0x80, 0x9F), continuation]
  else if first < 0xF0 then some [continuation, continuation]
  else if first = 0xF0 then some [(0x90, 0xBF), continuation, continuation]
  else if first < 0xF4 then some [continuation, continuation, continuation]
  else if first = 0xF4 then some [(0x80, 0x8F), continuation, continuation]
  else none

/--
The first malformed sequence of `bytes`, where `index` bytes precede them, the current sequence
started at `start`, and `pending` are the ranges of the bytes that it still needs.
-/
def faultFrom (index start : Nat) (pending : List (UInt8 × UInt8)) :
    List UInt8 → Option Utf8Fault
  | [] => if pending.isEmpty then none else some ⟨start, none⟩
  | byte :: rest =>
      match pending with
      | [] =>
          match followers? byte with
          | none => some ⟨index, some 1⟩
          | some ranges => faultFrom (index + 1) index ranges rest
      | (low, high) :: later =>
          if low ≤ byte ∧ byte ≤ high then faultFrom (index + 1) start later rest
          else some ⟨start, some (index - start)⟩

/-- The first malformed sequence of a byte string. -/
def fault? (bytes : List UInt8) : Option Utf8Fault :=
  faultFrom 0 0 [] bytes

/-- The text that a byte string encodes, or its first malformed sequence. -/
def decode (bytes : List UInt8) : Except Utf8Fault String :=
  match String.fromUTF8? ⟨bytes.toArray⟩ with
  | some text => .ok text
  | none => .error ((fault? bytes).getD ⟨0, none⟩)

end Utf8

end Resemblance.Text
