import Resemblance.Document.Basic
import Resemblance.Number.Decimal

/-!
# Reading JSON

`Json.read` turns a text in JavaScript Object Notation into a document. A number without fraction
and exponent that fits into 64 bits is an integer, except a negative zero; every other number is the
nearest floating-point number. Bytes beyond the first document make the text invalid.
-/

namespace Resemblance

namespace Json

/-- True for the characters that may stand between parts of a document. -/
def isBlank (character : Char) : Bool :=
  character = ' ' ∨ character = '\n' ∨ character = '\t' ∨ character = '\r'

def skipBlanks (characters : List Char) : List Char :=
  characters.dropWhile isBlank

def expect (word : String) (characters : List Char) : Option (List Char) :=
  if word.toList.isPrefixOf characters then some (characters.drop word.length) else none

def hexValue? (character : Char) : Option Nat :=
  if '0' ≤ character ∧ character ≤ '9' then some (character.toNat - '0'.toNat)
  else if 'a' ≤ character ∧ character ≤ 'f' then some (character.toNat - 'a'.toNat + 10)
  else if 'A' ≤ character ∧ character ≤ 'F' then some (character.toNat - 'A'.toNat + 10)
  else none

def codeUnit? (first second third fourth : Char) : Option Nat := do
  let first ← hexValue? first
  let second ← hexValue? second
  let third ← hexValue? third
  let fourth ← hexValue? fourth
  return ((first * 16 + second) * 16 + third) * 16 + fourth

def escaped? (letter : Char) : Option Char :=
  match letter with
  | '\"' => some '\"'
  | '\\' => some '\\'
  | '/' => some '/'
  | 'b' => some '\x08'
  | 'f' => some '\x0c'
  | 'n' => some '\n'
  | 'r' => some '\r'
  | 't' => some '\t'
  | _ => none

/--
Reads the rest of a text up to its closing quote, after the characters `read` in reverse order.
Characters beyond sixteen bits are escaped as two code units.
-/
def textFrom (read : List Char) : List Char → Option (String × List Char)
  | [] => none
  | '\"' :: rest => some (String.ofList read.reverse, rest)
  | '\\' :: 'u' :: a :: b :: c :: d :: '\\' :: 'u' :: e :: f :: g :: h :: rest =>
      match codeUnit? a b c d, codeUnit? e f g h with
      | some high, some low =>
          if 0xD800 ≤ high ∧ high < 0xDC00 then
            if 0xDC00 ≤ low ∧ low < 0xE000 then
              textFrom (Char.ofNat (0x10000 + (high - 0xD800) * 0x400 + (low - 0xDC00)) :: read)
                rest
            else none
          else if 0xDC00 ≤ high ∧ high < 0xE000 then none
          else textFrom (Char.ofNat high :: read) ('\\' :: 'u' :: e :: f :: g :: h :: rest)
      | _, _ => none
  | '\\' :: 'u' :: a :: b :: c :: d :: rest =>
      match codeUnit? a b c d with
      | some unit =>
          if 0xD800 ≤ unit ∧ unit < 0xE000 then none
          else textFrom (Char.ofNat unit :: read) rest
      | none => none
  | '\\' :: letter :: rest =>
      match escaped? letter with
      | some character => textFrom (character :: read) rest
      | none => none
  | character :: rest =>
      if character < ' ' then none else textFrom (character :: read) rest

def digitsValue (digits : List Char) : Nat :=
  digits.foldl (fun value digit => value * 10 + (digit.toNat - '0'.toNat)) 0

/-- The digits at the beginning of some characters, at least one, and the characters after them. -/
def digits (characters : List Char) : Option (List Char × List Char) :=
  let digits := characters.takeWhile Char.isDigit
  if digits.isEmpty then none else some (digits, characters.drop digits.length)

/-- The digits after a point, none if there is no point. -/
def fraction (characters : List Char) : Option (List Char × List Char) :=
  match characters with
  | '.' :: rest => digits rest
  | _ => some ([], characters)

/-- The exponent after its letter, absent if there is no letter. -/
def exponent (characters : List Char) : Option (Option Int × List Char) :=
  let signed (sign : Int) (rest : List Char) : Option (Option Int × List Char) := do
    let (digits, rest) ← digits rest
    return (some (sign * digitsValue digits), rest)
  match characters with
  | letter :: rest =>
      if letter = 'e' ∨ letter = 'E' then
        match rest with
        | '+' :: rest => signed 1 rest
        | '-' :: rest => signed (-1) rest
        | _ => signed 1 rest
      else some (none, characters)
  | [] => some (none, characters)

def unsigned (negative : Bool) (characters : List Char) : Option (Document × List Char) := do
  let (whole, rest) ← digits characters
  if whole.length ≠ 1 ∧ whole.head? = some '0' then none
  let (part, rest) ← fraction rest
  let (power?, rest) ← exponent rest
  let magnitude : Int := digitsValue whole
  let number := if negative then -magnitude else magnitude
  if part.isEmpty ∧ power? = none ∧ Int64.minValue.toInt ≤ number ∧ number < UInt64.size ∧
      ¬(negative ∧ magnitude = 0) then
    return (.integer number, rest)
  else
    let decimal : Decimal := ⟨digitsValue (whole ++ part), power?.getD 0 - part.length⟩
    return (.decimal (Decimal.read negative decimal), rest)

def number (characters : List Char) : Option (Document × List Char) :=
  match characters with
  | '-' :: rest => unsigned true rest
  | _ => unsigned false characters

mutual

/-- Reads a document in at most `steps` steps. -/
def document : (steps : Nat) → List Char → Option (Document × List Char)
  | 0, _ => none
  | steps + 1, characters =>
      match skipBlanks characters with
      | '\"' :: rest => (textFrom [] rest).map fun (text, rest) => (.text text, rest)
      | '[' :: rest =>
          match skipBlanks rest with
          | ']' :: rest => some (.sequence [], rest)
          | rest => (items steps rest).map fun (items, rest) => (.sequence items, rest)
      | '\x7b' :: rest =>
          match skipBlanks rest with
          | '\x7d' :: rest => some (.mapping [], rest)
          | rest => (entries steps rest).map fun (entries, rest) => (.mapping entries, rest)
      | 't' :: rest => (expect "rue" rest).map fun rest => (.bool true, rest)
      | 'f' :: rest => (expect "alse" rest).map fun rest => (.bool false, rest)
      | 'n' :: rest => (expect "ull" rest).map fun rest => (.null, rest)
      | rest => number rest

/-- Reads the items of a sequence up to its closing bracket. -/
def items : (steps : Nat) → List Char → Option (List Document × List Char)
  | 0, _ => none
  | steps + 1, characters =>
      match document steps characters with
      | none => none
      | some (item, rest) =>
          match skipBlanks rest with
          | ']' :: rest => some ([item], rest)
          | ',' :: rest => (items steps rest).map fun (others, rest) => (item :: others, rest)
          | _ => none

/-- Reads the entries of a mapping up to its closing brace. -/
def entries : (steps : Nat) → List Char → Option (List (String × Document) × List Char)
  | 0, _ => none
  | steps + 1, characters =>
      match skipBlanks characters with
      | '\"' :: rest =>
          match textFrom [] rest with
          | none => none
          | some (name, rest) =>
              match skipBlanks rest with
              | ':' :: rest =>
                  match document steps rest with
                  | none => none
                  | some (value, rest) =>
                      match skipBlanks rest with
                      | '\x7d' :: rest => some ([(name, value)], rest)
                      | ',' :: rest =>
                          (entries steps rest).map fun (others, rest) =>
                            ((name, value) :: others, rest)
                      | _ => none
              | _ => none
      | _ => none

end

def read (text : String) : Option Document :=
  let characters := text.toList
  match document (characters.length + 1) characters with
  | some (document, rest) => if (skipBlanks rest).isEmpty then some document else none
  | none => none

end Json

end Resemblance
