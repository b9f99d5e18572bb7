import Resemblance.Number.Decimal

/-!
# Plain scalars

What a scalar without quotes can stand for. Truth values are written `true` and `false`, also with a
capital letter or in capital letters. Whole numbers are decimal, without leading zeros, or have the
base 16, 8 or 2 after `0x`, `0o` and `0b`. Other numbers may have a fraction and an exponent, or are
`.inf` and `.nan`; a decimal too large for a finite number is none.
-/

namespace Resemblance

namespace PlainScalar

def isNull (text : String) : Bool :=
  ["", "~", "null", "Null", "NULL"].contains text

def truth? (text : String) : Option Bool :=
  if ["true", "True", "TRUE"].contains text then some true
  else if ["false", "False", "FALSE"].contains text then some false
  else none

/-- The value of a digit in a base up to 16. -/
def digit? (base : Nat) (character : Char) : Option Nat :=
  let value? :=
    if '0' ≤ character ∧ character ≤ '9' then some (character.toNat - '0'.toNat)
    else if 'a' ≤ character ∧ character ≤ 'f' then some (character.toNat - 'a'.toNat + 10)
    else if 'A' ≤ character ∧ character ≤ 'F' then some (character.toNat - 'A'.toNat + 10)
    else none
  value?.filter (· < base)

/-- The value of a list of digits, none for the empty list. -/
def digits? (base : Nat) (characters : List Char) : Option Nat :=
  if characters.isEmpty then none
  else characters.foldlM (fun value character => do
    return value * base + (← digit? base character)) 0

def dropPlus : List Char → List Char
  | '+' :: rest => rest
  | characters => characters

/-- True for a zero before further digits. -/
def hasLeadingZero : List Char → Bool
  | '0' :: next :: rest => (next :: rest).all Char.isDigit
  | _ => false

def magnitude? (characters : List Char) : Option Nat :=
  match characters with
  | '0' :: 'x' :: rest => digits? 16 rest
  | '0' :: 'o' :: rest => digits? 8 rest
  | '0' :: 'b' :: rest => digits? 2 rest
  | _ => if hasLeadingZero characters then none else digits? 10 characters

/-- The whole number that a scalar stands for, if it is not negative. -/
def natural? (text : String) : Option Nat :=
  magnitude? (dropPlus text.toList)

/-- The exponent of a number, which may be missing. -/
def exponent? : List Char → Option Int
  | [] => some 0
  | letter :: rest =>
      if letter = 'e' ∨ letter = 'E' then
        match rest with
        | '-' :: digits => (digits? 10 digits).map fun value => -(value : Int)
        | _ => (digits? 10 (dropPlus rest)).map fun value => (value : Int)
      else none

def decimal? (characters : List Char) : Option Decimal := do
  let whole := characters.takeWhile Char.isDigit
  let afterWhole := characters.dropWhile Char.isDigit
  let afterPoint :=
    match afterWhole with
    | '.' :: rest => rest
    | _ => []
  let fraction := afterPoint.takeWhile Char.isDigit
  let rest := if afterWhole.head? = some '.' then afterPoint.dropWhile Char.isDigit else afterWhole
  let digits ← digits? 10 (whole ++ fraction)
  let exponent ← exponent? rest
  return ⟨digits, exponent - fraction.length⟩

def finite? (characters : List Char) : Option Binary64 := do
  let negative := characters.head? = some '-'
  let decimal ← decimal? (if negative then characters.drop 1 else characters)
  let number := Decimal.read negative decimal
  if number.isInfinite then none else return number

def infinity : Binary64 := ⟨0x7FF0000000000000⟩

def number? (text : String) : Option Binary64 :=
  if [".inf", ".Inf", ".INF", "+.inf", "+.Inf", "+.INF"].contains text then some infinity
  else if ["-.inf", "-.Inf", "-.INF"].contains text then some ⟨0xFFF0000000000000⟩
  else if [".nan", ".NaN", ".NAN"].contains text then some ⟨0x7FF8000000000000⟩
  else
    match text.toList with
    | '+' :: '-' :: _ => none
    | characters => finite? (dropPlus characters)

/-- True for a whole number of at most 128 bits, of which one is for the sign of a negative one. -/
def isWhole (text : String) : Bool :=
  match text.toList with
  | '-' :: characters => (magnitude? characters).any fun size => decide (size ≤ Nat.pow 2 127)
  | _ => (natural? text).any fun number => decide (number < Nat.pow 2 128)

/-- True for digits that only a leading zero keeps from being a whole number. -/
def isZeroPadded (text : String) : Bool :=
  match text.toList with
  | '-' :: characters => hasLeadingZero characters
  | characters => hasLeadingZero (dropPlus characters)

/-- True for the scalars that can only be texts. -/
def isText (text : String) : Bool :=
  !(isNull text || (truth? text).isSome || isWhole text || (number? text).isSome ||
    isZeroPadded text)

end PlainScalar

end Resemblance
