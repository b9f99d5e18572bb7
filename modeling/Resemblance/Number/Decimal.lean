import Resemblance.Number.Binary64

/-!
# Decimal numbers

Floating-point numbers as decimals and back. `Decimal.shortest` finds the decimal with the fewest
digits among those that read back as a number, and of these the nearest one; an exact tie goes to
the even digit. `Decimal.read` rounds a decimal to the nearest number. All arithmetic is exact.

`Decimal.render` writes a number with its shortest digits: positionally between `0.00001` and
`10000000000000000`, always with a point and a digit after it, and with an exponent elsewhere. The
notations of numbers differ in the sign of a positive exponent.
-/

namespace Resemblance

/-- A number that is a multiple of a power of ten. -/
structure Decimal where
  digits : Nat
  exponent : Int
  deriving DecidableEq, Repr

namespace Decimal

/--
The decimals that read back as one positive number: the number and both ends of the interval around
it, as multiples of one power of two. The ends belong to the interval if the significand is even.
-/
structure Interval where
  /-- The number itself. -/
  middle : Nat
  /-- The lower end. -/
  low : Nat
  /-- The upper end. -/
  high : Nat
  /-- The exponent of the power of two. -/
  scale : Int
  /-- True if the ends read back as the number. -/
  closed : Bool
  deriving DecidableEq, Repr

def interval (number : Binary64) : Interval :=
  let significand :=
    if number.exponent = 0 then number.fraction else number.fraction + Binary64.leadingBit
  let scale : Int := (max number.exponent 1 : Nat) - 1077
  let below := if number.fraction = 0 ∧ 1 < number.exponent then 1 else 2
  ⟨4 * significand, 4 * significand - below, 4 * significand + 2, scale, significand % 2 = 0⟩

/--
The point of the grid of multiples of `10 ^ exponent` that lies in an interval and is nearest to its
number, if there is one; only the two neighbours of the number need a look.
-/
def onGrid? (interval : Interval) (exponent : Int) : Option Decimal :=
  let up := Nat.pow 2 interval.scale.toNat * Nat.pow 10 (-exponent).toNat
  let down := Nat.pow 2 (-interval.scale).toNat * Nat.pow 10 exponent.toNat
  let middle := interval.middle * up
  let inside (digits : Nat) : Bool :=
    let point := digits * down
    let low := interval.low * up
    let high := interval.high * up
    if interval.closed then low ≤ point ∧ point ≤ high else low < point ∧ point < high
  let floor := middle / down
  let distanceBelow := middle - floor * down
  let distanceAbove := (floor + 1) * down - middle
  match inside floor, inside (floor + 1) with
  | true, true =>
      if distanceBelow < distanceAbove ∨ (distanceBelow = distanceAbove ∧ floor % 2 = 0) then
        some ⟨floor, exponent⟩
      else some ⟨floor + 1, exponent⟩
  | true, false => some ⟨floor, exponent⟩
  | false, true => some ⟨floor + 1, exponent⟩
  | false, false => none

/-- The first hit on the grids from `exponent` down. -/
def firstOnGrid (interval : Interval) (exponent : Int) : (grids : Nat) → Decimal
  | 0 => ⟨0, 0⟩
  | grids + 1 =>
      match onGrid? interval exponent with
      | some decimal => decimal
      | none => firstOnGrid interval (exponent - 1) grids

/-- The shortest decimal that reads back as a finite positive number. -/
def shortest (number : Binary64) : Decimal :=
  let interval := interval number
  let bits : Int := interval.high.log2 + 1 + interval.scale
  firstOnGrid interval (bits * 30103 / 100000 + 2) 24

/--
The word of the number nearest to a positive quotient, which counts the representable magnitudes
below it: the exponent and the significand of a number are one count. A quotient in the middle
between two numbers goes to the one with the even significand, and one that is too large to
infinity.
-/
def nearestWord (numerator denominator : Nat) : Nat :=
  let significand (scale : Int) : Nat × Nat × Nat :=
    let dividend := numerator <<< (-scale).toNat
    let divisor := denominator <<< scale.toNat
    (dividend / divisor, dividend % divisor, divisor)
  let estimate : Int := numerator.log2 - denominator.log2 - 53
  let fitting :=
    if 2 * Binary64.leadingBit ≤ (significand estimate).1 then estimate + 1 else estimate
  let scale := max fitting (-1074)
  let (floor, rest, divisor) := significand scale
  let rounded :=
    if divisor < 2 * rest ∨ (divisor = 2 * rest ∧ floor % 2 = 1) then floor + 1 else floor
  min ((scale + 1074).toNat * Binary64.leadingBit + rounded) 0x7FF0000000000000

/--
The number nearest to a decimal, with the sign that is given. Decimals that are certainly too large
or too small for any number but infinity or zero are decided by their exponent.
-/
def read (negative : Bool) (decimal : Decimal) : Binary64 :=
  let tenths := (-decimal.exponent).toNat
  let magnitude :=
    if decimal.digits = 0 ∨ decimal.digits.log2 + 1081 < 3 * tenths then 0
    else if 400 < decimal.exponent then 0x7FF0000000000000
    else
      nearestWord (decimal.digits * Nat.pow 10 decimal.exponent.toNat) (Nat.pow 10 tenths)
  if negative then ⟨magnitude.toUInt64 ||| 0x8000000000000000⟩ else ⟨magnitude.toUInt64⟩

def ofInt (number : Int) : Binary64 :=
  read (number < 0) ⟨number.natAbs, 0⟩

/-- The ways to write the exponent of a number. -/
inductive ExponentSign where
  /-- With a sign in any case. -/
  | always
  /-- With a sign if it is negative. -/
  | ifNegative
  deriving DecidableEq, Repr

def ExponentSign.text (sign : ExponentSign) (exponent : Int) : String :=
  (if sign = .always ∧ 0 ≤ exponent then "e+" else "e") ++ toString exponent

/-- The text of a decimal whose digits are not zero. -/
def text (sign : ExponentSign) (decimal : Decimal) : String :=
  let digits := (Nat.toDigits 10 decimal.digits)
  let count := digits.length
  let point : Int := count + decimal.exponent
  if 0 ≤ decimal.exponent ∧ point ≤ 16 then
    String.ofList (digits ++ List.replicate decimal.exponent.toNat '0' ++ ['.', '0'])
  else if 0 < point ∧ point ≤ 16 then
    String.ofList (digits.take point.toNat ++ '.' :: digits.drop point.toNat)
  else if -5 < point ∧ point ≤ 0 then
    String.ofList ('0' :: '.' :: List.replicate (-point).toNat '0' ++ digits)
  else
    let fraction := if count = 1 then [] else '.' :: digits.drop 1
    String.ofList (digits.take 1 ++ fraction) ++ sign.text (point - 1)

def render (sign : ExponentSign) (number : Binary64) : String :=
  let minus := if number.isNegative then "-" else ""
  if number.isZero then minus ++ "0.0" else minus ++ (shortest number).text sign

end Decimal

end Resemblance
