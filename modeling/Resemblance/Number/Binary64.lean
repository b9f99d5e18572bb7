/-!
# Floating-point words

A number of the 64-bit binary format as the word that stores it, so that the sign of zero and the
payload of a number that is not a number survive. Numbers that are only stored or shown stay
words; `Binary64.toFloat` and `Binary64.ofFloat` lead to and from arithmetic.

`Binary64.equal` is the equality of the format: zeros of both signs are equal, and what is not a
number equals nothing, not even itself.
-/

namespace Resemblance

/-- A number of the 64-bit binary floating-point format. -/
structure Binary64 where
  /-- The sign in the top bit, then eleven bits of exponent, then 52 bits of fraction. -/
  bits : UInt64
  deriving DecidableEq, Repr

namespace Binary64

def zero : Binary64 := ⟨0⟩

def toFloat (number : Binary64) : Float :=
  Float.ofBits number.bits

def ofFloat (number : Float) : Binary64 :=
  ⟨number.toBits⟩

def isNegative (number : Binary64) : Bool :=
  number.bits.toNat >>> 63 = 1

/-- The place of the leading bit of a significand, which is not stored, above the fraction. -/
def leadingBit : Nat := 1 <<< 52

def exponent (number : Binary64) : Nat :=
  number.bits.toNat >>> 52 % 2048

def fraction (number : Binary64) : Nat :=
  number.bits.toNat % leadingBit

def isNaN (number : Binary64) : Bool :=
  number.exponent = 2047 ∧ number.fraction ≠ 0

def isInfinite (number : Binary64) : Bool :=
  number.exponent = 2047 ∧ number.fraction = 0

def isZero (number : Binary64) : Bool :=
  number.exponent = 0 ∧ number.fraction = 0

/--
The place of a number in the order of all words: by sign and magnitude, the negative zero just
before the positive one.
-/
def rank (number : Binary64) : Int :=
  if number.isNegative then Int64.maxValue.toInt - number.bits.toNat else number.bits.toNat

/-- Equality as numbers. -/
def equal (left right : Binary64) : Bool :=
  !left.isNaN && !right.isNaN && (left.bits == right.bits || (left.isZero && right.isZero))

end Binary64

end Resemblance
