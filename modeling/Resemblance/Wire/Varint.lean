/-!
# Variable-length numbers

Numbers below `2 ^ 64` as groups of seven bits, lowest group first, one group in each byte; the top
bit of a byte says that another byte follows. `Varint.encode` writes the shortest form.
`Varint.decode` also accepts longer forms of at most ten bytes, and always says how many bytes it
took. Signed numbers are folded onto the unsigned ones first, so that small magnitudes stay short.
-/

namespace Resemblance

namespace Varint

def maxLength : Nat := 10

/-- The groups of a number, lowest first, each but the last marked with the top bit. -/
def groups (number : Nat) : List UInt8 :=
  if number < 128 then [number.toUInt8]
  else (number % 128 + 128).toUInt8 :: groups (number / 128)
termination_by number
decreasing_by omega

def encode (number : UInt64) : List UInt8 :=
  groups number.toNat

/-- The number of bytes in the shortest form of a number, from its number of bits. -/
def encodedLength (number : UInt64) : Nat :=
  let bits := if number = 0 then 1 else number.toNat.log2 + 1
  (bits + 6) / 7

inductive Reason where
  | truncated
  | overflow
  deriving DecidableEq, Repr

structure Fault where
  reason : Reason
  consumed : Nat
  deriving DecidableEq, Repr

/--
Decodes the groups from number `index` on, where the groups before them amount to `sum`. The last
group that fits may only carry the one bit that remains.
-/
def decodeFrom (index sum : Nat) : List UInt8 → Except Fault (UInt64 × Nat)
  | [] => .error ⟨.truncated, index⟩
  | byte :: rest =>
      let group := byte.toNat % 128
      let sum := sum + group <<< (7 * index)
      if index + 1 = maxLength ∧ 1 < group then .error ⟨.overflow, maxLength⟩
      else if byte.toNat < 128 then .ok (sum.toUInt64, index + 1)
      else if index + 1 = maxLength then .error ⟨.overflow, maxLength⟩
      else decodeFrom (index + 1) sum rest

/-- The number at the beginning of a byte string, and the number of bytes it takes. -/
def decode (bytes : List UInt8) : Except Fault (UInt64 × Nat) :=
  decodeFrom 0 0 bytes

end Varint

namespace ZigZag

/-- Numbers from zero up go to the even numbers, numbers from minus one down to the odd ones. -/
def encode (number : Int64) : UInt64 :=
  let value := number.toInt
  if 0 ≤ value then (2 * value).toNat.toUInt64 else (-2 * value - 1).toNat.toUInt64

def decode (number : UInt64) : Int64 :=
  let half : Int := (number.toNat / 2 : Nat)
  if number.toNat % 2 = 0 then Int64.ofInt half else Int64.ofInt (-half - 1)

end ZigZag

end Resemblance
