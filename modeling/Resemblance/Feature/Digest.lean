import Resemblance.Hash.Xxh3
import Resemblance.Text.Hex

/-!
# Locality-sensitive digests

A digest of a token stream that changes little when the stream changes little. Every window of three
tokens is hashed three times into 128 buckets; the count of a bucket becomes a code from 0 to 3 by
its place among the quartiles of all counts, and a coarse class of the stream's length is kept
beside the codes. Four codes share a byte, the first one in its lowest bits.

The hash of tokens and the hash that mixes token hashes are parameters; `Digest.tokenHash` and
`Digest.mixHash` are the choices that profiles use.
-/

namespace Resemblance

structure Digest where
  /-- The class of the stream's length, four classes per doubling. -/
  lengthClass : UInt8
  /-- The codes of the buckets, four in a byte. -/
  codes : Vector UInt8 32
  deriving DecidableEq

namespace Digest

def bucketCount : Nat := 128

def tokenHash (token : String) : UInt64 :=
  Hash.xxh3OfString token 0

def mixHash (hashes : List UInt64) : UInt64 :=
  Hash.xxh3 (hashes.flatMap Hash.Xxh3.wordBytes) 0

/-- The mixed hashes of all windows of three token hashes: of all three, and of the first and
each other one. -/
def mixedHashes (mix : List UInt64 → UInt64) : List UInt64 → List UInt64
  | first :: second :: third :: rest =>
      mix [first, second, third] :: mix [first, second] :: mix [first, third] ::
        mixedHashes mix (second :: third :: rest)
  | _ => []

/-- The number of mixed hashes that fall into each bucket. -/
def bucketCounts (mixed : List UInt64) : List Nat :=
  (List.range bucketCount).map fun bucket => mixed.countP (·.toNat % bucketCount = bucket)

/-- The counts below which lie a quarter, a half and three quarters of the buckets. -/
structure Quartiles where
  /-- A quarter of the counts are at most this. -/
  first : Nat
  /-- Half of the counts are at most this. -/
  second : Nat
  /-- Three quarters of the counts are at most this. -/
  third : Nat
  deriving DecidableEq, Repr

def quartiles (counts : List Nat) : Quartiles :=
  let sorted := counts.mergeSort
  ⟨sorted.getD (bucketCount / 4 - 1) 0, sorted.getD (bucketCount / 2 - 1) 0,
    sorted.getD (3 * bucketCount / 4 - 1) 0⟩

def quantize (bounds : Quartiles) (count : Nat) : Nat :=
  if count ≤ bounds.first then 0
  else if count ≤ bounds.second then 1
  else if count ≤ bounds.third then 2
  else 3

/-- The byte that holds the four codes from `4 * index` on. -/
def packedByte (codes : List Nat) (index : Nat) : UInt8 :=
  (codes.getD (4 * index) 0 + 4 * codes.getD (4 * index + 1) 0 +
    16 * codes.getD (4 * index + 2) 0 + 64 * codes.getD (4 * index + 3) 0).toUInt8

def pack (codes : List Nat) : Vector UInt8 32 :=
  Vector.ofFn fun index => packedByte codes index.val

def code (digest : Digest) (bucket : Nat) : Nat :=
  (digest.codes.toArray.getD (bucket / 4) 0).toNat >>> (2 * (bucket % 4)) % 4

/-- The class of a stream's length: four times its binary logarithm, rounded down. -/
def lengthClassOf (length : Nat) : UInt8 :=
  (min (Nat.pow (max length 1) 4).log2 255).toUInt8

/--
The digest of a token stream. It is absent for streams of fewer than three or `minTokens` tokens,
and for streams that leave three quarters of the buckets empty.
-/
def ofTokens? (hash : String → UInt64) (mix : List UInt64 → UInt64) (minTokens : Nat)
    (tokens : List String) : Option Digest :=
  if tokens.length < max minTokens 3 then none
  else
    let counts := bucketCounts (mixedHashes mix (tokens.map hash))
    let bounds := quartiles counts
    if bounds.third = 0 then none
    else some ⟨lengthClassOf tokens.length, pack (counts.map (quantize bounds))⟩

/-- The penalty for a difference of length classes: neighbours are cheap. -/
def lengthPenalty (left right : UInt8) : Nat :=
  let gap := (left.toNat - right.toNat) + (right.toNat - left.toNat)
  if gap ≤ 1 then gap else 12 * gap

/-- The penalty for a difference of codes: the greatest difference counts double. -/
def codePenalty (left right : Nat) : Nat :=
  let gap := (left - right) + (right - left)
  if gap = 3 then 6 else gap

/-- The sum of the penalties of the four pairs of codes in two bytes. -/
def bytePenalty (left right : UInt8) : Nat :=
  (List.range 4).foldr
    (fun place total =>
      codePenalty (left.toNat >>> (2 * place) % 4) (right.toNat >>> (2 * place) % 4) + total)
    0

def distance (left right : Digest) : Nat :=
  lengthPenalty left.lengthClass right.lengthClass +
    (left.codes.toList.zipWith bytePenalty right.codes.toList).foldr (· + ·) 0

/-- The distance of two digests that may be absent; none if one of them is. -/
def distance? (left? right? : Option Digest) : Option Nat :=
  match left?, right? with
  | some left, some right => some (left.distance right)
  | _, _ => none

/-- The digits of a digest: its length class, then its codes; a dash for an absent one. -/
def render : Option Digest → String
  | none => "-"
  | some digest =>
      String.join ((digest.lengthClass :: digest.codes.toList).map
        fun byte => Text.upperHex 2 byte.toNat)

end Digest

end Resemblance
