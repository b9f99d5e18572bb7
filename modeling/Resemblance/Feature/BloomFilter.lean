import Resemblance.Hash.Xxh3

/-!
# Bloom filters

A set of tokens that remembers only bits: a token sets a fixed number of bits, which its two hashes
choose by double hashing. A filter may seem to contain a token that was never inserted, but it
contains every token that was. The bits of a filter are those of a number below two to the power of
its width.

The hashes of tokens are a parameter of every operation that needs them; `BloomFilter.tokenHash` is
the choice that profiles use.
-/

namespace Resemblance

/-- The two hashes of a token, from which all its positions derive. -/
abbrev DoubleHash := String → UInt64 × UInt64

structure BloomFilter where
  width : Nat
  hashCount : UInt32
  /-- The number whose binary digits are the bits, the first bit lowest. -/
  bits : Nat
  deriving DecidableEq, Repr

namespace BloomFilter

def WithinWidth (filter : BloomFilter) : Prop :=
  filter.bits >>> filter.width = 0

instance : DecidablePred WithinWidth :=
  fun filter => inferInstanceAs (Decidable (filter.bits >>> filter.width = 0))

/-- The filter of a width and hash count that contains nothing. -/
def empty (width : Nat) (hashCount : UInt32) : BloomFilter :=
  ⟨width, hashCount, 0⟩

/-- The hashes of a token: its hashes under two seeds, the second made odd. -/
def tokenHash : DoubleHash := fun token =>
  (Hash.xxh3OfString token 0, Hash.xxh3OfString token 0x9E3779B97F4A7C15 ||| 1)

/-- The position that the two hashes of a token choose in round `round`. -/
def position (filter : BloomFilter) (hashes : UInt64 × UInt64) (round : Nat) : Nat :=
  (hashes.1 + round.toUInt64 * hashes.2).toNat % max filter.width 1

/-- The positions that the two hashes of a token choose. -/
def positions (filter : BloomFilter) (hashes : UInt64 × UInt64) : List Nat :=
  (List.range filter.hashCount.toNat).map (filter.position hashes)

def setBit (filter : BloomFilter) (position : Nat) : BloomFilter :=
  { filter with bits := filter.bits ||| 1 <<< position }

/-- Inserts a token. A filter without bits stays as it is. -/
def insert (hash : DoubleHash) (filter : BloomFilter) (token : String) : BloomFilter :=
  if filter.width = 0 then filter
  else (filter.positions (hash token)).foldl setBit filter

def ofTokens (hash : DoubleHash) (width : Nat) (hashCount : UInt32) (tokens : List String) :
    BloomFilter :=
  tokens.foldl (insert hash) (empty width hashCount)

/-- True if the `rounds` rounds from `round` on choose positions with set bits only. -/
def allSet (filter : BloomFilter) (hashes : UInt64 × UInt64) (round : Nat) : Nat → Bool
  | 0 => true
  | rounds + 1 =>
      filter.bits.testBit (filter.position hashes round) &&
        allSet filter hashes (round + 1) rounds

/-- True if every bit of a token is set. A filter without bits contains nothing. -/
def contains (hash : DoubleHash) (filter : BloomFilter) (token : String) : Bool :=
  filter.width ≠ 0 && filter.allSet (hash token) 0 filter.hashCount.toNat

def occupancy (filter : BloomFilter) : Nat :=
  (List.range filter.width).countP filter.bits.testBit

/--
True if every bit of `smaller` is also set in `filter`. Filters of different width or hash count
are never in this relation.
-/
def includes (filter smaller : BloomFilter) : Bool :=
  filter.width = smaller.width && filter.hashCount = smaller.hashCount &&
    smaller.bits &&& filter.bits = smaller.bits

def wordCount (width : Nat) : Nat :=
  (width + 63) / 64

/-- The lowest `count` words of a number, lowest first. -/
def toWords : (count number : Nat) → List UInt64
  | 0, _ => []
  | count + 1, number => (number % UInt64.size).toUInt64 :: toWords count (number / UInt64.size)

/-- The number whose words are given, lowest first. -/
def ofWords (words : List UInt64) : Nat :=
  words.foldr (fun word number => word.toNat + UInt64.size * number) 0

def words (filter : BloomFilter) : List UInt64 :=
  toWords (wordCount filter.width) filter.bits

end BloomFilter

end Resemblance
