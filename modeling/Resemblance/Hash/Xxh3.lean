/-!
# The XXH3 hash with 64 bits

XXH3-64 of a byte string, with a seed. Inputs of at most 240 bytes are mixed in one go, with a
formula that depends on the length; longer inputs pass through eight accumulators in stripes of 64
bytes. All arithmetic is on words that wrap, and words are read with the lowest byte first.
-/

namespace Resemblance.Hash

namespace Xxh3

/-- The 192 bytes that the hash mixes into its input when no seed is given. -/
def secret : Array UInt8 :=
  #[0xB8, 0xFE, 0x6C, 0x39, 0x23, 0xA4, 0x4B, 0xBE, 0x7C, 0x01, 0x81, 0x2C,
    0xF7, 0x21, 0xAD, 0x1C, 0xDE, 0xD4, 0x6D, 0xE9, 0x83, 0x90, 0x97, 0xDB,
    0x72, 0x40, 0xA4, 0xA4, 0xB7, 0xB3, 0x67, 0x1F, 0xCB, 0x79, 0xE6, 0x4E,
    0xCC, 0xC0, 0xE5, 0x78, 0x82, 0x5A, 0xD0, 0x7D, 0xCC, 0xFF, 0x72, 0x21,
    0xB8, 0x08, 0x46, 0x74, 0xF7, 0x43, 0x24, 0x8E, 0xE0, 0x35, 0x90, 0xE6,
    0x81, 0x3A, 0x26, 0x4C, 0x3C, 0x28, 0x52, 0xBB, 0x91, 0xC3, 0x00, 0xCB,
    0x88, 0xD0, 0x65, 0x8B, 0x1B, 0x53, 0x2E, 0xA3, 0x71, 0x64, 0x48, 0x97,
    0xA2, 0x0D, 0xF9, 0x4E, 0x38, 0x19, 0xEF, 0x46, 0xA9, 0xDE, 0xAC, 0xD8,
    0xA8, 0xFA, 0x76, 0x3F, 0xE3, 0x9C, 0x34, 0x3F, 0xF9, 0xDC, 0xBB, 0xC7,
    0xC7, 0x0B, 0x4F, 0x1D, 0x8A, 0x51, 0xE0, 0x4B, 0xCD, 0xB4, 0x59, 0x31,
    0xC8, 0x9F, 0x7E, 0xC9, 0xD9, 0x78, 0x73, 0x64, 0xEA, 0xC5, 0xAC, 0x83,
    0x34, 0xD3, 0xEB, 0xC3, 0xC5, 0x81, 0xA0, 0xFF, 0xFA, 0x13, 0x63, 0xEB,
    0x17, 0x0D, 0xDD, 0x51, 0xB7, 0xF0, 0xDA, 0x49, 0xD3, 0x16, 0x55, 0x26,
    0x29, 0xD4, 0x68, 0x9E, 0x2B, 0x16, 0xBE, 0x58, 0x7D, 0x47, 0xA1, 0xFC,
    0x8F, 0xF8, 0xB8, 0xD1, 0x7A, 0xD0, 0x31, 0xCE, 0x45, 0xCB, 0x3A, 0x8F,
    0x95, 0x16, 0x04, 0x28, 0xAF, 0xD7, 0xFB, 0xCA, 0xBB, 0x4B, 0x40, 0x7E]

/-- First 32-bit prime. -/
def prime32A : UInt64 := 0x9E3779B1

/-- Second 32-bit prime. -/
def prime32B : UInt64 := 0x85EBCA77

/-- Third 32-bit prime. -/
def prime32C : UInt64 := 0xC2B2AE3D

/-- First 64-bit prime. -/
def prime64A : UInt64 := 0x9E3779B185EBCA87

/-- Second 64-bit prime. -/
def prime64B : UInt64 := 0xC2B2AE3D27D4EB4F

/-- Third 64-bit prime. -/
def prime64C : UInt64 := 0x165667B19E3779F9

/-- Fourth 64-bit prime. -/
def prime64D : UInt64 := 0x85EBCA77C2B2AE63

/-- Fifth 64-bit prime. -/
def prime64E : UInt64 := 0x27D4EB2F165667C5

/-- Multiplier of the last mixing step. -/
def mixPrime : UInt64 := 0x165667919E3779F9

/-- Multiplier of the mixing step for four to eight bytes. -/
def shortMixPrime : UInt64 := 0x9FB21C651E98DF25

/-- The byte at `index`, zero past the end. -/
def byteAt (bytes : Array UInt8) (index : Nat) : UInt64 :=
  (bytes.getD index 0).toUInt64

/-- The 32-bit word at `index`, lowest byte first. -/
def word32 (bytes : Array UInt8) (index : Nat) : UInt64 :=
  byteAt bytes index ||| byteAt bytes (index + 1) <<< 8 |||
    byteAt bytes (index + 2) <<< 16 ||| byteAt bytes (index + 3) <<< 24

/-- The 64-bit word at `index`, lowest byte first. -/
def word64 (bytes : Array UInt8) (index : Nat) : UInt64 :=
  word32 bytes index ||| word32 bytes (index + 4) <<< 32

/-- The bytes of a word, lowest first. -/
def wordBytes (word : UInt64) : List UInt8 :=
  (List.range 8).map fun index => (word >>> (8 * index).toUInt64).toUInt8

/-- The low 32 bits of a word with their four bytes in reverse order. -/
def reverseBytes32 (word : UInt64) : UInt64 :=
  (word &&& 0xFF) <<< 24 ||| (word >>> 8 &&& 0xFF) <<< 16 |||
    (word >>> 16 &&& 0xFF) <<< 8 ||| (word >>> 24 &&& 0xFF)

/-- A word with its eight bytes in reverse order. -/
def reverseBytes64 (word : UInt64) : UInt64 :=
  reverseBytes32 word <<< 32 ||| reverseBytes32 (word >>> 32)

def rotateLeft (word amount : UInt64) : UInt64 :=
  word <<< amount ||| word >>> (64 - amount)

/-- The two halves of the full product of two words, combined by exclusive or. -/
def foldedProduct (left right : UInt64) : UInt64 :=
  let product := left.toNat * right.toNat
  product.toUInt64 ^^^ (product >>> 64).toUInt64

def avalanche (hash : UInt64) : UInt64 :=
  let hash := (hash ^^^ hash >>> 37) * mixPrime
  hash ^^^ hash >>> 32

/-- The final mixing step for inputs of at most three bytes. -/
def tinyAvalanche (hash : UInt64) : UInt64 :=
  let hash := (hash ^^^ hash >>> 33) * prime64B
  let hash := (hash ^^^ hash >>> 29) * prime64C
  hash ^^^ hash >>> 32

/-- The final mixing step for inputs of four to eight bytes. -/
def shortAvalanche (hash length : UInt64) : UInt64 :=
  let hash := hash ^^^ rotateLeft hash 49 ^^^ rotateLeft hash 24
  let hash := hash * shortMixPrime
  let hash := hash ^^^ (hash >>> 35 + length)
  let hash := hash * shortMixPrime
  hash ^^^ hash >>> 28

def hashEmpty (seed : UInt64) : UInt64 :=
  tinyAvalanche (seed ^^^ (word64 secret 56 ^^^ word64 secret 64))

def hashTiny (bytes : Array UInt8) (seed : UInt64) : UInt64 :=
  let length := bytes.size
  let combined := byteAt bytes 0 <<< 16 ||| byteAt bytes (length / 2) <<< 24 |||
    byteAt bytes (length - 1) ||| length.toUInt64 <<< 8
  tinyAvalanche (combined ^^^ ((word32 secret 0 ^^^ word32 secret 4) + seed))

def hashShort (bytes : Array UInt8) (seed : UInt64) : UInt64 :=
  let length := bytes.size
  let seed := seed ^^^ reverseBytes32 seed <<< 32
  let combined := word32 bytes (length - 4) + word32 bytes 0 <<< 32
  shortAvalanche (combined ^^^ ((word64 secret 8 ^^^ word64 secret 16) - seed)) length.toUInt64

def hashMedium (bytes : Array UInt8) (seed : UInt64) : UInt64 :=
  let length := bytes.size
  let low := word64 bytes 0 ^^^ ((word64 secret 24 ^^^ word64 secret 32) + seed)
  let high := word64 bytes (length - 8) ^^^ ((word64 secret 40 ^^^ word64 secret 48) - seed)
  avalanche (length.toUInt64 + reverseBytes64 low + high + foldedProduct low high)

/-- Sixteen bytes of the input mixed with sixteen bytes of the secret. -/
def mixSixteen (bytes : Array UInt8) (index secretIndex : Nat) (seed : UInt64) : UInt64 :=
  foldedProduct (word64 bytes index ^^^ (word64 secret secretIndex + seed))
    (word64 bytes (index + 8) ^^^ (word64 secret (secretIndex + 8) - seed))

/--
The hash of 17 to 128 bytes: pairs of sixteen bytes from both ends towards the middle, as many
pairs as it takes to cover the input.
-/
def hashLong (bytes : Array UInt8) (seed : UInt64) : UInt64 :=
  let length := bytes.size
  let pairs := (length - 1) / 32 + 1
  avalanche <| (List.range pairs).foldl
    (fun sum pair => sum + mixSixteen bytes (16 * pair) (32 * pair) seed +
      mixSixteen bytes (length - 16 * (pair + 1)) (32 * pair + 16) seed)
    (length.toUInt64 * prime64A)

def hashLonger (bytes : Array UInt8) (seed : UInt64) : UInt64 :=
  let length := bytes.size
  let start := (List.range 8).foldl
    (fun sum round => sum + mixSixteen bytes (16 * round) (16 * round) seed)
    (length.toUInt64 * prime64A)
  let sum := (List.range (length / 16 - 8)).foldl
    (fun sum round => sum + mixSixteen bytes (16 * (round + 8)) (16 * round + 3) seed)
    (avalanche start)
  avalanche (sum + mixSixteen bytes (length - 16) 119 seed)

/-- The secret that a seed gives: its words shifted by the seed, alternately up and down. -/
def seededSecret (seed : UInt64) : Array UInt8 :=
  ((List.range 12).flatMap fun index =>
    wordBytes (word64 secret (16 * index) + seed) ++
      wordBytes (word64 secret (16 * index + 8) - seed)).toArray

/-- The eight accumulators of a long input before its first stripe. -/
def startAccumulators : Array UInt64 :=
  #[prime32C, prime64A, prime64B, prime64C, prime64D, prime32B, prime64E, prime32A]

/-- Mixes the stripe of 64 bytes at `index` into the accumulators. -/
def accumulate (key bytes : Array UInt8) (index keyIndex : Nat) (sums : Array UInt64) :
    Array UInt64 :=
  (List.range 8).foldl
    (fun sums lane =>
      let value := word64 bytes (index + 8 * lane)
      let keyed := value ^^^ word64 key (keyIndex + 8 * lane)
      let partner := if lane % 2 = 0 then lane + 1 else lane - 1
      let sums := sums.setIfInBounds partner (sums.getD partner 0 + value)
      sums.setIfInBounds lane
        (sums.getD lane 0 + (keyed &&& (0xFFFFFFFF : UInt64)) * (keyed >>> 32)))
    sums

def scramble (key : Array UInt8) (sums : Array UInt64) : Array UInt64 :=
  (List.range 8).foldl
    (fun sums lane =>
      let sum := sums.getD lane 0
      sums.setIfInBounds lane ((sum ^^^ sum >>> 47 ^^^ word64 key (128 + 8 * lane)) * prime32A))
    sums

/-- Mixes `count` stripes of the block that starts at `index` into the accumulators. -/
def accumulateStripes (key bytes : Array UInt8) (index count : Nat) (sums : Array UInt64) :
    Array UInt64 :=
  (List.range count).foldl
    (fun sums stripe => accumulate key bytes (index + 64 * stripe) (8 * stripe) sums) sums

def mergeAccumulators (key : Array UInt8) (sums : Array UInt64) (start : UInt64) : UInt64 :=
  avalanche <| (List.range 4).foldl
    (fun hash pair => hash +
      foldedProduct (sums.getD (2 * pair) 0 ^^^ word64 key (11 + 16 * pair))
        (sums.getD (2 * pair + 1) 0 ^^^ word64 key (19 + 16 * pair)))
    start

/-- The hash of more than 240 bytes: blocks of sixteen stripes, then the stripes that are left. -/
def hashStripes (bytes : Array UInt8) (seed : UInt64) : UInt64 :=
  let length := bytes.size
  let key := if seed = 0 then secret else seededSecret seed
  let blocks := (length - 1) / 1024
  let sums := (List.range blocks).foldl
    (fun sums block => scramble key (accumulateStripes key bytes (1024 * block) 16 sums))
    startAccumulators
  let sums := accumulateStripes key bytes (1024 * blocks) ((length - 1 - 1024 * blocks) / 64) sums
  let sums := accumulate key bytes (length - 64) 121 sums
  mergeAccumulators key sums (length.toUInt64 * prime64A)

end Xxh3

/-- The XXH3-64 hash of an array of bytes under a seed. -/
def xxh3OfArray (bytes : Array UInt8) (seed : UInt64) : UInt64 :=
  if bytes.size = 0 then Xxh3.hashEmpty seed
  else if bytes.size ≤ 3 then Xxh3.hashTiny bytes seed
  else if bytes.size ≤ 8 then Xxh3.hashShort bytes seed
  else if bytes.size ≤ 16 then Xxh3.hashMedium bytes seed
  else if bytes.size ≤ 128 then Xxh3.hashLong bytes seed
  else if bytes.size ≤ 240 then Xxh3.hashLonger bytes seed
  else Xxh3.hashStripes bytes seed

/-- The XXH3-64 hash of a list of bytes under a seed. -/
def xxh3 (bytes : List UInt8) (seed : UInt64) : UInt64 :=
  xxh3OfArray bytes.toArray seed

/-- The XXH3-64 hash of the UTF-8 bytes of a text under a seed. -/
def xxh3OfString (text : String) (seed : UInt64) : UInt64 :=
  xxh3OfArray text.toUTF8.data seed

/-- The stable 32-bit hash of a name: the low half of its hash without a seed. -/
def nameHash (name : String) : UInt32 :=
  (xxh3OfString name 0).toUInt32

end Resemblance.Hash
