import Resemblance.Profile.DescriptorTable

/-!
# Interners with counts

A descriptor table in two parts that grow one after the other: an interner, which gives the next
index to each new string, and the numbers of occurrences at these indices. The numbers are filled up
with zeros where there are too few of them, and a number that is missing counts as zero.
-/

namespace Resemblance

structure CountedInterner where
  /-- The strings of the interner, each at its index. -/
  strings : List String
  /-- The numbers of occurrences, each at the index of its string. -/
  counts : List UInt32
  deriving DecidableEq, Repr

namespace CountedInterner

def empty : CountedInterner := ⟨[], []⟩

def size (interner : CountedInterner) : Nat :=
  interner.strings.length

def index? (interner : CountedInterner) (descriptor : String) : Option Nat :=
  interner.strings.findIdx? (· == descriptor)

def resolve? (interner : CountedInterner) (index : UInt32) : Option String :=
  interner.strings[index.toNat]?

def countAt (interner : CountedInterner) (index : Nat) : UInt32 :=
  (interner.counts[index]?).getD 0

def count (interner : CountedInterner) (index : UInt32) : UInt32 :=
  interner.countAt index.toNat

def total (interner : CountedInterner) : Nat :=
  interner.counts.foldr (fun count total => count.toNat + total) 0

/-- Each string with its number of occurrences, in the order of the indices. -/
def entries (interner : CountedInterner) : List (String × UInt32) :=
  (List.range interner.size).filterMap fun index =>
    (interner.strings[index]?).map fun string => (string, interner.countAt index)

/-- The index of a string, and the strings with it; a new one comes behind all others. -/
def getOrAdd (strings : List String) (string : String) : Nat × List String :=
  match strings.findIdx? (· == string) with
  | some index => (index, strings)
  | none => (strings.length, strings ++ [string])

/-- The counts with zeros added as far as an index, if they do not reach so far. -/
def fillTo (counts : List UInt32) (index : Nat) : List UInt32 :=
  if counts.length ≤ index then counts ++ List.replicate (index + 1 - counts.length) 0 else counts

/-- The index of a descriptor, and the interner with one more occurrence of it. -/
def intern (interner : CountedInterner) (descriptor : String) : UInt32 × CountedInterner :=
  let (index, strings) := getOrAdd interner.strings descriptor
  (index.toUInt32,
    ⟨strings, (fillTo interner.counts index).modify index DescriptorTable.increment⟩)

end CountedInterner

namespace Writer

def countedInterner (interner : CountedInterner) : Writer Unit := do
  length interner.entries.length
  each
    (fun (descriptor, count) => do
      string descriptor
      index count)
    interner.entries

end Writer

namespace Reader

/-- Reads `count` more descriptors, each of which must get the index that is expected next. -/
def internedAfter (interner : CountedInterner) (expected : Nat) :
    (count : Nat) → Reader CountedInterner
  | 0 => return interner
  | count + 1 => do
      let descriptor ← string
      let occurrences ← index
      let (index, strings) := CountedInterner.getOrAdd interner.strings descriptor
      if index ≠ expected then fail (.repeatedDescriptor descriptor)
      else internedAfter ⟨strings, interner.counts ++ [occurrences]⟩ (expected + 1) count

def countedInterner : Reader CountedInterner := do
  let count ← length
  internedAfter .empty 0 count

end Reader

end Resemblance
