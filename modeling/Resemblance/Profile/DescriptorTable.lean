import Resemblance.Wire.Sink
import Resemblance.Wire.Source

/-!
# Descriptor tables

The descriptors of a profile's elements, each once, with the number of times it was interned. The
index of a descriptor is its place in the table and does not change while descriptors are added.
-/

namespace Resemblance

/-- Distinct descriptors with the number of their occurrences. -/
structure DescriptorTable where
  /-- The descriptors, each at its index. -/
  entries : List (String × UInt32)
  deriving DecidableEq, Repr

namespace DescriptorTable

def empty : DescriptorTable := ⟨[]⟩

def size (table : DescriptorTable) : Nat :=
  table.entries.length

def index? (table : DescriptorTable) (descriptor : String) : Option Nat :=
  table.entries.findIdx? (·.1 == descriptor)

def resolve? (table : DescriptorTable) (index : UInt32) : Option String :=
  (table.entries[index.toNat]?).map (·.1)

/-- The number of occurrences of the descriptor at an index, zero past the end. -/
def count (table : DescriptorTable) (index : UInt32) : UInt32 :=
  ((table.entries[index.toNat]?).map (·.2)).getD 0

def total (table : DescriptorTable) : Nat :=
  table.entries.foldr (fun entry total => entry.2.toNat + total) 0

/-- One occurrence more, up to the greatest number of 32 bits. -/
def increment (count : UInt32) : UInt32 :=
  if count.toNat + 1 < UInt32.size then count + 1 else count

/-- Counts one more occurrence of a descriptor, which is added at the end if it is new. -/
def internEntry (descriptor : String) : List (String × UInt32) → List (String × UInt32)
  | [] => [(descriptor, 1)]
  | (other, count) :: rest =>
      if other = descriptor then (other, increment count) :: rest
      else (other, count) :: internEntry descriptor rest

/-- The index of a descriptor, and the table with one more occurrence of it. -/
def intern (table : DescriptorTable) (descriptor : String) : UInt32 × DescriptorTable :=
  (((table.index? descriptor).getD table.size).toUInt32,
    ⟨internEntry descriptor table.entries⟩)

end DescriptorTable

namespace Writer

/-- Writes a table: its size, then each descriptor with its number of occurrences. -/
def descriptorTable (table : DescriptorTable) : Writer Unit := do
  length table.size
  each
    (fun (descriptor, count) => do
      string descriptor
      index count)
    table.entries

end Writer

namespace Reader

/-- Reads `count` entries after the entries `before`, which must not have their descriptors. -/
def descriptorsAfter (before : List (String × UInt32)) :
    (count : Nat) → Reader (List (String × UInt32))
  | 0 => return before
  | count + 1 => do
      let descriptor ← string
      let occurrences ← index
      if before.any (·.1 == descriptor) then fail (.repeatedDescriptor descriptor)
      else descriptorsAfter (before ++ [(descriptor, occurrences)]) count

def descriptorTable : Reader DescriptorTable := do
  let count ← length
  let entries ← descriptorsAfter [] count
  return ⟨entries⟩

end Reader

end Resemblance
