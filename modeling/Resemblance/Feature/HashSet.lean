/-!
# Sets of hashes

A set of 64-bit hashes as the strictly increasing list of its members, which makes its differences
small and positive and lets two sets be intersected in one walk over both. `HashSet.ofList` builds
the set of any list, and `HashSet.Increasing` is the form that every set has.
-/

namespace Resemblance

/-- A set of hashes, in increasing order. -/
structure HashSet where
  hashes : List UInt64
  deriving DecidableEq, Repr

namespace HashSet

def Increasing (set : HashSet) : Prop :=
  set.hashes.Pairwise (· < ·)

def empty : HashSet := ⟨[]⟩

/-- A list without the members that repeat their neighbour. -/
def dropRepeats : List UInt64 → List UInt64
  | first :: second :: rest =>
      if first = second then dropRepeats (second :: rest)
      else first :: dropRepeats (second :: rest)
  | short => short

def ofList (hashes : List UInt64) : HashSet :=
  ⟨dropRepeats (hashes.mergeSort fun left right => decide (left ≤ right))⟩

def size (set : HashSet) : Nat :=
  set.hashes.length

def isEmpty (set : HashSet) : Bool :=
  set.hashes.isEmpty

/-- The number of members that two increasing lists share, in one walk over both. -/
def countShared : List UInt64 → List UInt64 → Nat
  | [], _ => 0
  | _, [] => 0
  | left :: lefts, right :: rights =>
      if left < right then countShared lefts (right :: rights)
      else if right < left then countShared (left :: lefts) rights
      else countShared lefts rights + 1
termination_by lefts rights => lefts.length + rights.length

def sharedSize (left right : HashSet) : Nat :=
  countShared left.hashes right.hashes

/-- The difference of each member to the member before it, and of the first one to `previous`. -/
def differences (previous : UInt64) : List UInt64 → List UInt64
  | [] => []
  | hash :: hashes => (hash - previous) :: differences hash hashes

end HashSet

end Resemblance
