import Resemblance.Failure
import Resemblance.Value.Basic

/-!
# Elements

The elements of a profile: a program element has a kind, a descriptor, and values in numbered slots.
The descriptor is an index into the descriptor table of the profile, and the blueprint of the kind
names the slots.
-/

namespace Resemblance

/-- A kind of program elements. -/
structure Kind where
  name : String
  deriving DecidableEq, Repr

namespace Kind

def builtin : List Kind :=
  [⟨"class"⟩, ⟨"method"⟩, ⟨"field"⟩, ⟨"package"⟩]

def isBuiltin (kind : Kind) : Bool :=
  builtin.contains kind

/-- The name of the section that holds the elements of a kind. -/
def sectionName (kind : Kind) : String :=
  "elements." ++ kind.name

def sort (kinds : List Kind) : List Kind :=
  kinds.mergeSort fun left right => decide (left.name ≤ right.name)

end Kind

structure Element where
  kind : Kind
  descriptor : UInt32
  slots : List (Option Value)

namespace Element

def value? (element : Element) (slot : Nat) : Option Value :=
  (element.slots[slot]?).join

def setValue (element : Element) (slot : Nat) (value : Value) : Except Failure Element :=
  if slot < element.slots.length then
    .ok { element with slots := element.slots.set slot (some value) }
  else
    .error (.config (.slotOutOfRange slot element.kind.name element.slots.length))

def isComplete (element : Element) : Bool :=
  element.slots.all Option.isSome

/-- Equality of slots: both empty, or with values of the same content. -/
def sameSlots : List (Option Value) → List (Option Value) → Bool
  | [], [] => true
  | none :: lefts, none :: rights => sameSlots lefts rights
  | some left :: lefts, some right :: rights => left.same right && sameSlots lefts rights
  | _, _ => false

/-- Equality of content. -/
def same (left right : Element) : Bool :=
  left.kind == right.kind && left.descriptor == right.descriptor &&
    sameSlots left.slots right.slots

end Element

end Resemblance
