import Resemblance.Profile.Element
import Resemblance.Value.TypedConstant

/-!
# Blueprints

The blueprint of a kind declares the slots of its elements: a name and a type of values for each, in
the order in which they are written. An element is written as the index of its descriptor and then
the payloads of its values, so that only the same blueprint can read it.
-/

namespace Resemblance

/-- The declaration of the slots of a kind. -/
structure Blueprint where
  kind : Kind
  fields : List (String × ValueType)
  deriving DecidableEq, Repr

namespace Blueprint

def empty (kind : Kind) : Blueprint := ⟨kind, []⟩

def keys (blueprint : Blueprint) : List String :=
  blueprint.fields.map (·.1)

def size (blueprint : Blueprint) : Nat :=
  blueprint.fields.length

def slot? (blueprint : Blueprint) (key : String) : Option Nat :=
  blueprint.fields.findIdx? (·.1 == key)

/-- The slot with a name, which must be declared. -/
def requireSlot (blueprint : Blueprint) (key : String) : Except Failure Nat :=
  match blueprint.slot? key with
  | some slot => .ok slot
  | none => .error (.notRegistered (.blueprintField blueprint.kind.name key))

/-- Declares one more slot, whose name must be new. -/
def addField (blueprint : Blueprint) (key : String) (type : ValueType) :
    Except Failure Blueprint :=
  if (blueprint.slot? key).isSome then
    .error (.config (.repeatedField key blueprint.kind.name))
  else .ok { blueprint with fields := blueprint.fields ++ [(key, type)] }

/-- Declares one more slot, unless one of its name is declared already. -/
def add (blueprint : Blueprint) (key : String) (type : ValueType) : Blueprint :=
  match blueprint.addField key type with
  | .ok extended => extended
  | .error _ => blueprint

def instantiate (blueprint : Blueprint) (descriptor : UInt32) : Element :=
  ⟨blueprint.kind, descriptor, List.replicate blueprint.size none⟩

end Blueprint

/-- The blueprints of kinds, at most one for each, in the order of their registration. -/
structure Blueprints where
  entries : List Blueprint
  deriving DecidableEq, Repr

namespace Blueprints

def empty : Blueprints := ⟨[]⟩

def get? (blueprints : Blueprints) (kind : Kind) : Option Blueprint :=
  blueprints.entries.find? (·.kind == kind)

/-- The blueprint of a kind, which must be registered. -/
def get (blueprints : Blueprints) (kind : Kind) : Except Failure Blueprint :=
  match blueprints.get? kind with
  | some blueprint => .ok blueprint
  | none => .error (.notRegistered (.blueprint kind.name))

def contains (blueprints : Blueprints) (kind : Kind) : Bool :=
  (blueprints.get? kind).isSome

def register (blueprints : Blueprints) (blueprint : Blueprint) : Except Failure Blueprints :=
  if blueprints.contains blueprint.kind then
    .error (.config (.repeatedBlueprint blueprint.kind.name))
  else .ok ⟨blueprints.entries ++ [blueprint]⟩

/-- The kinds with a blueprint, in the order of their names. -/
def kinds (blueprints : Blueprints) : List Kind :=
  Kind.sort (blueprints.entries.map (·.kind))

end Blueprints

namespace Writer

/-- Writes the payloads of the values in slots, none of which may be empty. -/
def slotValues (types : TypeTable) (kind : Kind) :
    (keys : List String) → (slots : List (Option Value)) → Writer Unit
  | _ :: keys, some value :: slots => do
      payload types value
      slotValues types kind keys slots
  | key :: _, _ => throw (.config (.missingField kind.name key))
  | [], _ => return ()

def element (types : TypeTable) (blueprint : Blueprint) (element : Element) : Writer Unit := do
  if element.kind ≠ blueprint.kind then
    throw (.config (.foreignBlueprint blueprint.kind.name element.kind.name))
  else if element.slots.length ≠ blueprint.size then
    throw (.config (.slotCount blueprint.kind.name element.slots.length blueprint.size))
  else
    index element.descriptor
    slotValues types blueprint.kind blueprint.keys element.slots

end Writer

namespace Reader

def slotValues (types : TypeTable) : List (String × ValueType) → Reader (List (Option Value))
  | [] => return []
  | (_, type) :: fields => do
      let value ← payload types type
      let values ← slotValues types fields
      return some value :: values

def element (types : TypeTable) (blueprint : Blueprint) : Reader Element := do
  let descriptor ← index
  let slots ← slotValues types blueprint.fields
  return ⟨blueprint.kind, descriptor, slots⟩

end Reader

end Resemblance
