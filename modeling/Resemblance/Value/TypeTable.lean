import Resemblance.Failure
import Resemblance.Value.Basic

/-!
# Tables of value types

The types that a stream may mention, by the 32-bit hash of their names. A table only grows: the
first registration under a name stays, and a name whose hash belongs to another name is refused.
The hash of names is a parameter of registration, so that its laws do not depend on a hash. Neither
do they depend on what a type is: a `Registry` keeps whatever makes the values of a type, and a
`TypeTable` is a registry of the types of `Value`.
-/

namespace Resemblance

structure RegistryEntry (Factory : Type) where
  hash : UInt32
  name : String
  /-- The type of the values that are read under this name. -/
  type : Factory
  deriving DecidableEq, Repr

/-- A table of types under their names, in the order of their registration. -/
structure Registry (Factory : Type) where
  entries : List (RegistryEntry Factory)
  deriving DecidableEq, Repr

namespace Registry

variable {Factory : Type}

def empty : Registry Factory := ⟨[]⟩

def find? (types : Registry Factory) (hash : UInt32) : Option (RegistryEntry Factory) :=
  types.entries.find? (·.hash == hash)

def contains (types : Registry Factory) (hash : UInt32) : Bool :=
  (types.find? hash).isSome

def name? (types : Registry Factory) (hash : UInt32) : Option String :=
  (types.find? hash).map (·.name)

def type? (types : Registry Factory) (hash : UInt32) : Option Factory :=
  (types.find? hash).map (·.type)

/-- A new value of the type registered with a hash, where `make` makes the values of a type. -/
def make? {Made : Type} (make : Factory → Made) (types : Registry Factory) (hash : UInt32) :
    Option Made :=
  (types.type? hash).map make

def size (types : Registry Factory) : Nat :=
  types.entries.length

def isEmpty (types : Registry Factory) : Bool :=
  types.entries.isEmpty

/--
Registers a type under a name, where `hash` hashes names. A second registration under a name changes
nothing; a name with the hash of another name is refused.
-/
def registerWith (hash : String → UInt32) (types : Registry Factory) (name : String)
    (type : Factory) : Except Failure (Registry Factory) :=
  match types.find? (hash name) with
  | some entry =>
      if entry.name = name then .ok types
      else .error (.config (.typeHashCollision entry.name name (hash name)))
  | none => .ok ⟨types.entries ++ [⟨hash name, name, type⟩]⟩

def registerAs (types : Registry Factory) (name : String) (type : Factory) :
    Except Failure (Registry Factory) :=
  types.registerWith Hash.nameHash name type

end Registry

/-- A registry of types of values. -/
abbrev TypeTable := Registry ValueType

abbrev RegisteredType := RegistryEntry ValueType

namespace TypeTable

def empty : TypeTable := Registry.empty

/-- The empty value of the type registered with a hash. -/
def fresh? (types : TypeTable) (hash : UInt32) : Option Value :=
  types.make? ValueType.fresh hash

def register (types : TypeTable) (type : ValueType) : Except Failure TypeTable :=
  types.registerAs type.name type

def standard : TypeTable :=
  ⟨ValueType.all.map fun type => ⟨Hash.nameHash type.name, type.name, type⟩⟩

end TypeTable

end Resemblance
