/-!
# Maps from names

Maps from names to values, in increasing order of the names. A name occurs at most once, so two maps
with the same values under the same names are equal.
-/

namespace Resemblance

/-- A map from names to values, in increasing order of the names. -/
structure NameMap (Item : Type) where
  entries : List (String × Item)
  deriving DecidableEq, Repr

namespace NameMap

variable {Item : Type}

def empty : NameMap Item := ⟨[]⟩

def insertEntry (name : String) (item : Item) : List (String × Item) → List (String × Item)
  | [] => [(name, item)]
  | (other, old) :: rest =>
      if name < other then (name, item) :: (other, old) :: rest
      else if name = other then (name, item) :: rest
      else (other, old) :: insertEntry name item rest

/-- The map with a value set under a name, in place of an earlier one. -/
def insert (map : NameMap Item) (name : String) (item : Item) : NameMap Item :=
  ⟨insertEntry name item map.entries⟩

def get? (map : NameMap Item) (name : String) : Option Item :=
  (map.entries.find? (·.1 == name)).map (·.2)

/-- The map of a list of entries; a later entry replaces an earlier one of its name. -/
def ofList (entries : List (String × Item)) : NameMap Item :=
  entries.foldl (fun map (name, item) => map.insert name item) empty

def names (map : NameMap Item) : List String :=
  map.entries.map (·.1)

def size (map : NameMap Item) : Nat :=
  map.entries.length

end NameMap

end Resemblance
