import Resemblance.Proofs.Value.Parts

/-!
# Tables and values as they occur

The tables of types that come from registering types under their own names, and the values that a
program can hold: in canonical form, and with lengths of 64 bits. `Value.types` lists the types of a
value and of everything inside it; a registered table has the names of these types exactly if it
knows the types.
-/

namespace Resemblance

/-! ## Tables of the types of values -/

namespace TypeTable

/-- The tables that come from registering types under their own names. -/
inductive Registered : TypeTable → Prop where
  | empty : Registered .empty
  | standard : Registered .standard
  | register {types extended : TypeTable} {type : ValueType} (registered : Registered types)
      (added : types.register type = .ok extended) : Registered extended

def names (types : TypeTable) : List String :=
  types.entries.map (·.name)

/-- The entry of a type under its own name. -/
def entryOf (type : ValueType) : RegisteredType :=
  ⟨Hash.nameHash type.name, type.name, type⟩

theorem hash_injective {type other : ValueType}
    (same : Hash.nameHash type.name = Hash.nameHash other.name) : type = other := by
  have here := knows_standard type
  have there := knows_standard other
  rw [Knows, same, there] at here
  exact (Option.some.inj here).symm

theorem Registered.exists_entryOf {types : TypeTable} (registered : types.Registered) :
    ∀ entry ∈ types.entries, ∃ type, entry = entryOf type := by
  induction registered with
  | empty => simp [TypeTable.empty, Registry.empty]
  | standard =>
      intro entry member
      rcases List.mem_map.mp member with ⟨type, _, rfl⟩
      exact ⟨type, rfl⟩
  | @register types extended type _ added ih =>
      rcases Registry.registerWith_eq_ok_iff.mp added with ⟨_, rfl⟩ | ⟨_, rfl⟩
      · exact ih
      · intro entry member
        rcases List.mem_append.mp member with old | new
        · exact ih entry old
        · exact ⟨type, List.mem_singleton.mp new⟩

/-- What is found under the hash of a type's name is the entry of that type. -/
theorem Registered.eq_entryOf_of_find?_eq {types : TypeTable} (registered : types.Registered)
    {type : ValueType} {entry : RegisteredType}
    (found : types.find? (Hash.nameHash type.name) = some entry) : entry = entryOf type := by
  rcases registered.exists_entryOf entry (List.mem_of_find?_eq_some found) with ⟨known, rfl⟩
  have sameHash : (entryOf known).hash = Hash.nameHash type.name := by
    simpa using List.find?_some found
  rw [hash_injective sameHash]

theorem Registered.knows_iff_mem {types : TypeTable} (registered : types.Registered)
    {type : ValueType} : types.Knows type ↔ entryOf type ∈ types.entries := by
  constructor
  · intro knows
    rw [Knows, Registry.type?, Option.map_eq_some_iff] at knows
    rcases knows with ⟨entry, found, _⟩
    rw [← registered.eq_entryOf_of_find?_eq found]
    exact List.mem_of_find?_eq_some found
  · intro member
    cases found : types.find? (Hash.nameHash type.name) with
    | none =>
        have absent := List.find?_eq_none.mp found _ member
        simp [entryOf] at absent
    | some entry =>
        rw [Knows, Registry.type?, found, Option.map_some,
          registered.eq_entryOf_of_find?_eq found, entryOf]

/-- The table knows a type exactly if the name of the type is registered. -/
theorem Registered.mem_names_iff {types : TypeTable} (registered : types.Registered)
    {type : ValueType} : type.name ∈ types.names ↔ types.Knows type := by
  rw [registered.knows_iff_mem]
  constructor
  · intro member
    rcases List.mem_map.mp member with ⟨entry, entryMember, nameEq⟩
    rcases registered.exists_entryOf entry entryMember with ⟨other, rfl⟩
    rwa [← hash_injective (congrArg Hash.nameHash nameEq)]
  · intro member
    exact List.mem_map.mpr ⟨entryOf type, member, rfl⟩

/-- The writer's look-up finds what the reader's look-up finds. -/
theorem Registered.contains_iff {types : TypeTable} (registered : types.Registered)
    {type : ValueType} :
    types.contains (Hash.nameHash type.name) = true ↔ types.Knows type := by
  constructor
  · intro contained
    rw [Registry.contains, Option.isSome_iff_exists] at contained
    rcases contained with ⟨entry, found⟩
    rw [Knows, Registry.type?, found, Option.map_some,
      registered.eq_entryOf_of_find?_eq found, entryOf]
  · exact Knows.contains

end TypeTable

/-! ## Values as they are represented -/

namespace Value

theorem everywhere_iff {property : Value → Prop} {value : Value} :
    value.Everywhere property ↔
      property value ∧ ∀ part ∈ value.parts, part.Everywhere property := by
  constructor
  · intro everywhere
    exact ⟨everywhere.here, fun part member => everywhere.inside member⟩
  · rintro ⟨here, inside⟩
    exact .intro here inside

theorem knownTo_iff {table : TypeTable} {value : Value} :
    value.KnownTo table ↔
      table.Knows value.type ∧ ∀ part ∈ value.parts, part.KnownTo table := by
  unfold KnownTo
  exact everywhere_iff

/-- The lengths that belong to the value itself are numbers of 64 bits. -/
def CountedHere : Value → Prop
  | .string text => (Text.Utf8.encode text).length < UInt64.size
  | .vector components => components.length < UInt64.size
  | .hashes set => set.size < UInt64.size
  | .list items => items.length < UInt64.size
  | .map entries =>
      entries.length < UInt64.size ∧
        ∀ entry ∈ entries, (Text.Utf8.encode entry.1).length < UInt64.size
  | .bloom filter => filter.width < UInt64.size
  | _ => True

/-- Values that a program can hold: in canonical form, and with lengths of 64 bits. -/
def Representable : Value → Prop :=
  Everywhere fun value => value.CanonicalHere ∧ value.CountedHere

mutual

/-- The types of a value and of everything inside it. -/
def types : Value → List ValueType
  | .list items => .list :: typesOfItems items
  | .map entries => .map :: typesOfEntries entries
  | value => [value.type]

def typesOfItems : List Value → List ValueType
  | [] => []
  | item :: items => types item ++ typesOfItems items

def typesOfEntries : List (String × Value) → List ValueType
  | [] => []
  | (_, value) :: entries => types value ++ typesOfEntries entries

end

theorem types_eq (value : Value) : value.types = value.type :: value.parts.flatMap types := by
  have items (items : List Value) : typesOfItems items = items.flatMap types := by
    induction items with
    | nil => rfl
    | cons item items ih => rw [typesOfItems, List.flatMap_cons, ih]
  have entries (entries : List (String × Value)) :
      typesOfEntries entries = (entries.map (·.2)).flatMap types := by
    induction entries with
    | nil => rfl
    | cons entry entries ih => rw [typesOfEntries, List.map_cons, List.flatMap_cons, ih]
  cases value with
  | list members => rw [types, items]; rfl
  | map members => rw [types, entries]; rfl
  | _ => rfl

theorem forall_mem_types_iff {property : ValueType → Prop} {value : Value} :
    (∀ type ∈ value.types, property type) ↔
      value.Everywhere fun part => property part.type := by
  induction value using induction_parts with
  | step value ih =>
      rw [types_eq, everywhere_iff, List.forall_mem_cons]
      refine and_congr_right fun _ => ?_
      simp only [List.mem_flatMap, forall_exists_index, and_imp]
      constructor
      · intro holds part member
        exact (ih part member).mp fun type typeMember => holds type part member typeMember
      · intro holds type part member
        exact (ih part member).mpr (holds part member) type

/-- The names of all types inside a value are registered exactly if the table knows the types. -/
theorem names_subset_iff {table : TypeTable} (registered : table.Registered) {value : Value} :
    value.types.map (·.name) ⊆ table.names ↔ value.KnownTo table := by
  have each : value.types.map (·.name) ⊆ table.names ↔
      ∀ type ∈ value.types, table.Knows type := by
    simp only [List.subset_def, List.mem_map, forall_exists_index, and_imp,
      forall_apply_eq_imp_iff₂, registered.mem_names_iff]
  rw [each, forall_mem_types_iff]
  rfl

end Value

end Resemblance
