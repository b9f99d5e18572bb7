import Mathlib
import Resemblance.Value.TypedConstant
import Resemblance.Proofs.Value.Registration
import Resemblance.Proofs.Wire.Keyed

/-!
# Values and their parts

The parts of a value are the items of a list and the values of a map; no other value has parts. This
file gives the induction over parts, equality of content one level at a time, and the properties of
values that decide whether a stream can hold them: their representation is canonical, they keep
within the limits of a reader, the types of all parts are in a table of types, and their parts are
not nested too deeply.

`Value.nesting` counts the typed constants around the deepest part. A payload at some depth is
readable only if that depth and the nesting together are at most `Reader.maxNesting`.
-/

namespace Resemblance

namespace TypeTable

/-- The table gives the type for the hash of the type's name. -/
def Knows (types : TypeTable) (type : ValueType) : Prop :=
  types.type? (Hash.nameHash type.name) = some type

/--
The hash of its own name identifies a type on the wire: whatever type the table gives for a hash, it
also gives for the hash of the type's own name. The standard table is of this kind, and so is every
table whose types were registered by `TypeTable.register`.
-/
def Faithful (types : TypeTable) : Prop :=
  ∀ hash type, types.type? hash = some type → types.Knows type

theorem Knows.contains {types : TypeTable} {type : ValueType} (knows : types.Knows type) :
    types.contains (Hash.nameHash type.name) = true := by
  unfold Knows Registry.type? at knows
  rw [Registry.contains]
  cases found : types.find? (Hash.nameHash type.name) with
  | none => simp [found] at knows
  | some entry => rfl

theorem knows_standard (type : ValueType) : standard.Knows type := by
  have all : ∀ type ∈ ValueType.all, standard.type? (Hash.nameHash type.name) = some type := by
    decide +kernel
  exact all type (by cases type <;> decide)

theorem faithful_standard : standard.Faithful := by
  intro hash type _
  exact knows_standard type

/-- A registration keeps every type that was found before. -/
theorem type?_of_registerAs {types extended : TypeTable} {name : String} {type known : ValueType}
    (registered : types.registerAs name type = .ok extended) {hash : UInt32}
    (found : types.type? hash = some known) : extended.type? hash = some known := by
  rw [Registry.type?, Option.map_eq_some_iff] at found ⊢
  rcases found with ⟨entry, entryFound, typeEq⟩
  exact ⟨entry, by rw [Registry.find?_of_registerWith registered, entryFound, Option.some_or],
    typeEq⟩

/-- Types that are registered under their own names keep a table faithful. -/
theorem Faithful.register {types extended : TypeTable} (faithful : types.Faithful)
    {type : ValueType} (registered : types.register type = .ok extended) : extended.Faithful := by
  have kept {other : ValueType} (knows : types.Knows other) : extended.Knows other :=
    type?_of_registerAs registered knows
  intro hash other found
  cases old : types.type? hash with
  | some known =>
      have same := type?_of_registerAs registered old
      rw [found, Option.some.injEq] at same
      rw [same]
      exact kept (faithful hash known old)
  | none =>
      -- The hash is new, so it is that of the type that was registered.
      have added : hash = Hash.nameHash type.name ∧ type = other := by
        rw [Registry.type?, Option.map_eq_none_iff] at old
        rw [Registry.type?, Registry.find?_of_registerWith registered, old, Option.none_or] at found
        split at found
        · rename_i sameHash
          exact ⟨sameHash.symm, Option.some.inj found⟩
        · cases found
      rcases added with ⟨rfl, rfl⟩
      exact found

end TypeTable

namespace Value

/-- The values directly inside a value. -/
def parts : Value → List Value
  | .list items => items
  | .map entries => entries.map (·.2)
  | _ => []

theorem sizeOf_lt_of_mem_parts {value part : Value} (member : part ∈ value.parts) :
    sizeOf part < sizeOf value := by
  cases value with
  | list items =>
      have smaller := List.sizeOf_lt_of_mem (show part ∈ items from member)
      simp only [list.sizeOf_spec]
      omega
  | map entries =>
      rcases List.mem_map.mp (show part ∈ entries.map (·.2) from member) with
        ⟨⟨key, _⟩, entryMember, rfl⟩
      have smaller := List.sizeOf_lt_of_mem entryMember
      simp only [map.sizeOf_spec, Prod.mk.sizeOf_spec] at smaller ⊢
      omega
  | _ => cases member

/-- What holds of a value whenever it holds of its parts holds of all values. -/
theorem induction_parts {motive : Value → Prop}
    (step : ∀ value, (∀ part ∈ value.parts, motive part) → motive value) (value : Value) :
    motive value :=
  step value fun part _ => induction_parts step part
termination_by sizeOf value
decreasing_by exact sizeOf_lt_of_mem_parts ‹_›

/-- The property holds of the value and of all values inside it. -/
inductive Everywhere (property : Value → Prop) : Value → Prop where
  | intro {value : Value} (here : property value)
      (inside : ∀ part ∈ value.parts, Everywhere property part) : Everywhere property value

theorem Everywhere.here {property : Value → Prop} {value : Value}
    (everywhere : value.Everywhere property) : property value := by
  cases everywhere with
  | intro here _ => exact here

theorem Everywhere.inside {property : Value → Prop} {value part : Value}
    (everywhere : value.Everywhere property) (member : part ∈ value.parts) :
    part.Everywhere property := by
  cases everywhere with
  | intro _ inside => exact inside part member

mutual

/-- The number of typed constants around the deepest part of a value. -/
def nesting : Value → Nat
  | .list items => nestingItems items
  | .map entries => nestingEntries entries
  | _ => 0

/-- The greatest number of typed constants around a part of some items, and around themselves. -/
def nestingItems : List Value → Nat
  | [] => 0
  | item :: items => max (nesting item + 1) (nestingItems items)

/-- The greatest number of typed constants around a part of some entries and their values. -/
def nestingEntries : List (String × Value) → Nat
  | [] => 0
  | (_, value) :: entries => max (nesting value + 1) (nestingEntries entries)

end

theorem nestingItems_le_iff {items : List Value} {bound : Nat} :
    nestingItems items ≤ bound ↔ ∀ item ∈ items, item.nesting < bound := by
  induction items with
  | nil => simp [nestingItems]
  | cons item items ih => simp [nestingItems, ih]

theorem nestingEntries_le_iff {entries : List (String × Value)} {bound : Nat} :
    nestingEntries entries ≤ bound ↔ ∀ value ∈ entries.map (·.2), value.nesting < bound := by
  induction entries with
  | nil => simp [nestingEntries]
  | cons entry entries ih =>
      rw [nestingEntries, Nat.max_le, ih]
      simp

theorem nesting_le_iff {value : Value} {bound : Nat} :
    value.nesting ≤ bound ↔ ∀ part ∈ value.parts, part.nesting < bound := by
  cases value with
  | list items => exact nestingItems_le_iff
  | map entries => exact nestingEntries_le_iff
  | _ => simp [nesting, parts]

theorem same_list_iff {items others : List Value} :
    (Value.list items).same (.list others) ↔ List.Forall₂ (·.same ·) items others := by
  rw [same]
  induction items generalizing others with
  | nil => cases others <;> simp [sameItems]
  | cons item items ih => cases others <;> simp [sameItems, ih]

theorem sameEntries_iff {entries : List (String × Value)} {others : Attributes} :
    sameEntries entries others ↔ ∀ entry ∈ entries, ∃ other,
      Attributes.get? entry.1 others = some other ∧ entry.2.same other := by
  induction entries with
  | nil => simp [sameEntries]
  | cons entry entries ih =>
      rcases entry with ⟨key, value⟩
      cases found : Attributes.get? key others <;> simp [sameEntries, found, ih]

theorem same_map_iff {entries others : Attributes} :
    (Value.map entries).same (.map others) ↔ entries.length = others.length ∧
      ∀ entry ∈ entries, ∃ other,
        Attributes.get? entry.1 others = some other ∧ entry.2.same other := by
  simp [same, sameEntries_iff]

theorem type_eq_of_same {left right : Value} (equal : left.same right) : left.type = right.type := by
  cases left <;> cases right <;> simp_all [same, type]

/-- A value without parts equals itself only, unless it is a floating-point number. -/
theorem same_iff_eq_of_plain {left right : Value} (plain : left.parts = [])
    (notFloat : left.type ≠ .float) : left.same right ↔ left = right := by
  cases left with
  | float number => exact absurd rfl notFloat
  | list items =>
      cases (show items = [] from plain)
      cases right with
      | list others => cases others <;> simp [same_list_iff]
      | _ => simp [same]
  | map entries =>
      cases (show entries = [] by simpa [parts] using plain)
      cases right with
      | map others => cases others <;> simp [same_map_iff]
      | _ => simp [same]
  | _ => cases right <;> simp [same]

/-- The own representation of a value is canonical, whatever its parts. -/
def CanonicalHere : Value → Prop
  | .hashes set => set.Increasing
  | .map entries => (entries.map (·.1)).Nodup
  | .bloom filter => filter.WithinWidth
  | _ => True

/-- The value and all values inside it have the form that every value built or read has. -/
def Canonical : Value → Prop :=
  Everywhere CanonicalHere

/-- The value itself keeps within the limits of a reader, whatever its parts. -/
def FitsHere : Value → Prop
  | .string text => TextFits text
  | .vector components => components.length ≤ Reader.maxCollectionLength
  | .hashes set => set.size ≤ Reader.maxCollectionLength
  | .list items => items.length ≤ Reader.maxCollectionLength
  | .map entries =>
      entries.length ≤ Reader.maxCollectionLength ∧ ∀ entry ∈ entries, TextFits entry.1
  | .bloom filter => filter.width ≤ Reader.maxCollectionLength
  | _ => True

/-- The value and all values inside it keep within the limits of a reader. -/
def Fits : Value → Prop :=
  Everywhere FitsHere

/-- The types of the value and of all values inside it are in the table. -/
def KnownTo (types : TypeTable) : Value → Prop :=
  Everywhere fun value => types.Knows value.type

/-- The payload of the value survives in a stream, inside `depth` typed constants. -/
structure Storable (types : TypeTable) (depth : Nat) (value : Value) : Prop where
  canonical : value.Canonical
  /-- Texts and collections keep within their limits. -/
  fits : value.Fits
  /-- The parts have types of the table. -/
  known : ∀ part ∈ value.parts, part.KnownTo types
  /-- The parts are not nested too deeply. -/
  shallow : depth + value.nesting ≤ Reader.maxNesting

namespace Storable

/-- A part is stored one level further inside. -/
theorem part {types : TypeTable} {depth : Nat} {value part : Value}
    (storable : value.Storable types depth) (member : part ∈ value.parts) :
    part.Storable types (depth + 1) where
  canonical := storable.canonical.inside member
  fits := storable.fits.inside member
  known := fun inner innerMember => (storable.known part member).inside innerMember
  shallow := by
    have deeper := nesting_le_iff.mp (Nat.le_refl value.nesting) part member
    have shallow := storable.shallow
    omega

/-- A value is storable if it is itself in order and its parts are storable one level inside. -/
theorem of_parts {types : TypeTable} {depth : Nat} {value : Value}
    (depth_le : depth ≤ Reader.maxNesting) (canonical : value.CanonicalHere)
    (fits : value.FitsHere)
    (parts : ∀ part ∈ value.parts, types.Knows part.type ∧ part.Storable types (depth + 1)) :
    value.Storable types depth where
  canonical := .intro canonical fun part member => (parts part member).2.canonical
  fits := .intro fits fun part member => (parts part member).2.fits
  known := fun part member => .intro (parts part member).1 (parts part member).2.known
  shallow := by
    have nestingLe : value.nesting ≤ Reader.maxNesting - depth := by
      rw [nesting_le_iff]
      intro part member
      have shallow := (parts part member).2.shallow
      omega
    omega

end Storable

end Value

end Resemblance
