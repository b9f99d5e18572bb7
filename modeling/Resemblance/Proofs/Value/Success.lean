import Resemblance.Proofs.Value.TypedConstant
import Resemblance.Proofs.Wire.Success

/-!
# Values that a table writes

A writer of values looks up one thing only, the hash of the type's name of each constant inside a
value. So a payload is written exactly if the table contains the hashes of all its parts' types,
whatever else the table says about them and however large the value is.
-/

namespace Resemblance

namespace Value

/-- The table contains the hashes of the types of the value and of all values inside it. -/
def Tagged (types : TypeTable) : Value → Prop :=
  Everywhere fun value => types.contains (Hash.nameHash value.type.name) = true

theorem tagged_iff {types : TypeTable} {value : Value} :
    value.Tagged types ↔ types.contains (Hash.nameHash value.type.name) = true ∧
      ∀ part ∈ value.parts, part.Tagged types := by
  constructor
  · intro tagged
    exact ⟨tagged.here, fun part member => tagged.inside member⟩
  · rintro ⟨here, inside⟩
    exact .intro here inside

end Value

namespace Writer.SucceedsIf

theorem typeTag (types : TypeTable) (type : ValueType) :
    (Writer.typeTag types type).SucceedsIf
      (types.contains (Hash.nameHash type.name) = true) := by
  rw [Writer.typeTag]
  exact (guarded (bytes _) _).congr (and_iff_left trivial)

theorem bloomFilter (filter : BloomFilter) : (Writer.bloomFilter filter).SucceedsIf True :=
  after (bytes _) (after (bytes _) (after (bytes _) (each_true fun _ _ => bytes _)))

theorem digest (digest? : Option Digest) : (Writer.digest digest?).SucceedsIf True := by
  cases digest? with
  | none => exact bytes _
  | some digest => exact after (bytes _) (after (bytes _) (bytes _))

/-- A payload is written if the types of its parts are in the table, by induction over parts. -/
theorem payload (types : TypeTable) (value : Value) :
    (Writer.payload types value).SucceedsIf (∀ part ∈ value.parts, part.Tagged types) := by
  induction value using Value.induction_parts with
  | step value ih =>
      have constants : ∀ part ∈ value.parts,
          (Writer.typed types part).SucceedsIf (part.Tagged types) := by
        intro part member
        exact ((typeTag types part.type).bind (ih part member)).congr Value.tagged_iff.symm
      have withoutParts {writer : Writer Unit} (noParts : value.parts = [])
          (succeeds : writer.SucceedsIf True) :
          writer.SucceedsIf (∀ part ∈ value.parts, part.Tagged types) := by
        rw [noParts]
        exact succeeds.congr (by simp)
      cases value with
      | int number => exact withoutParts rfl (bytes _)
      | float number => exact withoutParts rfl (bytes _)
      | bool truth => exact withoutParts rfl (bytes _)
      | string text => exact withoutParts rfl (string text)
      | vector components =>
          exact withoutParts rfl (after (bytes _) (each_true fun _ _ => bytes _))
      | hashes set => exact withoutParts rfl (after (bytes _) (each_true fun _ _ => bytes _))
      | list items =>
          rw [Writer.payload, Writer.typedItems_eq_each]
          exact after (bytes _) (each constants)
      | map entries =>
          have typedEntries : ∀ entry ∈ entries, (do
              Writer.string entry.1
              Writer.typed types entry.2).SucceedsIf (entry.2.Tagged types) := by
            intro entry member
            exact after (string entry.1) (constants entry.2 (List.mem_map_of_mem member))
          rw [Writer.payload, Writer.typedEntries_eq_each]
          refine after (bytes _) ((each typedEntries).congr ?_)
          rw [Value.parts, List.forall_mem_map]
      | bloom filter => exact withoutParts rfl (bloomFilter filter)
      | digest digest? => exact withoutParts rfl (digest digest?)

end Writer.SucceedsIf

end Resemblance
