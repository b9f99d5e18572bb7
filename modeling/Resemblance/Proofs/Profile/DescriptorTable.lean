import Resemblance.Profile.DescriptorTable
import Resemblance.Proofs.Wire.Form
import Resemblance.Proofs.Wire.Keyed

/-!
# Descriptor tables in a stream

A table survives in a stream if its descriptors are distinct and short enough and there are not too
many of them; every table that is read is of this kind. The bytes from which a table is read are
described entry by entry, by `DescriptorTable.IsForm`; a reader takes no others.
-/

namespace Resemblance

namespace DescriptorTable

/-- The table survives in a stream. -/
structure Storable (table : DescriptorTable) : Prop where
  distinct : (table.entries.map (·.1)).Nodup
  /-- A reader accepts as many entries. -/
  short : table.size ≤ Reader.maxCollectionLength
  /-- A reader accepts descriptors of this length. -/
  fits : ∀ entry ∈ table.entries, TextFits entry.1

theorem storable_empty : empty.Storable where
  distinct := List.nodup_nil
  short := Nat.zero_le _
  fits := by
    intro entry member
    cases member

/--
The bytes stand for an entry: its descriptor, behind a form of the length of the descriptor in
bytes, then a form of its number of occurrences.
-/
def IsEntryForm (entry : String × UInt32) (bytes : List UInt8) : Prop :=
  ∃ lengthForm countForm, bytes = lengthForm ++ Text.Utf8.encode entry.1 ++ countForm ∧
    Varint.IsForm lengthForm (Text.Utf8.encode entry.1).length ∧ TextFits entry.1 ∧
    Varint.IsForm countForm entry.2.toNat

/-- The bytes stand for a table: a form of its size, then forms of its entries in their order. -/
def IsForm (bytes : List UInt8) (table : DescriptorTable) : Prop :=
  ∃ sizeForm entryForms, bytes = sizeForm ++ entryForms.flatten ∧
    Varint.IsForm sizeForm table.size ∧ table.size ≤ Reader.maxCollectionLength ∧
    (table.entries.map (·.1)).Nodup ∧ List.Forall₂ IsEntryForm table.entries entryForms

theorem IsForm.storable {bytes : List UInt8} {table : DescriptorTable}
    (isForm : IsForm bytes table) : table.Storable := by
  rcases isForm with ⟨_, entryForms, _, _, short, distinct, related⟩
  refine ⟨distinct, short, forall_of_forall₂ related ?_⟩
  rintro entry form ⟨_, _, _, _, fits, _⟩
  exact fits

/-- Every index below the size of a table belongs to a descriptor. -/
theorem exists_resolve?_eq {table : DescriptorTable} {index : UInt32}
    (within : index.toNat < table.size) :
    ∃ descriptor, table.resolve? index = some descriptor := by
  refine ⟨(table.entries.get ⟨index.toNat, within⟩).1, ?_⟩
  rw [resolve?, List.getElem?_eq_getElem within]
  rfl

end DescriptorTable

namespace Reader

theorem descriptorsAfter_eq_keyedAfter (before : List (String × UInt32)) (count : Nat) :
    descriptorsAfter before count = keyedAfter .repeatedDescriptor index before count := by
  have any_iff (descriptor : String) (entries : List (String × UInt32)) :
      entries.any (·.1 == descriptor) = true ↔ descriptor ∈ entries.map (·.1) := by
    simp
  induction count generalizing before with
  | zero => rfl
  | succ count ih => simp only [descriptorsAfter, keyedAfter, any_iff, ih]

theorem Regular.descriptorsAfter (count : Nat) : (descriptorsAfter [] count).Regular := by
  rw [descriptorsAfter_eq_keyedAfter]
  exact Regular.index.keyedAfter [] count

theorem Regular.descriptorTable : descriptorTable.Regular := by
  apply Regular.length.bind
  intro count
  apply (Regular.descriptorsAfter count).bind
  intro entries
  exact .pure _

theorem takesEntry_iff {depth : Nat} {entry : String × UInt32} {bytes : List UInt8} :
    TakesEntry index depth entry bytes ↔ DescriptorTable.IsEntryForm entry bytes := by
  constructor
  · rintro ⟨_, countForm, rfl, textTakes, countTakes⟩
    rcases string_takes_iff.mp textTakes with ⟨lengthForm, rfl, isForm, fits⟩
    exact ⟨lengthForm, countForm, rfl, isForm, fits, index_takes_iff.mp countTakes⟩
  · rintro ⟨lengthForm, countForm, rfl, isForm, fits, isCount⟩
    exact ⟨_, countForm, rfl, string_takes_iff.mpr ⟨lengthForm, rfl, isForm, fits⟩,
      index_takes_iff.mpr isCount⟩

/-- A table is read from its forms and from no other bytes. -/
theorem descriptorTable_takes_iff {depth : Nat} {bytes : List UInt8} {table : DescriptorTable} :
    descriptorTable.Takes depth bytes table ↔ DescriptorTable.IsForm bytes table := by
  have same : TakesEntry index depth = DescriptorTable.IsEntryForm := by
    funext entry form
    exact propext takesEntry_iff
  have nothing : (([] : List (String × UInt32)).map (·.1)).Nodup := List.nodup_nil
  rw [descriptorTable, Regular.length.takes_bind_iff fun count =>
    (Regular.descriptorsAfter count).bind fun entries => .pure _]
  constructor
  · rintro ⟨sizeForm, _, count, rfl, sizeTakes, rest⟩
    rcases (Regular.descriptorsAfter count).takes_map rest with ⟨entries, taken, rfl⟩
    rw [descriptorsAfter_eq_keyedAfter, keyedAfter_takes_iff Regular.index nothing, same] at taken
    rcases taken with ⟨_, forms, rfl, rfl, distinct, rfl, related⟩
    rw [length_takes_iff] at sizeTakes
    exact ⟨sizeForm, forms, rfl, sizeTakes.1, sizeTakes.2, distinct, related⟩
  · rintro ⟨sizeForm, forms, rfl, isSize, short, distinct, related⟩
    refine ⟨sizeForm, _, table.size, rfl, length_takes_iff.mpr ⟨isSize, short⟩, ?_⟩
    have entries : (descriptorsAfter [] table.size).Takes depth forms.flatten table.entries := by
      rw [descriptorsAfter_eq_keyedAfter, keyedAfter_takes_iff Regular.index nothing, same]
      exact ⟨table.entries, forms, rfl, rfl, distinct, rfl, related⟩
    exact entries.andThen (.pure table)

theorem storable_of_descriptorTable_takes {depth : Nat} {bytes : List UInt8}
    {table : DescriptorTable} (takes : descriptorTable.Takes depth bytes table) :
    table.Storable :=
  (descriptorTable_takes_iff.mp takes).storable

/-- Whatever a source holds, a table is read just from a form at its beginning. -/
theorem descriptorTable_eq_ok_iff {source after : Source} {table : DescriptorTable} :
    descriptorTable source = .ok table after ↔
      ∃ form rest, source.rest = form ++ rest ∧ DescriptorTable.IsForm form table ∧
        after = { source with rest, position := source.position + form.length } := by
  constructor
  · intro success
    rcases Regular.descriptorTable.takes_of_ok success with ⟨form, takes, split, afterEq⟩
    exact ⟨form, after.rest, split, descriptorTable_takes_iff.mp takes, afterEq⟩
  · rintro ⟨form, rest, split, isForm, rfl⟩
    have takes : descriptorTable.Takes source.depth form table :=
      descriptorTable_takes_iff.mpr isForm
    have success := takes source.position rest source.ending
    rwa [← split] at success

end Reader

theorem Exchange.descriptorTable {table : DescriptorTable} (storable : table.Storable)
    (depth : Nat) :
    Exchange (Writer.descriptorTable table) Reader.descriptorTable depth table := by
  have distinct : (([] ++ table.entries : List (String × UInt32)).map (·.1)).Nodup :=
    storable.distinct
  have entries : Exchange
      (Writer.each (fun entry => do Writer.string entry.1; Writer.index entry.2) table.entries)
      (Reader.descriptorsAfter [] table.entries.length) depth ([] ++ table.entries) := by
    rw [Reader.descriptorsAfter_eq_keyedAfter]
    exact keyedAfter distinct storable.fits fun entry _ => index entry.2 depth
  apply (length storable.short depth).bind
  exact entries.map DescriptorTable.mk

end Resemblance
