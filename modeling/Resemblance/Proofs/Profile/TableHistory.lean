import Mathlib.Data.List.DropRight
import Mathlib.Data.List.Nodup
import Resemblance.Proofs.Profile.DescriptorTable
import Resemblance.Proofs.Profile.Interning

/-!
# Histories of descriptor tables

A table changes in three ways: a descriptor is interned, another table is read in its place, or it
is reset. A reading that fails leaves it as it was. So whatever happened to a table, it is the one
that was loaded last, by a reading or by a reset, with the descriptors that were interned since
then: `after_eq_internAll`. What its indices and its counts mean follows from this, and
`after_isFaithful` says it without mention of how a table is stored.
-/

namespace Resemblance

namespace DescriptorTable

variable {table base : DescriptorTable} {descriptor : String} {index : UInt32}

/-! ## Tables of distinct descriptors -/

theorem nodup_names_intern (distinct : table.names.Nodup) (descriptor : String) :
    (table.intern descriptor).2.names.Nodup := by
  rw [names_intern]
  split
  · exact distinct
  · rename_i fresh
    rw [← List.concat_eq_append]
    exact List.Nodup.concat fresh distinct

theorem index?_eq_findIdx? (table : DescriptorTable) (descriptor : String) :
    table.index? descriptor = table.names.findIdx? (· == descriptor) := by
  rw [index?, names, List.findIdx?_map]
  rfl

/-- A descriptor has the index of its place, for it has no other place. -/
theorem index?_eq_some_iff (distinct : table.names.Nodup) {place : Nat} :
    table.index? descriptor = some place ↔ table.names[place]? = some descriptor := by
  rw [index?_eq_findIdx?, List.findIdx?_eq_some_iff_getElem, List.getElem?_eq_some_iff]
  constructor
  · rintro ⟨within, same, _⟩
    exact ⟨within, beq_iff_eq.mp same⟩
  · rintro ⟨within, rfl⟩
    refine ⟨within, beq_self_eq_true _, ?_⟩
    intro earlier before same
    exact Nat.ne_of_lt before (distinct.getElem_inj_iff.mp (beq_iff_eq.mp same))

theorem resolve?_eq_some_iff (distinct : table.names.Nodup) :
    table.resolve? index = some descriptor ↔ table.index? descriptor = some index.toNat := by
  rw [resolve?_eq, index?_eq_some_iff distinct]

theorem exists_index?_eq_iff (distinct : table.names.Nodup) {place : Nat} :
    (∃ descriptor, table.index? descriptor = some place) ↔ place < table.size := by
  simp only [index?_eq_some_iff distinct, List.getElem?_eq_some_iff, length_names]
  exact ⟨fun ⟨_, within, _⟩ => within, fun within => ⟨_, within, rfl⟩⟩

theorem resolve?_isSome_iff : (table.resolve? index).isSome ↔ index.toNat < table.size := by
  rw [resolve?_eq, Option.isSome_iff_ne_none, ne_eq, List.getElem?_eq_none_iff, length_names,
    not_le]

theorem entries_getElem? (table : DescriptorTable) (index : UInt32) :
    table.entries[index.toNat]? =
      (table.resolve? index).map fun descriptor => (descriptor, table.count index) := by
  rw [resolve?, count]
  cases table.entries[index.toNat]? <;> rfl

/-- The count at an index is the number of occurrences of the descriptor that is there. -/
theorem toNat_count (distinct : table.names.Nodup)
    (found : table.resolve? index = some descriptor) :
    (table.count index).toNat = table.occurrences descriptor := by
  have listed := table.entries_getElem? index
  rw [found, Option.map_some, List.getElem?_eq_some_iff] at listed
  rcases listed with ⟨within, entryEq⟩
  have first : table.entries.find? (·.1 == descriptor) = some (descriptor, table.count index) := by
    rw [List.find?_eq_some_iff_getElem]
    refine ⟨beq_self_eq_true _, index.toNat, within, entryEq, ?_⟩
    intro earlier before
    rw [Bool.not_eq_true', beq_eq_false_iff_ne]
    intro same
    have again : table.names[earlier]? = table.names[index.toNat]? := by
      rw [← resolve?_eq, found, names, List.getElem?_map,
        List.getElem?_eq_getElem (before.trans within), Option.map_some, same]
    have inNames : earlier < table.names.length := by
      rw [length_names]
      exact before.trans within
    exact Nat.ne_of_lt before ((List.getElem?_inj inNames distinct).mp again)
  rw [occurrences, first]
  rfl

/-! ## Changes -/

/-- What can happen to a table. -/
inductive Change where
  | intern (descriptor : String)
  /-- A reading from whatever a source holds. -/
  | read (source : Source)
  | reset

namespace Change

/-- The table that takes the place of any other, unless the change interns or fails to read. -/
def loaded? : Change → Option DescriptorTable
  | .intern _ => none
  | .read source =>
      match Reader.descriptorTable source with
      | .ok table _ => some table
      | .error _ _ => none
  | .reset => some .empty

def interned? : Change → Option String
  | .intern descriptor => some descriptor
  | _ => none

def applyTo (table : DescriptorTable) : Change → DescriptorTable
  | .intern descriptor => (table.intern descriptor).2
  | .read source =>
      match Reader.descriptorTable source with
      | .ok loaded _ => loaded
      | .error _ _ => table
  | .reset => .empty

theorem applyTo_of_loaded {change : Change} (loaded : change.loaded? = some base)
    (table : DescriptorTable) : change.applyTo table = base := by
  cases change with
  | intern descriptor => cases loaded
  | read source =>
      rw [loaded?] at loaded
      rw [applyTo]
      split at loaded
      · exact Option.some.inj loaded
      · cases loaded
  | reset => exact Option.some.inj loaded

theorem applyTo_of_not_loaded {change : Change} (kept : change.loaded? = none)
    (table : DescriptorTable) :
    change.applyTo table = table.internAll change.interned?.toList := by
  cases change with
  | intern descriptor => rfl
  | read source =>
      rw [loaded?] at kept
      rw [applyTo]
      split at kept
      · cases kept
      · rfl
  | reset => cases kept

theorem nodup_names_of_loaded {change : Change} (loaded : change.loaded? = some base) :
    base.names.Nodup := by
  cases change with
  | intern descriptor => cases loaded
  | read source =>
      rw [loaded?] at loaded
      split at loaded
      · rename_i table after success
        rcases Reader.descriptorTable_eq_ok_iff.mp success with ⟨form, _, _, isForm, _⟩
        cases loaded
        exact isForm.storable.distinct
      · cases loaded
  | reset =>
      cases loaded
      exact List.nodup_nil

/-- Descriptors stay distinct, whatever happens. -/
theorem nodup_names_applyTo (distinct : table.names.Nodup) (change : Change) :
    (change.applyTo table).names.Nodup := by
  cases loaded : change.loaded? with
  | some base =>
      rw [applyTo_of_loaded loaded]
      exact nodup_names_of_loaded loaded
  | none =>
      rw [applyTo_of_not_loaded loaded]
      cases change.interned? with
      | none => exact distinct
      | some descriptor => exact nodup_names_intern distinct descriptor

end Change

/-! ## Histories -/

/-- What has become of an empty table after some changes. -/
def after (changes : List Change) : DescriptorTable :=
  changes.foldl Change.applyTo .empty

/-- The table that was loaded last, by a reading that succeeded or by a reset. -/
def lastLoaded (changes : List Change) : DescriptorTable :=
  (changes.filterMap Change.loaded?).getLast?.getD .empty

/-- The descriptors that were interned after that. -/
def internedSince (changes : List Change) : List String :=
  (changes.rtakeWhile fun change => change.loaded?.isNone).filterMap Change.interned?

variable {changes later : List Change}

theorem after_concat (changes : List Change) (change : Change) :
    after (changes ++ [change]) = change.applyTo (after changes) :=
  List.foldl_concat ..

theorem nodup_names_after (changes : List Change) : (after changes).names.Nodup := by
  induction changes using List.reverseRecOn with
  | nil => exact List.nodup_nil
  | append_singleton changes change ih =>
      rw [after_concat]
      exact Change.nodup_names_applyTo ih change

section Concat

variable {change : Change}

theorem lastLoaded_of_loaded (loaded : change.loaded? = some base) :
    lastLoaded (changes ++ [change]) = base := by
  rw [lastLoaded, List.filterMap_append, List.filterMap_cons_some loaded, List.filterMap_nil,
    List.getLast?_concat, Option.getD_some]

theorem lastLoaded_of_not_loaded (kept : change.loaded? = none) :
    lastLoaded (changes ++ [change]) = lastLoaded changes := by
  rw [lastLoaded, List.filterMap_append, List.filterMap_cons_none kept, List.filterMap_nil,
    List.append_nil, lastLoaded]

theorem internedSince_of_loaded (loaded : change.loaded? = some base) :
    internedSince (changes ++ [change]) = [] := by
  rw [internedSince, List.rtakeWhile_concat_neg _ _ _ (by simp [loaded]), List.filterMap_nil]

theorem internedSince_of_not_loaded (kept : change.loaded? = none) :
    internedSince (changes ++ [change]) = internedSince changes ++ change.interned?.toList := by
  rw [internedSince, List.rtakeWhile_concat_pos _ _ _ (by simp [kept]), List.filterMap_append,
    internedSince]
  cases interned : change.interned? <;> simp [interned]

end Concat

theorem internAll_append (table : DescriptorTable) (first second : List String) :
    table.internAll (first ++ second) = (table.internAll first).internAll second :=
  List.foldl_append

/-- Only what was loaded last, and what was interned since then, is left of a history. -/
theorem after_eq_internAll (changes : List Change) :
    after changes = (lastLoaded changes).internAll (internedSince changes) := by
  -- The last change either loads a table, and nothing before it counts, or interns at most one
  -- descriptor after all others.
  induction changes using List.reverseRecOn with
  | nil => rfl
  | append_singleton changes change ih =>
      rw [after_concat]
      cases loaded : change.loaded? with
      | some base =>
          rw [Change.applyTo_of_loaded loaded, lastLoaded_of_loaded loaded,
            internedSince_of_loaded loaded]
          rfl
      | none =>
          rw [Change.applyTo_of_not_loaded loaded, lastLoaded_of_not_loaded loaded,
            internedSince_of_not_loaded loaded, ih, internAll_append]

/-- Changes that load nothing leave each descriptor at its index. -/
theorem prefix_foldl_applyTo (kept : ∀ change ∈ later, change.loaded? = none)
    (table : DescriptorTable) : table.names <+: (later.foldl Change.applyTo table).names := by
  induction later generalizing table with
  | nil => exact List.prefix_rfl
  | cons change later ih =>
      rcases List.forall_mem_cons.mp kept with ⟨first, others⟩
      refine List.IsPrefix.trans ?_ (ih others (change.applyTo table))
      rw [Change.applyTo_of_not_loaded first]
      exact prefix_internAll _ _

theorem resolve?_after_append (kept : ∀ change ∈ later, change.loaded? = none)
    (found : (after changes).resolve? index = some descriptor) :
    (after (changes ++ later)).resolve? index = some descriptor := by
  rcases prefix_foldl_applyTo kept (after changes) with ⟨added, namesEq⟩
  have continued : after (changes ++ later) = later.foldl Change.applyTo (after changes) :=
    List.foldl_append
  rw [resolve?_eq] at found ⊢
  rw [continued, ← namesEq, List.getElem?_append_left (List.getElem?_eq_some_iff.mp found).1, found]

/-- The index that is handed out for a descriptor is where it is found, if 32 bits can say so. -/
theorem resolve?_intern (numbered : (table.intern descriptor).2.size ≤ UInt32.size) :
    (table.intern descriptor).2.resolve? (table.intern descriptor).1 = some descriptor := by
  rw [index_intern]
  exact resolve?_idxOf numbered (table.mem_names_intern descriptor)

/-- What the indices and the counts of a table mean after some changes. -/
structure IsFaithful (changes : List Change) : Prop where
  distinct : (after changes).names.Nodup
  /-- The indices in use are those below the size. -/
  resolved : ∀ index, ((after changes).resolve? index).isSome ↔ index.toNat < (after changes).size
  placed : ∀ place,
    (∃ descriptor, (after changes).index? descriptor = some place) ↔ place < (after changes).size
  inverse : ∀ index descriptor, (after changes).resolve? index = some descriptor ↔
    (after changes).index? descriptor = some index.toNat
  /-- The entries give the descriptor and the count at each index, in the order of the indices. -/
  listed : ∀ index : UInt32, (after changes).entries[index.toNat]? =
    ((after changes).resolve? index).map fun descriptor =>
      (descriptor, (after changes).count index)
  /-- What was loaded last is counted, and what was interned since then. -/
  counted : ∀ index descriptor, (after changes).resolve? index = some descriptor →
    ((after changes).count index).toNat =
      min ((lastLoaded changes).occurrences descriptor + (internedSince changes).count descriptor)
        greatestCount
  /-- An index in use keeps its descriptor as long as nothing is loaded. -/
  stable : ∀ later, (∀ change ∈ later, change.loaded? = none) → ∀ index descriptor,
    (after changes).resolve? index = some descriptor →
      (after (changes ++ later)).resolve? index = some descriptor
  /-- So does an index that is handed out, if 32 bits can number the descriptors. -/
  handedOut : ∀ descriptor later, (∀ change ∈ later, change.loaded? = none) →
    ((after changes).intern descriptor).2.size ≤ UInt32.size →
      (after (changes ++ .intern descriptor :: later)).resolve?
        ((after changes).intern descriptor).1 = some descriptor

theorem isFaithful_after (changes : List Change) : IsFaithful changes where
  distinct := nodup_names_after changes
  resolved := fun _ => resolve?_isSome_iff
  placed := fun _ => exists_index?_eq_iff (nodup_names_after changes)
  inverse := fun _ _ => resolve?_eq_some_iff (nodup_names_after changes)
  listed := (after changes).entries_getElem?
  counted := by
    intro index descriptor found
    rw [toNat_count (nodup_names_after changes) found, ← occurrences_internAll,
      ← after_eq_internAll]
  stable := fun _ kept _ _ => resolve?_after_append kept
  handedOut := by
    intro descriptor later kept numbered
    have handed : (after (changes ++ [.intern descriptor])).resolve?
        ((after changes).intern descriptor).1 = some descriptor := by
      rw [after_concat]
      exact resolve?_intern numbered
    rw [List.append_cons]
    exact resolve?_after_append kept handed

/--
Whatever happens to a table, its indices and counts mean what they should. A table is read just from
its forms, and a table within the limits of these is read as it was written.
-/
theorem after_isFaithful (changes : List Change) :
    IsFaithful changes ∧
    (∀ source table remaining, Reader.descriptorTable source = .ok table remaining ↔
      ∃ form rest, source.rest = form ++ rest ∧ IsForm form table ∧
        remaining = { source with rest, position := source.position + form.length }) ∧
    ((after changes).size ≤ Reader.maxCollectionLength →
      (∀ descriptor ∈ (after changes).names, TextFits descriptor) →
        ∃ bytes, (Writer.descriptorTable (after changes)).Emits bytes ∧
          ∀ (source : Source) rest, source.rest = bytes ++ rest →
            Reader.descriptorTable source = .ok (after changes)
              { source with rest, position := source.position + bytes.length }) := by
  refine ⟨isFaithful_after changes, fun _ _ _ => Reader.descriptorTable_eq_ok_iff, ?_⟩
  intro short fits
  have storable : (after changes).Storable :=
    ⟨nodup_names_after changes, short, fun entry member => fits _ (List.mem_map_of_mem member)⟩
  rcases Exchange.descriptorTable storable 0 with ⟨bytes, emits, takes⟩
  refine ⟨bytes, emits, ?_⟩
  intro source rest split
  rw [Reader.descriptorTable_eq_ok_iff]
  exact ⟨bytes, rest, split, Reader.descriptorTable_takes_iff.mp takes, rfl⟩

/-- A count that is full stays so, and a failed reading changes nothing. -/
example : after [.intern "a", .read (.ofBytes [2, 1, 98, 5, 1, 97, 255, 255, 255, 255, 15]),
    .intern "a", .read (.ofBytes [255]), .intern "b", .intern "c"] =
      ⟨[("b", 6), ("a", 4294967295), ("c", 1)]⟩ := by
  decide +kernel

end DescriptorTable

end Resemblance
