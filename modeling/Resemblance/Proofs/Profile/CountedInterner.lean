import Resemblance.Profile.CountedInterner
import Resemblance.Proofs.Profile.TableHistory

/-!
# Tables as interners with counts

A table of descriptors with their numbers of occurrences is the same as an interner and the list of
these numbers: each operation on the two parts does what the one on the table does, and so do all
operations one after another. The two parts stay aligned, then, and no number is ever missing.
-/

namespace Resemblance

/-- The two parts of a table: its descriptors, and their numbers of occurrences. -/
def DescriptorTable.split (table : DescriptorTable) : CountedInterner :=
  ⟨table.entries.map (·.1), table.entries.map (·.2)⟩

namespace CountedInterner

variable {table : DescriptorTable}

/-! ## Single operations -/

theorem index?_split (table : DescriptorTable) (descriptor : String) :
    table.split.index? descriptor = table.index? descriptor :=
  (table.index?_eq_findIdx? descriptor).symm

theorem resolve?_split (table : DescriptorTable) (index : UInt32) :
    table.split.resolve? index = table.resolve? index :=
  (table.resolve?_eq index).symm

theorem size_split (table : DescriptorTable) : table.split.size = table.size :=
  table.length_names

theorem count_split (table : DescriptorTable) (index : UInt32) :
    table.split.count index = table.count index := by
  rw [count, countAt, DescriptorTable.split, List.getElem?_map, DescriptorTable.count]

theorem total_split (table : DescriptorTable) : table.split.total = table.total := by
  rw [total, DescriptorTable.split, List.foldr_map, DescriptorTable.total]

theorem filterMap_range_getElem? {Item : Type} (items : List Item) :
    (List.range items.length).filterMap (items[·]?) = items := by
  induction items using List.reverseRecOn with
  | nil => rfl
  | append_singleton items item ih =>
      have before : (List.range items.length).filterMap ((items ++ [item])[·]?) =
          (List.range items.length).filterMap (items[·]?) := by
        apply List.filterMap_congr
        intro index member
        exact List.getElem?_append_left (List.mem_range.mp member)
      rw [List.length_append, List.length_singleton, List.range_succ, List.filterMap_append,
        before, ih]
      simp

theorem entries_split (table : DescriptorTable) : table.split.entries = table.entries := by
  have each : ∀ index ∈ List.range table.entries.length,
      ((table.split.strings[index]?).map fun string => (string, table.split.countAt index)) =
        table.entries[index]? := by
    intro index member
    have within : index < table.entries.length := List.mem_range.mp member
    simp [DescriptorTable.split, countAt, within]
  rw [entries, size_split, DescriptorTable.size, List.filterMap_congr each,
    filterMap_range_getElem?]

/-! ## Interning -/

/-- To intern a descriptor is to change the entry at its index, or to add one behind all others. -/
theorem internEntry_eq (descriptor : String) (entries : List (String × UInt32)) :
    DescriptorTable.internEntry descriptor entries =
      match entries.findIdx? (·.1 == descriptor) with
      | some index => entries.modify index fun entry =>
          (entry.1, DescriptorTable.increment entry.2)
      | none => entries ++ [(descriptor, 1)] := by
  induction entries with
  | nil => rfl
  | cons entry entries ih =>
      rw [DescriptorTable.internEntry, List.findIdx?_cons]
      by_cases same : entry.1 = descriptor
      · simp [same]
      · rw [if_neg same, ih]
        cases entries.findIdx? (·.1 == descriptor) <;> simp [same]

/-- The counts reach as far as an index that is in use. -/
theorem fillTo_of_lt {counts : List UInt32} {index : Nat} (within : index < counts.length) :
    fillTo counts index = counts :=
  if_neg (Nat.not_le.mpr within)

/-- A new string needs one more count. -/
theorem fillTo_length (counts : List UInt32) : fillTo counts counts.length = counts ++ [0] := by
  simp [fillTo]

theorem map_modify {Item Image : Type} {image : Item → Image} {change : Item → Item}
    {changeImage : Image → Image}
    (commutes : ∀ item, image (change item) = changeImage (image item))
    (items : List Item) (index : Nat) :
    (items.modify index change).map image = (items.map image).modify index changeImage := by
  apply List.ext_getElem?
  intro other
  simp only [List.getElem?_map, List.getElem?_modify, Option.map_eq_map]
  cases items[other]? with
  | none => rfl
  | some item => by_cases here : index = other <;> simp [here, commutes]

theorem modify_length {Item : Type} (items : List Item) (last : Item) (change : Item → Item) :
    (items ++ [last]).modify items.length change = items ++ [change last] := by
  induction items with
  | nil => rfl
  | cons item items ih => simp [ih]

theorem intern_split (table : DescriptorTable) (descriptor : String) :
    table.split.intern descriptor =
      ((table.intern descriptor).1, (table.intern descriptor).2.split) := by
  have sameIndex : (table.entries.map (·.1)).findIdx? (· == descriptor) =
      table.entries.findIdx? (·.1 == descriptor) :=
    List.findIdx?_map
  rw [intern, DescriptorTable.split, getOrAdd, sameIndex, DescriptorTable.intern,
    DescriptorTable.index?, internEntry_eq]
  cases found : table.entries.findIdx? (·.1 == descriptor) with
  | some index =>
      have within : index < (table.entries.map (·.2)).length := by
        rw [List.length_map]
        exact (List.findIdx?_eq_some_iff_getElem.mp found).1
      dsimp only
      rw [fillTo_of_lt within]
      have strings : ∀ entry : String × UInt32,
          (entry.1, DescriptorTable.increment entry.2).1 = id entry.1 := fun _ => rfl
      have counts : ∀ entry : String × UInt32,
          (entry.1, DescriptorTable.increment entry.2).2 = DescriptorTable.increment entry.2 :=
        fun _ => rfl
      rw [DescriptorTable.split, map_modify strings, map_modify counts, List.modify_id]
      rfl
  | none =>
      have last : fillTo (table.entries.map (·.2)) table.entries.length =
          table.entries.map (·.2) ++ [0] := by
        rw [← fillTo_length, List.length_map]
      have added := modify_length (table.entries.map (·.2)) 0 DescriptorTable.increment
      rw [List.length_map] at added
      dsimp only
      rw [List.length_map, last, added]
      simp [DescriptorTable.split, DescriptorTable.size, DescriptorTable.increment]

end CountedInterner

/-! ## Streams -/

theorem Writer.countedInterner_split (table : DescriptorTable) :
    Writer.countedInterner table.split = Writer.descriptorTable table := by
  rw [countedInterner, CountedInterner.entries_split]
  rfl

namespace Reader

/-- A descriptor that is there has an index below the next one. -/
theorem getOrAdd_of_known {before : List (String × UInt32)} {descriptor : String}
    (known : before.any (·.1 == descriptor)) :
    (CountedInterner.getOrAdd (before.map (·.1)) descriptor).1 ≠ before.length := by
  rw [CountedInterner.getOrAdd, List.findIdx?_map]
  cases found : before.findIdx? ((· == descriptor) ∘ (·.1)) with
  | some index => exact Nat.ne_of_lt (List.findIdx?_eq_some_iff_getElem.mp found).1
  | none =>
      rcases List.any_eq_true.mp known with ⟨entry, member, same⟩
      have different := List.findIdx?_eq_none_iff.mp found entry member
      exact Bool.noConfusion (same.symm.trans different)

theorem getOrAdd_of_fresh {before : List (String × UInt32)} {descriptor : String}
    (fresh : ¬before.any (·.1 == descriptor)) :
    CountedInterner.getOrAdd (before.map (·.1)) descriptor =
      (before.length, before.map (·.1) ++ [descriptor]) := by
  have absent : before.findIdx? ((· == descriptor) ∘ (·.1)) = none := by
    rw [List.findIdx?_eq_none_iff]
    intro entry member
    rw [Function.comp_apply, ← Bool.not_eq_true]
    exact fun same => fresh (List.any_eq_true.mpr ⟨entry, member, same⟩)
  rw [CountedInterner.getOrAdd, List.findIdx?_map, absent, List.length_map]

theorem internedAfter_split (before : List (String × UInt32)) (count : Nat) :
    internedAfter (DescriptorTable.split ⟨before⟩) before.length count =
      (do return DescriptorTable.split ⟨← descriptorsAfter before count⟩) := by
  induction count generalizing before with
  | zero => rfl
  | succ count ih =>
      rw [internedAfter, descriptorsAfter]
      simp only [bind_assoc]
      refine bind_congr fun descriptor => bind_congr fun occurrences => ?_
      rw [DescriptorTable.split]
      by_cases known : before.any (·.1 == descriptor)
      · rw [if_pos (getOrAdd_of_known known), if_pos known]
        rfl
      · have extended := ih (before ++ [(descriptor, occurrences)])
        rw [DescriptorTable.split, List.map_append, List.map_append, List.length_append] at extended
        rw [getOrAdd_of_fresh known, if_neg known, if_neg (by simp)]
        exact extended

/-- What is read as an interner with counts is read as a table, and the other way round. -/
theorem countedInterner_eq :
    countedInterner = (do return (← descriptorTable).split) := by
  rw [countedInterner, descriptorTable]
  simp only [bind_assoc, pure_bind]
  exact bind_congr fun count => internedAfter_split [] count

end Reader

/-! ## Histories -/

namespace CountedInterner

/-- What a change makes of an interner; a reading that fails leaves it as it was. -/
def applyTo (interner : CountedInterner) : DescriptorTable.Change → CountedInterner
  | .intern descriptor => (interner.intern descriptor).2
  | .read source =>
      match Reader.countedInterner source with
      | .ok loaded _ => loaded
      | .error _ _ => interner
  | .reset => .empty

theorem applyTo_split (table : DescriptorTable) (change : DescriptorTable.Change) :
    table.split.applyTo change = (change.applyTo table).split := by
  cases change with
  | intern descriptor => rw [applyTo, intern_split, DescriptorTable.Change.applyTo]
  | read source =>
      cases taken : Reader.descriptorTable source <;>
        simp only [applyTo, DescriptorTable.Change.applyTo, Reader.countedInterner_eq, bind,
          EStateM.bind, pure, EStateM.pure, taken]
  | reset => rfl

/-- After any changes, the two parts are those of the table after the same changes. -/
theorem foldl_applyTo_eq (changes : List DescriptorTable.Change) :
    changes.foldl applyTo .empty = (DescriptorTable.after changes).split := by
  induction changes using List.reverseRecOn with
  | nil => rfl
  | append_singleton changes change ih =>
      rw [List.foldl_concat, ih, applyTo_split, DescriptorTable.after_concat]

/-- No count is missing, and none is left over. -/
theorem length_counts_eq (changes : List DescriptorTable.Change) :
    (changes.foldl applyTo .empty).counts.length =
      (changes.foldl applyTo .empty).strings.length := by
  rw [foldl_applyTo_eq, DescriptorTable.split, List.length_map, List.length_map]

end CountedInterner

end Resemblance
