import Mathlib.Data.List.Basic
import Resemblance.Profile.DescriptorTable

/-!
# Interning descriptors

A table holds each descriptor at an index and counts its occurrences. Interning a descriptor counts
one occurrence more, up to the greatest number of 32 bits, and leaves all other counts as they are.
The descriptors of the table stay at their indices; a new one is added behind them. All of this
carries over to lists of descriptors that are interned one after another: `prefix_internAll`,
`idxOf_internAll` and `occurrences_internAll`.
-/

namespace Resemblance

namespace DescriptorTable

/-- The descriptors of a table, each at its index. -/
def names (table : DescriptorTable) : List String :=
  table.entries.map (·.1)

/-- How often a descriptor was interned, as far as the table counts; zero if it is not there. -/
def occurrences (table : DescriptorTable) (descriptor : String) : Nat :=
  ((table.entries.find? (·.1 == descriptor)).map (·.2.toNat)).getD 0

/-- The greatest number of occurrences that a table counts. -/
def greatestCount : Nat := UInt32.size - 1

/-- The table after all descriptors of a list were interned in their order. -/
def internAll (table : DescriptorTable) (descriptors : List String) : DescriptorTable :=
  descriptors.foldl (fun table descriptor => (table.intern descriptor).2) table

variable {table : DescriptorTable} {descriptor : String}

@[simp]
theorem length_names (table : DescriptorTable) : table.names.length = table.size :=
  List.length_map ..

/-! ## Indices -/

theorem names_internEntry (descriptor : String) (entries : List (String × UInt32)) :
    (internEntry descriptor entries).map (·.1) =
      if descriptor ∈ entries.map (·.1) then entries.map (·.1)
      else entries.map (·.1) ++ [descriptor] := by
  induction entries with
  | nil => rfl
  | cons entry entries ih =>
      rw [internEntry]
      by_cases same : entry.1 = descriptor
      · rw [if_pos same]
        simp [same]
      · have different : descriptor ≠ entry.1 := fun again => same again.symm
        rw [if_neg same, List.map_cons, ih, List.map_cons]
        simp only [List.mem_cons, different, false_or]
        split <;> rfl

theorem names_intern (table : DescriptorTable) (descriptor : String) :
    (table.intern descriptor).2.names =
      if descriptor ∈ table.names then table.names else table.names ++ [descriptor] :=
  names_internEntry descriptor table.entries

/-- What is in a table stays at its index. -/
theorem prefix_intern (table : DescriptorTable) (descriptor : String) :
    table.names <+: (table.intern descriptor).2.names := by
  rw [names_intern]
  split
  · exact List.prefix_rfl
  · exact List.prefix_append _ _

theorem mem_names_intern (table : DescriptorTable) (descriptor : String) :
    descriptor ∈ (table.intern descriptor).2.names := by
  rw [names_intern]
  split
  · assumption
  · simp

/-- A descriptor is at the first index that has it, or it comes behind all others. -/
theorem getD_findIdx?_eq_idxOf (descriptor : String) (entries : List (String × UInt32)) :
    (entries.findIdx? (·.1 == descriptor)).getD entries.length =
      (entries.map (·.1)).idxOf descriptor := by
  induction entries with
  | nil => rfl
  | cons entry entries ih =>
      rw [List.findIdx?_cons, List.map_cons, List.idxOf_cons]
      cases entry.1 == descriptor with
      | true => rfl
      | false =>
          rw [cond_false, ← ih, if_neg Bool.false_ne_true]
          cases entries.findIdx? (·.1 == descriptor) <;> rfl

/-- The index that is given for a descriptor is the one that it has in the table afterwards. -/
theorem index_intern (table : DescriptorTable) (descriptor : String) :
    (table.intern descriptor).1 =
      ((table.intern descriptor).2.names.idxOf descriptor).toUInt32 := by
  have before : (table.intern descriptor).1 = (table.names.idxOf descriptor).toUInt32 :=
    congrArg Nat.toUInt32 (getD_findIdx?_eq_idxOf descriptor table.entries)
  rw [before, names_intern]
  split
  · rfl
  · rename_i absent
    rw [List.idxOf_append_of_notMem absent, List.idxOf_of_notMem absent, List.idxOf_cons_self,
      Nat.add_zero]

theorem resolve?_eq (table : DescriptorTable) (index : UInt32) :
    table.resolve? index = table.names[index.toNat]? := by
  rw [resolve?, names, List.getElem?_map]

/-- As long as 32 bits can number all descriptors, each of them is found at its index. -/
theorem resolve?_idxOf (numbered : table.size ≤ UInt32.size) (known : descriptor ∈ table.names) :
    table.resolve? (table.names.idxOf descriptor).toUInt32 = some descriptor := by
  have within : table.names.idxOf descriptor < UInt32.size := by
    apply Nat.lt_of_lt_of_le _ numbered
    rw [← length_names]
    exact List.idxOf_lt_length_of_mem known
  have exact : (table.names.idxOf descriptor).toUInt32.toNat = table.names.idxOf descriptor :=
    Nat.mod_eq_of_lt within
  rw [resolve?_eq, exact, List.getElem?_idxOf known]

theorem size_le_intern (table : DescriptorTable) (descriptor : String) :
    table.size ≤ (table.intern descriptor).2.size := by
  simpa using (table.prefix_intern descriptor).length_le

/-- The index of a descriptor is in the table that has it, even if it does not fit 32 bits. -/
theorem index_intern_lt (table : DescriptorTable) (descriptor : String) :
    (table.intern descriptor).1.toNat < (table.intern descriptor).2.size := by
  rw [index_intern, ← length_names]
  exact Nat.lt_of_le_of_lt (Nat.mod_le _ _)
    (List.idxOf_lt_length_of_mem (table.mem_names_intern descriptor))

theorem prefix_internAll (table : DescriptorTable) (descriptors : List String) :
    table.names <+: (table.internAll descriptors).names := by
  induction descriptors generalizing table with
  | nil => exact List.prefix_rfl
  | cons first others ih => exact (table.prefix_intern first).trans (ih _)

theorem mem_names_internAll {descriptors : List String} (table : DescriptorTable)
    (member : descriptor ∈ descriptors) : descriptor ∈ (table.internAll descriptors).names := by
  induction descriptors generalizing table with
  | nil => cases member
  | cons first others ih =>
      rcases List.mem_cons.mp member with rfl | later
      · exact (prefix_internAll _ others).subset (table.mem_names_intern descriptor)
      · exact ih _ later

/-- A descriptor that is known keeps its index. -/
theorem idxOf_internAll (known : descriptor ∈ table.names) (descriptors : List String) :
    (table.internAll descriptors).names.idxOf descriptor = table.names.idxOf descriptor := by
  rcases table.prefix_internAll descriptors with ⟨added, namesEq⟩
  rw [← namesEq, List.idxOf_append_of_mem known]

/-- What is in a table is found at the index where it was found before. -/
theorem index?_internAll {index : Nat} (found : table.index? descriptor = some index)
    (descriptors : List String) :
    (table.internAll descriptors).index? descriptor = some index := by
  have index?_eq (table : DescriptorTable) :
      table.index? descriptor = table.names.findIdx? (· == descriptor) := by
    rw [index?, names, List.findIdx?_map]
    rfl
  rcases table.prefix_internAll descriptors with ⟨added, namesEq⟩
  rw [index?_eq] at found ⊢
  rw [← namesEq, List.findIdx?_append, found, Option.some_or]

/-! ## Occurrences -/

theorem toNat_increment (count : UInt32) :
    (increment count).toNat = min (count.toNat + 1) greatestCount := by
  have below := count.toNat_lt
  rw [increment]
  split
  · rename_i room
    rw [UInt32.toNat_add, UInt32.toNat_one, Nat.mod_eq_of_lt room, greatestCount]
    omega
  · rename_i full
    simp only [greatestCount, UInt32.size] at full ⊢
    omega

theorem occurrences_le (table : DescriptorTable) (descriptor : String) :
    table.occurrences descriptor ≤ greatestCount := by
  rw [occurrences]
  cases table.entries.find? (·.1 == descriptor) with
  | none => exact Nat.zero_le _
  | some entry => exact Nat.le_pred_of_lt entry.2.toNat_lt

theorem find?_internEntry_of_ne {other : String} (different : descriptor ≠ other)
    (entries : List (String × UInt32)) :
    (internEntry descriptor entries).find? (·.1 == other) = entries.find? (·.1 == other) := by
  induction entries with
  | nil => simp [internEntry, different]
  | cons entry entries ih =>
      rw [internEntry]
      split
      · rename_i counted
        have elsewhere : entry.1 ≠ other := fun here => different (counted.symm.trans here)
        simp [elsewhere]
      · rw [List.find?_cons, List.find?_cons, ih]

theorem find?_internEntry_self (descriptor : String) (entries : List (String × UInt32)) :
    (internEntry descriptor entries).find? (·.1 == descriptor) =
      some (descriptor,
        match entries.find? (·.1 == descriptor) with
        | some entry => increment entry.2
        | none => 1) := by
  induction entries with
  | nil => simp [internEntry]
  | cons entry entries ih =>
      rw [internEntry]
      by_cases same : entry.1 = descriptor
      · simp [same]
      · simp [same, ih]

theorem occurrences_intern_of_ne {other : String} (table : DescriptorTable)
    (different : descriptor ≠ other) :
    (table.intern descriptor).2.occurrences other = table.occurrences other := by
  rw [occurrences, intern, find?_internEntry_of_ne different, occurrences]

theorem occurrences_intern_self (table : DescriptorTable) (descriptor : String) :
    (table.intern descriptor).2.occurrences descriptor =
      min (table.occurrences descriptor + 1) greatestCount := by
  rw [occurrences, intern, find?_internEntry_self, occurrences]
  cases table.entries.find? (·.1 == descriptor) with
  | none => rfl
  | some entry => exact toNat_increment entry.2

/-- Each occurrence in a list is counted, up to the greatest number. -/
theorem occurrences_internAll (table : DescriptorTable) (descriptors : List String)
    (descriptor : String) :
    (table.internAll descriptors).occurrences descriptor =
      min (table.occurrences descriptor + descriptors.count descriptor) greatestCount := by
  induction descriptors generalizing table with
  | nil => exact (Nat.min_eq_left (table.occurrences_le descriptor)).symm
  | cons first others ih =>
      change ((table.intern first).2.internAll others).occurrences descriptor = _
      rw [ih]
      by_cases same : first = descriptor
      · subst same
        rw [occurrences_intern_self, List.count_cons_self]
        omega
      · rw [occurrences_intern_of_ne table same, List.count_cons_of_ne same]

end DescriptorTable

end Resemblance
