import Mathlib.Data.List.Forall2
import Mathlib.Data.List.Nodup
import Resemblance.Proofs.Wire.Text

/-!
# Entries with distinct keys on the wire

The entries of an attribute map and those of a descriptor table are read in the same way: a text and
a further value each, where a text that occurred before is refused. `Reader.keyedAfter` is that way
of reading, with the reader of the further values and the fault of a repetition as parameters.
-/

namespace Resemblance

variable {Item : Type}

theorem forall_of_forall₂ {Target : Type} {relation : Item → Target → Prop}
    {property : Item → Prop} {items : List Item} {targets : List Target}
    (related : List.Forall₂ relation items targets)
    (each : ∀ item target, relation item target → property item) :
    ∀ item ∈ items, property item := by
  have both : List.Forall₂ (fun item _ => property item ∧ True) items targets :=
    related.imp fun item target holds => ⟨each item target holds, trivial⟩
  exact ((List.forall₂_and_left _ _).mp both).1

section Keys

variable {before later : List (String × Item)} {key : String} {value : Item}

theorem nodup_keys_concat (distinct : (before.map (·.1)).Nodup)
    (fresh : key ∉ before.map (·.1)) : ((before ++ [(key, value)]).map (·.1)).Nodup := by
  rw [List.map_append, List.map_singleton, ← List.concat_eq_append]
  exact List.Nodup.concat fresh distinct

theorem fresh_of_nodup_keys (distinct : ((before ++ (key, value) :: later).map (·.1)).Nodup) :
    key ∉ before.map (·.1) := by
  intro known
  rw [List.map_append, List.nodup_append] at distinct
  exact distinct.2.2 key known key (by simp) rfl

end Keys

namespace Reader

/-- Reads `count` entries after the entries `before`, whose keys must not occur again. -/
def keyedAfter (repeated : String → FormatFault) (item : Reader Item)
    (before : List (String × Item)) : (count : Nat) → Reader (List (String × Item))
  | 0 => return before
  | count + 1 => do
      let key ← string
      let value ← item
      if key ∈ before.map (·.1) then fail (repeated key)
      else keyedAfter repeated item (before ++ [(key, value)]) count

theorem Regular.keyedAfter {repeated : String → FormatFault} {item : Reader Item}
    (regular : item.Regular) (before : List (String × Item)) (count : Nat) :
    (keyedAfter repeated item before count).Regular := by
  induction count generalizing before with
  | zero => exact .pure before
  | succ count ih =>
      apply Regular.string.bind
      intro key
      apply regular.bind
      intro value
      split
      · exact .fail (repeated key)
      · exact ih _

/-- What is left to read behind an entry. -/
theorem Regular.laterEntries {repeated : String → FormatFault} {item : Reader Item}
    (regular : item.Regular) (before : List (String × Item)) (count : Nat) (key : String)
    (value : Item) :
    (if key ∈ before.map (·.1) then Reader.fail (repeated key)
      else Reader.keyedAfter repeated item (before ++ [(key, value)]) count).Regular := by
  split
  · exact .fail (repeated key)
  · exact regular.keyedAfter _ count

/-- The bytes are those of an entry: its key, then its value. -/
def TakesEntry (item : Reader Item) (depth : Nat) (entry : String × Item) (bytes : List UInt8) :
    Prop :=
  ∃ keyForm itemForm, bytes = keyForm ++ itemForm ∧ string.Takes depth keyForm entry.1 ∧
    item.Takes depth itemForm entry.2

/-- Entries stand behind one another, and their keys are new and distinct. -/
theorem keyedAfter_takes_iff {repeated : String → FormatFault} {item : Reader Item}
    (regular : item.Regular) {depth : Nat} {bytes : List UInt8}
    {before entries : List (String × Item)} {count : Nat}
    (distinct : (before.map (·.1)).Nodup) :
    (keyedAfter repeated item before count).Takes depth bytes entries ↔
      ∃ added forms, entries = before ++ added ∧ added.length = count ∧
        (entries.map (·.1)).Nodup ∧ bytes = forms.flatten ∧
        List.Forall₂ (TakesEntry item depth) added forms := by
  -- The entries that are read move behind the earlier ones one by one.
  induction count generalizing before bytes with
  | zero =>
      rw [keyedAfter, takes_pure_iff]
      constructor
      · rintro ⟨rfl, rfl⟩
        exact ⟨[], [], (List.append_nil before).symm, rfl, distinct, rfl, .nil⟩
      · rintro ⟨added, forms, rfl, none, _, rfl, related⟩
        cases List.length_eq_zero_iff.mp none
        cases related
        exact ⟨rfl, (List.append_nil before).symm⟩
  | succ count ih =>
      rw [keyedAfter, Regular.string.takes_bind_iff fun key =>
        regular.bind (regular.laterEntries before count key)]
      constructor
      · rintro ⟨keyForm, _, key, rfl, keyTakes, later⟩
        rcases regular.takes_bind (regular.laterEntries before count key) later with
          ⟨itemForm, others, value, rfl, itemTakes, othersTake⟩
        split at othersTake
        · exact absurd othersTake not_takes_fail
        · rename_i fresh
          rcases (ih (nodup_keys_concat distinct fresh)).mp othersTake with
            ⟨added, forms, rfl, lengthEq, distinctAll, rfl, related⟩
          refine ⟨(key, value) :: added, (keyForm ++ itemForm) :: forms,
            (List.append_cons before _ added).symm, congrArg Nat.succ lengthEq, distinctAll, ?_,
            .cons ⟨keyForm, itemForm, rfl, keyTakes, itemTakes⟩ related⟩
          rw [List.flatten_cons, List.append_assoc]
      · rintro ⟨added, forms, rfl, lengthEq, distinctAll, rfl, related⟩
        cases related with
        | nil => cases lengthEq
        | @cons entry _ added forms taken related =>
            rcases entry with ⟨key, value⟩
            rcases taken with ⟨keyForm, itemForm, rfl, keyTakes, itemTakes⟩
            have fresh := fresh_of_nodup_keys distinctAll
            refine ⟨keyForm, itemForm ++ forms.flatten, key, ?_, keyTakes, itemTakes.bind ?_⟩
            · rw [List.flatten_cons, List.append_assoc]
            · rw [if_neg fresh]
              exact (ih (nodup_keys_concat distinct fresh)).mpr ⟨added, forms,
                List.append_cons before _ added, Nat.succ.inj lengthEq, distinctAll, rfl, related⟩

/-- The entries that are read have new keys, and values that the inner reader gives. -/
theorem of_keyedAfter_takes {repeated : String → FormatFault} {item : Reader Item}
    (regular : item.Regular) (property : Item → Prop) {depth : Nat}
    (each : ∀ {bytes value}, item.Takes depth bytes value → property value)
    {before entries : List (String × Item)} {count : Nat} {bytes : List UInt8}
    (distinct : (before.map (·.1)).Nodup)
    (takes : (keyedAfter repeated item before count).Takes depth bytes entries) :
    (entries.map (·.1)).Nodup ∧ ∃ added, entries = before ++ added ∧ added.length = count ∧
      ∀ entry ∈ added, TextFits entry.1 ∧ property entry.2 := by
  rcases (keyedAfter_takes_iff regular distinct).mp takes with
    ⟨added, forms, rfl, lengthEq, distinctAll, _, related⟩
  refine ⟨distinctAll, added, rfl, lengthEq, forall_of_forall₂ related ?_⟩
  rintro entry form ⟨_, _, _, keyTakes, itemTakes⟩
  exact ⟨textFits_of_string_takes keyTakes, each itemTakes⟩

end Reader

theorem Exchange.keyedAfter {repeated : String → FormatFault} {item : Reader Item}
    {write : Item → Writer Unit} {depth : Nat} {before entries : List (String × Item)}
    (distinct : ((before ++ entries).map (·.1)).Nodup)
    (fits : ∀ entry ∈ entries, TextFits entry.1)
    (values : ∀ entry ∈ entries, Exchange (write entry.2) item depth entry.2) :
    Exchange (Writer.each (fun entry => do Writer.string entry.1; write entry.2) entries)
      (Reader.keyedAfter repeated item before entries.length) depth (before ++ entries) := by
  induction entries generalizing before with
  | nil =>
      rw [List.append_nil]
      exact .pure before
  | cons entry entries ih =>
      rcases entry with ⟨key, value⟩
      have regroup := List.append_cons before (key, value) entries
      have fresh := fresh_of_nodup_keys distinct
      have others := @ih (before ++ [(key, value)]) (by rwa [← regroup])
        (fun other member => fits other (by simp [member]))
        (fun other member => values other (by simp [member]))
      rw [← regroup] at others
      simp only [Writer.each, bind_assoc]
      apply (string (fits (key, value) (by simp)) depth).bind
      apply (values (key, value) (by simp)).bind
      rw [if_neg fresh]
      exact others

end Resemblance
