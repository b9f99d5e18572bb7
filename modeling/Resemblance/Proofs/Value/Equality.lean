import Mathlib
import Resemblance.Proofs.Value.Representation
import Resemblance.Proofs.Value.TypedConstant

/-!
# Equality of content

Lists are equal if their items are, maps if each key of one has an equal value in the other and their
sizes agree, and floating-point numbers if they are equal as numbers. The keys of a map are distinct,
so a map of the same size that has all its keys has no other keys; this makes the one-sided look-up
symmetric and independent of the order in which the keys were inserted. What breaks reflexivity is
only what is not a number, wherever it occurs.

All statements are inductions over the parts of values.
-/

namespace Resemblance

/-! ## Numbers -/

namespace Binary64

variable {first second third : Binary64}

theorem equal_iff : first.equal second ↔
    first.isNaN = false ∧ second.isNaN = false ∧
      (first = second ∨ first.isZero ∧ second.isZero) := by
  cases first
  cases second
  simp [equal, and_assoc]

theorem equal_symm (equal : first.equal second) : second.equal first := by
  rw [equal_iff] at equal ⊢
  rcases equal with ⟨firstNumber, secondNumber, rfl | ⟨firstZero, secondZero⟩⟩
  · exact ⟨secondNumber, firstNumber, .inl rfl⟩
  · exact ⟨secondNumber, firstNumber, .inr ⟨secondZero, firstZero⟩⟩

theorem equal_trans (equal : first.equal second) (next : second.equal third) :
    first.equal third := by
  rw [equal_iff] at equal next ⊢
  rcases equal with ⟨firstNumber, _, rfl | ⟨firstZero, secondZero⟩⟩
  · exact ⟨firstNumber, next.2⟩
  · rcases next with ⟨_, thirdNumber, rfl | ⟨_, thirdZero⟩⟩
    · exact ⟨firstNumber, thirdNumber, .inr ⟨firstZero, secondZero⟩⟩
    · exact ⟨firstNumber, thirdNumber, .inr ⟨firstZero, thirdZero⟩⟩

theorem equal_self_iff : first.equal first ↔ first.isNaN = false := by
  simp [equal_iff]

end Binary64

/-! ## Look-up under distinct keys -/

namespace Attributes

variable {key : String} {value : Value} {entries others : Attributes}

theorem mem_of_get?_eq_some (found : get? key entries = some value) : (key, value) ∈ entries := by
  induction entries with
  | nil => cases found
  | cons entry entries ih =>
      rcases entry with ⟨other, old⟩
      rw [get?] at found
      split_ifs at found with equal
      · cases found
        simp [equal]
      · exact List.mem_cons_of_mem _ (ih found)

theorem get?_eq_some_iff (distinct : (entries.map (·.1)).Nodup) :
    get? key entries = some value ↔ (key, value) ∈ entries := by
  refine ⟨mem_of_get?_eq_some, ?_⟩
  intro member
  have known : (get? key entries).isSome := by
    rw [isSome_get?_iff]
    exact List.mem_map_of_mem member
  rcases Option.isSome_iff_exists.mp known with ⟨other, found⟩
  have same := List.inj_on_of_nodup_map distinct (mem_of_get?_eq_some found) member rfl
  simp_all

end Attributes

namespace Value

variable {left right first second third : Value}

/-! ## Distinct keys -/

/-- The own keys of a map are distinct, whatever its values. -/
def KeyedHere : Value → Prop
  | .map entries => (entries.map (·.1)).Nodup
  | _ => True

/-- In the value and in all values inside it, the keys of maps are distinct. -/
def Keyed : Value → Prop :=
  Everywhere KeyedHere

theorem keyed_list_iff {items : List Value} :
    (Value.list items).Keyed ↔ ∀ item ∈ items, item.Keyed := by
  rw [Keyed, everywhere_iff]
  simp [KeyedHere, parts]

theorem keyed_map_iff {entries : List (String × Value)} :
    (Value.map entries).Keyed ↔
      (entries.map (·.1)).Nodup ∧ ∀ entry ∈ entries, entry.2.Keyed := by
  rw [Keyed, everywhere_iff]
  simp only [KeyedHere, parts, List.forall_mem_map]

theorem keyed_of_plain (plain : left.parts = []) : left.Keyed := by
  apply Everywhere.intro
  · cases left with
    | map entries => simp_all [KeyedHere, parts]
    | _ => trivial
  · simp [plain]

theorem Canonical.keyed (canonical : left.Canonical) : left.Keyed := by
  induction left using induction_parts with
  | step value ih =>
      apply Everywhere.intro
      · have here := canonical.here
        cases value with
        | map entries => exact here
        | _ => trivial
      · intro part member
        exact ih part member (canonical.inside member)

/-- Equal maps have the same keys. -/
theorem perm_keys_of_same {entries others : Attributes} (distinct : (entries.map (·.1)).Nodup)
    (equal : (Value.map entries).same (.map others)) :
    (entries.map (·.1)).Perm (others.map (·.1)) := by
  rcases same_map_iff.mp equal with ⟨sizes, found⟩
  have part : entries.map (·.1) ⊆ others.map (·.1) := by
    intro key member
    rcases List.mem_map.mp member with ⟨entry, entryMember, rfl⟩
    rcases found entry entryMember with ⟨other, otherFound, _⟩
    exact List.mem_map.mpr ⟨_, Attributes.mem_of_get?_eq_some otherFound, rfl⟩
  apply (distinct.subperm part).perm_of_length_le
  simp [sizes]

/-- Maps are equal if they have the same keys, and equal values under them. -/
theorem same_map_iff_get? {entries others : Attributes} (distinct : (entries.map (·.1)).Nodup)
    (otherDistinct : (others.map (·.1)).Nodup) :
    (Value.map entries).same (.map others) ↔
      (∀ key, key ∈ entries.map (·.1) ↔ key ∈ others.map (·.1)) ∧
        ∀ key value other, Attributes.get? key entries = some value →
          Attributes.get? key others = some other → value.same other := by
  constructor
  · intro equal
    refine ⟨fun key => (perm_keys_of_same distinct equal).mem_iff, ?_⟩
    intro key value other found otherFound
    have member := Attributes.mem_of_get?_eq_some found
    rcases (same_map_iff.mp equal).2 _ member with ⟨again, againFound, valueEqual⟩
    rw [otherFound, Option.some.injEq] at againFound
    rwa [againFound]
  · rintro ⟨keys, values⟩
    have perm := (List.perm_ext_iff_of_nodup distinct otherDistinct).mpr keys
    rw [same_map_iff]
    refine ⟨by simpa using perm.length_eq, ?_⟩
    intro entry member
    have known := (keys entry.1).mp (List.mem_map_of_mem member)
    rcases Option.isSome_iff_exists.mp (Attributes.isSome_get?_iff.mpr known) with ⟨other, found⟩
    exact ⟨other, found,
      values entry.1 entry.2 other ((Attributes.get?_eq_some_iff distinct).mpr member) found⟩

/-! ## Symmetry and transitivity -/

theorem same_symm (keyed : left.Keyed) (equal : left.same right) : right.same left := by
  induction left using induction_parts generalizing right with
  | step value ih =>
      have each (part : Value) (member : part ∈ value.parts) (other : Value)
          (partEqual : part.same other) : other.same part :=
        ih part member (keyed.inside member) partEqual
      cases value with
      | float number =>
          cases right with
          | float other =>
              rw [same] at equal ⊢
              exact Binary64.equal_symm equal
          | _ => cases type_eq_of_same equal
      | list items =>
          cases right with
          | list others =>
              rw [same_list_iff] at equal ⊢
              have both := (List.forall₂_and_left items others).mpr ⟨each, equal⟩
              apply List.Forall₂.flip
              exact both.imp fun item other holds => holds.1 other holds.2
          | _ => cases type_eq_of_same equal
      | map entries =>
          cases right with
          | map others =>
              have distinct : (entries.map (·.1)).Nodup := keyed.here
              have otherDistinct := (perm_keys_of_same distinct equal).nodup_iff.mp distinct
              rw [same_map_iff_get? distinct otherDistinct] at equal
              rw [same_map_iff_get? otherDistinct distinct]
              refine ⟨fun key => (equal.1 key).symm, ?_⟩
              intro key value other found otherFound
              apply each other _ value (equal.2 key other value otherFound found)
              exact List.mem_map_of_mem (Attributes.mem_of_get?_eq_some otherFound)
          | _ => cases type_eq_of_same equal
      | _ =>
          rw [same_iff_eq_of_plain rfl (by simp [type])] at equal
          rw [← equal, same_iff_eq_of_plain rfl (by simp [type])]

theorem same_comm (leftKeyed : left.Keyed) (rightKeyed : right.Keyed) :
    left.same right = right.same left := by
  apply Bool.eq_iff_iff.mpr
  exact ⟨same_symm leftKeyed, same_symm rightKeyed⟩

theorem forall₂_same_trans {firsts seconds thirds : List Value}
    (each : ∀ first ∈ firsts, ∀ second third, first.same second → second.same third →
      first.same third)
    (equal : List.Forall₂ (·.same ·) firsts seconds)
    (next : List.Forall₂ (·.same ·) seconds thirds) : List.Forall₂ (·.same ·) firsts thirds := by
  induction equal generalizing thirds with
  | nil => exact next
  | cons head _ ih =>
      cases next with
      | cons nextHead nextTail =>
          apply List.Forall₂.cons
          · exact each _ List.mem_cons_self _ _ head nextHead
          · exact ih (fun first member => each first (List.mem_cons_of_mem _ member)) nextTail

theorem same_trans (equal : first.same second) (next : second.same third) : first.same third := by
  induction first using induction_parts generalizing second third with
  | step value ih =>
      have types := type_eq_of_same equal
      have nextTypes := type_eq_of_same next
      cases value with
      | float number =>
          cases second with
          | float other =>
              cases third with
              | float last =>
                  rw [same] at equal next ⊢
                  exact Binary64.equal_trans equal next
              | _ => cases nextTypes
          | _ => cases types
      | list items =>
          cases second with
          | list others =>
              cases third with
              | list lasts =>
                  rw [same_list_iff] at equal next ⊢
                  exact forall₂_same_trans (fun item member _ _ => ih item member) equal next
              | _ => cases nextTypes
          | _ => cases types
      | map entries =>
          cases second with
          | map others =>
              cases third with
              | map lasts =>
                  rw [same_map_iff] at equal next ⊢
                  refine ⟨equal.1.trans next.1, ?_⟩
                  intro entry member
                  rcases equal.2 entry member with ⟨other, found, valueEqual⟩
                  rcases next.2 _ (Attributes.mem_of_get?_eq_some found) with
                    ⟨last, lastFound, nextEqual⟩
                  exact ⟨last, lastFound, ih entry.2 (List.mem_map_of_mem member) valueEqual nextEqual⟩
              | _ => cases nextTypes
          | _ => cases types
      | _ =>
          rw [same_iff_eq_of_plain rfl (by simp [type])] at equal
          rwa [equal]

/-! ## Reflexivity -/

/-- The value itself is a number or no floating-point number at all, whatever its parts. -/
def NumericHere : Value → Prop
  | .float number => number.isNaN = false
  | _ => True

/-- Nowhere inside the value there is a floating-point number that is not a number. -/
def Numeric : Value → Prop :=
  Everywhere NumericHere

theorem same_self_iff_parts (keyed : left.KeyedHere) :
    left.same left ↔ left.NumericHere ∧ ∀ part ∈ left.parts, part.same part := by
  cases left with
  | float number => simp [same, NumericHere, parts, Binary64.equal_self_iff]
  | list items => simp [same_list_iff, NumericHere, parts]
  | map entries =>
      have found (entry : String × Value) (member : entry ∈ entries) :
          Attributes.get? entry.1 entries = some entry.2 :=
        (Attributes.get?_eq_some_iff keyed).mpr member
      have each : (∀ entry ∈ entries, ∃ other,
          Attributes.get? entry.1 entries = some other ∧ entry.2.same other) ↔
            ∀ entry ∈ entries, entry.2.same entry.2 := by
        refine forall₂_congr fun entry member => ?_
        simp [found entry member]
      rw [same_map_iff, each]
      simp only [NumericHere, parts, List.forall_mem_map, true_and]
  | _ => simp [same, NumericHere, parts]

theorem same_self_iff (keyed : left.Keyed) : left.same left ↔ left.Numeric := by
  induction left using induction_parts with
  | step value ih =>
      rw [same_self_iff_parts keyed.here, Numeric, everywhere_iff]
      refine and_congr_right fun _ => forall₂_congr ?_
      intro part member
      exact ih part member (keyed.inside member)

/-! ## Other orders of insertion -/

/-- The second value is the first one with the entries of maps in other orders, at any depth. -/
inductive Reordered : Value → Value → Prop where
  | unchanged (value : Value) : Reordered value value
  | list {items others : List Value} (sizes : items.length = others.length)
      (each : ∀ (index : Nat) (item other : Value), items[index]? = some item →
        others[index]? = some other → Reordered item other) :
      Reordered (.list items) (.list others)
  | map {entries others : List (String × Value)}
      (keys : (entries.map (·.1)).Perm (others.map (·.1)))
      (each : ∀ (key : String) (value other : Value), Attributes.get? key entries = some value →
        Attributes.get? key others = some other → Reordered value other) :
      Reordered (.map entries) (.map others)

/-- Maps to which the same entries were added in different orders. -/
theorem Reordered.of_perm {entries others : List (String × Value)}
    (distinct : (entries.map (·.1)).Nodup) (perm : entries.Perm others) :
    (Value.map entries).Reordered (.map others) := by
  apply Reordered.map (perm.map _)
  intro key value other found otherFound
  have member := perm.mem_iff.mpr (Attributes.mem_of_get?_eq_some otherFound)
  rw [(Attributes.get?_eq_some_iff distinct).mpr member, Option.some.injEq] at found
  rw [found]
  exact .unchanged value

theorem Reordered.keyed (reordered : left.Reordered right) (keyed : left.Keyed) : right.Keyed := by
  induction reordered with
  | unchanged value => exact keyed
  | @list items others sizes each ih =>
      apply Everywhere.intro trivial
      intro other member
      rcases List.getElem?_of_mem (show other ∈ others from member) with ⟨index, found⟩
      have within : index < items.length := by
        rw [sizes]
        exact (List.getElem?_eq_some_iff.mp found).1
      apply ih index items[index] other (List.getElem?_eq_getElem within) found
      exact keyed.inside (List.getElem_mem within)
  | @map entries others keys each ih =>
      have distinct : (entries.map (·.1)).Nodup := keyed.here
      have otherDistinct : (others.map (·.1)).Nodup := keys.nodup_iff.mp distinct
      apply Everywhere.intro otherDistinct
      intro other member
      rcases List.mem_map.mp (show other ∈ others.map (·.2) from member) with
        ⟨⟨key, _⟩, entryMember, rfl⟩
      have known : key ∈ entries.map (·.1) := keys.mem_iff.mpr (List.mem_map_of_mem entryMember)
      rcases Option.isSome_iff_exists.mp (Attributes.isSome_get?_iff.mpr known) with ⟨value, found⟩
      apply ih key value _ found ((Attributes.get?_eq_some_iff otherDistinct).mpr entryMember)
      exact keyed.inside (List.mem_map_of_mem (Attributes.mem_of_get?_eq_some found))

theorem Reordered.symm (reordered : left.Reordered right) : right.Reordered left := by
  induction reordered with
  | unchanged value => exact .unchanged value
  | list sizes _ ih =>
      exact .list sizes.symm fun index other item otherFound found =>
        ih index item other found otherFound
  | map keys _ ih =>
      exact .map keys.symm fun key other value otherFound found =>
        ih key value other found otherFound

/-- What equals a value equals it also with other orders of insertion. -/
theorem Reordered.same_of_same (reordered : left.Reordered right) (keyed : left.Keyed)
    (firstKeyed : first.Keyed) (equal : first.same left) : first.same right := by
  induction reordered generalizing first with
  | unchanged value => exact equal
  | @list items others sizes _ ih =>
      cases first with
      | list firsts =>
          rw [same_list_iff, List.forall₂_iff_get] at equal ⊢
          refine ⟨equal.1.trans sizes, ?_⟩
          intro index within otherWithin
          have itemWithin : index < items.length := sizes ▸ otherWithin
          apply ih index items[index] _ (List.getElem?_eq_getElem itemWithin)
            (List.getElem?_eq_getElem otherWithin)
          · exact keyed.inside (List.getElem_mem itemWithin)
          · exact firstKeyed.inside (List.getElem_mem within)
          · exact equal.2 index within itemWithin
      | _ => cases type_eq_of_same equal
  | @map entries others keys _ ih =>
      cases first with
      | map firsts =>
          have firstDistinct : (firsts.map (·.1)).Nodup := firstKeyed.here
          have distinct : (entries.map (·.1)).Nodup := keyed.here
          have otherDistinct : (others.map (·.1)).Nodup := keys.nodup_iff.mp distinct
          rw [same_map_iff_get? firstDistinct distinct] at equal
          rw [same_map_iff_get? firstDistinct otherDistinct]
          refine ⟨fun key => (equal.1 key).trans keys.mem_iff, ?_⟩
          intro key value other found otherFound
          have known : key ∈ entries.map (·.1) := by
            rw [keys.mem_iff, ← Attributes.isSome_get?_iff, otherFound]
            rfl
          rcases Option.isSome_iff_exists.mp (Attributes.isSome_get?_iff.mpr known) with
            ⟨middle, middleFound⟩
          apply ih key middle other middleFound otherFound
          · exact keyed.inside (List.mem_map_of_mem (Attributes.mem_of_get?_eq_some middleFound))
          · exact firstKeyed.inside (List.mem_map_of_mem (Attributes.mem_of_get?_eq_some found))
          · exact equal.2 key value middle found middleFound
      | _ => cases type_eq_of_same equal

theorem Reordered.same_eq (reordered : left.Reordered right) (keyed : left.Keyed)
    (firstKeyed : first.Keyed) : first.same right = first.same left := by
  apply Bool.eq_iff_iff.mpr
  constructor
  · exact reordered.symm.same_of_same (reordered.keyed keyed) firstKeyed
  · exact reordered.same_of_same keyed firstKeyed

/-! ## Equivalence -/

/-- How two values are compared, with each other and with further ones. -/
structure ComparedByContent (left right : Value) : Prop where
  symmetric : left.same right = right.same left
  transitive : ∀ third, left.same right → right.same third → left.same third
  reflexive : left.same left ↔ left.Numeric
  typed : left.type ≠ right.type → left.same right = false
  plain : left.parts = [] → left.type ≠ .float → (left.same right ↔ left = right)
  lists : ∀ items others, left = .list items → right = .list others →
    (left.same right ↔ List.Forall₂ (·.same ·) items others)
  /-- Maps are equal if they have the same keys, and equal values under them. -/
  maps : ∀ entries others, left = .map entries → right = .map others →
    (left.same right ↔
      (∀ key, key ∈ entries.map (·.1) ↔ key ∈ others.map (·.1)) ∧
        ∀ key value other, Attributes.get? key entries = some value →
          Attributes.get? key others = some other → value.same other)
  /-- The orders of insertion do not matter, at whatever depth. -/
  reordered : ∀ other, right.Reordered other → left.same other = left.same right

/-- Equality of content is an equivalence, except for what is not a number. -/
theorem same_isEquivalence (leftKeyed : left.Keyed) (rightKeyed : right.Keyed) :
    left.ComparedByContent right where
  symmetric := same_comm leftKeyed rightKeyed
  transitive := fun _ => same_trans
  reflexive := same_self_iff leftKeyed
  typed := by
    intro different
    rw [Bool.eq_false_iff]
    exact fun equal => different (type_eq_of_same equal)
  plain := same_iff_eq_of_plain
  lists := by
    rintro items others rfl rfl
    exact same_list_iff
  maps := by
    rintro entries others rfl rfl
    exact same_map_iff_get? leftKeyed.here rightKeyed.here
  reordered := fun _ reordered => reordered.same_eq rightKeyed leftKeyed

/-- Two zeros of different signs, and a map inside a list inside a map. -/
def signedSample : Value :=
  .map [("places", .list [.float ⟨0x8000000000000000⟩, .map [("x", .int 1), ("y", .bool true)]]),
    ("name", .string "a")]

/-- The same content, inserted in other orders, and without a sign. -/
def unsignedEntries : Attributes :=
  [("name", .string "a"), ("places", .list [.float ⟨0⟩, .map [("y", .bool true), ("x", .int 1)]])]

theorem same_isEquivalence_signedSample :
    signedSample.Keyed ∧ (Value.map unsignedEntries).Keyed ∧
      signedSample.ComparedByContent (.map unsignedEntries) ∧
      signedSample.same (.map unsignedEntries) ∧
      signedSample.same (.map unsignedEntries.reverse) := by
  have int (number : Int64) : (Value.int number).Keyed := keyed_of_plain rfl
  have float (number : Binary64) : (Value.float number).Keyed := keyed_of_plain rfl
  have bool (truth : Bool) : (Value.bool truth).Keyed := keyed_of_plain rfl
  have string (text : String) : (Value.string text).Keyed := keyed_of_plain rfl
  have signedKeyed : signedSample.Keyed := by
    simp [signedSample, keyed_list_iff, keyed_map_iff, int, float, bool, string]
  have unsignedKeyed : (Value.map unsignedEntries).Keyed := by
    simp [unsignedEntries, keyed_list_iff, keyed_map_iff, int, float, bool, string]
  have compared := same_isEquivalence signedKeyed unsignedKeyed
  have equal : signedSample.same (.map unsignedEntries) := by decide
  have reversed : (Value.map unsignedEntries).Reordered (.map unsignedEntries.reverse) :=
    Reordered.of_perm unsignedKeyed.here (List.reverse_perm _).symm
  refine ⟨signedKeyed, unsignedKeyed, compared, equal, ?_⟩
  rw [compared.reordered _ reversed]
  exact equal

/-- What is not a number breaks reflexivity from any depth. -/
example : (Value.map [("a", .list [.float ⟨0x7FF8000000000000⟩])]).same
    (.map [("a", .list [.float ⟨0x7FF8000000000000⟩])]) = false := by
  decide

end Value

end Resemblance
