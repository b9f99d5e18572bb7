import Mathlib

/-!
# The order of floating-point numbers

Numbers are compared by their sign, then by their exponent, then by their significand, and what is
not a number is comparable to nothing. So each number has a place in a linear order, `Score.place`,
and all facts about comparisons follow from the order of the places. Only the two zeros share a
place.
-/

namespace Resemblance

namespace Score

open Float.Model

/-- The place of a number: its sign, its exponent and its significand, both reversed below zero. -/
def placeOf : UnpackedFloat → Option (Int ×ₗ Int ×ₗ Int)
  | .notANumber => none
  | .infinity .negative => some (toLex (-2, toLex (0, 0)))
  | .finite .negative significand exponent _ =>
      some (toLex (-1, toLex (-exponent, -significand)))
  | .zero _ => some (toLex (0, toLex (0, 0)))
  | .finite .positive significand exponent _ => some (toLex (1, toLex (exponent, significand)))
  | .infinity .positive => some (toLex (2, toLex (0, 0)))

def place (score : Float) : Option (Int ×ₗ Int ×ₗ Int) :=
  placeOf score.toModel.unpack

/-- Within one sign above zero, the exponents decide, then the significands. -/
theorem compare_magnitudes (sign low high : Int) (few many : Nat) :
    compare (toLex (sign, toLex (low, (few : Int)))) (toLex (sign, toLex (high, (many : Int)))) =
      (compare low high).then (compare few many) := by
  have significands : compare (few : Int) (many : Int) = compare few many := by
    simp [compare, compareOfLessAndEq]
  simp [Prod.Lex.compare_def, compareLex, compareOn, significands]

theorem compare_negated (first second : Int) :
    compare (-first) (-second) = (compare first second).swap := by
  rw [← Std.OrientedOrd.eq_swap]
  simp [compare, compareOfLessAndEq, eq_comm]

/-- Within one sign below zero, the order is the other way round. -/
theorem compare_negated_magnitudes (sign low high : Int) (few many : Nat) :
    compare (toLex (sign, toLex (-low, -(few : Int)))) (toLex (sign, toLex (-high, -(many : Int)))) =
      ((compare low high).then (compare few many)).swap := by
  rw [Ordering.swap_then, ← compare_negated low high]
  have significands : compare (-(few : Int)) (-(many : Int)) = (compare few many).swap := by
    rw [compare_negated]
    simp [compare, compareOfLessAndEq]
  simp [Prod.Lex.compare_def, compareLex, compareOn, significands]

theorem compare_eq (left right : UnpackedFloat) :
    left.compare right = (placeOf left).bind fun low => (placeOf right).map (compare low) := by
  rcases left with (_ | _) | _ | _ | ⟨_ | _, _, _, _⟩ <;>
    rcases right with (_ | _) | _ | _ | ⟨_ | _, _, _, _⟩ <;>
    first
      | rfl
      | exact congrArg some (compare_magnitudes ..).symm
      | exact congrArg some (compare_negated_magnitudes ..).symm

theorem lt_iff {left right : Float} :
    left < right ↔ ∃ low high, place left = some low ∧ place right = some high ∧ low < high := by
  have unpacked : left < right ↔
      left.toModel.unpack.compare right.toModel.unpack = some .lt := by
    change decide ((_ == some Ordering.lt) = true) = true ↔ _
    simp
  rw [unpacked, compare_eq, place, place]
  cases placeOf left.toModel.unpack <;> cases placeOf right.toModel.unpack <;>
    simp [compare_lt_iff_lt]

theorem le_iff {left right : Float} :
    left ≤ right ↔ ∃ low high, place left = some low ∧ place right = some high ∧ low ≤ high := by
  have unpacked : left ≤ right ↔
      (left.toModel.unpack.compare right.toModel.unpack).any Ordering.isLE = true := by
    change decide (Option.any _ _ = true) = true ↔ _
    simp
  rw [unpacked, compare_eq, place, place]
  cases placeOf left.toModel.unpack <;> cases placeOf right.toModel.unpack <;>
    simp [Ordering.isLE_iff_ne_gt, compare_le_iff_le]

theorem exists_place_iff {score : Float} :
    (∃ here, place score = some here) ↔ score.isNaN = false := by
  change _ ↔ score.toModel.unpack.isNaN = false
  rw [place]
  rcases score.toModel.unpack with (_ | _) | _ | _ | ⟨_ | _, _, _, _⟩ <;>
    simp [placeOf, UnpackedFloat.isNaN]

/-- What is not a number is the only thing that does not equal itself. -/
theorem beq_self_iff {score : Float} : (score == score) = true ↔ score.isNaN = false := by
  change (score.toModel.unpack.compare score.toModel.unpack == some .eq) = true ↔ _
  rw [compare_eq, ← exists_place_iff, place]
  cases placeOf score.toModel.unpack with
  | none => simp
  | some here => simp

protected theorem zero_lt_one : (0 : Float) < 1 := by
  decide +kernel

/-! ## Chains of comparisons -/

variable {low middle high : Float}

protected theorem lt_irrefl (score : Float) : ¬score < score := by
  rw [lt_iff]
  rintro ⟨here, there, found, again, less⟩
  rw [found, Option.some.injEq] at again
  exact less.ne again

protected theorem le_of_lt (less : low < high) : low ≤ high := by
  rw [lt_iff] at less
  rw [le_iff]
  rcases less with ⟨here, there, found, beyond, before⟩
  exact ⟨here, there, found, beyond, before.le⟩

protected theorem le_trans (first : low ≤ middle) (second : middle ≤ high) : low ≤ high := by
  rw [le_iff] at first second ⊢
  rcases first with ⟨start, here, found, reached, before⟩
  rcases second with ⟨again, there, same, beyond, after⟩
  rw [reached, Option.some.injEq] at same
  subst same
  exact ⟨start, there, found, beyond, before.trans after⟩

protected theorem lt_of_lt_of_le (first : low < middle) (second : middle ≤ high) : low < high := by
  rw [lt_iff] at first ⊢
  rw [le_iff] at second
  rcases first with ⟨start, here, found, reached, before⟩
  rcases second with ⟨again, there, same, beyond, after⟩
  rw [reached, Option.some.injEq] at same
  subst same
  exact ⟨start, there, found, beyond, before.trans_le after⟩

protected theorem lt_of_le_of_lt (first : low ≤ middle) (second : middle < high) : low < high := by
  rw [le_iff] at first
  rw [lt_iff] at second ⊢
  rcases first with ⟨start, here, found, reached, before⟩
  rcases second with ⟨again, there, same, beyond, after⟩
  rw [reached, Option.some.injEq] at same
  subst same
  exact ⟨start, there, found, beyond, before.trans_lt after⟩

protected theorem lt_trans (first : low < middle) (second : middle < high) : low < high :=
  Score.lt_of_lt_of_le first (Score.le_of_lt second)

theorem isNaN_of_lt (less : low < high) : low.isNaN = false ∧ high.isNaN = false := by
  rw [lt_iff] at less
  rcases less with ⟨here, there, found, beyond, _⟩
  exact ⟨exists_place_iff.mp ⟨here, found⟩, exists_place_iff.mp ⟨there, beyond⟩⟩

theorem isNaN_of_le (atMost : low ≤ high) : low.isNaN = false ∧ high.isNaN = false := by
  rw [le_iff] at atMost
  rcases atMost with ⟨here, there, found, beyond, _⟩
  exact ⟨exists_place_iff.mp ⟨here, found⟩, exists_place_iff.mp ⟨there, beyond⟩⟩

/-- Numbers are either in order or in strict order the other way round. -/
protected theorem le_of_not_lt (lowNumber : low.isNaN = false) (highNumber : high.isNaN = false)
    (notLess : ¬high < low) : low ≤ high := by
  rcases exists_place_iff.mpr lowNumber with ⟨here, found⟩
  rcases exists_place_iff.mpr highNumber with ⟨there, beyond⟩
  rw [lt_iff] at notLess
  rw [le_iff]
  refine ⟨here, there, found, beyond, ?_⟩
  exact not_lt.mp fun less => notLess ⟨there, here, beyond, found, less⟩

protected theorem lt_of_not_le (lowNumber : low.isNaN = false) (highNumber : high.isNaN = false)
    (notLess : ¬high ≤ low) : low < high := by
  rcases exists_place_iff.mpr lowNumber with ⟨here, found⟩
  rcases exists_place_iff.mpr highNumber with ⟨there, beyond⟩
  rw [le_iff] at notLess
  rw [lt_iff]
  refine ⟨here, there, found, beyond, ?_⟩
  exact not_le.mp fun less => notLess ⟨there, here, beyond, found, less⟩

/-! ## What reaches a threshold -/

/-- What reaches a higher threshold is among what reaches a lower one. -/
theorem filter_raised {Item : Type} (ordered : low ≤ high) (score : Item → Float)
    (items : List Item) :
    (items.filter fun item => high ≤ score item) =
      (items.filter fun item => low ≤ score item).filter fun item => high ≤ score item := by
  rw [List.filter_filter]
  apply List.filter_congr
  intro item _
  by_cases enough : high ≤ score item
  · simp [enough, Score.le_trans ordered enough]
  · simp [enough]

end Score

end Resemblance
