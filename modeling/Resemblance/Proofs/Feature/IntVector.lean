import Resemblance.Feature.IntVector
import Resemblance.Proofs.Feature.Codes

/-!
# Distances of vectors

The distance of two vectors of one dimension is a sum over the positions, and each term is the
difference of two numbers. So it is a metric, because the difference of two numbers is one. A
difference takes up to 32 bits and is exact in words of 64 bits; as long as there are fewer than
2 ^ 32 positions, their sum is exact in such words, too.

A vector that is fitted to a dimension keeps its components at the positions of that dimension, and
a position behind the end of a vector counts as zero before and after. The distance of two fitted
vectors is therefore the same sum, over the positions of the dimension.
-/

namespace Resemblance

namespace IntVector

variable {left right : List Int32} {dimension position count distance : Nat}

/-! ## Differences at a position -/

/-- The difference of two vectors at a position; components behind the end are zero. -/
def difference (left right : List Int32) (position : Nat) : Nat :=
  ((left.getD position 0).toInt - (right.getD position 0).toInt).natAbs

theorem difference_comm (left right : List Int32) (position : Nat) :
    difference left right position = difference right left position := by
  rw [difference, ← Int.natAbs_neg, Int.neg_sub, difference]

theorem difference_triangle (left middle right : List Int32) (position : Nat) :
    difference left right position ≤
      difference left middle position + difference middle right position := by
  rw [difference, difference, difference]
  omega

theorem difference_eq_zero_iff :
    difference left right position = 0 ↔ left.getD position 0 = right.getD position 0 := by
  rw [difference, Int.natAbs_eq_zero, Int.sub_eq_zero, Int32.toInt_inj]

theorem difference_lt (left right : List Int32) (position : Nat) :
    difference left right position < 2 ^ 32 := by
  have leftLower := (left.getD position 0).le_toInt
  have leftUpper := (left.getD position 0).toInt_lt
  have rightLower := (right.getD position 0).le_toInt
  have rightUpper := (right.getD position 0).toInt_lt
  rw [difference]
  omega

theorem difference_eq_zero_of_length_le (leftEnds : left.length ≤ position)
    (rightEnds : right.length ≤ position) : difference left right position = 0 := by
  rw [difference_eq_zero_iff, List.getD_eq_default _ _ leftEnds,
    List.getD_eq_default _ _ rightEnds]

/-! ## The distance -/

theorem distance?_eq_some_iff :
    distance? left right = some distance ↔
      left.length = right.length ∧
        ∑ position ∈ Finset.range left.length, difference left right position = distance := by
  rw [distance?]
  by_cases sizes : left.length = right.length
  · rw [if_pos sizes, Option.some.injEq, sum_zipWith_eq _ 0 sizes]
    exact (and_iff_right sizes).symm
  · rw [if_neg sizes]
    exact iff_of_false (Option.some_ne_none distance).symm fun equal => sizes equal.1

theorem distance?_eq (sizes : left.length = right.length) :
    distance? left right =
      some (∑ position ∈ Finset.range left.length, difference left right position) :=
  distance?_eq_some_iff.mpr ⟨sizes, rfl⟩

theorem distance?_eq_none (sizes : left.length ≠ right.length) : distance? left right = none :=
  if_neg sizes

theorem distance?_comm (left right : List Int32) : distance? left right = distance? right left := by
  by_cases sizes : left.length = right.length
  · rw [distance?_eq sizes, distance?_eq sizes.symm, sizes]
    simp only [difference_comm left right]
  · rw [distance?_eq_none sizes, distance?_eq_none (Ne.symm sizes)]

theorem distance?_eq_zero_iff : distance? left right = some 0 ↔ left = right := by
  rw [distance?_eq_some_iff, Finset.sum_eq_zero_iff]
  constructor
  · rintro ⟨sizes, same⟩
    apply List.ext_getElem sizes
    intro position leftLt rightLt
    have equal := difference_eq_zero_iff.mp (same position (Finset.mem_range.mpr leftLt))
    rwa [List.getD_eq_getElem _ _ leftLt, List.getD_eq_getElem _ _ rightLt] at equal
  · rintro rfl
    exact ⟨rfl, fun position _ => difference_eq_zero_iff.mpr rfl⟩

theorem sum_difference_triangle (left middle right : List Int32) (count : Nat) :
    ∑ position ∈ Finset.range count, difference left right position ≤
      ∑ position ∈ Finset.range count, difference left middle position +
        ∑ position ∈ Finset.range count, difference middle right position := by
  rw [← Finset.sum_add_distrib]
  exact Finset.sum_le_sum fun position _ => difference_triangle left middle right position

theorem sum_difference_lt (left right : List Int32) (short : count < 2 ^ 32) :
    ∑ position ∈ Finset.range count, difference left right position < UInt64.size := by
  have bound : ∑ position ∈ Finset.range count, difference left right position ≤
      count * (2 ^ 32 - 1) := by
    have each := Finset.sum_le_card_nsmul (Finset.range count) (difference left right) (2 ^ 32 - 1)
      fun position _ => Nat.le_pred_of_lt (difference_lt left right position)
    rwa [Finset.card_range, smul_eq_mul] at each
  change _ < 2 ^ 64
  omega

/-! ## Machine words -/

/-- The difference of two components as a subtraction of 64-bit numbers gives it. -/
def wordDifference (x y : Int32) : UInt64 :=
  (x.toInt64 - y.toInt64).toInt.natAbs.toUInt64

/-- The distance as it comes out of additions modulo 2 ^ 64. -/
def wordDistance (left right : List Int32) : UInt64 :=
  (left.zipWith wordDifference right).foldl (· + ·) 0

theorem toNat_wordDifference (x y : Int32) :
    (wordDifference x y).toNat = (x.toInt - y.toInt).natAbs := by
  have xLower := x.le_toInt
  have xUpper := x.toInt_lt
  have yLower := y.le_toInt
  have yUpper := y.toInt_lt
  have exact_sub : (x.toInt64 - y.toInt64).toInt = x.toInt - y.toInt := by
    rw [Int64.toInt_sub, Int32.toInt_toInt64, Int32.toInt_toInt64]
    apply Int.bmod_eq_of_le <;> omega
  rw [wordDifference, exact_sub]
  apply UInt64.toNat_ofNat_of_lt'
  change _ < 2 ^ 64
  omega

/-- Additions of words are exact as long as the exact sum is a word. -/
theorem toNat_foldl_add (words : List UInt64) (start : UInt64)
    (fits : start.toNat + (words.map UInt64.toNat).sum < UInt64.size) :
    (words.foldl (· + ·) start).toNat = start.toNat + (words.map UInt64.toNat).sum := by
  induction words generalizing start with
  | nil => rfl
  | cons word words ih =>
      rw [List.map_cons, List.sum_cons, ← Nat.add_assoc] at fits ⊢
      have next : (start + word).toNat = start.toNat + word.toNat := by
        rw [UInt64.toNat_add]
        apply Nat.mod_eq_of_lt
        change _ < UInt64.size
        omega
      rw [List.foldl_cons, ih (start + word) (by rwa [next]), next]

theorem toNat_wordDistance (found : distance? left right = some distance)
    (fits : distance < UInt64.size) : (wordDistance left right).toNat = distance := by
  have exact_sum : ((left.zipWith wordDifference right).map UInt64.toNat).sum = distance := by
    rcases distance?_eq_some_iff.mp found with ⟨sizes, rfl⟩
    rw [List.map_zipWith, List.sum_eq_foldr, sum_zipWith_eq _ 0 sizes]
    simp only [toNat_wordDifference]
    rfl
  have sum := toNat_foldl_add (left.zipWith wordDifference right) 0
  rw [exact_sum, UInt64.toNat_zero, Nat.zero_add] at sum
  exact sum fits

/-! ## Fitting -/

theorem length_fit (dimension : Nat) (vector : List Int32) :
    (fit dimension vector).length = dimension := by
  rw [fit, List.length_append, List.length_take, List.length_replicate]
  omega

theorem fit_of_length_eq {vector : List Int32} (size : vector.length = dimension) :
    fit dimension vector = vector := by
  rw [fit, ← size, List.take_length, Nat.sub_self, List.replicate_zero, List.append_nil]

theorem getD_fit (vector : List Int32) (position_lt : position < dimension) :
    (fit dimension vector).getD position 0 = vector.getD position 0 := by
  have fitted_lt : position < (fit dimension vector).length := by
    rwa [length_fit]
  rw [List.getD_eq_getElem _ _ fitted_lt]
  simp only [fit, List.getElem_append, List.length_take, List.getElem_take, List.getElem_replicate]
  split
  · rw [List.getD_eq_getElem]
  · rw [List.getD_eq_default]
    omega

theorem distance?_fit (dimension : Nat) (left right : List Int32) :
    distance? (fit dimension left) (fit dimension right) =
      some (∑ position ∈ Finset.range dimension, difference left right position) := by
  rw [distance?_eq (by rw [length_fit, length_fit]), length_fit]
  refine congrArg some (Finset.sum_congr rfl ?_)
  intro position member
  have position_lt := Finset.mem_range.mp member
  rw [difference, getD_fit left position_lt, getD_fit right position_lt, difference]

/-- Positions behind the end of two vectors add nothing. -/
theorem sum_difference_of_length_le (sizes : left.length = right.length)
    (ends : left.length ≤ dimension) :
    ∑ position ∈ Finset.range dimension, difference left right position =
      ∑ position ∈ Finset.range left.length, difference left right position := by
  symm
  apply Finset.sum_subset (Finset.range_subset_range.mpr ends)
  intro position _ behind
  rw [Finset.mem_range, Nat.not_lt] at behind
  exact difference_eq_zero_of_length_le behind (sizes ▸ behind)

theorem sum_difference_le (sizes : left.length = right.length) (dimension : Nat) :
    ∑ position ∈ Finset.range dimension, difference left right position ≤
      ∑ position ∈ Finset.range left.length, difference left right position := by
  rcases Nat.le_total left.length dimension with ends | longer
  · exact (sum_difference_of_length_le sizes ends).le
  · apply Finset.sum_le_sum_of_subset
    exact Finset.range_subset_range.mpr longer

/-! ## The metric -/

/-- What the distance of two vectors tells, and that machine words compute it. -/
structure IsDistance (left right : List Int32) (distance : Nat) : Prop where
  symm : distance? right left = some distance
  zero_iff : distance = 0 ↔ left = right
  triangle : ∀ middle : List Int32, middle.length = left.length →
    ∃ first second, distance? left middle = some first ∧ distance? middle right = some second ∧
      distance ≤ first + second
  /-- No sum on the way is out of the range of 64 bits. -/
  fits : ∀ count, ∃ partialSum,
    distance? (left.take count) (right.take count) = some partialSum ∧ partialSum < UInt64.size
  words : (wordDistance left right).toNat = distance

theorem isDistance (sizes : left.length = right.length) (short : left.length < 2 ^ 32) :
    IsDistance left right
      (∑ position ∈ Finset.range left.length, difference left right position) where
  symm := by
    rw [distance?_comm]
    exact distance?_eq sizes
  zero_iff := by
    rw [← distance?_eq_zero_iff, distance?_eq sizes, Option.some.injEq]
  triangle := by
    intro middle middleSize
    refine ⟨_, _, distance?_eq middleSize.symm, distance?_eq (middleSize.trans sizes), ?_⟩
    rw [middleSize]
    exact sum_difference_triangle left middle right left.length
  fits := by
    intro count
    refine ⟨_, distance?_eq ?_, sum_difference_lt _ _ ?_⟩
    · rw [List.length_take, List.length_take, sizes]
    · exact (List.length_take_le' count left).trans_lt short
  words := toNat_wordDistance (distance?_eq sizes) (sum_difference_lt left right short)

/-- What fitting two vectors does to their distance. -/
structure IsFitted (dimension : Nat) (left right : List Int32) (fitted : Nat) : Prop where
  found : distance? (fit dimension left) (fit dimension right) = some fitted
  /-- Vectors that have a distance are not moved apart. -/
  le : ∀ distance, distance? left right = some distance → fitted ≤ distance
  /-- Their distance stays the same if nothing is cut off. -/
  eq_of_length_le : ∀ distance, distance? left right = some distance →
    left.length ≤ dimension → fitted = distance

theorem isFitted (dimension : Nat) (left right : List Int32) :
    IsFitted dimension left right
      (∑ position ∈ Finset.range dimension, difference left right position) where
  found := distance?_fit dimension left right
  le := by
    intro distance found
    rcases distance?_eq_some_iff.mp found with ⟨sizes, rfl⟩
    exact sum_difference_le sizes dimension
  eq_of_length_le := by
    intro distance found ends
    rcases distance?_eq_some_iff.mp found with ⟨sizes, rfl⟩
    exact sum_difference_of_length_le sizes ends

/--
The distance is a metric on the vectors of a dimension, exact in machine words; vectors that are
fitted to a dimension always have one, and fitting does not make it greater.
-/
theorem distance?_isMetric :
    (∀ left right : List Int32, left.length ≠ right.length → distance? left right = none) ∧
    (∀ left right : List Int32, left.length = right.length → left.length < 2 ^ 32 →
      ∃ distance, distance? left right = some distance ∧ IsDistance left right distance) ∧
    (∀ (dimension : Nat) (vector : List Int32), (fit dimension vector).length = dimension ∧
      fit dimension (fit dimension vector) = fit dimension vector) ∧
    ∀ (dimension : Nat) (left right : List Int32), ∃ fitted,
      IsFitted dimension left right fitted := by
  refine ⟨?_, ?_, ?_, ?_⟩
  · exact fun left right sizes => distance?_eq_none sizes
  · intro left right sizes short
    exact ⟨_, distance?_eq sizes, isDistance sizes short⟩
  · intro dimension vector
    exact ⟨length_fit dimension vector, fit_of_length_eq (length_fit dimension vector)⟩
  · exact fun dimension left right => ⟨_, isFitted dimension left right⟩

/-- The greatest difference of two components, cut off by fitting and kept by it. -/
theorem distance?_isMetric_extremes :
    [5, Int32.minValue].length = [5, Int32.maxValue].length ∧
      [5, Int32.minValue].length < 2 ^ 32 ∧
      IsDistance [5, Int32.minValue] [5, Int32.maxValue] 4294967295 ∧
      IsFitted 1 [5, Int32.minValue] [5, Int32.maxValue] 0 ∧
      IsFitted 3 [5, Int32.minValue] [5, Int32.maxValue] 4294967295 := by
  rcases distance?_isMetric with ⟨_, metric, _, fitting⟩
  have sizes : [5, Int32.minValue].length = [5, Int32.maxValue].length := by decide
  have short : [5, Int32.minValue].length < 2 ^ 32 := by decide
  have extreme : distance? [5, Int32.minValue] [5, Int32.maxValue] = some 4294967295 := by
    decide +kernel
  rcases metric _ _ sizes short with ⟨distance, found, isDistance⟩
  rcases fitting 1 [5, Int32.minValue] [5, Int32.maxValue] with ⟨cut, cutFitted⟩
  rcases fitting 3 [5, Int32.minValue] [5, Int32.maxValue] with ⟨kept, keptFitted⟩
  have cut_eq : some cut = some 0 := by
    rw [← cutFitted.found]
    decide +kernel
  have kept_eq := keptFitted.eq_of_length_le _ extreme (by decide)
  rw [extreme, Option.some.injEq] at found
  rw [Option.some.injEq] at cut_eq
  subst found cut_eq kept_eq
  exact ⟨sizes, short, isDistance, cutFitted, keptFitted⟩

end IntVector

end Resemblance
