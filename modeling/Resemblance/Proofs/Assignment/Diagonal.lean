import Resemblance.Matching.Comparison
import Resemblance.Proofs.Assignment.Contention

/-!
# Matrices with a diagonal of ones

If no score is greater than 1 and each library element has the score 1 with the application element
at its own position, then pairing equal positions already has the greatest total. An assignment with
that total has a pair for each library element, and each pair has all of its millionths, although
the pairs may be other ones. In each column of such a matrix, the greatest score is 1.
-/

namespace Resemblance

/-- Numbers up to a bound that sum up to all of it are all equal to the bound. -/
theorem eq_of_length_mul_le_sum {numbers : List Nat} {bound : Nat}
    (atMost : ∀ number ∈ numbers, number ≤ bound)
    (enough : numbers.length * bound ≤ numbers.sum) : ∀ number ∈ numbers, number = bound := by
  induction numbers with
  | nil => exact fun _ member => absurd member List.not_mem_nil
  | cons number numbers ih =>
      rcases List.forall_mem_cons.mp atMost with ⟨first_le, others_le⟩
      have others_sum := List.sum_le_card_nsmul numbers bound others_le
      rw [List.length_cons, Nat.succ_mul, List.sum_cons] at enough
      rw [smul_eq_mul] at others_sum
      exact List.forall_mem_cons.mpr ⟨by omega, ih others_le (by omega)⟩

theorem eq_range_of_increasing {numbers : List Nat} (increasing : numbers.Pairwise (· < ·))
    {bound : Nat} (below : ∀ number ∈ numbers, number < bound) (enough : bound ≤ numbers.length) :
    numbers = List.range bound := by
  have within : numbers ⊆ List.range bound := fun number member =>
    List.mem_range.mpr (below number member)
  have distinct : numbers.Nodup := increasing.imp Nat.ne_of_lt
  have permuted := (distinct.subperm within).perm_of_length_le
    (by rwa [List.length_range])
  apply permuted.eq_of_pairwise _ increasing List.pairwise_lt_range
  intro first second _ _ less more
  omega

theorem toFixed_one : toFixed 1 = fixedScale := by
  decide +kernel

namespace Assignment

/-- A square matrix of scores up to one that has ones on its diagonal. -/
structure HasUnitDiagonal (weights : WeightMatrix) : Prop where
  square : ∀ row ∈ weights, row.length = weights.length
  entry_le : ∀ library application, weights.entry library application ≤ 1
  diagonal : ∀ position < weights.length, weights.entry position position = 1

/-- Rows of scores up to one, in which each item scores one with its own mirror image. -/
theorem hasUnitDiagonal_of_forall₂ {Item Image : Type} {mirror : Item → Image}
    {items : List Item} {weights : WeightMatrix}
    (rows : List.Forall₂ (fun item row => List.Forall₂
      (fun image score => score ≤ 1 ∧ (image = mirror item → score = 1)) (items.map mirror) row)
      items weights) : HasUnitDiagonal weights := by
  have size := rows.length_eq
  have rowOf {position : Nat} (inRange : position < weights.length) :=
    rows.get (by rwa [size]) inRange
  constructor
  · intro row member
    rcases List.mem_iff_get.mp member with ⟨position, rfl⟩
    rw [← (rowOf position.isLt).length_eq, List.length_map, size]
  · intro library application
    rw [WeightMatrix.entry]
    by_cases inRange : library < weights.length
    · rw [List.getD_eq_getElem weights [] inRange]
      by_cases inRow : application < weights[library].length
      · rw [List.getD_eq_getElem _ 0 inRow]
        exact ((rowOf inRange).get (by rwa [(rowOf inRange).length_eq]) inRow).1
      · rw [List.getD_eq_default _ 0 (not_lt.mp inRow)]
        exact Score.le_of_lt Score.zero_lt_one
    · rw [List.getD_eq_default weights [] (not_lt.mp inRange)]
      exact Score.le_of_lt Score.zero_lt_one
  · intro position inRange
    have inItems : position < items.length := by rwa [size]
    have inImages : position < (items.map mirror).length := by rwa [List.length_map]
    have inRow : position < (weights.get ⟨position, inRange⟩).length := by
      rwa [← (rowOf inRange).length_eq]
    rw [WeightMatrix.entry, List.getD_eq_getElem weights [] inRange]
    change (weights.get ⟨position, inRange⟩).getD position 0 = 1
    rw [List.getD_eq_getElem _ 0 inRow]
    apply ((rowOf inRange).get inImages inRow).2
    rw [List.get_eq_getElem, List.getElem_map]
    rfl

/-- Nothing is left out: there are as many pairs as elements, with the greatest score. -/
def IsComplete (mode : MatchingMode) (count : Nat) (assignment : Assignment) : Prop :=
  assignment.pairs.length = count ∧
    match mode with
    | .optimal =>
        assignment.pairs.map MatchedPair.library = List.range count ∧
          ∀ pair ∈ assignment.pairs, toFixed pair.score = fixedScale
    | .greedy => ∀ pair ∈ assignment.pairs, pair.score = 1

/-- The positions on the diagonal. -/
def diagonalPositions (count : Nat) : List (Nat × Nat) :=
  (List.range count).map fun position => (position, position)

theorem isMatching_diagonalPositions (count : Nat) :
    IsMatching count count (diagonalPositions count) where
  in_range := by
    intro position member
    rcases List.mem_map.mp member with ⟨number, inRange, rfl⟩
    exact ⟨List.mem_range.mp inRange, List.mem_range.mp inRange⟩
  rows_nodup := by
    rw [diagonalPositions, List.map_map]
    exact List.nodup_range.map fun _ _ => id
  columns_nodup := by
    rw [diagonalPositions, List.map_map]
    exact List.nodup_range.map fun _ _ => id

variable {weights : WeightMatrix}

theorem HasUnitDiagonal.sum_diagonal (unit : HasUnitDiagonal weights) :
    ((diagonalPositions weights.length).map fun position =>
      toFixed (weights.entry position.1 position.2)).sum = weights.length * fixedScale := by
  have ones : ((diagonalPositions weights.length).map fun position =>
      toFixed (weights.entry position.1 position.2)) =
        List.replicate weights.length fixedScale := by
    rw [List.eq_replicate_iff, diagonalPositions, List.length_map, List.length_map,
      List.length_range]
    refine ⟨rfl, ?_⟩
    rw [List.map_map]
    intro millionths member
    rcases List.mem_map.mp member with ⟨position, inRange, rfl⟩
    change toFixed (weights.entry position position) = fixedScale
    rw [unit.diagonal position (List.mem_range.mp inRange), toFixed_one]
  rw [ones, List.sum_replicate, smul_eq_mul]

/-- The pairs of the optimal assignment are in order of library elements in range. -/
theorem libraries_optimal (weights : WeightMatrix) (applicationCount : Nat) :
    ((ofPairs (positivePairs weights (pairedPositions weights applicationCount)) weights.length
        applicationCount).pairs.map MatchedPair.library).Pairwise (· < ·) ∧
      ∀ library ∈ (ofPairs (positivePairs weights (pairedPositions weights applicationCount))
        weights.length applicationCount).pairs.map MatchedPair.library,
        library < weights.length := by
  have matching := isMatching_pairedPositions weights applicationCount
  have positive : IsMatching weights.length applicationCount
      ((positivePairs weights (pairedPositions weights applicationCount)).map
        MatchedPair.position) := by
    rw [positions_positivePairs]
    exact matching.sublist List.filter_sublist
  constructor
  · rw [List.pairwise_map]
    apply ordered_ofPairs
    have rows_nodup := positive.rows_nodup
    rw [List.map_map] at rows_nodup
    exact rows_nodup
  · intro library member
    rcases List.mem_map.mp member with ⟨pair, pairMember, rfl⟩
    exact (matching.in_range _ (mem_ofPairs_iff.mp pairMember).1).1

/-- A total of all millionths for each library element takes a pair for each of them. -/
theorem HasUnitDiagonal.isComplete_optimal (unit : HasUnitDiagonal weights) :
    ∃ assignment, optimal weights weights.length = .ok assignment ∧
      IsComplete .optimal weights.length assignment := by
  rcases libraries_optimal weights weights.length with ⟨increasing, below⟩
  have total := sum_le_fixedTotal (isMatching_diagonalPositions weights.length)
  rw [unit.sum_diagonal, fixedTotal_eq] at total
  refine ⟨_, optimal_eq unit.square, ?_⟩
  generalize (ofPairs (positivePairs weights (pairedPositions weights weights.length))
    weights.length weights.length) = assignment at *
  have atMost : ∀ millionths ∈ assignment.pairs.map fun pair => toFixed pair.score,
      millionths ≤ fixedScale := by
    intro millionths member
    rcases List.mem_map.mp member with ⟨pair, _, rfl⟩
    exact toFixed_le pair.score
  have enough : weights.length ≤ assignment.pairs.length := by
    have bound := total.trans (List.sum_le_card_nsmul _ fixedScale atMost)
    rw [List.length_map, smul_eq_mul] at bound
    exact Nat.le_of_mul_le_mul_right bound (by decide)
  have all := eq_range_of_increasing increasing below (by rwa [List.length_map])
  have count : assignment.pairs.length = weights.length := by
    have lengths := congrArg List.length all
    rwa [List.length_map, List.length_range] at lengths
  refine ⟨count, all, ?_⟩
  intro pair member
  apply eq_of_length_mul_le_sum atMost
  · rwa [List.length_map, count]
  · exact List.mem_map_of_mem member

theorem HasUnitDiagonal.score_eq_one (unit : HasUnitDiagonal weights) {pair : MatchedPair}
    (member : pair ∈ greedyPairs weights weights.length) : pair.score = 1 := by
  rcases mem_greedyPairs_iff.mp member with ⟨inRange, best⟩
  have one : (1 : Float) ∈ column weights pair.application := by
    have found := entry_mem_column inRange pair.application
    rwa [unit.diagonal _ inRange] at found
  apply Score.eq_one_of_le_of_ge
  · rw [← score_of_mem_greedyPairs member]
    exact unit.entry_le _ _
  · exact Score.le_of_not_lt rfl (Score.isNaN_of_lt best.positive).2 (best.greatest 1 one)

/-- Each application element finds the score 1 in its column. -/
theorem HasUnitDiagonal.isComplete_greedy (unit : HasUnitDiagonal weights) :
    ∃ assignment, greedy weights weights.length = .ok assignment ∧
      IsComplete .greedy weights.length assignment := by
  refine ⟨_, greedy_eq unit.square, ?_⟩
  have permuted := perm_ofPairs (greedyPairs weights weights.length) weights.length weights.length
  constructor
  · have everyone : ∀ application ∈ List.range weights.length,
        (greedyPair? weights application).isSome := by
      intro application member
      have inRange := List.mem_range.mp member
      have positive : 0 < weights.entry application application := by
        rw [unit.diagonal application inRange]
        exact Score.zero_lt_one
      rcases exists_isBest positive (entry_mem_column inRange application) with
        ⟨row, score, best⟩
      have found : greedyPair? weights application = some ⟨row, application, score⟩ :=
        greedyPair?_eq_some_iff.mpr ⟨rfl, best⟩
      rw [found]
      rfl
    have applications := applications_greedyPairs weights weights.length
    rw [List.filter_eq_self.mpr everyone] at applications
    have count := congrArg List.length applications
    rw [List.length_map, List.length_range] at count
    exact permuted.length_eq.trans count
  · intro pair member
    exact unit.score_eq_one (permuted.mem_iff.mp member)

/-- With a unit diagonal, an assignment of either mode leaves nothing out. -/
theorem HasUnitDiagonal.isComplete_inMode (unit : HasUnitDiagonal weights) (mode : MatchingMode) :
    ∃ assignment, inMode mode weights weights.length = .ok assignment ∧
      IsComplete mode weights.length assignment := by
  cases mode with
  | greedy => exact unit.isComplete_greedy
  | optimal => exact unit.isComplete_optimal

end Assignment

end Resemblance
