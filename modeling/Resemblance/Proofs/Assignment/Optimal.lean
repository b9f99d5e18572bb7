import Resemblance.Assignment.Optimal
import Resemblance.Proofs.Assignment.Solver

/-!
# Optimal assignments are optimal

A matching pairs positions of the library with positions of the application and uses none of them
twice. The optimal assignment is one, and no other has a greater sum of scores in millionths. The
solver only takes matrices that are not taller than wide, so the roles are swapped for the others;
and it matches all rows, whatever the scores, so the pairs that score zero are left out afterwards,
which does not change the sum.
-/

namespace Resemblance

/-! ## Scores in millionths -/

theorem toFixed_le (score : Float) : toFixed score ≤ fixedScale := by
  rw [toFixed]
  split
  · exact Nat.min_le_right _ _
  · exact Nat.zero_le _

theorem toFixed_eq_zero {score : Float} (notPositive : ¬0 < score) : toFixed score = 0 :=
  if_neg notPositive

/-- The positions that a pair consists of. -/
def MatchedPair.position (pair : MatchedPair) : Nat × Nat :=
  (pair.library, pair.application)

namespace Assignment

/-! ## Matchings -/

/-- Pairs of numbers below two bounds in which no number is used twice. -/
structure IsMatching (rows columns : Nat) (pairs : List (Nat × Nat)) : Prop where
  in_range : ∀ pair ∈ pairs, pair.1 < rows ∧ pair.2 < columns
  rows_nodup : (pairs.map Prod.fst).Nodup
  columns_nodup : (pairs.map Prod.snd).Nodup

variable {rows columns : Nat} {pairs : List (Nat × Nat)}

theorem IsMatching.swap (matching : IsMatching rows columns pairs) :
    IsMatching columns rows (pairs.map Prod.swap) where
  in_range := by
    intro pair member
    rcases List.mem_map.mp member with ⟨original, originalMember, rfl⟩
    exact (matching.in_range original originalMember).symm
  rows_nodup := by
    rw [List.map_map]
    exact matching.columns_nodup
  columns_nodup := by
    rw [List.map_map]
    exact matching.rows_nodup

theorem IsMatching.sublist {others : List (Nat × Nat)} (matching : IsMatching rows columns pairs)
    (part : others.Sublist pairs) : IsMatching rows columns others where
  in_range := fun pair member => matching.in_range pair (part.subset member)
  rows_nodup := matching.rows_nodup.sublist (part.map Prod.fst)
  columns_nodup := matching.columns_nodup.sublist (part.map Prod.snd)

theorem IsMatching.perm {others : List (Nat × Nat)} (matching : IsMatching rows columns pairs)
    (permuted : pairs.Perm others) : IsMatching rows columns others where
  in_range := fun pair member => matching.in_range pair (permuted.mem_iff.mpr member)
  rows_nodup := (permuted.map Prod.fst).nodup_iff.mp matching.rows_nodup
  columns_nodup := (permuted.map Prod.snd).nodup_iff.mp matching.columns_nodup

/-- The numbers of a crossing. -/
def numbers (crossing : Fin rows × Fin columns) : Nat × Nat :=
  (crossing.1.val, crossing.2.val)

theorem exists_crossings (in_range : ∀ pair ∈ pairs, pair.1 < rows ∧ pair.2 < columns) :
    ∃ crossings : List (Fin rows × Fin columns), crossings.map numbers = pairs := by
  have reached : pairs ∈ Set.range (List.map (numbers : Fin rows × Fin columns → Nat × Nat)) := by
    rw [Set.range_list_map]
    intro pair member
    rcases in_range pair member with ⟨rowLt, columnLt⟩
    exact ⟨(⟨pair.1, rowLt⟩, ⟨pair.2, columnLt⟩), rfl⟩
  exact reached

theorem isMatching_map_numbers {crossings : List (Fin rows × Fin columns)} :
    IsMatching rows columns (crossings.map numbers) ↔
      (crossings.map Prod.fst).Nodup ∧ (crossings.map Prod.snd).Nodup := by
  have rowNumbers : (crossings.map numbers).map Prod.fst =
      (crossings.map Prod.fst).map Fin.val := by
    simp only [List.map_map]
    rfl
  have columnNumbers : (crossings.map numbers).map Prod.snd =
      (crossings.map Prod.snd).map Fin.val := by
    simp only [List.map_map]
    rfl
  constructor
  · intro matching
    have rows_nodup := matching.rows_nodup
    have columns_nodup := matching.columns_nodup
    rw [rowNumbers] at rows_nodup
    rw [columnNumbers] at columns_nodup
    exact ⟨rows_nodup.of_map Fin.val, columns_nodup.of_map Fin.val⟩
  · rintro ⟨rows_nodup, columns_nodup⟩
    constructor
    · intro pair member
      rcases List.mem_map.mp member with ⟨crossing, _, rfl⟩
      exact ⟨crossing.1.isLt, crossing.2.isLt⟩
    · rw [rowNumbers]
      exact rows_nodup.map Fin.val_injective
    · rw [columnNumbers]
      exact columns_nodup.map Fin.val_injective

/-! ## The pairs of the solver -/

theorem solvedPairs_eq (rows columns : Nat) (entry : Nat → Nat → Int) :
    solvedPairs rows columns entry =
      (Solver.solve fun (row : Fin rows) (column : Fin columns) =>
        entry row.val column.val).crossings.map numbers := by
  have table : (fun (row : Fin rows) (column : Fin columns) =>
      ((tabulate rows columns entry).get row).get column) =
        fun row column => entry row.val column.val := by
    funext row column
    change (tabulate rows columns entry)[row][column] = entry row.val column.val
    simp [tabulate]
  rw [solvedPairs, table, Solver.State.crossings, List.map_filterMap]
  apply List.filterMap_congr
  intro row _
  rw [Option.map_map]
  rfl

section Solved

variable (entry : Nat → Nat → Int) (entry_nonneg : ∀ row column, 0 ≤ entry row column)
  (fits : rows ≤ columns)

include entry_nonneg fits

theorem isMatching_solvedPairs : IsMatching rows columns (solvedPairs rows columns entry) := by
  have solved := Solver.added_solve
    (fun (row : Fin rows) (column : Fin columns) => entry row.val column.val)
    (fun row column => entry_nonneg row.val column.val) fits
  rw [solvedPairs_eq, isMatching_map_numbers]
  exact ⟨Solver.rows_nodup_crossings _, Solver.columns_nodup_crossings solved.inverse⟩

theorem solvedPairs_maximum (matching : IsMatching rows columns pairs) :
    (pairs.map fun pair => entry pair.1 pair.2).sum ≤
      ((solvedPairs rows columns entry).map fun pair => entry pair.1 pair.2).sum := by
  have solved := Solver.added_solve
    (fun (row : Fin rows) (column : Fin columns) => entry row.val column.val)
    (fun row column => entry_nonneg row.val column.val) fits
  rcases exists_crossings matching.in_range with ⟨crossings, rfl⟩
  rcases isMatching_map_numbers.mp matching with ⟨rows_nodup, columns_nodup⟩
  have reached := solved.labelled.sum_weight_crossings solved.inverse fun row =>
    (solved.matched_iff row).mpr (List.mem_finRange row)
  have bound := solved.labelled.sum_weight_le solved.row_nonneg rows_nodup columns_nodup
  rw [← reached] at bound
  rw [solvedPairs_eq, List.map_map, List.map_map]
  exact bound

end Solved

/-! ## Positive pairs -/

/-- The positions in the library and in the application that the solver pairs. -/
def pairedPositions (weights : WeightMatrix) (applicationCount : Nat) : List (Nat × Nat) :=
  if weights.length ≤ applicationCount then
    solvedPairs weights.length applicationCount (fixedEntry weights)
  else
    (solvedPairs applicationCount weights.length
      fun application library => fixedEntry weights library application).map Prod.swap

variable {weights : WeightMatrix} {applicationCount : Nat}

theorem fixedEntry_nonneg (weights : WeightMatrix) (library application : Nat) :
    0 ≤ fixedEntry weights library application :=
  Int.natCast_nonneg _

theorem sum_fixedEntry (weights : WeightMatrix) (positions : List (Nat × Nat)) :
    (positions.map fun position => fixedEntry weights position.1 position.2).sum =
      ((positions.map fun position => toFixed (weights.entry position.1 position.2)).sum :
        Nat) := by
  rw [Nat.cast_list_sum, List.map_map]
  rfl

theorem isMatching_pairedPositions (weights : WeightMatrix) (applicationCount : Nat) :
    IsMatching weights.length applicationCount (pairedPositions weights applicationCount) := by
  rw [pairedPositions]
  split
  · rename_i fits
    exact isMatching_solvedPairs (fixedEntry weights) (fixedEntry_nonneg weights) fits
  · apply IsMatching.swap
    apply isMatching_solvedPairs
    · intro application library
      exact fixedEntry_nonneg weights library application
    · omega

/-- Swapping the sides of pairs and of the entries keeps a sum. -/
theorem sum_map_swap (entry : Nat → Nat → Int) (pairs : List (Nat × Nat)) :
    ((pairs.map Prod.swap).map fun pair => entry pair.1 pair.2).sum =
      (pairs.map fun pair => entry pair.2 pair.1).sum := by
  rw [List.map_map]
  rfl

theorem pairedPositions_maximum
    (matching : IsMatching weights.length applicationCount pairs) :
    (pairs.map fun pair => fixedEntry weights pair.1 pair.2).sum ≤
      ((pairedPositions weights applicationCount).map fun pair =>
        fixedEntry weights pair.1 pair.2).sum := by
  rw [pairedPositions]
  split
  · rename_i fits
    exact solvedPairs_maximum (fixedEntry weights) (fixedEntry_nonneg weights) fits matching
  · have best := solvedPairs_maximum
      (fun application library => fixedEntry weights library application)
      (fun application library => fixedEntry_nonneg weights library application) (by omega)
      matching.swap
    rw [sum_map_swap]
    rw [List.map_map] at best
    exact best

/-- The pairs at some positions that have a positive score. -/
def positivePairs (weights : WeightMatrix) (positions : List (Nat × Nat)) : List MatchedPair :=
  positions.filterMap fun position => positivePair? weights position.1 position.2

theorem positivePair?_eq_some {library application : Nat} {pair : MatchedPair}
    (found : positivePair? weights library application = some pair) :
    0 < weights.entry library application ∧
      pair = ⟨library, application, weights.entry library application⟩ := by
  rw [positivePair?] at found
  split at found
  · rename_i positive
    rw [Option.some.injEq] at found
    exact ⟨positive, found.symm⟩
  · cases found

theorem positions_positivePairs (weights : WeightMatrix) (positions : List (Nat × Nat)) :
    (positivePairs weights positions).map MatchedPair.position =
      positions.filter fun position => 0 < weights.entry position.1 position.2 := by
  rw [positivePairs, List.map_filterMap, ← List.filterMap_eq_filter]
  apply List.filterMap_congr
  intro position _
  rw [positivePair?, Option.guard]
  split <;> simp [MatchedPair.position, *]

theorem sum_positivePairs (weights : WeightMatrix) (positions : List (Nat × Nat)) :
    ((positivePairs weights positions).map fun pair => toFixed pair.score).sum =
      (positions.map fun position => toFixed (weights.entry position.1 position.2)).sum := by
  induction positions with
  | nil => rfl
  | cons position positions ih =>
      rw [List.map_cons, List.sum_cons, ← ih, positivePairs, List.filterMap_cons]
      cases found : positivePair? weights position.1 position.2 with
      | none =>
          rw [toFixed_eq_zero, Nat.zero_add]
          · rfl
          · intro positive
            rw [positivePair?, if_pos positive] at found
            cases found
      | some pair =>
          rw [(positivePair?_eq_some found).2]
          rfl

/-! ## Assignments from pairs -/

theorem precedes_trans (first second third : MatchedPair) (left : first.precedes second)
    (right : second.precedes third) : first.precedes third := by
  simp only [MatchedPair.precedes, decide_eq_true_eq] at *
  omega

theorem precedes_total (first second : MatchedPair) :
    (first.precedes second || second.precedes first) = true := by
  simp only [MatchedPair.precedes, Bool.or_eq_true, decide_eq_true_eq]
  omega

theorem perm_ofPairs (pairs : List MatchedPair) (libraryCount applicationCount : Nat) :
    (ofPairs pairs libraryCount applicationCount).pairs.Perm pairs :=
  List.mergeSort_perm pairs MatchedPair.precedes

/-- If no library element occurs twice, the pairs of an assignment are in order of these. -/
theorem ordered_ofPairs {pairs : List MatchedPair}
    (nodup : (pairs.map MatchedPair.library).Nodup) (libraryCount applicationCount : Nat) :
    (ofPairs pairs libraryCount applicationCount).pairs.Pairwise fun left right =>
      left.library < right.library := by
  have sorted := List.pairwise_mergeSort precedes_trans precedes_total pairs
  have permuted := (perm_ofPairs pairs libraryCount applicationCount).map MatchedPair.library
  have different := List.pairwise_map.mp (permuted.nodup_iff.mpr nodup)
  apply sorted.imp₂ _ different
  intro left right precedes ne
  simp only [MatchedPair.precedes, decide_eq_true_eq] at precedes
  omega

theorem fixedTotal_eq (assignment : Assignment) :
    assignment.fixedTotal = (assignment.pairs.map fun pair => toFixed pair.score).sum := by
  rw [fixedTotal, List.sum_eq_foldr, List.foldr_map]

/-! ## The optimal assignment -/

theorem checkShape_of_rectangular
    (rectangular : ∀ row ∈ weights, row.length = applicationCount) :
    weights.checkShape applicationCount = .ok () := by
  have allFit : weights.findIdx? (fun row => row.length ≠ applicationCount) = none := by
    rw [List.findIdx?_eq_none_iff]
    intro row member
    simp [rectangular row member]
  rw [WeightMatrix.checkShape, allFit]

theorem optimal_eq (rectangular : ∀ row ∈ weights, row.length = applicationCount) :
    optimal weights applicationCount =
      .ok (ofPairs (positivePairs weights (pairedPositions weights applicationCount))
        weights.length applicationCount) := by
  have pairs_eq :
      (if weights.length = 0 ∨ applicationCount = 0 then []
        else if weights.length ≤ applicationCount then
          (solvedPairs weights.length applicationCount (fixedEntry weights)).filterMap
            fun position => positivePair? weights position.1 position.2
        else
          (solvedPairs applicationCount weights.length
            (fun application library => fixedEntry weights library application)).filterMap
              fun position => positivePair? weights position.2 position.1) =
        positivePairs weights (pairedPositions weights applicationCount) := by
    rw [positivePairs, pairedPositions]
    by_cases empty : weights.length = 0 ∨ applicationCount = 0
    · -- A solver without rows pairs nothing.
      have nothing (columns : Nat) (entry : Nat → Nat → Int) : solvedPairs 0 columns entry = [] :=
        rfl
      rw [if_pos empty]
      rcases empty with noLibrary | noApplication
      · rw [noLibrary, if_pos (Nat.zero_le _), nothing]
        rfl
      · rw [noApplication]
        split
        · rename_i noLibrary
          rw [Nat.le_zero.mp noLibrary, nothing]
          rfl
        · rw [nothing]
          rfl
    · rw [if_neg empty]
      split
      · rfl
      · rw [List.filterMap_map]
        rfl
  rw [optimal, checkShape_of_rectangular rectangular]
  exact congrArg (fun pairs => Except.ok (ofPairs pairs weights.length applicationCount)) pairs_eq

theorem fixedTotal_ofPairs (weights : WeightMatrix) (positions : List (Nat × Nat))
    (libraryCount applicationCount : Nat) :
    (ofPairs (positivePairs weights positions) libraryCount applicationCount).fixedTotal =
      (positions.map fun position => toFixed (weights.entry position.1 position.2)).sum := by
  rw [fixedTotal_eq, ((perm_ofPairs _ libraryCount applicationCount).map _).sum_eq,
    sum_positivePairs]

theorem mem_ofPairs_iff {pair : MatchedPair} {positions : List (Nat × Nat)}
    {libraryCount applicationCount : Nat} :
    pair ∈ (ofPairs (positivePairs weights positions) libraryCount applicationCount).pairs ↔
      pair.position ∈ positions ∧
        pair.score = weights.entry pair.library pair.application ∧ 0 < pair.score := by
  rw [(perm_ofPairs _ libraryCount applicationCount).mem_iff, positivePairs, List.mem_filterMap]
  constructor
  · rintro ⟨position, member, found⟩
    rcases positivePair?_eq_some found with ⟨positive, rfl⟩
    exact ⟨member, rfl, positive⟩
  · rintro ⟨member, score, positive⟩
    rw [score] at positive
    refine ⟨pair.position, member, ?_⟩
    rw [positivePair?, MatchedPair.position, if_pos positive, ← score]

/-- No matching has a greater total than the pairs that the solver finds. -/
theorem sum_le_fixedTotal (matching : IsMatching weights.length applicationCount pairs) :
    (pairs.map fun position => toFixed (weights.entry position.1 position.2)).sum ≤
      (ofPairs (positivePairs weights (pairedPositions weights applicationCount)) weights.length
        applicationCount).fixedTotal := by
  have best := pairedPositions_maximum matching
  rw [sum_fixedEntry, sum_fixedEntry, Int.ofNat_le] at best
  rw [fixedTotal_ofPairs]
  exact best

/-- An assignment that no matching beats. -/
structure IsOptimal (weights : WeightMatrix) (applicationCount : Nat) (assignment : Assignment) :
    Prop where
  /-- No element of the library or of the application is used twice. -/
  isMatching :
    IsMatching weights.length applicationCount (assignment.pairs.map MatchedPair.position)
  /-- The pairs are in order of their library elements. -/
  ordered : assignment.pairs.Pairwise fun left right => left.library < right.library
  /-- Each pair has its score from the matrix, and it is greater than zero. -/
  score : ∀ pair ∈ assignment.pairs,
    pair.score = weights.entry pair.library pair.application ∧ 0 < pair.score
  /-- No matching has a greater sum of scores in millionths. -/
  maximum : ∀ matching, IsMatching weights.length applicationCount matching →
    (matching.map fun position => toFixed (weights.entry position.1 position.2)).sum ≤
      assignment.fixedTotal

/-- For every rectangular matrix there is an assignment, and it is an optimal one. -/
theorem optimal_isOptimal (weights : WeightMatrix) (applicationCount : Nat)
    (rectangular : ∀ row ∈ weights, row.length = applicationCount) :
    ∃ assignment, optimal weights applicationCount = .ok assignment ∧
      IsOptimal weights applicationCount assignment := by
  have solved := isMatching_pairedPositions weights applicationCount
  have positive : IsMatching weights.length applicationCount
      ((positivePairs weights (pairedPositions weights applicationCount)).map
        MatchedPair.position) := by
    rw [positions_positivePairs]
    exact solved.sublist List.filter_sublist
  have permuted := perm_ofPairs (positivePairs weights (pairedPositions weights applicationCount))
    weights.length applicationCount
  refine ⟨_, optimal_eq rectangular, ?_⟩
  constructor
  · exact positive.perm (permuted.map MatchedPair.position).symm
  · apply ordered_ofPairs
    have rows_nodup := positive.rows_nodup
    rw [List.map_map] at rows_nodup
    exact rows_nodup
  · intro pair member
    rcases List.mem_filterMap.mp (permuted.mem_iff.mp member) with ⟨position, _, found⟩
    rcases positivePair?_eq_some found with ⟨scorePositive, rfl⟩
    exact ⟨rfl, scorePositive⟩
  · intro matching isMatching
    have best := pairedPositions_maximum isMatching
    rw [fixedTotal_eq, (permuted.map _).sum_eq, sum_positivePairs]
    rw [sum_fixedEntry, sum_fixedEntry, Int.ofNat_le] at best
    exact best

/--
With three library elements, two application elements and a score that is no number: starting with
the best crossing gives 1400000 only.
-/
theorem optimal_isOptimal_tall :
    ∃ assignment, optimal [[2, 0.8], [0.8, 0 / 0], [-1, 0.4]] 2 = .ok assignment ∧
      IsOptimal [[2, 0.8], [0.8, 0 / 0], [-1, 0.4]] 2 assignment ∧
      1600000 ≤ assignment.fixedTotal := by
  have rectangular : ∀ row ∈ ([[2, 0.8], [0.8, 0 / 0], [-1, 0.4]] : WeightMatrix),
      row.length = 2 := by
    decide
  rcases optimal_isOptimal [[2, 0.8], [0.8, 0 / 0], [-1, 0.4]] 2 rectangular with
    ⟨assignment, found, isOptimal⟩
  have crossed : IsMatching 3 2 [(0, 1), (1, 0)] := by
    constructor <;> decide
  have scores : ([(0, 1), (1, 0)].map fun position : Nat × Nat =>
      toFixed (WeightMatrix.entry [[2, 0.8], [0.8, 0 / 0], [-1, 0.4]] position.1 position.2)).sum =
        1600000 := by
    decide +kernel
  refine ⟨assignment, found, isOptimal, ?_⟩
  rw [← scores]
  exact isOptimal.maximum _ crossed

end Assignment

end Resemblance
