import Resemblance.Proofs.Assignment.Greedy
import Resemblance.Proofs.Assignment.Millionths

/-!
# Greedy and optimal assignments

A greedy assignment lets each application element have the library element that it scores best with,
so no assignment does better for any application element. Only if two of them want the same library
element, an optimal assignment has less in total: without such contention, the greedy pairs are a
matching themselves, and no matching has more than the optimal one.
-/

namespace Resemblance

namespace Assignment

/-- A row has the greatest score of its column, and all rows before it have less. -/
structure IsFirstGreatest (column : List Float) (row : Nat) (score : Float) : Prop where
  found : column[row]? = some score
  greatest : ∀ other ∈ column, other ≤ score
  first : ∀ (earlier : Nat) (other : Float),
    earlier < row → column[earlier]? = some other → other < score

variable {weights : WeightMatrix} {applicationCount library application : Nat}
  {scores : List Float} {score : Float}

/-! ## The counterpart of a pair -/

theorem IsBest.isFirstGreatest {row : Nat} (numbers : ∀ other ∈ scores, other.isNaN = false)
    (best : IsBest scores row score) : IsFirstGreatest scores row score where
  found := best.found
  greatest := fun other member =>
    Score.le_of_not_lt (numbers other member) (Score.isNaN_of_lt best.positive).2
      (best.greatest other member)
  first := fun earlier other before found =>
    Score.lt_of_not_le (numbers other (List.mem_of_getElem? found))
      (Score.isNaN_of_lt best.positive).2 (best.first earlier other before found)

theorem entry_mem_column (inRange : library < weights.length) (application : Nat) :
    weights.entry library application ∈ column weights application := by
  rw [column, WeightMatrix.entry, List.mem_map]
  refine ⟨weights[library], List.getElem_mem inRange, ?_⟩
  rw [List.getD_eq_getElem weights [] inRange]

theorem isNaN_of_mem_column (numbers : ∀ row ∈ weights, ∀ score ∈ row, score.isNaN = false) :
    ∀ score ∈ column weights application, score.isNaN = false := by
  intro score member
  rcases List.mem_map.mp member with ⟨row, rowMember, rfl⟩
  rw [List.getD_eq_getElem?_getD]
  cases found : row[application]? with
  | none => rfl
  | some score => exact numbers row rowMember score (List.mem_of_getElem? found)

theorem exists_counterpart (inRange : library < weights.length)
    (applicationInRange : application < applicationCount)
    (positive : 0 < weights.entry library application) :
    ∃ counterpart ∈ greedyPairs weights applicationCount, counterpart.application = application ∧
      IsBest (column weights application) counterpart.library counterpart.score := by
  rcases exists_isBest positive (entry_mem_column inRange application) with ⟨row, best, isBest⟩
  exact ⟨⟨row, application, best⟩, mem_greedyPairs_iff.mpr ⟨applicationInRange, isBest⟩, rfl, isBest⟩

/-! ## Totals -/

/-- The millionths that an application element has in a greedy assignment. -/
def greedyMillionths (weights : WeightMatrix) (application : Nat) : Nat :=
  match greedyPair? weights application with
  | some pair => toFixed pair.score
  | none => 0

theorem fixedTotal_greedy (weights : WeightMatrix) (libraryCount applicationCount : Nat) :
    (ofPairs (greedyPairs weights applicationCount) libraryCount applicationCount).fixedTotal =
      ((List.range applicationCount).map (greedyMillionths weights)).sum := by
  rw [fixedTotal_eq, ((perm_ofPairs _ libraryCount applicationCount).map _).sum_eq, greedyPairs]
  induction List.range applicationCount with
  | nil => rfl
  | cons application applications ih =>
      rw [List.map_cons, List.sum_cons, ← ih, List.filterMap_cons, greedyMillionths]
      cases greedyPair? weights application with
      | none => exact (Nat.zero_add _).symm
      | some pair => rfl

theorem toFixed_entry_le (inRange : library < weights.length) (application : Nat) :
    toFixed (weights.entry library application) ≤ greedyMillionths weights application := by
  by_cases positive : 0 < weights.entry library application
  · have member := entry_mem_column inRange application
    rcases exists_isBest positive member with ⟨row, best, isBest⟩
    have found : greedyPair? weights application = some ⟨row, application, best⟩ :=
      greedyPair?_eq_some_iff.mpr ⟨rfl, isBest⟩
    rw [greedyMillionths, found]
    apply toFixed_mono
    exact Score.le_of_not_lt (Score.isNaN_of_lt positive).2 (Score.isNaN_of_lt isBest.positive).2
      (isBest.greatest _ member)
  · rw [toFixed_eq_zero positive]
    exact Nat.zero_le _

/-- No matching has more millionths than the greedy assignment. -/
theorem sum_le_fixedTotal_greedy {positions : List (Nat × Nat)} (libraryCount : Nat)
    (matching : IsMatching weights.length applicationCount positions) :
    (positions.map fun position => toFixed (weights.entry position.1 position.2)).sum ≤
      (ofPairs (greedyPairs weights applicationCount) libraryCount applicationCount).fixedTotal := by
  have applications : (positions.map Prod.snd).Subperm (List.range applicationCount) := by
    apply matching.columns_nodup.subperm
    intro application member
    rcases List.mem_map.mp member with ⟨position, positionMember, rfl⟩
    exact List.mem_range.mpr (matching.in_range position positionMember).2
  rcases applications with ⟨chosen, permuted, part⟩
  calc
    (positions.map fun position => toFixed (weights.entry position.1 position.2)).sum
    _ ≤ (positions.map fun position => greedyMillionths weights position.2).sum := by
        apply List.sum_le_sum
        intro position member
        exact toFixed_entry_le (matching.in_range position member).1 position.2
    _ = (chosen.map (greedyMillionths weights)).sum := by
        rw [(permuted.map _).sum_eq, List.map_map]
        rfl
    _ ≤ ((List.range applicationCount).map (greedyMillionths weights)).sum :=
        (part.map _).sum_le_sum fun _ _ => Nat.zero_le _
    _ = _ := (fixedTotal_greedy weights libraryCount applicationCount).symm

theorem applications_greedyPairs (weights : WeightMatrix) (applicationCount : Nat) :
    (greedyPairs weights applicationCount).map MatchedPair.application =
      (List.range applicationCount).filter fun application =>
        (greedyPair? weights application).isSome := by
  rw [greedyPairs, List.map_filterMap, ← List.filterMap_eq_filter]
  apply List.filterMap_congr
  intro application _
  rw [Option.guard]
  cases found : greedyPair? weights application with
  | none => rfl
  | some pair =>
      rw [Option.map_some, (greedyPair?_eq_some_iff.mp found).1]
      rfl

theorem in_range_of_mem_greedyPairs {pair : MatchedPair}
    (member : pair ∈ greedyPairs weights applicationCount) :
    pair.library < weights.length ∧ pair.application < applicationCount := by
  rcases mem_greedyPairs_iff.mp member with ⟨applicationInRange, best⟩
  have libraryInRange := best.lt_length
  rw [column, List.length_map] at libraryInRange
  exact ⟨libraryInRange, applicationInRange⟩

theorem nodup_applications_greedyPairs (weights : WeightMatrix) (applicationCount : Nat) :
    ((greedyPairs weights applicationCount).map MatchedPair.application).Nodup := by
  rw [applications_greedyPairs]
  exact List.nodup_range.filter _

/-- Without contention, the greedy pairs are a matching. -/
theorem isMatching_greedyPairs
    (noContention : ((greedyPairs weights applicationCount).map MatchedPair.library).Nodup) :
    IsMatching weights.length applicationCount
      ((greedyPairs weights applicationCount).map MatchedPair.position) where
  in_range := by
    intro position member
    rcases List.mem_map.mp member with ⟨pair, pairMember, rfl⟩
    exact in_range_of_mem_greedyPairs pairMember
  rows_nodup := by
    rw [List.map_map]
    exact noContention
  columns_nodup := by
    rw [List.map_map]
    exact nodup_applications_greedyPairs weights applicationCount

theorem score_of_mem_greedyPairs {pair : MatchedPair}
    (member : pair ∈ greedyPairs weights applicationCount) :
    weights.entry pair.library pair.application = pair.score := by
  have found := (mem_greedyPairs_iff.mp member).2.found
  rw [column, List.getElem?_map, Option.map_eq_some_iff] at found
  rcases found with ⟨row, found, score⟩
  have row_eq : weights.getD pair.library [] = row := by
    rw [List.getD_eq_getElem?_getD, found, Option.getD_some]
  rw [WeightMatrix.entry, row_eq]
  exact score

/-- Without contention, no greedy assignment has more millionths than the optimal one. -/
theorem fixedTotal_greedy_le (libraryCount : Nat)
    (noContention : ((greedyPairs weights applicationCount).map MatchedPair.library).Nodup) :
    (ofPairs (greedyPairs weights applicationCount) libraryCount applicationCount).fixedTotal ≤
      (ofPairs (positivePairs weights (pairedPositions weights applicationCount)) weights.length
        applicationCount).fixedTotal := by
  refine le_trans (le_of_eq ?_) (sum_le_fixedTotal (isMatching_greedyPairs noContention))
  rw [fixedTotal_eq, ((perm_ofPairs _ libraryCount applicationCount).map _).sum_eq, List.map_map]
  apply congrArg List.sum
  apply List.map_congr_left
  intro pair member
  exact congrArg toFixed (score_of_mem_greedyPairs member).symm

/--
Each pair of the optimal assignment has a counterpart in the greedy one, with a score that is the
greatest of the column, and taken from its first row. So the optimal assignment does not have more
millionths, and it has as many if the greedy one uses no library element twice.
-/
theorem optimal_le_greedy (weights : WeightMatrix) (applicationCount : Nat)
    (rectangular : ∀ row ∈ weights, row.length = applicationCount)
    (numbers : ∀ row ∈ weights, ∀ score ∈ row, score.isNaN = false) :
    ∃ best matched, greedy weights applicationCount = .ok best ∧
      optimal weights applicationCount = .ok matched ∧
      (∀ pair ∈ matched.pairs, ∃ counterpart ∈ best.pairs,
        counterpart.application = pair.application ∧ pair.score ≤ counterpart.score ∧
          IsFirstGreatest (column weights pair.application) counterpart.library
            counterpart.score) ∧
      matched.fixedTotal ≤ best.fixedTotal ∧
      ((best.pairs.map MatchedPair.library).Nodup → matched.fixedTotal = best.fixedTotal) := by
  have matching := isMatching_pairedPositions weights applicationCount
  have atMost := sum_le_fixedTotal_greedy weights.length matching
  rw [← fixedTotal_ofPairs weights _ weights.length applicationCount] at atMost
  have permuted := perm_ofPairs (greedyPairs weights applicationCount) weights.length
    applicationCount
  refine ⟨_, _, greedy_eq rectangular, optimal_eq rectangular, ?_, atMost, ?_⟩
  · intro pair member
    rcases mem_ofPairs_iff.mp member with ⟨position, score, positive⟩
    rcases matching.in_range _ position with ⟨libraryInRange, applicationInRange⟩
    rw [score] at positive
    rcases exists_counterpart libraryInRange applicationInRange positive with
      ⟨counterpart, counterpartMember, same, isBest⟩
    have first := isBest.isFirstGreatest (isNaN_of_mem_column numbers)
    refine ⟨counterpart, permuted.mem_iff.mpr counterpartMember, same, ?_, first⟩
    rw [score]
    exact first.greatest _ (entry_mem_column libraryInRange _)
  · intro noContention
    apply Nat.le_antisymm atMost
    apply fixedTotal_greedy_le
    exact (permuted.map _).nodup_iff.mp noContention

/-- The best scores are in different rows, so that the optimal assignment has as much. -/
theorem optimal_le_greedy_apart :
    ∃ best matched, greedy [[0.9, 0.2], [0.7, 0.3], [0, 0.3]] 2 = .ok best ∧
      optimal [[0.9, 0.2], [0.7, 0.3], [0, 0.3]] 2 = .ok matched ∧
      matched.fixedTotal = best.fixedTotal := by
  have rectangular : ∀ row ∈ ([[0.9, 0.2], [0.7, 0.3], [0, 0.3]] : WeightMatrix),
      row.length = 2 := by
    decide
  have numbers : ∀ row ∈ ([[0.9, 0.2], [0.7, 0.3], [0, 0.3]] : WeightMatrix),
      ∀ score ∈ row, score.isNaN = false := by
    decide +kernel
  rcases optimal_le_greedy _ 2 rectangular numbers with
    ⟨best, matched, greedyFound, optimalFound, _, _, equal⟩
  have libraries : (greedyPairs [[0.9, 0.2], [0.7, 0.3], [0, 0.3]] 2).map MatchedPair.library =
      [0, 1] := by
    decide +kernel
  refine ⟨best, matched, greedyFound, optimalFound, equal ?_⟩
  rw [greedy_eq rectangular] at greedyFound
  rw [← Except.ok.inj greedyFound, ((perm_ofPairs _ _ _).map MatchedPair.library).nodup_iff,
    libraries]
  decide

end Assignment

end Resemblance
