import Resemblance.Matching.Comparison
import Resemblance.Proofs.Assignment.Greedy

/-!
# Raising the threshold

Scores below a threshold are cut to zero before the elements are matched. A row that is the best one
of its column stays so if its score survives the cut, and no other row takes its place if it does
not: whatever scores less than a cut score is cut as well. So a greedy assignment loses just the
pairs below the threshold. An optimal one can change altogether, but whatever it pairs could be
paired at a lower threshold, with the same scores, and so its total never grows.
-/

namespace Resemblance

/-- The matrix of all scores, whatever the threshold. -/
def scoreMatrix (strategy : Strategy) (libraries applications : List ElementView) :
    Except Failure WeightMatrix :=
  libraries.mapM fun library => applications.mapM fun application =>
    strategy.score library application

namespace WeightMatrix

/-- The scores that count from a threshold on. -/
def cut (threshold : Float) (weights : WeightMatrix) : WeightMatrix :=
  weights.map fun row => row.map (scoreFrom threshold)

end WeightMatrix

theorem mapM_map_ok {Source Target Result : Type} (action : Source → Except Failure Target)
    (change : Target → Result) (items : List Source) :
    (items.mapM fun item => return change (← action item)) =
      (items.mapM action).map (List.map change) := by
  induction items with
  | nil => rfl
  | cons item items ih =>
      rw [List.mapM_cons, List.mapM_cons, ih]
      cases action item with
      | error failure => rfl
      | ok result => cases items.mapM action <;> rfl

theorem weightMatrix_eq_cut (strategy : Strategy) (threshold : Float)
    (libraries applications : List ElementView) :
    weightMatrix strategy threshold libraries applications =
      (scoreMatrix strategy libraries applications).map (WeightMatrix.cut threshold) := by
  have rows (library : ElementView) :
      weightRow strategy threshold applications library =
        (return (← applications.mapM (strategy.score library)).map (scoreFrom threshold)) := by
    rw [weightRow, mapM_map_ok]
    cases applications.mapM (strategy.score library) <;> rfl
  rw [weightMatrix, funext rows, mapM_map_ok]
  rfl

namespace Assignment

variable {weights : WeightMatrix} {applicationCount : Nat} {threshold low high score : Float}

/-! ## Cut scores -/

theorem scoreFrom_zero (threshold : Float) : scoreFrom threshold 0 = 0 :=
  ite_self 0

theorem scoreFrom_of_le (enough : threshold ≤ score) : scoreFrom threshold score = score :=
  if_pos enough

/-- A cut score that is greater than zero is the score itself, which reaches the threshold. -/
theorem eq_of_scoreFrom_pos (positive : 0 < scoreFrom threshold score) :
    threshold ≤ score ∧ scoreFrom threshold score = score := by
  rw [scoreFrom] at positive ⊢
  split
  · rename_i enough
    exact ⟨enough, rfl⟩
  · rename_i less
    rw [if_neg less] at positive
    exact absurd positive (Score.lt_irrefl 0)

theorem getD_map_scoreFrom (row : List Float) (threshold : Float) (application : Nat) :
    (row.map (scoreFrom threshold)).getD application 0 =
      scoreFrom threshold (row.getD application 0) := by
  have outside : (0 : Float) = scoreFrom threshold 0 := (scoreFrom_zero threshold).symm
  rw [outside, List.getD_map, ← outside]

theorem entry_cut (weights : WeightMatrix) (threshold : Float) (library application : Nat) :
    (weights.cut threshold).entry library application =
      scoreFrom threshold (weights.entry library application) := by
  have row : (weights.cut threshold).getD library [] =
      (weights.getD library []).map (scoreFrom threshold) :=
    List.getD_map weights [] (List.map (scoreFrom threshold))
  rw [WeightMatrix.entry, row, getD_map_scoreFrom]
  rfl

theorem column_cut (weights : WeightMatrix) (threshold : Float) (application : Nat) :
    column (weights.cut threshold) application =
      (column weights application).map (scoreFrom threshold) := by
  rw [column, column, WeightMatrix.cut, List.map_map, List.map_map]
  apply List.map_congr_left
  intro row _
  exact getD_map_scoreFrom row threshold application

theorem rectangular_cut (rectangular : ∀ row ∈ weights, row.length = applicationCount)
    (threshold : Float) : ∀ row ∈ weights.cut threshold, row.length = applicationCount := by
  intro row member
  rcases List.mem_map.mp member with ⟨original, originalMember, rfl⟩
  rw [List.length_map]
  exact rectangular original originalMember

/-! ## The greedy assignment -/

theorem isBest_cut_iff {column : List Float} {row : Nat} :
    IsBest (column.map (scoreFrom threshold)) row score ↔
      IsBest column row score ∧ threshold ≤ score := by
  constructor
  · intro best
    have found := best.found
    rw [List.getElem?_map, Option.map_eq_some_iff] at found
    rcases found with ⟨original, found, same⟩
    rcases eq_of_scoreFrom_pos (same ▸ best.positive) with ⟨enough, kept⟩
    rw [kept] at same
    subst same
    -- A score that is as great as the best one is not cut.
    refine ⟨⟨found, best.positive, ?_, ?_⟩, enough⟩
    · intro other member more
      apply best.greatest other _ more
      rw [← scoreFrom_of_le (Score.le_trans enough (Score.le_of_lt more))]
      exact List.mem_map_of_mem member
    · intro earlier other before present more
      apply best.first earlier other before _ more
      rw [List.getElem?_map, present, Option.map_some,
        scoreFrom_of_le (Score.le_trans enough more)]
  · rintro ⟨best, enough⟩
    constructor
    · rw [List.getElem?_map, best.found, Option.map_some, scoreFrom_of_le enough]
    · exact best.positive
    · intro other member more
      rcases List.mem_map.mp member with ⟨original, originalMember, rfl⟩
      have kept := (eq_of_scoreFrom_pos (Score.lt_trans best.positive more)).2
      rw [kept] at more
      exact best.greatest original originalMember more
    · intro earlier other before present more
      rw [List.getElem?_map, Option.map_eq_some_iff] at present
      rcases present with ⟨original, present, rfl⟩
      have kept := (eq_of_scoreFrom_pos (Score.lt_of_lt_of_le best.positive more)).2
      rw [kept] at more
      exact best.first earlier original before present more

theorem greedyPair?_cut (weights : WeightMatrix) (threshold : Float) (application : Nat) :
    greedyPair? (weights.cut threshold) application =
      (greedyPair? weights application).filter fun pair => threshold ≤ pair.score := by
  apply Option.ext
  intro pair
  rw [greedyPair?_eq_some_iff, Option.filter_eq_some_iff, greedyPair?_eq_some_iff, column_cut,
    isBest_cut_iff, and_assoc, decide_eq_true_eq]

theorem greedyPairs_cut (weights : WeightMatrix) (threshold : Float) (applicationCount : Nat) :
    greedyPairs (weights.cut threshold) applicationCount =
      (greedyPairs weights applicationCount).filter fun pair => threshold ≤ pair.score := by
  rw [greedyPairs, greedyPairs, List.filter_filterMap]
  apply List.filterMap_congr
  intro application _
  exact greedyPair?_cut weights threshold application

/-- Pairs that are left out can be left out before or after the others are brought into order. -/
theorem mergeSort_filter {pairs : List MatchedPair} (keep : MatchedPair → Bool)
    (single : ∀ pair ∈ pairs, ∀ other ∈ pairs, pair.application = other.application → pair = other) :
    (pairs.filter keep).mergeSort MatchedPair.precedes =
      (pairs.mergeSort MatchedPair.precedes).filter keep := by
  have sorted := List.pairwise_mergeSort precedes_trans precedes_total
  have permuted : ((pairs.filter keep).mergeSort MatchedPair.precedes).Perm
      ((pairs.mergeSort MatchedPair.precedes).filter keep) :=
    (List.mergeSort_perm _ _).trans ((List.mergeSort_perm _ _).filter keep).symm
  refine permuted.eq_of_pairwise ?_ (sorted _) ((sorted pairs).filter keep)
  intro pair other member second before after
  have inPairs := List.mem_of_mem_filter ((List.mergeSort_perm _ _).mem_iff.mp member)
  have otherInPairs := (List.mergeSort_perm _ _).mem_iff.mp (List.mem_of_mem_filter second)
  apply single pair inPairs other otherInPairs
  simp only [MatchedPair.precedes, decide_eq_true_eq] at before after
  omega

theorem pairs_greedy_cut (weights : WeightMatrix) (threshold : Float)
    (libraryCount applicationCount : Nat) :
    (ofPairs (greedyPairs (weights.cut threshold) applicationCount) libraryCount
        applicationCount).pairs =
      (ofPairs (greedyPairs weights applicationCount) libraryCount applicationCount).pairs.filter
        fun pair => threshold ≤ pair.score := by
  rw [greedyPairs_cut]
  apply mergeSort_filter
  intro pair member other second
  exact eq_of_mem_greedyPairs member second

theorem pairs_greedy_raised (ordered : low ≤ high) (weights : WeightMatrix)
    (lowCount highCount applicationCount : Nat) :
    (ofPairs (greedyPairs (weights.cut high) applicationCount) highCount applicationCount).pairs =
      (ofPairs (greedyPairs (weights.cut low) applicationCount) lowCount
        applicationCount).pairs.filter fun pair => high ≤ pair.score := by
  rw [pairs_greedy_cut, pairs_greedy_cut]
  exact Score.filter_raised ordered MatchedPair.score _

/-! ## The optimal assignment -/

theorem toFixed_scoreFrom_anti (ordered : low ≤ high) (score : Float) :
    toFixed (scoreFrom high score) ≤ toFixed (scoreFrom low score) := by
  by_cases enough : high ≤ score
  · rw [scoreFrom_of_le enough, scoreFrom_of_le (Score.le_trans ordered enough)]
  · rw [scoreFrom, if_neg enough, toFixed_eq_zero (Score.lt_irrefl 0)]
    exact Nat.zero_le _

theorem fixedTotal_cut_anti (ordered : low ≤ high) (weights : WeightMatrix)
    (applicationCount : Nat) :
    (ofPairs (positivePairs (weights.cut high) (pairedPositions (weights.cut high) applicationCount))
        (weights.cut high).length applicationCount).fixedTotal ≤
      (ofPairs (positivePairs (weights.cut low) (pairedPositions (weights.cut low) applicationCount))
        (weights.cut low).length applicationCount).fixedTotal := by
  have matching := isMatching_pairedPositions (weights.cut high) applicationCount
  have sameLength : (weights.cut high).length = (weights.cut low).length := by
    rw [WeightMatrix.cut, WeightMatrix.cut, List.length_map, List.length_map]
  rw [sameLength] at matching
  rw [fixedTotal_ofPairs]
  refine le_trans (List.sum_le_sum ?_) (sum_le_fixedTotal matching)
  intro position _
  rw [entry_cut, entry_cut]
  exact toFixed_scoreFrom_anti ordered _

/--
The matrix of a comparison is the matrix of the scores, cut at the threshold. At a higher threshold,
the greedy assignment has just the pairs that reach it, and the optimal one has pairs that reach it
and no greater total.
-/
theorem raisedThreshold (weights : WeightMatrix) (applicationCount : Nat)
    (rectangular : ∀ row ∈ weights, row.length = applicationCount) (low high : Float)
    (ordered : low ≤ high) :
    (∀ strategy threshold libraries applications,
      weightMatrix strategy threshold libraries applications =
        (scoreMatrix strategy libraries applications).map (WeightMatrix.cut threshold)) ∧
    (∃ many few,
      greedy (weights.cut low) applicationCount = .ok many ∧
      greedy (weights.cut high) applicationCount = .ok few ∧
      few.pairs = many.pairs.filter fun pair => high ≤ pair.score) ∧
    ∃ loose strict,
      optimal (weights.cut low) applicationCount = .ok loose ∧
      optimal (weights.cut high) applicationCount = .ok strict ∧
      (∀ pair ∈ strict.pairs, high ≤ pair.score) ∧
      strict.fixedTotal ≤ loose.fixedTotal := by
  refine ⟨weightMatrix_eq_cut, ?_, ?_⟩
  · exact ⟨_, _, greedy_eq (rectangular_cut rectangular low),
      greedy_eq (rectangular_cut rectangular high),
      pairs_greedy_raised ordered weights _ _ applicationCount⟩
  · refine ⟨_, _, optimal_eq (rectangular_cut rectangular low),
      optimal_eq (rectangular_cut rectangular high), ?_, fixedTotal_cut_anti ordered _ _⟩
    intro pair member
    rcases mem_ofPairs_iff.mp member with ⟨_, score, positive⟩
    rw [score, entry_cut] at positive ⊢
    rcases eq_of_scoreFrom_pos positive with ⟨enough, kept⟩
    rw [kept]
    exact enough

/--
With two library elements and two application elements, the best total at 0.5 comes from both scores
of 0.8; at 0.85 only the score of 0.9 is left, which it did not use.
-/
theorem raisedThreshold_reshuffled :
    (∃ many few,
      greedy (WeightMatrix.cut 0.5 [[0.9, 0.8], [0.8, 0 / 0]]) 2 = .ok many ∧
      greedy (WeightMatrix.cut 0.85 [[0.9, 0.8], [0.8, 0 / 0]]) 2 = .ok few ∧
      few.pairs = many.pairs.filter fun pair => 0.85 ≤ pair.score) ∧
    ∃ loose strict,
      optimal (WeightMatrix.cut 0.5 [[0.9, 0.8], [0.8, 0 / 0]]) 2 = .ok loose ∧
      optimal (WeightMatrix.cut 0.85 [[0.9, 0.8], [0.8, 0 / 0]]) 2 = .ok strict ∧
      (∀ pair ∈ strict.pairs, 0.85 ≤ pair.score) ∧ strict.fixedTotal ≤ loose.fixedTotal := by
  have rectangular : ∀ row ∈ ([[0.9, 0.8], [0.8, 0 / 0]] : WeightMatrix), row.length = 2 := by
    decide
  have ordered : (0.5 : Float) ≤ 0.85 := by
    decide +kernel
  exact (raisedThreshold [[0.9, 0.8], [0.8, 0 / 0]] 2 rectangular 0.5 0.85 ordered).2

end Assignment

end Resemblance
