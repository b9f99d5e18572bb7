import Resemblance.Proofs.Assignment.Contention
import Resemblance.Proofs.Assignment.Threshold
import Resemblance.Proofs.Feature.Size
import Resemblance.Proofs.Profile.Coherence

/-!
# What reported pairs stand for

The matrix of a comparison has a score for each library element and each application element, cut to
zero below the threshold, and a pair takes its score from the matrix if that is greater than zero. So
a pair of a report stands for a score that reaches the threshold, between the elements at the two
positions of the pair, whether or not the solver has swapped the sides and however the pairs are
sorted afterwards. Both modes give an application element at most one pair; the greedy mode gives it
one as soon as some score allows it.
-/

namespace Resemblance

namespace MatchedPair

/-- The strict order of pairs. -/
def Before (left right : MatchedPair) : Prop :=
  left.library < right.library ∨
    (left.library = right.library ∧ left.application < right.application)

end MatchedPair

/-! ## The pairs of both modes -/

namespace Assignment

/-- Pairs with positive scores of a matrix, at most one for each column. -/
structure IsSelection (weights : WeightMatrix) (applicationCount : Nat)
    (pairs : List MatchedPair) : Prop where
  in_range : ∀ pair ∈ pairs,
    pair.library < weights.length ∧ pair.application < applicationCount
  score : ∀ pair ∈ pairs,
    weights.entry pair.library pair.application = pair.score ∧ 0 < pair.score
  single : (pairs.map MatchedPair.application).Nodup

/-- The pairs of a mode, before they are brought into order. -/
def chosenPairs (mode : MatchingMode) (weights : WeightMatrix) (applicationCount : Nat) :
    List MatchedPair :=
  match mode with
  | .greedy => greedyPairs weights applicationCount
  | .optimal => positivePairs weights (pairedPositions weights applicationCount)

variable {weights : WeightMatrix} {applicationCount : Nat} {pairs others : List MatchedPair}

/-- In both modes, only the shape of the matrix decides whether there is an assignment. -/
theorem inMode_eq (mode : MatchingMode)
    (rectangular : ∀ row ∈ weights, row.length = applicationCount) :
    inMode mode weights applicationCount =
      .ok (ofPairs (chosenPairs mode weights applicationCount) weights.length
        applicationCount) := by
  cases mode with
  | greedy => exact greedy_eq rectangular
  | optimal => exact optimal_eq rectangular

theorem isSelection_greedyPairs (weights : WeightMatrix) (applicationCount : Nat) :
    IsSelection weights applicationCount (greedyPairs weights applicationCount) where
  in_range := fun _ member => in_range_of_mem_greedyPairs member
  score := fun _ member =>
    ⟨score_of_mem_greedyPairs member, (mem_greedyPairs_iff.mp member).2.positive⟩
  single := nodup_applications_greedyPairs weights applicationCount

theorem isMatching_positivePairs (weights : WeightMatrix) (applicationCount : Nat) :
    IsMatching weights.length applicationCount
      ((positivePairs weights (pairedPositions weights applicationCount)).map
        MatchedPair.position) := by
  rw [positions_positivePairs]
  exact (isMatching_pairedPositions weights applicationCount).sublist List.filter_sublist

theorem isSelection_positivePairs (weights : WeightMatrix) (applicationCount : Nat) :
    IsSelection weights applicationCount
      (positivePairs weights (pairedPositions weights applicationCount)) where
  in_range := fun _ member =>
    (isMatching_positivePairs weights applicationCount).in_range _ (List.mem_map_of_mem member)
  score := by
    intro pair member
    rcases List.mem_filterMap.mp member with ⟨position, _, found⟩
    rcases positivePair?_eq_some found with ⟨positive, rfl⟩
    exact ⟨rfl, positive⟩
  single := by
    have columns_nodup := (isMatching_positivePairs weights applicationCount).columns_nodup
    rw [List.map_map] at columns_nodup
    exact columns_nodup

theorem isSelection_chosenPairs (mode : MatchingMode) (weights : WeightMatrix)
    (applicationCount : Nat) :
    IsSelection weights applicationCount (chosenPairs mode weights applicationCount) := by
  cases mode with
  | greedy => exact isSelection_greedyPairs weights applicationCount
  | optimal => exact isSelection_positivePairs weights applicationCount

theorem IsSelection.perm (selection : IsSelection weights applicationCount pairs)
    (permuted : others.Perm pairs) : IsSelection weights applicationCount others where
  in_range := fun pair member => selection.in_range pair (permuted.mem_iff.mp member)
  score := fun pair member => selection.score pair (permuted.mem_iff.mp member)
  single := (permuted.map _).nodup_iff.mpr selection.single

theorem isSelection_ofPairs (mode : MatchingMode) (weights : WeightMatrix)
    (applicationCount : Nat) :
    IsSelection weights applicationCount
      (ofPairs (chosenPairs mode weights applicationCount) weights.length applicationCount).pairs :=
  (isSelection_chosenPairs mode weights applicationCount).perm (perm_ofPairs _ _ _)

/-- Sorted pairs of different application elements are in strict order. -/
theorem pairwise_before_ofPairs (single : (pairs.map MatchedPair.application).Nodup)
    (libraryCount applicationCount : Nat) :
    (ofPairs pairs libraryCount applicationCount).pairs.Pairwise MatchedPair.Before := by
  have sorted := List.pairwise_mergeSort precedes_trans precedes_total pairs
  have permuted := (perm_ofPairs pairs libraryCount applicationCount).map MatchedPair.application
  have different := List.pairwise_map.mp (permuted.nodup_iff.mpr single)
  apply sorted.imp₂ _ different
  intro left right precedes ne
  simp only [MatchedPair.precedes, decide_eq_true_eq] at precedes
  rw [MatchedPair.Before]
  omega

end Assignment

/-! ## The matrix of a comparison -/

section Matrix

variable {strategy : Strategy} {threshold : Float} {libraries applications : List ElementView}
  {weights : WeightMatrix}

/-- The scores between elements, in rows for the library, cut below a threshold. -/
def WeightMatrix.HoldsScores (strategy : Strategy) (threshold : Float)
    (libraries applications : List ElementView) (weights : WeightMatrix) : Prop :=
  List.Forall₂ (fun library => List.Forall₂ (fun application weight =>
    ∃ score, strategy.score library application = .ok score ∧
      weight = scoreFrom threshold score) applications) libraries weights

theorem weightMatrix_eq_ok_iff :
    weightMatrix strategy threshold libraries applications = .ok weights ↔
      weights.HoldsScores strategy threshold libraries applications := by
  have single (library application : ElementView) (weight : Float) :
      (do return scoreFrom threshold (← strategy.score library application)) =
          (.ok weight : Except Failure Float) ↔
        ∃ score, strategy.score library application = .ok score ∧
          weight = scoreFrom threshold score := by
    rw [except_bind_eq_ok]
    exact exists_congr fun score => and_congr_right fun _ =>
      ⟨fun same => (Except.ok.inj same).symm, fun same => congrArg Except.ok same.symm⟩
  simp only [weightMatrix, weightRow, mapM_eq_ok_iff, single]
  rfl

theorem WeightMatrix.exists_holdsScores
    (scored : ∀ library ∈ libraries, ∀ application ∈ applications,
      ∃ score, strategy.score library application = .ok score) :
    ∃ weights : WeightMatrix, weights.HoldsScores strategy threshold libraries applications := by
  have rows : ∃ weights, weightMatrix strategy threshold libraries applications = .ok weights := by
    apply exists_mapM_eq_ok_iff.mpr
    intro library member
    apply exists_mapM_eq_ok_iff.mpr
    intro application applicationMember
    rcases scored library member application applicationMember with ⟨score, success⟩
    rw [success]
    exact ⟨_, rfl⟩
  rcases rows with ⟨weights, success⟩
  exact ⟨weights, weightMatrix_eq_ok_iff.mp success⟩

namespace WeightMatrix.HoldsScores

variable (holds : weights.HoldsScores strategy threshold libraries applications)

include holds

theorem rectangular : ∀ row ∈ weights, row.length = applications.length :=
  forall_of_forall₂ holds.flip fun _ _ related => related.length_eq.symm

theorem entry_eq {library application : Nat} (libraryInRange : library < libraries.length)
    (applicationInRange : application < applications.length) :
    ∃ score, strategy.score libraries[library] applications[application] = .ok score ∧
      weights.entry library application = scoreFrom threshold score := by
  have rowInRange : library < weights.length := holds.length_eq ▸ libraryInRange
  have row := holds.get libraryInRange rowInRange
  have columnInRange : application < (weights.get ⟨library, rowInRange⟩).length :=
    row.length_eq ▸ applicationInRange
  rcases row.get applicationInRange columnInRange with ⟨score, success, same⟩
  refine ⟨score, success, ?_⟩
  rw [← same, WeightMatrix.entry, List.getD_eq_getElem weights [] rowInRange]
  exact List.getD_eq_getElem _ 0 columnInRange

end WeightMatrix.HoldsScores

end Matrix

/-! ## Reports -/

/-- The pairs of a report stand for scores of library elements with application elements. -/
structure KindComparison.PairsElements (strategy : Strategy)
    (libraries applications : List ElementView) (report : KindComparison) : Prop where
  libraryCount_eq : report.assignment.libraryCount = libraries.length
  applicationCount_eq : report.assignment.applicationCount = applications.length
  /-- A pair has the score of the library element and the application element at its positions. -/
  scored : ∀ pair ∈ report.assignment.pairs, ∃ library application,
    libraries[pair.library]? = some library ∧
      applications[pair.application]? = some application ∧
      strategy.score library application = .ok pair.score
  sufficient : ∀ pair ∈ report.assignment.pairs,
    0 < pair.score ∧ report.threshold.toFloat ≤ pair.score
  single : (report.assignment.pairs.map MatchedPair.application).Nodup
  ordered : report.assignment.pairs.Pairwise MatchedPair.Before
  /-- No application element that could have a pair is left out in the greedy mode. -/
  complete : report.mode = .greedy → ∀ position application,
    applications[position]? = some application →
      ((∃ pair ∈ report.assignment.pairs, pair.application = position) ↔
        ∃ library ∈ libraries, ∃ score, strategy.score library application = .ok score ∧
          0 < score ∧ report.threshold.toFloat ≤ score)

/-- A report is made of the matrix of scores that the threshold of its kind leaves. -/
theorem compareKind_eq_ok_iff {config : Config} {library application : Profile} {kind : Kind}
    {report : KindComparison} :
    compareKind config library application kind = .ok report ↔
      ∃ list weights, library.elements kind = .ok list ∧
        weights.HoldsScores library.strategy (config.thresholds.threshold kind.name).toFloat
          (list.elements.map library.view) (application.viewsOf kind) ∧
        report = ⟨kind, config.matching.mode, config.thresholds.threshold kind.name,
          .ofPairs (Assignment.chosenPairs config.matching.mode weights
            (application.viewsOf kind).length) weights.length
            (application.viewsOf kind).length⟩ := by
  constructor
  · intro success
    rcases except_bind_eq_ok.mp success with ⟨list, found, rest⟩
    rcases except_bind_eq_ok.mp rest with ⟨weights, matrix, rest⟩
    rcases except_bind_eq_ok.mp rest with ⟨assignment, assigned, same⟩
    have holds := weightMatrix_eq_ok_iff.mp matrix
    rw [Assignment.inMode_eq _ holds.rectangular] at assigned
    cases assigned
    exact ⟨list, weights, found, holds, (Except.ok.inj same).symm⟩
  · rintro ⟨list, weights, found, holds, rfl⟩
    have assigned := Assignment.inMode_eq config.matching.mode holds.rectangular
    have matrix := weightMatrix_eq_ok_iff.mpr holds
    simp only [compareKind, found, matrix, assigned, bind, Except.bind]
    rfl

section Pairs

variable {strategy : Strategy} {threshold : Float} {libraries applications : List ElementView}
  {weights : WeightMatrix} {pairs : List MatchedPair}

theorem Assignment.IsSelection.exists_score
    (selection : IsSelection weights applications.length pairs)
    (holds : weights.HoldsScores strategy threshold libraries applications) {pair : MatchedPair}
    (member : pair ∈ pairs) :
    (∃ library application, libraries[pair.library]? = some library ∧
      applications[pair.application]? = some application ∧
      strategy.score library application = .ok pair.score) ∧
    0 < pair.score ∧ threshold ≤ pair.score := by
  rcases selection.in_range pair member with ⟨libraryInRange, applicationInRange⟩
  rcases selection.score pair member with ⟨entry, positive⟩
  rw [← holds.length_eq] at libraryInRange
  rcases holds.entry_eq libraryInRange applicationInRange with ⟨score, success, cut⟩
  rw [entry] at cut
  rcases Assignment.eq_of_scoreFrom_pos (cut ▸ positive) with ⟨enough, kept⟩
  rw [kept] at cut
  subst cut
  exact ⟨⟨_, _, List.getElem?_eq_getElem libraryInRange,
    List.getElem?_eq_getElem applicationInRange, success⟩, positive, enough⟩

/-- The greedy mode pairs an application element that some library element scores enough with. -/
theorem exists_greedyPair (holds : weights.HoldsScores strategy threshold libraries applications)
    {position : Nat} {library application : ElementView} {score : Float}
    (present : applications[position]? = some application) (member : library ∈ libraries)
    (success : strategy.score library application = .ok score) (positive : 0 < score)
    (enough : threshold ≤ score) :
    ∃ pair ∈ Assignment.greedyPairs weights applications.length, pair.application = position := by
  rcases List.getElem?_eq_some_iff.mp present with ⟨applicationInRange, rfl⟩
  rcases List.mem_iff_getElem.mp member with ⟨row, libraryInRange, rfl⟩
  rcases holds.entry_eq libraryInRange applicationInRange with ⟨other, again, entry⟩
  rw [success, Except.ok.injEq] at again
  subst again
  rw [Assignment.scoreFrom_of_le enough] at entry
  rw [← entry] at positive
  rcases Assignment.exists_counterpart (holds.length_eq ▸ libraryInRange) applicationInRange
    positive with ⟨pair, pairMember, same, _⟩
  exact ⟨pair, pairMember, same⟩

end Pairs

/--
Whenever a comparison of a kind succeeds, its pairs are real: a pair has the score of the library
element against the application element at its positions, which is greater than zero and reaches the
threshold of the kind. No application element occurs twice, the pairs are in order, and the greedy
mode leaves out no application element that a library element scores enough with.
-/
theorem compareKind_pairsElements {config : Config} {library application : Profile} {kind : Kind}
    {report : KindComparison} (success : compareKind config library application kind = .ok report) :
    ∃ list, library.elements kind = .ok list ∧
      report.kind = kind ∧ report.mode = config.matching.mode ∧
      report.threshold = config.thresholds.threshold kind.name ∧
      report.PairsElements library.strategy (list.elements.map library.view)
        (application.viewsOf kind) := by
  rcases compareKind_eq_ok_iff.mp success with ⟨list, weights, found, holds, rfl⟩
  refine ⟨list, found, rfl, rfl, rfl, ?_⟩
  have selection := Assignment.isSelection_ofPairs config.matching.mode weights
    (application.viewsOf kind).length
  constructor
  case libraryCount_eq => exact holds.length_eq.symm
  case applicationCount_eq => rfl
  case scored => exact fun pair member => (selection.exists_score holds member).1
  case sufficient => exact fun pair member => (selection.exists_score holds member).2
  case single => exact selection.single
  case ordered =>
    exact Assignment.pairwise_before_ofPairs
      (Assignment.isSelection_chosenPairs config.matching.mode weights _).single _ _
  case complete =>
    -- An optimal assignment can leave an element out although something scores with it.
    intro greedy position view present
    constructor
    · rintro ⟨pair, member, rfl⟩
      rcases selection.exists_score holds member with ⟨⟨other, same, atLibrary, atApplication,
        scored⟩, sufficient⟩
      rw [present, Option.some.injEq] at atApplication
      subst atApplication
      exact ⟨other, List.mem_of_getElem? atLibrary, pair.score, scored, sufficient⟩
    · rintro ⟨other, member, score, scored, positive, enough⟩
      rcases exists_greedyPair holds present member scored positive enough with
        ⟨pair, pairMember, same⟩
      have mode : config.matching.mode = .greedy := greedy
      refine ⟨pair, ?_, same⟩
      rw [(Assignment.perm_ofPairs _ _ _).mem_iff, mode]
      exact pairMember

/-! ## A library element with two pairs -/

/-- A profile of classes that are compared by their vectors alone. -/
def vectorClasses (vectors : List (List Int32)) : Profile :=
  { Profile.new .standard
      { Strategy.empty.withSimilarity ⟨"class"⟩ .featureVector with
        requireDescriptorMatch := false } with
    blueprints := ⟨[⟨⟨"class"⟩, [(BuildStep.vectorField, .vector)]⟩]⟩
    sections := [⟨.runtime, .descriptors .empty⟩,
      ⟨.runtime, .elements ⟨⟨"class"⟩, vectors.map fun vector =>
        ⟨⟨"class"⟩, 0, [some (.vector vector)]⟩⟩⟩] }

/-- Greedy pairs from a score of 0.5 on. -/
def greedyConfig : Config :=
  { Config.standard with
    thresholds := .uniform (.ofFloat 0.5)
    matching := ⟨.greedy, false, true⟩ }

/-- The scores of the only library element are 1, 0.5 and 0.1. -/
theorem exists_compareKind_vectorClasses :
    ∃ report, compareKind greedyConfig (vectorClasses [[0]]) (vectorClasses [[0], [1], [9]])
        ⟨"class"⟩ = .ok report ∧
      report.assignment.libraryCount = 1 ∧
      (report.assignment.pairs.map MatchedPair.position).Perm [(0, 0), (0, 1)] := by
  have evaluated : (match (vectorClasses [[0]]).elements ⟨"class"⟩ with
      | .error _ => none
      | .ok list =>
          match weightMatrix (vectorClasses [[0]]).strategy
              (greedyConfig.thresholds.threshold "class").toFloat
              (list.elements.map (vectorClasses [[0]]).view)
              ((vectorClasses [[0], [1], [9]]).viewsOf ⟨"class"⟩) with
          | .error _ => none
          | .ok weights => some (weights.length,
              (Assignment.chosenPairs greedyConfig.matching.mode weights
                ((vectorClasses [[0], [1], [9]]).viewsOf ⟨"class"⟩).length).map
                  MatchedPair.position)) = some (1, [(0, 0), (0, 1)]) := by
    decide +kernel
  cases found : (vectorClasses [[0]]).elements ⟨"class"⟩ with
  | error failure => simp [found] at evaluated
  | ok list =>
      cases matrix : weightMatrix (vectorClasses [[0]]).strategy
          (greedyConfig.thresholds.threshold "class").toFloat
          (list.elements.map (vectorClasses [[0]]).view)
          ((vectorClasses [[0], [1], [9]]).viewsOf ⟨"class"⟩) with
      | error failure => simp [found, matrix] at evaluated
      | ok weights =>
          simp only [found, matrix, Option.some.injEq, Prod.mk.injEq] at evaluated
          rcases evaluated with ⟨size, positions⟩
          have holds := weightMatrix_eq_ok_iff.mp matrix
          refine ⟨_, compareKind_eq_ok_iff.mpr ⟨list, weights, found, holds, rfl⟩, size, ?_⟩
          rw [← positions]
          exact (Assignment.perm_ofPairs _ _ _).map MatchedPair.position

/-- Two application elements take the same library element, and a third one scores too little. -/
theorem compareKind_pairsElements_vectorClasses :
    ∃ report list, compareKind greedyConfig (vectorClasses [[0]])
        (vectorClasses [[0], [1], [9]]) ⟨"class"⟩ = .ok report ∧
      (vectorClasses [[0]]).elements ⟨"class"⟩ = .ok list ∧
      report.PairsElements (vectorClasses [[0]]).strategy
        (list.elements.map (vectorClasses [[0]]).view)
        ((vectorClasses [[0], [1], [9]]).viewsOf ⟨"class"⟩) ∧
      (report.assignment.pairs.map MatchedPair.position).Perm [(0, 0), (0, 1)] := by
  rcases exists_compareKind_vectorClasses with ⟨report, success, _, positions⟩
  rcases compareKind_pairsElements success with ⟨list, found, _, _, _, pairsElements⟩
  exact ⟨report, list, success, found, pairsElements, positions⟩

/-! ## How many elements have a pair -/

namespace Assignment

/-- The library elements that occur in a pair, each of them once. -/
def partnered (assignment : Assignment) : List Nat :=
  (assignment.pairs.map MatchedPair.library).dedup

theorem length_partnered_le (assignment : Assignment) :
    assignment.partnered.length ≤ assignment.matched := by
  have part := (List.dedup_sublist (assignment.pairs.map MatchedPair.library)).length_le
  rw [List.length_map] at part
  exact part

theorem matched_eq_length_partnered_iff (assignment : Assignment) :
    assignment.matched = assignment.partnered.length ↔
      (assignment.pairs.map MatchedPair.library).Nodup := by
  have part := List.dedup_sublist (assignment.pairs.map MatchedPair.library)
  rw [← List.dedup_eq_self, ← part.length_eq, List.length_map]
  exact eq_comm

end Assignment

/-- What the number of pairs says about the elements on both sides. -/
structure KindComparison.CountsPairs (report : KindComparison) : Prop where
  /-- There are as many pairs as application elements with a pair. -/
  matched_eq : report.assignment.matched =
    (report.assignment.pairs.map MatchedPair.application).dedup.length
  matched_le : report.assignment.matched ≤ report.assignment.applicationCount
  partnered_le_matched : report.assignment.partnered.length ≤ report.assignment.matched
  partnered_le : report.assignment.partnered.length ≤ report.assignment.libraryCount
  /-- A library element with several pairs is the only way to have more pairs. -/
  matched_eq_partnered_iff : report.assignment.matched = report.assignment.partnered.length ↔
    (report.assignment.pairs.map MatchedPair.library).Nodup
  optimal : report.mode = .optimal →
    report.assignment.matched = report.assignment.partnered.length

/--
A report counts the application elements that have a pair. The library elements that have one are at
most as many, and as many if and only if no library element is taken twice, as in the optimal mode.
-/
theorem compareKind_countsPairs {config : Config} {library application : Profile} {kind : Kind}
    {report : KindComparison} (success : compareKind config library application kind = .ok report) :
    report.CountsPairs := by
  rcases compareKind_eq_ok_iff.mp success with ⟨list, weights, found, holds, rfl⟩
  have selection := Assignment.isSelection_ofPairs config.matching.mode weights
    (application.viewsOf kind).length
  constructor
  case matched_eq =>
    rw [List.dedup_eq_self.mpr selection.single, List.length_map]
    rfl
  case matched_le =>
    rw [Assignment.matched, ← List.length_map MatchedPair.application]
    apply length_le_of_forall_lt selection.single
    intro position member
    rcases List.mem_map.mp member with ⟨pair, pairMember, rfl⟩
    exact (selection.in_range pair pairMember).2
  case partnered_le_matched => exact Assignment.length_partnered_le _
  case partnered_le =>
    apply length_le_of_forall_lt (List.nodup_dedup _)
    intro position member
    rcases List.mem_map.mp (List.mem_dedup.mp member) with ⟨pair, pairMember, rfl⟩
    exact (selection.in_range pair pairMember).1
  case matched_eq_partnered_iff => exact Assignment.matched_eq_length_partnered_iff _
  case optimal =>
    intro optimal
    have mode : config.matching.mode = .optimal := optimal
    have rows_nodup := (Assignment.isMatching_positivePairs weights
      (application.viewsOf kind).length).rows_nodup
    rw [List.map_map] at rows_nodup
    rw [Assignment.matched_eq_length_partnered_iff,
      ((Assignment.perm_ofPairs _ _ _).map _).nodup_iff, mode]
    exact rows_nodup

/-- The only library element has two pairs, so that a single one is counted as two. -/
theorem compareKind_countsPairs_vectorClasses :
    ∃ report, compareKind greedyConfig (vectorClasses [[0]]) (vectorClasses [[0], [1], [9]])
        ⟨"class"⟩ = .ok report ∧
      report.CountsPairs ∧ report.assignment.matched = 2 ∧ report.assignment.partnered = [0] := by
  rcases exists_compareKind_vectorClasses with ⟨report, success, _, positions⟩
  have size := positions.length_eq
  rw [List.length_map] at size
  have libraries := (positions.map Prod.fst).dedup
  rw [List.map_map] at libraries
  exact ⟨report, success, compareKind_countsPairs success, size, libraries.eq_singleton⟩

/-- The number of pairs is not the number of library elements with a pair, and it can be greater. -/
theorem matched_notPartnered :
    ¬∀ (config : Config) (library application : Profile) (kind : Kind) (report : KindComparison),
      compareKind config library application kind = .ok report →
        report.assignment.matched = report.assignment.partnered.length ∧
          report.assignment.matched ≤ report.assignment.libraryCount := by
  intro claimed
  rcases exists_compareKind_vectorClasses with ⟨report, success, libraryCount, positions⟩
  have size := positions.length_eq
  rw [List.length_map] at size
  have bounded := (claimed _ _ _ _ _ success).2
  rw [Assignment.matched, size, libraryCount] at bounded
  exact absurd bounded (by decide)

end Resemblance
