import Resemblance.Proofs.Assignment.Diagonal
import Resemblance.Proofs.Assignment.Threshold
import Resemblance.Proofs.Profile.Building

/-!
# Profiles resemble their copies

In a comparison of a library with a copy of it, each element scores 1 with its own copy, and no
score is greater. So the matrix of each kind has a diagonal of ones, which no threshold of a valid
configuration cuts, and the assignment leaves nothing out. This holds of every profile that comes
from an assembly with configured algorithms, however often it was built, loaded and marked.
-/

namespace Resemblance

/-! ## Scores up to one -/

theorem clampScore_le (score : Float) : clampScore score ≤ 1 := by
  have zero_le := Score.le_of_lt Score.zero_lt_one
  rw [clampScore]
  split
  · exact zero_le
  · split
    · exact Score.le_of_not_lt rfl rfl (Score.lt_irrefl 1)
    · rename_i notMore
      split
      · rename_i same
        exact Score.le_of_not_lt (Score.beq_self_iff.mp same) rfl notMore
      · exact zero_le

theorem scoreFrom_le {threshold score : Float} (atMost : score ≤ 1) :
    scoreFrom threshold score ≤ 1 := by
  rw [scoreFrom]
  split
  · exact atMost
  · exact Score.le_of_lt Score.zero_lt_one

namespace Strategy

variable {strategy : Strategy} {library application : ElementView} {similarity : Similarity}

theorem exists_score_le (found : strategy.similarity library.kind = .ok similarity)
    (application : ElementView) :
    ∃ score, strategy.score library application = .ok score ∧ score ≤ 1 := by
  have zero_le := Score.le_of_lt Score.zero_lt_one
  rw [score, found]
  change ∃ score, (if library.kind ≠ application.kind then .ok 0 else _) = Except.ok score ∧ _
  split
  · exact ⟨0, rfl, zero_le⟩
  · split
    · exact ⟨0, rfl, zero_le⟩
    · exact ⟨_, rfl, clampScore_le _⟩

theorem score_eq_clamp (found : strategy.similarity library.kind = .ok similarity)
    (sameKind : library.kind = application.kind)
    (sameDescriptor : library.sameDescriptor application) :
    strategy.score library application = .ok (clampScore (similarity.score library application)) := by
  rw [score, found]
  change (if library.kind ≠ application.kind then .ok 0 else _) = Except.ok _
  rw [if_neg (not_not.mpr sameKind), if_neg (by simp [sameDescriptor])]
  rfl

end Strategy

/-! ## Valid thresholds -/

theorem of_requireUnit_eq_ok {setting : String} {number : Binary64}
    (inRange : requireUnit setting number = .ok ()) :
    0 ≤ number.toFloat ∧ number.toFloat ≤ 1 := by
  rw [requireUnit] at inRange
  split at inRange
  · assumption
  · cases inRange

theorem Config.threshold_le_one {config : Config} (valid : config.validate = .ok ())
    (kind : String) : (config.thresholds.threshold kind).toFloat ≤ 1 := by
  rcases except_bind_eq_ok.mp valid with ⟨_, thresholds, _⟩
  rcases except_bind_eq_ok.mp thresholds with ⟨_, fallback, perKind⟩
  rw [Thresholds.threshold, NameMap.get?]
  cases found : config.thresholds.perKind.entries.find? (·.1 == kind) with
  | none => exact (of_requireUnit_eq_ok fallback).2
  | some entry =>
      have checked := Profile.checks_eq_ok_iff.mp perKind entry (List.mem_of_find?_eq_some found)
      exact (of_requireUnit_eq_ok checked).2

/-! ## Copies -/

/-- The same element in a profile that is marked in another way. -/
def ElementView.marked (view : ElementView) (isApplication : Bool) : ElementView :=
  { view with isApplication }

namespace Profile

/-- The copy has the same descriptors, blueprints and elements. -/
structure SameContents (profile copy : Profile) : Prop where
  descriptors_eq : copy.descriptors = profile.descriptors
  blueprints_eq : ∀ kind, copy.blueprints.get? kind = profile.blueprints.get? kind
  elements_eq : ∀ kind, copy.elements kind = profile.elements kind

variable {profile copy : Profile} {config : Config}

/-- An element of a copy is seen as it is in the original, apart from the mark. -/
theorem SameContents.view_eq (same : profile.SameContents copy) (element : Element) :
    copy.view element = (profile.view element).marked copy.isApplication := by
  rw [ElementView.marked, view, view, same.descriptors_eq, same.blueprints_eq]

theorem SameContents.viewsOf_eq (same : profile.SameContents copy) {kind : Kind}
    {list : ElementList} (found : profile.elements kind = .ok list) :
    copy.viewsOf kind = (list.elements.map profile.view).map fun view =>
      view.marked copy.isApplication := by
  rw [viewsOf, same.elements_eq, found, List.map_map]
  exact List.map_congr_left fun element _ => same.view_eq element

/-- An admitted element scores one with its image in a copy. -/
theorem Comparable.score_self (comparable : profile.Comparable config) {element : Element}
    (admits : profile.Admits element) (isApplication : Bool) :
    profile.strategy.score (profile.view element) ((profile.view element).marked isApplication) =
      .ok 1 := by
  rcases admits.conforms with ⟨blueprint, found, conforms⟩
  rcases admits.described with ⟨table, known, within⟩
  rcases DescriptorTable.exists_resolve?_eq within with ⟨descriptor, resolved⟩
  rcases comparable.runs found with ⟨algorithm, runs, fieldsEq⟩
  have filled := conforms.filled
  rw [fieldsEq] at filled
  rcases List.forall₂_cons_left_iff.mp filled with
    ⟨_, _, ⟨value, rfl, typeEq, countable⟩, _, slotsEq⟩
  have field : (profile.view element).field? (Strategy.algorithmSlot config algorithm).key =
      some value := by
    simp [ElementView.field?, view, found, Blueprint.keys, fieldsEq, slotsEq]
  have described : (profile.view element).descriptor? = some descriptor := by
    simp only [view, known, Except.toOption, Option.bind_some, resolved]
  have sameDescriptor : (profile.view element).sameDescriptor
      ((profile.view element).marked isApplication) := by
    simp only [ElementView.sameDescriptor, ElementView.marked, described, beq_self_eq_true]
  have imageField : ((profile.view element).marked isApplication).field?
      (Strategy.algorithmSlot config algorithm).key = some value := field
  have sameKind : (profile.view element).kind =
      ((profile.view element).marked isApplication).kind := rfl
  rw [Strategy.score_eq_clamp runs.similarity_ok sameKind sameDescriptor,
    Strategy.score_algorithmSimilarity typeEq countable field imageField]
  rfl

theorem exists_elements_eq (coherent : profile.Coherent) {kind : Kind}
    (member : kind ∈ profile.kinds) : ∃ list, profile.elements kind = .ok list := by
  rcases List.mem_filterMap.mp member with ⟨registered, registeredMember, kindFound⟩
  cases contentEq : registered.content with
  | elements list =>
      simp only [kindOf?, contentEq, Option.some.injEq] at kindFound
      subst kindFound
      exact ⟨list, coherent.elements_eq_of_mem registeredMember contentEq⟩
  | _ => simp [kindOf?, contentEq] at kindFound

/-- The matrix of a kind, for a profile and its copy. -/
theorem Comparable.exists_weightMatrix (comparable : profile.Comparable config)
    (same : profile.SameContents copy) {threshold : Float} (threshold_le : threshold ≤ 1)
    {kind : Kind} {list : ElementList} (found : profile.elements kind = .ok list) :
    ∃ weights, weightMatrix profile.strategy threshold (list.elements.map profile.view)
        (copy.viewsOf kind) = .ok weights ∧
      weights.length = list.elements.length ∧ Assignment.HasUnitDiagonal weights := by
  rw [same.viewsOf_eq found]
  have rows : ∀ view ∈ list.elements.map profile.view, ∃ row,
      weightRow profile.strategy threshold
          ((list.elements.map profile.view).map fun view => view.marked copy.isApplication) view =
        .ok row ∧
        List.Forall₂
          (fun image score => score ≤ 1 ∧ (image = view.marked copy.isApplication → score = 1))
          ((list.elements.map profile.view).map fun view => view.marked copy.isApplication)
          row := by
    intro view viewMember
    rcases List.mem_map.mp viewMember with ⟨element, elementMember, rfl⟩
    have admits := comparable.admits_of_elements_eq found elementMember
    rcases comparable.exists_similarity_eq admits with ⟨algorithm, similarityEq⟩
    apply exists_mapM_eq_ok
    intro image _
    rcases @Strategy.exists_score_le _ (profile.view element) _ similarityEq image with
      ⟨score, success, atMost⟩
    refine ⟨scoreFrom threshold score, by rw [success]; rfl, scoreFrom_le atMost, ?_⟩
    rintro rfl
    rw [comparable.score_self admits, Except.ok.injEq] at success
    rw [← success]
    exact Assignment.scoreFrom_of_le threshold_le
  rcases exists_mapM_eq_ok rows with ⟨weights, success, related⟩
  refine ⟨weights, success, ?_, Assignment.hasUnitDiagonal_of_forall₂ related⟩
  rw [← related.length_eq, List.length_map]

/-- What the comparison of a kind with its copy reports. -/
structure ReportsAll (profile : Profile) (config : Config) (kind : Kind)
    (report : KindComparison) : Prop where
  kind_eq : report.kind = kind
  mode_eq : report.mode = config.matching.mode
  /-- All elements of the kind have a pair. -/
  complete : ∃ list, profile.elements kind = .ok list ∧
    report.assignment.IsComplete config.matching.mode list.elements.length

theorem Comparable.exists_compareKind_eq {built : Config} (comparable : profile.Comparable built)
    (same : profile.SameContents copy) (valid : config.validate = .ok ()) {kind : Kind}
    (member : kind ∈ profile.kinds) :
    ∃ report, compareKind config profile copy kind = .ok report ∧
      profile.ReportsAll config kind report := by
  rcases exists_elements_eq comparable.toCoherent member with ⟨list, found⟩
  rcases comparable.exists_weightMatrix same (config.threshold_le_one valid kind.name) found with
    ⟨weights, matrix, size, unit⟩
  rcases unit.isComplete_inMode config.matching.mode with ⟨assignment, assigned, complete⟩
  have applicationCount : (copy.viewsOf kind).length = weights.length := by
    rw [same.viewsOf_eq found, List.length_map, List.length_map, size]
  rw [size] at complete
  refine ⟨⟨kind, config.matching.mode, config.thresholds.threshold kind.name, assignment⟩, ?_,
    rfl, rfl, list, found, complete⟩
  rw [← applicationCount] at assigned
  simp only [compareKind, found, matrix, assigned, bind, Except.bind]
  rfl

theorem Comparable.exists_ofProfiles_eq {built : Config} (comparable : profile.Comparable built)
    (same : profile.SameContents copy) (valid : config.validate = .ok ())
    (isLibrary : profile.isApplication = false) (isApplication : copy.isApplication = true) :
    ∃ comparison, Comparison.ofProfiles config profile copy = .ok comparison ∧
      Comparison.ofProfiles config copy profile = .ok comparison ∧
      List.Forall₂ (profile.ReportsAll config) profile.kinds comparison.kinds := by
  have each : ∀ kind ∈ profile.kinds, ∃ report,
      compareKind config profile copy kind = .ok report ∧ profile.ReportsAll config kind report :=
    fun _ member => comparable.exists_compareKind_eq same valid member
  rcases exists_mapM_eq_ok each with ⟨reports, success, complete⟩
  have forward : Comparison.roles profile copy = (profile, copy) := by
    simp [Comparison.roles, isLibrary]
  have backward : Comparison.roles copy profile = (profile, copy) := by
    simp [Comparison.roles, isLibrary, isApplication]
  refine ⟨⟨profile.label, copy.label, reports, Comparison.overallOf reports⟩, ?_, ?_, complete⟩
  · rw [Comparison.ofProfiles, forward]
    dsimp only
    rw [success]
    rfl
  · rw [Comparison.ofProfiles, backward]
    dsimp only
    rw [success]
    rfl

end Profile

/--
A library that comes from an assembly with configured algorithms resembles every copy of it that is
marked as an application, in either order: for each kind, the optimal mode pairs each library
element with all millionths, and the greedy mode has as many pairs, each with the score 1.
-/
theorem Assembly.selfSimilar {assembly : Assembly} (configured : assembly.strategy? = none)
    (known : assembly.kinds ⊆ assembly.strategy.kinds) {library copy : Profile}
    (yields : assembly.Yields library) (same : library.SameContents copy)
    (isLibrary : library.isApplication = false) (isApplication : copy.isApplication = true)
    {config : Config} (valid : config.validate = .ok ()) :
    ∃ comparison,
      Comparison.ofProfiles config library copy = .ok comparison ∧
      Comparison.ofProfiles config copy library = .ok comparison ∧
      List.Forall₂ (library.ReportsAll config) library.kinds comparison.kinds := by
  have comparable := yields.comparable configured known
  exact comparable.exists_ofProfiles_eq same valid isLibrary isApplication

/-- A class, and two methods of one descriptor that are too short for a digest. -/
def overloadedMethods : List Extracted :=
  [⟨⟨"class"⟩, "La/A;", ["x", "y"], []⟩, ⟨⟨"method"⟩, "()V", ["return"], []⟩,
    ⟨⟨"method"⟩, "()V", [], []⟩]

theorem exists_build_overloadedMethods_eq_ok :
    ∃ profile library list, (Assembly.ofConfig .standard).build = .ok profile ∧
      profile.build ⟨"a", "1", "a.jar", "static", Vector.replicate 16 0, 0, 0⟩
        overloadedMethods = .ok library ∧
      library.elements ⟨"method"⟩ = .ok list ∧ library.isApplication = false ∧
      list.elements.length = 2 := by
  have evaluated : (match (Assembly.ofConfig .standard).build with
      | .error _ => false
      | .ok profile =>
          match profile.build ⟨"a", "1", "a.jar", "static", Vector.replicate 16 0, 0, 0⟩
            overloadedMethods with
          | .error _ => false
          | .ok library =>
              match library.elements ⟨"method"⟩ with
              | .error _ => false
              | .ok list => decide (library.isApplication = false ∧ list.elements.length = 2)) =
        true := by
    decide +kernel
  cases assembled : (Assembly.ofConfig .standard).build with
  | error failure => simp [assembled] at evaluated
  | ok profile =>
      cases built : profile.build ⟨"a", "1", "a.jar", "static", Vector.replicate 16 0, 0, 0⟩
        overloadedMethods with
      | error failure => simp [assembled, built] at evaluated
      | ok library =>
          cases found : library.elements ⟨"method"⟩ with
          | error failure => simp [assembled, built, found] at evaluated
          | ok list =>
              simp only [assembled, built, found, decide_eq_true_eq] at evaluated
              exact ⟨profile, library, list, rfl, built, found, evaluated⟩

/-- Both methods are paired, although each of them scores 1 with the other one as well. -/
theorem Assembly.selfSimilar_overloadedMethods :
    ∃ library list comparison, (ofConfig .standard).Yields library ∧
      library.elements ⟨"method"⟩ = .ok list ∧ list.elements.length = 2 ∧
      Comparison.ofProfiles .standard { library with isApplication := true } library =
        .ok comparison ∧
      List.Forall₂ (library.ReportsAll .standard) library.kinds comparison.kinds := by
  rcases exists_build_overloadedMethods_eq_ok with
    ⟨profile, library, list, assembled, built, found, isLibrary, count⟩
  rcases except_bind_eq_ok.mp assembled with ⟨_, valid, _⟩
  have yields := Yields.built (.assembled assembled) built
  have same : library.SameContents { library with isApplication := true } :=
    ⟨rfl, fun _ => rfl, fun _ => rfl⟩
  rcases selfSimilar rfl (List.Subset.refl _) yields same isLibrary rfl valid with
    ⟨comparison, _, compared, complete⟩
  exact ⟨library, list, comparison, yields, found, count, compared, complete⟩

end Resemblance
