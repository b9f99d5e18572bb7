import Resemblance.Proofs.Matching.Ranking
import Resemblance.Proofs.Matching.ReportedPairs

/-!
# Comparisons that cannot fail

A comparison fails if the library has no section for one of its kinds, no similarity for one of its
elements, or if its scores do not make a matrix. None of this happens to a library that comes from
an assembly with configured algorithms: its strategy scores each of its elements with everything,
since data of another sort just score nothing, and each row has one score for each element of the
application. What the application holds, and how it was configured, does not matter.
-/

namespace Resemblance

namespace Profile

variable {built config : Config} {library application : Profile} {kind : Kind} {list : ElementList}

/-! ## Scores -/

/-- All elements of a kind have scores with whatever the application has. -/
theorem Comparable.exists_holdsScores (comparable : library.Comparable built)
    (found : library.elements kind = .ok list) (threshold : Float)
    (applications : List ElementView) :
    ∃ weights : WeightMatrix, weights.HoldsScores library.strategy threshold
      (list.elements.map library.view) applications := by
  have scored : ∀ view ∈ list.elements.map library.view, ∀ other,
      ∃ score, library.strategy.score view other = .ok score := by
    intro view viewMember other
    rcases List.mem_map.mp viewMember with ⟨element, member, rfl⟩
    rcases comparable.exists_similarity_eq (comparable.admits_of_elements_eq found member) with
      ⟨algorithm, similarityEq⟩
    rcases @Strategy.exists_score_le _ (library.view element) _ similarityEq other with
      ⟨score, success, _⟩
    exact ⟨score, success⟩
  exact WeightMatrix.exists_holdsScores fun view member other _ => scored view member other

/-! ## Comparisons -/

/-- The report of a kind is about all elements that both profiles have of it. -/
structure CountsAll (library application : Profile) (kind : Kind) (report : KindComparison) :
    Prop where
  kind_eq : report.kind = kind
  libraryCount_eq : ∃ list, library.elements kind = .ok list ∧
    report.assignment.libraryCount = list.elements.length
  applicationCount_eq : report.assignment.applicationCount = (application.viewsOf kind).length

theorem Comparable.exists_compareKind_eq_ok (comparable : library.Comparable built)
    (config : Config) (application : Profile) (member : kind ∈ library.kinds) :
    ∃ report, compareKind config library application kind = .ok report ∧
      CountsAll library application kind report := by
  rcases exists_elements_eq comparable.toCoherent member with ⟨list, found⟩
  rcases comparable.exists_holdsScores found (config.thresholds.threshold kind.name).toFloat
    (application.viewsOf kind) with ⟨weights, holds⟩
  have size : weights.length = list.elements.length := by
    rw [← holds.length_eq, List.length_map]
  exact ⟨_, compareKind_eq_ok_iff.mpr ⟨list, weights, found, holds, rfl⟩,
    rfl, ⟨list, found, size⟩, rfl⟩

end Profile

namespace Comparison

/-- The comparison has a report for each kind of the library, in its order. -/
def Covers (left right : Profile) (comparison : Comparison) : Prop :=
  List.Forall₂ (Profile.CountsAll (roles left right).1 (roles left right).2)
    (roles left right).1.kinds comparison.kinds

theorem exists_ofProfiles_eq_ok (config : Config) {built : Config} {left right : Profile}
    (comparable : (roles left right).1.Comparable built) :
    ∃ comparison, ofProfiles config left right = .ok comparison ∧
      comparison.Covers left right := by
  rcases exists_mapM_eq_ok fun kind member =>
    comparable.exists_compareKind_eq_ok config (roles left right).2 member with
    ⟨reports, success, covers⟩
  refine ⟨⟨(roles left right).1.label, (roles left right).2.label, reports, overallOf reports⟩,
    ?_, covers⟩
  rw [ofProfiles]
  dsimp only
  rw [success]
  rfl

end Comparison

/-- A profile from an assembly whose strategy and kinds are those of some configuration. -/
def Profile.Configured (profile : Profile) : Prop :=
  ∃ (assembly : Assembly) (config : Config),
    assembly.strategy = .ofConfig config ∧ assembly.kinds? = none ∧ assembly.Yields profile

theorem Profile.Configured.exists_comparable {profile : Profile}
    (configured : profile.Configured) : ∃ config, profile.Comparable config := by
  rcases configured with ⟨assembly, config, derived, standard, yields⟩
  refine ⟨config, yields.comparable_of_strategy_eq derived ?_⟩
  rw [Assembly.kinds, standard, Option.getD_none]
  exact List.Subset.refl _

namespace Detector

/--
Any two profiles that come from configured assemblies can be compared, in both modes and whatever
the configurations have to do with each other, with a report for each kind of the library in its
order. So no detection among such profiles fails.
-/
theorem batch_isTotal (config : Config) {libraries : List Profile} {application : Profile}
    (librariesConfigured : ∀ library ∈ libraries, library.Configured)
    (applicationConfigured : application.Configured) :
    (∀ library ∈ libraries, ∃ comparison,
      Comparison.ofProfiles config library application = .ok comparison ∧
        comparison.Covers library application) ∧
    ∃ reported, (⟨config, libraries⟩ : Detector).detect application = .ok reported := by
  have compared : ∀ library ∈ libraries, ∃ comparison,
      Comparison.ofProfiles config library application = .ok comparison ∧
        comparison.Covers library application := by
    intro library member
    have leading : (Comparison.roles library application).1.Configured := by
      rw [Comparison.roles]
      split
      · exact applicationConfigured
      · exact librariesConfigured library member
    rcases leading.exists_comparable with ⟨built, comparable⟩
    exact Comparison.exists_ofProfiles_eq_ok config comparable
  have detections : ∀ library ∈ libraries, ∃ detection,
      Detection.ofProfiles config application library = .ok detection ∧ True := by
    intro library member
    rcases compared library member with ⟨comparison, success, _⟩
    rw [Detection.ofProfiles, success]
    exact ⟨_, rfl, trivial⟩
  rcases exists_mapM_eq_ok detections with ⟨scored, success, _⟩
  exact ⟨compared, _, @detect_eq ⟨config, libraries⟩ application scored success⟩

/-- Other algorithms and settings than the standard ones, for some of the kinds. -/
def otherConfig : Config :=
  { Config.standard with
    algorithms := .ofList [("class", .featureVector), ("method", .bloom), ("note", .lshDigest)]
    bloom := ⟨64, 1⟩
    dimension := 2 }

theorem exists_build_otherConfig_eq_ok :
    ∃ blank filled, (Assembly.ofConfig otherConfig).build = .ok blank ∧
      blank.build ⟨"b", "", "b.jar", "static", Vector.replicate 16 0, 0, 0⟩ overloadedMethods =
        .ok filled := by
  have evaluated : (match (Assembly.ofConfig otherConfig).build with
      | .error _ => false
      | .ok blank =>
          (blank.build ⟨"b", "", "b.jar", "static", Vector.replicate 16 0, 0, 0⟩
            overloadedMethods).isOk) = true := by
    decide +kernel
  cases assembled : (Assembly.ofConfig otherConfig).build with
  | error failure => simp [assembled] at evaluated
  | ok blank =>
      cases built : blank.build ⟨"b", "", "b.jar", "static", Vector.replicate 16 0, 0, 0⟩
        overloadedMethods with
      | error failure => simp [assembled, built, Except.isOk, Except.toBool] at evaluated
      | ok filled => exact ⟨blank, filled, rfl, built⟩

/-- Libraries with different algorithms for their kinds, some of which only one of them has. -/
theorem batch_isTotal_mixed :
    ∃ library other list, library.Configured ∧ other.Configured ∧
      library.elements ⟨"method"⟩ = .ok list ∧ list.elements.length = 2 ∧
      ∃ reported, (⟨.standard, [library, other]⟩ : Detector).detect
        { other with isApplication := true } = .ok reported := by
  rcases exists_build_overloadedMethods_eq_ok with
    ⟨blank, library, list, assembled, built, found, _, count⟩
  rcases exists_build_otherConfig_eq_ok with ⟨otherBlank, other, otherAssembled, otherBuilt⟩
  have libraryConfigured : library.Configured :=
    ⟨.ofConfig .standard, .standard, rfl, rfl, .built (.assembled assembled) built⟩
  have yields := Assembly.Yields.built (.assembled otherAssembled) otherBuilt
  have otherConfigured : other.Configured :=
    ⟨.ofConfig otherConfig, otherConfig, rfl, rfl, yields⟩
  have configured : ∀ profile ∈ [library, other], profile.Configured := by
    intro profile member
    rcases List.mem_pair.mp member with rfl | rfl
    · exact libraryConfigured
    · exact otherConfigured
  rcases batch_isTotal .standard configured
    ⟨.ofConfig otherConfig, otherConfig, rfl, rfl, yields.marked true⟩ with ⟨_, detected⟩
  exact ⟨library, other, list, libraryConfigured, otherConfigured, found, count, detected⟩

end Detector

end Resemblance
