import Resemblance.Assignment.Greedy
import Resemblance.Assignment.Optimal
import Resemblance.Config.Document
import Resemblance.Profile.Basic

/-!
# Comparing profiles

How much of a library is found in an application. For each kind of the library, every library
element is scored against every application element with the library's strategy; scores below the
threshold of the kind count as zero, and the elements are matched with what remains. The overall
score is the total of all matched scores for each library element, at most 1.

`Comparison.toDocument` is the report of a comparison.
-/

namespace Resemblance

structure KindComparison where
  kind : Kind
  mode : MatchingMode
  threshold : Binary64
  assignment : Assignment

structure Comparison where
  library : String
  application : String
  kinds : List KindComparison
  overall : Float

/-- A score that counts only from a threshold on. -/
def scoreFrom (threshold score : Float) : Float :=
  if threshold ≤ score then score else 0

def weightRow (strategy : Strategy) (threshold : Float) (applications : List ElementView)
    (library : ElementView) : Except Failure (List Float) :=
  applications.mapM fun application => do
    return scoreFrom threshold (← strategy.score library application)

def weightMatrix (strategy : Strategy) (threshold : Float)
    (libraries applications : List ElementView) : Except Failure WeightMatrix :=
  libraries.mapM (weightRow strategy threshold applications)

def Assignment.inMode (mode : MatchingMode) (weights : WeightMatrix) (applicationCount : Nat) :
    Except Failure Assignment :=
  match mode with
  | .greedy => Assignment.greedy weights applicationCount
  | .optimal => Assignment.optimal weights applicationCount

namespace Profile

/-- The elements of a kind as similarities see them, none if there is no section for them. -/
def viewsOf (profile : Profile) (kind : Kind) : List ElementView :=
  match profile.elements kind with
  | .ok list => list.elements.map profile.view
  | .error _ => []

end Profile

/-- Compares the elements of a kind, which the library must have a section for. -/
def compareKind (config : Config) (library application : Profile) (kind : Kind) :
    Except Failure KindComparison := do
  let threshold := config.thresholds.threshold kind.name
  let list ← library.elements kind
  let applications := application.viewsOf kind
  let weights ← weightMatrix library.strategy threshold.toFloat (list.elements.map library.view)
    applications
  let assignment ← Assignment.inMode config.matching.mode weights applications.length
  return ⟨kind, config.matching.mode, threshold, assignment⟩

namespace Comparison

def libraryCount (kinds : List KindComparison) : Nat :=
  kinds.foldr (fun kind count => kind.assignment.libraryCount + count) 0

def total (kinds : List KindComparison) : Float :=
  kinds.foldl (fun total kind => total + kind.assignment.total) (-0.0)

/-- The total score for each library element, at most 1, and 0 for a library without elements. -/
def overallOf (kinds : List KindComparison) : Float :=
  if libraryCount kinds = 0 then 0
  else
    let mean := total kinds / Float.ofNat (libraryCount kinds)
    if mean < 1 then mean else 1

/-- The library and the application of two profiles: only an application second changes places. -/
def roles (left right : Profile) : Profile × Profile :=
  if left.isApplication ∧ ¬right.isApplication then (right, left) else (left, right)

def ofProfiles (config : Config) (left right : Profile) : Except Failure Comparison := do
  let (library, application) := roles left right
  let kinds ← library.kinds.mapM (compareKind config library application)
  return ⟨library.label, application.label, kinds, overallOf kinds⟩

def kind? (comparison : Comparison) (kind : Kind) : Option KindComparison :=
  comparison.kinds.find? (·.kind == kind)

/-- A number of a report; a zero has no sign. -/
def reported (number : Float) : Document :=
  .decimal (if number == 0 then .zero else .ofFloat number)

def kindDocument (comparison : KindComparison) : Document :=
  let assignment := comparison.assignment
  .mapping [
    ("kind", .text comparison.kind.name),
    ("mode", .text comparison.mode.name),
    ("threshold", reported comparison.threshold.toFloat),
    ("library_elements", .integer assignment.libraryCount),
    ("application_elements", .integer assignment.applicationCount),
    ("matched", .integer assignment.matched),
    ("total_score", reported assignment.total),
    ("aggregate", reported assignment.aggregate)]

def toDocument (comparison : Comparison) : Document :=
  .mapping [
    ("library", .text comparison.library),
    ("application", .text comparison.application),
    ("kinds", .sequence (comparison.kinds.map kindDocument)),
    ("overall", reported comparison.overall)]

end Comparison

end Resemblance
