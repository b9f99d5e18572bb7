import Resemblance.Failure

/-!
# Assignments

Pairs between the elements of a library and the elements of an application, found in a matrix of
scores with a row for each library element and a column for each application element. A score forms
a pair only if it is greater than zero, and the pairs are in order of their library element, then of
their application element.

Scores are compared as floating-point numbers; where whole numbers are needed, `toFixed` takes a
score in units of one millionth.
-/

namespace Resemblance

/-- A library element paired with an application element. -/
structure MatchedPair where
  library : Nat
  application : Nat
  score : Float
  deriving Repr

structure Assignment where
  pairs : List MatchedPair
  /-- The sum of the scores, in the order of the pairs. -/
  total : Float
  libraryCount : Nat
  applicationCount : Nat
  deriving Repr

/-- Scores with a row for each library element and a column for each application element. -/
abbrev WeightMatrix := List (List Float)

/-- The score in a row and column, zero outside the matrix. -/
def WeightMatrix.entry (weights : WeightMatrix) (library application : Nat) : Float :=
  (weights.getD library []).getD application 0

/-- Fails at the first row that does not have a column for each application element. -/
def WeightMatrix.checkShape (weights : WeightMatrix) (applicationCount : Nat) :
    Except Failure Unit :=
  match weights.findIdx? (fun row => row.length ≠ applicationCount) with
  | some row =>
      .error (.internal
        (.rowLength row (weights.getD row []).length applicationCount) none)
  | none => .ok ()

/-- A positive number rounded to the nearest whole number, a half upwards. -/
def roundHalfUp (number : Float) : Nat :=
  let whole := number.toUInt64
  if 0.5 ≤ number - whole.toFloat then whole.toNat + 1 else whole.toNat

def fixedScale : Nat := 1000000

/-- A score in millionths, at most a million; zero unless the score is greater than zero. -/
def toFixed (score : Float) : Nat :=
  if 0 < score then
    min (roundHalfUp ((if score < 1 then score else 1) * 1000000)) fixedScale
  else 0

namespace MatchedPair

/-- The order of pairs: by library element, then by application element. -/
def precedes (left right : MatchedPair) : Bool :=
  left.library < right.library ∨
    (left.library = right.library ∧ left.application ≤ right.application)

end MatchedPair

namespace Assignment

def ofPairs (pairs : List MatchedPair) (libraryCount applicationCount : Nat) : Assignment :=
  let pairs := pairs.mergeSort MatchedPair.precedes
  ⟨pairs, pairs.foldl (fun total pair => total + pair.score) (-0.0), libraryCount, applicationCount⟩

/--
The total score for each library element, at most 1; library elements without a pair count as zero,
and an empty library scores zero.
-/
def aggregate (assignment : Assignment) : Float :=
  if assignment.libraryCount = 0 then 0
  else
    let mean := assignment.total / Float.ofNat assignment.libraryCount
    if mean < 1 then mean else 1

def matched (assignment : Assignment) : Nat :=
  assignment.pairs.length

def pairOf? (assignment : Assignment) (library : Nat) : Option MatchedPair :=
  assignment.pairs.find? (·.library == library)

/-- The sum of the scores in millionths. -/
def fixedTotal (assignment : Assignment) : Nat :=
  assignment.pairs.foldr (fun pair total => toFixed pair.score + total) 0

end Assignment

end Resemblance
