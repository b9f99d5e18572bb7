import Resemblance.Assignment.Basic

/-!
# Greedy assignment

Each application element takes the library element with which it scores best, whether or not others
take the same one; the first of equally good library elements is taken.
-/

namespace Resemblance

namespace Assignment

/-- The better of the best row so far and the next row of a column, if any scores. -/
def betterOf (best? : Option (Nat × Float)) (row : Nat) (score : Float) : Option (Nat × Float) :=
  match best? with
  | none => if 0 < score then some (row, score) else none
  | some (_, best) => if 0 < score ∧ best < score then some (row, score) else best?

/-- The best row of a column: the first one with the greatest score above zero. -/
def bestFrom (row : Nat) (best? : Option (Nat × Float)) : (column : List Float) →
    Option (Nat × Float)
  | [] => best?
  | score :: column => bestFrom (row + 1) (betterOf best? row score) column

def column (weights : WeightMatrix) (application : Nat) : List Float :=
  weights.map fun row => row.getD application 0

/-- The pair of an application element, if any library element scores with it. -/
def greedyPair? (weights : WeightMatrix) (application : Nat) : Option MatchedPair :=
  (bestFrom 0 none (column weights application)).map fun (library, score) =>
    ⟨library, application, score⟩

def greedy (weights : WeightMatrix) (applicationCount : Nat) : Except Failure Assignment := do
  weights.checkShape applicationCount
  return ofPairs ((List.range applicationCount).filterMap (greedyPair? weights)) weights.length
    applicationCount

end Assignment

end Resemblance
