import Resemblance.Assignment.Basic
import Resemblance.Assignment.Solver

/-!
# Optimal assignment

Pairs in which every library element and every application element occurs at most once, with the
greatest sum of scores in millionths. The solver matches the smaller collection to the larger one;
matched elements that score zero form no pair.
-/

namespace Resemblance

namespace Assignment

def fixedEntry (weights : WeightMatrix) (library application : Nat) : Int :=
  toFixed (weights.entry library application)

/-- A matrix of whole numbers, with every entry computed once. -/
def tabulate (rows columns : Nat) (entry : Nat → Nat → Int) :
    Vector (Vector Int columns) rows :=
  Vector.ofFn fun row => Vector.ofFn fun column => entry row.val column.val

/-- The row and column numbers that the solver matches in a matrix of `rows` rows. -/
def solvedPairs (rows columns : Nat) (entry : Nat → Nat → Int) : List (Nat × Nat) :=
  let table := tabulate rows columns entry
  let solution := Solver.solve fun row column => (table.get row).get column
  (List.finRange rows).filterMap fun row =>
    (solution.columnOf.get row).map fun column => (row.val, column.val)

/-- The pair of two elements, if their score is greater than zero. -/
def positivePair? (weights : WeightMatrix) (library application : Nat) : Option MatchedPair :=
  let score := weights.entry library application
  if 0 < score then some ⟨library, application, score⟩ else none

/-- The pairs with the greatest total in which no element occurs twice. -/
def optimal (weights : WeightMatrix) (applicationCount : Nat) : Except Failure Assignment := do
  weights.checkShape applicationCount
  let libraryCount := weights.length
  let pairs :=
    if libraryCount = 0 ∨ applicationCount = 0 then []
    else if libraryCount ≤ applicationCount then
      (solvedPairs libraryCount applicationCount (fixedEntry weights)).filterMap
        fun (library, application) => positivePair? weights library application
    else
      (solvedPairs applicationCount libraryCount
        (fun application library => fixedEntry weights library application)).filterMap
          fun (application, library) => positivePair? weights library application
  return ofPairs pairs libraryCount applicationCount

end Assignment

end Resemblance
