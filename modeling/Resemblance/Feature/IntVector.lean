/-!
# Integer vectors

Vectors of 32-bit numbers, their Manhattan distance, and fitting a vector to a dimension.
-/

namespace Resemblance

namespace IntVector

/-- The sum of the differences of corresponding components; none between unequal dimensions. -/
def distance? (left right : List Int32) : Option Nat :=
  if left.length = right.length then
    some ((left.zipWith (fun x y => (x.toInt - y.toInt).natAbs) right).foldr (· + ·) 0)
  else none

/-- A vector cut or padded with zeros to a dimension. -/
def fit (dimension : Nat) (vector : List Int32) : List Int32 :=
  vector.take dimension ++ List.replicate (dimension - vector.length) 0

end IntVector

end Resemblance
