import Resemblance.Assignment.Greedy
import Resemblance.Proofs.Assignment.Optimal
import Resemblance.Proofs.Number.Order

/-!
# What greedy assignments consist of

The scan of a column ends with its best row: a row with the greatest score above zero, and the first
of these. There is at most one, so being the best row of a column says all about the scan, and the
pairs of a greedy assignment are those of an application element with the best row of its column.
-/

namespace Resemblance

namespace Assignment

/-! ## The best row of a column -/

/-- A row has the greatest score above zero in its column, and no earlier row has it. -/
structure IsBest (column : List Float) (row : Nat) (score : Float) : Prop where
  found : column[row]? = some score
  positive : 0 < score
  greatest : ∀ other ∈ column, ¬score < other
  first : ∀ (earlier : Nat) (other : Float),
    earlier < row → column[earlier]? = some other → ¬score ≤ other

/-- What a scan knows of the rows that it has seen. -/
def IsBestOf (seen : List Float) : Option (Nat × Float) → Prop
  | none => ∀ score ∈ seen, ¬0 < score
  | some (row, score) => IsBest seen row score

variable {column seen : List Float} {row other : Nat} {score next : Float}

theorem IsBest.lt_length (best : IsBest column row score) : row < column.length :=
  (List.getElem?_eq_some_iff.mp best.found).1

/-- A next row that scores less, or no more, leaves the best row as it is. -/
theorem IsBest.append (best : IsBest seen row score) (notBetter : ¬score < next) :
    IsBest (seen ++ [next]) row score where
  found := by
    rw [List.getElem?_append_left best.lt_length]
    exact best.found
  positive := best.positive
  greatest := by
    intro other member
    rcases List.mem_append.mp member with old | new
    · exact best.greatest other old
    · rw [List.mem_singleton.mp new]
      exact notBetter
  first := by
    intro earlier other before found
    rw [List.getElem?_append_left (before.trans best.lt_length)] at found
    exact best.first earlier other before found

/-- A row that scores more than all rows before it is the best one. -/
theorem isBest_append (positive : 0 < next) (beaten : ∀ score ∈ seen, ¬next ≤ score) :
    IsBest (seen ++ [next]) seen.length next where
  found := by simp
  positive := positive
  greatest := by
    intro other member
    rcases List.mem_append.mp member with old | new
    · exact fun less => beaten other old (Score.le_of_lt less)
    · rw [List.mem_singleton.mp new]
      exact Score.lt_irrefl next
  first := by
    intro earlier other before found
    rw [List.getElem?_append_left before] at found
    exact beaten other (List.mem_of_getElem? found)

theorem isBestOf_betterOf {best? : Option (Nat × Float)} (best : IsBestOf seen best?)
    (next : Float) : IsBestOf (seen ++ [next]) (betterOf best? seen.length next) := by
  rcases best? with _ | ⟨row, score⟩
  · rw [betterOf]
    by_cases positive : 0 < next
    · rw [if_pos positive]
      exact isBest_append positive fun other member more =>
        best other member (Score.lt_of_lt_of_le positive more)
    · rw [if_neg positive]
      intro other member
      rcases List.mem_append.mp member with old | new
      · exact best other old
      · rw [List.mem_singleton.mp new]
        exact positive
  · rw [betterOf]
    by_cases better : 0 < next ∧ score < next
    · rw [if_pos better]
      exact isBest_append better.1 fun other member more =>
        best.greatest other member (Score.lt_of_lt_of_le better.2 more)
    · rw [if_neg better]
      exact IsBest.append best fun less => better ⟨Score.lt_trans best.positive less, less⟩

theorem isBestOf_bestFrom (column : List Float) :
    ∀ {seen : List Float} {best? : Option (Nat × Float)}, IsBestOf seen best? →
      IsBestOf (seen ++ column) (bestFrom seen.length best? column) := by
  induction column with
  | nil =>
      intro seen best? best
      rw [List.append_nil]
      exact best
  | cons score column ih =>
      intro seen best? best
      have rest := ih (isBestOf_betterOf best score)
      rw [List.append_assoc, List.length_append] at rest
      exact rest

/-- Of two best rows, none comes before the other. -/
theorem IsBest.not_lt {better : Float} (best : IsBest column row score)
    (second : IsBest column other better) : ¬row < other := by
  intro before
  have notMore : better ≤ score := Score.le_of_not_lt (Score.isNaN_of_lt second.positive).2
    (Score.isNaN_of_lt best.positive).2
    (best.greatest better (List.mem_of_getElem? second.found))
  exact second.first row score before best.found notMore

theorem IsBest.unique {better : Float} (best : IsBest column row score)
    (second : IsBest column other better) : (row, score) = (other, better) := by
  have same : row = other := by
    have := best.not_lt second
    have := second.not_lt best
    omega
  have found := best.found
  rw [same, second.found, Option.some.injEq] at found
  rw [same, found]

theorem isBestOf_scan (column : List Float) : IsBestOf column (bestFrom 0 none column) := by
  have nothing : IsBestOf [] none := fun _ member => absurd member List.not_mem_nil
  exact isBestOf_bestFrom column nothing

theorem bestFrom_eq_some_iff :
    bestFrom 0 none column = some (row, score) ↔ IsBest column row score := by
  have scanned := isBestOf_scan column
  constructor
  · intro found
    rw [found] at scanned
    exact scanned
  · intro best
    cases found : bestFrom 0 none column with
    | none =>
        rw [found] at scanned
        exact absurd best.positive (scanned score (List.mem_of_getElem? best.found))
    | some winner =>
        rw [found] at scanned
        exact congrArg some (IsBest.unique scanned best)

theorem exists_isBest (positive : 0 < score) (member : score ∈ column) :
    ∃ row best, IsBest column row best := by
  have scanned := isBestOf_scan column
  cases found : bestFrom 0 none column with
  | none =>
      rw [found] at scanned
      exact absurd positive (scanned score member)
  | some best =>
      rw [found] at scanned
      exact ⟨best.1, best.2, scanned⟩

/-! ## The pairs of a greedy assignment -/

variable {weights : WeightMatrix} {application applicationCount : Nat} {pair : MatchedPair}

theorem greedyPair?_eq_some_iff :
    greedyPair? weights application = some pair ↔
      pair.application = application ∧
        IsBest (Assignment.column weights application) pair.library pair.score := by
  rw [greedyPair?, Option.map_eq_some_iff]
  constructor
  · rintro ⟨⟨row, score⟩, found, rfl⟩
    exact ⟨rfl, bestFrom_eq_some_iff.mp found⟩
  · rintro ⟨rfl, best⟩
    exact ⟨(pair.library, pair.score), bestFrom_eq_some_iff.mpr best, rfl⟩

/-- The pairs of all application elements that have one. -/
def greedyPairs (weights : WeightMatrix) (applicationCount : Nat) : List MatchedPair :=
  (List.range applicationCount).filterMap (greedyPair? weights)

theorem mem_greedyPairs_iff :
    pair ∈ greedyPairs weights applicationCount ↔
      pair.application < applicationCount ∧
        IsBest (Assignment.column weights pair.application) pair.library pair.score := by
  rw [greedyPairs, List.mem_filterMap]
  constructor
  · rintro ⟨application, member, found⟩
    rcases greedyPair?_eq_some_iff.mp found with ⟨rfl, best⟩
    exact ⟨List.mem_range.mp member, best⟩
  · rintro ⟨inRange, best⟩
    exact ⟨pair.application, List.mem_range.mpr inRange, greedyPair?_eq_some_iff.mpr ⟨rfl, best⟩⟩

theorem greedy_eq (rectangular : ∀ row ∈ weights, row.length = applicationCount) :
    greedy weights applicationCount =
      .ok (ofPairs (greedyPairs weights applicationCount) weights.length applicationCount) := by
  rw [greedy, checkShape_of_rectangular rectangular]
  rfl

/-- Each application element has at most one pair. -/
theorem eq_of_mem_greedyPairs {other : MatchedPair}
    (member : pair ∈ greedyPairs weights applicationCount)
    (second : other ∈ greedyPairs weights applicationCount)
    (same : pair.application = other.application) : pair = other := by
  have first := greedyPair?_eq_some_iff.mpr ⟨rfl, (mem_greedyPairs_iff.mp member).2⟩
  have again := greedyPair?_eq_some_iff.mpr ⟨rfl, (mem_greedyPairs_iff.mp second).2⟩
  rw [same, again, Option.some.injEq] at first
  exact first.symm

end Assignment

end Resemblance
