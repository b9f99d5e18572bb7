import Resemblance.Matching.Correspondence
import Resemblance.Proofs.Number.Order
import Resemblance.Proofs.Profile.Coherence

/-!
# Best matches

A correspondence keeps the candidates whose score reaches its threshold, so a higher threshold keeps
a part of them. The scan for the best match holds the first one with the greatest score of those it
has seen. If a higher threshold keeps anything, it keeps the best match, since no score is greater;
and whatever came before it scored less, so that it is still the first one with its score.

Scores are numbers, which makes the order of any two of them total.
-/

namespace Resemblance

/-! ## Scores are numbers -/

theorem isNaN_clampScore (score : Float) : (clampScore score).isNaN = false := by
  rw [clampScore]
  split
  · rfl
  · split
    · rfl
    · split
      · rename_i same
        exact Score.beq_self_iff.mp same
      · rfl

namespace Strategy

variable {strategy : Strategy} {left right : ElementView} {score : Float}

theorem isNaN_of_score_eq_ok (success : strategy.score left right = .ok score) :
    score.isNaN = false := by
  rcases except_bind_eq_ok.mp success with ⟨similarity, _, scored⟩
  split at scored
  · cases scored
    rfl
  · split at scored
    · cases scored
      rfl
    · cases scored
      exact isNaN_clampScore _

theorem isNaN_of_compare_eq_ok (success : strategy.compare left right = .ok score) :
    score.isNaN = false := by
  rw [compare] at success
  split at success
  · exact isNaN_of_score_eq_ok success
  · exact isNaN_of_score_eq_ok success

end Strategy

namespace Correspondence

/-! ## The first of the best -/

/-- Everything before the match scores less, and nothing behind it scores more. -/
def IsFirstBest (matched : List Match) (best : Match) : Prop :=
  ∃ earlier later, matched = earlier ++ best :: later ∧
    (∀ other ∈ earlier, other.score < best.score) ∧ ∀ other ∈ later, other.score ≤ best.score

variable {matched seen others : List Match} {best next : Match}

theorem IsFirstBest.mem (isFirst : IsFirstBest matched best) : best ∈ matched := by
  rcases isFirst with ⟨earlier, later, rfl, _, _⟩
  exact List.mem_append_right _ List.mem_cons_self

theorem IsFirstBest.le (numbers : ∀ other ∈ matched, other.score.isNaN = false)
    (isFirst : IsFirstBest matched best) : ∀ other ∈ matched, other.score ≤ best.score := by
  have number := numbers best isFirst.mem
  rcases isFirst with ⟨earlier, later, rfl, before, behind⟩
  intro other member
  rcases List.mem_append.mp member with early | member
  · exact Score.le_of_lt (before other early)
  · rcases List.mem_cons.mp member with rfl | late
    · exact Score.le_of_not_lt number number (Score.lt_irrefl _)
    · exact behind other late

theorem isFirstBest_better (numbers : ∀ other ∈ seen ++ [next], other.score.isNaN = false)
    (isFirst : IsFirstBest seen best) : IsFirstBest (seen ++ [next]) (better best next) := by
  rcases List.forall_mem_append.mp numbers with ⟨seenNumbers, nextNumber⟩
  have atMost := isFirst.le seenNumbers
  have number := seenNumbers best isFirst.mem
  rw [better]
  split
  · rename_i more
    exact ⟨seen, [], rfl, fun other member => Score.lt_of_le_of_lt (atMost other member) more,
      fun _ member => absurd member List.not_mem_nil⟩
  · rename_i notMore
    rcases isFirst with ⟨earlier, later, rfl, before, behind⟩
    refine ⟨earlier, later ++ [next], by simp, before, ?_⟩
    intro other member
    rcases List.mem_append.mp member with late | new
    · exact behind other late
    · rw [List.mem_singleton.mp new]
      exact Score.le_of_not_lt (nextNumber next (List.mem_singleton_self next)) number notMore

theorem isFirstBest_foldl (others : List Match) :
    ∀ {seen : List Match} {best : Match},
      (∀ other ∈ seen ++ others, other.score.isNaN = false) → IsFirstBest seen best →
        IsFirstBest (seen ++ others) (others.foldl better best) := by
  -- What was seen grows by one match with each step of the scan.
  induction others with
  | nil =>
      intro seen best _ isFirst
      rw [List.append_nil]
      exact isFirst
  | cons next others ih =>
      intro seen best numbers isFirst
      rw [List.append_cons] at numbers ⊢
      have step := isFirstBest_better (List.forall_mem_append.mp numbers).1 isFirst
      exact ih numbers step

theorem eq_of_cons_eq_append {other : Match} {later between rest : List Match}
    (split : best :: later = between ++ other :: rest)
    (behind : ∀ item ∈ later, item.score ≤ best.score)
    (before : ∀ item ∈ between, item.score < other.score) : best = other := by
  cases between with
  | nil => exact (List.cons.inj split).1
  | cons first between =>
      rcases List.cons.inj split with ⟨rfl, rfl⟩
      have less := before best List.mem_cons_self
      have atMost := behind other (List.mem_append_right _ List.mem_cons_self)
      exact absurd (Score.lt_of_lt_of_le less atMost) (Score.lt_irrefl _)

theorem IsFirstBest.unique {other : Match} (isFirst : IsFirstBest matched best)
    (second : IsFirstBest matched other) : best = other := by
  rcases isFirst with ⟨earlier, later, rfl, before, behind⟩
  rcases second with ⟨earlier', later', split, before', behind'⟩
  -- If one of them came later, it would be better than the other one, and no better.
  rcases List.append_eq_append_iff.mp split with ⟨between, rfl, rest⟩ | ⟨between, rfl, rest⟩
  · exact eq_of_cons_eq_append rest behind (List.forall_mem_append.mp before').2
  · exact (eq_of_cons_eq_append rest behind' (List.forall_mem_append.mp before).2).symm

/-- A best match that reaches a threshold is the first best one of what the threshold leaves. -/
theorem IsFirstBest.filter {threshold : Float} (isFirst : IsFirstBest matched best)
    (enough : threshold ≤ best.score) :
    IsFirstBest (matched.filter fun other => threshold ≤ other.score) best := by
  rcases isFirst with ⟨earlier, later, rfl, before, behind⟩
  refine ⟨earlier.filter fun other => threshold ≤ other.score,
    later.filter fun other => threshold ≤ other.score, ?_, ?_, ?_⟩
  · rw [List.filter_append, List.filter_cons, if_pos (decide_eq_true enough)]
  · exact fun other member => before other (List.mem_of_mem_filter member)
  · exact fun other member => behind other (List.mem_of_mem_filter member)

/-! ## The best match and the highest score -/

variable {correspondence : Correspondence}

theorem best?_eq_none_iff : correspondence.best? = none ↔ correspondence.matched = [] := by
  rw [best?]
  cases correspondence.matched <;> simp

theorem best?_eq_some_iff
    (numbers : ∀ other ∈ correspondence.matched, other.score.isNaN = false) :
    correspondence.best? = some best ↔ IsFirstBest correspondence.matched best := by
  have isFirst_of_found {winner : Match} (found : correspondence.best? = some winner) :
      IsFirstBest correspondence.matched winner := by
    rw [best?] at found
    cases matchedEq : correspondence.matched with
    | nil => simp [matchedEq] at found
    | cons first others =>
        rw [matchedEq] at numbers found
        cases found
        have alone : IsFirstBest [first] first :=
          ⟨[], [], rfl, fun _ member => absurd member List.not_mem_nil,
            fun _ member => absurd member List.not_mem_nil⟩
        exact isFirstBest_foldl others numbers alone
  refine ⟨isFirst_of_found, fun isFirst => ?_⟩
  cases found : correspondence.best? with
  | none =>
      have member := isFirst.mem
      rw [best?_eq_none_iff.mp found] at member
      exact absurd member List.not_mem_nil
  | some winner => rw [(isFirst_of_found found).unique isFirst]

/-- Both scans change at the same matches. -/
theorem highest?_eq_map_best? (correspondence : Correspondence) :
    correspondence.highest? = correspondence.best?.map Match.score := by
  have step (best next : Match) :
      (if best.score < next.score then next.score else best.score) = (better best next).score := by
    rw [better]
    split <;> rfl
  rw [highest?, best?]
  cases correspondence.matched with
  | nil => rfl
  | cons first others => exact congrArg some (List.foldl_hom Match.score step)

/-- A higher threshold that keeps anything keeps the best match. -/
theorem best?_eq_of_filter {strict : Correspondence} {threshold : Float}
    (numbers : ∀ other ∈ correspondence.matched, other.score.isNaN = false)
    (filtered : strict.matched = correspondence.matched.filter fun other =>
      threshold ≤ other.score) (nonempty : strict.matched ≠ []) :
    strict.best? = correspondence.best? := by
  have strictNumbers : ∀ other ∈ strict.matched, other.score.isNaN = false := by
    intro other member
    rw [filtered] at member
    exact numbers other (List.mem_of_mem_filter member)
  rcases List.exists_mem_of_ne_nil _ nonempty with ⟨kept, member⟩
  rw [filtered, List.mem_filter, decide_eq_true_eq] at member
  rcases member with ⟨member, enough⟩
  cases found : correspondence.best? with
  | none =>
      rw [best?_eq_none_iff.mp found] at member
      exact absurd member List.not_mem_nil
  | some best =>
      have isFirst := (best?_eq_some_iff numbers).mp found
      rw [best?_eq_some_iff strictNumbers, filtered]
      exact isFirst.filter (Score.le_trans enough (isFirst.le numbers kept member))

/-! ## What a threshold keeps -/

/-- Candidates with their scores, of which the first has a position. -/
def scoredFrom (position : Nat) (candidates : List ElementView) (scores : List Float) :
    List Match :=
  ((candidates.zip scores).zipIdx position).map fun ((candidate, score), position) =>
    ⟨position, candidate, score⟩

variable {strategy : Strategy} {query : ElementView} {candidates : List ElementView}
  {scores : List Float}

theorem scoredFrom_cons (position : Nat) (candidate : ElementView) (candidates : List ElementView)
    (score : Float) (scores : List Float) :
    scoredFrom position (candidate :: candidates) (score :: scores) =
      ⟨position, candidate, score⟩ :: scoredFrom (position + 1) candidates scores :=
  rfl

theorem matchesFrom_eq
    (scored : List.Forall₂ (fun candidate score => strategy.compare candidate query = .ok score)
      candidates scores) (threshold : Float) (position : Nat) :
    matchesFrom strategy query threshold position candidates =
      .ok ((scoredFrom position candidates scores).filter fun found =>
        threshold ≤ found.score) := by
  induction scored generalizing position with
  | nil => rfl
  | @cons candidate score candidates scores success _ ih =>
      rw [matchesFrom, success, ih, scoredFrom_cons, List.filter_cons]
      simp only [decide_eq_true_eq]
      rfl

theorem isNaN_of_mem_scoredFrom
    (scored : List.Forall₂ (fun candidate score => strategy.compare candidate query = .ok score)
      candidates scores) {position : Nat} :
    ∀ found ∈ scoredFrom position candidates scores, found.score.isNaN = false := by
  induction scored generalizing position with
  | nil => exact fun _ member => absurd member List.not_mem_nil
  | cons success _ ih =>
      intro found member
      rcases List.mem_cons.mp member with rfl | member
      · exact Strategy.isNaN_of_compare_eq_ok success
      · exact ih found member

/-- The best match is the first one with the greatest score, and its score is the highest one. -/
structure HasBest (correspondence : Correspondence) : Prop where
  best?_eq_none_iff : correspondence.best? = none ↔ correspondence.matched = []
  highest?_eq_none_iff : correspondence.highest? = none ↔ correspondence.matched = []
  isFirstBest : ∀ best, correspondence.best? = some best →
    IsFirstBest correspondence.matched best
  highest_beq : ∀ best highest, correspondence.best? = some best →
    correspondence.highest? = some highest → (highest == best.score) = true

theorem hasBest (numbers : ∀ other ∈ correspondence.matched, other.score.isNaN = false) :
    correspondence.HasBest where
  best?_eq_none_iff := best?_eq_none_iff
  highest?_eq_none_iff := by
    rw [highest?_eq_map_best?, Option.map_eq_none_iff]
    exact best?_eq_none_iff
  isFirstBest := fun _ found => (best?_eq_some_iff numbers).mp found
  highest_beq := by
    intro best highest found highestFound
    rw [highest?_eq_map_best?, found, Option.map_some, Option.some.injEq] at highestFound
    have isFirst := (best?_eq_some_iff numbers).mp found
    rw [← highestFound]
    exact Score.beq_self_iff.mpr (numbers best isFirst.mem)

/--
If all candidates have scores, a correspondence keeps just those that reach its threshold, in order
and with their scores, and its best match is the first one with the greatest of these scores. A
higher threshold keeps a part of what a lower one keeps, and has the same best match unless it keeps
nothing.
-/
theorem compute_isThresholded
    (scored : candidates.mapM (fun candidate => strategy.compare candidate query) = .ok scores) :
    (∀ threshold, ∃ found, compute strategy query candidates threshold = .ok found ∧
      found.threshold = threshold ∧
      found.matched = ((scoredFrom 0 candidates scores).filter fun candidate =>
        threshold ≤ candidate.score) ∧
      found.HasBest) ∧
    ∀ low high many few, low ≤ high → compute strategy query candidates low = .ok many →
      compute strategy query candidates high = .ok few →
        few.matched = (many.matched.filter fun candidate => high ≤ candidate.score) ∧
          (few.matched ≠ [] → few.best? = many.best?) := by
  have related := mapM_eq_ok_iff.mp scored
  have computed (threshold : Float) : compute strategy query candidates threshold =
      .ok ⟨(scoredFrom 0 candidates scores).filter fun candidate => threshold ≤ candidate.score,
        threshold⟩ := by
    rw [compute, matchesFrom_eq related]
    rfl
  have numbers (threshold : Float) : ∀ found ∈ (scoredFrom 0 candidates scores).filter
      fun candidate => threshold ≤ candidate.score, found.score.isNaN = false :=
    fun found member => isNaN_of_mem_scoredFrom related found (List.mem_of_mem_filter member)
  constructor
  · intro threshold
    exact ⟨_, computed threshold, rfl, rfl, hasBest (numbers threshold)⟩
  · intro low high many few ordered manyFound fewFound
    rw [computed] at manyFound fewFound
    cases manyFound
    cases fewFound
    have filtered := Score.filter_raised ordered Match.score (scoredFrom 0 candidates scores)
    exact ⟨filtered, best?_eq_of_filter (numbers low) filtered⟩

/-- Scores methods with what their library has stored, whatever their descriptors. -/
def storedScores : Strategy :=
  { Strategy.empty.withSimilarity ⟨"method"⟩
      ⟨"stored", fun library _ =>
        match library.field? "score" with
        | some (.float number) => number.toFloat
        | _ => 0⟩ with
    requireDescriptorMatch := false }

def storedMethod (score : Float) : ElementView :=
  ⟨⟨"method"⟩, none, [("score", some (.float (.ofFloat score)))], false⟩

def tiedMethods : List ElementView :=
  [0.2, 0.9, 0.5, 0.9].map storedMethod

/-- Two candidates have the greatest score, and a higher threshold leaves only them. -/
theorem compute_isThresholded_tied :
    ∃ many few, compute storedScores (storedMethod 0) tiedMethods 0.5 = .ok many ∧
      compute storedScores (storedMethod 0) tiedMethods 0.7 = .ok few ∧
      few.matched.map Match.position = [1, 3] ∧ many.matched.map Match.position = [1, 2, 3] ∧
      few.matched = (many.matched.filter fun candidate => 0.7 ≤ candidate.score) ∧
      few.best? = many.best? := by
  have evaluated : (match tiedMethods.mapM fun candidate =>
        storedScores.compare candidate (storedMethod 0) with
      | .error _ => none
      | .ok scores => some
          (((scoredFrom 0 tiedMethods scores).filter fun candidate =>
            0.5 ≤ candidate.score).map Match.position,
          ((scoredFrom 0 tiedMethods scores).filter fun candidate =>
            0.7 ≤ candidate.score).map Match.position)) = some ([1, 2, 3], [1, 3]) := by
    decide +kernel
  cases scored : tiedMethods.mapM fun candidate =>
      storedScores.compare candidate (storedMethod 0) with
  | error failure => simp [scored] at evaluated
  | ok scores =>
      simp only [scored, Option.some.injEq, Prod.mk.injEq] at evaluated
      rcases evaluated with ⟨manyPositions, fewPositions⟩
      rcases compute_isThresholded scored with ⟨kept, raised⟩
      rcases kept 0.5 with ⟨many, manyFound, _, manyMatched, _⟩
      rcases kept 0.7 with ⟨few, fewFound, _, fewMatched, _⟩
      rw [← manyMatched] at manyPositions
      rw [← fewMatched] at fewPositions
      have ordered : (0.5 : Float) ≤ 0.7 := by
        decide +kernel
      rcases raised 0.5 0.7 many few ordered manyFound fewFound with ⟨filtered, same⟩
      refine ⟨many, few, manyFound, fewFound, fewPositions, manyPositions, filtered, same ?_⟩
      intro nothing
      simp [nothing] at fewPositions

end Correspondence

end Resemblance
