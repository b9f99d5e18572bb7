import Resemblance.Strategy.Basic

/-!
# Correspondences

The candidates that one element corresponds to: those whose score with it reaches a threshold, in
the order in which they were given. The best match is the first one with the greatest score.
-/

namespace Resemblance

structure Match where
  /-- The position among all candidates. -/
  position : Nat
  candidate : ElementView
  score : Float

structure Correspondence where
  matched : List Match
  threshold : Float

namespace Correspondence

/-- The matches among candidates of which the first has a position. -/
def matchesFrom (strategy : Strategy) (query : ElementView) (threshold : Float)
    (position : Nat) : List ElementView → Except Failure (List Match)
  | [] => .ok []
  | candidate :: candidates => do
      let score ← strategy.compare candidate query
      let others ← matchesFrom strategy query threshold (position + 1) candidates
      return if threshold ≤ score then ⟨position, candidate, score⟩ :: others else others

def compute (strategy : Strategy) (query : ElementView) (candidates : List ElementView)
    (threshold : Float) : Except Failure Correspondence := do
  let matched ← matchesFrom strategy query threshold 0 candidates
  return ⟨matched, threshold⟩

def size (correspondence : Correspondence) : Nat :=
  correspondence.matched.length

def get? (correspondence : Correspondence) (index : Nat) : Option Match :=
  correspondence.matched[index]?

/-- The better of two matches; the earlier one of equally good ones. -/
def better (best next : Match) : Match :=
  if best.score < next.score then next else best

/-- The first match with the greatest score. -/
def best? (correspondence : Correspondence) : Option Match :=
  match correspondence.matched with
  | [] => none
  | first :: others => some (others.foldl better first)

def highest? (correspondence : Correspondence) : Option Float :=
  match correspondence.matched with
  | [] => none
  | first :: others =>
      some (others.foldl
        (fun highest next => if highest < next.score then next.score else highest) first.score)

end Correspondence

end Resemblance
