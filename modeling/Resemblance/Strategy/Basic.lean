import Resemblance.Strategy.Similarity

/-!
# Strategies

A strategy says for each kind how its elements are compared and how their values are computed, and
whether elements with different descriptors can match at all. `Strategy.ofConfig` installs the
algorithms that a configuration names.

`Strategy.score` gives a number between 0 and 1, whatever the similarity computes;
`Strategy.compare` first finds out which of its elements is the library's.
-/

namespace Resemblance

structure Strategy where
  similarities : NameMap Similarity
  steps : NameMap BuildStep
  /-- True if elements with different descriptors score 0. -/
  requireDescriptorMatch : Bool

/-- A score forced into the range from 0 to 1; what is not a number becomes 0. -/
def clampScore (score : Float) : Float :=
  if score < 0 then 0 else if 1 < score then 1 else if score == score then score else 0

namespace Strategy

def empty : Strategy := ⟨.empty, .empty, true⟩

/-- The kinds that can be compared, in the order of their names. -/
def kinds (strategy : Strategy) : List Kind :=
  strategy.similarities.names.map Kind.mk

def similarity (strategy : Strategy) (kind : Kind) : Except Failure Similarity :=
  match strategy.similarities.get? kind.name with
  | some similarity => .ok similarity
  | none => .error (.notRegistered (.strategy kind.name))

def step? (strategy : Strategy) (kind : Kind) : Option BuildStep :=
  strategy.steps.get? kind.name

/-- Compares the elements of a kind with a similarity, in place of an earlier one. -/
def withSimilarity (strategy : Strategy) (kind : Kind) (similarity : Similarity) : Strategy :=
  { strategy with similarities := strategy.similarities.insert kind.name similarity }

/-- Computes the values of a kind with a build step, in place of an earlier one. -/
def withStep (strategy : Strategy) (kind : Kind) (step : BuildStep) : Strategy :=
  { strategy with steps := strategy.steps.insert kind.name step }

/-- The slot whose value an algorithm computes. -/
def algorithmSlot (config : Config) : Algorithm → ComputedSlot
  | .bloom => .bloom config.bloom
  | .rollingHash => .rollingHash config.window
  | .featureVector => .featureVector config.dimension
  | .lshDigest => .lshDigest config.digest

def algorithmStep (config : Config) : Algorithm → BuildStep
  | .bloom => .bloom config.bloom
  | .rollingHash => .rollingHash config.window
  | .featureVector => .featureVector config.dimension
  | .lshDigest => .lshDigest config.digest

def algorithmSimilarity (config : Config) : Algorithm → Similarity
  | .bloom => .bloom
  | .rollingHash => .rollingHash
  | .featureVector => .featureVector
  | .lshDigest => .lshDigest config.digest.upperBound

/-- Uses an algorithm for a kind, with the settings of a configuration. -/
def install (strategy : Strategy) (config : Config) (kind : Kind) (algorithm : Algorithm) :
    Strategy :=
  (strategy.withStep kind (algorithmStep config algorithm)).withSimilarity kind
    (algorithmSimilarity config algorithm)

def ofConfig (config : Config) : Strategy :=
  config.algorithms.entries.foldl
    (fun strategy (kind, algorithm) => strategy.install config ⟨kind⟩ algorithm)
    { empty with requireDescriptorMatch := config.matching.requireDescriptorMatch }

/--
The score of a library element and an application element. Elements of different kinds score 0, as
do elements with different descriptors, unless those may match.
-/
def score (strategy : Strategy) (library application : ElementView) : Except Failure Float := do
  let similarity ← strategy.similarity library.kind
  if library.kind ≠ application.kind then return 0
  else if strategy.requireDescriptorMatch ∧ ¬library.sameDescriptor application then return 0
  else return clampScore (similarity.score library application)

/-- The score of two elements; the element of an application is compared with the other one. -/
def compare (strategy : Strategy) (left right : ElementView) : Except Failure Float :=
  if left.isApplication ∧ ¬right.isApplication then strategy.score right left
  else strategy.score left right

end Strategy

end Resemblance
