import Resemblance.Failure
import Resemblance.NameMap
import Resemblance.Number.Binary64

/-!
# Configurations

Everything that can be tuned: the least score of a match for each kind of element, the algorithm
that compares each kind, the sizes that the algorithms use, the way in which collections are
matched, and what the detection of libraries reports. `Config.validate` finds the first setting that
is out of range.
-/

namespace Resemblance

/-- The least scores at which elements match. -/
structure Thresholds where
  fallback : Binary64
  perKind : NameMap Binary64
  deriving DecidableEq, Repr

inductive Algorithm where
  | bloom
  | rollingHash
  | featureVector
  | lshDigest
  deriving DecidableEq, Repr

inductive MatchingMode where
  | greedy
  | optimal
  deriving DecidableEq, Repr

structure DigestSettings where
  /-- Distances from here on score zero. -/
  upperBound : UInt32
  /-- Shorter token streams have no digest. -/
  minTokens : Nat
  deriving DecidableEq, Repr

structure BloomSettings where
  width : Nat
  hashCount : UInt32
  deriving DecidableEq, Repr

structure MatchingSettings where
  mode : MatchingMode
  /-- Elements with different descriptors score zero. -/
  requireDescriptorMatch : Bool
  /-- Scores may be computed side by side, which changes no result. -/
  parallel : Bool
  deriving DecidableEq, Repr

structure DetectionSettings where
  minScore : Binary64
  /-- The greatest number of libraries in a report; zero for no limit. -/
  maxResults : Nat
  profileExtension : String
  deriving DecidableEq, Repr

structure Config where
  thresholds : Thresholds
  algorithms : NameMap Algorithm
  digest : DigestSettings
  bloom : BloomSettings
  window : Nat
  dimension : Nat
  matching : MatchingSettings
  detection : DetectionSettings
  deriving DecidableEq, Repr

namespace Thresholds

/-- The same least score for every kind. -/
def uniform (score : Binary64) : Thresholds :=
  ⟨score, .empty⟩

def withKind (thresholds : Thresholds) (kind : String) (score : Binary64) : Thresholds :=
  { thresholds with perKind := thresholds.perKind.insert kind score }

def threshold (thresholds : Thresholds) (kind : String) : Binary64 :=
  (thresholds.perKind.get? kind).getD thresholds.fallback

end Thresholds

namespace Config

/-- The configuration in use where none is given. -/
def standard : Config where
  thresholds :=
    ⟨.ofFloat 0.5, .ofList [("class", .ofFloat 0.7), ("method", .ofFloat 0.8)]⟩
  algorithms := .ofList
    [("class", .bloom), ("method", .lshDigest), ("field", .featureVector),
      ("package", .rollingHash)]
  digest := ⟨100, 8⟩
  bloom := ⟨1024, 3⟩
  window := 4
  dimension := 16
  matching := ⟨.optimal, true, true⟩
  detection := ⟨.ofFloat 0.3, 10, "sift"⟩

end Config

/-- Fails unless a number is greater than zero. -/
def requirePositive (setting : String) (number : Nat) : Except Failure Unit :=
  if number = 0 then .error (.validation (.notPositive setting)) else .ok ()

/-- Fails unless a number lies between zero and one. -/
def requireUnit (setting : String) (number : Binary64) : Except Failure Unit :=
  if 0 ≤ number.toFloat ∧ number.toFloat ≤ 1 then .ok ()
  else .error (.validation (.outsideUnit setting))

/-- Fails unless all least scores lie between zero and one. -/
def Thresholds.validate (thresholds : Thresholds) : Except Failure Unit := do
  requireUnit "thresholds.default" thresholds.fallback
  thresholds.perKind.entries.forM fun (kind, score) =>
    requireUnit ("thresholds.per_kind." ++ kind) score

/-- Fails at the first setting that is out of range. -/
def Config.validate (config : Config) : Except Failure Unit := do
  config.thresholds.validate
  requirePositive "lsh.upper_bound" config.digest.upperBound.toNat
  requirePositive "lsh.min_tokens" config.digest.minTokens
  requirePositive "bloom.num_bits" config.bloom.width
  requirePositive "bloom.num_hashes" config.bloom.hashCount.toNat
  requirePositive "rolling_hash.window" config.window
  requirePositive "feature_vector.dimension" config.dimension
  requireUnit "detection.min_score" config.detection.minScore
  if config.detection.profileExtension.isEmpty then
    throw (.config .emptyProfileExtension)

end Resemblance
