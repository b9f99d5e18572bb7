import Resemblance.Proofs.Feature.IntVector
import Resemblance.Proofs.Feature.Size
import Resemblance.Proofs.Number.Rounding
import Resemblance.Strategy.Basic

/-!
# Scores of a value with itself

Whatever an algorithm compares, it gives the score 1 to a value and itself: absent digests and empty
filters and sets of hashes match, there is no distance between a vector or a digest and itself, and
the other scores are quotients of equal counts. A quotient of equal counts is 1 as long as the
counts are numbers of the format, for which it is enough that a machine word could count so far.
-/

namespace Resemblance

/-- The parts of the value do not outnumber the machine words. -/
def Value.IsCountable : Value → Prop
  | .hashes set => set.size ≤ UInt64.size
  | .bloom filter => filter.occupancy ≤ UInt64.size
  | _ => True

namespace HashSet

theorem countShared_self (hashes : List UInt64) :
    countShared hashes hashes = hashes.length := by
  induction hashes with
  | nil => rw [countShared, List.length_nil]
  | cons hash hashes ih =>
      rw [countShared, if_neg (UInt64.lt_irrefl hash), if_neg (UInt64.lt_irrefl hash), ih,
        List.length_cons]

theorem sharedSize_self (set : HashSet) : set.sharedSize set = set.size :=
  countShared_self set.hashes

end HashSet

namespace BloomFilter

theorem includes_self (filter : BloomFilter) : filter.includes filter = true := by
  simp [includes]

end BloomFilter

namespace IntVector

theorem distance?_self (vector : List Int32) : distance? vector vector = some 0 :=
  distance?_eq_zero_iff.mpr rfl

end IntVector

namespace Digest

theorem distance_self (digest : Digest) : digest.distance digest = 0 :=
  distance_eq_zero_iff.mpr rfl

end Digest

namespace Similarity

theorem ofNat_div_self {count : Nat} (positive : 0 < count) (fits : count ≤ UInt64.size) :
    Float.ofNat count / Float.ofNat count = 1 := by
  rcases Score.exists_isPositive_ofNat positive fits with ⟨significand, exponent, found, _⟩
  exact Score.div_self_eq_one found

theorem bloomScore_self {filter : BloomFilter} (fits : filter.occupancy ≤ UInt64.size) :
    bloomScore filter filter = 1 := by
  rw [bloomScore, if_pos filter.includes_self]
  split
  · rfl
  · rename_i occupied
    exact ofNat_div_self (Nat.pos_of_ne_zero occupied) fits

theorem windowScore_self {set : HashSet} (fits : set.size ≤ UInt64.size) :
    windowScore set set = 1 := by
  rw [windowScore]
  split
  · rfl
  · rename_i occupied
    rw [set.sharedSize_self]
    apply ofNat_div_self _ fits
    rwa [HashSet.isEmpty, Bool.not_eq_true, List.isEmpty_eq_false_iff,
      ← List.length_pos_iff] at occupied

theorem vectorScore_self (vector : List Int32) : vectorScore vector vector = 1 := by
  rw [vectorScore, IntVector.distance?_self]
  decide +kernel

theorem digestScore_self (upperBound : UInt32) (digest? : Option Digest) :
    digestScore upperBound digest? digest? = 1 := by
  cases digest? with
  | none => rfl
  | some digest => rw [digestScore, digest.distance_self, if_pos rfl]

end Similarity

namespace Strategy

variable {config : Config} {algorithm : Algorithm} {value : Value}

/-- An algorithm gives the score 1 to elements with the same value. -/
theorem score_algorithmSimilarity {library application : ElementView}
    (typeEq : value.type = (algorithmSlot config algorithm).type) (countable : value.IsCountable)
    (here : library.field? (algorithmSlot config algorithm).key = some value)
    (there : application.field? (algorithmSlot config algorithm).key = some value) :
    (algorithmSimilarity config algorithm).score library application = 1 := by
  cases algorithm with
  | bloom =>
      change library.field? BuildStep.bloomField = _ at here
      change application.field? BuildStep.bloomField = _ at there
      cases value with
      | bloom filter =>
          simp only [algorithmSimilarity, Similarity.bloom, here, there]
          exact Similarity.bloomScore_self countable
      | _ => cases typeEq
  | rollingHash =>
      change library.field? BuildStep.windowField = _ at here
      change application.field? BuildStep.windowField = _ at there
      cases value with
      | hashes set =>
          simp only [algorithmSimilarity, Similarity.rollingHash, here, there]
          exact Similarity.windowScore_self countable
      | _ => cases typeEq
  | featureVector =>
      change library.field? BuildStep.vectorField = _ at here
      change application.field? BuildStep.vectorField = _ at there
      cases value with
      | vector components =>
          simp only [algorithmSimilarity, Similarity.featureVector, here, there]
          exact Similarity.vectorScore_self components
      | _ => cases typeEq
  | lshDigest =>
      change library.field? BuildStep.digestField = _ at here
      change application.field? BuildStep.digestField = _ at there
      cases value with
      | digest digest? =>
          simp only [algorithmSimilarity, Similarity.lshDigest, here, there]
          exact Similarity.digestScore_self _ digest?
      | _ => cases typeEq

/-- The value that an algorithm stores has the type of its slot and can be compared. -/
theorem isCountable_compute (config : Config) (algorithm : Algorithm) (extracted : Extracted) :
    ((algorithmSlot config algorithm).compute extracted).type =
        (algorithmSlot config algorithm).type ∧
      ((algorithmSlot config algorithm).compute extracted).IsCountable := by
  cases algorithm with
  | bloom => exact ⟨rfl, (BloomFilter.isReachable_ofTokens _ _ _ extracted.tokens).occupancy_le⟩
  | rollingHash => exact ⟨rfl, (increasing_windowHashes _ extracted.tokens _).size_le⟩
  | featureVector => exact ⟨rfl, trivial⟩
  | lshDigest => exact ⟨rfl, trivial⟩

end Strategy

end Resemblance
