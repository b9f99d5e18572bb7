import Resemblance.Config.Basic
import Resemblance.Feature.IntVector
import Resemblance.Feature.WindowHashes
import Resemblance.Profile.Blueprint
import Resemblance.Profile.Extracted

/-!
# Build steps

A build step declares slots in the blueprint of a kind, and fills the slots of an element from what
was extracted of it; both may fail. There is a step for each algorithm, with the settings of the
algorithm built in. It computes the value of one slot, and a similarity finds the value again by the
name of the slot.
-/

namespace Resemblance

structure BuildStep where
  name : String
  /-- The blueprint with the slots of the step declared. -/
  declareFields : Blueprint → Except Failure Blueprint
  /-- The element with its slots filled, which a blueprint names. -/
  process : Blueprint → Extracted → Element → Except Failure Element

/-- A slot whose value is computed from what was extracted of an element. -/
structure ComputedSlot where
  key : String
  type : ValueType
  compute : Extracted → Value

namespace BuildStep

def bloomField : String := "bloom"

def windowField : String := "window_hashes"

def vectorField : String := "feature_vector"

def digestField : String := "lsh_digest"

end BuildStep

namespace ComputedSlot

def bloom (settings : BloomSettings) : ComputedSlot where
  key := BuildStep.bloomField
  type := .bloom
  compute extracted := .bloom
    (.ofTokens BloomFilter.tokenHash settings.width settings.hashCount extracted.tokens)

def rollingHash (window : Nat) : ComputedSlot where
  key := BuildStep.windowField
  type := .hashes
  compute extracted := .hashes (windowHashes Digest.tokenHash extracted.tokens window)

def featureVector (dimension : Nat) : ComputedSlot where
  key := BuildStep.vectorField
  type := .vector
  compute extracted := .vector (IntVector.fit dimension extracted.vector)

def lshDigest (settings : DigestSettings) : ComputedSlot where
  key := BuildStep.digestField
  type := .digest
  compute extracted := .digest
    (Digest.ofTokens? Digest.tokenHash Digest.mixHash settings.minTokens extracted.tokens)

end ComputedSlot

namespace BuildStep

/-- The build step that fills one slot. -/
def computing (name : String) (slot : ComputedSlot) : BuildStep where
  name := name
  declareFields blueprint := blueprint.addField slot.key slot.type
  process blueprint extracted element := do
    element.setValue (← blueprint.requireSlot slot.key) (slot.compute extracted)

def bloom (settings : BloomSettings) : BuildStep :=
  computing "bloom" (.bloom settings)

def rollingHash (window : Nat) : BuildStep :=
  computing "rolling_hash" (.rollingHash window)

def featureVector (dimension : Nat) : BuildStep :=
  computing "feature_vector" (.featureVector dimension)

def lshDigest (settings : DigestSettings) : BuildStep :=
  computing "lsh_digest" (.lshDigest settings)

end BuildStep

end Resemblance
