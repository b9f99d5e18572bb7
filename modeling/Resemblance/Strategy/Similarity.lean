import Resemblance.Strategy.BuildStep
import Resemblance.Strategy.ElementView

/-!
# Similarities

How much of a library element is found in an application element, as a score between 0 and 1. The
four algorithms read the values that their build steps have stored; an element without such a value
scores 0.
-/

namespace Resemblance

structure Similarity where
  name : String
  score : (library application : ElementView) → Float

namespace Similarity

/--
The part of the library's bits that the application has set, if it has set no others. An empty
library filter is matched by an empty one.
-/
def bloomScore (library application : BloomFilter) : Float :=
  if library.includes application then
    if library.occupancy = 0 then 1
    else Float.ofNat application.occupancy / Float.ofNat library.occupancy
  else 0

/-- The part of the library's hashes that the application shares; two empty sets match. -/
def windowScore (library application : HashSet) : Float :=
  if library.isEmpty then if application.isEmpty then 1 else 0
  else Float.ofNat (library.sharedSize application) / Float.ofNat library.size

/-- Equal vectors match, and the score falls with their distance. -/
def vectorScore (library application : List Int32) : Float :=
  match IntVector.distance? library application with
  | some distance => 1 / (1 + Float.ofNat distance)
  | none => 0

/--
Equal digests match, and the score falls linearly with their distance, to 0 at the bound. Two absent
digests match.
-/
def digestScore (upperBound : UInt32) (library? application? : Option Digest) : Float :=
  match library?, application? with
  | none, none => 1
  | some library, some application =>
      let bound := max upperBound.toNat 1
      let distance := library.distance application
      if distance = 0 then 1
      else if distance < bound then 1 - Float.ofNat distance / Float.ofNat bound
      else 0
  | _, _ => 0

def bloom : Similarity where
  name := "bloom"
  score library application :=
    match library.field? BuildStep.bloomField, application.field? BuildStep.bloomField with
    | some (.bloom library), some (.bloom application) => bloomScore library application
    | _, _ => 0

def rollingHash : Similarity where
  name := "rolling_hash"
  score library application :=
    match library.field? BuildStep.windowField, application.field? BuildStep.windowField with
    | some (.hashes library), some (.hashes application) => windowScore library application
    | _, _ => 0

def featureVector : Similarity where
  name := "feature_vector"
  score library application :=
    match library.field? BuildStep.vectorField, application.field? BuildStep.vectorField with
    | some (.vector library), some (.vector application) => vectorScore library application
    | _, _ => 0

def lshDigest (upperBound : UInt32) : Similarity where
  name := "lsh_digest"
  score library application :=
    match library.field? BuildStep.digestField, application.field? BuildStep.digestField with
    | some (.digest library?), some (.digest application?) =>
        digestScore upperBound library? application?
    | _, _ => 0

end Similarity

end Resemblance
