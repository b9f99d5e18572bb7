import Resemblance.Matching.Comparison
import Resemblance.Storage.ProfileFile

/-!
# Detecting libraries

A detector knows the profiles of libraries and finds those that an application contains: the
libraries whose overall score reaches a least score, best first, and by name among equally good
ones. A limit can cut off the end of the list.

Libraries are added one by one or from the files of a directory. What is loaded from a directory is
a library, whatever its metadata says.
-/

namespace Resemblance

structure Detection where
  library : String
  version? : Option String
  source? : Option String
  comparison : Comparison

namespace Detection

def score (detection : Detection) : Float :=
  detection.comparison.overall

/-- The order of a report: greater scores first, then names. -/
def precedes (left right : Detection) : Bool :=
  let leftRank := (Binary64.ofFloat left.score).rank
  let rightRank := (Binary64.ofFloat right.score).rank
  rightRank < leftRank ∨ (leftRank = rightRank ∧ left.library ≤ right.library)

/-- The name of a library: its artifact, else its label. -/
def nameOf (library : Profile) : String :=
  match library.metadata? with
  | some metadata => if metadata.artifact.isEmpty then library.label else metadata.artifact
  | none => library.label

def versionOf? (library : Profile) : Option String :=
  (library.metadata?.map (·.version)).filter fun version => !version.isEmpty

def ofProfiles (config : Config) (application library : Profile) : Except Failure Detection := do
  let comparison ← Comparison.ofProfiles config library application
  return ⟨nameOf library, versionOf? library, library.source?, comparison⟩

end Detection

/-- The profiles of libraries, with a configuration. -/
structure Detector where
  config : Config
  libraries : List Profile

namespace Detector

def new (config : Config) : Detector := ⟨config, []⟩

def add (detector : Detector) (library : Profile) : Detector :=
  { detector with libraries := detector.libraries ++ [library] }

/-- The first detections of a list, all of them without a limit. -/
def truncate (limit : Nat) (detections : List Detection) : List Detection :=
  if limit = 0 then detections else detections.take limit

def detect (detector : Detector) (application : Profile) :
    Except Failure (List Detection) := do
  let settings := detector.config.detection
  let scored ← detector.libraries.mapM (Detection.ofProfiles detector.config application)
  let found := scored.filter fun detection => settings.minScore.toFloat ≤ detection.score
  return truncate settings.maxResults (found.mergeSort Detection.precedes)

/-- The profiles below a directory, by the extension of their names, in order. -/
def profilePaths (detector : Detector) (directory : String) (tree : FileTree) :
    Except Failure (List String) :=
  match tree.filesBelow? directory with
  | some paths => .ok (paths.filter fun path =>
      Path.extension? path == some detector.config.detection.profileExtension)
  | none => .error (.io (.walkDirectory directory) [])

def loadLibrary (tree : FileTree) (blank : Except Failure Profile) (path : String) :
    Except Failure Profile := do
  let library ← (← blank).load path tree
  return { library with isApplication := false }

/--
Adds the libraries in files up to the first one that cannot be loaded. Every file is loaded into a
profile of its own: `supply request` answers the request of that number.
-/
def loadAll (tree : FileTree) (supply : Nat → Except Failure Profile) (detector : Detector)
    (request : Nat) : List String → Except Failure Unit × Detector
  | [] => (.ok (), detector)
  | path :: paths =>
      match loadLibrary tree (supply request) path with
      | .ok library => loadAll tree supply (detector.add library) (request + 1) paths
      | .error failure => (.error failure, detector)

/--
Adds the libraries in the files of a directory, each loaded into the next profile that is supplied,
and gives their number. Libraries before a file that cannot be loaded stay in the detector.
-/
def loadDirectoryInto (detector : Detector) (directory : String) (tree : FileTree)
    (supply : Nat → Except Failure Profile) : Except Failure Nat × Detector :=
  match detector.profilePaths directory tree with
  | .error failure => (.error failure, detector)
  | .ok paths =>
      let (result, detector) := loadAll tree supply detector 0 paths
      (result.map fun _ => paths.length, detector)

/-- Adds the libraries in the files of a directory, where every request is answered alike. -/
def loadDirectory (detector : Detector) (directory : String) (tree : FileTree)
    (blank : Except Failure Profile) : Except Failure Nat × Detector :=
  detector.loadDirectoryInto directory tree fun _ => blank

end Detector

end Resemblance
