import Resemblance.NameMap
import Resemblance.Value.TypedConstant

/-!
# Metadata and build information

Metadata says what a profile is the profile of; build information says how it was built. Both can be
written and read. Metadata carries the version of the format, so that a profile of a later version
is refused, and the time of its creation in milliseconds, which must lie within the calendar.
-/

namespace Resemblance

/-- What a profile is the profile of. -/
structure Metadata where
  id : Vector UInt8 16
  artifact : String
  version : String
  isApplication : Bool
  /-- The time of creation, in milliseconds since 1970. -/
  created : Int64
  formatVersion : UInt32
  attributes : Attributes

namespace Metadata

def currentVersion : UInt32 := 1

def nilId : Vector UInt8 16 := Vector.replicate 16 0

def empty : Metadata := ⟨nilId, "", "", false, 0, currentVersion, []⟩

/-- The artifact, with its version if it has one. -/
def label (metadata : Metadata) : String :=
  if metadata.version.isEmpty then metadata.artifact
  else metadata.artifact ++ "@" ++ metadata.version

def earliest : Int := -8334601228800000

def latest : Int := 8210266876799999

end Metadata

structure BuildInfo where
  path? : Option String
  extractor : String
  /-- The time that extraction took, in milliseconds. -/
  millis : UInt64
  counts : NameMap Nat
  normalizers : List String
  deriving DecidableEq, Repr

namespace BuildInfo

def empty : BuildInfo := ⟨none, "", 0, .empty, []⟩

end BuildInfo

namespace Writer

def metadata (types : TypeTable) (metadata : Metadata) : Writer Unit := do
  index metadata.formatVersion
  bytes metadata.id.toList
  string metadata.artifact
  string metadata.version
  bool metadata.isApplication
  i64 metadata.created
  attributes types metadata.attributes

/-- Writes build information; an absent path is an empty one. -/
def buildInfo (info : BuildInfo) : Writer Unit := do
  string (info.path?.getD "")
  string info.extractor
  varint info.millis
  length info.counts.size
  each
    (fun (kind, count) => do
      string kind
      length count)
    info.counts.entries
  length info.normalizers.length
  each string info.normalizers

end Writer

namespace Reader

/-- Reads the version of the format, which must not be later than the version that is written. -/
def formatVersion : Reader UInt32 := do
  let version ← index
  if Metadata.currentVersion < version then
    fail (.newerVersion version Metadata.currentVersion)
  else return version

/-- Reads a time, which must lie within the calendar. -/
def time : Reader Int64 := do
  let millis ← i64
  if Metadata.earliest ≤ millis.toInt ∧ millis.toInt ≤ Metadata.latest then return millis
  else fail (.timestampOutOfRange millis)

def metadata (types : TypeTable) : Reader Metadata := do
  let formatVersion ← formatVersion
  let ⟨id, size⟩ ← exact 16
  let artifact ← string
  let version ← string
  let isApplication ← bool
  let created ← time
  let attributes ← attributes types
  return {
    id := ⟨id.toArray, by simp [size]⟩
    artifact, version, isApplication, created, formatVersion, attributes }

def kindCount : Reader (String × Nat) := do
  let kind ← string
  let count ← length
  return (kind, count)

def buildInfo : Reader BuildInfo := do
  let path ← string
  let extractor ← string
  let millis ← varint
  let kinds ← length
  let counts ← replicate kinds kindCount
  let size ← length
  let normalizers ← replicate size string
  return {
    path? := if path.isEmpty then none else some path
    extractor, millis, counts := .ofList counts, normalizers }

end Reader

end Resemblance
