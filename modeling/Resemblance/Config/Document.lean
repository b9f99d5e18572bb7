import Resemblance.Config.Basic
import Resemblance.Document.YamlPrinter
import Resemblance.Document.YamlReader

/-!
# Configurations as documents

A configuration is a mapping with a section for each group of settings. A section that is missing
keeps its standard settings; in a section that is there every setting has to be there, except the
least scores of single kinds, which then are none. Names that mean nothing are ignored. In JSON a
section may also be a sequence of its settings in order.

`Config.ofDocument?` reads a configuration from a document and `Config.toDocument` writes one. The
reader does not check ranges, except that `Config.ofYaml` validates what it has read.
-/

namespace Resemblance

namespace Document

/-- The scalar of a type: a plain one, or a block whose tag names the type. -/
def scalar? (type : String) : Document → Option String
  | plain scalar => some scalar
  | tagged _ (plain scalar) => some scalar
  | tagged tag (block scalar) => if tag = "tag:yaml.org,2002:" ++ type then some scalar else none
  | _ => none

def truth? : Document → Option Bool
  | bool truth => some truth
  | document => (document.scalar? "bool").bind PlainScalar.truth?

/-- A whole number from zero up to a limit. -/
def natural? (limit : Nat) : Document → Option Nat
  | integer number => if 0 ≤ number ∧ number < limit then some number.toNat else none
  | document => ((document.scalar? "int").bind PlainScalar.natural?).filter (· < limit)

def number? : Document → Option Binary64
  | integer number => some (Decimal.ofInt number)
  | decimal number => some number
  | document => (document.scalar? "float").bind PlainScalar.number?

/-- The entries of a mapping; an empty scalar is a mapping without entries. -/
def entries? : Document → Option (List (String × Document))
  | mapping entries => some entries
  | plain "" => some []
  | tagged _ content => content.entries?
  | _ => none

def isAbsent : Document → Bool
  | plain scalar => PlainScalar.isNull scalar
  | _ => false

/-- The name in a tag of an application's own, which begins with an exclamation mark. -/
def tagName? (tag : String) : Option String :=
  match tag.toList with
  | '!' :: name => some (String.ofList name)
  | _ => none

/--
A choice by its name, which may also be the only name in a mapping to nothing. The name in a tag is
the name of the choice too, and nothing may follow it; other tags do not count.
-/
def choice? {Choice : Type} (ofName? : String → Option Choice) : Document → Option Choice
  | mapping [(name, null)] => ofName? name
  | tagged tag content =>
      match tagName? tag with
      | some name => if content.isAbsent then ofName? name else none
      | none => content.text?.bind ofName?
  | document => document.text?.bind ofName?

/--
The documents of named settings, in the order of the names: from a mapping in which none of them is
repeated, or, if they may be told by their positions, from a sequence that is not longer than the
names.
-/
def settings? (positional : Bool) (names : List String) :
    Document → Option (List (Option Document))
  | sequence items =>
      if positional && items.length ≤ names.length then
        some (items.map some ++ List.replicate (names.length - items.length) none)
      else none
  | document => do
      let entries ← document.entries?
      if names.any fun name => 1 < (entries.countP (·.1 == name)) then none
      else return names.map fun name => (entries.find? (·.1 == name)).map (·.2)

end Document

namespace Algorithm

def name : Algorithm → String
  | .bloom => "bloom"
  | .rollingHash => "rolling_hash"
  | .featureVector => "feature_vector"
  | .lshDigest => "lsh_digest"

def all : List Algorithm := [.bloom, .rollingHash, .featureVector, .lshDigest]

def ofName? (name : String) : Option Algorithm :=
  all.find? (·.name == name)

end Algorithm

namespace MatchingMode

def name : MatchingMode → String
  | .greedy => "greedy"
  | .optimal => "optimal"

def ofName? (name : String) : Option MatchingMode :=
  [greedy, optimal].find? (·.name == name)

end MatchingMode

/-- Values under the names of kinds; a later value for a name replaces an earlier one. -/
def perKind? {Item : Type} (item? : Document → Option Item) (document : Document) :
    Option (NameMap Item) := do
  let entries ← document.entries?
  let items ← entries.mapM fun (kind, document) => (item? document).map fun item => (kind, item)
  return .ofList items

def Thresholds.ofDocument? (positional : Bool) (document : Document) : Option Thresholds := do
  match ← document.settings? positional ["default", "per_kind"] with
  | [some fallback, none] => return ⟨← fallback.number?, .empty⟩
  | [some fallback, some perKind] =>
      return ⟨← fallback.number?, ← perKind? Document.number? perKind⟩
  | _ => none

def algorithms? (positional : Bool) (document : Document) : Option (NameMap Algorithm) := do
  match ← document.settings? positional ["per_kind"] with
  | [some perKind] => perKind? (Document.choice? Algorithm.ofName?) perKind
  | _ => none

def DigestSettings.ofDocument? (positional : Bool) (document : Document) :
    Option DigestSettings := do
  match ← document.settings? positional ["upper_bound", "min_tokens"] with
  | [some upperBound, some minTokens] =>
      return ⟨(← upperBound.natural? UInt32.size).toUInt32, ← minTokens.natural? UInt64.size⟩
  | _ => none

def BloomSettings.ofDocument? (positional : Bool) (document : Document) : Option BloomSettings := do
  match ← document.settings? positional ["num_bits", "num_hashes"] with
  | [some width, some hashCount] =>
      return ⟨← width.natural? UInt64.size, (← hashCount.natural? UInt32.size).toUInt32⟩
  | _ => none

def size? (positional : Bool) (setting : String) (document : Document) : Option Nat := do
  match ← document.settings? positional [setting] with
  | [some number] => number.natural? UInt64.size
  | _ => none

def MatchingSettings.ofDocument? (positional : Bool) (document : Document) :
    Option MatchingSettings := do
  match ← document.settings? positional ["mode", "require_descriptor_match", "parallel"] with
  | [some mode, some requireDescriptorMatch, some parallel] =>
      return ⟨← mode.choice? MatchingMode.ofName?, ← requireDescriptorMatch.truth?,
        ← parallel.truth?⟩
  | _ => none

def DetectionSettings.ofDocument? (positional : Bool) (document : Document) :
    Option DetectionSettings := do
  match ← document.settings? positional ["min_score", "max_results", "profile_extension"] with
  | [some minScore, some maxResults, some profileExtension] =>
      return ⟨← minScore.number?, ← maxResults.natural? UInt64.size, ← profileExtension.text?⟩
  | _ => none

/-- A section that keeps its standard settings if it is missing. -/
def sectionOr {Item : Type} (standard : Item) (item? : Document → Option Item) :
    Option Document → Option Item
  | none => some standard
  | some document => item? document

namespace Config

def sectionNames : List String :=
  ["thresholds", "strategies", "lsh", "bloom", "rolling_hash", "feature_vector", "matching",
    "detection"]

def ofDocument? (positional : Bool) (document : Document) : Option Config := do
  match ← document.settings? positional sectionNames with
  | [thresholds, algorithms, digest, bloom, window, dimension, matching, detection] =>
      return {
        thresholds := ←
          sectionOr standard.thresholds (Thresholds.ofDocument? positional) thresholds
        algorithms := ← sectionOr standard.algorithms (algorithms? positional) algorithms
        digest := ← sectionOr standard.digest (DigestSettings.ofDocument? positional) digest
        bloom := ← sectionOr standard.bloom (BloomSettings.ofDocument? positional) bloom
        window := ← sectionOr standard.window (size? positional "window") window
        dimension := ← sectionOr standard.dimension (size? positional "dimension") dimension
        matching := ←
          sectionOr standard.matching (MatchingSettings.ofDocument? positional) matching
        detection := ←
          sectionOr standard.detection (DetectionSettings.ofDocument? positional) detection }
  | _ => none

def ofJson (document : Document) : Except Failure Config :=
  match ofDocument? true document with
  | some config => .ok config
  | none => .error (.serialization .json)

/-- The configuration that a YAML text holds, if its settings are in range. -/
def ofYaml (text : String) : Except Failure Config :=
  match (Yaml.read text).bind (ofDocument? false) with
  | some config => do
      config.validate
      return config
  | none => .error (.serialization .yaml)

def perKindDocument {Item : Type} (document : Item → Document) (map : NameMap Item) : Document :=
  .mapping (map.entries.map fun (kind, item) => (kind, document item))

def toDocument (config : Config) : Document :=
  .mapping [
    ("thresholds", .mapping [
      ("default", .decimal config.thresholds.fallback),
      ("per_kind", perKindDocument .decimal config.thresholds.perKind)]),
    ("strategies", .mapping [
      ("per_kind", perKindDocument (fun algorithm => .text algorithm.name) config.algorithms)]),
    ("lsh", .mapping [
      ("upper_bound", .integer config.digest.upperBound.toNat),
      ("min_tokens", .integer config.digest.minTokens)]),
    ("bloom", .mapping [
      ("num_bits", .integer config.bloom.width),
      ("num_hashes", .integer config.bloom.hashCount.toNat)]),
    ("rolling_hash", .mapping [("window", .integer config.window)]),
    ("feature_vector", .mapping [("dimension", .integer config.dimension)]),
    ("matching", .mapping [
      ("mode", .text config.matching.mode.name),
      ("require_descriptor_match", .bool config.matching.requireDescriptorMatch),
      ("parallel", .bool config.matching.parallel)]),
    ("detection", .mapping [
      ("min_score", .decimal config.detection.minScore),
      ("max_results", .integer config.detection.maxResults),
      ("profile_extension", .text config.detection.profileExtension)])]

def toYaml (config : Config) : String :=
  Yaml.render config.toDocument

end Config

end Resemblance
