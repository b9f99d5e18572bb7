import Resemblance.Profile.Basic

/-!
# Assembling and building profiles

`Assembly.build` sets up an empty profile from a configuration: for each kind a blueprint with the
slots of its build step and a section for its elements, and sections for metadata and build
information. Two profiles can read each other's streams if they were assembled alike.

`Profile.build` fills a profile with the elements that an extractor found: each is normalized, its
descriptor is interned, its build step fills its slots, and it is added to the section of its
kind, in the order of extraction.
-/

namespace Resemblance

/-- What a profile is assembled from. -/
structure Assembly where
  config : Config
  types : TypeTable
  /-- The strategy, if it is not the one of the configuration. -/
  strategy? : Option Strategy
  /-- The kinds of elements, if they are not those of the strategy. -/
  kinds? : Option (List Kind)
  /-- The normalizers of kinds; a later one replaces an earlier one of its kind. -/
  normalizers : List (Kind × TokenNormalizer)
  isApplication : Bool

namespace Assembly

def ofConfig (config : Config) : Assembly :=
  ⟨config, .standard, none, none, [], false⟩

def strategy (assembly : Assembly) : Strategy :=
  assembly.strategy?.getD (.ofConfig assembly.config)

def kinds (assembly : Assembly) : List Kind :=
  assembly.kinds?.getD assembly.strategy.kinds

/-- The blueprint of a kind: the slots of its build step, if it has one. -/
def blueprint (strategy : Strategy) (kind : Kind) : Except Failure Blueprint :=
  match strategy.step? kind with
  | some step => step.declareFields (.empty kind)
  | none => .ok (.empty kind)

def foundation (assembly : Assembly) : Profile :=
  (({ Profile.new assembly.types assembly.strategy with
      isApplication := assembly.isApplication }).register .runtime (.metadata .empty)).register
    .source (.buildInfo .empty)

/-- Registers a blueprint and a section for the elements of its kind. -/
def addBlueprint (profile : Profile) (blueprint : Blueprint) : Except Failure Profile := do
  let profile ← profile.registerBlueprint blueprint
  return profile.registerList blueprint.kind

/--
Assembles an empty profile, if the configuration is in range, all slots can be declared, and there
is one blueprint for a kind.
-/
def build (assembly : Assembly) : Except Failure Profile := do
  assembly.config.validate
  let blueprints ← assembly.kinds.mapM (blueprint assembly.strategy)
  let profile ← blueprints.foldlM addBlueprint assembly.foundation
  return assembly.normalizers.foldl
    (fun profile (kind, normalizer) => profile.withNormalizer kind normalizer) profile

end Assembly

structure Origin where
  artifact : String
  version : String
  path : String
  extractor : String
  id : Vector UInt8 16
  created : Int64
  millis : UInt64

namespace Profile

/-- Fails at the first extracted element whose kind has no blueprint. -/
def requireKinds (profile : Profile) (extracted : List Extracted) : Except Failure Unit :=
  match extracted.find? (fun element => !profile.blueprints.contains element.kind) with
  | some element => .error (.notRegistered (.elementKind element.kind.name))
  | none => .ok ()

def normalize (profile : Profile) (extracted : Extracted) : Extracted :=
  match profile.normalizer? extracted.kind with
  | some normalizer => normalizer.normalize extracted
  | none => extracted

/-- The element of a blueprint with its slots filled by the build step of the kind, if any. -/
def instantiate (profile : Profile) (blueprint : Blueprint) (descriptor : UInt32)
    (extracted : Extracted) : Except Failure Element :=
  match profile.strategy.step? extracted.kind with
  | some step => step.process blueprint extracted (blueprint.instantiate descriptor)
  | none => .ok (blueprint.instantiate descriptor)

/-- The element of an extracted element, and the profile with its descriptor interned. -/
def buildElement (profile : Profile) (extracted : Extracted) :
    Except Failure (Element × Profile) := do
  let extracted := profile.normalize extracted
  let (descriptor, profile) ← profile.intern extracted.descriptor
  let blueprint ← profile.blueprints.get extracted.kind
  let element ← profile.instantiate blueprint descriptor extracted
  return (element, profile)

/-- The elements of all extracted elements, and the profile with their descriptors interned. -/
def buildElements (profile : Profile) : List Extracted →
    Except Failure (List Element × Profile)
  | [] => .ok ([], profile)
  | extracted :: others => do
      let (element, profile) ← profile.buildElement extracted
      let (elements, profile) ← profile.buildElements others
      return (element :: elements, profile)

def pushAll (profile : Profile) (elements : List Element) : Except Failure Profile :=
  elements.foldlM (fun profile element => profile.pushTo element.kind element) profile

def normalizersOf (profile : Profile) (elements : List Element) : List String :=
  if elements.any (fun element => (profile.normalizer? element.kind).isSome) then
    [TokenNormalizer.name]
  else []

def elementCounts (profile : Profile) : NameMap Nat :=
  .ofList (profile.kinds.map fun kind =>
    (kind.name, ((profile.elements kind).toOption.map (·.elements.length)).getD 0))

/-- Records the origin of a profile in its metadata and build information, if it has sections. -/
def record (profile : Profile) (origin : Origin) (normalizers : List String) : Profile :=
  let profile :=
    if profile.hasSection Section.metadataName then
      profile.setSection (.metadata ⟨origin.id, origin.artifact, origin.version,
        profile.isApplication, origin.created, Metadata.currentVersion, []⟩)
    else profile
  if profile.hasSection Section.buildInfoName then
    profile.setSection (.buildInfo ⟨some origin.path, origin.extractor, origin.millis,
      profile.elementCounts, normalizers⟩)
  else profile

def build (profile : Profile) (origin : Origin) (extracted : List Extracted) :
    Except Failure Profile := do
  profile.requireKinds extracted
  let (elements, profile) ← profile.buildElements extracted
  let profile ← profile.pushAll elements
  return (profile.record origin (profile.normalizersOf elements)).withoutSource

end Profile

end Resemblance
