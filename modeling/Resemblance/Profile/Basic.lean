import Resemblance.Profile.Section
import Resemblance.Profile.TokenNormalizer
import Resemblance.Storage.Path
import Resemblance.Strategy.Basic

/-!
# Profiles

A profile holds the fingerprints of the elements of an artifact, in named sections, together with
what is needed to read, build and compare them: the table of value types, the blueprints, the
normalizers and the strategy. The first section of every profile is its descriptor table, and a
section is registered under the tag of its name, so that no two sections have one tag.
-/

namespace Resemblance

structure RegisteredSection where
  retention : Retention
  content : Section

namespace RegisteredSection

def tag (registered : RegisteredSection) : UInt32 :=
  registered.content.tag

def reset (registered : RegisteredSection) : RegisteredSection :=
  { registered with content := registered.content.reset }

end RegisteredSection

/-- The profile of an artifact. -/
structure Profile where
  types : TypeTable
  strategy : Strategy
  blueprints : Blueprints
  normalizers : NameMap TokenNormalizer
  /-- The sections, in the order of their registration. -/
  sections : List RegisteredSection
  isApplication : Bool
  source? : Option String

namespace Profile

/-! ## Sections -/

def find? (profile : Profile) (tag : UInt32) : Option RegisteredSection :=
  profile.sections.find? (·.tag == tag)

def section? (profile : Profile) (name : String) : Option RegisteredSection :=
  profile.find? (Hash.nameHash name)

def content? (profile : Profile) (name : String) : Option Section :=
  match profile.section? name with
  | some registered => some registered.content
  | none => none

/-- The sections that belong to the profile as it is stored. -/
def stored (profile : Profile) : List RegisteredSection :=
  profile.sections.filter (·.retention == .runtime)

def hasSection (profile : Profile) (name : String) : Bool :=
  (profile.section? name).isSome

def retention? (profile : Profile) (name : String) : Option Retention :=
  (profile.section? name).map (·.retention)

/-- Registers a section; the first one with a tag stays. -/
def register (profile : Profile) (retention : Retention) (content : Section) : Profile :=
  if (profile.find? content.tag).isSome then profile
  else { profile with sections := profile.sections ++ [⟨retention, content⟩] }

/-- A profile with an empty descriptor table and nothing else. -/
def new (types : TypeTable) (strategy : Strategy) : Profile where
  types := types
  strategy := strategy
  blueprints := .empty
  normalizers := .empty
  sections := [⟨.runtime, .descriptors .empty⟩]
  isApplication := false
  source? := none

/-- Replaces the content of the section that has the tag of the new content. -/
def setSection (profile : Profile) (content : Section) : Profile :=
  { profile with sections := profile.sections.map fun registered =>
      if registered.tag = content.tag then { registered with content } else registered }

def descriptorsIn (profile : Profile) (name : String) : Except Failure DescriptorTable :=
  match profile.content? name with
  | some (.descriptors table) => .ok table
  | _ => .error (.notRegistered (.section name))

def metadataIn (profile : Profile) (name : String) : Except Failure Metadata :=
  match profile.content? name with
  | some (.metadata metadata) => .ok metadata
  | _ => .error (.notRegistered (.section name))

def buildInfoIn (profile : Profile) (name : String) : Except Failure BuildInfo :=
  match profile.content? name with
  | some (.buildInfo info) => .ok info
  | _ => .error (.notRegistered (.section name))

def elementsIn (profile : Profile) (name : String) : Except Failure ElementList :=
  match profile.content? name with
  | some (.elements list) => .ok list
  | _ => .error (.notRegistered (.section name))

def descriptors (profile : Profile) : Except Failure DescriptorTable :=
  profile.descriptorsIn Section.descriptorsName

def metadata? (profile : Profile) : Option Metadata :=
  (profile.metadataIn Section.metadataName).toOption

def elements (profile : Profile) (kind : Kind) : Except Failure ElementList :=
  match profile.elementsIn kind.sectionName with
  | .ok list => .ok list
  | .error _ => .error (.notRegistered (.elementKind kind.name))

def kindOf? (registered : RegisteredSection) : Option Kind :=
  match registered.content with
  | .elements list => some list.kind
  | _ => none

/-- The kinds with a section of elements, in the order of their registration. -/
def kinds (profile : Profile) : List Kind :=
  profile.sections.filterMap kindOf?

def resetSections (profile : Profile) : Profile :=
  { profile with sections := profile.sections.map RegisteredSection.reset }

def reset (profile : Profile) : Profile :=
  { profile.resetSections with source? := none }

def withoutSource (profile : Profile) : Profile :=
  { profile with source? := none }

/-- Fails if an element refers to a descriptor that the table does not have. -/
def checkReferences (profile : Profile) : Except Failure Unit := do
  let table ← profile.descriptors
  profile.sections.forM fun registered => registered.content.check table.size

/-! ## Changes -/

def registerBlueprint (profile : Profile) (blueprint : Blueprint) : Except Failure Profile := do
  let blueprints ← profile.blueprints.register blueprint
  return { profile with blueprints }

def registerList (profile : Profile) (kind : Kind) : Profile :=
  profile.register .runtime (.elements (.empty kind))

/-- Normalizes the tokens of a kind, in place of an earlier normalizer. -/
def withNormalizer (profile : Profile) (kind : Kind) (normalizer : TokenNormalizer) : Profile :=
  { profile with normalizers := profile.normalizers.insert kind.name normalizer }

def normalizer? (profile : Profile) (kind : Kind) : Option TokenNormalizer :=
  profile.normalizers.get? kind.name

/-- The index of a descriptor, and the profile with one more occurrence of it. -/
def intern (profile : Profile) (descriptor : String) : Except Failure (UInt32 × Profile) := do
  let table ← profile.descriptors
  let (index, table) := table.intern descriptor
  return (index, profile.setSection (.descriptors table))

def pushTo (profile : Profile) (kind : Kind) (element : Element) : Except Failure Profile := do
  let list ← profile.elements kind
  let list ← list.push element
  return profile.setSection (.elements list)

/-! ## Views -/

/-- A name from the file of the profile, or a word for its absence. -/
def fallbackLabel (profile : Profile) : String :=
  (profile.source?.bind Path.fileStem?).getD "<unnamed>"

/-- The artifact that the metadata names, else a name from the file. -/
def label (profile : Profile) : String :=
  match profile.metadata? with
  | some metadata =>
      if metadata.artifact.isEmpty then profile.fallbackLabel else metadata.label
  | none => profile.fallbackLabel

def view (profile : Profile) (element : Element) : ElementView where
  kind := element.kind
  descriptor? := profile.descriptors.toOption.bind fun table => table.resolve? element.descriptor
  fields :=
    match profile.blueprints.get? element.kind with
    | some blueprint => blueprint.keys.zip element.slots
    | none => []
  isApplication := profile.isApplication

end Profile

end Resemblance
