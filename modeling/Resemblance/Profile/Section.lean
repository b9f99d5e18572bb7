import Resemblance.Profile.Blueprint
import Resemblance.Profile.DescriptorTable
import Resemblance.Profile.Metadata

/-!
# Sections

A profile consists of named sections: the descriptor table, metadata, build information, and a list
of elements for each kind. The hash of a section's name is its tag in a stream. A section knows how
its content is written, read, cleared and checked against the size of the descriptor table.

Sections are kept either in the profile as it is stored or only while it is being built.
-/

namespace Resemblance

structure ElementList where
  kind : Kind
  elements : List Element

namespace ElementList

def empty (kind : Kind) : ElementList := ⟨kind, []⟩

/-- Adds an element, which must be of the list's kind, at the end. -/
def push (list : ElementList) (element : Element) : Except Failure ElementList :=
  if element.kind = list.kind then .ok { list with elements := list.elements ++ [element] }
  else .error (.config (.foreignElement element.kind.name list.kind.name))

/-- Fails at the first element whose descriptor is not in a table of a size. -/
def checkDescriptors (list : ElementList) (tableSize : Nat) : Except Failure Unit :=
  match list.elements.findIdx? (fun element => tableSize ≤ element.descriptor.toNat) with
  | some position =>
      let descriptor := ((list.elements[position]?).map (·.descriptor)).getD 0
      .error (.format
        (.danglingDescriptor list.kind.name position descriptor tableSize) none none)
  | none => .ok ()

end ElementList

inductive Section where
  | descriptors (table : DescriptorTable)
  | metadata (metadata : Metadata)
  | buildInfo (info : BuildInfo)
  | elements (list : ElementList)

/-- How long a section is kept. -/
inductive Retention where
  /-- The section is part of the stored profile. -/
  | runtime
  /-- The section is not stored. -/
  | source
  deriving DecidableEq, Repr

namespace Retention

def name : Retention → String
  | .runtime => "runtime"
  | .source => "source"

def ofName? (name : String) : Option Retention :=
  [runtime, source].find? (·.name == name)

end Retention

namespace Section

def descriptorsName : String := "descriptors"

def metadataName : String := "metadata"

def buildInfoName : String := "build-info"

def name : Section → String
  | .descriptors _ => descriptorsName
  | .metadata _ => metadataName
  | .buildInfo _ => buildInfoName
  | .elements list => list.kind.sectionName

def tag (content : Section) : UInt32 :=
  Hash.nameHash content.name

def reset : Section → Section
  | .descriptors _ => .descriptors .empty
  | .metadata _ => .metadata .empty
  | .buildInfo _ => .buildInfo .empty
  | .elements list => .elements (.empty list.kind)

/-- Fails if an element refers to a descriptor that a table of a size does not have. -/
def check (content : Section) (tableSize : Nat) : Except Failure Unit :=
  match content with
  | .elements list => list.checkDescriptors tableSize
  | _ => .ok ()

end Section

namespace Writer

/-- Writes the elements of a kind, which must have a blueprint. -/
def elementList (types : TypeTable) (blueprints : Blueprints) (list : ElementList) :
    Writer Unit := do
  let blueprint ← liftExcept (blueprints.get list.kind)
  length list.elements.length
  each (element types blueprint) list.elements

def sectionContent (types : TypeTable) (blueprints : Blueprints) : Section → Writer Unit
  | .descriptors table => descriptorTable table
  | .metadata content => metadata types content
  | .buildInfo info => buildInfo info
  | .elements list => elementList types blueprints list

end Writer

namespace Reader

/-- Reads the elements of a kind, which must have a blueprint. -/
def elementList (types : TypeTable) (blueprints : Blueprints) (kind : Kind) :
    Reader ElementList := do
  let blueprint ← liftExcept (blueprints.get kind)
  let count ← length
  let elements ← replicate count (element types blueprint)
  return ⟨kind, elements⟩

def sectionContent (types : TypeTable) (blueprints : Blueprints) : Section → Reader Section
  | .descriptors _ => return .descriptors (← descriptorTable)
  | .metadata _ => return .metadata (← metadata types)
  | .buildInfo _ => return .buildInfo (← buildInfo)
  | .elements list => return .elements (← elementList types blueprints list.kind)

end Reader

end Resemblance
