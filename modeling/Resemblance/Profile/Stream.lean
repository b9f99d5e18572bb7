import Resemblance.Profile.Basic

/-!
# Profiles in a stream

A stored profile is the number of its sections and then, for each of them, the tag and the content.
The sections that are kept only while a profile is built are not written. A reader accepts the
sections in any order, each at most once, and only those that are registered; sections that do not
occur are empty afterwards. Elements may only refer to descriptors in the table.

A profile that could not be read is empty: `Profile.readAll` leaves nothing behind of what it has
read and of what was there before.
-/

namespace Resemblance

namespace Writer

def registeredSection (types : TypeTable) (blueprints : Blueprints)
    (registered : RegisteredSection) : Writer Unit := do
  u32 registered.tag
  sectionContent types blueprints registered.content

/-- Writes the sections of a profile that are stored, of which there may not be too many. -/
def profile (profile : Profile) : Writer Unit := do
  let stored := profile.stored
  if (stored.length : Int) ≤ Int32.maxValue.toInt then
    i32 (Int32.ofNat stored.length)
    each (registeredSection profile.types profile.blueprints) stored
  else throw (.internal .sectionCount none)

end Writer

namespace Reader

/-- Reads the number of sections, of which there are at most as many as are registered. -/
def sectionCount (registered : Nat) : Reader Nat := do
  let count ← i32
  if count < 0 then fail (.negativeSectionCount count)
  else if registered < count.toInt.toNat then fail (.tooManySections count registered)
  else return count.toInt.toNat

/-- The sections with new content for the one with a tag. -/
def replaceContent (tag : UInt32) (content : Section) (sections : List RegisteredSection) :
    List RegisteredSection :=
  sections.map fun registered =>
    if registered.tag = tag then { registered with content } else registered

/-- Reads `count` sections, whose tags must not be among those already `seen`. -/
def sectionsInto (types : TypeTable) (blueprints : Blueprints) (seen : List UInt32)
    (sections : List RegisteredSection) : (count : Nat) → Reader (List RegisteredSection)
  | 0 => return sections
  | count + 1 => do
      let tag ← u32
      if seen.contains tag then fail (.repeatedSection tag)
      else
        match sections.find? (·.tag == tag) with
        | none => fail (.unknownSection tag)
        | some registered => do
            let content ← sectionContent types blueprints registered.content
            sectionsInto types blueprints (tag :: seen) (replaceContent tag content sections) count

/-- Reads the sections of a profile in place of those it has. -/
def profile (profile : Profile) : Reader Profile := do
  let cleared := profile.resetSections
  let count ← sectionCount cleared.sections.length
  let sections ← sectionsInto cleared.types cleared.blueprints [] cleared.sections count
  let filled := { cleared with sections }
  liftExcept filled.checkReferences
  return filled

end Reader

namespace Profile

/--
Reads the sections of a profile from a source, which may hold more. The profile is empty afterwards
if that fails.
-/
def readAll (profile : Profile) (source : Source) : Except Failure Unit × Profile × Source :=
  match Reader.profile profile source with
  | .ok filled source => (.ok (), filled, source)
  | .error failure source => (.error failure, profile.resetSections, source)

/-- Marks a profile as its metadata says, if it has metadata. -/
def adoptFlag (profile : Profile) : Profile :=
  match profile.metadata? with
  | some metadata => { profile with isApplication := metadata.isApplication }
  | none => profile

/-- Reads a profile from a source, which must hold nothing else. -/
def readFrom (profile : Profile) (source : Source) : Except Failure Profile :=
  match profile.readAll source with
  | (.error failure, _, _) => .error failure
  | (.ok _, filled, source) =>
      match source.rest, source.ending with
      | [], .endOfBytes => .ok filled.adoptFlag.withoutSource
      | [], .broken => .error (.io .operation [])
      | _ :: _, _ => .error (.format .trailingBytes none none)

end Profile

end Resemblance
