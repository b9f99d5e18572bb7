import Resemblance.Profile.Section
import Resemblance.Proofs.Profile.DescriptorTable
import Resemblance.Proofs.Profile.Element
import Resemblance.Proofs.Profile.Metadata

/-!
# Sections in a stream

How a section is read depends only on what is left of it when it is cleared, and so does its name.
Reading keeps that much of a section and replaces the rest: `Reader.reset_of_sectionContent_takes`.
A section that can be stored is read back from what is written, also by a reader that knows other
blueprints, as long as both agree about the kind of the section.
-/

namespace Resemblance

namespace Blueprints

theorem kind_of_get?_eq {blueprints : Blueprints} {kind : Kind} {blueprint : Blueprint}
    (found : blueprints.get? kind = some blueprint) : blueprint.kind = kind := by
  simpa using List.find?_some found

theorem get_eq_of_get?_eq {blueprints : Blueprints} {kind : Kind} {blueprint : Blueprint}
    (found : blueprints.get? kind = some blueprint) : blueprints.get kind = .ok blueprint := by
  simp only [get, found]

end Blueprints

namespace Section

/-! ## What is left of a section when it is cleared -/

@[simp]
theorem reset_reset (content : Section) : content.reset.reset = content.reset := by
  cases content <;> rfl

@[simp]
theorem name_reset (content : Section) : content.reset.name = content.name := by
  cases content <;> rfl

@[simp]
theorem tag_reset (content : Section) : content.reset.tag = content.tag := by
  simp only [tag, name_reset]

theorem name_eq_of_reset_eq {content other : Section} (same : content.reset = other.reset) :
    content.name = other.name := by
  rw [← name_reset content, same, name_reset]

theorem tag_eq_of_reset_eq {content other : Section} (same : content.reset = other.reset) :
    content.tag = other.tag := by
  rw [← tag_reset content, same, tag_reset]

theorem sectionName_ne {kind : Kind} {name : String} (other : name.toList.head? ≠ some 'e') :
    kind.sectionName ≠ name := by
  rintro rfl
  simp [Kind.sectionName] at other

theorem sectionName_inj {kind other : Kind} (same : kind.sectionName = other.sectionName) :
    kind = other := by
  have names := congrArg String.toList same
  simp only [Kind.sectionName, String.toList_append, List.append_cancel_left_eq,
    String.toList_inj] at names
  cases kind
  cases other
  exact congrArg Kind.mk names

theorem fixedNames_ne :
    descriptorsName ≠ metadataName ∧ descriptorsName ≠ buildInfoName ∧
      metadataName ≠ buildInfoName := by
  decide

/-- Sections of one name are alike, apart from their contents. -/
theorem reset_eq_of_name_eq {content other : Section} (same : content.name = other.name) :
    content.reset = other.reset := by
  have notDescriptors (kind : Kind) : kind.sectionName ≠ descriptorsName :=
    sectionName_ne (by decide)
  have notMetadata (kind : Kind) : kind.sectionName ≠ metadataName :=
    sectionName_ne (by decide)
  have notBuildInfo (kind : Kind) : kind.sectionName ≠ buildInfoName :=
    sectionName_ne (by decide)
  rcases fixedNames_ne with ⟨tableMetadata, tableBuildInfo, metadataBuildInfo⟩
  cases content with
  | elements list =>
      cases other with
      | elements others =>
          exact congrArg (fun kind => elements (.empty kind)) (sectionName_inj same)
      | descriptors _ => exact absurd same (notDescriptors list.kind)
      | metadata _ => exact absurd same (notMetadata list.kind)
      | buildInfo _ => exact absurd same (notBuildInfo list.kind)
  | descriptors _ =>
      cases other with
      | descriptors _ => rfl
      | elements list => exact absurd same.symm (notDescriptors list.kind)
      | metadata _ => exact absurd same tableMetadata
      | buildInfo _ => exact absurd same tableBuildInfo
  | metadata _ =>
      cases other with
      | metadata _ => rfl
      | elements list => exact absurd same.symm (notMetadata list.kind)
      | descriptors _ => exact absurd same.symm tableMetadata
      | buildInfo _ => exact absurd same metadataBuildInfo
  | buildInfo _ =>
      cases other with
      | buildInfo _ => rfl
      | elements list => exact absurd same.symm (notBuildInfo list.kind)
      | descriptors _ => exact absurd same.symm tableBuildInfo
      | metadata _ => exact absurd same.symm metadataBuildInfo

/-! ## Properties of contents -/

/-- A section of elements has a blueprint. -/
def Equipped (blueprints : Blueprints) : Section → Prop
  | .elements list => ∃ blueprint, blueprints.get? list.kind = some blueprint
  | _ => True

/-- The elements of a section conform to its blueprint, and their values have a property. -/
def Conforms (blueprints : Blueprints) (property : Value → Prop) : Section → Prop
  | .elements list => ∃ blueprint, blueprints.get? list.kind = some blueprint ∧
      ∀ element ∈ list.elements, element.Conforms blueprint property
  | _ => True

/-- Build information says how a profile was built and does not belong to what is stored. -/
def IsBuildInfo : Section → Prop
  | .buildInfo _ => True
  | _ => False

/-- The section survives in a stream. -/
def Storable (types : TypeTable) (blueprints : Blueprints) : Section → Prop
  | .descriptors table => table.Storable
  | .metadata stored => stored.Storable types
  | .buildInfo _ => False
  | .elements list => list.elements.length ≤ Reader.maxCollectionLength ∧
      ∃ blueprint, blueprints.get? list.kind = some blueprint ∧
        ∀ element ∈ list.elements, element.Storable types blueprint

theorem equipped_reset_iff {blueprints : Blueprints} {content : Section} :
    content.reset.Equipped blueprints ↔ content.Equipped blueprints := by
  cases content <;> rfl

theorem isBuildInfo_reset_iff {content : Section} :
    content.reset.IsBuildInfo ↔ content.IsBuildInfo := by
  cases content <;> rfl

/-- A cleared section can be stored. -/
theorem storable_reset {types : TypeTable} {blueprints : Blueprints} {content : Section}
    (equipped : content.Equipped blueprints) (kept : ¬content.IsBuildInfo) :
    content.reset.Storable types blueprints := by
  cases content with
  | descriptors table => exact DescriptorTable.storable_empty
  | metadata metadata => exact Metadata.storable_empty types
  | buildInfo info => exact absurd trivial kept
  | elements list =>
      rcases equipped with ⟨blueprint, found⟩
      refine ⟨Nat.zero_le _, blueprint, found, ?_⟩
      intro element member
      exact absurd member List.not_mem_nil

theorem conforms_reset {blueprints : Blueprints} {property : Value → Prop} {content : Section}
    (equipped : content.Equipped blueprints) : content.reset.Conforms blueprints property := by
  cases content with
  | elements list =>
      rcases equipped with ⟨blueprint, found⟩
      refine ⟨blueprint, found, ?_⟩
      intro element member
      cases member
  | _ => trivial

theorem check_reset (content : Section) (tableSize : Nat) :
    content.reset.check tableSize = .ok () := by
  cases content <;> rfl

end Section

namespace ElementList

theorem checkDescriptors_eq_ok_iff {list : ElementList} {tableSize : Nat} :
    list.checkDescriptors tableSize = .ok () ↔
      ∀ element ∈ list.elements, element.descriptor.toNat < tableSize := by
  rw [checkDescriptors]
  cases found : list.elements.findIdx?
      (fun element => decide (tableSize ≤ element.descriptor.toNat)) with
  | none =>
      rw [List.findIdx?_eq_none_iff] at found
      simpa using found
  | some position =>
      rw [List.findIdx?_eq_some_iff_getElem] at found
      rcases found with ⟨within, dangling, _⟩
      constructor
      · intro impossible
        cases impossible
      · intro resolved
        have below := resolved _ (List.getElem_mem within)
        have above := of_decide_eq_true dangling
        omega

/-- Dangling descriptors are a fault of the format. -/
theorem isFormat_of_checkDescriptors_eq_error {list : ElementList} {tableSize : Nat}
    {failure : Failure} (failed : list.checkDescriptors tableSize = .error failure) :
    failure.IsFormat := by
  rw [checkDescriptors] at failed
  split at failed
  · simp only [Except.error.injEq] at failed
    exact ⟨_, none, none, failed.symm⟩
  · cases failed

end ElementList

namespace Reader

@[simp]
theorem sectionContent_reset (types : TypeTable) (blueprints : Blueprints) (content : Section) :
    sectionContent types blueprints content.reset = sectionContent types blueprints content := by
  cases content <;> rfl

theorem elementList_eq {types : TypeTable} {blueprints : Blueprints} {kind : Kind}
    {blueprint : Blueprint} (found : blueprints.get? kind = some blueprint) :
    elementList types blueprints kind = (do
      let count ← length
      let elements ← replicate count (element types blueprint)
      return ⟨kind, elements⟩) := by
  simp only [elementList, Blueprints.get_eq_of_get?_eq found]
  rfl

theorem Regular.elementsOf (types : TypeTable) (blueprint : Blueprint) (kind : Kind)
    (count : Nat) : (do
      let elements ← Reader.replicate count (Reader.element types blueprint)
      return ⟨kind, elements⟩ : Reader ElementList).Regular :=
  ((Regular.element types blueprint).replicate count).bind fun _ => .pure _

theorem Regular.elementList {types : TypeTable} {blueprints : Blueprints} {kind : Kind}
    {blueprint : Blueprint} (found : blueprints.get? kind = some blueprint) :
    (elementList types blueprints kind).Regular := by
  rw [elementList_eq found]
  exact Regular.length.bind (.elementsOf types blueprint kind)

/-- The list that is read is of its kind, and its elements are read with the blueprint. -/
theorem of_elementList_takes {types : TypeTable} {blueprints : Blueprints} {kind : Kind}
    {blueprint : Blueprint} (found : blueprints.get? kind = some blueprint)
    (property : Element → Prop) {depth : Nat}
    (each : ∀ {bytes read}, (element types blueprint).Takes depth bytes read → property read)
    {bytes : List UInt8} {list : ElementList}
    (takes : (elementList types blueprints kind).Takes depth bytes list) :
    list.kind = kind ∧ list.elements.length ≤ maxCollectionLength ∧
      ∀ read ∈ list.elements, property read := by
  rw [elementList_eq found] at takes
  rcases Regular.length.takes_bind (.elementsOf types blueprint kind) takes with
    ⟨_, _, count, _, countTakes, rest⟩
  rcases ((Regular.element types blueprint).replicate count).takes_map rest with
    ⟨elements, taken, rfl⟩
  rcases forall_of_replicate_takes (.element types blueprint) property each taken with
    ⟨lengthEq, holds⟩
  refine ⟨rfl, ?_, holds⟩
  rw [lengthEq]
  exact le_of_length_takes countTakes

theorem Regular.sectionContent {types : TypeTable} {blueprints : Blueprints} {content : Section}
    (equipped : content.Equipped blueprints) :
    (sectionContent types blueprints content).Regular := by
  cases content with
  | descriptors table => exact Regular.descriptorTable.bind fun _ => .pure _
  | metadata metadata => exact (Regular.metadata types).bind fun _ => .pure _
  | buildInfo info => exact Regular.buildInfo.bind fun _ => .pure _
  | elements list =>
      rcases equipped with ⟨blueprint, found⟩
      exact (Regular.elementList found).bind fun _ => .pure _

/-- Reading replaces no more of a section than clearing it does. -/
theorem reset_of_sectionContent_takes {types : TypeTable} {blueprints : Blueprints}
    {content read : Section} (equipped : content.Equipped blueprints) {depth : Nat}
    {bytes : List UInt8}
    (takes : (sectionContent types blueprints content).Takes depth bytes read) :
    read.reset = content.reset := by
  cases content with
  | descriptors table =>
      rcases Regular.descriptorTable.takes_map takes with ⟨other, _, rfl⟩
      rfl
  | metadata metadata =>
      rcases (Regular.metadata types).takes_map takes with ⟨other, _, rfl⟩
      rfl
  | buildInfo info =>
      rcases Regular.buildInfo.takes_map takes with ⟨other, _, rfl⟩
      rfl
  | elements list =>
      rcases equipped with ⟨blueprint, found⟩
      rcases (Regular.elementList found).takes_map takes with ⟨other, otherTakes, rfl⟩
      have kindEq := (of_elementList_takes found (fun _ => True) (fun _ => trivial) otherTakes).1
      exact congrArg (fun kind => Section.elements (.empty kind)) kindEq

/-- Only sections with a blueprint for their elements can be read. -/
theorem equipped_of_sectionContent_eq_ok {types : TypeTable} {blueprints : Blueprints}
    {content read : Section} {source after : Source}
    (success : sectionContent types blueprints content source = .ok read after) :
    content.Equipped blueprints := by
  cases content with
  | elements list =>
      cases found : blueprints.get? list.kind with
      | none =>
          rcases bind_eq_ok.mp success with ⟨_, _, listSuccess, _⟩
          rcases bind_eq_ok.mp listSuccess with ⟨_, _, blueprintSuccess, _⟩
          simp only [Blueprints.get, found] at blueprintSuccess
          cases blueprintSuccess
      | some blueprint => exact ⟨blueprint, found⟩
  | _ => trivial

theorem reset_of_sectionContent_eq_ok {types : TypeTable} {blueprints : Blueprints}
    {content read : Section} {source after : Source}
    (success : sectionContent types blueprints content source = .ok read after) :
    read.reset = content.reset := by
  have equipped := equipped_of_sectionContent_eq_ok success
  rcases (Regular.sectionContent equipped).takes_of_ok success with ⟨_, takes, _⟩
  exact reset_of_sectionContent_takes equipped takes

theorem conforms_of_sectionContent_takes {types : TypeTable} {property : Value → Prop}
    {depth : Nat}
    (each : ∀ {type bytes value}, (payload types type).Takes depth bytes value → property value)
    {blueprints : Blueprints} {content read : Section} (equipped : content.Equipped blueprints)
    {bytes : List UInt8}
    (takes : (sectionContent types blueprints content).Takes depth bytes read) :
    read.Conforms blueprints property := by
  cases content with
  | descriptors table =>
      rcases Regular.descriptorTable.takes_map takes with ⟨other, _, rfl⟩
      trivial
  | metadata metadata =>
      rcases (Regular.metadata types).takes_map takes with ⟨other, _, rfl⟩
      trivial
  | buildInfo info =>
      rcases Regular.buildInfo.takes_map takes with ⟨other, _, rfl⟩
      trivial
  | elements list =>
      rcases equipped with ⟨blueprint, found⟩
      rcases (Regular.elementList found).takes_map takes with ⟨other, otherTakes, rfl⟩
      rcases of_elementList_takes found (Element.Conforms blueprint property)
        (conforms_of_element_takes each) otherTakes with ⟨kindEq, _, holds⟩
      refine ⟨blueprint, ?_, holds⟩
      rwa [kindEq]

theorem storable_of_sectionContent_takes {types : TypeTable} (faithful : types.Faithful)
    {blueprints : Blueprints} {content read : Section} (equipped : content.Equipped blueprints)
    (kept : ¬content.IsBuildInfo) {bytes : List UInt8}
    (takes : (sectionContent types blueprints content).Takes 0 bytes read) :
    read.Storable types blueprints := by
  cases content with
  | descriptors table =>
      rcases Regular.descriptorTable.takes_map takes with ⟨other, otherTakes, rfl⟩
      exact storable_of_descriptorTable_takes otherTakes
  | metadata metadata =>
      rcases (Regular.metadata types).takes_map takes with ⟨other, otherTakes, rfl⟩
      exact storable_of_metadata_takes faithful otherTakes
  | buildInfo info => exact absurd trivial kept
  | elements list =>
      rcases equipped with ⟨blueprint, found⟩
      rcases (Regular.elementList found).takes_map takes with ⟨other, otherTakes, rfl⟩
      rcases of_elementList_takes found (Element.Storable types blueprint)
        (storable_of_element_takes faithful) otherTakes with ⟨kindEq, short, holds⟩
      refine ⟨short, blueprint, ?_, holds⟩
      rwa [kindEq]

end Reader

namespace Exchange

theorem elementList {types : TypeTable} {writerBlueprints blueprints : Blueprints}
    {list : ElementList} {blueprint : Blueprint}
    (writerFound : writerBlueprints.get? list.kind = some blueprint)
    (found : blueprints.get? list.kind = some blueprint)
    (short : list.elements.length ≤ Reader.maxCollectionLength)
    (storable : ∀ element ∈ list.elements, element.Storable types blueprint) :
    Exchange (Writer.elementList types writerBlueprints list)
      (Reader.elementList types blueprints list.kind) 0 list := by
  have elements := each fun stored member => element (storable stored member)
  simp only [Reader.elementList_eq found, Writer.elementList,
    Blueprints.get_eq_of_get?_eq writerFound]
  apply (length short 0).bind
  exact elements.map fun elements => (⟨list.kind, elements⟩ : ElementList)

/-- A stored section is read by whoever has the same blueprint for its kind. -/
theorem sectionContent {types : TypeTable} {writerBlueprints blueprints : Blueprints}
    {content : Section} (storable : content.Storable types writerBlueprints)
    (agree : ∀ list, content = .elements list →
      blueprints.get? list.kind = writerBlueprints.get? list.kind) :
    Exchange (Writer.sectionContent types writerBlueprints content)
      (Reader.sectionContent types blueprints content) 0 content := by
  cases content with
  | descriptors table => exact (descriptorTable storable 0).map Section.descriptors
  | metadata metadata => exact (Exchange.metadata storable).map Section.metadata
  | buildInfo info => exact storable.elim
  | elements list =>
      rcases storable with ⟨short, blueprint, writerFound, storable⟩
      have found := (agree list rfl).trans writerFound
      exact (elementList writerFound found short storable).map Section.elements

end Exchange

end Resemblance
