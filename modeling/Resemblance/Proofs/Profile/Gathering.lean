import Resemblance.Proofs.Profile.Building
import Resemblance.Proofs.Profile.Stock

/-!
# Building a profile from what was extracted

A build makes one element of each extracted element and adds it to the list of its kind. All
descriptors are interned into one table, which numbers an element by the index that its descriptor
has in the end, since indices do not change. So the elements that are built are the images of the
extracted ones under `Profile.elementOf`, and each list gets those of its kind, in their order:
`Profile.appended`.
-/

namespace Resemblance

namespace Profile

variable {profile : Profile} {config : Config} {names : List String} {table : DescriptorTable}

/-! ## One element -/

@[simp]
theorem kind_normalize (profile : Profile) (extracted : Extracted) :
    (profile.normalize extracted).kind = extracted.kind := by
  rw [normalize]
  split <;> rfl

@[simp]
theorem descriptor_normalize (profile : Profile) (extracted : Extracted) :
    (profile.normalize extracted).descriptor = extracted.descriptor := by
  rw [normalize]
  split <;> rfl

/-- The value that the algorithm of the kind computes of the normalized tokens and numbers. -/
def slotsOf (profile : Profile) (config : Config) (extracted : Extracted) :
    List (Option Value) :=
  (config.slots extracted.kind).map fun slot => some (slot.compute (profile.normalize extracted))

/-- The element that is built of an extracted one, numbered as in a table. -/
def elementOf (profile : Profile) (config : Config) (table : DescriptorTable)
    (extracted : Extracted) : Element :=
  ⟨extracted.kind, (table.names.idxOf extracted.descriptor).toUInt32,
    profile.slotsOf config extracted⟩

theorem instantiate_blueprint (derived : profile.strategy = .ofConfig config)
    (descriptor : UInt32) (extracted : Extracted) :
    profile.instantiate (config.blueprint extracted.kind) descriptor
        (profile.normalize extracted) =
      .ok ⟨extracted.kind, descriptor, profile.slotsOf config extracted⟩ := by
  rw [instantiate, derived, kind_normalize, Strategy.step?_ofConfig, Config.blueprint, slotsOf,
    Config.slots]
  cases config.algorithm? extracted.kind with
  | none => rfl
  | some algorithm =>
      rcases Strategy.exists_algorithmStep_eq config algorithm with ⟨name, stepEq⟩
      simp [stepEq, BuildStep.computing, Blueprint.requireSlot, Blueprint.slot?,
        Blueprint.instantiate, Blueprint.size, Element.setValue, bind, Except.bind]

theorem intern_eq (known : profile.descriptors = .ok table) (descriptor : String) :
    profile.intern descriptor =
      .ok ((table.intern descriptor).1,
        profile.setSection (.descriptors (table.intern descriptor).2)) :=
  except_bind_eq_ok.mpr ⟨table, known, rfl⟩

theorem Stocked.buildElement_eq (stocked : profile.Stocked config names)
    (known : profile.descriptors = .ok table) {extracted : Extracted}
    (expected : profile.blueprints.contains extracted.kind) :
    profile.buildElement extracted =
      .ok (profile.elementOf config (table.intern extracted.descriptor).2 extracted,
        profile.setSection (.descriptors (table.intern extracted.descriptor).2)) := by
  rcases Option.isSome_iff_exists.mp expected with ⟨blueprint, found⟩
  have made := instantiate_blueprint stocked.strategy_eq (table.intern extracted.descriptor).1
    extracted
  rw [← stocked.blueprint_eq found] at made
  rw [elementOf, ← DescriptorTable.index_intern]
  simp only [buildElement, kind_normalize, descriptor_normalize]
  refine except_bind_eq_ok.mpr ⟨_, intern_eq known extracted.descriptor, ?_⟩
  refine except_bind_eq_ok.mpr ⟨blueprint, Blueprints.get_eq_of_get?_eq found, ?_⟩
  exact except_bind_eq_ok.mpr ⟨_, made, rfl⟩

/-! ## All elements -/

theorem internAll_cons (table : DescriptorTable) (descriptor : String)
    (descriptors : List String) :
    table.internAll (descriptor :: descriptors) =
      (table.intern descriptor).2.internAll descriptors :=
  rfl

/-- An element keeps its number while more descriptors are interned. -/
theorem elementOf_internAll (profile : Profile) (config : Config) (table : DescriptorTable)
    (extracted : Extracted) (descriptors : List String) :
    profile.elementOf config (table.internAll (extracted.descriptor :: descriptors)) extracted =
      profile.elementOf config (table.intern extracted.descriptor).2 extracted := by
  rw [elementOf, internAll_cons,
    DescriptorTable.idxOf_internAll (table.mem_names_intern extracted.descriptor), elementOf]

/-- All elements are numbered as in the table that holds all their descriptors. -/
theorem Stocked.buildElements_eq (stocked : profile.Stocked config names)
    (known : profile.descriptors = .ok table) {extracted : List Extracted}
    (expected : ∀ element ∈ extracted, profile.blueprints.contains element.kind) :
    profile.buildElements extracted =
      .ok (extracted.map (profile.elementOf config (table.internAll (extracted.map (·.descriptor)))),
        profile.setSection (.descriptors (table.internAll (extracted.map (·.descriptor))))) := by
  induction extracted generalizing profile table with
  | nil =>
      have unchanged := stocked.toCoherent.setSection_descriptors known
      rw [buildElements]
      exact congrArg (fun profile => Except.ok ([], profile)) unchanged.symm
  | cons first others ih =>
      rcases List.forall_mem_cons.mp expected with ⟨firstExpected, othersExpected⟩
      have place := stocked.toCoherent.hasPlaceFor_descriptors (table.intern first.descriptor).2
      have outlineEq := stocked.toCoherent.outline_setSection place
      have later := stocked.of_outline_eq outlineEq rfl rfl
      have laterKnown : (profile.setSection
          (.descriptors (table.intern first.descriptor).2)).descriptors =
            .ok (table.intern first.descriptor).2 :=
        stocked.toCoherent.descriptors_setSection place known
      have othersBuilt := ih later laterKnown othersExpected
      have sameTag (others : DescriptorTable) :
          (Section.descriptors (table.intern first.descriptor).2).tag =
            (Section.descriptors others).tag :=
        rfl
      rw [setSection_setSection (sameTag _)] at othersBuilt
      rw [List.map_cons, List.map_cons, elementOf_internAll, internAll_cons]
      refine except_bind_eq_ok.mpr ⟨_, stocked.buildElement_eq known firstExpected, ?_⟩
      exact except_bind_eq_ok.mpr ⟨_, othersBuilt, rfl⟩

end Profile

/-! ## Adding elements to their lists -/

/-- A list of elements with those of its kind added at the end. -/
def Section.appended (elements : List Element) : Section → Section
  | .elements list =>
      .elements ⟨list.kind, list.elements ++ elements.filter (·.kind = list.kind)⟩
  | other => other

@[simp]
theorem Section.reset_appended (elements : List Element) (content : Section) :
    (content.appended elements).reset = content.reset := by
  cases content <;> rfl

@[simp]
theorem Section.appended_nil (content : Section) : content.appended [] = content := by
  cases content <;> simp [appended]

theorem Section.appended_appended (first others : List Element) (content : Section) :
    (content.appended first).appended others = content.appended (first ++ others) := by
  cases content <;> simp [appended]

/-- Where the lists of other kinds are, an element changes nothing. -/
theorem Section.appended_of_tag_ne {content : Section} {element : Element}
    (elsewhere : content.tag ≠ Hash.nameHash element.kind.sectionName) :
    content.appended [element] = content := by
  cases content with
  | elements list =>
      have otherKind : element.kind ≠ list.kind := by
        intro same
        apply elsewhere
        rw [tag, name, same]
      simp [appended, otherKind]
  | _ => rfl

namespace Profile

variable {profile : Profile} {config : Config} {names : List String} {kind : Kind}

/-- Each list has the elements of its kind added at the end. -/
def appended (profile : Profile) (elements : List Element) : Profile :=
  { profile with sections := profile.sections.map fun registered =>
      { registered with content := registered.content.appended elements } }

@[simp]
theorem outline_appended (profile : Profile) (elements : List Element) :
    outline (profile.appended elements).sections = outline profile.sections := by
  simp [outline, appended, RegisteredSection.reset, Function.comp_def]

theorem appended_nil (profile : Profile) : profile.appended [] = profile := by
  simp [appended]

theorem appended_appended (profile : Profile) (first others : List Element) :
    (profile.appended first).appended others = profile.appended (first ++ others) := by
  simp [appended, Function.comp_def, Section.appended_appended]

theorem content?_appended (profile : Profile) (elements : List Element) (name : String) :
    (profile.appended elements).content? name =
      (profile.content? name).map (Section.appended elements) := by
  have tagEq (registered : RegisteredSection) :
      RegisteredSection.tag { registered with
        content := registered.content.appended elements } = registered.tag :=
    Section.tag_eq_of_reset_eq (Section.reset_appended elements registered.content)
  rw [appended, content?_map tagEq, content?]
  cases profile.section? name <;> rfl

theorem descriptors_appended (profile : Profile) (elements : List Element) :
    (profile.appended elements).descriptors = profile.descriptors := by
  rw [descriptors, descriptorsIn, content?_appended, descriptors, descriptorsIn]
  cases profile.content? Section.descriptorsName with
  | none => rfl
  | some content => cases content <;> rfl

theorem elements_appended {old : List Element} (found : profile.elements kind = .ok ⟨kind, old⟩)
    (elements : List Element) :
    (profile.appended elements).elements kind =
      .ok ⟨kind, old ++ elements.filter (·.kind = kind)⟩ := by
  rw [Profile.elements, elementsIn] at found ⊢
  rw [content?_appended]
  cases contentEq : profile.content? kind.sectionName with
  | none => simp [contentEq] at found
  | some content =>
      cases content with
      | elements list =>
          simp only [contentEq, Except.ok.injEq] at found
          subst found
          rfl
      | _ => simp [contentEq] at found

/-- To add an element to the list of its kind leaves all other lists as they are. -/
theorem Coherent.pushTo_eq (coherent : profile.Coherent) {element : Element}
    (listed : profile.HasPlaceFor (.elements (.empty element.kind))) :
    profile.pushTo element.kind element = .ok (profile.appended [element]) := by
  rcases coherent.exists_elements_eq listed with ⟨old, found⟩
  rcases exists_content_of_elements_eq found with ⟨place, placeMember, placeEq⟩
  have pushed : ElementList.push ⟨element.kind, old⟩ element =
      .ok ⟨element.kind, old ++ [element]⟩ :=
    if_pos rfl
  have sectionsEq : profile.setSection (.elements ⟨element.kind, old ++ [element]⟩) =
      profile.appended [element] := by
    rw [setSection, appended]
    congr 1
    apply List.map_congr_left
    intro registered member
    have tagEq : place.tag = (Section.elements ⟨element.kind, old ++ [element]⟩).tag := by
      rw [RegisteredSection.tag, placeEq]
      rfl
    by_cases here : registered.tag = (Section.elements ⟨element.kind, old ++ [element]⟩).tag
    · have same := List.inj_on_of_nodup_map coherent.distinct member placeMember
        (here.trans tagEq.symm)
      subst same
      rw [if_pos here, placeEq]
      simp [Section.appended]
    · rw [if_neg here, Section.appended_of_tag_ne here]
  refine except_bind_eq_ok.mpr ⟨_, found, ?_⟩
  refine except_bind_eq_ok.mpr ⟨_, pushed, ?_⟩
  exact congrArg Except.ok sectionsEq

theorem Stocked.pushAll_eq (stocked : profile.Stocked config names) {elements : List Element}
    (expected : ∀ element ∈ elements, profile.blueprints.contains element.kind) :
    profile.pushAll elements = .ok (profile.appended elements) := by
  rw [pushAll]
  induction elements generalizing profile with
  | nil => rw [List.foldlM_nil, appended_nil]; rfl
  | cons element elements ih =>
      rcases List.forall_mem_cons.mp expected with ⟨firstExpected, othersExpected⟩
      rcases Option.isSome_iff_exists.mp firstExpected with ⟨blueprint, found⟩
      have later : (profile.appended [element]).Stocked config names :=
        stocked.of_outline_eq (profile.outline_appended [element]) rfl rfl
      rw [List.foldlM_cons]
      refine except_bind_eq_ok.mpr
        ⟨_, stocked.toCoherent.pushTo_eq (stocked.listed found), ?_⟩
      rw [ih later othersExpected, appended_appended, List.singleton_append]

/-! ## Lists and descriptors together -/

/-- The profile with all descriptors interned and all elements in their lists. -/
def filled (profile : Profile) (config : Config) (table : DescriptorTable)
    (extracted : List Extracted) : Profile :=
  let grown := table.internAll (extracted.map (·.descriptor))
  (profile.setSection (.descriptors grown)).appended (extracted.map (profile.elementOf config grown))

theorem Stocked.outline_filled (stocked : profile.Stocked config names) (table : DescriptorTable)
    (extracted : List Extracted) :
    outline (profile.filled config table extracted).sections = outline profile.sections := by
  rw [filled, outline_appended]
  exact stocked.toCoherent.outline_setSection (stocked.toCoherent.hasPlaceFor_descriptors _)

theorem Stocked.descriptors_filled (stocked : profile.Stocked config names) {table : DescriptorTable}
    (known : profile.descriptors = .ok table) (extracted : List Extracted) :
    (profile.filled config table extracted).descriptors =
      .ok (table.internAll (extracted.map (·.descriptor))) := by
  rw [filled, descriptors_appended]
  exact stocked.toCoherent.descriptors_setSection (stocked.toCoherent.hasPlaceFor_descriptors _)
    known

theorem Stocked.elements_filled (stocked : profile.Stocked config names)
    (listed : profile.HasPlaceFor (.elements (.empty kind))) {old : List Element}
    (found : profile.elements kind = .ok ⟨kind, old⟩) (table : DescriptorTable)
    (extracted : List Extracted) :
    (profile.filled config table extracted).elements kind =
      .ok ⟨kind, old ++ (extracted.filter (·.kind = kind)).map
        (profile.elementOf config (table.internAll (extracted.map (·.descriptor))))⟩ := by
  have interned := stocked.toCoherent.elements_setSection_of_reset_ne
    (stocked.toCoherent.hasPlaceFor_descriptors
      (table.internAll (extracted.map (·.descriptor)))) listed nofun
  rw [filled, elements_appended (interned.trans found), List.filter_map]
  rfl

/-- All elements are built, then all are listed, and then it is recorded what was done. -/
theorem Stocked.exists_build_eq_record (stocked : profile.Stocked config names)
    {table : DescriptorTable} (known : profile.descriptors = .ok table) (origin : Origin)
    {extracted : List Extracted}
    (expected : ∀ element ∈ extracted, profile.blueprints.contains element.kind = true) :
    ∃ normalizers, profile.build origin extracted =
      .ok ((profile.filled config table extracted).record origin normalizers).withoutSource := by
  have required : profile.requireKinds extracted = .ok () := by
    have none : extracted.find? (fun element => !profile.blueprints.contains element.kind) =
        none := by
      rw [List.find?_eq_none]
      intro element member
      simp [expected element member]
    rw [Profile.requireKinds, none]
  have built := stocked.buildElements_eq known expected
  have outlineEq := stocked.toCoherent.outline_setSection
    (stocked.toCoherent.hasPlaceFor_descriptors
      (table.internAll (extracted.map (·.descriptor))))
  have interned := stocked.of_outline_eq outlineEq rfl rfl
  have pushed : (profile.setSection
        (.descriptors (table.internAll (extracted.map (·.descriptor))))).pushAll
      (extracted.map (profile.elementOf config (table.internAll (extracted.map (·.descriptor))))) =
        .ok (profile.filled config table extracted) := by
    apply interned.pushAll_eq
    intro element member
    rcases List.mem_map.mp member with ⟨original, originalMember, rfl⟩
    exact expected original originalMember
  exact ⟨_, except_bind_eq_ok.mpr ⟨_, required,
    except_bind_eq_ok.mpr ⟨_, built, except_bind_eq_ok.mpr ⟨_, pushed, rfl⟩⟩⟩⟩

/-! ## What is recorded -/

@[simp]
theorem blueprints_record (profile : Profile) (origin : Origin) (normalizers : List String) :
    (profile.record origin normalizers).blueprints = profile.blueprints := by
  rw [record]
  split <;> split <;> rfl

theorem HasPlaceFor.hasSection {content : Section} (place : profile.HasPlaceFor content) :
    profile.hasSection content.name = true := by
  rcases place with ⟨registered, member, alike⟩
  rw [Profile.hasSection, section?, find?, List.find?_isSome]
  exact ⟨registered, member, beq_iff_eq.mpr (Section.tag_eq_of_reset_eq alike)⟩

theorem HasPlaceFor.mem_kinds (listed : profile.HasPlaceFor (.elements (.empty kind))) :
    kind ∈ profile.kinds := by
  rcases listed with ⟨registered, member, alike⟩
  refine List.mem_filterMap.mpr ⟨registered, member, ?_⟩
  rw [kindOf?]
  cases contentEq : registered.content with
  | elements list =>
      rw [contentEq] at alike
      cases alike
      rfl
  | _ =>
      rw [contentEq] at alike
      cases alike

/-- The number of elements of a kind is counted under its name. -/
theorem get?_elementCounts (known : kind ∈ profile.kinds) {list : ElementList}
    (found : profile.elements kind = .ok list) :
    profile.elementCounts.get? kind.name = some list.elements.length := by
  rw [elementCounts, NameMap.get?_ofList]
  cases counted : List.find? (·.1 == kind.name) (profile.kinds.map fun kind =>
      (kind.name, ((profile.elements kind).toOption.map (·.elements.length)).getD 0)).reverse with
  | none =>
      have absent := List.find?_eq_none.mp counted _
        (List.mem_reverse.mpr (List.mem_map_of_mem known))
      simp at absent
  | some entry =>
      have sameName : entry.1 = kind.name := by
        simpa using List.find?_some counted
      rcases List.mem_map.mp (List.mem_reverse.mp (List.mem_of_find?_eq_some counted)) with
        ⟨other, _, rfl⟩
      have same : other = kind := congrArg Kind.mk sameName
      subst same
      simp [found, Except.toOption]

theorem Stocked.record_eq (stocked : profile.Stocked config names) (origin : Origin)
    (normalizers : List String) :
    ∃ metadata info, profile.record origin normalizers =
        (profile.setSection (.metadata metadata)).setSection (.buildInfo info) ∧
      info.counts = (profile.setSection (.metadata metadata)).elementCounts := by
  have metadataEq (metadata : Metadata) :
      outline (profile.setSection (.metadata metadata)).sections = outline profile.sections :=
    stocked.toCoherent.outline_setSection stocked.metadata
  have buildInfo (metadata : Metadata) :
      (profile.setSection (.metadata metadata)).hasSection Section.buildInfoName = true :=
    (stocked.buildInfo.of_outline_eq (metadataEq metadata)).hasSection
  have metadata : profile.hasSection Section.metadataName = true := stocked.metadata.hasSection
  simp only [record, metadata, if_true, buildInfo]
  exact ⟨_, _, rfl, rfl⟩

/-- What is recorded changes neither descriptors nor elements, which it counts. -/
theorem Stocked.of_record (stocked : profile.Stocked config names) (origin : Origin)
    (normalizers : List String) :
    (profile.record origin normalizers).descriptors = profile.descriptors ∧
      (∀ kind, profile.HasPlaceFor (.elements (.empty kind)) →
        (profile.record origin normalizers).elements kind = profile.elements kind) ∧
      ∃ info, (profile.record origin normalizers).buildInfoIn Section.buildInfoName = .ok info ∧
        ∀ kind list, profile.HasPlaceFor (.elements (.empty kind)) →
          profile.elements kind = .ok list →
          info.counts.get? kind.name = some list.elements.length := by
  rcases stocked.record_eq origin normalizers with ⟨metadata, info, recordEq, countsEq⟩
  have coherent := stocked.toCoherent
  have metadataPlace : profile.HasPlaceFor (.metadata metadata) := stocked.metadata
  have describedEq := coherent.outline_setSection metadataPlace
  have described := coherent.of_outline_eq describedEq
  have infoPlace : (profile.setSection (.metadata metadata)).HasPlaceFor (.buildInfo info) :=
    stocked.buildInfo.of_outline_eq describedEq
  have describedElements {kind : Kind} (listed : profile.HasPlaceFor (.elements (.empty kind))) :
      (profile.setSection (.metadata metadata)).elements kind = profile.elements kind :=
    coherent.elements_setSection_of_reset_ne metadataPlace listed nofun
  rcases coherent.exists_descriptors with ⟨table, known⟩
  have describedKnown := coherent.descriptors_setSection metadataPlace known
  rw [recordEq]
  refine ⟨?_, ?_, info, ?_, ?_⟩
  · rw [described.descriptors_setSection infoPlace describedKnown, known]
  · intro kind listed
    rw [described.elements_setSection_of_reset_ne infoPlace (listed.of_outline_eq describedEq)
      nofun]
    exact describedElements listed
  · have found := content?_setSection_self infoPlace
    rw [Section.name] at found
    rw [buildInfoIn, found]
  · intro kind list listed found
    rw [countsEq]
    exact get?_elementCounts (listed.of_outline_eq describedEq).mem_kinds
      ((describedElements listed).trans found)

end Profile

end Resemblance
