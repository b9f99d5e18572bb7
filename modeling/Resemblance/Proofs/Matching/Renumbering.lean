import Resemblance.Matching.Comparison
import Resemblance.Proofs.Profile.Contents
import Resemblance.Proofs.Profile.Reloading

/-!
# Renumbered descriptors

Elements refer to descriptors by numbers, which depend on the order in which descriptors were
interned. A comparison sees elements through views, in which the text of a descriptor has taken the
place of its number. So a profile may be replaced by any other one that looks the same, and in
particular by one in which the descriptors have other numbers.
-/

namespace Resemblance

/-! ## Profiles that look the same -/

namespace Profile

/-- The views of the elements of a kind, if there is a section for them. -/
def listedViews (profile : Profile) (kind : Kind) : Except Failure (List ElementView) :=
  (profile.elements kind).map fun list => list.elements.map profile.view

/-- All that a comparison can see of two profiles is the same. -/
structure LooksLike (profile other : Profile) : Prop where
  strategy_eq : profile.strategy = other.strategy
  isApplication_eq : profile.isApplication = other.isApplication
  label_eq : profile.label = other.label
  kinds_eq : profile.kinds = other.kinds
  listedViews_eq : ∀ kind, profile.listedViews kind = other.listedViews kind

theorem LooksLike.refl (profile : Profile) : profile.LooksLike profile :=
  ⟨rfl, rfl, rfl, rfl, fun _ => rfl⟩

theorem viewsOf_eq_listedViews (profile : Profile) (kind : Kind) :
    profile.viewsOf kind = (profile.listedViews kind).toOption.getD [] := by
  rw [viewsOf, listedViews]
  cases profile.elements kind <;> rfl

end Profile

/-- A comparison of a kind uses nothing but views. -/
theorem compareKind_eq_of_listedViews (config : Config) (library application : Profile)
    (kind : Kind) :
    compareKind config library application kind = (do
      let threshold := config.thresholds.threshold kind.name
      let libraries ← library.listedViews kind
      let applications := (application.listedViews kind).toOption.getD []
      let weights ← weightMatrix library.strategy threshold.toFloat libraries applications
      let assignment ← Assignment.inMode config.matching.mode weights applications.length
      return ⟨kind, config.matching.mode, threshold, assignment⟩) := by
  rw [compareKind, Profile.listedViews, Profile.viewsOf_eq_listedViews]
  cases library.elements kind <;> rfl

namespace Comparison

variable {left right left' right' library : Profile}

theorem compareKind_congr (config : Config) {library' application application' : Profile}
    (sameLibrary : library.LooksLike library')
    (sameApplication : application.LooksLike application') :
    compareKind config library application = compareKind config library' application' := by
  funext kind
  rw [compareKind_eq_of_listedViews, compareKind_eq_of_listedViews, sameLibrary.listedViews_eq,
    sameLibrary.strategy_eq, sameApplication.listedViews_eq]

/-- Profiles that look the same take the same roles. -/
theorem looksLike_roles (sameLeft : left.LooksLike left') (sameRight : right.LooksLike right') :
    (roles left right).1.LooksLike (roles left' right').1 ∧
      (roles left right).2.LooksLike (roles left' right').2 := by
  rw [roles, roles, sameLeft.isApplication_eq, sameRight.isApplication_eq]
  split
  · exact ⟨sameRight, sameLeft⟩
  · exact ⟨sameLeft, sameRight⟩

theorem ofProfiles_congr (config : Config) (sameLeft : left.LooksLike left')
    (sameRight : right.LooksLike right') :
    ofProfiles config left right = ofProfiles config left' right' := by
  rcases looksLike_roles sameLeft sameRight with ⟨sameLibrary, sameApplication⟩
  rw [ofProfiles, ofProfiles]
  dsimp only
  rw [sameLibrary.kinds_eq, compareKind_congr config sameLibrary sameApplication,
    sameLibrary.label_eq, sameApplication.label_eq]

/-- If just one of two profiles is an application, it does not matter which one comes first. -/
theorem roles_comm (apart : left.isApplication ≠ right.isApplication) :
    roles left right = roles right left := by
  rw [roles, roles]
  cases leftMark : left.isApplication <;> cases rightMark : right.isApplication <;>
    simp [leftMark, rightMark] at apart ⊢

end Comparison

/-! ## Renumbered profiles -/

/-- A table has the descriptors of another one under other numbers. -/
def DescriptorTable.Renumbered (number : UInt32 → UInt32) (table other : DescriptorTable) : Prop :=
  ∀ index, index.toNat < table.size → other.resolve? (number index) = table.resolve? index

/-- An element that is the same except for the number of its descriptor. -/
structure Element.Renumbered (number : UInt32 → UInt32) (element other : Element) : Prop where
  kind_eq : other.kind = element.kind
  descriptor_eq : other.descriptor = number element.descriptor
  slots_eq : other.slots = element.slots

/-- A section with other numbers for descriptors; what was recorded of the build may differ. -/
inductive Section.Renumbered (number : UInt32 → UInt32) : Section → Section → Prop where
  | descriptors {table other : DescriptorTable} (same : table.Renumbered number other) :
      Renumbered number (.descriptors table) (.descriptors other)
  | metadata (metadata : Metadata) : Renumbered number (.metadata metadata) (.metadata metadata)
  | buildInfo (info other : BuildInfo) : Renumbered number (.buildInfo info) (.buildInfo other)
  | elements (kind : Kind) {elements others : List Element}
      (same : List.Forall₂ (Element.Renumbered number) elements others) :
      Renumbered number (.elements ⟨kind, elements⟩) (.elements ⟨kind, others⟩)

/-- Sections with other numbers, in the same order. -/
abbrev SectionsRenumbered (number : UInt32 → UInt32) :
    List RegisteredSection → List RegisteredSection → Prop :=
  List.Forall₂ fun registered counterpart =>
    registered.content.Renumbered number counterpart.content

/-- A profile that is the same except for the numbers of its descriptors. -/
structure Profile.Renumbered (number : UInt32 → UInt32) (profile other : Profile) : Prop where
  strategy_eq : profile.strategy = other.strategy
  blueprints_eq : profile.blueprints = other.blueprints
  isApplication_eq : profile.isApplication = other.isApplication
  source?_eq : profile.source? = other.source?
  sections : SectionsRenumbered number profile.sections other.sections

variable {number : UInt32 → UInt32}

theorem Section.Renumbered.tag_eq {content other : Section}
    (same : content.Renumbered number other) : content.tag = other.tag := by
  cases same <;> rfl

namespace SectionsRenumbered

variable {sections others : List RegisteredSection}

theorem find?_eq (same : SectionsRenumbered number sections others) (tag : UInt32) :
    sections.find? (·.tag == tag) = none ∧ others.find? (·.tag == tag) = none ∨
      ∃ registered counterpart, sections.find? (·.tag == tag) = some registered ∧
        others.find? (·.tag == tag) = some counterpart ∧
        registered.content.Renumbered number counterpart.content := by
  induction same with
  | nil => exact .inl ⟨rfl, rfl⟩
  | @cons registered counterpart _ _ first _ ih =>
      have tagEq : registered.tag = counterpart.tag := first.tag_eq
      rw [List.find?_cons, List.find?_cons, tagEq]
      split
      · exact .inr ⟨registered, counterpart, rfl, rfl, first⟩
      · exact ih

theorem kindOf?_eq (same : SectionsRenumbered number sections others) :
    sections.filterMap Profile.kindOf? = others.filterMap Profile.kindOf? := by
  induction same with
  | nil => rfl
  | @cons registered counterpart _ _ first _ ih =>
      have kindEq : Profile.kindOf? registered = Profile.kindOf? counterpart := by
        rcases registered with ⟨_, content⟩
        rcases counterpart with ⟨_, other⟩
        dsimp only at first
        cases first <;> rfl
      rw [List.filterMap_cons, List.filterMap_cons, kindEq, ih]

end SectionsRenumbered

namespace Profile.Renumbered

variable {profile other : Profile} {table : DescriptorTable}

/-- What is found under a name are counterparts. -/
theorem content?_eq (same : profile.Renumbered number other) (name : String) :
    profile.content? name = none ∧ other.content? name = none ∨
      ∃ content counterpart, profile.content? name = some content ∧
        other.content? name = some counterpart ∧ content.Renumbered number counterpart := by
  simp only [Profile.content?, section?, find?]
  rcases SectionsRenumbered.find?_eq same.sections (Hash.nameHash name) with
    ⟨absent, otherAbsent⟩ | ⟨registered, counterpart, found, otherFound, alike⟩
  · rw [absent, otherAbsent]
    exact .inl ⟨rfl, rfl⟩
  · rw [found, otherFound]
    exact .inr ⟨_, _, rfl, rfl, alike⟩

theorem exists_descriptors_eq (same : profile.Renumbered number other)
    (known : profile.descriptors = .ok table) :
    ∃ renumbered, other.descriptors = .ok renumbered ∧ table.Renumbered number renumbered := by
  rw [descriptors, descriptorsIn] at known ⊢
  rcases same.content?_eq Section.descriptorsName with
    ⟨absent, _⟩ | ⟨content, counterpart, found, otherFound, alike⟩
  · simp [absent] at known
  · rw [found] at known
    rw [otherFound]
    cases alike with
    | descriptors sameTable =>
        cases known
        exact ⟨_, rfl, sameTable⟩
    | _ => cases known

theorem metadata?_eq (same : profile.Renumbered number other) :
    profile.metadata? = other.metadata? := by
  rw [metadata?, metadata?, metadataIn, metadataIn]
  rcases same.content?_eq Section.metadataName with
    ⟨absent, otherAbsent⟩ | ⟨content, counterpart, found, otherFound, alike⟩
  · rw [absent, otherAbsent]
  · rw [found, otherFound]
    cases alike <;> rfl

theorem label_eq (same : profile.Renumbered number other) : profile.label = other.label := by
  rw [label, label, fallbackLabel, fallbackLabel, same.metadata?_eq, same.source?_eq]

theorem kinds_eq (same : profile.Renumbered number other) : profile.kinds = other.kinds :=
  SectionsRenumbered.kindOf?_eq same.sections

/-- A renumbered element shows the same descriptor. -/
theorem view_eq (same : profile.Renumbered number other) (known : profile.descriptors = .ok table)
    {element counterpart : Element} (alike : element.Renumbered number counterpart)
    (within : element.descriptor.toNat < table.size) :
    profile.view element = other.view counterpart := by
  rcases same.exists_descriptors_eq known with ⟨renumbered, otherKnown, sameTable⟩
  have sameText : renumbered.resolve? counterpart.descriptor =
      table.resolve? element.descriptor := by
    rw [alike.descriptor_eq]
    exact sameTable element.descriptor within
  simp only [view, known, otherKnown, sameText, alike.kind_eq, alike.slots_eq, same.blueprints_eq,
    same.isApplication_eq, Except.toOption, Option.bind_some]

theorem map_view_eq (same : profile.Renumbered number other)
    (known : profile.descriptors = .ok table) {elements others : List Element}
    (alike : List.Forall₂ (Element.Renumbered number) elements others)
    (within : ∀ element ∈ elements, element.descriptor.toNat < table.size) :
    elements.map profile.view = others.map other.view := by
  induction alike with
  | nil => rfl
  | cons first _ ih =>
      rcases List.forall_mem_cons.mp within with ⟨firstWithin, othersWithin⟩
      rw [List.map_cons, List.map_cons, same.view_eq known first firstWithin, ih othersWithin]

theorem listedViews_eq (same : profile.Renumbered number other)
    (valid : profile.checkReferences = .ok ()) (kind : Kind) :
    profile.listedViews kind = other.listedViews kind := by
  rcases except_bind_eq_ok.mp valid with ⟨table, known, _⟩
  rw [listedViews, listedViews]
  rcases same.content?_eq kind.sectionName with
    ⟨absent, otherAbsent⟩ | ⟨content, counterpart, found, otherFound, alike⟩
  · simp only [Profile.elements, elementsIn, absent, otherAbsent]
    rfl
  · cases alike with
    | @elements listKind elements others sameElements =>
        have listed : profile.elements kind = .ok ⟨listKind, elements⟩ := by
          rw [Profile.elements, elementsIn, found]
        have otherListed : other.elements kind = .ok ⟨listKind, others⟩ := by
          rw [Profile.elements, elementsIn, otherFound]
        rcases exists_content_of_elements_eq listed with ⟨registered, member, contentEq⟩
        have within := Assembled.resolved_of_checkReferences valid known member contentEq
        rw [listed, otherListed]
        exact congrArg Except.ok (same.map_view_eq known sameElements within)
    | _ =>
        simp only [Profile.elements, elementsIn, found, otherFound]
        rfl

theorem looksLike (same : profile.Renumbered number other)
    (valid : profile.checkReferences = .ok ()) : profile.LooksLike other :=
  ⟨same.strategy_eq, same.isApplication_eq, same.label_eq, same.kinds_eq,
    same.listedViews_eq valid⟩

end Profile.Renumbered

/--
A comparison gives the same report for a profile whose descriptors have other numbers, on either
side, and for two profiles in either order if just one of them is an application.
-/
theorem Comparison.ofProfiles_isInvariant :
    (∀ (profile renumbered : Profile) (number : UInt32 → UInt32),
      profile.Renumbered number renumbered → profile.checkReferences = .ok () →
      ∀ (config : Config) (partner : Profile),
        ofProfiles config profile partner = ofProfiles config renumbered partner ∧
        ofProfiles config partner profile = ofProfiles config partner renumbered) ∧
    ∀ (config : Config) (left right : Profile), left.isApplication ≠ right.isApplication →
      ofProfiles config left right = ofProfiles config right left := by
  constructor
  · intro profile renumbered number same valid config partner
    have looksLike := same.looksLike valid
    have partnerSame := Profile.LooksLike.refl partner
    exact ⟨ofProfiles_congr config looksLike partnerSame,
      ofProfiles_congr config partnerSame looksLike⟩
  · intro config left right apart
    rw [ofProfiles, ofProfiles, roles_comm apart]

/-! ## Fields with vectors -/

def vectorElement (descriptor : UInt32) (components : List Int32) : Element :=
  ⟨⟨"field"⟩, descriptor, [some (.vector components)]⟩

/-- A profile of fields, to be compared by the standard algorithms. -/
def vectorProfile (isApplication : Bool) (version : String) (descriptors : List String)
    (elements : List Element) : Profile where
  types := .standard
  strategy := .ofConfig .standard
  blueprints := ⟨[⟨⟨"field"⟩, [(BuildStep.vectorField, .vector)]⟩]⟩
  normalizers := .empty
  sections :=
    [⟨.runtime, .descriptors ⟨descriptors.map fun descriptor => (descriptor, 1)⟩⟩,
      ⟨.runtime, .metadata ⟨Metadata.nilId, "fields", version, isApplication, 0,
        Metadata.currentVersion, []⟩⟩,
      ⟨.runtime, .elements ⟨⟨"field"⟩, elements⟩⟩]
  isApplication := isApplication
  source? := none

def fieldsInOrder : Profile :=
  vectorProfile false "1" ["I", "J"] [vectorElement 0 [1], vectorElement 1 [5]]

def fieldsSwapped : Profile :=
  vectorProfile false "1" ["J", "I"] [vectorElement 1 [1], vectorElement 0 [5]]

def fieldsInUse : Profile :=
  vectorProfile true "1" ["K", "J"] [vectorElement 1 [5]]

theorem renumbered_fieldsSwapped :
    fieldsInOrder.Renumbered (fun index => 1 - index) fieldsSwapped := by
  refine ⟨rfl, rfl, rfl, rfl, ?_⟩
  refine .cons (.descriptors ?_) (.cons (.metadata _) (.cons (.elements _ ?_) .nil))
  · intro index within
    have known : index = 0 ∨ index = 1 := by
      have below : index.toNat < 2 := within
      rw [← UInt32.toNat_inj, ← UInt32.toNat_inj]
      change index.toNat = 0 ∨ index.toNat = 1
      omega
    rcases known with rfl | rfl <;> rfl
  · exact .cons ⟨rfl, rfl, rfl⟩ (.cons ⟨rfl, rfl, rfl⟩ .nil)

theorem checkReferences_fieldsInOrder : fieldsInOrder.checkReferences = .ok () := by
  have evaluated : fieldsInOrder.checkReferences.isOk = true := by
    decide +kernel
  cases checked : fieldsInOrder.checkReferences with
  | error failure => simp [checked, Except.isOk, Except.toBool] at evaluated
  | ok => rfl

/-- Either way to number two descriptors gives the same pair, in either order of the profiles. -/
theorem Comparison.ofProfiles_isInvariant_swapped :
    ∃ comparison, comparison.kinds.map (·.assignment.matched) = [1] ∧
      ofProfiles .standard fieldsInOrder fieldsInUse = .ok comparison ∧
      ofProfiles .standard fieldsSwapped fieldsInUse = .ok comparison ∧
      ofProfiles .standard fieldsInUse fieldsInOrder = .ok comparison := by
  have evaluated : (match ofProfiles .standard fieldsInOrder fieldsInUse with
      | .error _ => false
      | .ok comparison => decide (comparison.kinds.map (·.assignment.matched) = [1])) = true := by
    decide +kernel
  have renumbered := ofProfiles_isInvariant.1 fieldsInOrder fieldsSwapped _
    renumbered_fieldsSwapped checkReferences_fieldsInOrder .standard fieldsInUse
  have turned := ofProfiles_isInvariant.2 .standard fieldsInOrder fieldsInUse (by decide)
  cases success : ofProfiles .standard fieldsInOrder fieldsInUse with
  | error failure => simp [success] at evaluated
  | ok comparison =>
      simp only [success, decide_eq_true_eq] at evaluated
      exact ⟨comparison, evaluated, rfl, renumbered.1.symm.trans success, turned.symm.trans success⟩

end Resemblance
