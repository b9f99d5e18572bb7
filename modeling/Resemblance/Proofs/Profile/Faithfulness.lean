import Resemblance.Proofs.Profile.Gathering
import Resemblance.Proofs.Profile.Replacement

/-!
# Builds lose nothing

Whatever a profile held, a build leaves it where it was, adds one complete element for each
extracted one to the list of its kind, in the order of extraction, and counts each occurrence of a
descriptor. `Assembly.Gathers` says so without mention of how the build goes about it: in terms of
the configured algorithms, of what the last normalizer of each kind leaves of the tokens, and of
what can be looked up in the profile afterwards.
-/

namespace Resemblance

/-- A profile that is set up, compared and normalized as another one, whatever it holds. -/
structure Profile.EquippedLike (profile other : Profile) : Prop extends
    profile.SetUpLike other where
  strategy_eq : profile.strategy = other.strategy
  normalizers_eq : profile.normalizers = other.normalizers

namespace Assembly

/--
What the element of an extracted one looks like: its descriptor is the extracted one, as long as 32
bits can number all descriptors, and its only value, if its kind has an algorithm, is what that
algorithm computes of the numbers and of the tokens that normalization leaves.
-/
structure Represents (assembly : Assembly) (config : Config) (later : Profile)
    (extracted : Extracted) (element : Element) : Prop where
  kind_eq : element.kind = extracted.kind
  isComplete : element.isComplete = true
  computed : ∃ tokens, assembly.LeavesTokens extracted tokens ∧
    (later.view element).fields =
      match config.algorithm? extracted.kind with
      | some algorithm =>
          [((Strategy.algorithmSlot config algorithm).key,
            some ((Strategy.algorithmSlot config algorithm).compute
              { extracted with tokens }))]
      | none => []
  /-- The element has no slot besides the fields that are seen. -/
  length_eq : element.slots.length = (later.view element).fields.length
  resolves : ∀ table, later.descriptors = .ok table → table.size ≤ UInt32.size →
    table.resolve? element.descriptor = some extracted.descriptor

/-- Everything that was extracted is in the later profile, and nothing else is new there. -/
structure Gathers (assembly : Assembly) (config : Config) (profile : Profile)
    (extracted : List Extracted) (later : Profile) : Prop where
  /-- Each list has grown by what was extracted of its kind, and its length is recorded. -/
  listed : ∃ info, later.buildInfoIn Section.buildInfoName = .ok info ∧
    ∀ kind, profile.blueprints.contains kind = true → ∃ old added,
      profile.elements kind = .ok ⟨kind, old⟩ ∧
      later.elements kind = .ok ⟨kind, old ++ added⟩ ∧
      List.Forall₂ (assembly.Represents config later) (extracted.filter (·.kind = kind)) added ∧
      info.counts.get? kind.name = some (old ++ added).length
  /-- The table keeps its indices, and it counts every occurrence of a descriptor. -/
  interned : ∃ table grown, profile.descriptors = .ok table ∧ later.descriptors = .ok grown ∧
    (∀ descriptor index, table.index? descriptor = some index →
      grown.index? descriptor = some index) ∧
    ∀ descriptor, grown.occurrences descriptor =
      min (table.occurrences descriptor + (extracted.map (·.descriptor)).count descriptor)
        DescriptorTable.greatestCount

variable {assembly : Assembly} {config : Config} {profile later : Profile} {names : List String}

theorem represents_elementOf {table : DescriptorTable} {extracted : Extracted}
    (normalized : profile.normalize extracted = assembly.normalized extracted)
    (stocked : profile.Stocked config names)
    (expected : profile.blueprints.contains extracted.kind)
    (blueprintsEq : later.blueprints = profile.blueprints)
    (known : later.descriptors = .ok table) (interned : extracted.descriptor ∈ table.names) :
    assembly.Represents config later extracted (profile.elementOf config table extracted) := by
  rcases Option.isSome_iff_exists.mp expected with ⟨blueprint, found⟩
  have blueprintEq := stocked.blueprint_eq found
  rcases exists_leavesTokens assembly extracted with ⟨tokens, leaves⟩
  have left := leavesTokens_iff.mp leaves
  have slotsEq : profile.slotsOf config extracted =
      (config.slots extracted.kind).map fun slot =>
        some (slot.compute { extracted with tokens }) := by
    rw [Profile.slotsOf, normalized, left]
  have fieldsEq : (later.view (profile.elementOf config table extracted)).fields =
      (config.slots extracted.kind).map fun slot =>
        (slot.key, some (slot.compute { extracted with tokens })) := by
    have keysEq : blueprint.keys = (config.slots extracted.kind).map (·.key) := by
      rw [blueprintEq, Blueprint.keys, Config.blueprint, List.map_map]
      rfl
    simp only [Profile.view, Profile.elementOf, blueprintsEq, found, keysEq, slotsEq,
      List.zip_map']
  refine ⟨rfl, ?_, ⟨tokens, leaves, ?_⟩, ?_, ?_⟩
  · simp [Element.isComplete, Profile.elementOf, slotsEq]
  · rw [fieldsEq, Config.slots]
    cases config.algorithm? extracted.kind <;> rfl
  · rw [fieldsEq, Profile.elementOf, slotsEq, List.length_map, List.length_map]
  · intro others othersKnown numbered
    cases known.symm.trans othersKnown
    exact DescriptorTable.resolve?_idxOf numbered interned

/-- A build succeeds if all kinds are known, and it gathers everything that was extracted. -/
theorem exists_build_eq
    (normalized : ∀ extracted, profile.normalize extracted = assembly.normalized extracted)
    (stocked : profile.Stocked config names) (origin : Origin) {extracted : List Extracted}
    (expected : ∀ element ∈ extracted, profile.blueprints.contains element.kind = true) :
    ∃ later, profile.build origin extracted = .ok later ∧
      assembly.Gathers config profile extracted later := by
  rcases stocked.toCoherent.exists_descriptors with ⟨table, known⟩
  rcases stocked.exists_build_eq_record known origin expected with ⟨normalizers, built⟩
  have filledEq := stocked.outline_filled table extracted
  rcases (stocked.of_outline_eq filledEq rfl rfl).of_record origin normalizers with
    ⟨descriptorsEq, elementsEq, info, infoFound, counted⟩
  have laterKnown := descriptorsEq.trans (stocked.descriptors_filled known extracted)
  refine ⟨_, built, ⟨info, infoFound, ?_⟩, table, _, known, laterKnown,
    fun descriptor index found => DescriptorTable.index?_internAll found _,
    table.occurrences_internAll _⟩
  intro kind kindExpected
  rcases Option.isSome_iff_exists.mp kindExpected with ⟨blueprint, found⟩
  have listed := stocked.listed found
  have filledListed := listed.of_outline_eq filledEq
  rcases stocked.toCoherent.exists_elements_eq listed with ⟨old, oldFound⟩
  have filledFound := stocked.elements_filled listed oldFound table extracted
  refine ⟨old, _, oldFound, (elementsEq kind filledListed).trans filledFound, ?_,
    counted kind _ filledListed filledFound⟩
  rw [List.forall₂_map_right_iff, List.forall₂_same]
  intro element member
  have elementMember := List.mem_of_mem_filter member
  apply represents_elementOf (normalized element) stocked
  · exact expected element elementMember
  · exact Profile.blueprints_record _ origin normalizers
  · exact laterKnown
  · exact table.mem_names_internAll (List.mem_map_of_mem elementMember)

/-- The value of an element is computed of the normalized form of the extracted one. -/
theorem Represents.fields_eq {extracted : Extracted} {element : Element} {algorithm : Algorithm}
    (represents : assembly.Represents config later extracted element)
    (algorithmEq : config.algorithm? extracted.kind = some algorithm) :
    (later.view element).fields =
      [((Strategy.algorithmSlot config algorithm).key,
        some ((Strategy.algorithmSlot config algorithm).compute
          (assembly.normalized extracted)))] := by
  rcases represents.computed with ⟨tokens, leaves, fieldsEq⟩
  rw [fieldsEq, algorithmEq, leavesTokens_iff.mp leaves]

/-- Each extracted element is represented in the list of its kind. -/
theorem Gathers.exists_represents {extracted : List Extracted} {single : Extracted}
    (gathers : assembly.Gathers config profile extracted later) (member : single ∈ extracted)
    (expected : profile.blueprints.contains single.kind = true) :
    ∃ list, later.elements single.kind = .ok list ∧
      ∃ element ∈ list.elements, assembly.Represents config later single element := by
  rcases gathers.listed with ⟨_, _, lists⟩
  rcases lists single.kind expected with ⟨old, added, _, laterFound, related, _⟩
  have ofKind : single ∈ extracted.filter (·.kind = single.kind) :=
    List.mem_filter.mpr ⟨member, decide_eq_true rfl⟩
  rcases List.mem_iff_getElem.mp ofKind with ⟨position, within, singleEq⟩
  rcases List.forall₂_iff_get.mp related with ⟨lengthEq, each⟩
  have represents := each position within (lengthEq ▸ within)
  rw [List.get_eq_getElem, List.get_eq_getElem, singleEq] at represents
  exact ⟨_, laterFound, _, List.mem_append_right old (List.getElem_mem _), represents⟩

/-! ## Elements of several kinds -/

/-- The standard algorithms, a kind without one, and two normalizers for the tokens of classes. -/
def withNotes : Assembly :=
  { ofConfig .standard with
    kinds? := some [⟨"class"⟩, ⟨"method"⟩, ⟨"note"⟩]
    normalizers := [(⟨"class"⟩, .identity), (⟨"class"⟩, ⟨true, ["nop"]⟩)] }

/-- A descriptor whose occurrences can be counted no further. -/
def exhaustedTable : DescriptorTable := ⟨[("()V", 4294967295)]⟩

def earlierMethod : Element := ⟨⟨"method"⟩, 0, [some (.digest none)]⟩

/-- Elements of three kinds in turn, some of which have one descriptor. -/
def interleaved : List Extracted :=
  [⟨⟨"method"⟩, "()V", ["x", "y"], []⟩, ⟨⟨"note"⟩, "()V", [], []⟩,
    ⟨⟨"class"⟩, "La/A;", ["NOP", "Return"], []⟩, ⟨⟨"method"⟩, "(I)V", [], []⟩,
    ⟨⟨"method"⟩, "()V", [], []⟩]

theorem exists_build_withNotes_eq_ok :
    ∃ blank, withNotes.build = .ok blank ∧
      ∀ element ∈ interleaved, blank.blueprints.contains element.kind = true := by
  have evaluated : (match withNotes.build with
      | .error _ => false
      | .ok blank => interleaved.all fun element => blank.blueprints.contains element.kind) =
        true := by
    decide +kernel
  cases assembled : withNotes.build with
  | error failure => simp [assembled] at evaluated
  | ok blank =>
      simp only [assembled, List.all_eq_true] at evaluated
      exact ⟨blank, rfl, evaluated⟩

theorem separate_withNotes : Set.InjOn Hash.nameHash {name | name ∈ withNotes.sectionNames} := by
  have evaluated : ∀ name ∈ withNotes.sectionNames, ∀ other ∈ withNotes.sectionNames,
      Hash.nameHash name = Hash.nameHash other → name = other := by
    decide +kernel
  exact fun name member other otherMember => evaluated name member other otherMember

end Assembly

end Resemblance
