import Resemblance.Proofs.Profile.Contents
import Resemblance.Proofs.Profile.Reloading
import Resemblance.Proofs.Strategy.Installation
import Resemblance.Proofs.Strategy.SelfScore

/-!
# Comparable profiles

A profile can be compared if an algorithm runs for each kind of its elements, and if every element
that it lists is admitted: filled with a value of that algorithm, and with a descriptor in the
table. A profile that is assembled from a configuration is comparable as long as its kinds have
algorithms. It stays so when one of its sections gets new content with admitted elements, as long as
the table of descriptors does not shrink, and when it is loaded from a stream.
-/

namespace Resemblance

namespace Profile

variable {profile other : Profile} {content : Section}

/-! ## Admitted elements -/

/--
The element is filled as the blueprint of its kind declares, with values that can be compared, and
its descriptor is in the table.
-/
structure Admits (profile : Profile) (element : Element) : Prop where
  conforms : ∃ blueprint, profile.blueprints.get? element.kind = some blueprint ∧
    element.Conforms blueprint Value.IsCountable
  described : ∃ table, profile.descriptors = .ok table ∧ element.descriptor.toNat < table.size

theorem Admits.congr {element : Element} (admits : profile.Admits element)
    (sectionsEq : other.sections = profile.sections)
    (blueprintsEq : other.blueprints = profile.blueprints) : other.Admits element where
  conforms := by
    rw [blueprintsEq]
    exact admits.conforms
  described := by
    simp only [descriptors, descriptorsIn, content?_congr sectionsEq]
    exact admits.described

theorem Admits.setSection {element : Element} (admits : profile.Admits element)
    (coherent : profile.Coherent) (place : profile.HasPlaceFor content)
    (wider : ∀ table replaced, profile.descriptors = .ok table → content = .descriptors replaced →
      table.size ≤ replaced.size) : (profile.setSection content).Admits element where
  conforms := admits.conforms
  described := by
    rcases admits.described with ⟨table, known, within⟩
    refine ⟨_, coherent.descriptors_setSection place known, ?_⟩
    cases content with
    | descriptors replaced => exact within.trans_le (wider table replaced known rfl)
    | _ => exact within

/-! ## Comparable profiles -/

/-- What holds of every profile that comes from an assembly with configured algorithms. -/
structure Comparable (config : Config) (profile : Profile) : Prop extends profile.Assembled where
  metadata : ∀ metadata, profile.HasPlaceFor (.metadata metadata)
  buildInfo : ∀ info, profile.HasPlaceFor (.buildInfo info)
  /-- Elements of a kind have the value that the algorithm of the kind computes, and no other. -/
  runs : ∀ {kind blueprint}, profile.blueprints.get? kind = some blueprint →
    ∃ algorithm, Strategy.Runs config profile.strategy kind algorithm ∧
      blueprint.fields = [((Strategy.algorithmSlot config algorithm).key,
        (Strategy.algorithmSlot config algorithm).type)]
  /-- Everything that is listed is of the kind of its list and admitted. -/
  admitted : ∀ registered ∈ profile.sections, ∀ list, registered.content = .elements list →
    ∀ element ∈ list.elements, element.kind = list.kind ∧ profile.Admits element

/-- A later state of a profile, which is comparable and admits whatever was admitted before. -/
structure Continues (config : Config) (profile later : Profile) : Prop where
  comparable : later.Comparable config
  admits : ∀ {element}, profile.Admits element → later.Admits element

variable {config : Config}

theorem Comparable.continues (comparable : profile.Comparable config) :
    Continues config profile profile :=
  ⟨comparable, id⟩

theorem Continues.trans {later latest : Profile} (first : Continues config profile later)
    (second : Continues config later latest) : Continues config profile latest :=
  ⟨second.comparable, fun admits => second.admits (first.admits admits)⟩

/-- Whether a profile is comparable depends on its sections, blueprints and strategy alone. -/
theorem Comparable.congr (comparable : profile.Comparable config)
    (sectionsEq : other.sections = profile.sections)
    (blueprintsEq : other.blueprints = profile.blueprints)
    (strategyEq : other.strategy = profile.strategy) : other.Comparable config where
  toAssembled := comparable.of_outline_eq (congrArg outline sectionsEq) blueprintsEq
  metadata := fun _ => (comparable.metadata _).of_outline_eq (congrArg outline sectionsEq)
  buildInfo := fun _ => (comparable.buildInfo _).of_outline_eq (congrArg outline sectionsEq)
  runs := by
    rw [blueprintsEq, strategyEq]
    exact comparable.runs
  admitted := by
    rw [sectionsEq]
    intro registered member list contentEq element elementMember
    rcases comparable.admitted registered member list contentEq element elementMember with
      ⟨kindEq, admits⟩
    exact ⟨kindEq, admits.congr sectionsEq blueprintsEq⟩

theorem Comparable.admits_of_elements_eq (comparable : profile.Comparable config) {kind : Kind}
    {list : ElementList} (found : profile.elements kind = .ok list) {element : Element}
    (member : element ∈ list.elements) : profile.Admits element := by
  rcases exists_content_of_elements_eq found with ⟨registered, registeredMember, contentEq⟩
  exact (comparable.admitted registered registeredMember list contentEq element member).2

/-- An admitted element can be compared by the algorithm of its kind. -/
theorem Comparable.exists_similarity_eq (comparable : profile.Comparable config)
    {element : Element} (admits : profile.Admits element) :
    ∃ algorithm, profile.strategy.similarity element.kind =
      .ok (Strategy.algorithmSimilarity config algorithm) := by
  rcases admits.conforms with ⟨blueprint, found, _⟩
  rcases comparable.runs found with ⟨algorithm, runs, _⟩
  exact ⟨algorithm, runs.similarity_ok⟩

/-- A section may get any content with admitted elements, and the table of descriptors may grow. -/
theorem Comparable.setSection (comparable : profile.Comparable config)
    (place : profile.HasPlaceFor content)
    (wider : ∀ table replaced, profile.descriptors = .ok table → content = .descriptors replaced →
      table.size ≤ replaced.size)
    (listed : ∀ list, content = .elements list →
      ∀ element ∈ list.elements, element.kind = list.kind ∧ profile.Admits element) :
    Continues config profile (profile.setSection content) := by
  have coherent := comparable.toCoherent
  have outlineEq := coherent.outline_setSection place
  refine ⟨⟨comparable.of_outline_eq outlineEq rfl,
    fun _ => (comparable.metadata _).of_outline_eq outlineEq,
    fun _ => (comparable.buildInfo _).of_outline_eq outlineEq, comparable.runs, ?_⟩,
    fun admits => admits.setSection coherent place wider⟩
  intro registered member list contentEq element elementMember
  have before : element.kind = list.kind ∧ profile.Admits element := by
    rcases of_mem_setSection member with old | new
    · exact comparable.admitted registered old list contentEq element elementMember
    · exact listed list (new.symm.trans contentEq) element elementMember
  exact ⟨before.1, before.2.setSection coherent place wider⟩

end Profile

/-! ## Assembly -/

/-- The sections that are there before the kinds are added. -/
theorem Assembly.sections_foundation (assembly : Assembly) :
    assembly.foundation.sections =
      [⟨.runtime, .descriptors .empty⟩, ⟨.runtime, .metadata .empty⟩,
        ⟨.source, .buildInfo .empty⟩] := by
  have tableMetadata : Hash.nameHash Section.descriptorsName ≠
      Hash.nameHash Section.metadataName := by
    decide +kernel
  have tableBuildInfo : Hash.nameHash Section.descriptorsName ≠
      Hash.nameHash Section.buildInfoName := by
    decide +kernel
  have metadataBuildInfo : Hash.nameHash Section.metadataName ≠
      Hash.nameHash Section.buildInfoName := by
    decide +kernel
  simp [foundation, Profile.register, Profile.new, Profile.find?, RegisteredSection.tag,
    Section.tag, Section.name, tableMetadata, tableBuildInfo, metadataBuildInfo]

namespace Profile

theorem comparable_foundation (assembly : Assembly) (config : Config) :
    assembly.foundation.Comparable config := by
  have sectionsEq := assembly.sections_foundation
  refine ⟨Assembly.assembled_foundation assembly, ?_, ?_, ?_, ?_⟩
  · exact fun _ => ⟨⟨.runtime, .metadata .empty⟩, by simp [sectionsEq], rfl⟩
  · exact fun _ => ⟨⟨.source, .buildInfo .empty⟩, by simp [sectionsEq], rfl⟩
  · intro kind blueprint found
    rw [Assembly.foundation, blueprints_register, blueprints_register] at found
    cases found
  · intro registered member list contentEq
    rw [sectionsEq] at member
    simp only [List.mem_cons, List.not_mem_nil, or_false] at member
    rcases member with rfl | rfl | rfl <;> cases contentEq

end Profile

/-- A blueprint is registered only if there is none of its kind. -/
theorem Blueprints.get?_eq_none_of_register {blueprints extended : Blueprints}
    {blueprint : Blueprint} (registered : blueprints.register blueprint = .ok extended) :
    blueprints.get? blueprint.kind = none := by
  simp only [register] at registered
  split at registered
  · cases registered
  · rename_i absent
    rwa [contains, Option.isSome_iff_ne_none, not_not] at absent

/-- Registration leaves the blueprints that are there as they are. -/
theorem Blueprints.get?_of_register {blueprints extended : Blueprints} {blueprint known : Blueprint}
    (registered : blueprints.register blueprint = .ok extended) {kind : Kind}
    (found : blueprints.get? kind = some known) : extended.get? kind = some known := by
  simp only [register] at registered
  split at registered
  · cases registered
  · simp only [Except.ok.injEq] at registered
    subst registered
    rw [get?] at found ⊢
    rw [List.find?_append, found, Option.some_or]

namespace Assembly

variable {config : Config} {profile extended : Profile} {kind : Kind} {declared : Blueprint}

/-- The blueprint of a kind declares the slot of the algorithm that runs for it. -/
theorem blueprint_eq_of_step? {strategy : Strategy} {algorithm : Algorithm}
    (stepEq : strategy.step? kind = some (Strategy.algorithmStep config algorithm)) :
    blueprint strategy kind =
      .ok ⟨kind, [((Strategy.algorithmSlot config algorithm).key,
        (Strategy.algorithmSlot config algorithm).type)]⟩ := by
  rcases Strategy.exists_algorithmStep_eq config algorithm with ⟨name, algorithmEq⟩
  rw [blueprint, stepEq, algorithmEq]
  rfl

theorem strategy_foundation (assembly : Assembly) :
    assembly.foundation.strategy = assembly.strategy := by
  rw [foundation, Profile.strategy_register, Profile.strategy_register]
  rfl

theorem strategy_addBlueprint (added : addBlueprint profile declared = .ok extended) :
    extended.strategy = profile.strategy := by
  rcases addBlueprint_eq_ok added with ⟨blueprints, _, rfl⟩
  rw [Profile.registerList, Profile.strategy_register]

/-- The blueprint of a kind may be added if an algorithm runs for the kind. -/
theorem comparable_addBlueprint (comparable : profile.Comparable config)
    (known : ∃ algorithm, Strategy.Runs config profile.strategy kind algorithm)
    (declaredEq : blueprint profile.strategy kind = .ok declared)
    (added : addBlueprint profile declared = .ok extended) : extended.Comparable config := by
  have assembled := assembled_addBlueprint comparable.toAssembled added
  have strategyEq := strategy_addBlueprint added
  rcases known with ⟨algorithm, runs⟩
  cases (blueprint_eq_of_step? runs.step_eq).symm.trans declaredEq
  rcases addBlueprint_eq_ok added with ⟨blueprints, registered, rfl⟩
  have admits {element : Element} (old : profile.Admits element) :
      (({ profile with blueprints } : Profile).registerList kind).Admits element := by
    rcases old.conforms with ⟨blueprint, found, conforms⟩
    refine ⟨⟨blueprint, ?_, conforms⟩, ?_⟩
    · rw [Profile.registerList, Profile.blueprints_register]
      exact Blueprints.get?_of_register registered found
    · have same := @Profile.Coherent.descriptors_register { profile with blueprints }
        ⟨comparable.distinct, comparable.table⟩ .runtime (.elements (.empty kind))
      rw [Profile.registerList, same]
      exact old.described
  refine ⟨assembled, ?_, ?_, ?_, ?_⟩
  · intro metadata
    have place : ({ profile with blueprints } : Profile).HasPlaceFor (.metadata metadata) :=
      comparable.metadata metadata
    exact place.register _ _
  · intro info
    have place : ({ profile with blueprints } : Profile).HasPlaceFor (.buildInfo info) :=
      comparable.buildInfo info
    exact place.register _ _
  · intro other blueprint otherFound
    rw [strategyEq]
    rw [Profile.registerList, Profile.blueprints_register,
      Blueprints.get?_register registered] at otherFound
    split at otherFound
    · rename_i same
      rw [Option.some.injEq] at otherFound
      subst same otherFound
      exact ⟨algorithm, runs, rfl⟩
    · exact comparable.runs otherFound
  · intro section' member list contentEq element elementMember
    rcases Profile.of_mem_register member with old | rfl
    · rcases comparable.admitted _ old list contentEq element elementMember with ⟨kindEq, before⟩
      exact ⟨kindEq, admits before⟩
    · cases contentEq
      cases elementMember

/-- A profile is assembled comparable if a configuration has algorithms for all its kinds. -/
theorem comparable_of_strategy_eq {assembly : Assembly}
    (derived : assembly.strategy = .ofConfig config)
    (known : assembly.kinds ⊆ assembly.strategy.kinds) (built : assembly.build = .ok profile) :
    profile.Comparable config := by
  have kept : ∀ kind ∈ assembly.kinds, ∀ {declared : Blueprint},
      blueprint assembly.strategy kind = .ok declared → ∀ {before after : Profile},
      before.Comparable config ∧ before.strategy = assembly.strategy →
      addBlueprint before declared = .ok after →
      after.Comparable config ∧ after.strategy = assembly.strategy := by
    rintro kind member declared declaredEq before after ⟨comparable, strategyEq⟩ added
    have kindKnown := known member
    rw [derived] at kindKnown
    have runs := Strategy.exists_runs_of_mem_kinds kindKnown
    rw [← derived, ← strategyEq] at runs
    rw [← strategyEq] at declaredEq
    exact ⟨comparable_addBlueprint comparable runs declaredEq added,
      (strategy_addBlueprint added).trans strategyEq⟩
  rcases of_build_eq _ ⟨Profile.comparable_foundation assembly config,
    strategy_foundation assembly⟩ kept built with ⟨between, ⟨comparable, _⟩, rfl⟩
  exact comparable.congr rfl rfl rfl

end Assembly

/-! ## Loading -/

theorem Reader.isCountable_of_payload_takes {types : TypeTable} {type : ValueType} {depth : Nat}
    {bytes : List UInt8} {value : Value} (takes : (payload types type).Takes depth bytes value) :
    value.IsCountable := by
  have few : maxCollectionLength ≤ UInt64.size := by
    decide
  rcases @of_payloadWith_takes _ (.typed types) (fun _ => True) _ (fun _ => trivial) _ _ _ takes
    with ⟨_, _, fits, _⟩
  cases value with
  | hashes set => exact fits.trans few
  | bloom filter => exact filter.occupancy_le_width.trans (fits.trans few)
  | _ => trivial

namespace Profile

variable {config : Config} {profile loaded : Profile}

@[simp]
theorem strategy_adoptFlag (profile : Profile) : profile.adoptFlag.strategy = profile.strategy := by
  rw [adoptFlag]
  split <;> rfl

theorem strategy_of_readFrom_eq_ok {bytes : List UInt8} (assembled : profile.Assembled)
    (accepted : profile.readFrom (.ofBytes bytes) = .ok loaded) :
    loaded.strategy = profile.strategy := by
  rcases takes_of_readFrom_eq_ok assembled.regular accepted with ⟨filled, takes, rfl⟩
  rcases reader_eq_ok_iff.mp (takes 0 [] .endOfBytes) with ⟨_, _, sections, _, _, rfl, _⟩
  rw [withoutSource, strategy_adoptFlag]

/-- Whatever a comparable profile accepts makes a comparable profile. -/
theorem Comparable.readFrom {bytes : List UInt8} (comparable : profile.Comparable config)
    (accepted : profile.readFrom (.ofBytes bytes) = .ok loaded) : loaded.Comparable config := by
  have assembled := comparable.toAssembled
  rcases assembled.loaded_assembled accepted with
    ⟨loadedAssembled, _, blueprintsEq, outlineEq, references⟩
  have strategyEq := strategy_of_readFrom_eq_ok assembled accepted
  refine ⟨loadedAssembled, fun _ => (comparable.metadata _).of_outline_eq outlineEq,
    fun _ => (comparable.buildInfo _).of_outline_eq outlineEq, ?_, ?_⟩
  · rw [blueprintsEq, strategyEq]
    exact comparable.runs
  · intro registered member list contentEq element elementMember
    have conforms := assembled.conforms_with_of_readFrom_eq_ok
      Reader.isCountable_of_payload_takes accepted registered member
    rw [contentEq] at conforms
    rcases conforms with ⟨blueprint, found, elementsConform⟩
    have elementConforms := elementsConform element elementMember
    have kindEq := elementConforms.kind_eq.trans (Blueprints.kind_of_get?_eq found)
    rcases loadedAssembled.toCoherent.exists_descriptors with ⟨table, known⟩
    refine ⟨kindEq, ⟨blueprint, ?_, elementConforms⟩, table, known, ?_⟩
    · rwa [blueprintsEq, kindEq]
    · exact Assembled.resolved_of_checkReferences references known member contentEq element
        elementMember

theorem Comparable.load {path : String} {tree : FileTree} (comparable : profile.Comparable config)
    (success : profile.load path tree = .ok loaded) : loaded.Comparable config := by
  rcases load_eq_ok_iff.mp success with ⟨bytes, filled, _, accepted, rfl⟩
  exact (comparable.readFrom accepted).congr rfl rfl rfl

end Profile

end Resemblance
