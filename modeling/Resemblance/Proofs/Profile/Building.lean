import Resemblance.Proofs.Profile.Comparable
import Resemblance.Proofs.Profile.Interning

/-!
# Building keeps profiles comparable

A build interns the descriptor of each extracted element, so that its index is in the table, and
fills the slot that the blueprint of its kind declares. All elements are built before the first one
is listed; they stay admitted meanwhile, since the table only grows. What is recorded at the end
replaces metadata and build information, and nothing else.
-/

namespace Resemblance

theorem Blueprints.get?_eq_of_get_eq {blueprints : Blueprints} {kind : Kind}
    {blueprint : Blueprint} (found : blueprints.get kind = .ok blueprint) :
    blueprints.get? kind = some blueprint := by
  rw [get] at found
  split at found
  · rename_i known knownFound
    rw [knownFound, Except.ok.inj found]
  · cases found

namespace Profile

variable {config : Config} {profile later : Profile}

theorem Comparable.intern {descriptor : String} {index : UInt32}
    (comparable : profile.Comparable config)
    (interned : profile.intern descriptor = .ok (index, later)) :
    Continues config profile later ∧
      ∃ table, later.descriptors = .ok table ∧ index.toNat < table.size := by
  rcases except_bind_eq_ok.mp interned with ⟨table, known, outcome⟩
  cases outcome
  have place := comparable.toCoherent.hasPlaceFor_descriptors (table.intern descriptor).2
  constructor
  · apply comparable.setSection place
    · intro old replaced oldKnown same
      cases same
      cases oldKnown.symm.trans known
      exact table.size_le_intern descriptor
    · intro list impossible
      cases impossible
  · exact ⟨_, comparable.toCoherent.descriptors_setSection place known,
      table.index_intern_lt descriptor⟩

theorem instantiate_eq {blueprint : Blueprint} {algorithm : Algorithm} {extracted : Extracted}
    (runs : Strategy.Runs config profile.strategy extracted.kind algorithm)
    (fieldsEq : blueprint.fields = [((Strategy.algorithmSlot config algorithm).key,
      (Strategy.algorithmSlot config algorithm).type)]) (descriptor : UInt32) :
    profile.instantiate blueprint descriptor extracted =
      .ok ⟨blueprint.kind, descriptor,
        [some ((Strategy.algorithmSlot config algorithm).compute extracted)]⟩ := by
  rcases blueprint with ⟨kind, fields⟩
  subst fieldsEq
  rcases Strategy.exists_algorithmStep_eq config algorithm with ⟨name, stepEq⟩
  rw [instantiate, runs.step_eq, stepEq]
  simp [BuildStep.computing, Blueprint.requireSlot, Blueprint.slot?, Blueprint.instantiate,
    Blueprint.size, Element.setValue, bind, Except.bind]

theorem Comparable.buildElement {extracted : Extracted} {element : Element}
    (comparable : profile.Comparable config)
    (built : profile.buildElement extracted = .ok (element, later)) :
    Continues config profile later ∧ later.Admits element := by
  rcases except_bind_eq_ok.mp built with ⟨⟨descriptor, between⟩, interned, rest⟩
  rcases except_bind_eq_ok.mp rest with ⟨blueprint, got, rest⟩
  rcases except_bind_eq_ok.mp rest with ⟨made, instantiated, outcome⟩
  cases outcome
  rcases comparable.intern interned with ⟨continues, described⟩
  refine ⟨continues, ?_⟩
  have found := Blueprints.get?_eq_of_get_eq got
  rcases continues.comparable.runs found with ⟨algorithm, runs, fieldsEq⟩
  rw [instantiate_eq runs fieldsEq, Except.ok.injEq] at instantiated
  subst instantiated
  rcases Strategy.isCountable_compute config algorithm (profile.normalize extracted) with
    ⟨typeEq, countable⟩
  refine ⟨⟨blueprint, ?_, rfl, ?_⟩, described⟩
  · rw [Blueprints.kind_of_get?_eq found]
    exact found
  · rw [fieldsEq]
    exact .cons ⟨_, rfl, typeEq, countable⟩ .nil

theorem Comparable.buildElements {extracted : List Extracted} {elements : List Element}
    (comparable : profile.Comparable config)
    (built : profile.buildElements extracted = .ok (elements, later)) :
    Continues config profile later ∧ ∀ element ∈ elements, later.Admits element := by
  induction extracted generalizing profile elements with
  | nil =>
      cases built
      exact ⟨comparable.continues, fun _ member => absurd member List.not_mem_nil⟩
  | cons first others ih =>
      rcases except_bind_eq_ok.mp built with ⟨⟨element, between⟩, firstBuilt, rest⟩
      rcases except_bind_eq_ok.mp rest with ⟨⟨elements, last⟩, othersBuilt, outcome⟩
      cases outcome
      rcases comparable.buildElement firstBuilt with ⟨continues, admits⟩
      rcases ih continues.comparable othersBuilt with ⟨further, admitsOthers⟩
      exact ⟨continues.trans further,
        List.forall_mem_cons.mpr ⟨further.admits admits, admitsOthers⟩⟩

theorem Comparable.pushTo {element : Element} (comparable : profile.Comparable config)
    (admits : profile.Admits element)
    (pushed : profile.pushTo element.kind element = .ok later) :
    Continues config profile later := by
  rcases except_bind_eq_ok.mp pushed with ⟨list, found, rest⟩
  rcases except_bind_eq_ok.mp rest with ⟨longer, added, outcome⟩
  cases outcome
  rw [ElementList.push] at added
  split at added
  · rename_i kindEq
    cases added
    rcases exists_content_of_elements_eq found with ⟨registered, member, contentEq⟩
    apply comparable.setSection ⟨registered, member, by rw [contentEq]; rfl⟩
    · intro table replaced _ impossible
      cases impossible
    · intro longer same
      cases same
      intro listed listedMember
      rcases List.mem_append.mp listedMember with old | new
      · exact comparable.admitted registered member list contentEq listed old
      · rw [List.mem_singleton.mp new]
        exact ⟨kindEq, admits⟩
  · cases added

theorem Comparable.pushAll {elements : List Element} (comparable : profile.Comparable config)
    (admits : ∀ element ∈ elements, profile.Admits element)
    (pushed : profile.pushAll elements = .ok later) : Continues config profile later := by
  have kept : ∀ element ∈ elements, ∀ {before after : Profile}, Continues config profile before →
      before.pushTo element.kind element = .ok after → Continues config profile after := by
    intro element member before after continues pushed
    exact continues.trans (continues.comparable.pushTo (continues.admits (admits element member))
      pushed)
  exact of_foldlM_eq_ok _ kept comparable.continues pushed

theorem Comparable.record (comparable : profile.Comparable config) (origin : Origin)
    (normalizers : List String) : (profile.record origin normalizers).Comparable config := by
  have written {profile : Profile} {content : Section} (comparable : profile.Comparable config)
      (place : profile.HasPlaceFor content) (notTable : ∀ table, content ≠ .descriptors table)
      (notList : ∀ list, content ≠ .elements list) (present : Bool) :
      (if present then profile.setSection content else profile).Comparable config := by
    split
    · apply (comparable.setSection place _ _).comparable
      · intro _ table _ impossible
        exact absurd impossible (notTable table)
      · intro list impossible
        exact absurd impossible (notList list)
    · exact comparable
  have described := written comparable
    (comparable.metadata ⟨origin.id, origin.artifact, origin.version, profile.isApplication,
      origin.created, Metadata.currentVersion, []⟩)
    (by simp) (by simp) (profile.hasSection Section.metadataName)
  exact written described (described.buildInfo _) (by simp) (by simp) _

/-- A build in a comparable profile gives a comparable profile. -/
theorem Comparable.build {origin : Origin} {extracted : List Extracted}
    (comparable : profile.Comparable config)
    (built : profile.build origin extracted = .ok later) : later.Comparable config := by
  rcases except_bind_eq_ok.mp built with ⟨_, _, rest⟩
  rcases except_bind_eq_ok.mp rest with ⟨⟨elements, between⟩, elementsBuilt, rest⟩
  rcases except_bind_eq_ok.mp rest with ⟨filled, pushed, outcome⟩
  cases outcome
  rcases comparable.buildElements elementsBuilt with ⟨continues, admits⟩
  have filledContinues := continues.comparable.pushAll admits pushed
  exact (filledContinues.comparable.record origin _).congr rfl rfl rfl

end Profile

namespace Assembly

/-- The profiles that come from an assembly: assembled, then built, loaded and marked at will. -/
inductive Yields (assembly : Assembly) : Profile → Prop where
  | assembled {profile : Profile} (success : assembly.build = .ok profile) : Yields assembly profile
  | built {profile filled : Profile} {origin : Origin} {extracted : List Extracted}
      (before : Yields assembly profile)
      (success : profile.build origin extracted = .ok filled) : Yields assembly filled
  | read {profile loaded : Profile} {bytes : List UInt8} (before : Yields assembly profile)
      (success : profile.readFrom (.ofBytes bytes) = .ok loaded) : Yields assembly loaded
  | loaded {profile loaded : Profile} {path : String} {tree : FileTree}
      (before : Yields assembly profile) (success : profile.load path tree = .ok loaded) :
      Yields assembly loaded
  | marked {profile : Profile} (before : Yields assembly profile) (isApplication : Bool) :
      Yields assembly { profile with isApplication }

/-- Whatever comes from an assembly is comparable if a configuration has algorithms for its kinds. -/
theorem Yields.comparable_of_strategy_eq {assembly : Assembly} {config : Config}
    {profile : Profile} (yields : assembly.Yields profile)
    (derived : assembly.strategy = .ofConfig config)
    (known : assembly.kinds ⊆ assembly.strategy.kinds) : profile.Comparable config := by
  induction yields with
  | assembled success => exact Assembly.comparable_of_strategy_eq derived known success
  | built _ success ih => exact ih.build success
  | read _ success ih => exact ih.readFrom success
  | loaded _ success ih => exact ih.load success
  | marked _ _ ih => exact ih.congr rfl rfl rfl

theorem Yields.comparable {assembly : Assembly} {profile : Profile}
    (yields : assembly.Yields profile) (configured : assembly.strategy? = none)
    (known : assembly.kinds ⊆ assembly.strategy.kinds) : profile.Comparable assembly.config :=
  yields.comparable_of_strategy_eq (by rw [strategy, configured, Option.getD_none]) known

end Assembly

end Resemblance
