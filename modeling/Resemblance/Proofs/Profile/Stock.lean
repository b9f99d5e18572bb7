import Mathlib.Data.Set.Function
import Resemblance.Proofs.Profile.Comparable
import Resemblance.Proofs.Profile.Normalization

/-!
# What an assembly registers

An assembly with the algorithms of a configuration registers a section for each of its kinds, with a
blueprint that declares the slot of the kind's algorithm, if it has one. A section is only left out
if its name has the tag of another one, so all are there if the names of the assembly have different
tags. A profile that is set up in this way is stocked, whatever its sections hold.
-/

namespace Resemblance

/-- The slots of the elements of a kind: the one that its algorithm computes, if it has one. -/
def Config.slots (config : Config) (kind : Kind) : List ComputedSlot :=
  ((config.algorithm? kind).map (Strategy.algorithmSlot config)).toList

/-- The blueprint that declares the slots of a kind. -/
def Config.blueprint (config : Config) (kind : Kind) : Blueprint :=
  ⟨kind, (config.slots kind).map fun slot => (slot.key, slot.type)⟩

namespace Profile

variable {profile other : Profile} {config : Config} {names : List String}

/--
A profile as an assembly sets it up with the algorithms of a configuration, if all its sections have
one of some names.
-/
structure Stocked (config : Config) (names : List String) (profile : Profile) : Prop extends
    profile.Assembled where
  strategy_eq : profile.strategy = .ofConfig config
  named : ∀ registered ∈ profile.sections, registered.content.name ∈ names
  metadata : profile.HasPlaceFor (.metadata .empty)
  buildInfo : profile.HasPlaceFor (.buildInfo .empty)
  /-- Elements of a kind have the slot that the kind's algorithm computes, and no other. -/
  blueprint_eq : ∀ {kind blueprint}, profile.blueprints.get? kind = some blueprint →
    blueprint = config.blueprint kind
  /-- Each kind with a blueprint has a section for its elements. -/
  listed : ∀ {kind blueprint}, profile.blueprints.get? kind = some blueprint →
    profile.HasPlaceFor (.elements (.empty kind))

/-- Whether a profile is stocked does not depend on what its sections hold. -/
theorem Stocked.of_outline_eq (stocked : profile.Stocked config names)
    (same : outline other.sections = outline profile.sections)
    (blueprintsEq : other.blueprints = profile.blueprints)
    (strategyEq : other.strategy = profile.strategy) : other.Stocked config names where
  toAssembled := stocked.toAssembled.of_outline_eq same blueprintsEq
  strategy_eq := strategyEq.trans stocked.strategy_eq
  named := by
    intro registered member
    rcases exists_of_outline_eq same member with ⟨original, originalMember, alike⟩
    rw [← Section.name_eq_of_reset_eq (content_reset_eq alike)]
    exact stocked.named original originalMember
  metadata := stocked.metadata.of_outline_eq same
  buildInfo := stocked.buildInfo.of_outline_eq same
  blueprint_eq := by
    rw [blueprintsEq]
    exact stocked.blueprint_eq
  listed := by
    rw [blueprintsEq]
    intro kind blueprint found
    exact (stocked.listed found).of_outline_eq same

/-- A section whose name has a tag of its own is registered. -/
theorem hasPlaceFor_register {content : Section} (absent : profile.find? content.tag = none)
    (retention : Retention) : (profile.register retention content).HasPlaceFor content := by
  refine ⟨⟨retention, content⟩, ?_, rfl⟩
  rw [register, absent]
  exact List.mem_append_right _ (List.mem_singleton.mpr rfl)

/-- No section has the tag of a kind without a blueprint. -/
theorem Stocked.find?_eq_none (stocked : profile.Stocked config names)
    (separate : Set.InjOn Hash.nameHash {name | name ∈ names}) {kind : Kind}
    (expected : kind.sectionName ∈ names) (missing : profile.blueprints.get? kind = none) :
    profile.find? (Section.elements (.empty kind)).tag = none := by
  rw [find?, List.find?_eq_none]
  intro registered member sameTag
  have sameName : registered.content.name = kind.sectionName :=
    separate (stocked.named registered member) expected (beq_iff_eq.mp sameTag)
  have alike : registered.content.reset = (Section.elements (.empty kind)).reset :=
    Section.reset_eq_of_name_eq sameName
  have equipped := stocked.equipped registered member
  rw [← Section.equipped_reset_iff, alike] at equipped
  rcases equipped with ⟨blueprint, found⟩
  cases missing.symm.trans found

end Profile

namespace Assembly

variable {assembly : Assembly} {config : Config} {profile extended : Profile} {kind : Kind}
  {names : List String}

/-- The names of the sections that an assembly registers. -/
def sectionNames (assembly : Assembly) : List String :=
  [Section.descriptorsName, Section.metadataName, Section.buildInfoName] ++
    assembly.kinds.map Kind.sectionName

theorem stocked_foundation (derived : assembly.strategy = .ofConfig config) :
    assembly.foundation.Stocked config assembly.sectionNames where
  toAssembled := assembled_foundation assembly
  strategy_eq := (strategy_foundation assembly).trans derived
  named := by
    rw [sections_foundation]
    intro registered member
    simp only [List.mem_cons, List.not_mem_nil, or_false] at member
    rcases member with rfl | rfl | rfl <;> simp [sectionNames, Section.name]
  metadata := by
    rw [Profile.HasPlaceFor, sections_foundation]
    exact ⟨⟨.runtime, .metadata .empty⟩, by simp, rfl⟩
  buildInfo := by
    rw [Profile.HasPlaceFor, sections_foundation]
    exact ⟨⟨.source, .buildInfo .empty⟩, by simp, rfl⟩
  blueprint_eq := by
    intro kind blueprint found
    rw [foundation, Profile.blueprints_register, Profile.blueprints_register] at found
    cases found
  listed := by
    intro kind blueprint found
    rw [foundation, Profile.blueprints_register, Profile.blueprints_register] at found
    cases found

theorem blueprint_ofConfig (config : Config) (kind : Kind) :
    blueprint (.ofConfig config) kind = .ok (config.blueprint kind) := by
  have stepEq := Strategy.step?_ofConfig config kind
  cases algorithmEq : config.algorithm? kind with
  | none =>
      rw [algorithmEq, Option.map_none] at stepEq
      rw [blueprint, stepEq, Config.blueprint, Config.slots, algorithmEq]
      rfl
  | some algorithm =>
      rw [algorithmEq, Option.map_some] at stepEq
      rw [blueprint_eq_of_step? stepEq, Config.blueprint, Config.slots, algorithmEq]
      rfl

theorem stocked_addBlueprint (separate : Set.InjOn Hash.nameHash {name | name ∈ names})
    (stocked : profile.Stocked config names) (expected : kind.sectionName ∈ names)
    (added : addBlueprint profile (config.blueprint kind) = .ok extended) :
    extended.Stocked config names := by
  have assembled := assembled_addBlueprint stocked.toAssembled added
  have strategyEq := strategy_addBlueprint added
  rcases addBlueprint_eq_ok added with ⟨blueprints, registered, rfl⟩
  have absent := stocked.find?_eq_none separate expected
    (Blueprints.get?_eq_none_of_register registered)
  have get?_eq (other : Kind) := Blueprints.get?_register registered other
  refine ⟨assembled, strategyEq.trans stocked.strategy_eq, ?_, ?_, ?_, ?_, ?_⟩
  · intro section' member
    rcases Profile.of_mem_register member with old | rfl
    · exact stocked.named section' old
    · exact expected
  · have place : ({ profile with blueprints } : Profile).HasPlaceFor (.metadata .empty) :=
      stocked.metadata
    exact place.register _ _
  · have place : ({ profile with blueprints } : Profile).HasPlaceFor (.buildInfo .empty) :=
      stocked.buildInfo
    exact place.register _ _
  · intro other blueprint found
    rw [Profile.registerList, Profile.blueprints_register, get?_eq] at found
    split at found
    · rename_i same
      cases same
      exact (Option.some.inj found).symm
    · exact stocked.blueprint_eq found
  · intro other blueprint found
    rw [Profile.registerList, Profile.blueprints_register, get?_eq] at found
    split at found
    · rename_i same
      cases same
      have free : ({ profile with blueprints } : Profile).find?
          (Section.elements (.empty kind)).tag = none := absent
      exact Profile.hasPlaceFor_register free .runtime
    · have place :
          ({ profile with blueprints } : Profile).HasPlaceFor (.elements (.empty other)) :=
        stocked.listed found
      exact place.register _ _

theorem normalizers_addBlueprint {blueprint : Blueprint}
    (added : addBlueprint profile blueprint = .ok extended) :
    extended.normalizers = profile.normalizers := by
  rcases addBlueprint_eq_ok added with ⟨blueprints, _, rfl⟩
  rw [Profile.registerList, Profile.normalizers_register]

/-- All sections are there if their names have different tags. -/
theorem stocked_of_build_eq (derived : assembly.strategy = .ofConfig config)
    (separate : Set.InjOn Hash.nameHash {name | name ∈ assembly.sectionNames})
    (built : assembly.build = .ok profile) : profile.Stocked config assembly.sectionNames := by
  have kept : ∀ kind ∈ assembly.kinds, ∀ {declared : Blueprint},
      blueprint assembly.strategy kind = .ok declared → ∀ {before after : Profile},
      before.Stocked config assembly.sectionNames → addBlueprint before declared = .ok after →
      after.Stocked config assembly.sectionNames := by
    intro kind member declared declaredEq before after stocked added
    rw [derived, blueprint_ofConfig] at declaredEq
    cases declaredEq
    have expected : kind.sectionName ∈ assembly.sectionNames :=
      List.mem_append_right _ (List.mem_map_of_mem member)
    exact stocked_addBlueprint separate stocked expected added
  rcases of_build_eq _ (stocked_foundation derived) kept built with ⟨between, stocked, rfl⟩
  exact stocked.of_outline_eq rfl rfl rfl

/-! ## Normalizers -/

/-- An extracted element after the last normalizer of its kind. -/
def normalized (assembly : Assembly) (extracted : Extracted) : Extracted :=
  match assembly.normalizers.reverse.find? (·.1 == extracted.kind) with
  | some (_, normalizer) => normalizer.normalize extracted
  | none => extracted

theorem normalize_of_build_eq (built : assembly.build = .ok profile) (extracted : Extracted) :
    profile.normalize extracted = assembly.normalized extracted := by
  have start : assembly.foundation.normalizers = .empty := by
    rw [foundation, Profile.normalizers_register, Profile.normalizers_register]
    rfl
  rcases of_build_eq (·.normalizers = .empty) start
    (fun _ _ _ _ _ _ none added => (normalizers_addBlueprint added).trans none) built with
    ⟨between, none, profileEq⟩
  have sameKind (kind other : Kind) : (kind.name == other.name) = (kind == other) := by
    rw [Bool.eq_iff_iff, beq_iff_eq, beq_iff_eq, Kind.mk.injEq]
  have installed : profile.normalizers =
      .ofList (assembly.normalizers.map fun entry => (entry.1.name, entry.2)) := by
    rw [profileEq, none, NameMap.ofList, List.foldl_map]
  rw [Profile.normalize, Profile.normalizer?, installed, NameMap.get?_ofList, normalized,
    ← List.map_reverse, List.find?_map]
  simp only [Function.comp_def, sameKind]
  cases assembly.normalizers.reverse.find? (·.1 == extracted.kind) with
  | none => rfl
  | some entry => rfl

/--
What is left of the tokens of an extracted element: what the last normalizer of its kind leaves, or
all of them if there is no normalizer of the kind.
-/
inductive LeavesTokens (assembly : Assembly) (extracted : Extracted) : List String → Prop where
  | cleaned {earlier later : List (Kind × TokenNormalizer)} {normalizer : TokenNormalizer}
      {tokens : List String}
      (last : assembly.normalizers = earlier ++ (extracted.kind, normalizer) :: later)
      (noLater : ∀ entry ∈ later, entry.1 ≠ extracted.kind)
      (cleans : normalizer.Cleans extracted.tokens tokens) : LeavesTokens assembly extracted tokens
  | untouched (others : ∀ entry ∈ assembly.normalizers, entry.1 ≠ extracted.kind) :
      LeavesTokens assembly extracted extracted.tokens

section LastNormalizer

variable {extracted : Extracted} {earlier later normalizers : List (Kind × TokenNormalizer)}
  {normalizer : TokenNormalizer} {tokens : List String}

theorem find?_reverse_eq_none (others : ∀ entry ∈ normalizers, entry.1 ≠ kind) :
    normalizers.reverse.find? (·.1 == kind) = none := by
  rw [List.find?_eq_none]
  intro entry member
  simpa using others entry (List.mem_reverse.mp member)

/-- A kind has a last normalizer if it has one at all. -/
theorem exists_last_or_forall_ne (kind : Kind) (normalizers : List (Kind × TokenNormalizer)) :
    (∃ earlier normalizer later, normalizers = earlier ++ (kind, normalizer) :: later ∧
      ∀ entry ∈ later, entry.1 ≠ kind) ∨ ∀ entry ∈ normalizers, entry.1 ≠ kind := by
  induction normalizers with
  | nil => exact .inr fun entry member => absurd member List.not_mem_nil
  | cons entry others ih =>
      rcases ih with ⟨earlier, normalizer, later, rfl, noLater⟩ | noOthers
      · exact .inl ⟨entry :: earlier, normalizer, later, List.cons_append, noLater⟩
      · by_cases same : entry.1 = kind
        · subst same
          exact .inl ⟨[], entry.2, others, rfl, noOthers⟩
        · exact .inr (List.forall_mem_cons.mpr ⟨same, noOthers⟩)

theorem normalized_of_last
    (last : assembly.normalizers = earlier ++ (extracted.kind, normalizer) :: later)
    (noLater : ∀ entry ∈ later, entry.1 ≠ extracted.kind) :
    assembly.normalized extracted = normalizer.normalize extracted := by
  have found : assembly.normalizers.reverse.find? (·.1 == extracted.kind) =
      some (extracted.kind, normalizer) := by
    rw [last, List.reverse_append, List.reverse_cons, List.append_assoc, List.find?_append,
      find?_reverse_eq_none noLater]
    simp
  rw [normalized, found]

theorem normalized_of_forall_ne
    (others : ∀ entry ∈ assembly.normalizers, entry.1 ≠ extracted.kind) :
    assembly.normalized extracted = extracted := by
  rw [normalized, find?_reverse_eq_none others]

theorem leavesTokens_iff : assembly.LeavesTokens extracted tokens ↔
    assembly.normalized extracted = { extracted with tokens } := by
  constructor
  · rintro (⟨last, noLater, cleans⟩ | others)
    · rw [normalized_of_last last noLater]
      exact TokenNormalizer.normalize_eq_iff.mpr cleans
    · exact normalized_of_forall_ne others
  · intro normalizedEq
    rcases exists_last_or_forall_ne extracted.kind assembly.normalizers with
      ⟨earlier, normalizer, later, last, noLater⟩ | others
    · rw [normalized_of_last last noLater] at normalizedEq
      exact .cleaned last noLater (TokenNormalizer.normalize_eq_iff.mp normalizedEq)
    · rw [normalized_of_forall_ne others] at normalizedEq
      cases congrArg Extracted.tokens normalizedEq
      exact .untouched others

end LastNormalizer

theorem exists_leavesTokens (assembly : Assembly) (extracted : Extracted) :
    ∃ tokens, assembly.LeavesTokens extracted tokens := by
  refine ⟨(assembly.normalized extracted).tokens, leavesTokens_iff.mpr ?_⟩
  rw [normalized]
  split <;> rfl

end Assembly

end Resemblance
