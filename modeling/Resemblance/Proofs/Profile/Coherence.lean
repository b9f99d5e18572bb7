import Mathlib.Data.List.Forall2
import Mathlib.Data.List.Nodup
import Resemblance.Profile.Assembly
import Resemblance.Profile.Stream
import Resemblance.Proofs.Profile.Section

/-!
# What profiles keep

The outline of a profile's sections is what is left when they are cleared: their order, retentions,
names and kinds. A coherent profile has a descriptor table among its stored sections and no tag
twice; an assembled profile also has a blueprint for each section of elements and stores everything
except build information. Both depend on the outline alone, so whatever keeps the outline keeps
them.
-/

namespace Resemblance

namespace RegisteredSection

@[simp]
theorem tag_reset (registered : RegisteredSection) : registered.reset.tag = registered.tag :=
  Section.tag_reset registered.content

end RegisteredSection

/-- A sequence of steps succeeds if each of them does. -/
theorem except_bind_eq_ok {Result Next : Type} {first : Except Failure Result}
    {next : Result → Except Failure Next} {outcome : Next} :
    (first >>= next) = .ok outcome ↔ ∃ result, first = .ok result ∧ next result = .ok outcome := by
  cases first with
  | ok result => simp [bind, Except.bind]
  | error failure => simp [bind, Except.bind]

/-- What each step keeps holds when all steps have succeeded. -/
theorem of_foldlM_eq_ok {State Item : Type} {step : State → Item → Except Failure State}
    {items : List Item} (invariant : State → Prop)
    (kept : ∀ item ∈ items, ∀ {state next}, invariant state → step state item = .ok next →
      invariant next) {start finish : State} (holds : invariant start)
    (success : items.foldlM step start = .ok finish) : invariant finish := by
  induction items generalizing start with
  | nil =>
      cases success
      exact holds
  | cons item items ih =>
      rw [List.foldlM_cons] at success
      rcases except_bind_eq_ok.mp success with ⟨between, first, others⟩
      rcases List.forall_mem_cons.mp kept with ⟨firstKept, othersKept⟩
      exact ih othersKept (firstKept holds first) others

theorem exists_mapM_eq_ok {Source Target : Type} {action : Source → Except Failure Target}
    {relation : Source → Target → Prop} {items : List Source}
    (each : ∀ item ∈ items, ∃ result, action item = .ok result ∧ relation item result) :
    ∃ results, items.mapM action = .ok results ∧ List.Forall₂ relation items results := by
  induction items with
  | nil => exact ⟨[], rfl, .nil⟩
  | cons item items ih =>
      rcases List.forall_mem_cons.mp each with ⟨⟨result, success, holds⟩, others⟩
      rcases ih others with ⟨results, successes, related⟩
      refine ⟨result :: results, ?_, .cons holds related⟩
      rw [List.mapM_cons, success, successes]
      rfl

/-- A list of steps succeeds with the results of the single ones. -/
theorem mapM_eq_ok_iff {Source Target : Type} {action : Source → Except Failure Target}
    {items : List Source} {results : List Target} :
    items.mapM action = .ok results ↔
      List.Forall₂ (fun item result => action item = .ok result) items results := by
  induction items generalizing results with
  | nil =>
      rw [List.mapM_nil, List.forall₂_nil_left_iff]
      exact ⟨fun success => (Except.ok.inj success).symm, fun none => none ▸ rfl⟩
  | cons item items ih =>
      rw [List.mapM_cons, List.forall₂_cons_left_iff, except_bind_eq_ok]
      constructor
      · rintro ⟨result, success, rest⟩
        rcases except_bind_eq_ok.mp rest with ⟨others, othersSuccess, outcome⟩
        exact ⟨result, others, success, ih.mp othersSuccess, (Except.ok.inj outcome).symm⟩
      · rintro ⟨result, others, success, related, rfl⟩
        exact ⟨result, success, except_bind_eq_ok.mpr ⟨others, ih.mpr related, rfl⟩⟩

/-- Each result of a list of steps is the result of one of them. -/
theorem exists_of_mem_mapM {Source Target : Type} {action : Source → Except Failure Target}
    {items : List Source} {results : List Target} (success : items.mapM action = .ok results)
    {result : Target} (member : result ∈ results) : ∃ item ∈ items, action item = .ok result := by
  rcases List.mem_iff_getElem?.mp member with ⟨position, resultAt⟩
  rcases List.forall₂_iff_get.mp (mapM_eq_ok_iff.mp success) with ⟨lengthEq, each⟩
  rcases List.getElem?_eq_some_iff.mp resultAt with ⟨within, resultEq⟩
  have single := each position (lengthEq ▸ within) within
  rw [List.get_eq_getElem, List.get_eq_getElem, resultEq] at single
  exact ⟨_, List.getElem_mem _, single⟩

/-- A list of steps succeeds if and only if each of them does. -/
theorem exists_mapM_eq_ok_iff {Source Target : Type} {action : Source → Except Failure Target}
    {items : List Source} :
    (∃ results, items.mapM action = .ok results) ↔
      ∀ item ∈ items, ∃ result, action item = .ok result := by
  constructor
  · rintro ⟨results, success⟩
    exact forall_of_forall₂ (mapM_eq_ok_iff.mp success) fun item result single => ⟨result, single⟩
  · intro each
    have related : ∀ item ∈ items, ∃ result, action item = .ok result ∧ True := by
      simpa using each
    rcases exists_mapM_eq_ok related with ⟨results, success, _⟩
    exact ⟨results, success⟩

/-- What is left of sections when they are cleared. -/
def outline (sections : List RegisteredSection) : List RegisteredSection :=
  sections.map RegisteredSection.reset

theorem tags_eq_of_outline_eq {sections others : List RegisteredSection}
    (same : outline sections = outline others) :
    sections.map (·.tag) = others.map (·.tag) := by
  have tags := congrArg (List.map (·.tag)) same
  simpa [outline, Function.comp_def] using tags

/-- Sections with one outline correspond to each other. -/
theorem exists_of_outline_eq {sections others : List RegisteredSection}
    (same : outline sections = outline others) {registered : RegisteredSection}
    (member : registered ∈ sections) : ∃ other ∈ others, other.reset = registered.reset := by
  have cleared : registered.reset ∈ outline others := by
    rw [← same]
    exact List.mem_map_of_mem member
  exact List.mem_map.mp cleared

theorem content_reset_eq {registered other : RegisteredSection}
    (same : other.reset = registered.reset) :
    other.content.reset = registered.content.reset := by
  change other.reset.content = registered.reset.content
  rw [same]

theorem retention_eq {registered other : RegisteredSection}
    (same : other.reset = registered.reset) : other.retention = registered.retention := by
  change other.reset.retention = registered.reset.retention
  rw [same]

/-- A section is found under its tag if no other section has that tag. -/
theorem find?_eq_some_iff_of_distinct {sections : List RegisteredSection}
    (distinct : (sections.map (·.tag)).Nodup) {tag : UInt32} {registered : RegisteredSection} :
    sections.find? (·.tag == tag) = some registered ↔
      registered ∈ sections ∧ registered.tag = tag := by
  constructor
  · intro found
    exact ⟨List.mem_of_find?_eq_some found, by simpa using List.find?_some found⟩
  · rintro ⟨member, rfl⟩
    cases found : sections.find? (·.tag == registered.tag) with
    | none =>
        have absent := List.find?_eq_none.mp found registered member
        simp at absent
    | some other =>
        have otherTag : other.tag = registered.tag := by
          simpa using List.find?_some found
        rw [List.inj_on_of_nodup_map distinct (List.mem_of_find?_eq_some found) member otherTag]

namespace Profile

/-! ## Coherent profiles -/

/-- What holds of every profile, whatever was registered. -/
structure Coherent (profile : Profile) : Prop where
  /-- No two sections have one tag. -/
  distinct : (profile.sections.map (·.tag)).Nodup
  /-- A descriptor table is stored. -/
  table : ∃ table, ⟨.runtime, .descriptors table⟩ ∈ profile.sections

theorem coherent_new (types : TypeTable) (strategy : Strategy) :
    (new types strategy).Coherent where
  distinct := List.nodup_singleton _
  table := ⟨.empty, List.mem_singleton.mpr rfl⟩

theorem Coherent.register {profile : Profile} (coherent : profile.Coherent)
    (retention : Retention) (content : Section) :
    (profile.register retention content).Coherent := by
  rw [Profile.register]
  split
  · exact coherent
  · rename_i absent
    constructor
    · rw [List.map_append, List.nodup_append]
      refine ⟨coherent.distinct, List.nodup_singleton _, ?_⟩
      rintro tag tagMember _ added rfl
      rcases List.mem_map.mp tagMember with ⟨registered, member, tagEq⟩
      rw [List.map_singleton, List.mem_singleton] at added
      apply absent
      rw [find?, List.find?_isSome]
      have sameTag : registered.tag = content.tag := tagEq.trans added
      exact ⟨registered, member, by simpa using sameTag⟩
    · rcases coherent.table with ⟨table, member⟩
      exact ⟨table, List.mem_append_left _ member⟩

theorem Coherent.of_outline_eq {profile other : Profile} (coherent : profile.Coherent)
    (same : outline other.sections = outline profile.sections) : other.Coherent where
  distinct := by
    rw [tags_eq_of_outline_eq same]
    exact coherent.distinct
  table := by
    rcases coherent.table with ⟨table, member⟩
    rcases exists_of_outline_eq same.symm member with ⟨⟨retention, content⟩, otherMember, alike⟩
    have retentionEq : retention = .runtime := retention_eq alike
    have contentEq := content_reset_eq alike
    cases content with
    | descriptors other => exact ⟨other, by rwa [← retentionEq]⟩
    | _ => cases contentEq

/-- A section is found under its tag. -/
theorem Coherent.find?_eq {profile : Profile} (coherent : profile.Coherent)
    {registered : RegisteredSection} (member : registered ∈ profile.sections) :
    profile.find? registered.tag = some registered :=
  (find?_eq_some_iff_of_distinct coherent.distinct).mpr ⟨member, rfl⟩

theorem Coherent.content?_eq {profile : Profile} (coherent : profile.Coherent)
    {registered : RegisteredSection} (member : registered ∈ profile.sections) :
    profile.content? registered.content.name = some registered.content := by
  have found : profile.section? registered.content.name = some registered :=
    coherent.find?_eq member
  simp only [content?, found]

theorem Coherent.descriptors_eq {profile : Profile} (coherent : profile.Coherent)
    {table : DescriptorTable} {retention : Retention}
    (member : ⟨retention, .descriptors table⟩ ∈ profile.sections) :
    profile.descriptors = .ok table := by
  have found := coherent.content?_eq member
  simp only [Section.name] at found
  simp only [descriptors, descriptorsIn, found]

theorem Coherent.exists_descriptors {profile : Profile} (coherent : profile.Coherent) :
    ∃ table, profile.descriptors = .ok table := by
  rcases coherent.table with ⟨table, member⟩
  exact ⟨table, coherent.descriptors_eq member⟩

/-! ## References -/

theorem checks_eq_ok_iff {Item : Type} {action : Item → Except Failure Unit} {items : List Item} :
    items.forM action = .ok () ↔ ∀ item ∈ items, action item = .ok () := by
  induction items with
  | nil =>
      have trivially : ([] : List Item).forM action = .ok () := rfl
      simp [trivially]
  | cons item items ih =>
      have step : (item :: items).forM action = (action item >>= fun _ => items.forM action) := rfl
      rw [step, List.forall_mem_cons, ← ih]
      cases action item with
      | ok result => simp [bind, Except.bind]
      | error failure => simp [bind, Except.bind]

theorem exists_of_checks_eq_error {Item : Type} {action : Item → Except Failure Unit}
    {items : List Item} {failure : Failure} (failed : items.forM action = .error failure) :
    ∃ item ∈ items, action item = .error failure := by
  induction items with
  | nil => cases failed
  | cons item items ih =>
      have step : (item :: items).forM action = (action item >>= fun _ => items.forM action) := rfl
      rw [step] at failed
      cases outcome : action item with
      | ok result =>
          rw [outcome] at failed
          rcases ih failed with ⟨later, member, laterFailed⟩
          exact ⟨later, List.mem_cons_of_mem item member, laterFailed⟩
      | error other =>
          rw [outcome] at failed
          simp only [bind, Except.bind, Except.error.injEq] at failed
          rw [failed] at outcome
          exact ⟨item, List.mem_cons_self, outcome⟩

theorem checkReferences_eq {profile : Profile} {table : DescriptorTable}
    (known : profile.descriptors = .ok table) :
    profile.checkReferences =
      profile.sections.forM fun registered => registered.content.check table.size := by
  simp only [checkReferences, known]
  rfl

/-- Once there is a table, only the format is to blame for references that do not resolve. -/
theorem Coherent.isFormat_of_checkReferences_eq_error {profile : Profile}
    (coherent : profile.Coherent) {failure : Failure}
    (failed : profile.checkReferences = .error failure) : failure.IsFormat := by
  rcases coherent.exists_descriptors with ⟨table, known⟩
  rw [checkReferences_eq known] at failed
  rcases exists_of_checks_eq_error failed with ⟨⟨retention, content⟩, _, checkFailed⟩
  cases content with
  | elements list => exact ElementList.isFormat_of_checkDescriptors_eq_error checkFailed
  | _ => cases checkFailed

/-! ## Assembled profiles -/

/-- What holds of every profile that was assembled from a configuration. -/
structure Assembled (profile : Profile) : Prop extends profile.Coherent where
  /-- Each section of elements has a blueprint. -/
  equipped : ∀ registered ∈ profile.sections, registered.content.Equipped profile.blueprints
  /-- Everything is stored except build information. -/
  kept : ∀ registered ∈ profile.sections,
    registered.retention = .runtime ↔ ¬registered.content.IsBuildInfo

theorem Assembled.of_outline_eq {profile other : Profile} (assembled : profile.Assembled)
    (same : outline other.sections = outline profile.sections)
    (blueprintsEq : other.blueprints = profile.blueprints) : other.Assembled where
  toCoherent := assembled.toCoherent.of_outline_eq same
  equipped := by
    intro registered member
    rcases exists_of_outline_eq same member with ⟨original, originalMember, alike⟩
    rw [blueprintsEq, ← Section.equipped_reset_iff, ← content_reset_eq alike,
      Section.equipped_reset_iff]
    exact assembled.equipped original originalMember
  kept := by
    intro registered member
    rcases exists_of_outline_eq same member with ⟨original, originalMember, alike⟩
    rw [← retention_eq alike, ← Section.isBuildInfo_reset_iff, ← content_reset_eq alike,
      Section.isBuildInfo_reset_iff]
    exact assembled.kept original originalMember

theorem Assembled.register {profile : Profile} (assembled : profile.Assembled)
    {retention : Retention} {content : Section}
    (equipped : content.Equipped profile.blueprints)
    (kept : retention = .runtime ↔ ¬content.IsBuildInfo) :
    (profile.register retention content).Assembled := by
  have coherent := assembled.toCoherent.register retention content
  rw [Profile.register] at coherent ⊢
  split
  · exact assembled
  · rename_i absent
    rw [if_neg absent] at coherent
    refine ⟨coherent, ?_, ?_⟩
    · intro registered member
      rcases List.mem_append.mp member with old | added
      · exact assembled.equipped registered old
      · rw [List.mem_singleton.mp added]
        exact equipped
    · intro registered member
      rcases List.mem_append.mp member with old | added
      · exact assembled.kept registered old
      · rw [List.mem_singleton.mp added]
        exact kept

end Profile

namespace Blueprints

/-- Registration keeps the blueprints of other kinds and adds its own. -/
theorem get?_register {blueprints extended : Blueprints} {blueprint : Blueprint}
    (registered : blueprints.register blueprint = .ok extended) (kind : Kind) :
    extended.get? kind =
      if blueprint.kind = kind then some blueprint else blueprints.get? kind := by
  simp only [register] at registered
  split at registered
  · cases registered
  · rename_i absent
    simp only [Except.ok.injEq] at registered
    subst registered
    rw [contains, Option.isSome_iff_ne_none, not_not] at absent
    rw [get?, List.find?_append]
    split
    · rename_i same
      subst same
      rw [get?] at absent
      rw [absent]
      simp
    · rename_i different
      rw [get?]
      simp [different]

end Blueprints

namespace Assembly

theorem assembled_foundation (assembly : Assembly) : assembly.foundation.Assembled := by
  have start : ({ Profile.new assembly.types assembly.strategy with
      isApplication := assembly.isApplication } : Profile).Assembled := by
    have coherent := Profile.coherent_new assembly.types assembly.strategy
    refine ⟨⟨coherent.distinct, coherent.table⟩, ?_, ?_⟩
    · intro registered member
      rw [List.mem_singleton.mp member]
      trivial
    · intro registered member
      rw [List.mem_singleton.mp member]
      exact iff_of_true rfl id
  have withMetadata := @Profile.Assembled.register _ start .runtime (.metadata .empty) trivial
    (iff_of_true rfl id)
  exact withMetadata.register trivial (iff_of_false (by decide) (not_not.mpr trivial))

/-- To add a blueprint is to register it, and then a list for the elements of its kind. -/
theorem addBlueprint_eq_ok {profile extended : Profile} {blueprint : Blueprint}
    (added : addBlueprint profile blueprint = .ok extended) :
    ∃ blueprints, profile.blueprints.register blueprint = .ok blueprints ∧
      ({ profile with blueprints } : Profile).registerList blueprint.kind = extended := by
  rcases except_bind_eq_ok.mp added with ⟨between, blueprintAdded, listAdded⟩
  rcases except_bind_eq_ok.mp blueprintAdded with ⟨blueprints, registered, betweenEq⟩
  cases listAdded
  cases betweenEq
  exact ⟨blueprints, registered, rfl⟩

theorem assembled_addBlueprint {profile extended : Profile} {blueprint : Blueprint}
    (assembled : profile.Assembled) (added : addBlueprint profile blueprint = .ok extended) :
    extended.Assembled := by
  rcases addBlueprint_eq_ok added with ⟨blueprints, registered, rfl⟩
  have found (other : Kind) := Blueprints.get?_register registered other
  have stillEquipped (content : Section) (equipped : content.Equipped profile.blueprints) :
      content.Equipped blueprints := by
    cases content with
    | elements list =>
        rcases equipped with ⟨known, knownFound⟩
        rw [Section.Equipped, found list.kind]
        split
        · exact ⟨_, rfl⟩
        · exact ⟨known, knownFound⟩
    | _ => trivial
  have withBlueprint : ({ profile with blueprints } : Profile).Assembled := by
    refine ⟨⟨assembled.distinct, assembled.table⟩, ?_, assembled.kept⟩
    intro registered member
    exact stillEquipped registered.content (assembled.equipped registered member)
  apply withBlueprint.register
  · exact ⟨blueprint, by simp [found, ElementList.empty]⟩
  · exact iff_of_true rfl id

/-- Normalizers of kinds are all that is set at the end. -/
theorem withNormalizers_eq (profile : Profile) (normalizers : List (Kind × TokenNormalizer)) :
    normalizers.foldl
      (fun profile (kind, normalizer) => profile.withNormalizer kind normalizer) profile =
        { profile with
          normalizers := normalizers.foldl
            (fun map (kind, normalizer) => map.insert kind.name normalizer)
            profile.normalizers } := by
  induction normalizers generalizing profile with
  | nil => rfl
  | cons normalizer normalizers ih => exact ih (profile.withNormalizer normalizer.1 normalizer.2)

/--
What holds before blueprints are added, and is kept by each of them, holds when an assembly has set
up a profile, but for the normalizers.
-/
theorem of_build_eq {assembly : Assembly} {profile : Profile} (invariant : Profile → Prop)
    (start : invariant assembly.foundation)
    (kept : ∀ kind ∈ assembly.kinds, ∀ {declared : Blueprint},
      blueprint assembly.strategy kind = .ok declared → ∀ {before after : Profile},
        invariant before → addBlueprint before declared = .ok after → invariant after)
    (built : assembly.build = .ok profile) :
    ∃ between, invariant between ∧ profile =
      { between with
        normalizers := assembly.normalizers.foldl
          (fun map (kind, normalizer) => map.insert kind.name normalizer)
          between.normalizers } := by
  rcases except_bind_eq_ok.mp built with ⟨_, _, afterConfig⟩
  rcases except_bind_eq_ok.mp afterConfig with ⟨blueprints, declared, afterBlueprints⟩
  rcases except_bind_eq_ok.mp afterBlueprints with ⟨between, added, finished⟩
  cases finished
  have keptByEach : ∀ declared ∈ blueprints, ∀ {before after : Profile}, invariant before →
      addBlueprint before declared = .ok after → invariant after := by
    intro _ member
    rcases exists_of_mem_mapM declared member with ⟨kind, kindMember, kindDeclared⟩
    exact kept kind kindMember kindDeclared
  exact ⟨between, of_foldlM_eq_ok invariant keptByEach start added, withNormalizers_eq _ _⟩

/-- Whatever a configuration says, the profile that is assembled from it is in order. -/
theorem assembled_of_build_eq {assembly : Assembly} {profile : Profile}
    (built : assembly.build = .ok profile) : profile.Assembled := by
  rcases of_build_eq Profile.Assembled (assembled_foundation assembly)
    (fun _ _ _ _ _ _ => assembled_addBlueprint) built with ⟨between, assembled, rfl⟩
  exact assembled.of_outline_eq rfl rfl

end Assembly

end Resemblance
