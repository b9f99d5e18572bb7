import Resemblance.Proofs.Matching.DirectoryLoading
import Resemblance.Proofs.Profile.Building
import Resemblance.Proofs.Profile.Description
import Resemblance.Proofs.Profile.Gathering

/-!
# Applications and libraries in a stream

A profile says twice whether it is an application: the profile itself is marked, which is what a
comparison goes by, and so is its metadata, which is what a stream carries. A build records the mark
in the metadata, and reading takes it over from there. An assembly and a change of the mark leave
the metadata as it is. So it is the mark that was recorded last, not the present one, with which a
profile comes back from a stream.
-/

namespace Resemblance

namespace Profile

variable {recorded : Bool} {profile later : Profile} {content : Section}

/-- The metadata of the profile says that it is an application. -/
def recordsApplication (profile : Profile) : Bool :=
  profile.metadata?.any (·.isApplication)

/-- The profile has metadata, in its place after the table, and this is the mark in it. -/
structure Described (recorded : Bool) (profile : Profile) : Prop extends profile.Assembled where
  /-- The sections that every assembly begins with. -/
  front : ∃ others, outline profile.sections =
    ⟨.runtime, .descriptors .empty⟩ :: ⟨.runtime, .metadata .empty⟩ ::
      ⟨.source, .buildInfo .empty⟩ :: others
  described : ∃ registered ∈ profile.sections, ∃ metadata,
    registered.content = .metadata metadata ∧ metadata.isApplication = recorded

namespace Described

theorem congr (described : profile.Described recorded)
    (sectionsEq : later.sections = profile.sections)
    (blueprintsEq : later.blueprints = profile.blueprints) : later.Described recorded where
  toAssembled := described.of_outline_eq (congrArg outline sectionsEq) blueprintsEq
  front := by
    rw [sectionsEq]
    exact described.front
  described := by
    rw [sectionsEq]
    exact described.described

theorem metadata (described : profile.Described recorded) (metadata : Metadata) :
    profile.HasPlaceFor (.metadata metadata) := by
  rcases described.described with ⟨registered, member, other, contentEq, _⟩
  exact ⟨registered, member, by rw [contentEq]; rfl⟩

theorem buildInfo (described : profile.Described recorded) (info : BuildInfo) :
    profile.HasPlaceFor (.buildInfo info) := by
  rcases described.front with ⟨others, outlineEq⟩
  have cleared : (⟨.source, .buildInfo .empty⟩ : RegisteredSection) ∈ outline profile.sections := by
    rw [outlineEq]
    simp
  rcases List.mem_map.mp cleared with ⟨registered, member, resetEq⟩
  exact ⟨registered, member, congrArg RegisteredSection.content resetEq⟩

theorem exists_metadata?_eq (described : profile.Described recorded) :
    ∃ metadata, profile.metadata? = some metadata ∧ metadata.isApplication = recorded := by
  rcases described.described with ⟨registered, member, metadata, contentEq, markEq⟩
  exact ⟨metadata, described.toCoherent.metadata?_eq member contentEq, markEq⟩

theorem recordsApplication_eq (described : profile.Described recorded) :
    profile.recordsApplication = recorded := by
  rcases described.exists_metadata?_eq with ⟨metadata, found, markEq⟩
  rw [recordsApplication, found]
  exact markEq

/-! ## Changes of contents -/

/-- Metadata stays as it is when another section gets new content. -/
theorem setSection (described : profile.Described recorded) (place : profile.HasPlaceFor content)
    (other : ∀ metadata, content ≠ .metadata metadata) :
    (profile.setSection content).Described recorded := by
  have outlineEq := described.toCoherent.outline_setSection place
  refine ⟨described.of_outline_eq outlineEq rfl, by rw [outlineEq]; exact described.front, ?_⟩
  rcases described.described with ⟨registered, member, metadata, contentEq, markEq⟩
  have apart : content.reset ≠ (Section.metadata metadata).reset := by
    cases content with
    | metadata changed => exact absurd rfl (other changed)
    | _ => rintro ⟨⟩
  have different := described.toCoherent.tag_ne place (described.metadata metadata) apart
  refine ⟨registered, List.mem_map.mpr ⟨registered, member, if_neg ?_⟩, metadata, contentEq, markEq⟩
  rw [RegisteredSection.tag, contentEq]
  exact different.symm

theorem setMetadata (described : profile.Described recorded) (metadata : Metadata) :
    (profile.setSection (.metadata metadata)).Described metadata.isApplication := by
  have outlineEq := described.toCoherent.outline_setSection (described.metadata metadata)
  refine ⟨described.of_outline_eq outlineEq rfl, by rw [outlineEq]; exact described.front, ?_⟩
  rcases described.described with ⟨registered, member, old, contentEq, _⟩
  have tagEq : registered.tag = (Section.metadata metadata).tag := by
    rw [RegisteredSection.tag, contentEq]
    rfl
  exact ⟨_, List.mem_map.mpr ⟨registered, member, if_pos tagEq⟩, metadata, rfl, rfl⟩

/-! ## Building -/

theorem intern {descriptor : String} {index : UInt32} (described : profile.Described recorded)
    (interned : profile.intern descriptor = .ok (index, later)) :
    later.Described recorded ∧ later.isApplication = profile.isApplication := by
  rcases except_bind_eq_ok.mp interned with ⟨table, _, outcome⟩
  cases outcome
  exact ⟨described.setSection (described.toCoherent.hasPlaceFor_descriptors _) (by simp), rfl⟩

theorem buildElements {extracted : List Extracted} {elements : List Element}
    (described : profile.Described recorded)
    (built : profile.buildElements extracted = .ok (elements, later)) :
    later.Described recorded ∧ later.isApplication = profile.isApplication := by
  induction extracted generalizing profile elements with
  | nil =>
      cases built
      exact ⟨described, rfl⟩
  | cons first others ih =>
      rcases except_bind_eq_ok.mp built with ⟨⟨element, between⟩, firstBuilt, rest⟩
      rcases except_bind_eq_ok.mp rest with ⟨⟨elements, last⟩, othersBuilt, outcome⟩
      cases outcome
      rcases except_bind_eq_ok.mp firstBuilt with ⟨⟨descriptor, interned⟩, internedEq, rest⟩
      rcases except_bind_eq_ok.mp rest with ⟨_, _, rest⟩
      rcases except_bind_eq_ok.mp rest with ⟨_, _, outcome⟩
      cases outcome
      rcases described.intern internedEq with ⟨betweenDescribed, sameMark⟩
      rcases ih betweenDescribed othersBuilt with ⟨lastDescribed, sameLater⟩
      exact ⟨lastDescribed, sameLater.trans sameMark⟩

theorem pushTo {kind : Kind} {element : Element} (described : profile.Described recorded)
    (pushed : profile.pushTo kind element = .ok later) :
    later.Described recorded ∧ later.isApplication = profile.isApplication := by
  rcases except_bind_eq_ok.mp pushed with ⟨list, found, rest⟩
  rcases except_bind_eq_ok.mp rest with ⟨longer, added, outcome⟩
  cases outcome
  rw [ElementList.push] at added
  split at added
  · cases added
    rcases exists_content_of_elements_eq found with ⟨registered, member, contentEq⟩
    exact ⟨described.setSection ⟨registered, member, by rw [contentEq]; rfl⟩ (by simp), rfl⟩
  · cases added

theorem pushAll {elements : List Element} (described : profile.Described recorded)
    (pushed : profile.pushAll elements = .ok later) :
    later.Described recorded ∧ later.isApplication = profile.isApplication := by
  refine of_foldlM_eq_ok
    (fun state => state.Described recorded ∧ state.isApplication = profile.isApplication)
    ?_ ⟨described, rfl⟩ pushed
  rintro element _ before after ⟨beforeDescribed, sameMark⟩ step
  rcases beforeDescribed.pushTo step with ⟨afterDescribed, sameAfter⟩
  exact ⟨afterDescribed, sameAfter.trans sameMark⟩

/-- The mark of the profile is what is recorded. -/
theorem record (described : profile.Described recorded) (origin : Origin)
    (normalizers : List String) :
    (profile.record origin normalizers).Described profile.isApplication ∧
      (profile.record origin normalizers).isApplication = profile.isApplication := by
  have present : profile.hasSection Section.metadataName = true :=
    (described.metadata .empty).hasSection
  rw [Profile.record, if_pos present]
  have noted := described.setMetadata ⟨origin.id, origin.artifact, origin.version,
    profile.isApplication, origin.created, Metadata.currentVersion, []⟩
  split
  · exact ⟨noted.setSection (noted.buildInfo _) (by simp), rfl⟩
  · exact ⟨noted, rfl⟩

theorem build {origin : Origin} {extracted : List Extracted}
    (described : profile.Described recorded)
    (built : profile.build origin extracted = .ok later) :
    later.Described profile.isApplication ∧ later.isApplication = profile.isApplication := by
  rcases except_bind_eq_ok.mp built with ⟨_, _, rest⟩
  rcases except_bind_eq_ok.mp rest with ⟨⟨elements, between⟩, elementsBuilt, rest⟩
  rcases except_bind_eq_ok.mp rest with ⟨filled, pushed, outcome⟩
  cases outcome
  rcases described.buildElements elementsBuilt with ⟨betweenDescribed, sameBetween⟩
  rcases betweenDescribed.pushAll pushed with ⟨filledDescribed, sameFilled⟩
  have sameMark := sameFilled.trans sameBetween
  rcases filledDescribed.record origin (filled.normalizersOf elements) with ⟨noted, kept⟩
  rw [sameMark] at noted kept
  exact ⟨noted.congr rfl rfl, kept⟩

/-! ## Reading -/

/-- Reading takes over the mark that the metadata records. -/
theorem readFrom {bytes : List UInt8} (described : profile.Described recorded)
    (accepted : profile.readFrom (.ofBytes bytes) = .ok later) :
    later.Described later.isApplication := by
  rcases described.toAssembled.loaded_assembled accepted with ⟨assembled, _, _, outlineEq, _⟩
  refine ⟨assembled, by rw [outlineEq]; exact described.front, ?_⟩
  rcases (described.metadata .empty).of_outline_eq outlineEq with ⟨registered, member, alike⟩
  cases contentEq : registered.content with
  | metadata metadata =>
      have found := assembled.toCoherent.metadata?_eq member contentEq
      refine ⟨registered, member, metadata, contentEq, ?_⟩
      rcases takes_of_readFrom_eq_ok described.toAssembled.regular accepted with ⟨filled, _, rfl⟩
      rw [isApplication_adoptFlag, found]
  | _ =>
      rw [contentEq] at alike
      cases alike

/-- What is stored begins with the table and the metadata. -/
theorem exists_stored_eq (described : profile.Described recorded) :
    ∃ table metadata others, profile.stored =
        ⟨.runtime, .descriptors table⟩ :: ⟨.runtime, .metadata metadata⟩ :: others ∧
      profile.descriptors = .ok table ∧ profile.metadata? = some metadata := by
  rcases described.front with ⟨others, outlineEq⟩
  rcases List.map_eq_cons_iff.mp outlineEq with ⟨first, rest, sectionsEq, firstEq, restEq⟩
  rcases List.map_eq_cons_iff.mp restEq with ⟨second, remaining, rfl, secondEq, _⟩
  rcases first with ⟨retention, content⟩
  rcases second with ⟨otherRetention, otherContent⟩
  cases content <;> cases firstEq
  rename_i table
  cases otherContent <;> cases secondEq
  rename_i metadata
  have tableMember : ⟨.runtime, .descriptors table⟩ ∈ profile.sections := by
    rw [sectionsEq]
    exact List.mem_cons_self
  have metadataMember : ⟨.runtime, .metadata metadata⟩ ∈ profile.sections := by
    rw [sectionsEq]
    exact List.mem_cons_of_mem _ List.mem_cons_self
  refine ⟨table, metadata, remaining.filter (·.retention == .runtime), ?_,
    described.toCoherent.descriptors_eq tableMember,
    described.toCoherent.metadata?_eq metadataMember rfl⟩
  rw [stored, sectionsEq]
  rfl

end Described

theorem outline_register (profile : Profile) (retention : Retention) (content : Section) :
    ∃ added, outline (profile.register retention content).sections =
      outline profile.sections ++ added := by
  rw [register]
  split
  · exact ⟨[], (List.append_nil _).symm⟩
  · exact ⟨_, List.map_append⟩

/-- The lengths of what describes the profile are numbers of 64 bits. -/
def Counted (profile : Profile) : Prop :=
  (∀ table, profile.descriptors = .ok table → table.Counted) ∧
    ∀ metadata, profile.metadata? = some metadata → metadata.Counted

end Profile

/-! ## Histories -/

namespace Assembly

theorem described_foundation (assembly : Assembly) : assembly.foundation.Described false where
  toAssembled := assembled_foundation assembly
  front := ⟨[], by rw [sections_foundation]; rfl⟩
  described := ⟨⟨.runtime, .metadata .empty⟩, by simp [sections_foundation], .empty, rfl, rfl⟩

theorem described_addBlueprint {recorded : Bool} {profile extended : Profile}
    {blueprint : Blueprint} (described : profile.Described recorded)
    (added : addBlueprint profile blueprint = .ok extended) : extended.Described recorded := by
  have assembled := assembled_addBlueprint described.toAssembled added
  rcases addBlueprint_eq_ok added with ⟨blueprints, _, rfl⟩
  have member {registered : RegisteredSection} (known : registered ∈ profile.sections) :
      registered ∈ (({ profile with blueprints } : Profile).registerList blueprint.kind).sections :=
    @Profile.mem_register { profile with blueprints } registered known _ _
  refine ⟨assembled, ?_, ?_⟩
  · rcases described.front with ⟨others, outlineEq⟩
    rcases Profile.outline_register { profile with blueprints } .runtime
      (.elements (.empty blueprint.kind)) with ⟨more, moreEq⟩
    refine ⟨others ++ more, ?_⟩
    rw [Profile.registerList, moreEq, outlineEq]
    rfl
  · rcases described.described with ⟨registered, known, marked⟩
    exact ⟨registered, member known, marked⟩

theorem described_of_build_eq {assembly : Assembly} {profile : Profile}
    (built : assembly.build = .ok profile) : profile.Described false := by
  rcases of_build_eq (Profile.Described false) (described_foundation assembly)
    (fun _ _ _ _ _ _ => described_addBlueprint) built with ⟨between, described, rfl⟩
  exact described.congr rfl rfl

/--
The profiles that come from an assembly by building, reading, loading of directories and marking, in
any order, each with the mark that was recorded last.
-/
inductive Reaches (assembly : Assembly) : (recorded : Bool) → Profile → Prop where
  | assembled {profile : Profile} (success : assembly.build = .ok profile) :
      Reaches assembly false profile
  | built {recorded : Bool} {profile filled : Profile} {origin : Origin}
      {extracted : List Extracted} (before : Reaches assembly recorded profile)
      (success : profile.build origin extracted = .ok filled) :
      Reaches assembly profile.isApplication filled
  | wrapped {recorded : Bool} {profile : Profile} (before : Reaches assembly recorded profile) :
      Reaches assembly recorded profile.withoutSource
  | read {recorded : Bool} {profile loaded : Profile} {bytes : List UInt8}
      (before : Reaches assembly recorded profile)
      (success : profile.readFrom (.ofBytes bytes) = .ok loaded) :
      Reaches assembly loaded.isApplication loaded
  /-- A library that a detector has found in a directory. -/
  | listed {marks : Nat → Bool} {supply : Nat → Except Failure Profile} {detector after : Detector}
      {directory : String} {tree : FileTree} {result : Except Failure Nat} {library : Profile}
      (before : ∀ {request profile}, supply request = .ok profile →
        Reaches assembly (marks request) profile)
      (outcome : detector.loadDirectoryInto directory tree supply = (result, after))
      (member : library ∈ after.libraries.drop detector.libraries.length) :
      Reaches assembly library.recordsApplication library
  | marked {recorded : Bool} {profile : Profile} (before : Reaches assembly recorded profile)
      (isApplication : Bool) : Reaches assembly recorded { profile with isApplication }

/-- The mark that was recorded last is the one in the metadata. -/
theorem Reaches.described {assembly : Assembly} {recorded : Bool} {profile : Profile}
    (reaches : assembly.Reaches recorded profile) : profile.Described recorded := by
  induction reaches with
  | assembled success => exact described_of_build_eq success
  | built _ success ih => exact (ih.build success).1
  | wrapped _ ih => exact ih.congr rfl rfl
  | read _ success ih => exact ih.readFrom success
  | listed _ outcome member ih =>
      rcases Detector.exists_holdsLibrary_of_mem_drop outcome member with
        ⟨request, path, profile, bytes, loaded, supplied, _, read, rfl⟩
      have described := (ih supplied).readFrom read
      have added : ({ loaded with source? := some path, isApplication := false } :
          Profile).Described loaded.isApplication := described.congr rfl rfl
      rwa [added.recordsApplication_eq]
  | marked _ _ ih => exact ih.congr rfl rfl

/--
A profile comes back from a stream with the mark that was recorded last before it was written, and
not with the one that it has: whatever was done to the profile that was written and to the one that
reads it.
-/
theorem reloaded_isApplication {assembly other : Assembly} {stored reader : Profile}
    {recorded current : Bool} (history : assembly.Reaches recorded stored)
    (reading : other.Reaches current reader) (counted : stored.Counted) {sink after : Sink}
    (success : Writer.profile stored sink = .ok () after) :
    stored.recordsApplication = recorded ∧ ∃ bytes, after.bytes = sink.bytes ++ bytes ∧
      ∀ loaded, reader.readFrom (.ofBytes bytes) = .ok loaded →
        loaded.isApplication = recorded := by
  rcases (Writer.SucceedsIf.profile stored).of_eq_ok success with ⟨_, bytes, emits, appended⟩
  refine ⟨history.described.recordsApplication_eq, bytes, appended, ?_⟩
  intro loaded accepted
  rcases history.described.exists_stored_eq with
    ⟨table, metadata, others, storedEq, tableEq, metadataEq⟩
  rcases history.described.exists_metadata?_eq with ⟨same, sameEq, markEq⟩
  rw [metadataEq, Option.some.injEq] at sameEq
  subst sameEq
  rw [← markEq]
  exact Profile.isApplication_of_readFrom_eq_ok storedEq (counted.1 table tableEq)
    (counted.2 metadata metadataEq) reading.described.toAssembled
    (reading.described.metadata metadata) emits accepted

/-! ## An application that was never built -/

/-- The standard configuration, for the profile of an application. -/
def ofApplication : Assembly :=
  { Assembly.ofConfig .standard with isApplication := true }

/-- The assembled profile can be written, and reads what was written. -/
theorem exists_reloaded_ofApplication :
    ∃ stored sink loaded, ofApplication.build = .ok stored ∧ stored.isApplication = true ∧
      stored.Counted ∧ Writer.profile stored .empty = .ok () sink ∧
      stored.readFrom (.ofBytes sink.bytes) = .ok loaded ∧ loaded.isApplication = false := by
  have evaluated : ofApplication.build.toOption.any (fun stored =>
      stored.descriptors.toOption == some .empty &&
        stored.metadata?.all (fun metadata => metadata.artifact == "" && metadata.version == "") &&
        stored.isApplication &&
        ((Writer.profile stored >>= fun _ => get).run' .empty).any fun sink =>
          (stored.readFrom (.ofBytes sink.bytes)).toOption.any fun loaded =>
            !loaded.isApplication) = true := by
    decide +kernel
  cases built : ofApplication.build with
  | error failure => simp [built, Except.toOption] at evaluated
  | ok stored =>
      rw [built, Except.toOption, Option.any_some] at evaluated
      simp only [Bool.and_eq_true, beq_iff_eq] at evaluated
      rcases evaluated with ⟨⟨⟨tableEq, textsEq⟩, marked⟩, reloads⟩
      have counted : stored.Counted := by
        constructor
        · intro table known
          rw [known, Except.toOption, Option.some.injEq] at tableEq
          rw [tableEq]
          exact ⟨by decide, fun entry member => by cases member⟩
        · intro metadata known
          rw [known, Option.all_some, Bool.and_eq_true, beq_iff_eq, beq_iff_eq] at textsEq
          rw [Metadata.Counted, textsEq.1, textsEq.2]
          exact ⟨by decide, by decide⟩
      cases written : Writer.profile stored .empty with
      | error failure sink =>
          simp [EStateM.run', EStateM.run, bind, EStateM.bind, written] at reloads
      | ok _ sink =>
          have sinkEq : (Writer.profile stored >>= fun _ => get).run' .empty = some sink := by
            simp only [EStateM.run', EStateM.run, bind, EStateM.bind, written]
            rfl
          rw [sinkEq, Option.any_some] at reloads
          cases read : stored.readFrom (.ofBytes sink.bytes) with
          | error failure => simp [read, Except.toOption] at reloads
          | ok loaded =>
              rw [read, Except.toOption, Option.any_some, Bool.not_eq_true'] at reloads
              exact ⟨stored, sink, loaded, rfl, marked, counted, written, read, reloads⟩

/-- The profile of an application that was assembled and not built comes back as a library. -/
theorem reloaded_isApplication_unbuilt :
    ∃ stored sink loaded, ofApplication.build = .ok stored ∧ stored.isApplication = true ∧
      stored.Counted ∧ Writer.profile stored .empty = .ok () sink ∧
      stored.readFrom (.ofBytes sink.bytes) = .ok loaded ∧ loaded.isApplication = false := by
  rcases exists_reloaded_ofApplication with
    ⟨stored, sink, loaded, built, marked, counted, written, read, _⟩
  rcases reloaded_isApplication (.assembled built) (.assembled built) counted written with
    ⟨_, bytes, appended, recorded⟩
  have sameBytes : sink.bytes = bytes := by
    simpa [Sink.empty, Sink.bytes] using appended
  exact ⟨stored, sink, loaded, built, marked, counted, written, read,
    recorded loaded (by rwa [← sameBytes])⟩

/-- What comes back from a stream is not always marked as the profile was that was written. -/
theorem isApplication_lost :
    ¬∀ (assembly : Assembly) (recorded : Bool) (stored reader loaded : Profile) (sink : Sink),
      assembly.Reaches recorded stored → assembly.build = .ok reader → stored.Counted →
      Writer.profile stored .empty = .ok () sink →
      reader.readFrom (.ofBytes sink.bytes) = .ok loaded →
        loaded.isApplication = stored.isApplication := by
  intro kept
  rcases exists_reloaded_ofApplication with
    ⟨stored, sink, loaded, built, marked, counted, written, read, unmarked⟩
  have same := kept _ _ _ _ _ _ (.assembled built) built counted written read
  rw [marked, unmarked] at same
  cases same

end Assembly

end Resemblance
