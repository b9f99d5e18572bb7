import Resemblance.Proofs.Profile.Stream
import Resemblance.Storage.ProfileFile

/-!
# Reading whole profiles

`Profile.readFrom` accepts a byte string if the reader of the profile takes all of it. For assembled
profiles that reader is regular, so acceptance is decided by the bytes alone. Every accepted profile
is described by `Profile.Assembled.of_readFrom_eq_ok`: the outline is the old one, the contents are
what the section readers gave, and every reference resolves.

A file is loaded as its bytes are read; there is nothing to read in a directory.
-/

namespace Resemblance

namespace Profile

@[simp]
theorem sections_adoptFlag (profile : Profile) : profile.adoptFlag.sections = profile.sections := by
  rw [adoptFlag]
  split <;> rfl

@[simp]
theorem blueprints_adoptFlag (profile : Profile) :
    profile.adoptFlag.blueprints = profile.blueprints := by
  rw [adoptFlag]
  split <;> rfl

@[simp]
theorem types_adoptFlag (profile : Profile) : profile.adoptFlag.types = profile.types := by
  rw [adoptFlag]
  split <;> rfl

theorem content?_congr {profile other : Profile} (same : profile.sections = other.sections)
    (name : String) : profile.content? name = other.content? name := by
  simp only [content?, section?, find?, same]

/-- Whether references resolve depends on the sections alone. -/
theorem checkReferences_congr {profile other : Profile} (same : profile.sections = other.sections) :
    profile.checkReferences = other.checkReferences := by
  simp only [checkReferences, descriptors, descriptorsIn, content?_congr same, same]

theorem metadata?_congr {profile other : Profile} (same : profile.sections = other.sections) :
    profile.metadata? = other.metadata? := by
  simp only [metadata?, metadataIn, content?_congr same]

/-- A profile that was read is marked as its own metadata says. -/
theorem isApplication_adoptFlag (profile : Profile) :
    profile.adoptFlag.withoutSource.isApplication =
      match profile.adoptFlag.withoutSource.metadata? with
      | some metadata => metadata.isApplication
      | none => profile.isApplication := by
  have same : profile.adoptFlag.withoutSource.metadata? = profile.metadata? := by
    apply metadata?_congr
    simp [withoutSource]
  rw [same, withoutSource, adoptFlag]
  cases profile.metadata? <;> rfl

theorem resetSections_eq (profile : Profile) :
    profile.resetSections = { profile with sections := outline profile.sections } :=
  rfl

/-- A profile is read once its sections are counted and filled and its references resolve. -/
theorem reader_eq_ok_iff {profile filled : Profile} {source after : Source} :
    Reader.profile profile source = .ok filled after ↔
      ∃ count between sections,
        Reader.sectionCount profile.sections.length source = .ok count between ∧
        Reader.sectionsInto profile.types profile.blueprints [] (outline profile.sections) count
          between = .ok sections after ∧
        filled = { profile with sections } ∧ filled.checkReferences = .ok () := by
  have size : profile.resetSections.sections.length = profile.sections.length := by
    simp [resetSections]
  constructor
  · intro success
    rcases Reader.bind_eq_ok.mp success with ⟨count, between, counted, afterCount⟩
    rcases Reader.bind_eq_ok.mp afterCount with ⟨sections, last, sectionsRead, afterSections⟩
    rcases Reader.bind_eq_ok.mp afterSections with ⟨_, _, checked, filledEq⟩
    rcases Reader.pure_eq_ok.mp filledEq with ⟨rfl, rfl⟩
    rcases Reader.liftExcept_eq_ok_iff.mp checked with ⟨resolved, rfl⟩
    rw [size] at counted
    exact ⟨count, between, sections, counted, sectionsRead, rfl, resolved⟩
  · rintro ⟨count, between, sections, counted, sectionsRead, rfl, resolved⟩
    rw [← size] at counted
    refine Reader.bind_eq_ok.mpr ⟨_, _, counted, ?_⟩
    refine Reader.bind_eq_ok.mpr ⟨_, _, sectionsRead, ?_⟩
    refine Reader.bind_eq_ok.mpr ⟨(), _, Reader.liftExcept_eq_ok_iff.mpr ⟨resolved, rfl⟩, ?_⟩
    exact Reader.pure_eq_ok.mpr ⟨rfl, rfl⟩

theorem readAll_eq_ok_iff {profile loaded : Profile} {source left : Source} :
    profile.readAll source = (.ok (), loaded, left) ↔
      Reader.profile profile source = .ok loaded left := by
  rw [readAll]
  cases Reader.profile profile source <;> simp

/-! ## Acceptance -/

/-- A byte string that the reader takes is accepted, with nothing left over. -/
theorem readFrom_of_takes {profile filled : Profile} {bytes : List UInt8}
    (takes : (Reader.profile profile).Takes 0 bytes filled) :
    profile.readFrom (.ofBytes bytes) = .ok filled.adoptFlag.withoutSource := by
  have success := takes 0 [] .endOfBytes
  rw [List.append_nil] at success
  simp only [readFrom, readAll, Source.ofBytes, success]

/-- Bytes after those that the reader takes are refused. -/
theorem readFrom_append_of_takes {profile filled : Profile} {bytes more : List UInt8}
    (takes : (Reader.profile profile).Takes 0 bytes filled) (nonempty : more ≠ []) :
    profile.readFrom (.ofBytes (bytes ++ more)) = .error (.format .trailingBytes none none) := by
  cases more with
  | nil => exact absurd rfl nonempty
  | cons byte more =>
      have success := takes 0 (byte :: more) .endOfBytes
      simp only [readFrom, readAll, Source.ofBytes, success]

theorem takes_of_readFrom_eq_ok {profile loaded : Profile} {bytes : List UInt8}
    (regular : (Reader.profile profile).Regular)
    (accepted : profile.readFrom (.ofBytes bytes) = .ok loaded) :
    ∃ filled, (Reader.profile profile).Takes 0 bytes filled ∧
      loaded = filled.adoptFlag.withoutSource := by
  cases outcome : Reader.profile profile (.ofBytes bytes) with
  | error failure after => simp [readFrom, readAll, outcome] at accepted
  | ok filled after =>
      rcases regular.takes_of_ok outcome with ⟨taken, takes, split, afterEq⟩
      have endingEq : after.ending = .endOfBytes := by
        rw [afterEq]
        rfl
      simp only [readFrom, readAll, outcome, endingEq] at accepted
      cases rest : after.rest with
      | nil =>
          simp only [rest, Except.ok.injEq] at accepted
          rw [rest, List.append_nil] at split
          have whole : bytes = taken := split
          rw [whole]
          exact ⟨filled, takes, accepted.symm⟩
      | cons byte more => simp [rest] at accepted

/-- Only the format of a byte string is to blame if it is refused. -/
theorem isFormat_of_readFrom_eq_error {profile : Profile} {bytes : List UInt8} {failure : Failure}
    (regular : (Reader.profile profile).Regular)
    (refused : profile.readFrom (.ofBytes bytes) = .error failure) : failure.IsFormat := by
  cases outcome : Reader.profile profile (.ofBytes bytes) with
  | error other after =>
      simp only [readFrom, readAll, outcome, Except.error.injEq] at refused
      rw [← refused]
      exact regular.blamesFormat rfl outcome
  | ok filled after =>
      rcases regular.takes_of_ok outcome with ⟨taken, _, _, afterEq⟩
      have endingEq : after.ending = .endOfBytes := by
        rw [afterEq]
        rfl
      simp only [readFrom, readAll, outcome, endingEq] at refused
      cases rest : after.rest with
      | nil => simp [rest] at refused
      | cons byte more =>
          simp only [rest, Except.error.injEq] at refused
          exact ⟨_, none, none, refused.symm⟩

/-! ## Files -/

/-- Nothing is read from a source that is broken from the beginning. -/
theorem readFrom_broken_ne_ok {profile loaded : Profile} :
    profile.readFrom { Source.ofBytes [] with ending := .broken } ≠ .ok loaded := by
  intro success
  cases success

/-- A profile is loaded from a file whose bytes it accepts. -/
theorem load_eq_ok_iff {profile loaded : Profile} {path : String} {tree : FileTree} :
    profile.load path tree = .ok loaded ↔
      ∃ bytes filled, tree.read? path = some bytes ∧
        profile.readFrom (.ofBytes bytes) = .ok filled ∧
        loaded = { filled with source? := some path } := by
  rw [load, FileTree.read?]
  cases tree.node? path with
  | none => simp
  | some node =>
      simp only [except_bind_eq_ok]
      cases node with
      | file bytes =>
          cases read : profile.readFrom (.ofBytes bytes) with
          | ok filled => simp [namingFile, FileNode.toSource, read, pure, Except.pure, eq_comm]
          | error failure => simp [namingFile, FileNode.toSource, read]
      | directory =>
          cases read : profile.readFrom FileNode.directory.toSource with
          | ok filled => exact absurd read readFrom_broken_ne_ok
          | error failure => simp [namingFile]

/-! ## Assembled profiles -/

/-- The profile that a reader of sections leaves, in terms of the sections that were read. -/
theorem outline_of_sectionsInto_takes {profile : Profile} (assembled : profile.Assembled)
    {depth count : Nat} {bytes : List UInt8} {sections : List RegisteredSection}
    (takes : (Reader.sectionsInto profile.types profile.blueprints [] (outline profile.sections)
      count).Takes depth bytes sections) :
    outline sections = outline profile.sections := by
  have readable := assembled.readable.of_outline_eq (outline_outline profile.sections)
  have kept := Reader.of_sectionsInto_eq_ok (fun _ => True) (fun _ _ _ => trivial) rfl readable
    (fun _ _ => trivial) (takes 0 [] .endOfBytes)
  rw [kept.1, outline_outline]

theorem Assembled.regular {profile : Profile} (assembled : profile.Assembled) :
    (Reader.profile profile).Regular := by
  have readable := assembled.readable.of_outline_eq (outline_outline profile.sections)
  apply (Reader.Regular.sectionCount _).bind
  intro count
  apply (Reader.Regular.sectionsInto readable [] count).bind_of
  intro depth bytes sections takes
  have coherent : ({ profile.resetSections with sections } : Profile).Coherent :=
    assembled.toCoherent.of_outline_eq (outline_of_sectionsInto_takes assembled takes)
  apply (Reader.Regular.liftExcept fun failure failed =>
    coherent.isFormat_of_checkReferences_eq_error failed).bind
  intro _
  exact .pure _

/--
What is known about an accepted profile: it has the outline, types and blueprints of the profile
that read it, every reference resolves, and whatever holds of cleared sections and of everything
that is read for a section holds of its contents.
-/
theorem Assembled.of_readFrom_eq_ok {profile loaded : Profile} (assembled : profile.Assembled)
    (property : Section → Prop)
    (cleared : ∀ registered ∈ profile.sections, property registered.content.reset)
    (each : ∀ {content bytes read}, content.Equipped profile.blueprints → property content →
      (Reader.sectionContent profile.types profile.blueprints content).Takes 0 bytes read →
      property read)
    {bytes : List UInt8} (accepted : profile.readFrom (.ofBytes bytes) = .ok loaded) :
    loaded.types = profile.types ∧ loaded.blueprints = profile.blueprints ∧
      outline loaded.sections = outline profile.sections ∧
      loaded.checkReferences = .ok () ∧
      ∀ registered ∈ loaded.sections, property registered.content := by
  have readable := assembled.readable.of_outline_eq (outline_outline profile.sections)
  rcases takes_of_readFrom_eq_ok assembled.regular accepted with ⟨filled, takes, rfl⟩
  rcases reader_eq_ok_iff.mp (takes 0 [] .endOfBytes) with
    ⟨count, between, sections, counted, sectionsRead, rfl, resolved⟩
  rcases (Reader.Regular.sectionCount _).takes_of_ok counted with ⟨_, _, _, betweenEq⟩
  have depthEq : between.depth = 0 := congrArg Source.depth betweenEq
  have clearedAll : ∀ registered ∈ outline profile.sections, property registered.content := by
    intro registered member
    rcases List.mem_map.mp member with ⟨original, originalMember, rfl⟩
    exact cleared original originalMember
  rcases Reader.of_sectionsInto_eq_ok property each depthEq readable clearedAll sectionsRead with
    ⟨outlineEq, holds⟩
  rw [outline_outline] at outlineEq
  refine ⟨?_, ?_, ?_, ?_, ?_⟩
  · simp [withoutSource]
  · simp [withoutSource]
  · simpa [withoutSource] using outlineEq
  · rw [← resolved]
    apply checkReferences_congr
    simp [withoutSource]
  · simpa [withoutSource] using holds

end Profile

end Resemblance
