import Resemblance.Proofs.Profile.RoundTrip

/-!
# Replacing a profile by what is read

A profile is read in place: its sections are cleared, and then the content of one section after the
other is overwritten. `Loader` is that way of reading. Its state holds the sections along with the
source, so that a failure leaves the sections behind that were overwritten until then. What
`Profile.readAll` gives is what is left when these are cleared, and nothing that the profile held
before has a part in it.
-/

namespace Resemblance

/-- A reader with sections that it overwrites; a failure leaves the sections as they are. -/
abbrev Loader (Result : Type) := EStateM Failure (Source × List RegisteredSection) Result

namespace Loader

variable {Result : Type}

def read (reader : Reader Result) : Loader Result :=
  fun (source, sections) =>
    match reader source with
    | .ok result source => .ok result (source, sections)
    | .error failure source => .error failure (source, sections)

/-- The sections as they have been overwritten so far. -/
def held : Loader (List RegisteredSection) :=
  fun (source, sections) => .ok sections (source, sections)

def overwrite (tag : UInt32) (content : Section) : Loader Unit :=
  fun (source, sections) => .ok () (source, Reader.replaceContent tag content sections)

/-- Overwrites `count` sections, whose tags must not be among those already `seen`. -/
def sections (types : TypeTable) (blueprints : Blueprints) (seen : List UInt32) :
    (count : Nat) → Loader Unit
  | 0 => return ()
  | count + 1 => do
      let tag ← read Reader.u32
      if seen.contains tag then read (Reader.fail (.repeatedSection tag))
      else
        match (← held).find? (·.tag == tag) with
        | none => read (Reader.fail (.unknownSection tag))
        | some registered => do
            let content ← read (Reader.sectionContent types blueprints registered.content)
            overwrite tag content
            sections types blueprints (tag :: seen) count

/-- Overwrites the sections of a profile that was cleared, and then checks the references. -/
def profile (cleared : Profile) : Loader Unit := do
  let count ← read (Reader.sectionCount cleared.sections.length)
  sections cleared.types cleared.blueprints [] count
  let sections ← held
  liftExcept ({ cleared with sections } : Profile).checkReferences

end Loader

/-- Reads a profile in place, and clears whatever a failure has left in it. -/
def Profile.readInPlace (profile : Profile) (source : Source) :
    Except Failure Unit × Profile × Source :=
  let cleared := profile.resetSections
  match Loader.profile cleared (source, cleared.sections) with
  | .ok _ (source, sections) => (.ok (), { cleared with sections }, source)
  | .error failure (source, sections) =>
      (.error failure, ({ cleared with sections } : Profile).resetSections, source)

namespace Loader

section Steps

variable {Result Next : Type} {reader : Reader Result} {next : Result → Loader Next}
  {source after : Source} {result : Result} {failure : Failure}

theorem read_fail_eq_error {Other : Type} {fault : FormatFault}
    (failed : (Reader.fail fault : Reader Other) source = .error failure after)
    (kept : List RegisteredSection) :
    (read (Reader.fail fault) : Loader Next) (source, kept) = .error failure (after, kept) := by
  simp only [Reader.fail, EStateM.Result.error.injEq] at failed
  rcases failed with ⟨rfl, rfl⟩
  rfl

theorem read_eq_ok (success : reader source = .ok result after) (kept : List RegisteredSection) :
    read reader (source, kept) = .ok result (after, kept) := by
  simp only [read, success]

theorem read_eq_error (failed : reader source = .error failure after)
    (kept : List RegisteredSection) :
    read reader (source, kept) = .error failure (after, kept) := by
  simp only [read, failed]

theorem bind_of_ok {loader : Loader Result} {state later : Source × List RegisteredSection}
    (success : loader state = .ok result later) : (loader >>= next) state = next result later := by
  simp only [bind, EStateM.bind, success]

theorem bind_of_error {loader : Loader Result} {state later : Source × List RegisteredSection}
    (failed : loader state = .error failure later) :
    (loader >>= next) state = .error failure later := by
  simp only [bind, EStateM.bind, failed]

theorem held_bind (next : List RegisteredSection → Loader Next) (source : Source)
    (kept : List RegisteredSection) :
    (held >>= next) (source, kept) = next kept (source, kept) :=
  rfl

theorem overwrite_bind (next : Unit → Loader Next) (tag : UInt32) (content : Section)
    (source : Source) (kept : List RegisteredSection) :
    (overwrite tag content >>= next) (source, kept) =
      next () (source, Reader.replaceContent tag content kept) :=
  rfl

theorem liftExcept_eq_ok {outcome : Except Failure Result}
    (success : (liftExcept outcome : Reader Result) source = .ok result after)
    (kept : List RegisteredSection) :
    (liftExcept outcome : Loader Result) (source, kept) = .ok result (after, kept) := by
  cases outcome with
  | ok known =>
      rcases Reader.pure_eq_ok.mp success with ⟨rfl, rfl⟩
      rfl
  | error failure => cases success

theorem liftExcept_eq_error {outcome : Except Failure Result}
    (failed : (liftExcept outcome : Reader Result) source = .error failure after)
    (kept : List RegisteredSection) :
    (liftExcept outcome : Loader Result) (source, kept) = .error failure (after, kept) := by
  cases outcome with
  | ok known => cases failed
  | error other =>
      have equal : EStateM.Result.error other source = .error failure after := failed
      rw [EStateM.Result.error.injEq] at equal
      rcases equal with ⟨rfl, rfl⟩
      rfl

end Steps

variable {types : TypeTable} {blueprints : Blueprints} {seen : List UInt32} {count : Nat}
  {kept results : List RegisteredSection} {source after : Source} {failure : Failure}

/-- Where reading succeeds, the sections have been overwritten with what was read. -/
theorem sections_eq_ok (distinct : (kept.map (·.tag)).Nodup)
    (success : Reader.sectionsInto types blueprints seen kept count source = .ok results after) :
    sections types blueprints seen count (source, kept) = .ok () (after, results) ∧
      outline results = outline kept := by
  induction count generalizing seen kept source with
  | zero =>
      rcases Reader.pure_eq_ok.mp success with ⟨rfl, rfl⟩
      exact ⟨rfl, rfl⟩
  | succ count ih =>
      rcases Reader.sectionsInto_succ_eq_ok success with
        ⟨tag, registered, content, between, later, tagRead, unseen, found, contentRead, others⟩
      have first : ¬ seen.contains tag = true := by
        simpa using unseen
      have sameOutline := outline_replaceContent_of_find? distinct found
        (Reader.reset_of_sectionContent_eq_ok contentRead)
      rw [sections, bind_of_ok (read_eq_ok tagRead kept), if_neg first, held_bind]
      simp only [found]
      rw [bind_of_ok (read_eq_ok contentRead kept), overwrite_bind, ← sameOutline]
      apply ih _ others
      rw [tags_eq_of_outline_eq sameOutline]
      exact distinct

/-- Where reading fails, some sections have been overwritten, and their outline is still the same. -/
theorem sections_eq_error (distinct : (kept.map (·.tag)).Nodup)
    (failed : Reader.sectionsInto types blueprints seen kept count source = .error failure after) :
    ∃ left, sections types blueprints seen count (source, kept) = .error failure (after, left) ∧
      outline left = outline kept := by
  induction count generalizing seen kept source with
  | zero => cases failed
  | succ count ih =>
      rw [sections]
      rcases Reader.bind_eq_error.mp failed with tagFailed | ⟨tag, between, tagRead, afterTag⟩
      · exact ⟨kept, bind_of_error (read_eq_error tagFailed kept), rfl⟩
      · rw [bind_of_ok (read_eq_ok tagRead kept)]
        split at afterTag
        · rename_i repeated
          rw [if_pos repeated]
          exact ⟨kept, read_fail_eq_error afterTag kept, rfl⟩
        · rename_i unseen
          rw [if_neg unseen, held_bind]
          cases found : kept.find? (·.tag == tag) with
          | none =>
              simp only [found] at afterTag ⊢
              exact ⟨kept, read_fail_eq_error afterTag kept, rfl⟩
          | some registered =>
              simp only [found] at afterTag ⊢
              rcases Reader.bind_eq_error.mp afterTag with
                contentFailed | ⟨content, _, contentRead, othersFailed⟩
              · exact ⟨kept, bind_of_error (read_eq_error contentFailed kept), rfl⟩
              · rw [bind_of_ok (read_eq_ok contentRead kept), overwrite_bind]
                have sameOutline := outline_replaceContent_of_find? distinct found
                  (Reader.reset_of_sectionContent_eq_ok contentRead)
                rw [← sameOutline]
                apply ih _ othersFailed
                rw [tags_eq_of_outline_eq sameOutline]
                exact distinct

theorem distinct_resetSections {profile : Profile} (coherent : profile.Coherent) :
    (profile.resetSections.sections.map (·.tag)).Nodup := by
  rw [Profile.resetSections_eq, Profile.tags_outline]
  exact coherent.distinct

theorem profile_eq_ok {profile filled : Profile} (coherent : profile.Coherent)
    (success : Reader.profile profile source = .ok filled after) :
    Loader.profile profile.resetSections (source, profile.resetSections.sections) =
        .ok () (after, filled.sections) ∧
      filled = { profile with sections := filled.sections } ∧
      outline filled.sections = outline profile.sections := by
  have size : (outline profile.sections).length = profile.sections.length := List.length_map _
  have distinct := distinct_resetSections coherent
  rw [Profile.resetSections_eq] at distinct ⊢
  rcases Profile.reader_eq_ok_iff.mp success with
    ⟨count, between, sections, counted, sectionsRead, rfl, resolved⟩
  rcases sections_eq_ok distinct sectionsRead with ⟨loaded, outlineEq⟩
  rw [outline_outline] at outlineEq
  refine ⟨?_, rfl, outlineEq⟩
  rw [← size] at counted
  rw [Loader.profile, bind_of_ok (read_eq_ok counted _), bind_of_ok loaded, held_bind]
  exact liftExcept_eq_ok (Reader.liftExcept_eq_ok_iff.mpr ⟨resolved, rfl⟩) sections

/-- A failure leaves sections with the outline of those that there were before. -/
theorem profile_eq_error {profile : Profile} (coherent : profile.Coherent)
    (failed : Reader.profile profile source = .error failure after) :
    ∃ left, Loader.profile profile.resetSections (source, profile.resetSections.sections) =
        .error failure (after, left) ∧
      outline left = outline profile.resetSections.sections := by
  have distinct := distinct_resetSections coherent
  rw [Loader.profile]
  rcases Reader.bind_eq_error.mp failed with countFailed | ⟨count, between, counted, afterCount⟩
  · exact ⟨_, bind_of_error (read_eq_error countFailed _), rfl⟩
  · rw [bind_of_ok (read_eq_ok counted _)]
    rcases Reader.bind_eq_error.mp afterCount with
      sectionsFailed | ⟨sections, last, sectionsRead, afterSections⟩
    · rcases sections_eq_error distinct sectionsFailed with ⟨left, loaded, outlineEq⟩
      exact ⟨left, bind_of_error loaded, outlineEq⟩
    · rcases sections_eq_ok distinct sectionsRead with ⟨loaded, outlineEq⟩
      rw [bind_of_ok loaded, held_bind]
      rcases Reader.bind_eq_error.mp afterSections with checkFailed | ⟨_, _, _, impossible⟩
      · exact ⟨sections, liftExcept_eq_error checkFailed sections, outlineEq⟩
      · cases impossible

end Loader

namespace Profile

/-- Two profiles are set up alike: they have the same sections, apart from what these hold. -/
structure SetUpLike (profile other : Profile) : Prop where
  types_eq : profile.types = other.types
  blueprints_eq : profile.blueprints = other.blueprints
  /-- The sections have the same order, retentions, names and kinds. -/
  outline_eq : outline profile.sections = outline other.sections

/-- Clearing what a failure leaves is as good as having read nothing. -/
theorem readInPlace_eq_readAll {profile : Profile} (coherent : profile.Coherent)
    (source : Source) : profile.readInPlace source = profile.readAll source := by
  rw [readInPlace, readAll]
  cases outcome : Reader.profile profile source with
  | ok filled after =>
      rcases Loader.profile_eq_ok coherent outcome with ⟨loaded, filledEq, _⟩
      simp only [loaded]
      rw [filledEq]
      rfl
  | error failure after =>
      rcases Loader.profile_eq_error coherent outcome with ⟨left, loaded, outlineEq⟩
      rw [resetSections_eq, outline_outline] at outlineEq
      simp only [loaded]
      rw [resetSections_eq, outlineEq, resetSections_eq]

/-- What is read does not depend on what the sections held. -/
theorem SetUpLike.reader_eq {profile other : Profile} (alike : profile.SetUpLike other)
    (source : Source) :
    Reader.profile other source =
      match Reader.profile profile source with
      | .ok filled after => .ok { other with sections := filled.sections } after
      | .error failure after => .error failure after := by
  have typesEq : other.types = profile.types := alike.types_eq.symm
  have blueprintsEq : other.blueprints = profile.blueprints := alike.blueprints_eq.symm
  simp only [Reader.profile, resetSections_eq, ← alike.outline_eq, typesEq, blueprintsEq, bind,
    EStateM.bind]
  cases Reader.sectionCount (outline profile.sections).length source with
  | error failure after => rfl
  | ok count between =>
      simp only
      cases Reader.sectionsInto profile.types profile.blueprints [] (outline profile.sections) count
          between with
      | error failure after => rfl
      | ok sections last =>
          have sameCheck : ({ other with sections } : Profile).checkReferences =
              ({ profile with sections } : Profile).checkReferences := checkReferences_congr rfl
          rw [blueprintsEq, typesEq] at sameCheck
          simp only [sameCheck]
          cases ({ profile with sections } : Profile).checkReferences <;> rfl

/--
Reading replaces all that a profile holds or clears it: two profiles that are set up alike hold the
same afterwards, and nothing if the reading fails, wherever it stops.
-/
theorem readAll_isAllOrNothing {profile other : Profile} (coherent : profile.Coherent)
    (alike : profile.SetUpLike other) (source : Source) :
    ∃ result sections left,
      profile.readAll source = (result, { profile with sections }, left) ∧
      other.readAll source = (result, { other with sections }, left) ∧
      profile.readInPlace source = profile.readAll source ∧
      outline sections = outline profile.sections ∧
      ∀ failure, result = .error failure → sections = outline profile.sections := by
  have inPlace := readInPlace_eq_readAll coherent source
  cases outcome : Reader.profile profile source with
  | ok filled after =>
      rcases Loader.profile_eq_ok coherent outcome with ⟨_, filledEq, outlineEq⟩
      refine ⟨.ok (), filled.sections, after, ?_, ?_, inPlace, outlineEq, ?_⟩
      · simp only [readAll, outcome, ← filledEq]
      · simp only [readAll, alike.reader_eq, outcome]
      · intro failure impossible
        cases impossible
  | error failure after =>
      refine ⟨.error failure, outline profile.sections, after, ?_, ?_, inPlace,
        outline_outline _, fun _ _ => rfl⟩
      · simp only [readAll, outcome, resetSections_eq]
      · simp only [readAll, alike.reader_eq, outcome, resetSections_eq, alike.outline_eq]

/-! ## A stream that is refused at its end -/

/-- The bytes of `bordProfile`, except that its element refers past the table of descriptors. -/
def danglingStream : List UInt8 :=
  [2, 0, 0, 0, 0x4d, 0x55, 0xb2, 0x63, 1, 1, 0x78, 1, 0x74, 0xb4, 0x50, 0xc8, 1, 5, 0]

/-- Both sections were read when the reference is found to dangle, and nothing is left of them. -/
theorem readAll_danglingStream :
    ∃ failure sections left,
      bordProfile.readAll (.ofBytes danglingStream) =
        (.error failure, { bordProfile with sections }, left) ∧
      (ofElements bordBlueprint [] []).readAll (.ofBytes danglingStream) =
        (.error failure, { ofElements bordBlueprint [] [] with sections }, left) ∧
      sections = outline bordProfile.sections := by
  have alike : bordProfile.SetUpLike (ofElements bordBlueprint [] []) := ⟨rfl, rfl, rfl⟩
  have refused : (match (bordProfile.readAll (.ofBytes danglingStream)).1 with
      | .error _ => true
      | .ok _ => false) = true := by
    decide +kernel
  rcases readAll_isAllOrNothing wellFormed_bordProfile.toCoherent alike
    (.ofBytes danglingStream) with ⟨result, sections, left, here, there, _, _, cleared⟩
  rw [here] at refused
  cases result with
  | ok _ => cases refused
  | error failure => exact ⟨failure, sections, left, here, there, cleared failure rfl⟩

end Profile

end Resemblance
