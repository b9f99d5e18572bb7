import Mathlib.Data.List.Forall2
import Mathlib.Data.List.Perm.Basic
import Resemblance.Proofs.Profile.PrefixFree
import Resemblance.Proofs.Profile.Receiving

/-!
# Reordering the sections of a stream

A stream consists of a number of sections and then these sections, each of them a tag and a payload.
Every payload ends by itself, and what it means does not depend on the sections before it, so the
sections may stand in any order: the same profile is read.

The sections that a stream holds are described by the contents that their payloads are read as. The
result of reading is `Reader.filled` with these contents, which does not depend on their order, and
whether the references resolve is decided by that result alone.
-/

namespace Resemblance

/-! ## Sections in the order of a stream -/

theorem Reader.filled_perm {stored reordered sections : List RegisteredSection}
    (perm : stored.Perm reordered) (distinct : (stored.map (·.tag)).Nodup) :
    filled stored sections = filled reordered sections := by
  have distinctReordered : (reordered.map (·.tag)).Nodup := (perm.map _).nodup_iff.mp distinct
  apply List.map_congr_left
  intro registered _
  have same : stored.find? (·.tag == registered.tag) =
      reordered.find? (·.tag == registered.tag) := by
    apply Option.ext
    intro source
    rw [find?_eq_some_iff_of_distinct distinct, find?_eq_some_iff_of_distinct distinctReordered,
      perm.mem_iff]
  rw [same]

/--
The bytes are the tag of one of the sections and a payload that is read as the content of `source`.
-/
def IsForm (types : TypeTable) (blueprints : Blueprints) (sections : List RegisteredSection)
    (part : List UInt8) (source : RegisteredSection) : Prop :=
  ∃ registered ∈ sections, registered.tag = source.tag ∧
    ∃ payload, part = toLittleEndian 4 source.tag.toNat ++ payload ∧
      (Reader.sectionContent types blueprints registered.content).Takes 0 payload source.content

/-- What a section takes as its payload is a form of the section with the content that was read. -/
theorem IsForm.of_takes {types : TypeTable} {blueprints : Blueprints}
    {sections : List RegisteredSection} {registered : RegisteredSection}
    (member : registered ∈ sections) (equipped : registered.content.Equipped blueprints)
    {payload : List UInt8} {content : Section}
    (takes : (Reader.sectionContent types blueprints registered.content).Takes 0 payload content) :
    IsForm types blueprints sections (toLittleEndian 4 registered.tag.toNat ++ payload)
      ⟨registered.retention, content⟩ := by
  have sameTag : registered.content.tag = content.tag :=
    (Section.tag_eq_of_reset_eq (Reader.reset_of_sectionContent_takes equipped takes)).symm
  refine ⟨registered, member, sameTag, payload, ?_, takes⟩
  rw [RegisteredSection.tag, sameTag]
  rfl

theorem IsForm.of_outline_eq {types : TypeTable} {blueprints : Blueprints}
    {sections others : List RegisteredSection} (same : outline sections = outline others)
    {part : List UInt8} {source : RegisteredSection}
    (form : IsForm types blueprints sections part source) :
    IsForm types blueprints others part source := by
  rcases form with ⟨registered, member, tagEq, payload, partEq, takes⟩
  rcases exists_of_outline_eq same member with ⟨other, otherMember, alike⟩
  refine ⟨other, otherMember, ?_, payload, partEq, ?_⟩
  · rw [← other.tag_reset, alike, registered.tag_reset, tagEq]
  · rwa [← Reader.sectionContent_reset, content_reset_eq alike, Reader.sectionContent_reset]

/-- The sections have tags that differ from each other and from those seen before. -/
def Fresh (seen : List UInt32) (sources : List RegisteredSection) : Prop :=
  (sources.map (·.tag)).Nodup ∧ ∀ source ∈ sources, source.tag ∉ seen

theorem fresh_cons_iff {seen : List UInt32} {source : RegisteredSection}
    {sources : List RegisteredSection} :
    Fresh seen (source :: sources) ↔ source.tag ∉ seen ∧ Fresh (source.tag :: seen) sources := by
  simp only [Fresh, List.map_cons, List.nodup_cons, List.mem_map, List.mem_cons, not_exists,
    not_and, not_or, forall_eq_or_imp]
  constructor
  · rintro ⟨⟨others, distinct⟩, unseen, unseenLater⟩
    exact ⟨unseen, distinct, fun other member => ⟨others other member, unseenLater other member⟩⟩
  · rintro ⟨unseen, distinct, later⟩
    exact ⟨⟨fun other member => (later other member).1, distinct⟩, unseen,
      fun other member => (later other member).2⟩

theorem Fresh.tag_ne {seen : List UInt32} {tag : UInt32} {sources : List RegisteredSection}
    (fresh : Fresh (tag :: seen) sources) : ∀ source ∈ sources, source.tag ≠ tag := by
  intro source member same
  exact fresh.2 source member (by simp [same])

theorem Fresh.perm {sources reordered : List RegisteredSection} {seen : List UInt32}
    (fresh : Fresh seen sources) (perm : sources.Perm reordered) : Fresh seen reordered :=
  ⟨(perm.map _).nodup_iff.mp fresh.1, fun source member => fresh.2 source (perm.mem_iff.mpr member)⟩

/--
Sections one after the other are read if no tag occurs twice, and the result holds their contents
under their tags.
-/
theorem Reader.sectionsInto_eq_ok_iff {types : TypeTable} {blueprints : Blueprints}
    {sections : List RegisteredSection} (readable : Readable blueprints sections)
    {parts : List (List UInt8)} {sources : List RegisteredSection}
    (forms : List.Forall₂ (IsForm types blueprints sections) parts sources) {seen : List UInt32}
    {rest : List UInt8} {position : Nat} {ending : Ending} {results : List RegisteredSection}
    {after : Source} :
    sectionsInto types blueprints seen sections parts.length
        ⟨parts.flatten ++ rest, position, 0, ending⟩ = .ok results after ↔
      Fresh seen sources ∧ results = filled sources sections ∧
        after = ⟨rest, position + parts.flatten.length, 0, ending⟩ := by
  induction parts generalizing sources sections seen position with
  | nil =>
      cases forms
      have unchanged : filled [] sections = sections := by
        simp [filled]
      rw [List.length_nil, sectionsInto, pure_eq_ok, unchanged]
      simp [Fresh, eq_comm]
  | cons part parts ih =>
      cases forms with
      | @cons _ source _ sources form forms =>
          rcases form with ⟨registered, member, tagEq, payload, rfl, takes⟩
          have found : sections.find? (·.tag == source.tag) = some registered :=
            (find?_eq_some_iff_of_distinct readable.distinct).mpr ⟨member, tagEq⟩
          have sameOutline := readable.outline_replace found
            (reset_of_sectionContent_takes (readable.equipped registered member) takes)
          have later := @ih (replaceContent source.tag source.content sections)
            (readable.of_outline_eq sameOutline) sources
            (forms.imp fun _ _ form => form.of_outline_eq sameOutline.symm) (source.tag :: seen)
          have tagTakes : u32.Takes 0 (toLittleEndian 4 source.tag.toNat) source.tag :=
            u32_takes_iff.mpr rfl
          rw [List.length_cons, sectionsInto, List.flatten_cons, List.append_assoc,
            List.append_assoc, tagTakes.bind_eq, fresh_cons_iff]
          by_cases repeated : source.tag ∈ seen
          · have contained : seen.contains source.tag = true := by
              simpa using repeated
            simp only [contained, if_true]
            constructor
            · intro impossible
              cases impossible
            · rintro ⟨⟨unseen, _⟩, _⟩
              exact absurd repeated unseen
          · have notContained : seen.contains source.tag = false := by
              simpa using repeated
            simp only [notContained, found, Bool.false_eq_true, if_false]
            rw [takes.bind_eq, later, and_iff_right repeated]
            refine and_congr_right fun fresh => ?_
            rw [filled_cons fresh.tag_ne]
            simp [Nat.add_assoc]

/-- The sections that were read are forms of sections, one after the other. -/
theorem Reader.exists_forms_of_sectionsInto_eq_ok {types : TypeTable} {blueprints : Blueprints}
    {sections : List RegisteredSection} (readable : Readable blueprints sections) {count : Nat}
    {seen : List UInt32} {source after : Source} {results : List RegisteredSection}
    (outside : source.depth = 0)
    (success : sectionsInto types blueprints seen sections count source = .ok results after) :
    ∃ parts : List (List UInt8), parts.length = count ∧
      source.rest = parts.flatten ++ after.rest ∧
      ∀ part ∈ parts, ∃ form, IsForm types blueprints sections part form := by
  induction count generalizing seen sections source with
  | zero =>
      rcases pure_eq_ok.mp success with ⟨_, rfl⟩
      exact ⟨[], rfl, rfl, fun _ member => absurd member List.not_mem_nil⟩
  | succ count ih =>
      rcases sectionsInto_succ_eq_ok success with
        ⟨tag, registered, content, between, last, tagRead, _, found, contentRead, others⟩
      rcases (find?_eq_some_iff_of_distinct readable.distinct).mp found with ⟨member, rfl⟩
      have equipped := readable.equipped registered member
      rcases Regular.u32.takes_of_ok tagRead with ⟨front, tagTakes, tagSplit, betweenEq⟩
      rcases (Regular.sectionContent equipped).takes_of_ok contentRead with
        ⟨payload, takes, payloadSplit, lastEq⟩
      have betweenOutside : between.depth = 0 := by
        rw [betweenEq]
        exact outside
      rw [betweenOutside] at takes
      have alike := reset_of_sectionContent_takes equipped takes
      have sameOutline := readable.outline_replace found alike
      have lastOutside : last.depth = 0 := by
        rw [lastEq]
        exact betweenOutside
      rcases ih (readable.of_outline_eq sameOutline) lastOutside others with
        ⟨parts, lengthEq, rest, forms⟩
      refine ⟨(front ++ payload) :: parts, by simp [lengthEq], ?_, ?_⟩
      · rw [tagSplit, payloadSplit, rest]
        simp
      · intro part partMember
        rcases List.mem_cons.mp partMember with rfl | later
        · rw [u32_takes_iff.mp tagTakes]
          exact ⟨_, .of_takes member equipped takes⟩
        · rcases forms part later with ⟨form, isForm⟩
          exact ⟨form, isForm.of_outline_eq sameOutline⟩

theorem exists_forall₂_of_forall_exists {Item Other : Type} {relation : Item → Other → Prop}
    {items : List Item} (related : ∀ item ∈ items, ∃ other, relation item other) :
    ∃ others, List.Forall₂ relation items others := by
  induction items with
  | nil => exact ⟨[], .nil⟩
  | cons item items ih =>
      rcases related item List.mem_cons_self with ⟨other, here⟩
      rcases ih fun later member => related later (List.mem_cons_of_mem item member) with
        ⟨others, rest⟩
      exact ⟨other :: others, .cons here rest⟩

/-! ## Streams of sections -/

/-- A stream that begins with a number of sections and these sections. -/
def streamOf (count : Int32) (parts : List (List UInt8)) : List UInt8 :=
  toLittleEndian 4 count.toUInt32.toNat ++ parts.flatten

/--
The bytes are the tag of one of a profile's sections and what this section consumes as its payload,
somewhere in a stream.
-/
def Profile.IsSection (profile : Profile) (part : List UInt8) : Prop :=
  ∃ registered ∈ profile.sections,
    ∃ payload, part = toLittleEndian 4 registered.tag.toNat ++ payload ∧
      ∃ position tail ending content,
        Reader.sectionContent profile.types profile.blueprints registered.content
            ⟨payload ++ tail, position, 0, ending⟩ =
          .ok content ⟨tail, position + payload.length, 0, ending⟩

namespace Profile

variable {profile : Profile}

/-- What a section consumes in one place it consumes everywhere. -/
theorem isSection_iff (assembled : profile.Assembled) {part : List UInt8} :
    profile.IsSection part ↔
      ∃ source, IsForm profile.types profile.blueprints (outline profile.sections) part source := by
  have sameOutline := outline_outline profile.sections
  constructor
  · rintro ⟨registered, member, payload, partEq, _, _, _, content, success⟩
    have equipped := assembled.equipped registered member
    have takes := (Reader.Regular.sectionContent equipped).takes_of_eq_ok success
    rw [partEq]
    exact ⟨_, .of_outline_eq sameOutline.symm (.of_takes member equipped takes)⟩
  · rintro ⟨source, form⟩
    rcases form.of_outline_eq sameOutline with ⟨registered, member, tagEq, payload, partEq, takes⟩
    refine ⟨registered, member, payload, ?_, 0, [], .endOfBytes, source.content, takes 0 [] _⟩
    rw [partEq, tagEq]

theorem sectionCount_streamOf_eq_ok_iff {count : Int32} {parts : List (List UInt8)}
    (countEq : count.toInt = parts.length) {registered number : Nat} {rest : List UInt8}
    {between : Source} :
    Reader.sectionCount registered (.ofBytes (streamOf count parts ++ rest)) = .ok number between ↔
      parts.length ≤ registered ∧ number = parts.length ∧
        between = ⟨parts.flatten ++ rest, 4, 0, .endOfBytes⟩ := by
  have countTakes : Reader.i32.Takes 0 (toLittleEndian 4 count.toUInt32.toNat) count :=
    Reader.i32_takes_iff.mpr rfl
  have nonnegative : ¬count < 0 := by
    rw [Int32.lt_iff_toInt_lt, countEq, Int32.toInt_zero]
    omega
  rw [Reader.sectionCount, Source.ofBytes, streamOf, List.append_assoc, countTakes.bind_eq,
    if_neg nonnegative, countEq, Int.toNat_natCast, length_toLittleEndian]
  by_cases within : parts.length ≤ registered
  · rw [if_neg (Nat.not_lt.mpr within), Reader.pure_eq_ok, and_iff_right within]
    simp [eq_comm]
  · rw [if_pos (Nat.not_le.mp within)]
    constructor
    · intro impossible
      cases impossible
    · rintro ⟨few, _⟩
      exact absurd few within

/-- What is read from a stream of sections depends on what they hold, and not on their order. -/
theorem readAll_streamOf_eq_ok_iff (assembled : profile.Assembled) {count : Int32}
    {parts : List (List UInt8)} {sources : List RegisteredSection} {rest : List UInt8}
    (countEq : count.toInt = parts.length)
    (forms : List.Forall₂
      (IsForm profile.types profile.blueprints (outline profile.sections)) parts sources)
    {loaded : Profile} {left : Source} :
    profile.readAll (.ofBytes (streamOf count parts ++ rest)) = (.ok (), loaded, left) ↔
      parts.length ≤ profile.sections.length ∧ Fresh [] sources ∧
        loaded = profile.receive sources ∧ loaded.checkReferences = .ok () ∧
        left = ⟨rest, 4 + parts.flatten.length, 0, .endOfBytes⟩ := by
  have readable := assembled.readable.of_outline_eq (outline_outline profile.sections)
  rw [readAll_eq_ok_iff, reader_eq_ok_iff]
  constructor
  · rintro ⟨number, between, sections, counted, sectionsRead, rfl, resolved⟩
    rcases (sectionCount_streamOf_eq_ok_iff countEq).mp counted with ⟨within, rfl, rfl⟩
    rcases (Reader.sectionsInto_eq_ok_iff readable forms).mp sectionsRead with ⟨fresh, rfl, rfl⟩
    exact ⟨within, fresh, rfl, resolved, rfl⟩
  · rintro ⟨within, fresh, rfl, resolved, rfl⟩
    exact ⟨_, _, _, (sectionCount_streamOf_eq_ok_iff countEq).mpr ⟨within, rfl, rfl⟩,
      (Reader.sectionsInto_eq_ok_iff readable forms).mpr ⟨fresh, rfl, rfl⟩, rfl, resolved⟩

/-- An accepted stream consists of a number of sections, these sections, and what was not read. -/
theorem exists_streamOf_of_readAll_eq_ok (assembled : profile.Assembled) {bytes : List UInt8}
    {loaded : Profile} {left : Source}
    (accepted : profile.readAll (.ofBytes bytes) = (.ok (), loaded, left)) :
    ∃ (count : Int32) (parts : List (List UInt8)), count.toInt = parts.length ∧
      (∀ part ∈ parts, profile.IsSection part) ∧ bytes = streamOf count parts ++ left.rest := by
  have readable := assembled.readable.of_outline_eq (outline_outline profile.sections)
  rcases reader_eq_ok_iff.mp (readAll_eq_ok_iff.mp accepted) with
    ⟨number, between, sections, counted, sectionsRead, _⟩
  rcases Reader.bind_eq_ok.mp counted with ⟨count, _, countRead, numberChecked⟩
  rcases Reader.Regular.i32.takes_of_ok countRead with ⟨front, countTakes, countSplit, countedEq⟩
  split at numberChecked
  · cases numberChecked
  · rename_i nonnegative
    split at numberChecked
    · cases numberChecked
    · rcases Reader.pure_eq_ok.mp numberChecked with ⟨rfl, rfl⟩
      have outside := congrArg Source.depth countedEq
      rcases Reader.exists_forms_of_sectionsInto_eq_ok readable outside sectionsRead with
        ⟨parts, lengthEq, rest, forms⟩
      refine ⟨count, parts, ?_, ?_, ?_⟩
      · rw [Int32.lt_iff_toInt_lt, Int32.toInt_zero] at nonnegative
        omega
      · intro part member
        exact (isSection_iff assembled).mpr (forms part member)
      · have whole : bytes = front ++ _ := countSplit
        rw [whole, rest, streamOf, Reader.i32_takes_iff.mp countTakes, List.append_assoc]

/-- Any order of the sections is accepted if one of them is, and gives the same profile. -/
theorem readAll_streamOf_perm (assembled : profile.Assembled) {count : Int32}
    {parts reordered : List (List UInt8)} {rest : List UInt8}
    (countEq : count.toInt = parts.length) (areSections : ∀ part ∈ parts, profile.IsSection part)
    (perm : reordered.Perm parts) {loaded : Profile} {left : Source}
    (accepted : profile.readAll (.ofBytes (streamOf count parts ++ rest)) =
      (.ok (), loaded, left)) :
    profile.readAll (.ofBytes (streamOf count reordered ++ rest)) = (.ok (), loaded, left) := by
  have formsExist : ∀ part ∈ parts, ∃ source,
      IsForm profile.types profile.blueprints (outline profile.sections) part source := by
    intro part member
    exact (isSection_iff assembled).mp (areSections part member)
  rcases exists_forall₂_of_forall_exists formsExist with ⟨sources, forms⟩
  rcases List.perm_comp_forall₂ perm forms with ⟨reorderedSources, reorderedForms, samePerm⟩
  have sameLength := perm.length_eq
  rcases (readAll_streamOf_eq_ok_iff assembled countEq forms).mp accepted with
    ⟨within, fresh, loadedEq, resolved, leftEq⟩
  rw [readAll_streamOf_eq_ok_iff assembled (by rw [countEq, sameLength]) reorderedForms, sameLength,
    perm.flatten.length_eq]
  refine ⟨within, fresh.perm samePerm.symm, ?_, resolved, leftEq⟩
  rw [loadedEq, receive, receive, Reader.filled_perm samePerm.symm fresh.1]

end Profile

/--
The sections of an accepted stream commute. The stream is a number of sections, these sections and
what was not read of it; and however the sections are ordered under this number, the stream is
accepted, leaves the same rest and gives the same profile.
-/
theorem Assembly.readAll_reordered {assembly : Assembly} {profile loaded : Profile} {left : Source}
    {bytes : List UInt8} (built : assembly.build = .ok profile)
    (accepted : profile.readAll (.ofBytes bytes) = (.ok (), loaded, left)) :
    (∃ (count : Int32) (parts : List (List UInt8)), count.toInt = parts.length ∧
      (∀ part ∈ parts, profile.IsSection part) ∧ bytes = streamOf count parts ++ left.rest) ∧
    ∀ (count : Int32) (parts : List (List UInt8)) (rest : List UInt8),
      count.toInt = parts.length → (∀ part ∈ parts, profile.IsSection part) →
      bytes = streamOf count parts ++ rest → ∀ reordered, reordered.Perm parts →
        profile.readAll (.ofBytes (streamOf count reordered ++ rest)) = (.ok (), loaded, left) := by
  have assembled := assembled_of_build_eq built
  constructor
  · exact Profile.exists_streamOf_of_readAll_eq_ok assembled accepted
  · rintro count parts rest countEq areSections rfl reordered perm
    exact Profile.readAll_streamOf_perm assembled countEq areSections perm accepted

/-! ## A list of elements before and after the table that it refers to -/

/-- True if a section consumes all of a payload that stands at the beginning of a stream. -/
def Profile.consumes (profile : Profile) (payload : List UInt8) (registered : RegisteredSection) :
    Bool :=
  match Reader.sectionContent profile.types profile.blueprints registered.content
      (.ofBytes payload) with
  | .ok _ after => after = ⟨[], payload.length, 0, .endOfBytes⟩
  | .error _ _ => false

theorem Profile.isSection_of_any {profile : Profile} {tag : UInt32} {payload : List UInt8}
    (found : profile.sections.any (fun registered =>
      registered.tag == tag && profile.consumes payload registered) = true) :
    profile.IsSection (toLittleEndian 4 tag.toNat ++ payload) := by
  rcases List.any_eq_true.mp found with ⟨registered, member, both⟩
  simp only [Bool.and_eq_true, beq_iff_eq, consumes] at both
  rcases both with ⟨rfl, consumed⟩
  refine ⟨registered, member, payload, rfl, ?_⟩
  cases outcome : Reader.sectionContent profile.types profile.blueprints registered.content
      (.ofBytes payload) with
  | error failure after => simp [outcome] at consumed
  | ok content after =>
      simp only [outcome, decide_eq_true_eq] at consumed
      refine ⟨0, [], .endOfBytes, content, ?_⟩
      rw [List.append_nil, Nat.zero_add, ← consumed]
      exact outcome

/-- A table of one descriptor. -/
def tablePart : List UInt8 := toLittleEndian 4 0x63b2554d ++ [1, 1, 0x78, 1]

/-- A list of one method, which refers to the first descriptor and has no digest. -/
def methodPart : List UInt8 := toLittleEndian 4 0x705f3f3a ++ [1, 0, 0]

theorem Assembly.readAll_reordered_tablePart :
    ∃ profile loaded left, (ofConfig .standard).build = .ok profile ∧
      profile.readAll (.ofBytes (streamOf 2 [methodPart, tablePart])) = (.ok (), loaded, left) ∧
      profile.readAll (.ofBytes (streamOf 2 [tablePart, methodPart])) =
        (.ok (), loaded, left) := by
  have evaluated : (match (ofConfig .standard).build with
      | .error _ => false
      | .ok profile =>
          profile.sections.any (fun registered =>
            registered.tag == 0x63b2554d && profile.consumes [1, 1, 0x78, 1] registered) &&
          profile.sections.any (fun registered =>
            registered.tag == 0x705f3f3a && profile.consumes [1, 0, 0] registered) &&
          match profile.readAll (.ofBytes (streamOf 2 [methodPart, tablePart])) with
          | (.ok _, _, _) => true
          | (.error _, _, _) => false) = true := by
    decide +kernel
  cases built : (ofConfig .standard).build with
  | error failure => simp [built] at evaluated
  | ok profile =>
      rcases outcome : profile.readAll (.ofBytes (streamOf 2 [methodPart, tablePart])) with
        ⟨result, loaded, left⟩
      simp only [built, outcome, Bool.and_eq_true] at evaluated
      rcases evaluated with ⟨⟨table, method⟩, succeeded⟩
      cases result with
      | error failure => cases succeeded
      | ok nothing =>
          refine ⟨profile, loaded, left, rfl, outcome, ?_⟩
          have areSections : ∀ part ∈ [methodPart, tablePart], profile.IsSection part := by
            intro part member
            rcases List.mem_cons.mp member with rfl | later
            · exact Profile.isSection_of_any method
            · rw [List.mem_singleton.mp later]
              exact Profile.isSection_of_any table
          have again := (readAll_reordered built outcome).2 2 [methodPart, tablePart] [] (by decide)
            areSections (List.append_nil _).symm [tablePart, methodPart] (.swap _ _ [])
          rwa [List.append_nil] at again

end Resemblance
