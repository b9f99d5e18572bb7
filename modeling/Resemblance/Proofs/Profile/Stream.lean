import Resemblance.Proofs.Profile.Coherence

/-!
# Profiles in a stream

Reading the sections of a profile keeps their outline and fills them one after the other. A reader
is regular once each of its sections of elements has a blueprint. What a writer stores is taken by
every reader that has sections of the same names, with the same blueprints, and fills exactly these
sections; a reader that lacks one of the sections refuses the stream.
-/

namespace Resemblance

/-- A reader can tell the sections apart and knows how to read each of them. -/
structure Readable (blueprints : Blueprints) (sections : List RegisteredSection) : Prop where
  /-- No two sections have one tag. -/
  distinct : (sections.map (·.tag)).Nodup
  equipped : ∀ registered ∈ sections, registered.content.Equipped blueprints

theorem Readable.of_outline_eq {blueprints : Blueprints} {sections others : List RegisteredSection}
    (readable : Readable blueprints sections) (same : outline others = outline sections) :
    Readable blueprints others where
  distinct := by
    rw [tags_eq_of_outline_eq same]
    exact readable.distinct
  equipped := by
    intro registered member
    rcases exists_of_outline_eq same member with ⟨original, originalMember, alike⟩
    rw [← Section.equipped_reset_iff, ← content_reset_eq alike, Section.equipped_reset_iff]
    exact readable.equipped original originalMember

theorem Profile.Assembled.readable {profile : Profile} (assembled : profile.Assembled) :
    Readable profile.blueprints profile.sections :=
  ⟨assembled.distinct, assembled.equipped⟩

@[simp]
theorem outline_outline (sections : List RegisteredSection) :
    outline (outline sections) = outline sections := by
  simp [outline, RegisteredSection.reset]

theorem Reader.outline_replaceContent {tag : UInt32} {read : Section}
    {sections : List RegisteredSection}
    (alike : ∀ registered ∈ sections, registered.tag = tag →
      registered.content.reset = read.reset) :
    outline (replaceContent tag read sections) = outline sections := by
  rw [outline, outline, replaceContent, List.map_map]
  apply List.map_congr_left
  intro registered member
  by_cases here : registered.tag = tag
  · have same := alike registered member here
    simp [here, RegisteredSection.reset, same]
  · simp [here]

/-- What was read for the section found under a tag replaces no other section. -/
theorem outline_replaceContent_of_find? {sections : List RegisteredSection}
    (distinct : (sections.map (·.tag)).Nodup) {tag : UInt32} {registered : RegisteredSection}
    (found : sections.find? (·.tag == tag) = some registered) {read : Section}
    (alike : read.reset = registered.content.reset) :
    outline (Reader.replaceContent tag read sections) = outline sections := by
  have member := List.mem_of_find?_eq_some found
  have tagEq : registered.tag = tag := by
    simpa using List.find?_some found
  apply Reader.outline_replaceContent
  intro other otherMember otherTag
  have same := List.inj_on_of_nodup_map distinct otherMember member
    (otherTag.trans tagEq.symm)
  rw [same, alike]

/-- A section that was found under a tag may be replaced by what was read for it. -/
theorem Readable.outline_replace {blueprints : Blueprints} {sections : List RegisteredSection}
    (readable : Readable blueprints sections) {tag : UInt32} {registered : RegisteredSection}
    (found : sections.find? (·.tag == tag) = some registered) {read : Section}
    (alike : read.reset = registered.content.reset) :
    outline (Reader.replaceContent tag read sections) = outline sections :=
  outline_replaceContent_of_find? readable.distinct found alike

namespace Reader

/-! ## Regularity -/

theorem Regular.sectionCount (registered : Nat) : (sectionCount registered).Regular := by
  apply Regular.i32.bind
  intro count
  split
  · exact .fail (.negativeSectionCount count)
  · split
    · exact .fail (.tooManySections count registered)
    · exact .pure count.toInt.toNat

theorem Regular.sectionsInto {types : TypeTable} {blueprints : Blueprints}
    {sections : List RegisteredSection} (readable : Readable blueprints sections)
    (seen : List UInt32) (count : Nat) :
    (sectionsInto types blueprints seen sections count).Regular := by
  induction count generalizing seen sections with
  | zero => exact .pure sections
  | succ count ih =>
      apply Regular.u32.bind
      intro tag
      split
      · exact .fail (.repeatedSection tag)
      · split
        · exact .fail (.unknownSection tag)
        · rename_i registered found
          have equipped := readable.equipped registered (List.mem_of_find?_eq_some found)
          apply (Regular.sectionContent equipped).bind_of
          intro depth bytes read takes
          have alike := reset_of_sectionContent_takes equipped takes
          exact ih (readable.of_outline_eq (readable.outline_replace found alike)) (tag :: seen)

/-- What the reading of one more section is made of. -/
theorem sectionsInto_succ_eq_ok {types : TypeTable} {blueprints : Blueprints} {seen : List UInt32}
    {sections results : List RegisteredSection} {count : Nat} {source after : Source}
    (success : sectionsInto types blueprints seen sections (count + 1) source = .ok results after) :
    ∃ tag registered read between later, u32 source = .ok tag between ∧ tag ∉ seen ∧
      sections.find? (·.tag == tag) = some registered ∧
      sectionContent types blueprints registered.content between = .ok read later ∧
      sectionsInto types blueprints (tag :: seen) (replaceContent tag read sections) count later =
        .ok results after := by
  rcases bind_eq_ok.mp success with ⟨tag, between, tagRead, afterTag⟩
  split at afterTag
  · cases afterTag
  · rename_i unseen
    cases found : sections.find? (·.tag == tag) with
    | none =>
        simp only [found] at afterTag
        cases afterTag
    | some registered =>
        simp only [found] at afterTag
        rcases bind_eq_ok.mp afterTag with ⟨read, later, contentRead, others⟩
        exact ⟨tag, registered, read, between, later, tagRead, by simpa using unseen, found,
          contentRead, others⟩

/--
Reading keeps the outline of the sections, and what holds of their contents and of everything that
is read for a section holds of the contents afterwards.
-/
theorem of_sectionsInto_eq_ok {types : TypeTable} {blueprints : Blueprints}
    (property : Section → Prop) {depth : Nat}
    (each : ∀ {content bytes read}, content.Equipped blueprints → property content →
      (sectionContent types blueprints content).Takes depth bytes read → property read)
    {seen : List UInt32} {sections results : List RegisteredSection} {count : Nat}
    {source after : Source} (depthEq : source.depth = depth)
    (readable : Readable blueprints sections)
    (holds : ∀ registered ∈ sections, property registered.content)
    (success : sectionsInto types blueprints seen sections count source = .ok results after) :
    outline results = outline sections ∧ ∀ registered ∈ results, property registered.content := by
  induction count generalizing seen sections source with
  | zero =>
      rcases pure_eq_ok.mp success with ⟨rfl, _⟩
      exact ⟨rfl, holds⟩
  | succ count ih =>
      rcases sectionsInto_succ_eq_ok success with
        ⟨tag, registered, read, between, later, tagRead, _, found, contentRead, others⟩
      have member := List.mem_of_find?_eq_some found
      have equipped := readable.equipped registered member
      rcases Regular.u32.takes_of_ok tagRead with ⟨_, _, _, betweenEq⟩
      rcases (Regular.sectionContent equipped).takes_of_ok contentRead with
        ⟨_, readTakes, _, laterEq⟩
      have betweenDepth : between.depth = depth := by
        rw [betweenEq]
        exact depthEq
      have laterDepth : later.depth = depth := by
        rw [laterEq]
        exact betweenDepth
      have sameOutline := readable.outline_replace found
        (reset_of_sectionContent_takes equipped readTakes)
      rw [betweenDepth] at readTakes
      have read_holds : property read := each equipped (holds registered member) readTakes
      have replaced : ∀ other ∈ replaceContent tag read sections, property other.content := by
        intro other otherMember
        rcases List.mem_map.mp otherMember with ⟨original, originalMember, rfl⟩
        split
        · exact read_holds
        · exact holds original originalMember
      have rest := ih laterDepth (readable.of_outline_eq sameOutline) replaced others
      rwa [sameOutline] at rest

/-! ## Stored sections -/

/-- The sections with the contents of those that are stored under their tags. -/
def filled (stored sections : List RegisteredSection) : List RegisteredSection :=
  sections.map fun registered =>
    match stored.find? (·.tag == registered.tag) with
    | some source => { registered with content := source.content }
    | none => registered

/-- What a stream of stored sections does to a reader's sections does not depend on the order. -/
theorem filled_cons {first : RegisteredSection} {stored sections : List RegisteredSection}
    (fresh : ∀ later ∈ stored, later.tag ≠ first.tag) :
    filled (first :: stored) sections =
      filled stored (replaceContent first.tag first.content sections) := by
  rw [filled, filled, replaceContent, List.map_map]
  apply List.map_congr_left
  intro registered _
  by_cases here : registered.tag = first.tag
  · have replacedTag : ({ registered with content := first.content } : RegisteredSection).tag =
        first.tag := rfl
    have absent : stored.find? (·.tag == first.tag) = none := by
      rw [List.find?_eq_none]
      intro later member
      simpa using fresh later member
    simp [here, replacedTag, absent]
  · simp [here, Ne.symm here]

end Reader

/-- Sections stored with the writer's blueprints suit a reader with blueprints of its own. -/
structure Suits (types : TypeTable) (writer : Blueprints) (stored : List RegisteredSection)
    (reader : Blueprints) (sections : List RegisteredSection) : Prop where
  /-- The stored sections survive in a stream. -/
  storable : ∀ source ∈ stored, source.content.Storable types writer
  /-- No two stored sections have one tag. -/
  distinct : (stored.map (·.tag)).Nodup
  /-- The reader keeps sections of the same names under the tags of the stored sections. -/
  alike : ∀ source ∈ stored, ∀ registered ∈ sections, registered.tag = source.tag →
    registered.content.reset = source.content.reset
  /-- The reader has the same blueprints for the stored kinds that it has sections for. -/
  agree : ∀ source ∈ stored, source.tag ∈ sections.map (·.tag) →
    ∀ list, source.content = .elements list → reader.get? list.kind = writer.get? list.kind

namespace Suits

variable {types : TypeTable} {writer reader : Blueprints} {first : RegisteredSection}
  {stored sections : List RegisteredSection}

theorem outline_filled (suits : Suits types writer stored reader sections) :
    outline (Reader.filled stored sections) = outline sections := by
  rw [outline, outline, Reader.filled, List.map_map]
  apply List.map_congr_left
  intro registered member
  cases found : stored.find? (·.tag == registered.tag) with
  | none => simp [found]
  | some source =>
      have tagEq : source.tag = registered.tag := by
        simpa using List.find?_some found
      have same := suits.alike source (List.mem_of_find?_eq_some found) registered member tagEq.symm
      simp [found, RegisteredSection.reset, same]

theorem outline_replace (suits : Suits types writer (first :: stored) reader sections) :
    outline (Reader.replaceContent first.tag first.content sections) = outline sections :=
  Reader.outline_replaceContent (suits.alike first List.mem_cons_self)

/-- After the first section was read, the others still suit the reader. -/
theorem rest (suits : Suits types writer (first :: stored) reader sections) :
    Suits types writer stored reader
      (Reader.replaceContent first.tag first.content sections) where
  storable := fun source member => suits.storable source (List.mem_cons_of_mem first member)
  distinct := (List.nodup_cons.mp suits.distinct).2
  agree := by
    rw [tags_eq_of_outline_eq suits.outline_replace]
    intro source member
    exact suits.agree source (List.mem_cons_of_mem first member)
  alike := by
    intro source member registered registeredMember tagEq
    rcases exists_of_outline_eq suits.outline_replace registeredMember with
      ⟨original, originalMember, same⟩
    have originalTag : original.tag = source.tag := by
      rw [← original.tag_reset, same, registered.tag_reset, tagEq]
    rw [← content_reset_eq same]
    exact suits.alike source (List.mem_cons_of_mem first member) original originalMember originalTag

/-- The content of a stored section is exchanged with the reader's section of the same tag. -/
theorem exchange_content (suits : Suits types writer (first :: stored) reader sections)
    {registered : RegisteredSection}
    (found : sections.find? (·.tag == first.tag) = some registered) :
    Exchange (Writer.sectionContent types writer first.content)
      (Reader.sectionContent types reader registered.content) 0 first.content := by
  have member := List.mem_of_find?_eq_some found
  have tagEq : registered.tag = first.tag := by
    simpa using List.find?_some found
  have alike := suits.alike first List.mem_cons_self registered member tagEq
  rw [← Reader.sectionContent_reset types reader registered.content, alike,
    Reader.sectionContent_reset]
  apply Exchange.sectionContent (suits.storable first List.mem_cons_self)
  apply suits.agree first List.mem_cons_self
  exact List.mem_map.mpr ⟨registered, member, tagEq⟩

end Suits

theorem mem_tags_iff_exists_find?_eq {tag : UInt32} {sections : List RegisteredSection} :
    tag ∈ sections.map (·.tag) ↔
      ∃ registered, sections.find? (·.tag == tag) = some registered := by
  rw [← Option.isSome_iff_exists, List.find?_isSome]
  simp

/-- Stored sections are exchanged with a reader that has sections for all of them. -/
theorem Exchange.sectionsInto {types : TypeTable} {writer reader : Blueprints}
    {stored sections : List RegisteredSection} {seen : List UInt32}
    (suits : Suits types writer stored reader sections)
    (fresh : ∀ source ∈ stored, source.tag ∉ seen)
    (present : ∀ source ∈ stored, source.tag ∈ sections.map (·.tag)) :
    Exchange (Writer.each (Writer.registeredSection types writer) stored)
      (Reader.sectionsInto types reader seen sections stored.length) 0
      (Reader.filled stored sections) := by
  induction stored generalizing seen sections with
  | nil =>
      have unchanged : Reader.filled [] sections = sections := by
        simp [Reader.filled]
      rw [unchanged]
      exact .pure sections
  | cons first stored ih =>
      have unseen : seen.contains first.tag = false := by
        simpa using fresh first List.mem_cons_self
      rcases mem_tags_iff_exists_find?_eq.mp (present first List.mem_cons_self) with
        ⟨registered, found⟩
      have others : ∀ source ∈ stored, source.tag ≠ first.tag := by
        intro source member same
        apply (List.nodup_cons.mp suits.distinct).1
        exact List.mem_map.mpr ⟨source, member, same⟩
      have freshLater : ∀ source ∈ stored, source.tag ∉ first.tag :: seen := by
        intro source member seenBefore
        rcases List.mem_cons.mp seenBefore with same | old
        · exact others source member same
        · exact fresh source (List.mem_cons_of_mem first member) old
      have presentLater : ∀ source ∈ stored, source.tag ∈
          (Reader.replaceContent first.tag first.content sections).map (·.tag) := by
        intro source member
        rw [tags_eq_of_outline_eq suits.outline_replace]
        exact present source (List.mem_cons_of_mem first member)
      have later := ih suits.rest freshLater presentLater
      rw [Reader.filled_cons others]
      simp only [Writer.each, Writer.registeredSection, bind_assoc]
      apply (u32 first.tag 0).bind
      simp only [unseen, found]
      exact (suits.exchange_content found).bind later

namespace Writer

theorem Emits.each {Item : Type} {write : Item → Writer Unit} {items : List Item}
    (emits : ∀ item ∈ items, ∃ bytes, (write item).Emits bytes) :
    ∃ bytes, (each write items).Emits bytes := by
  induction items with
  | nil => exact ⟨[], .pure⟩
  | cons item items ih =>
      rcases emits item List.mem_cons_self with ⟨front, frontEmits⟩
      rcases ih fun other member => emits other (List.mem_cons_of_mem item member) with
        ⟨back, backEmits⟩
      exact ⟨front ++ back, frontEmits.bind backEmits⟩

/-- Stored sections are written, whoever may read them. -/
theorem exists_emits_registeredSection {types : TypeTable} {blueprints : Blueprints}
    {source : RegisteredSection} (storable : source.content.Storable types blueprints) :
    ∃ bytes, (registeredSection types blueprints source).Emits bytes := by
  rcases Exchange.u32 source.tag 0 with ⟨front, tagEmits, _⟩
  rcases Exchange.sectionContent storable fun _ _ => rfl with ⟨back, contentEmits, _⟩
  exact ⟨front ++ back, tagEmits.bind contentEmits⟩

end Writer

/-- A reader that succeeds on stored sections has a section for each of them. -/
theorem Reader.present_of_sectionsInto_eq_ok {types : TypeTable} {writer reader : Blueprints}
    {stored sections : List RegisteredSection} {seen : List UInt32}
    (suits : Suits types writer stored reader sections) {bytes : List UInt8}
    (emits : (Writer.each (Writer.registeredSection types writer) stored).Emits bytes)
    {position : Nat} {ending : Ending} {results : List RegisteredSection} {after : Source}
    (success : sectionsInto types reader seen sections stored.length
      ⟨bytes, position, 0, ending⟩ = .ok results after) :
    ∀ source ∈ stored, source.tag ∈ sections.map (·.tag) := by
  induction stored generalizing seen sections bytes position with
  | nil => simp
  | cons first stored ih =>
      rcases Exchange.u32 first.tag 0 with ⟨front, tagEmits, tagTakes⟩
      rcases Writer.Emits.each fun source member =>
        Writer.exists_emits_registeredSection (suits.rest.storable source member) with
        ⟨back, backEmits⟩
      rcases Exchange.sectionContent (suits.storable first List.mem_cons_self) fun _ _ => rfl with
        ⟨middle, contentEmits, _⟩
      have split := emits.unique ((tagEmits.bind contentEmits).bind backEmits)
      rw [split, List.append_assoc, List.length_cons, sectionsInto, tagTakes.bind_eq] at success
      split at success
      · cases success
      · cases found : sections.find? (·.tag == first.tag) with
        | none =>
            simp only [found] at success
            cases success
        | some registered =>
            rcases suits.exchange_content found with ⟨content, readEmits, readTakes⟩
            have sameContent := contentEmits.unique readEmits
            simp only [found] at success
            rw [sameContent, readTakes.bind_eq] at success
            have later := ih suits.rest backEmits success
            rw [tags_eq_of_outline_eq suits.outline_replace] at later
            intro source member
            rcases List.mem_cons.mp member with rfl | other
            · exact mem_tags_iff_exists_find?_eq.mpr ⟨registered, found⟩
            · exact later source other

end Resemblance
