import Resemblance.Proofs.Profile.Receiving

/-!
# The round trip of a profile

A well-formed profile is written, and every profile with the same types and the same blueprints for
shared kinds reads the bytes if and only if it has a section of the same name for each section that
is stored. It then holds the stored contents under these names and nothing else, in whatever order
its own sections stand and whatever they held before.

Sections are recognized by the hashes of their names. The statement therefore excludes a reader that
keeps a section of another name under the tag of a stored one.
-/

namespace Resemblance

namespace Profile

theorem mem_kinds_iff {profile : Profile} {kind : Kind} :
    kind ∈ profile.kinds ↔
      ∃ registered ∈ profile.sections, ∃ list, registered.content = .elements list ∧
        list.kind = kind := by
  rw [kinds, List.mem_filterMap]
  refine exists_congr fun registered => and_congr_right fun _ => ?_
  cases content : registered.content <;> simp [kindOf?, content]

/-- The state of a profile that can be stored as a whole. -/
structure WellFormed (profile : Profile) : Prop extends profile.Coherent where
  /-- The stored sections are in order and keep within the limits of a reader. -/
  storable : ∀ source ∈ profile.stored, source.content.Storable profile.types profile.blueprints
  /-- Descriptors of elements are in the table. -/
  resolved : ∀ table, profile.descriptors = .ok table → ∀ source ∈ profile.stored, ∀ list,
    source.content = .elements list → ∀ element ∈ list.elements,
      element.descriptor.toNat < table.size
  /-- The number of stored sections can be written. -/
  few : (profile.stored.length : Int) ≤ Int32.maxValue.toInt

/-- No section of the reader has the tag of a stored section of another name. -/
def Apart (reader writer : Profile) : Prop :=
  ∀ source ∈ writer.stored, ∀ registered ∈ reader.sections, registered.tag = source.tag →
    registered.content.name = source.content.name

/-- Two profiles have the same blueprints for the kinds that both have elements of. -/
def SharesBlueprints (reader writer : Profile) : Prop :=
  ∀ kind ∈ reader.kinds, kind ∈ writer.kinds →
    reader.blueprints.get? kind = writer.blueprints.get? kind

namespace WellFormed

variable {writer reader : Profile}

theorem distinct_stored (wellFormed : writer.WellFormed) :
    (writer.stored.map (·.tag)).Nodup :=
  wellFormed.distinct.sublist (List.filter_sublist.map _)

theorem accommodates (wellFormed : writer.WellFormed) (apart : reader.Apart writer)
    (shares : reader.SharesBlueprints writer) : reader.Accommodates writer where
  storable := wellFormed.storable
  distinct := wellFormed.distinct_stored
  alike := by
    intro source member registered registeredMember tagEq
    rcases List.mem_map.mp registeredMember with ⟨original, originalMember, rfl⟩
    rw [original.tag_reset] at tagEq
    have nameEq := apart source member original originalMember tagEq
    have alike := Section.reset_eq_of_name_eq nameEq
    simpa [RegisteredSection.reset] using alike
  agree := by
    intro source member present list contentEq
    rw [tags_outline] at present
    rcases List.mem_map.mp present with ⟨original, originalMember, tagEq⟩
    have nameEq := apart source member original originalMember tagEq
    have alike := Section.reset_eq_of_name_eq nameEq
    have inReader : list.kind ∈ reader.kinds := by
      rw [mem_kinds_iff]
      rw [contentEq] at alike
      cases content : original.content with
      | elements other =>
          rw [content] at alike
          simp only [Section.reset, Section.elements.injEq, ElementList.empty,
            ElementList.mk.injEq] at alike
          exact ⟨original, originalMember, other, content, alike.1⟩
      | _ =>
          rw [content] at alike
          cases alike
    have inWriter : list.kind ∈ writer.kinds :=
      mem_kinds_iff.mpr ⟨source, (mem_stored_iff.mp member).1, list, contentEq, rfl⟩
    exact shares list.kind inReader inWriter

theorem accommodates_self (wellFormed : writer.WellFormed) : writer.Accommodates writer := by
  apply wellFormed.accommodates
  · intro source member registered registeredMember tagEq
    have same := List.inj_on_of_nodup_map wellFormed.distinct registeredMember
      (mem_stored_iff.mp member).1 tagEq
    rw [same]
  · intro kind _ _
    rfl

theorem exists_table_mem_stored (wellFormed : writer.WellFormed) :
    ∃ table, ⟨.runtime, .descriptors table⟩ ∈ writer.stored ∧ writer.descriptors = .ok table := by
  rcases wellFormed.table with ⟨table, member⟩
  exact ⟨table, mem_stored_iff.mpr ⟨member, rfl⟩, wellFormed.toCoherent.descriptors_eq member⟩

theorem check_eq_ok (wellFormed : writer.WellFormed) {table : DescriptorTable}
    (known : writer.descriptors = .ok table) {source : RegisteredSection}
    (member : source ∈ writer.stored) : source.content.check table.size = .ok () := by
  cases content : source.content with
  | elements list =>
      apply ElementList.checkDescriptors_eq_ok_iff.mpr
      exact wellFormed.resolved table known source member list content
  | _ => rfl

/-- A well-formed profile is exchanged with every reader that has sections for what is stored. -/
theorem exchange (wellFormed : writer.WellFormed) (coherent : reader.Coherent)
    (suits : reader.Accommodates writer) (sameTypes : reader.types = writer.types)
    (present : ∀ source ∈ writer.stored, source.tag ∈ reader.sections.map (·.tag)) :
    Exchange (Writer.profile writer) (Reader.profile reader) 0 (reader.receive writer.stored) := by
  rcases wellFormed.exists_table_mem_stored with ⟨table, tableMember, known⟩
  apply Exchange.profile suits sameTypes wellFormed.few present
  apply checkReferences_receive coherent suits tableMember present
  intro source member
  exact wellFormed.check_eq_ok known member

theorem exists_emits (wellFormed : writer.WellFormed) :
    ∃ bytes, (Writer.profile writer).Emits bytes := by
  have present : ∀ source ∈ writer.stored, source.tag ∈ writer.sections.map (·.tag) := by
    intro source member
    exact List.mem_map_of_mem (mem_stored_iff.mp member).1
  rcases wellFormed.exchange wellFormed.toCoherent wellFormed.accommodates_self rfl present with
    ⟨bytes, emits, _⟩
  exact ⟨bytes, emits⟩

theorem present_of_names {stored : List RegisteredSection}
    (names : ∀ source ∈ stored, ∃ registered ∈ reader.sections,
      registered.content.name = source.content.name) :
    ∀ source ∈ stored, source.tag ∈ reader.sections.map (·.tag) := by
  intro source member
  rcases names source member with ⟨registered, registeredMember, nameEq⟩
  exact List.mem_map.mpr ⟨registered, registeredMember, congrArg Hash.nameHash nameEq⟩

/-- Reading what was written either fails or gives what is received. -/
theorem readFrom_eq_ok (wellFormed : writer.WellFormed) (coherent : reader.Coherent)
    (suits : reader.Accommodates writer) (sameTypes : reader.types = writer.types)
    {bytes : List UInt8} (emits : (Writer.profile writer).Emits bytes)
    (present : ∀ source ∈ writer.stored, source.tag ∈ reader.sections.map (·.tag)) :
    reader.readFrom (.ofBytes bytes) =
      .ok (reader.receive writer.stored).adoptFlag.withoutSource := by
  rcases wellFormed.exchange coherent suits sameTypes present with ⟨written, writtenEmits, takes⟩
  rw [emits.unique writtenEmits]
  exact readFrom_of_takes takes

end WellFormed

/--
The round trip: the bytes of a well-formed profile are read exactly by the profiles that have all of
its stored sections, and what is read is what was stored.
-/
theorem roundTrip {writer reader : Profile} (wellFormed : writer.WellFormed)
    (coherent : reader.Coherent) (sameTypes : reader.types = writer.types)
    (shares : reader.SharesBlueprints writer) (apart : reader.Apart writer) :
    ∃ bytes, (Writer.profile writer).Emits bytes ∧
      ((∃ loaded, reader.readFrom (.ofBytes bytes) = .ok loaded) ↔
        ∀ source ∈ writer.stored, ∃ registered ∈ reader.sections,
          registered.content.name = source.content.name) ∧
      ∀ loaded, reader.readFrom (.ofBytes bytes) = .ok loaded →
        (∀ source ∈ writer.stored,
          loaded.content? source.content.name = some source.content) ∧
        (∀ registered ∈ reader.sections,
          (∀ source ∈ writer.stored, source.content.name ≠ registered.content.name) →
          loaded.content? registered.content.name = some registered.content.reset) ∧
        outline loaded.sections = outline reader.sections ∧
        loaded.isApplication =
          (match loaded.metadata? with
            | some metadata => metadata.isApplication
            | none => reader.isApplication) ∧
        loaded.source? = none := by
  have suits := wellFormed.accommodates apart shares
  rcases wellFormed.exists_emits with ⟨bytes, emits⟩
  refine ⟨bytes, emits, ⟨?_, ?_⟩, ?_⟩
  · rintro ⟨loaded, accepted⟩ source member
    have present := present_of_readFrom_eq_ok suits sameTypes wellFormed.few emits accepted
    rcases List.mem_map.mp (present source member) with ⟨registered, registeredMember, tagEq⟩
    exact ⟨registered, registeredMember, apart source member registered registeredMember tagEq⟩
  · intro names
    exact ⟨_, wellFormed.readFrom_eq_ok coherent suits sameTypes emits
      (WellFormed.present_of_names names)⟩
  · intro loaded accepted
    have present := present_of_readFrom_eq_ok suits sameTypes wellFormed.few emits accepted
    have loadedEq := wellFormed.readFrom_eq_ok coherent suits sameTypes emits present
    rw [accepted, Except.ok.injEq] at loadedEq
    have sectionsEq : loaded.sections = (reader.receive writer.stored).sections := by
      simp [loadedEq, withoutSource]
    have outlineEq : outline loaded.sections = outline reader.sections := by
      rw [sectionsEq, Profile.receive, suits.outline_filled, outline_outline]
    have loadedCoherent := coherent.of_outline_eq outlineEq
    refine ⟨?_, ?_, outlineEq, ?_, ?_⟩
    · intro source member
      rcases exists_mem_receive suits member (present source member) with ⟨retention, received⟩
      rw [← sectionsEq] at received
      have found := loadedCoherent.content?_eq received
      exact found
    · intro registered member names
      have absent : registered.tag ∉ writer.stored.map (·.tag) := by
        intro storedTag
        rcases List.mem_map.mp storedTag with ⟨source, sourceMember, tagEq⟩
        exact names source sourceMember
          (apart source sourceMember registered member tagEq.symm).symm
      have received := reset_mem_receive member absent
      rw [← sectionsEq] at received
      have found := loadedCoherent.content?_eq received
      simpa [RegisteredSection.reset] using found
    · rw [loadedEq]
      exact isApplication_adoptFlag (reader.receive writer.stored)
    · rw [loadedEq]
      rfl

/-! ## A profile with one kind of elements -/

/-- A profile with the elements of one kind. -/
def ofElements (blueprint : Blueprint) (descriptors : List (String × UInt32))
    (elements : List Element) : Profile where
  types := .standard
  strategy := .empty
  blueprints := ⟨[blueprint]⟩
  normalizers := .empty
  sections :=
    [⟨.runtime, .descriptors ⟨descriptors⟩⟩, ⟨.runtime, .elements ⟨blueprint.kind, elements⟩⟩]
  isApplication := false
  source? := none

/-- The kind `bord` with a set of hashes for each element. -/
def bordBlueprint : Blueprint := ⟨⟨"bord"⟩, [("hashes", .hashes)]⟩

/-- A profile with one element of the kind `bord`. -/
def bordProfile : Profile :=
  ofElements bordBlueprint [("x", 1)] [⟨⟨"bord"⟩, 0, [some (.hashes .empty)]⟩]

theorem wellFormed_bordProfile : bordProfile.WellFormed where
  distinct := by decide +kernel
  table := ⟨⟨[("x", 1)]⟩, by simp [bordProfile, ofElements]⟩
  storable := by
    intro source member
    have cases : source = ⟨.runtime, .descriptors ⟨[("x", 1)]⟩⟩ ∨
        source = ⟨.runtime, .elements ⟨⟨"bord"⟩, [⟨⟨"bord"⟩, 0, [some (.hashes .empty)]⟩]⟩⟩ := by
      simpa [mem_stored_iff, bordProfile, ofElements, bordBlueprint] using
        (mem_stored_iff.mp member).1
    rcases cases with rfl | rfl
    · constructor
      · decide
      · decide
      · decide
    · refine ⟨by decide, bordBlueprint, by decide, ?_⟩
      intro element elementMember
      rw [List.mem_singleton.mp elementMember]
      have storable : (Value.hashes .empty).Storable .standard 0 := by
        apply Value.Storable.of_parts (Nat.zero_le Reader.maxNesting)
        · exact List.Pairwise.nil
        · exact Nat.zero_le _
        · simp [Value.parts]
      constructor
      · rfl
      · exact .cons ⟨_, rfl, rfl, storable⟩ .nil
  resolved := by
    have known : bordProfile.descriptors = .ok ⟨[("x", 1)]⟩ := by decide +kernel
    intro table tableEq source member list contentEq element elementMember
    rw [known, Except.ok.injEq] at tableEq
    have sourceMember := (mem_stored_iff.mp member).1
    simp only [bordProfile, ofElements, List.mem_cons, List.not_mem_nil, or_false] at sourceMember
    rcases sourceMember with rfl | rfl
    · cases contentEq
    · simp only [Section.elements.injEq] at contentEq
      subst contentEq tableEq
      rw [List.mem_singleton.mp elementMember]
      decide
  few := by decide

/-- The bytes of `bordProfile`. -/
def bordStream : List UInt8 :=
  [2, 0, 0, 0, 0x4d, 0x55, 0xb2, 0x63, 1, 1, 0x78, 1, 0x74, 0xb4, 0x50, 0xc8, 1, 0, 0]

theorem eq_bordStream_of_emits {bytes : List UInt8}
    (emits : (Writer.profile bordProfile).Emits bytes) : bytes = bordStream := by
  have written : (match Writer.profile bordProfile .empty with
      | .ok _ sink => sink.bytes
      | .error _ _ => []) = bordStream := by
    decide +kernel
  rw [emits .empty rfl] at written
  simpa [Sink.append, Sink.empty, Sink.bytes] using written

theorem emits_bordStream : (Writer.profile bordProfile).Emits bordStream := by
  rcases wellFormed_bordProfile.exists_emits with ⟨bytes, emits⟩
  rwa [← eq_bordStream_of_emits emits]

/-- A profile with the sections of `bordProfile`, one more between them, and other contents. -/
def staleProfile : Profile :=
  { ofElements bordBlueprint [] [] with
    sections :=
      [⟨.runtime, .descriptors ⟨[("y", 7)]⟩⟩, ⟨.runtime, .metadata .empty⟩,
        ⟨.runtime, .elements ⟨⟨"bord"⟩, []⟩⟩] }

theorem apart_staleProfile : staleProfile.Apart bordProfile := by
  have apart : ∀ source ∈ bordProfile.sections, ∀ registered ∈ staleProfile.sections,
      registered.tag = source.tag → registered.content.name = source.content.name := by
    decide +kernel
  intro source member
  exact apart source (mem_stored_iff.mp member).1

/-- The round trip from `bordProfile` to `staleProfile` replaces the table. -/
theorem roundTrip_bordProfile :
    ∃ bytes, (Writer.profile bordProfile).Emits bytes ∧
      (∃ loaded, staleProfile.readFrom (.ofBytes bytes) = .ok loaded) ∧
      ∀ loaded, staleProfile.readFrom (.ofBytes bytes) = .ok loaded →
        loaded.content? Section.descriptorsName = some (.descriptors ⟨[("x", 1)]⟩) := by
  have coherent : staleProfile.Coherent :=
    ⟨by decide +kernel, ⟨[("y", 7)]⟩, by simp [staleProfile]⟩
  have shares : staleProfile.SharesBlueprints bordProfile := fun _ _ _ => rfl
  have names : ∀ source ∈ bordProfile.stored, ∃ registered ∈ staleProfile.sections,
      registered.content.name = source.content.name := by
    decide
  have tableMember : ⟨.runtime, .descriptors ⟨[("x", 1)]⟩⟩ ∈ bordProfile.stored := by
    simp [mem_stored_iff, bordProfile, ofElements]
  rcases roundTrip wellFormed_bordProfile coherent rfl shares apart_staleProfile with
    ⟨bytes, emits, accepted, contents⟩
  refine ⟨bytes, emits, accepted.mpr names, ?_⟩
  intro loaded loadedEq
  have stored := (contents loaded loadedEq).1 _ tableMember
  simpa only [Section.name] using stored

/-- The kind `hjwj` with a vector for each element. -/
def hjwjBlueprint : Blueprint := ⟨⟨"hjwj"⟩, [("vector", .vector)]⟩

/-- A profile without elements of the kind `hjwj`, whose section has the tag of that of `bord`. -/
def hjwjProfile : Profile :=
  ofElements hjwjBlueprint [] []

/--
Without `Apart` the round trip fails: the reader has no section for the elements of `bord`, accepts
their bytes nevertheless, and takes the set of hashes for a vector.
-/
theorem accepted_by_hjwjProfile :
    bordProfile.WellFormed ∧ hjwjProfile.Coherent ∧ hjwjProfile.types = bordProfile.types ∧
      hjwjProfile.SharesBlueprints bordProfile ∧ (Writer.profile bordProfile).Emits bordStream ∧
      (∃ loaded, hjwjProfile.readFrom (.ofBytes bordStream) = .ok loaded) ∧
      ¬∀ source ∈ bordProfile.stored, ∃ registered ∈ hjwjProfile.sections,
        registered.content.name = source.content.name := by
  refine ⟨wellFormed_bordProfile, ?_, rfl, ?_, emits_bordStream, ?_, ?_⟩
  · exact ⟨by decide +kernel, ⟨[]⟩, by simp [hjwjProfile, ofElements]⟩
  · intro kind inReader inWriter
    have readerKinds : hjwjProfile.kinds = [⟨"hjwj"⟩] := rfl
    have writerKinds : bordProfile.kinds = [⟨"bord"⟩] := rfl
    rw [readerKinds, List.mem_singleton] at inReader
    rw [writerKinds, List.mem_singleton, inReader] at inWriter
    exact absurd inWriter (by decide)
  · have accepted : (hjwjProfile.readFrom (.ofBytes bordStream)).toOption.isSome := by
      decide +kernel
    cases outcome : hjwjProfile.readFrom (.ofBytes bordStream) with
    | error failure => simp [outcome, Except.toOption] at accepted
    | ok loaded => exact ⟨loaded, rfl⟩
  · intro names
    have bordMember : ⟨.runtime, .elements ⟨⟨"bord"⟩, [⟨⟨"bord"⟩, 0, [some (.hashes .empty)]⟩]⟩⟩ ∈
        bordProfile.stored := by
      simp [mem_stored_iff, bordProfile, ofElements, bordBlueprint]
    rcases names _ bordMember with ⟨registered, member, nameEq⟩
    have noBord : ∀ registered ∈ hjwjProfile.sections,
        registered.content.name ≠ "elements.bord" := by
      decide
    exact noBord registered member nameEq

end Profile

end Resemblance
