import Resemblance.Proofs.Profile.Contents
import Resemblance.Proofs.Profile.Reloading
import Resemblance.Proofs.Profile.Writing

/-!
# The description that a stream carries

The stored sections of a profile begin with its table of descriptors and its metadata. Whatever
follows, and whether or not a reader makes of it what was stored, a reader that accepts the stream
has read the first two sections as they were written: it marks the profile as the stored metadata
says.
-/

namespace Resemblance

/-- The size of the table and the lengths of its descriptors are numbers of 64 bits. -/
def DescriptorTable.Counted (table : DescriptorTable) : Prop :=
  table.size < UInt64.size ∧
    ∀ entry ∈ table.entries, (Text.Utf8.encode entry.1).length < UInt64.size

/-- The lengths of the texts are numbers of 64 bits. -/
def Metadata.Counted (metadata : Metadata) : Prop :=
  (Text.Utf8.encode metadata.artifact).length < UInt64.size ∧
    (Text.Utf8.encode metadata.version).length < UInt64.size

/-! ## Parts that are read as they were written or not at all -/

namespace ExchangeIf

theorem descriptorTable {table : DescriptorTable} (counted : table.Counted) (depth : Nat) :
    ExchangeIf True table.Storable (Writer.descriptorTable table) Reader.descriptorTable depth
      table := by
  have values : ∀ entry ∈ table.entries, ExchangeIf True True (Writer.index entry.2) Reader.index
      depth entry.2 := fun entry _ => of_exchange (.index entry.2 depth)
  have entries : ExchangeIf (∀ entry ∈ table.entries, True)
      ((table.entries.map (·.1)).Nodup ∧ ∀ entry ∈ table.entries, TextFits entry.1 ∧ True)
      (Writer.each (fun entry => do Writer.string entry.1; Writer.index entry.2) table.entries)
      (Reader.descriptorsAfter [] table.entries.length) depth table.entries := by
    rw [Reader.descriptorsAfter_eq_keyedAfter]
    exact @keyedAfter_of_nodup depth UInt32 _ Reader.index Writer.index (fun _ => True)
      (fun _ => True) [] table.entries List.nodup_nil counted.2 values
  refine ((length counted.1 depth).bind (entries.map DescriptorTable.mk)).congr (by simp) ?_
  constructor
  · rintro ⟨short, distinct, fits⟩
    exact ⟨distinct, short, fun entry member => (fits entry member).1⟩
  · rintro ⟨distinct, short, fits⟩
    exact ⟨short, distinct, fun entry member => ⟨fits entry member, trivial⟩⟩

theorem sectionCount {count : Nat} (few : (count : Int) ≤ Int32.maxValue.toInt)
    (registered depth : Nat) :
    ExchangeIf True (count ≤ registered) (Writer.i32 (Int32.ofNat count))
      (Reader.sectionCount registered) depth count := by
  rcases Exchange.toInt_ofNat_count few with ⟨value, nonnegative⟩
  have number := of_exchange (Exchange.i32 (Int32.ofNat count) depth)
  refine (number.andThen ?_).congr Iff.rfl (and_iff_right trivial)
  rw [if_neg nonnegative, value, Int.toNat_natCast]
  by_cases within : count ≤ registered
  · rw [if_neg (Nat.not_lt.mpr within)]
    exact (Reader.TakesIf.of_takes (.pure count)).congr (iff_of_true trivial within)
  · rw [if_pos (Nat.lt_of_not_le within)]
    exact .fail within

theorem formatVersion (version : UInt32) (depth : Nat) :
    ExchangeIf True (version ≤ Metadata.currentVersion) (Writer.index version)
      Reader.formatVersion depth version := by
  have number := of_exchange (Exchange.index version depth)
  refine (number.andThen ?_).congr Iff.rfl (and_iff_right trivial)
  by_cases supported : version ≤ Metadata.currentVersion
  · rw [if_neg (UInt32.not_lt.mpr supported)]
    exact (Reader.TakesIf.of_takes (.pure version)).congr (iff_of_true trivial supported)
  · rw [if_pos (UInt32.not_le.mp supported)]
    exact .fail supported

end ExchangeIf

namespace Reader

/-- Whatever a reader makes of the attributes, it reads the flag as it was written. -/
theorem isApplication_of_metadata_eq_ok {writerTypes types : TypeTable} {stored read : Metadata}
    (counted : stored.Counted) {bytes tail : List UInt8}
    (emits : (Writer.metadata writerTypes stored).Emits bytes) {position depth : Nat}
    {ending : Ending} {after : Source}
    (success : metadata types ⟨bytes ++ tail, position, depth, ending⟩ = .ok read after) :
    read.isApplication = stored.isApplication := by
  have idSize : stored.id.toList.length = 16 := by simp
  rcases ExchangeIf.formatVersion stored.formatVersion depth with ⟨front, frontEmits, frontTakes⟩
  rcases Exchange.exact idSize depth with ⟨id, idEmits, idTakes⟩
  rcases ExchangeIf.string counted.1 depth with ⟨artifact, artifactEmits, artifactTakes⟩
  rcases ExchangeIf.string counted.2 depth with ⟨version, versionEmits, versionTakes⟩
  rcases Exchange.bool stored.isApplication depth with ⟨flag, flagEmits, flagTakes⟩
  rcases Exchange.i64 stored.created depth with ⟨created, createdEmits, _⟩
  have writable := ((Writer.SucceedsIf.metadata writerTypes stored).of_eq_ok (emits .empty rfl)).1
  rcases (Writer.SucceedsIf.attributes writerTypes stored.attributes).exists_emits writable with
    ⟨back, backEmits⟩
  have written := (frontEmits.emits trivial).bind (idEmits.bind ((artifactEmits.emits trivial).bind
    ((versionEmits.emits trivial).bind (flagEmits.bind (createdEmits.bind backEmits)))))
  rw [emits.unique written] at success
  simp only [List.append_assoc] at success
  rw [metadata] at success
  have afterFront := frontTakes.next_of_eq_ok success
  have afterId := (TakesIf.of_takes idTakes).next_of_eq_ok afterFront
  have afterArtifact := artifactTakes.next_of_eq_ok afterId
  have afterVersion := versionTakes.next_of_eq_ok afterArtifact
  have afterFlag := (TakesIf.of_takes flagTakes).next_of_eq_ok afterVersion
  rcases bind_eq_ok.mp afterFlag with ⟨created, _, _, afterCreated⟩
  rcases bind_eq_ok.mp afterCreated with ⟨attributes, _, _, last⟩
  rcases pure_eq_ok.mp last with ⟨rfl, _⟩
  rfl

/-! ## Sections one after the other -/

variable {types : TypeTable} {blueprints : Blueprints} {seen : List UInt32}
  {sections results : List RegisteredSection} {count : Nat} {source after : Source}

/-- A section that was read is not read again. -/
theorem mem_of_sectionsInto_eq_ok {registered : RegisteredSection} (member : registered ∈ sections)
    (alreadyRead : registered.tag ∈ seen)
    (success : sectionsInto types blueprints seen sections count source = .ok results after) :
    registered ∈ results := by
  induction count generalizing seen sections source with
  | zero =>
      rcases pure_eq_ok.mp success with ⟨rfl, _⟩
      exact member
  | succ count ih =>
      rcases sectionsInto_succ_eq_ok success with ⟨tag, _, read, _, _, _, unseen, _, _, others⟩
      have different : registered.tag ≠ tag := by
        rintro rfl
        exact unseen alreadyRead
      refine ih ?_ (List.mem_cons_of_mem tag alreadyRead) others
      exact List.mem_map.mpr ⟨registered, member, if_neg different⟩

/-- The next section in a stream is read into the place for its content. -/
theorem next_of_sectionsInto_eq_ok {content : Section} {front rest : List UInt8} {position : Nat}
    {ending : Ending} (distinct : (sections.map (·.tag)).Nodup) {known : RegisteredSection}
    (member : known ∈ sections) (alike : known.content.reset = content.reset)
    (tagTakes : u32.Takes 0 front content.tag)
    (success : sectionsInto types blueprints seen sections (count + 1)
      ⟨front ++ rest, position, 0, ending⟩ = .ok results after) :
    ∃ read later, sectionContent types blueprints content
        ⟨rest, position + front.length, 0, ending⟩ = .ok read later ∧
      outline (replaceContent content.tag read sections) = outline sections ∧
      { known with content := read } ∈ replaceContent content.tag read sections ∧
      sectionsInto types blueprints (content.tag :: seen) (replaceContent content.tag read sections)
        count later = .ok results after := by
  rcases sectionsInto_succ_eq_ok success with
    ⟨tag, registered, read, between, later, tagRead, _, found, contentRead, others⟩
  rcases (TakesIf.of_takes tagTakes).of_eq_ok tagRead with ⟨_, rfl, rfl⟩
  have knownTag : known.tag = content.tag := Section.tag_eq_of_reset_eq alike
  have same := (find?_eq_some_iff_of_distinct distinct).mpr ⟨member, knownTag⟩
  rw [found, Option.some.injEq] at same
  subst same
  refine ⟨read, later, ?_, ?_, ?_, others⟩
  · rw [← sectionContent_reset, ← alike, sectionContent_reset]
    exact contentRead
  · exact outline_replaceContent_of_find? distinct found (reset_of_sectionContent_eq_ok contentRead)
  · exact List.mem_map.mpr ⟨registered, member, if_pos knownTag⟩

/-- The metadata of a stream that begins with a table and metadata is among what was read. -/
theorem exists_metadata_of_sectionsInto_eq_ok {writerTypes : TypeTable}
    {writerBlueprints : Blueprints} {table : DescriptorTable} {metadata : Metadata}
    (countedTable : table.Counted) (countedMetadata : metadata.Counted)
    {front middle back : List UInt8}
    (frontEmits : (Writer.registeredSection writerTypes writerBlueprints
      ⟨.runtime, .descriptors table⟩).Emits front)
    (middleEmits : (Writer.registeredSection writerTypes writerBlueprints
      ⟨.runtime, .metadata metadata⟩).Emits middle)
    (distinct : (sections.map (·.tag)).Nodup)
    (tablePlace : ∃ known ∈ sections, known.content.reset = (Section.descriptors table).reset)
    (metadataPlace : ∃ known ∈ sections, known.content.reset = (Section.metadata metadata).reset)
    {position : Nat} {ending : Ending}
    (success : sectionsInto types blueprints seen sections (count + 2)
      ⟨front ++ (middle ++ back), position, 0, ending⟩ = .ok results after) :
    ∃ registered ∈ results, ∃ read, registered.content = .metadata read ∧
      read.isApplication = metadata.isApplication := by
  rcases Exchange.u32 (Section.descriptors table).tag 0 with
    ⟨tableTag, tableTagEmits, tableTagTakes⟩
  rcases ExchangeIf.descriptorTable countedTable 0 with ⟨form, formEmits, formTakes⟩
  rcases Exchange.u32 (Section.metadata metadata).tag 0 with
    ⟨metadataTag, metadataTagEmits, metadataTagTakes⟩
  have described := ((Writer.SucceedsIf.registeredSection writerTypes writerBlueprints
    ⟨.runtime, .metadata metadata⟩).of_eq_ok (middleEmits .empty rfl)).1
  rcases (Writer.SucceedsIf.metadata writerTypes metadata).exists_emits described with
    ⟨description, descriptionEmits⟩
  rw [frontEmits.unique (tableTagEmits.bind (formEmits.emits trivial)),
    middleEmits.unique (metadataTagEmits.bind descriptionEmits)] at success
  simp only [List.append_assoc] at success
  rcases tablePlace with ⟨tableKnown, tableMember, tableAlike⟩
  rcases next_of_sectionsInto_eq_ok distinct tableMember tableAlike tableTagTakes success with
    ⟨_, _, tableSuccess, sameOutline, _, afterTable⟩
  rcases bind_eq_ok.mp tableSuccess with ⟨_, _, formSuccess, tableLast⟩
  rcases formTakes.of_eq_ok formSuccess with ⟨_, rfl, rfl⟩
  rcases pure_eq_ok.mp tableLast with ⟨rfl, rfl⟩
  rcases metadataPlace with ⟨original, originalMember, metadataAlike⟩
  rcases exists_of_outline_eq sameOutline.symm originalMember with ⟨known, knownMember, knownEq⟩
  have knownAlike := (content_reset_eq knownEq).trans metadataAlike
  rw [← tags_eq_of_outline_eq sameOutline] at distinct
  rcases next_of_sectionsInto_eq_ok distinct knownMember knownAlike metadataTagTakes afterTable with
    ⟨_, _, metadataSuccess, _, readMember, afterMetadata⟩
  rcases bind_eq_ok.mp metadataSuccess with ⟨read, _, descriptionSuccess, metadataLast⟩
  rcases pure_eq_ok.mp metadataLast with ⟨rfl, rfl⟩
  refine ⟨_, mem_of_sectionsInto_eq_ok readMember List.mem_cons_self afterMetadata, read, rfl, ?_⟩
  exact isApplication_of_metadata_eq_ok countedMetadata descriptionEmits descriptionSuccess

end Reader

/-! ## Whole profiles -/

namespace Profile

theorem Coherent.metadata?_eq {profile : Profile} (coherent : profile.Coherent)
    {registered : RegisteredSection} (member : registered ∈ profile.sections) {metadata : Metadata}
    (contentEq : registered.content = .metadata metadata) : profile.metadata? = some metadata := by
  have found := coherent.content?_eq member
  rw [contentEq, Section.name] at found
  rw [metadata?, metadataIn, found]
  rfl

/--
Who reads what was written of a profile, and accepts it, marks it as the stored metadata says,
whatever else the reader makes of the stream.
-/
theorem isApplication_of_readFrom_eq_ok {stored reader loaded : Profile} {table : DescriptorTable}
    {metadata : Metadata} {others : List RegisteredSection}
    (storedEq : stored.stored =
      ⟨.runtime, .descriptors table⟩ :: ⟨.runtime, .metadata metadata⟩ :: others)
    (countedTable : table.Counted) (countedMetadata : metadata.Counted)
    (assembled : reader.Assembled) (place : reader.HasPlaceFor (.metadata metadata))
    {bytes : List UInt8} (emits : (Writer.profile stored).Emits bytes)
    (accepted : reader.readFrom (.ofBytes bytes) = .ok loaded) :
    loaded.isApplication = metadata.isApplication := by
  rcases (Writer.SucceedsIf.profile stored).of_eq_ok (emits .empty rfl) with ⟨⟨few, writable⟩, _⟩
  have each : ∀ registered ∈ stored.stored, ∃ form,
      (Writer.registeredSection stored.types stored.blueprints registered).Emits form :=
    fun registered member =>
      (Writer.SucceedsIf.registeredSection _ _ registered).exists_emits (writable registered member)
  rw [storedEq] at each
  rcases List.forall_mem_cons.mp each with ⟨⟨front, frontEmits⟩, eachLater⟩
  rcases List.forall_mem_cons.mp eachLater with ⟨⟨middle, middleEmits⟩, eachOther⟩
  rcases Writer.Emits.each eachOther with ⟨back, backEmits⟩
  rcases ExchangeIf.sectionCount few reader.sections.length 0 with
    ⟨number, numberEmits, numberTakes⟩
  have split : bytes = number ++ (front ++ (middle ++ back)) := by
    apply emits.unique
    rw [Writer.profile]
    simp only [few, if_true]
    rw [storedEq] at numberEmits ⊢
    exact (numberEmits.emits trivial).bind (frontEmits.bind (middleEmits.bind backEmits))
  rcases takes_of_readFrom_eq_ok assembled.regular accepted with ⟨filled, takes, rfl⟩
  rcases reader_eq_ok_iff.mp (takes 0 [] .endOfBytes) with
    ⟨count, between, sections, counted, sectionsRead, rfl, _⟩
  rw [split, List.append_nil] at counted
  rcases numberTakes.of_eq_ok counted with ⟨_, rfl, rfl⟩
  have cleared {content : Section} (hasPlace : reader.HasPlaceFor content) :
      ({ reader with sections := outline reader.sections } : Profile).HasPlaceFor content :=
    hasPlace.of_outline_eq (outline_outline reader.sections)
  have distinct := assembled.distinct
  rw [← tags_outline] at distinct
  rw [storedEq] at sectionsRead
  rcases Reader.exists_metadata_of_sectionsInto_eq_ok countedTable countedMetadata frontEmits
    middleEmits distinct (cleared (assembled.toCoherent.hasPlaceFor_descriptors table))
    (cleared place) sectionsRead with ⟨registered, member, read, contentEq, same⟩
  have coherent := (assembled.loaded_assembled accepted).1.toCoherent
  have found := coherent.metadata?_eq (by simpa [withoutSource] using member) contentEq
  rw [isApplication_adoptFlag, found]
  exact same

end Profile

end Resemblance
