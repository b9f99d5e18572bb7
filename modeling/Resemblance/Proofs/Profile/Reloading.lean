import Resemblance.Proofs.Profile.PrefixFree
import Resemblance.Proofs.Profile.RoundTrip

/-!
# Loading, storing and loading again

Whatever stream an assembled profile accepts, the elements that it holds afterwards are of the kinds
of their lists, filled as the blueprints declare, and refer to descriptors of the table. If the
table of types gives each type also under its own name, the loaded profile is well formed, so it can
be stored, and an equal profile is loaded from what is stored: the stream that was accepted first
may have had longer forms of numbers, fewer sections or another order.
-/

namespace Resemblance

namespace Profile

namespace Assembled

variable {profile loaded : Profile} {bytes : List UInt8}

theorem loaded_assembled (assembled : profile.Assembled)
    (accepted : profile.readFrom (.ofBytes bytes) = .ok loaded) :
    loaded.Assembled ∧ loaded.types = profile.types ∧ loaded.blueprints = profile.blueprints ∧
      outline loaded.sections = outline profile.sections ∧ loaded.checkReferences = .ok () := by
  rcases assembled.of_readFrom_eq_ok (fun _ => True) (fun _ _ => trivial)
    (fun _ _ _ => trivial) accepted with ⟨typesEq, blueprintsEq, outlineEq, resolved, _⟩
  exact ⟨assembled.of_outline_eq outlineEq blueprintsEq, typesEq, blueprintsEq, outlineEq, resolved⟩

/-- The loaded elements are as their blueprints declare, with a property of every value read. -/
theorem conforms_with_of_readFrom_eq_ok (assembled : profile.Assembled) {property : Value → Prop}
    (each : ∀ {type bytes value}, (Reader.payload profile.types type).Takes 0 bytes value →
      property value)
    (accepted : profile.readFrom (.ofBytes bytes) = .ok loaded) :
    ∀ registered ∈ loaded.sections, registered.content.Conforms profile.blueprints property := by
  have all := assembled.of_readFrom_eq_ok (Section.Conforms profile.blueprints property)
    (fun registered member => Section.conforms_reset (assembled.equipped registered member))
    (fun equipped _ takes => Reader.conforms_of_sectionContent_takes each equipped takes) accepted
  exact all.2.2.2.2

/-- The elements that were loaded are as their blueprints declare. -/
theorem conforms_of_readFrom_eq_ok (assembled : profile.Assembled)
    (accepted : profile.readFrom (.ofBytes bytes) = .ok loaded) :
    ∀ registered ∈ loaded.sections,
      registered.content.Conforms profile.blueprints fun _ => True :=
  assembled.conforms_with_of_readFrom_eq_ok (fun _ => trivial) accepted

/-- Apart from build information, everything that was loaded can be stored. -/
theorem storable_of_readFrom_eq_ok (assembled : profile.Assembled)
    (faithful : profile.types.Faithful)
    (accepted : profile.readFrom (.ofBytes bytes) = .ok loaded) :
    ∀ registered ∈ loaded.sections, registered.content.IsBuildInfo ∨
      registered.content.Storable profile.types profile.blueprints := by
  have all := assembled.of_readFrom_eq_ok
    (fun content => content.IsBuildInfo ∨ content.Storable profile.types profile.blueprints) ?_ ?_
    accepted
  · exact all.2.2.2.2
  · intro registered member
    by_cases buildInfo : registered.content.IsBuildInfo
    · exact Or.inl (Section.isBuildInfo_reset_iff.mpr buildInfo)
    · exact Or.inr (Section.storable_reset (assembled.equipped registered member) buildInfo)
  · intro content bytes read equipped _ takes
    by_cases buildInfo : content.IsBuildInfo
    · left
      rw [← Section.isBuildInfo_reset_iff, Reader.reset_of_sectionContent_takes equipped takes,
        Section.isBuildInfo_reset_iff]
      exact buildInfo
    · exact Or.inr (Reader.storable_of_sectionContent_takes faithful equipped buildInfo takes)

theorem resolved_of_checkReferences {table : DescriptorTable}
    (resolved : loaded.checkReferences = .ok ()) (known : loaded.descriptors = .ok table)
    {registered : RegisteredSection} (member : registered ∈ loaded.sections) {list : ElementList}
    (contentEq : registered.content = .elements list) :
    ∀ element ∈ list.elements, element.descriptor.toNat < table.size := by
  rw [checkReferences_eq known, checks_eq_ok_iff] at resolved
  have checked := resolved registered member
  rw [contentEq] at checked
  exact ElementList.checkDescriptors_eq_ok_iff.mp checked

/-- A profile that was loaded with a faithful table of types is well formed. -/
theorem wellFormed_of_readFrom_eq_ok (assembled : profile.Assembled)
    (faithful : profile.types.Faithful)
    (accepted : profile.readFrom (.ofBytes bytes) = .ok loaded)
    (few : (loaded.stored.length : Int) ≤ Int32.maxValue.toInt) : loaded.WellFormed := by
  rcases assembled.loaded_assembled accepted with
    ⟨loadedAssembled, typesEq, blueprintsEq, _, references⟩
  refine ⟨loadedAssembled.toCoherent, ?_, ?_, few⟩
  · intro source member
    rcases mem_stored_iff.mp member with ⟨sourceMember, retentionEq⟩
    have kept := (loadedAssembled.kept source sourceMember).mp retentionEq
    rw [typesEq, blueprintsEq]
    exact (assembled.storable_of_readFrom_eq_ok faithful accepted source sourceMember).resolve_left
      kept
  · intro table known source member list contentEq
    exact resolved_of_checkReferences references known (mem_stored_iff.mp member).1 contentEq

/-- Profiles of one outline keep sections of the same names under the same tags. -/
theorem apart_of_outline_eq (assembled : profile.Assembled)
    (outlineEq : outline loaded.sections = outline profile.sections) : profile.Apart loaded := by
  intro source member registered registeredMember tagEq
  rcases exists_of_outline_eq outlineEq (mem_stored_iff.mp member).1 with
    ⟨original, originalMember, alike⟩
  have originalTag : original.tag = source.tag := by
    rw [← original.tag_reset, alike, source.tag_reset]
  have same := List.inj_on_of_nodup_map assembled.distinct registeredMember originalMember
    (tagEq.trans originalTag.symm)
  rw [same]
  exact Section.name_eq_of_reset_eq (content_reset_eq alike)

end Assembled

/-- Under every name two profiles have the same content, or both have build information. -/
def Agree (profile other : Profile) : Prop :=
  ∀ name, profile.content? name = other.content? name ∨
    (∃ info, profile.content? name = some (.buildInfo info)) ∧
      ∃ info, other.content? name = some (.buildInfo info)

namespace Agree

variable {profile other : Profile}

theorem descriptors_eq (agree : profile.Agree other) : profile.descriptors = other.descriptors := by
  simp only [descriptors, descriptorsIn]
  rcases agree Section.descriptorsName with same | ⟨⟨info, here⟩, ⟨otherInfo, there⟩⟩
  · rw [same]
  · rw [here, there]

theorem metadata?_eq (agree : profile.Agree other) : profile.metadata? = other.metadata? := by
  simp only [metadata?, metadataIn]
  rcases agree Section.metadataName with same | ⟨⟨info, here⟩, ⟨otherInfo, there⟩⟩
  · rw [same]
  · rw [here, there]

theorem elements_eq (agree : profile.Agree other) (kind : Kind) :
    profile.elements kind = other.elements kind := by
  simp only [elements, elementsIn]
  rcases agree kind.sectionName with same | ⟨⟨info, here⟩, ⟨otherInfo, there⟩⟩
  · rw [same]
  · rw [here, there]

end Agree

theorem content?_eq_none_of_not_mem {profile : Profile} {name : String}
    (absent : Hash.nameHash name ∉ profile.sections.map (·.tag)) :
    profile.content? name = none := by
  have none : profile.section? name = none := by
    rw [section?, find?, List.find?_eq_none]
    intro registered member
    simp only [beq_iff_eq]
    intro same
    exact absent (List.mem_map.mpr ⟨registered, member, same⟩)
  simp only [content?, none]

theorem Coherent.content?_of_tag_eq {profile : Profile} (coherent : profile.Coherent)
    {registered : RegisteredSection} (member : registered ∈ profile.sections) {name : String}
    (tagEq : registered.tag = Hash.nameHash name) :
    profile.content? name = some registered.content := by
  have found : profile.section? name = some registered := by
    rw [section?, ← tagEq]
    exact coherent.find?_eq member
  simp only [content?, found]

/-- A reader of the same outline receives what was stored and clears build information. -/
theorem Assembled.agree_receive {profile loaded : Profile} (assembled : profile.Assembled)
    (loadedAssembled : loaded.Assembled)
    (outlineEq : outline loaded.sections = outline profile.sections)
    (suits : profile.Accommodates loaded) : (profile.receive loaded.stored).Agree loaded := by
  have received := assembled.toCoherent.receive suits
  have receivedOutline : outline (profile.receive loaded.stored).sections =
      outline loaded.sections := by
    rw [receive, suits.outline_filled, outline_outline, outlineEq]
  intro name
  by_cases present : Hash.nameHash name ∈ loaded.sections.map (·.tag)
  · rcases List.mem_map.mp present with ⟨registered, member, tagEq⟩
    have here := loadedAssembled.toCoherent.content?_of_tag_eq member tagEq
    by_cases kept : registered.retention = .runtime
    · left
      have presentHere : registered.tag ∈ profile.sections.map (·.tag) := by
        rw [← tags_eq_of_outline_eq outlineEq]
        exact List.mem_map_of_mem member
      rcases exists_mem_receive suits (mem_stored_iff.mpr ⟨member, kept⟩) presentHere with
        ⟨retention, receivedMember⟩
      rw [here]
      exact received.content?_of_tag_eq receivedMember tagEq
    · right
      have isBuildInfo : registered.content.IsBuildInfo := by
        by_contra notBuildInfo
        exact kept ((loadedAssembled.kept registered member).mpr notBuildInfo)
      rcases exists_of_outline_eq receivedOutline.symm member with ⟨other, otherMember, alike⟩
      have otherTag : other.tag = Hash.nameHash name := by
        rw [← other.tag_reset, alike, registered.tag_reset]
        exact tagEq
      have there := received.content?_of_tag_eq otherMember otherTag
      have otherIsBuildInfo : other.content.IsBuildInfo := by
        rw [← Section.isBuildInfo_reset_iff, content_reset_eq alike, Section.isBuildInfo_reset_iff]
        exact isBuildInfo
      constructor
      · cases content : other.content with
        | buildInfo info => exact ⟨info, by rw [there, content]⟩
        | _ => simp [content, Section.IsBuildInfo] at otherIsBuildInfo
      · cases content : registered.content with
        | buildInfo info => exact ⟨info, by rw [here, content]⟩
        | _ => simp [content, Section.IsBuildInfo] at isBuildInfo
  · left
    rw [content?_eq_none_of_not_mem present]
    apply content?_eq_none_of_not_mem
    rwa [tags_eq_of_outline_eq receivedOutline]

end Profile

/--
Loading makes a profile well formed, whatever the stream was: elements are of the kind of their
list, filled as their blueprint declares, and refer to descriptors of the table. And what is loaded
can be stored and loaded again without a change, if each type can be read under its own name, and
sections are not too many to be counted.
-/
theorem Assembly.loaded_isStable {assembly : Assembly} {profile loaded : Profile}
    {bytes : List UInt8} (built : assembly.build = .ok profile)
    (accepted : profile.readFrom (.ofBytes bytes) = .ok loaded) :
    (∃ table, loaded.descriptors = .ok table ∧
      ∀ registered ∈ loaded.sections, ∀ list, registered.content = .elements list →
        ∃ blueprint, profile.blueprints.get? list.kind = some blueprint ∧
          ∀ element ∈ list.elements,
            element.kind = list.kind ∧ element.slots.length = blueprint.size ∧
            List.Forall₂ (fun field slot => ∃ value, slot = some value ∧ value.type = field.2)
              blueprint.fields element.slots ∧
            ∃ descriptor, table.resolve? element.descriptor = some descriptor) ∧
    (profile.types.Faithful → (loaded.stored.length : Int) ≤ Int32.maxValue.toInt →
      ∃ written again, (Writer.profile loaded).Emits written ∧
        profile.readFrom (.ofBytes written) = .ok again ∧
        again.descriptors = loaded.descriptors ∧ again.metadata? = loaded.metadata? ∧
        ∀ kind, again.elements kind = loaded.elements kind) := by
  have assembled := assembled_of_build_eq built
  rcases assembled.loaded_assembled accepted with
    ⟨loadedAssembled, typesEq, blueprintsEq, outlineEq, references⟩
  constructor
  · rcases loadedAssembled.toCoherent.exists_descriptors with ⟨table, known⟩
    refine ⟨table, known, ?_⟩
    intro registered member list contentEq
    have conforms := assembled.conforms_of_readFrom_eq_ok accepted registered member
    rw [contentEq] at conforms
    rcases conforms with ⟨blueprint, found, elementsConform⟩
    refine ⟨blueprint, found, ?_⟩
    intro element elementMember
    have elementConforms := elementsConform element elementMember
    have within := Profile.Assembled.resolved_of_checkReferences references known member contentEq
      element elementMember
    refine ⟨?_, elementConforms.slotCount, ?_, DescriptorTable.exists_resolve?_eq within⟩
    · rw [elementConforms.kind_eq, Blueprints.kind_of_get?_eq found]
    · refine elementConforms.filled.imp fun field slot => ?_
      rintro ⟨value, slotEq, typeEq, _⟩
      exact ⟨value, slotEq, typeEq⟩
  · intro faithful few
    have wellFormed := assembled.wellFormed_of_readFrom_eq_ok faithful accepted few
    have suits : profile.Accommodates loaded := by
      apply wellFormed.accommodates (assembled.apart_of_outline_eq outlineEq)
      intro kind _ _
      rw [blueprintsEq]
    have present : ∀ source ∈ loaded.stored, source.tag ∈ profile.sections.map (·.tag) := by
      intro source member
      rw [← tags_eq_of_outline_eq outlineEq]
      exact List.mem_map_of_mem (Profile.mem_stored_iff.mp member).1
    rcases wellFormed.exists_emits with ⟨written, emits⟩
    have again := wellFormed.readFrom_eq_ok assembled.toCoherent suits typesEq.symm emits present
    have agree : (profile.receive loaded.stored).adoptFlag.withoutSource.Agree loaded := by
      intro name
      have received := assembled.agree_receive loadedAssembled outlineEq suits name
      have sameSections : (profile.receive loaded.stored).adoptFlag.withoutSource.sections =
          (profile.receive loaded.stored).sections := by
        simp [Profile.withoutSource]
      rwa [Profile.content?_congr sameSections]
    exact ⟨written, _, emits, again, agree.descriptors_eq, agree.metadata?_eq, agree.elements_eq⟩

/-- The overlong table is stored in another form and loaded again from that. -/
theorem Assembly.reloaded_overlongTable :
    ∃ profile loaded written again, (ofConfig .standard).build = .ok profile ∧
      profile.readFrom (.ofBytes overlongTable) = .ok loaded ∧
      (Writer.profile loaded).Emits written ∧ profile.readFrom (.ofBytes written) = .ok again ∧
      again.descriptors = loaded.descriptors := by
  rcases exists_readFrom_overlongTable_eq_ok with
    ⟨profile, loaded, built, accepted, typesEq, countEq⟩
  have faithful : profile.types.Faithful := by
    rw [typesEq]
    exact TypeTable.faithful_standard
  have few : (loaded.stored.length : Int) ≤ Int32.maxValue.toInt := by
    rw [countEq]
    decide
  rcases (loaded_isStable built accepted).2 faithful few with
    ⟨written, again, emits, reread, descriptorsEq, _⟩
  exact ⟨profile, loaded, written, again, built, accepted, emits, reread, descriptorsEq⟩

/-! ## A type that stands under another name alone -/

/-- Numbers can be read under the name `x`, and under no other. -/
def aliasedTypes : TypeTable :=
  ⟨[⟨Hash.nameHash "x", "x", .int⟩]⟩

/-- The standard configuration with that table of types. -/
def withAliases : Assembly :=
  { Assembly.ofConfig .standard with types := aliasedTypes }

/-- A stream of metadata with one attribute, which is a number under the name `x`. -/
def aliasedAttribute : List UInt8 :=
  [1, 0, 0, 0] ++ toLittleEndian 4 (Hash.nameHash Section.metadataName).toNat ++
    [1] ++ List.replicate 16 0 ++ [0, 0, 0] ++ List.replicate 8 0 ++
    [1, 1, 97] ++ toLittleEndian 4 (Hash.nameHash "x").toNat ++ [0]

/-- A number that was read under another name cannot be written under its own. -/
theorem Assembly.loaded_notWritten :
    TypeTable.empty.registerAs "x" .int = .ok aliasedTypes ∧
      ∃ profile loaded sink, withAliases.build = .ok profile ∧
        profile.readFrom (.ofBytes aliasedAttribute) = .ok loaded ∧
        Writer.profile loaded .empty =
          .error (.notRegistered (.valueType ValueType.int.name)) sink := by
  have evaluated : withAliases.build.toOption.any (fun profile =>
      (profile.readFrom (.ofBytes aliasedAttribute)).toOption.any fun loaded =>
        (tryCatch (Writer.profile loaded >>= fun _ => pure none) fun failure =>
            pure (some failure)).run' .empty ==
          some (some (.notRegistered (.valueType ValueType.int.name)))) = true := by
    decide +kernel
  refine ⟨rfl, ?_⟩
  cases built : withAliases.build with
  | error failure => simp [built, Except.toOption] at evaluated
  | ok profile =>
      rw [built, Except.toOption, Option.any_some] at evaluated
      cases accepted : profile.readFrom (.ofBytes aliasedAttribute) with
      | error failure => simp [accepted, Except.toOption] at evaluated
      | ok loaded =>
          rw [accepted, Except.toOption, Option.any_some, beq_iff_eq] at evaluated
          cases written : Writer.profile loaded .empty <;>
            simp [EStateM.run', EStateM.run, tryCatch, tryCatchThe, MonadExceptOf.tryCatch,
              EStateM.tryCatch, bind, EStateM.bind, pure, EStateM.pure, written] at evaluated
          exact ⟨profile, loaded, _, rfl, accepted, by rw [written, evaluated]⟩

end Resemblance
