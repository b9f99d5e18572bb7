import Mathlib.Data.List.Perm.Subperm
import Resemblance.Proofs.Profile.Reading

/-!
# Receiving stored profiles

`Profile.receive` is what a reader makes of stored sections, whatever it held before: it takes over
the contents of the sections that are stored under its tags and clears the others. A stored profile
is exchanged for that, with every reader whom the stored sections suit, that has a section for each
of them, and whose references then resolve.
-/

namespace Resemblance

namespace Profile

/-- The reader with the contents of stored sections, and its other sections cleared. -/
def receive (reader : Profile) (stored : List RegisteredSection) : Profile :=
  { reader with sections := Reader.filled stored (outline reader.sections) }

/-- The stored sections suit a reader, whatever it holds. -/
def Accommodates (reader writer : Profile) : Prop :=
  Suits writer.types writer.blueprints writer.stored reader.blueprints (outline reader.sections)

theorem mem_stored_iff {profile : Profile} {registered : RegisteredSection} :
    registered ∈ profile.stored ↔
      registered ∈ profile.sections ∧ registered.retention = .runtime := by
  simp [stored]

theorem tags_outline (sections : List RegisteredSection) :
    (outline sections).map (·.tag) = sections.map (·.tag) :=
  tags_eq_of_outline_eq (outline_outline sections)

/-! ## What is received -/

section Received

variable {writer reader : Profile}

theorem Coherent.receive (coherent : reader.Coherent) (suits : reader.Accommodates writer) :
    (reader.receive writer.stored).Coherent := by
  apply coherent.of_outline_eq
  rw [Profile.receive, suits.outline_filled, outline_outline]

/-- A stored section is among those that a reader with a section for it receives. -/
theorem exists_mem_receive (suits : reader.Accommodates writer) {source : RegisteredSection}
    (member : source ∈ writer.stored) (present : source.tag ∈ reader.sections.map (·.tag)) :
    ∃ retention, ⟨retention, source.content⟩ ∈ (reader.receive writer.stored).sections := by
  rw [← tags_outline] at present
  rcases List.mem_map.mp present with ⟨registered, registeredMember, tagEq⟩
  have found : writer.stored.find? (·.tag == registered.tag) = some source :=
    (find?_eq_some_iff_of_distinct suits.distinct).mpr ⟨member, tagEq.symm⟩
  refine ⟨registered.retention, List.mem_map.mpr ⟨registered, registeredMember, ?_⟩⟩
  simp only [found]

/-- What is received is cleared unless it is stored. -/
theorem content_of_mem_receive {received : RegisteredSection}
    (member : received ∈ (reader.receive writer.stored).sections) :
    (∃ source ∈ writer.stored, source.content = received.content) ∨
      ∃ registered ∈ reader.sections, received = registered.reset := by
  rcases List.mem_map.mp member with ⟨cleared, clearedMember, rfl⟩
  cases found : writer.stored.find? (·.tag == cleared.tag) with
  | none =>
      rcases List.mem_map.mp clearedMember with ⟨registered, registeredMember, rfl⟩
      exact Or.inr ⟨registered, registeredMember, rfl⟩
  | some source => exact Or.inl ⟨source, List.mem_of_find?_eq_some found, rfl⟩

/-- A section for which nothing is stored is received as a cleared section. -/
theorem reset_mem_receive {registered : RegisteredSection} (member : registered ∈ reader.sections)
    (absent : registered.tag ∉ writer.stored.map (·.tag)) :
    registered.reset ∈ (reader.receive writer.stored).sections := by
  have none : writer.stored.find? (·.tag == registered.reset.tag) = none := by
    rw [List.find?_eq_none]
    intro source sourceMember
    have different : source.tag ≠ registered.tag := by
      intro same
      exact absent (List.mem_map.mpr ⟨source, sourceMember, same⟩)
    simpa using different
  refine List.mem_map.mpr ⟨registered.reset, List.mem_map_of_mem member, ?_⟩
  simp only [none]

/-- References that resolve in the stored table resolve in what is received. -/
theorem checkReferences_receive (coherent : reader.Coherent) (suits : reader.Accommodates writer)
    {table : DescriptorTable} (tableMember : ⟨.runtime, .descriptors table⟩ ∈ writer.stored)
    (present : ∀ source ∈ writer.stored, source.tag ∈ reader.sections.map (·.tag))
    (resolved : ∀ source ∈ writer.stored, source.content.check table.size = .ok ()) :
    (reader.receive writer.stored).checkReferences = .ok () := by
  rcases exists_mem_receive suits tableMember (present _ tableMember) with ⟨retention, received⟩
  rw [checkReferences_eq ((coherent.receive suits).descriptors_eq received), checks_eq_ok_iff]
  intro section' member
  rcases content_of_mem_receive member with ⟨source, sourceMember, same⟩ | ⟨registered, _, rfl⟩
  · rw [← same]
    exact resolved source sourceMember
  · exact Section.check_reset registered.content table.size

end Received

end Profile

/-! ## The exchange of a profile -/

namespace Exchange

/-- A number of sections that is not too large is a signed number of 32 bits. -/
theorem toInt_ofNat_count {count : Nat} (few : (count : Int) ≤ Int32.maxValue.toInt) :
    (Int32.ofNat count).toInt = count ∧ ¬Int32.ofNat count < 0 := by
  have small : count < 2 ^ 31 := by
    have bound : Int32.maxValue.toInt = 2 ^ 31 - 1 := by decide
    omega
  have value : (Int32.ofNat count).toInt = count := Int32.toInt_ofNat_of_lt small
  refine ⟨value, ?_⟩
  rw [Int32.lt_iff_toInt_lt, value, Int32.toInt_zero]
  omega

theorem sectionCount {count registered : Nat} (few : (count : Int) ≤ Int32.maxValue.toInt)
    (count_le : count ≤ registered) (depth : Nat) :
    Exchange (Writer.i32 (Int32.ofNat count)) (Reader.sectionCount registered) depth count := by
  rcases toInt_ofNat_count few with ⟨value, nonnegative⟩
  apply (i32 (Int32.ofNat count) depth).andThen
  rw [if_neg nonnegative, value, Int.toNat_natCast, if_neg (Nat.not_lt.mpr count_le)]
  exact .pure count

theorem profile {writer reader : Profile} (suits : reader.Accommodates writer)
    (sameTypes : reader.types = writer.types)
    (few : (writer.stored.length : Int) ≤ Int32.maxValue.toInt)
    (present : ∀ source ∈ writer.stored, source.tag ∈ reader.sections.map (·.tag))
    (resolved : (reader.receive writer.stored).checkReferences = .ok ()) :
    Exchange (Writer.profile writer) (Reader.profile reader) 0 (reader.receive writer.stored) := by
  have count_le : writer.stored.length ≤ (outline reader.sections).length := by
    have included : writer.stored.map (·.tag) ⊆ reader.sections.map (·.tag) := by
      intro tag member
      rcases List.mem_map.mp member with ⟨source, sourceMember, rfl⟩
      exact present source sourceMember
    have shorter := (List.subperm_of_subset suits.distinct included).length_le
    simpa [outline] using shorter
  have presentCleared : ∀ source ∈ writer.stored,
      source.tag ∈ (outline reader.sections).map (·.tag) := by
    rw [Profile.tags_outline]
    exact present
  have sections := sectionsInto suits (fun _ _ => List.not_mem_nil) presentCleared
  rw [← sameTypes] at sections
  rw [Writer.profile]
  simp only [few, if_true, ← sameTypes]
  apply (sectionCount few count_le 0).bind
  apply sections.andThen
  have checked : (liftExcept (reader.receive writer.stored).checkReferences : Reader Unit).Takes 0
      [] () := Reader.takes_liftExcept_iff.mpr ⟨rfl, resolved⟩
  exact checked.andThen (.pure (reader.receive writer.stored))

end Exchange

/-- A reader that succeeds on a stored profile has a section for each of the stored sections. -/
theorem Profile.present_of_readFrom_eq_ok {writer reader loaded : Profile}
    (suits : reader.Accommodates writer) (sameTypes : reader.types = writer.types)
    (few : (writer.stored.length : Int) ≤ Int32.maxValue.toInt) {bytes : List UInt8}
    (emits : (Writer.profile writer).Emits bytes)
    (accepted : reader.readFrom (.ofBytes bytes) = .ok loaded) :
    ∀ source ∈ writer.stored, source.tag ∈ reader.sections.map (·.tag) := by
  rcases Exchange.i32 (Int32.ofNat writer.stored.length) 0 with ⟨front, countEmits, countTakes⟩
  rcases Writer.Emits.each fun source member =>
    Writer.exists_emits_registeredSection (suits.storable source member) with ⟨back, backEmits⟩
  have split : bytes = front ++ back := by
    apply emits.unique
    rw [Writer.profile]
    simp only [few, if_true]
    exact countEmits.bind backEmits
  cases outcome : Reader.profile reader (.ofBytes bytes) with
  | error failure after => simp [readFrom, readAll, outcome] at accepted
  | ok filled after =>
      rcases reader_eq_ok_iff.mp outcome with ⟨count, between, sections, counted, sectionsRead, _⟩
      rcases Exchange.toInt_ofNat_count few with ⟨value, nonnegative⟩
      rw [split, Source.ofBytes, Reader.sectionCount, countTakes.bind_eq, if_neg nonnegative, value,
        Int.toNat_natCast] at counted
      split at counted
      · cases counted
      · rcases Reader.pure_eq_ok.mp counted with ⟨rfl, rfl⟩
        rw [sameTypes] at sectionsRead
        have present := Reader.present_of_sectionsInto_eq_ok suits backEmits sectionsRead
        rwa [tags_outline] at present

end Resemblance
