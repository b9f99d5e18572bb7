import Resemblance.Proofs.Profile.Stream

/-!
# Contents of sections

What a profile gives for a name after one of its sections has got new content: that content under
its own name, and what was there before under all others. In a coherent profile, sections with
different names have different tags, so that a change of one of them is not seen in another one.
-/

namespace Resemblance

namespace Profile

variable {profile other : Profile} {content : Section} {kind : Kind}

/-! ## Places for contents -/

/-- A section of the profile differs from this one in nothing but its content. -/
def HasPlaceFor (profile : Profile) (content : Section) : Prop :=
  ∃ registered ∈ profile.sections, registered.content.reset = content.reset

theorem HasPlaceFor.of_outline_eq (place : profile.HasPlaceFor content)
    (same : outline other.sections = outline profile.sections) : other.HasPlaceFor content := by
  rcases place with ⟨registered, member, alike⟩
  rcases exists_of_outline_eq same.symm member with ⟨counterpart, counterpartMember, counterpartEq⟩
  exact ⟨counterpart, counterpartMember, (content_reset_eq counterpartEq).trans alike⟩

/-- There is always a table of descriptors to replace. -/
theorem Coherent.hasPlaceFor_descriptors (coherent : profile.Coherent) (table : DescriptorTable) :
    profile.HasPlaceFor (.descriptors table) := by
  rcases coherent.table with ⟨old, member⟩
  exact ⟨_, member, rfl⟩

/-- The elements of a kind are the content of a section. -/
theorem exists_content_of_elements_eq {kind : Kind} {list : ElementList}
    (found : profile.elements kind = .ok list) :
    ∃ registered ∈ profile.sections, registered.content = .elements list := by
  simp only [Profile.elements, elementsIn, content?, section?, find?] at found
  cases registeredFound : profile.sections.find? (·.tag == Hash.nameHash kind.sectionName) with
  | none => simp [registeredFound] at found
  | some registered =>
      refine ⟨registered, List.mem_of_find?_eq_some registeredFound, ?_⟩
      cases contentEq : registered.content with
      | elements others =>
          simp only [registeredFound, contentEq, Except.ok.injEq] at found
          rw [found]
      | _ => simp [registeredFound, contentEq] at found

theorem Coherent.outline_setSection (coherent : profile.Coherent)
    (place : profile.HasPlaceFor content) :
    outline (profile.setSection content).sections = outline profile.sections := by
  rcases place with ⟨registered, member, alike⟩
  have found := (find?_eq_some_iff_of_distinct coherent.distinct).mpr
    ⟨member, Section.tag_eq_of_reset_eq alike⟩
  exact outline_replaceContent_of_find? coherent.distinct found alike.symm

theorem of_mem_setSection {registered : RegisteredSection}
    (member : registered ∈ (profile.setSection content).sections) :
    registered ∈ profile.sections ∨ registered.content = content := by
  rcases List.mem_map.mp member with ⟨original, originalMember, rfl⟩
  split
  · exact .inr rfl
  · exact .inl originalMember

/-- Sections that differ in more than their contents have different tags. -/
theorem Coherent.tag_ne (coherent : profile.Coherent) {different : Section}
    (place : profile.HasPlaceFor content) (otherPlace : profile.HasPlaceFor different)
    (apart : content.reset ≠ different.reset) : content.tag ≠ different.tag := by
  rcases place with ⟨registered, member, alike⟩
  rcases otherPlace with ⟨counterpart, counterpartMember, counterpartAlike⟩
  intro sameTag
  have tagEq : registered.tag = counterpart.tag := by
    rw [RegisteredSection.tag, RegisteredSection.tag, Section.tag_eq_of_reset_eq alike, sameTag,
      Section.tag_eq_of_reset_eq counterpartAlike]
  have same := List.inj_on_of_nodup_map coherent.distinct member counterpartMember tagEq
  rw [same] at alike
  exact apart (alike.symm.trans counterpartAlike)

/-! ## Looking up contents -/

/-- A change that keeps the tags is seen under the name of the section that it changes. -/
theorem content?_map {change : RegisteredSection → RegisteredSection}
    (keeps : ∀ registered, (change registered).tag = registered.tag) (profile : Profile)
    (name : String) :
    ({ profile with sections := profile.sections.map change } : Profile).content? name =
      (profile.section? name).map fun registered => (change registered).content := by
  have found : ({ profile with sections := profile.sections.map change } : Profile).section? name =
      (profile.section? name).map change := by
    simp only [section?, find?, List.find?_map, Function.comp_def, keeps]
  rw [content?, found]
  cases profile.section? name <;> rfl

/-- The new content is found under its name, and all others are what they were. -/
theorem content?_setSection (place : profile.HasPlaceFor content) (name : String) :
    (profile.setSection content).content? name =
      if Hash.nameHash name = content.tag then some content else profile.content? name := by
  rcases place with ⟨placed, member, alike⟩
  have tagEq : placed.tag = content.tag := Section.tag_eq_of_reset_eq alike
  rw [setSection, content?_map]
  · rw [content?]
    cases found : profile.section? name with
    | none =>
        have absent := List.find?_eq_none.mp found placed member
        rw [tagEq] at absent
        have different : Hash.nameHash name ≠ content.tag := by
          rintro same
          simp [same] at absent
        rw [if_neg different]
        rfl
    | some registered =>
        have foundTag : registered.tag = Hash.nameHash name := by
          simpa using List.find?_some found
        rw [Option.map_some, foundTag]
        split <;> rfl
  · intro registered
    split
    · rename_i same
      exact same.symm
    · rfl

theorem content?_setSection_self (place : profile.HasPlaceFor content) :
    (profile.setSection content).content? content.name = some content := by
  rw [content?_setSection place]
  exact if_pos rfl

/-- Of two contents for one section, the later one counts. -/
theorem setSection_setSection {replaced : Section} (same : replaced.tag = content.tag)
    (profile : Profile) :
    (profile.setSection replaced).setSection content = profile.setSection content := by
  simp only [setSection, List.map_map, mk.injEq, true_and, and_true]
  apply List.map_congr_left
  intro registered _
  by_cases here : registered.tag = content.tag
  · have changed : registered.tag = replaced.tag := here.trans same.symm
    simp only [Function.comp_apply, if_pos here, if_pos changed]
    exact if_pos same
  · have unchanged : registered.tag ≠ replaced.tag := fun again => here (again.trans same)
    simp only [Function.comp_apply, if_neg here, if_neg unchanged]

/-- To put the table of descriptors where it is changes nothing. -/
theorem Coherent.setSection_descriptors (coherent : profile.Coherent) {table : DescriptorTable}
    (known : profile.descriptors = .ok table) : profile.setSection (.descriptors table) = profile := by
  rcases coherent.table with ⟨old, member⟩
  have same : old = table := Except.ok.inj ((coherent.descriptors_eq member).symm.trans known)
  subst same
  have unchanged : profile.sections.map (fun registered =>
      if registered.tag = (Section.descriptors old).tag then
        { registered with content := .descriptors old } else registered) = profile.sections := by
    conv_rhs => rw [← List.map_id profile.sections]
    apply List.map_congr_left
    intro registered registeredMember
    split
    · rename_i here
      rw [List.inj_on_of_nodup_map coherent.distinct registeredMember member here]
      rfl
    · rfl
  rw [setSection, unchanged]

theorem Coherent.content?_setSection_of_reset_ne (coherent : profile.Coherent) {different : Section}
    (place : profile.HasPlaceFor content) (otherPlace : profile.HasPlaceFor different)
    (apart : different.reset ≠ content.reset) :
    (profile.setSection content).content? different.name = profile.content? different.name := by
  rw [content?_setSection place]
  exact if_neg (coherent.tag_ne otherPlace place apart)

theorem Coherent.descriptors_setSection (coherent : profile.Coherent)
    (place : profile.HasPlaceFor content) {table : DescriptorTable}
    (known : profile.descriptors = .ok table) :
    (profile.setSection content).descriptors =
      .ok (match content with
        | .descriptors replaced => replaced
        | _ => table) := by
  rw [descriptors, descriptorsIn] at known ⊢
  cases content with
  | descriptors replaced =>
      have found := content?_setSection_self place
      rw [Section.name] at found
      rw [found]
  | _ =>
      have kept := coherent.content?_setSection_of_reset_ne place
        (coherent.hasPlaceFor_descriptors table) (by rintro ⟨⟩)
      rw [Section.name] at kept
      rw [kept]
      exact known

theorem Coherent.elements_eq_of_mem (coherent : profile.Coherent) {registered : RegisteredSection}
    (member : registered ∈ profile.sections) {list : ElementList}
    (contentEq : registered.content = .elements list) : profile.elements list.kind = .ok list := by
  have found := coherent.content?_eq member
  rw [contentEq, Section.name] at found
  rw [Profile.elements, elementsIn, found]

/-- A kind with a section has a list of elements. -/
theorem Coherent.exists_elements_eq (coherent : profile.Coherent)
    (listed : profile.HasPlaceFor (.elements (.empty kind))) :
    ∃ elements, profile.elements kind = .ok ⟨kind, elements⟩ := by
  rcases listed with ⟨registered, member, alike⟩
  cases contentEq : registered.content with
  | elements list =>
      have found := coherent.elements_eq_of_mem member contentEq
      rcases list with ⟨listKind, elements⟩
      rw [contentEq] at alike
      cases alike
      exact ⟨elements, found⟩
  | _ =>
      rw [contentEq] at alike
      cases alike

/-- The elements of a kind stay as they are if something else is replaced. -/
theorem Coherent.elements_setSection_of_reset_ne (coherent : profile.Coherent)
    (place : profile.HasPlaceFor content) (listed : profile.HasPlaceFor (.elements (.empty kind)))
    (apart : Section.elements (.empty kind) ≠ content.reset) :
    (profile.setSection content).elements kind = profile.elements kind := by
  have kept := coherent.content?_setSection_of_reset_ne place listed apart
  rw [Section.name] at kept
  rw [Profile.elements, elementsIn, Profile.elements, elementsIn]
  exact kept ▸ rfl

/-! ## Registered sections -/

@[simp]
theorem blueprints_register (profile : Profile) (retention : Retention) (content : Section) :
    (profile.register retention content).blueprints = profile.blueprints := by
  rw [register]
  split <;> rfl

@[simp]
theorem strategy_register (profile : Profile) (retention : Retention) (content : Section) :
    (profile.register retention content).strategy = profile.strategy := by
  rw [register]
  split <;> rfl

@[simp]
theorem normalizers_register (profile : Profile) (retention : Retention) (content : Section) :
    (profile.register retention content).normalizers = profile.normalizers := by
  rw [register]
  split <;> rfl

theorem of_mem_register {registered : RegisteredSection} {retention : Retention}
    (member : registered ∈ (profile.register retention content).sections) :
    registered ∈ profile.sections ∨ registered = ⟨retention, content⟩ := by
  rw [register] at member
  split at member
  · exact .inl member
  · exact (List.mem_append.mp member).imp id List.mem_singleton.mp

theorem mem_register {registered : RegisteredSection} (member : registered ∈ profile.sections)
    (retention : Retention) (content : Section) :
    registered ∈ (profile.register retention content).sections := by
  rw [register]
  split
  · exact member
  · exact List.mem_append_left _ member

theorem HasPlaceFor.register (place : profile.HasPlaceFor content) (retention : Retention)
    (added : Section) : (profile.register retention added).HasPlaceFor content := by
  rcases place with ⟨registered, member, alike⟩
  exact ⟨registered, mem_register member retention added, alike⟩

theorem Coherent.descriptors_register (coherent : profile.Coherent) (retention : Retention)
    (content : Section) :
    (profile.register retention content).descriptors = profile.descriptors := by
  rcases coherent.table with ⟨table, member⟩
  rw [coherent.descriptors_eq member]
  exact (coherent.register retention content).descriptors_eq (mem_register member retention content)

end Profile

end Resemblance
