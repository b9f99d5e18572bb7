import Mathlib
import Resemblance.Proofs.Profile.PrefixFree
import Resemblance.Proofs.Value.Compositional
import Resemblance.Proofs.Value.Ranges
import Resemblance.Proofs.Wire.Orderly
import Resemblance.Storage.ProfileFile

/-!
# Malformed profiles

Whatever the bytes are, an assembled profile is read from them or refuses them as malformed. The
other ways in which the readers of a profile can fail do not occur: the profile has a blueprint for every
list of elements and a descriptor table, an element has a slot for every field of its blueprint, and
the steps on machine words stay in range. And the reading keeps its books in order, so that the
position never passes the end of the bytes and the depth of nesting is zero again.
-/

namespace Resemblance

namespace Reader

/-! ## Filling the slots of an element -/

/-- Puts the values of fields into the slots of an element, from number `slot` on. -/
def slotsInto (types : TypeTable) (element : Element) (slot : Nat) :
    List (String × ValueType) → Reader Element
  | [] => return element
  | (_, type) :: fields => do
      let value ← payload types type
      let element ← liftExcept (element.setValue slot value)
      slotsInto types element (slot + 1) fields

/-- Reads an element whose slots are empty first and then filled one after the other. -/
def elementBySlots (types : TypeTable) (blueprint : Blueprint) : Reader Element := do
  let descriptor ← index
  slotsInto types (blueprint.instantiate descriptor) 0 blueprint.fields

/-- A slot behind those that are filled takes a value as long as there are empty slots. -/
theorem setValue_eq {kind : Kind} {descriptor : UInt32} {filled empty : List (Option Value)}
    (value : Value) :
    (⟨kind, descriptor, filled ++ none :: empty⟩ : Element).setValue filled.length value =
      .ok ⟨kind, descriptor, filled ++ [some value] ++ empty⟩ := by
  have within : filled.length < (filled ++ none :: empty).length := by
    rw [List.length_append, List.length_cons]
    omega
  rw [Element.setValue, if_pos within]
  simp

/-- As many empty slots as there are fields are filled with the values of the fields. -/
theorem slotsInto_eq {types : TypeTable} {kind : Kind} {descriptor : UInt32}
    (fields : List (String × ValueType)) (filled : List (Option Value)) :
    slotsInto types ⟨kind, descriptor, filled ++ List.replicate fields.length none⟩ filled.length
        fields =
      (do
        let values ← slotValues types fields
        return ⟨kind, descriptor, filled ++ values⟩) := by
  induction fields generalizing filled with
  | nil => rfl
  | cons field fields ih =>
      simp only [slotsInto, slotValues, bind_assoc, pure_bind]
      refine bind_congr fun value => ?_
      rw [List.length_cons, List.replicate_succ, setValue_eq]
      have more := ih (filled ++ [some value])
      rw [List.length_append, List.length_singleton] at more
      simp only [List.append_assoc, List.singleton_append] at more ⊢
      exact more

/-- The slots of a new element are as many as its blueprint has fields. -/
theorem elementBySlots_eq (types : TypeTable) (blueprint : Blueprint) :
    elementBySlots types blueprint = element types blueprint :=
  bind_congr fun _ => slotsInto_eq blueprint.fields []

/-! ## Orderly reading of sections -/

namespace Orderly

theorem slotValues (types : TypeTable) (fields : List (String × ValueType)) :
    (Reader.slotValues types fields).Orderly := by
  induction fields with
  | nil => exact .pure []
  | cons field fields ih =>
      exact (compositional.payload types field.2).bind fun value => ih.bind fun values => .pure _

theorem element (types : TypeTable) (blueprint : Blueprint) :
    (Reader.element types blueprint).Orderly :=
  compositional.index.bind fun _ => (slotValues types blueprint.fields).bind fun _ => .pure _

theorem elementList (types : TypeTable) (blueprints : Blueprints) (kind : Kind) :
    (Reader.elementList types blueprints kind).Orderly := by
  have known : (liftExcept (blueprints.get kind) : Reader Blueprint).Orderly := by
    apply ofExcept
    intro failure failed first last
    rw [Blueprints.get] at failed
    split at failed
    · cases failed
    · simp only [Except.error.injEq] at failed
      rw [← failed]
      rintro _ _ _ ⟨⟩
  exact known.bind fun blueprint => compositional.length.bind fun count =>
    (compositional.replicate (element types blueprint) count).bind fun _ => .pure _

theorem descriptorTable : Reader.descriptorTable.Orderly := by
  refine compositional.length.bind fun count => ?_
  rw [descriptorsAfter_eq_keyedAfter]
  exact (compositional.keyedAfter compositional.index [] count).bind fun _ => .pure _

theorem formatVersion : Reader.formatVersion.Orderly := by
  refine compositional.index.bind fun version => ?_
  split
  · exact .fail (.newerVersion version Metadata.currentVersion)
  · exact .pure version

theorem time : Reader.time.Orderly := by
  refine compositional.i64.bind fun millis => ?_
  split
  · exact .pure millis
  · exact .fail (.timestampOutOfRange millis)

theorem metadata (types : TypeTable) : (Reader.metadata types).Orderly :=
  formatVersion.bind fun _ => (exact 16).bind fun _ => compositional.string.bind fun _ =>
    compositional.string.bind fun _ => compositional.bool.bind fun _ => time.bind fun _ =>
      (compositional.attributes types).bind fun _ => .pure _

theorem kindCount : Reader.kindCount.Orderly :=
  compositional.string.bind fun _ => compositional.length.bind fun _ => .pure _

theorem buildInfo : Reader.buildInfo.Orderly :=
  compositional.string.bind fun _ => compositional.string.bind fun _ => varint.bind fun _ =>
    compositional.length.bind fun kinds =>
      (compositional.replicate kindCount kinds).bind fun _ => compositional.length.bind fun size =>
        (compositional.replicate compositional.string size).bind fun _ => .pure _

theorem sectionContent (types : TypeTable) (blueprints : Blueprints) (content : Section) :
    (Reader.sectionContent types blueprints content).Orderly := by
  cases content with
  | descriptors table => exact descriptorTable.bind fun _ => .pure _
  | metadata content => exact (metadata types).bind fun _ => .pure _
  | buildInfo info => exact buildInfo.bind fun _ => .pure _
  | elements list => exact (elementList types blueprints list.kind).bind fun _ => .pure _

theorem sectionCount (registered : Nat) : (Reader.sectionCount registered).Orderly := by
  refine compositional.i32.bind fun count => ?_
  split
  · exact .fail (.negativeSectionCount count)
  · split
    · exact .fail (.tooManySections count registered)
    · exact .pure count.toInt.toNat

theorem sectionsInto (types : TypeTable) (blueprints : Blueprints) (seen : List UInt32)
    (sections : List RegisteredSection) (count : Nat) :
    (Reader.sectionsInto types blueprints seen sections count).Orderly := by
  induction count generalizing seen sections with
  | zero => exact .pure sections
  | succ count ih =>
      refine compositional.u32.bind fun tag => ?_
      split
      · exact .fail (.repeatedSection tag)
      · split
        · exact .fail (.unknownSection tag)
        · exact (sectionContent types blueprints _).bind fun content => ih _ _

/-- References are checked when the whole stream was read, so no offset belongs to their faults. -/
theorem checkReferences (profile : Profile) :
    (liftExcept profile.checkReferences : Reader Unit).Orderly := by
  apply ofExcept
  intro failure failed first last
  cases known : profile.descriptors with
  | error missing =>
      have missingEq : missing = failure := by
        simp only [Profile.checkReferences, known] at failed
        exact Except.error.inj failed
      simp only [Profile.descriptors, Profile.descriptorsIn] at known
      split at known
      · cases known
      · simp only [Except.error.injEq] at known
        rw [← missingEq, ← known]
        rintro _ _ _ ⟨⟩
  | ok table =>
      rw [Profile.checkReferences_eq known] at failed
      rcases Profile.exists_of_checks_eq_error failed with ⟨⟨_, content⟩, _, checkFailed⟩
      cases content with
      | elements list =>
          simp only [Section.check, ElementList.checkDescriptors] at checkFailed
          split at checkFailed
          · simp only [Except.error.injEq] at checkFailed
            rw [← checkFailed]
            rintro _ _ _ ⟨⟩
            exact ⟨rfl, fun _ impossible => by cases impossible⟩
          · cases checkFailed
      | _ => cases checkFailed

theorem profile (reading : Profile) : (Reader.profile reading).Orderly :=
  (sectionCount _).bind fun count => (sectionsInto _ _ [] _ count).bind fun sections =>
    (checkReferences { reading.resetSections with sections }).bind fun _ => .pure _

end Orderly

end Reader

namespace Profile

/-- Reading counts every byte that it takes, and leaves no constant half-way. -/
theorem position_eq_of_readAll_eq {profile read : Profile} {source left : Source}
    {result : Except Failure Unit} (ended : profile.readAll source = (result, read, left)) :
    left.position + left.rest.length = source.position + source.rest.length ∧
      left.depth = source.depth := by
  have orderly := Reader.Orderly.profile profile
  rw [readAll] at ended
  cases outcome : Reader.profile profile source with
  | ok filled after =>
      simp only [outcome, Prod.mk.injEq] at ended
      rcases ended with ⟨_, _, rfl⟩
      have reached := orderly.reaches outcome
      exact ⟨reached.position_eq, reached.depth_eq⟩
  | error failure after =>
      simp only [outcome, Prod.mk.injEq] at ended
      rcases ended with ⟨_, _, rfl⟩
      have reached := (orderly.locates outcome).1
      exact ⟨reached.position_eq, reached.depth_eq⟩

/-- A refused byte string is malformed at one of its bytes or as a whole. -/
theorem exists_format_of_readFrom_eq_error {profile : Profile} {bytes : List UInt8}
    {failure : Failure} (regular : (Reader.profile profile).Regular)
    (refused : profile.readFrom (.ofBytes bytes) = .error failure) :
    ∃ fault offset?, failure = .format fault none offset? ∧
      ∀ offset, offset? = some offset → offset ≤ bytes.length := by
  rcases isFormat_of_readFrom_eq_error regular refused with ⟨fault, path?, offset?, rfl⟩
  cases outcome : Reader.profile profile (.ofBytes bytes) with
  | error other after =>
      simp only [readFrom, readAll, outcome, Except.error.injEq] at refused
      rcases (Reader.Orderly.profile profile).locates outcome with ⟨reached, located⟩
      rcases located fault path? offset? refused with ⟨rfl, bounds⟩
      refine ⟨fault, offset?, rfl, ?_⟩
      intro offset offsetEq
      have le_after := (bounds offset offsetEq).2
      have sum : after.position + after.rest.length = 0 + bytes.length := reached.position_eq
      omega
  | ok filled after =>
      simp only [readFrom, readAll, outcome] at refused
      split at refused
      · cases refused
      · cases refused
      · simp only [Except.error.injEq, Failure.format.injEq] at refused
        rcases refused with ⟨_, rfl, rfl⟩
        exact ⟨fault, none, rfl, fun _ impossible => by cases impossible⟩

/-- Loading an existing file fails as reading its bytes does, and names the file. -/
theorem load_eq_of_node?_eq {profile : Profile} {path : String} {tree : FileTree}
    {bytes : List UInt8} (existing : tree.node? path = some (.file bytes)) :
    profile.load path tree =
      match profile.readFrom (.ofBytes bytes) with
      | .ok loaded => .ok { loaded with source? := some path }
      | .error failure => .error (failure.withPath path) := by
  simp only [load, existing, FileNode.toSource]
  cases profile.readFrom (.ofBytes bytes) <;> rfl

end Profile

/--
An assembled profile accepts a byte string or refuses it as malformed, at an offset within it or as
a whole; loading a file with these bytes fails in the same way and names the file as well. The
reading ends with its position within the bytes and outside of all constants, and the forms of the
readers in which slots, slices and shifts may be out of range are the readers that it uses.
-/
theorem Assembly.readFrom_isSafe {assembly : Assembly} {profile : Profile}
    (built : assembly.build = .ok profile) (bytes : List UInt8) :
    ((∃ loaded, profile.readFrom (.ofBytes bytes) = .ok loaded) ∨
      ∃ fault offset?, profile.readFrom (.ofBytes bytes) = .error (.format fault none offset?) ∧
        ∀ offset, offset? = some offset → offset ≤ bytes.length) ∧
    (∀ path tree failure, tree.node? path = some (.file bytes) →
      profile.load path tree = .error failure →
      ∃ fault offset?, failure = .format fault (some path) offset? ∧
        profile.readFrom (.ofBytes bytes) = .error (.format fault none offset?)) ∧
    (∀ result read left, profile.readAll (.ofBytes bytes) = (result, read, left) →
      left.position + left.rest.length = bytes.length ∧ left.depth = 0) ∧
    (∀ blueprint,
      Reader.elementBySlots profile.types blueprint = Reader.element profile.types blueprint) ∧
    Reader.bloomFilterBySlice = Reader.bloomFilter ∧ Reader.varintByShifts = Reader.varint := by
  have regular := (assembled_of_build_eq built).regular
  refine ⟨?_, ?_, ?_, Reader.elementBySlots_eq profile.types, Reader.bloomFilterBySlice_eq,
    Reader.varintByShifts_eq⟩
  · cases outcome : profile.readFrom (.ofBytes bytes) with
    | ok loaded => exact Or.inl ⟨loaded, rfl⟩
    | error failure =>
        rcases Profile.exists_format_of_readFrom_eq_error regular outcome with
          ⟨fault, offset?, rfl, within⟩
        exact Or.inr ⟨fault, offset?, rfl, within⟩
  · intro path tree failure existing failed
    rw [Profile.load_eq_of_node?_eq existing] at failed
    cases outcome : profile.readFrom (.ofBytes bytes) with
    | ok loaded => simp [outcome] at failed
    | error other =>
        rcases Profile.exists_format_of_readFrom_eq_error regular outcome with
          ⟨fault, offset?, rfl, _⟩
        simp only [outcome, Except.error.injEq] at failed
        exact ⟨fault, offset?, failed.symm, rfl⟩
  · intro result read left ended
    rcases Profile.position_eq_of_readAll_eq ended with ⟨positionEq, depthEq⟩
    exact ⟨positionEq.trans (Nat.zero_add bytes.length), depthEq⟩

/-- A working directory with one file. -/
def treeOfFile (bytes : List UInt8) : FileTree :=
  ⟨[(["home", "x"], .file bytes)], ["home"]⟩

theorem node?_treeOfFile (bytes : List UInt8) :
    (treeOfFile bytes).node? "x" = some (.file bytes) := by
  cbv

/-- A file that holds the overlong table and one byte more is refused as malformed, by its name. -/
theorem Assembly.readFrom_isSafe_trailingByte :
    ∃ profile fault offset?, (ofConfig .standard).build = .ok profile ∧
      profile.load "x" (treeOfFile (overlongTable ++ [0])) =
        .error (.format fault (some "x") offset?) := by
  rcases exists_readFrom_overlongTable_eq_ok with ⟨profile, loaded, built, accepted, _⟩
  have existing := node?_treeOfFile (overlongTable ++ [0])
  have regular := (assembled_of_build_eq built).regular
  rcases Profile.takes_of_readFrom_eq_ok regular accepted with ⟨filled, takes, _⟩
  have refused : profile.load "x" (treeOfFile (overlongTable ++ [0])) =
      .error (.format .trailingBytes (some "x") none) := by
    rw [Profile.load_eq_of_node?_eq existing,
      Profile.readFrom_append_of_takes takes (List.cons_ne_nil 0 [])]
    rfl
  rcases (readFrom_isSafe built (overlongTable ++ [0])).2.1 _ _ _ existing refused with
    ⟨fault, offset?, failureEq, _⟩
  exact ⟨profile, fault, offset?, built, refused.trans (congrArg Except.error failureEq)⟩

end Resemblance
