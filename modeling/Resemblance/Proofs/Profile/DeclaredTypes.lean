import Resemblance.Proofs.Profile.Element
import Resemblance.Proofs.Value.Representation
import Resemblance.Proofs.Value.Success

/-!
# Elements and the types that a blueprint declares

An element is written if it is of the blueprint's kind and all its slots are filled, whatever the
types of the values in them. The written form does not mention these types, and a reader takes them
from the blueprint. So an element is read back from what was written if and only if its values have
the types that the blueprint declares; other values are misread.

What is inside a value is written with its type. For these types it is enough that the table gives a
type for the hash of its own name, as every table does whose types were registered under their own
names.
-/

namespace Resemblance

namespace TypeTable

/-- The name of a type stands for the type itself, if it stands for any. -/
def NamesOwnTypes (types : TypeTable) : Prop :=
  ∀ type : ValueType, types.contains (Hash.nameHash type.name) = true → types.Knows type

theorem Registered.namesOwnTypes {types : TypeTable} (registered : types.Registered) :
    types.NamesOwnTypes :=
  fun _ => registered.contains_iff.mp

end TypeTable

theorem Value.Tagged.knownTo {types : TypeTable} (own : types.NamesOwnTypes) {value : Value}
    (tagged : value.Tagged types) : value.KnownTo types := by
  induction tagged with
  | intro here _ ih => exact .intro (own _ here) ih

namespace Element

/-- Every slot holds a value of the type that the blueprint declares for it. -/
def TypedAs (blueprint : Blueprint) (element : Element) : Prop :=
  List.Forall₂ (fun field slot => ∃ value, slot = some value ∧ value.type = field.2)
    blueprint.fields element.slots

/-- The element can be written: it is of the kind of the blueprint and complete. -/
structure Writable (types : TypeTable) (blueprint : Blueprint) (element : Element) : Prop where
  kind_eq : element.kind = blueprint.kind
  slotCount : element.slots.length = blueprint.size
  /-- The slots are filled, and the types inside their values are in the table. -/
  filled : ∀ slot ∈ element.slots, ∃ value, slot = some value ∧
    ∀ part ∈ value.parts, part.Tagged types

end Element

/-! ## Writing -/

namespace Writer.SucceedsIf

theorem slotValues (types : TypeTable) (kind : Kind) {keys : List String}
    {slots : List (Option Value)} (sameLength : slots.length = keys.length) :
    (Writer.slotValues types kind keys slots).SucceedsIf
      (∀ slot ∈ slots, ∃ value, slot = some value ∧ ∀ part ∈ value.parts, part.Tagged types) := by
  induction keys generalizing slots with
  | nil =>
      rw [List.length_eq_zero_iff.mp sameLength]
      exact pure.congr (by simp)
  | cons key keys ih =>
      cases slots with
      | nil => cases sameLength
      | cons slot slots =>
          rw [List.length_cons, List.length_cons, Nat.add_right_cancel_iff] at sameLength
          cases slot with
          | none => exact (throw _).congr (by simp)
          | some value =>
              exact ((payload types value).bind (ih sameLength)).congr (by simp)

theorem element (types : TypeTable) (blueprint : Blueprint) (stored : Element) :
    (Writer.element types blueprint stored).SucceedsIf (stored.Writable types blueprint) := by
  rw [Writer.element]
  by_cases sameKind : stored.kind = blueprint.kind
  · rw [if_neg (not_not.mpr sameKind)]
    by_cases sameCount : stored.slots.length = blueprint.size
    · rw [if_neg (not_not.mpr sameCount)]
      have keyCount : stored.slots.length = blueprint.keys.length := by
        rw [sameCount, Blueprint.keys, List.length_map, Blueprint.size]
      refine (after (bytes _) (slotValues types blueprint.kind keyCount)).congr ?_
      exact ⟨fun filled => ⟨sameKind, sameCount, filled⟩, fun writable => writable.filled⟩
    · rw [if_pos sameCount]
      exact (throw _).congr (iff_of_false not_false fun writable => sameCount writable.slotCount)
  · rw [if_pos sameKind]
    exact (throw _).congr (iff_of_false not_false fun writable => sameKind writable.kind_eq)

end Writer.SucceedsIf

/-! ## Reading back -/

namespace Element

theorem typedAs_of_element_takes {types : TypeTable} {blueprint : Blueprint} {depth : Nat}
    {bytes : List UInt8} {read : Element}
    (takes : (Reader.element types blueprint).Takes depth bytes read) : read.TypedAs blueprint := by
  have conforms : read.Conforms blueprint fun _ => True :=
    Reader.conforms_of_element_takes (fun _ => trivial) takes
  refine conforms.filled.imp ?_
  rintro field slot ⟨value, slotEq, typeEq, _⟩
  exact ⟨value, slotEq, typeEq⟩

/--
What was written of an element within the limits of a reader is read back, whatever follows it, if
and only if the values have the declared types.
-/
theorem readBack_iff {types : TypeTable} (own : types.NamesOwnTypes) {blueprint : Blueprint}
    {stored : Element}
    (limits : ∀ value, some value ∈ stored.slots →
      value.Canonical ∧ value.Fits ∧ value.nesting ≤ Reader.maxNesting)
    {sink after : Sink} (success : Writer.element types blueprint stored sink = .ok () after) :
    ∃ bytes, after.bytes = sink.bytes ++ bytes ∧ ∀ position suffix ending,
      Reader.element types blueprint ⟨bytes ++ suffix, position, 0, ending⟩ =
          .ok stored ⟨suffix, position + bytes.length, 0, ending⟩ ↔
        stored.TypedAs blueprint := by
  rcases (Writer.SucceedsIf.element types blueprint stored).of_eq_ok success with
    ⟨writable, bytes, emits, appended⟩
  refine ⟨bytes, appended, ?_⟩
  intro position suffix ending
  constructor
  · intro read
    exact typedAs_of_element_takes ((Reader.Regular.element types blueprint).takes_of_eq_ok read)
  · intro typed
    have storable : stored.Storable types blueprint := by
      refine ⟨writable.kind_eq, ?_⟩
      refine List.forall₂_iff_zip.mpr ⟨typed.length_eq, ?_⟩
      intro field slot member
      rcases (List.forall₂_iff_zip.mp typed).2 member with ⟨value, rfl, typeEq⟩
      have slotMember := (List.of_mem_zip member).2
      rcases writable.filled _ slotMember with ⟨other, otherEq, tagged⟩
      rw [Option.some.injEq] at otherEq
      subst otherEq
      rcases limits value slotMember with ⟨canonical, fits, nesting_le⟩
      refine ⟨value, rfl, typeEq, canonical, fits, ?_, by rwa [Nat.zero_add]⟩
      intro part partMember
      exact (tagged part partMember).knownTo own
    rcases Exchange.element storable with ⟨form, formEmits, formTakes⟩
    rw [formEmits.unique emits] at formTakes
    exact formTakes position suffix ending

/-! ## Other types -/

def arityBlueprint : Blueprint :=
  (Blueprint.empty ⟨"method"⟩).add "arity" .int

def callsBlueprint : Blueprint :=
  (Blueprint.empty ⟨"method"⟩).add "calls" .list

/-- A list in a slot for a list is read back. -/
theorem readBack_iff_calls :
    ∃ bytes, Writer.element .standard callsBlueprint ⟨⟨"method"⟩, 3, [some (.list [.int 5])]⟩
        .empty = .ok () (Sink.empty.append bytes) ∧
      Reader.element .standard callsBlueprint ⟨bytes ++ [7], 0, 0, .endOfBytes⟩ =
        .ok ⟨⟨"method"⟩, 3, [some (.list [.int 5])]⟩ ⟨[7], bytes.length, 0, .endOfBytes⟩ := by
  have leaf {property : Value → Prop} (here : property (.int 5)) :
      (Value.int 5).Everywhere property := .intro here (by simp [Value.parts])
  have whole {property : Value → Prop} (list : property (.list [.int 5]))
      (number : property (.int 5)) : (Value.list [.int 5]).Everywhere property := by
    refine .intro list ?_
    intro part member
    rw [List.mem_singleton.mp member]
    exact leaf number
  have limits : ∀ value, some value ∈ [some (Value.list [.int 5])] →
      value.Canonical ∧ value.Fits ∧ value.nesting ≤ Reader.maxNesting := by
    intro value member
    rw [Option.some.inj (List.mem_singleton.mp member)]
    have fits : (Value.list [.int 5]).FitsHere := by
      change 1 ≤ Reader.maxCollectionLength
      decide
    exact ⟨whole trivial trivial, whole fits trivial, by decide⟩
  have writable : Writable .standard callsBlueprint
      ⟨⟨"method"⟩, 3, [some (.list [.int 5])]⟩ := by
    refine ⟨rfl, rfl, ?_⟩
    intro slot member
    refine ⟨_, List.mem_singleton.mp member, ?_⟩
    intro part partMember
    rw [List.mem_singleton.mp partMember]
    exact leaf (TypeTable.knows_standard .int).contains
  rcases (Writer.SucceedsIf.element .standard callsBlueprint
    ⟨⟨"method"⟩, 3, [some (.list [.int 5])]⟩).exists_emits writable with ⟨form, emits⟩
  have success := emits .empty rfl
  rcases readBack_iff TypeTable.Registered.standard.namesOwnTypes limits success with
    ⟨bytes, appended, readBack⟩
  have formEq : form = bytes := by
    simpa [Sink.append, Sink.empty, Sink.bytes] using appended
  have read := (readBack 0 [7] .endOfBytes).mpr (.cons ⟨_, rfl, rfl⟩ .nil)
  rw [Nat.zero_add] at read
  exact ⟨bytes, by rw [success, formEq], read⟩

/-- A table in which the name of the type of numbers stands for texts. -/
def misnamedTypes : TypeTable :=
  ⟨[⟨Hash.nameHash ValueType.int.name, ValueType.int.name, .string⟩]⟩

/-- How a list of the number zero is written with the table that misnames numbers. -/
def misnamedForm : List UInt8 :=
  [0, 1] ++ toLittleEndian 4 (Hash.nameHash ValueType.int.name).toNat ++ [0]

theorem emits_text :
    (Writer.element .standard arityBlueprint ⟨⟨"method"⟩, 0, [some (.string "a")]⟩).Emits
      [0, 1, 97] := by
  have descriptor : (Writer.index 0).Emits [0] := .varint_of_lt (by decide)
  have length : (Writer.length 1).Emits [1] := .varint_of_lt (by decide)
  have text : (Writer.string "a").Emits ([1] ++ [97]) := length.bind (.bytes [97])
  exact descriptor.bind (text.bind .pure)

theorem emits_misnamedForm :
    (Writer.element misnamedTypes callsBlueprint
      ⟨⟨"method"⟩, 0, [some (.list [.int 0])]⟩).Emits misnamedForm := by
  have tagged : misnamedTypes.contains (Hash.nameHash ValueType.int.name) = true := by
    simp [misnamedTypes, Registry.contains, Registry.find?]
  have tag : (Writer.typeTag misnamedTypes .int).Emits
      (toLittleEndian 4 (Hash.nameHash ValueType.int.name).toNat) := by
    simp only [Writer.typeTag, tagged, if_true]
    exact .bytes _
  have descriptor : (Writer.index 0).Emits [0] := .varint_of_lt (by decide)
  have count : (Writer.length 1).Emits [1] := .varint_of_lt (by decide)
  have number : (Writer.signed 0).Emits [0] := .varint_of_lt (by decide)
  exact descriptor.bind ((count.bind (tag.bind (number.bind .pure))).bind .pure)

/-- The zero is read as the length of a text. -/
theorem takes_misnamedForm :
    (Reader.element misnamedTypes callsBlueprint).Takes 0 misnamedForm
      ⟨⟨"method"⟩, 0, [some (.list [.string ""])]⟩ := by
  have found : misnamedTypes.type? (Hash.nameHash ValueType.int.name) = some .string := by
    simp [misnamedTypes, Registry.type?, Registry.find?]
  have descriptor : Reader.index.Takes 0 [0] 0 := fun _ _ _ => rfl
  have count : Reader.length.Takes 0 [1] 1 := fun _ _ _ => rfl
  have text : Reader.string.Takes 1 ([0] ++ []) "" := by
    have fits : TextFits "" := Nat.zero_le _
    have length : (Writer.length 0).Emits [0] := .varint_of_lt (by decide)
    have form : (Writer.string "").Emits ([0] ++ []) := length.bind (.bytes [])
    rcases Exchange.string fits 1 with ⟨other, otherEmits, otherTakes⟩
    rwa [form.unique otherEmits]
  have item : (Reader.typed misnamedTypes).Takes 0
      (toLittleEndian 4 (Hash.nameHash ValueType.int.name).toNat ++ ([0] ++ []))
      (.string "") :=
    Reader.typedWithin_takes_iff.mpr ⟨_, _, _, .string, rfl, Reader.u32_takes_iff.mpr rfl,
      found, by decide, text.andThen (.pure _)⟩
  have items : (Reader.replicate 1 (Reader.typed misnamedTypes)).Takes 0 _ [.string ""] :=
    item.andThen (.pure _)
  have list : (Reader.payload misnamedTypes .list).Takes 0 _ (.list [.string ""]) :=
    count.bind (items.andThen (.pure _))
  have slots : (Reader.slotValues misnamedTypes callsBlueprint.fields).Takes 0 _
      [some (.list [.string ""])] :=
    list.bind ((Reader.Takes.pure []).andThen (.pure _))
  exact descriptor.bind (slots.andThen (.pure _))

/--
A text in a slot for a number is written and read as a number, and something is left. A number in a
list is read as a text by a table that misnames the type of numbers.
-/
theorem element_misread :
    (∃ stored, (arityBlueprint.instantiate 0).setValue 0 (.string "a") = .ok stored ∧
      Writer.element .standard arityBlueprint stored .empty =
        .ok () (Sink.empty.append [0, 1, 97]) ∧
      Reader.element .standard arityBlueprint (.ofBytes [0, 1, 97]) =
        .ok ⟨⟨"method"⟩, 0, [some (.int (-1))]⟩ ⟨[97], 2, 0, .endOfBytes⟩) ∧
    TypeTable.empty.registerAs ValueType.int.name .string = .ok misnamedTypes ∧
      ∃ stored bytes, (callsBlueprint.instantiate 0).setValue 0 (.list [.int 0]) = .ok stored ∧
        Writer.element misnamedTypes callsBlueprint stored .empty =
          .ok () (Sink.empty.append bytes) ∧
        Reader.element misnamedTypes callsBlueprint (.ofBytes bytes) =
          .ok ⟨⟨"method"⟩, 0, [some (.list [.string ""])]⟩ ⟨[], bytes.length, 0, .endOfBytes⟩ := by
  constructor
  · exact ⟨_, rfl, emits_text .empty rfl, rfl⟩
  · have read := takes_misnamedForm 0 [] .endOfBytes
    rw [List.append_nil, Nat.zero_add] at read
    exact ⟨rfl, _, misnamedForm, rfl, emits_misnamedForm .empty rfl, read⟩

end Element

end Resemblance
