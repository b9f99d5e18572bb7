import Mathlib.Data.List.Forall2
import Resemblance.Profile.Blueprint
import Resemblance.Proofs.Value.TypedConstant

/-!
# Elements in a stream

An element conforms to a blueprint if it is of the blueprint's kind and every declared slot, and no
other, holds a value of the declared type. Whatever is read conforms, and conforming elements whose
values can be stored are read back from what is written.
-/

namespace Resemblance

namespace Element

/-- The element is as the blueprint declares, and its values have a property. -/
structure Conforms (blueprint : Blueprint) (property : Value → Prop) (element : Element) :
    Prop where
  kind_eq : element.kind = blueprint.kind
  /-- The slots are filled with values of the declared types. -/
  filled : List.Forall₂
    (fun field slot => ∃ value, slot = some value ∧ value.type = field.2 ∧ property value)
    blueprint.fields element.slots

theorem Conforms.slotCount {blueprint : Blueprint} {property : Value → Prop} {element : Element}
    (conforms : element.Conforms blueprint property) : element.slots.length = blueprint.size :=
  conforms.filled.length_eq.symm

/-- The element is as the blueprint declares and survives in a stream. -/
def Storable (types : TypeTable) (blueprint : Blueprint) (element : Element) : Prop :=
  element.Conforms blueprint (Value.Storable types 0)

end Element

namespace Reader

theorem Regular.slotValues (types : TypeTable) (fields : List (String × ValueType)) :
    (slotValues types fields).Regular := by
  induction fields with
  | nil => exact .pure []
  | cons field fields ih =>
      apply (Regular.payload types field.2).bind
      intro value
      apply ih.bind
      intro values
      exact .pure (some value :: values)

theorem Regular.slotsOf (types : TypeTable) (blueprint : Blueprint) (descriptor : UInt32) :
    (do
      let slots ← Reader.slotValues types blueprint.fields
      return ⟨blueprint.kind, descriptor, slots⟩ : Reader Element).Regular := by
  apply (Regular.slotValues types blueprint.fields).bind
  intro slots
  exact .pure _

theorem Regular.element (types : TypeTable) (blueprint : Blueprint) :
    (element types blueprint).Regular :=
  Regular.index.bind (.slotsOf types blueprint)

theorem filled_of_slotValues_takes {types : TypeTable} {property : Value → Prop} {depth : Nat}
    (each : ∀ {type bytes value}, (payload types type).Takes depth bytes value → property value)
    {fields : List (String × ValueType)} {bytes : List UInt8} {slots : List (Option Value)}
    (takes : (slotValues types fields).Takes depth bytes slots) :
    List.Forall₂
      (fun field slot => ∃ value, slot = some value ∧ value.type = field.2 ∧ property value)
      fields slots := by
  induction fields generalizing bytes slots with
  | nil =>
      rcases takes_pure_iff.mp takes with ⟨_, rfl⟩
      exact .nil
  | cons field fields ih =>
      have later (value : Value) : (do
          let values ← slotValues types fields
          return some value :: values : Reader (List (Option Value))).Regular :=
        (Regular.slotValues types fields).bind fun values => .pure _
      rcases (Regular.payload types field.2).takes_bind later takes with
        ⟨_, _, value, _, valueTakes, rest⟩
      rcases (Regular.slotValues types fields).takes_map rest with ⟨values, valuesTake, rfl⟩
      apply List.Forall₂.cons
      · exact ⟨value, rfl, type_of_payload_takes valueTakes, each valueTakes⟩
      · exact ih valuesTake

/-- An element that is read conforms to its blueprint, with whatever holds of the values read. -/
theorem conforms_of_element_takes {types : TypeTable} {property : Value → Prop} {depth : Nat}
    (each : ∀ {type bytes value}, (payload types type).Takes depth bytes value → property value)
    {blueprint : Blueprint} {bytes : List UInt8} {read : Element}
    (takes : (element types blueprint).Takes depth bytes read) :
    read.Conforms blueprint property := by
  rcases Regular.index.takes_bind (.slotsOf types blueprint) takes with
    ⟨_, _, descriptor, _, _, rest⟩
  rcases (Regular.slotValues types blueprint.fields).takes_map rest with ⟨slots, slotsTake, rfl⟩
  constructor
  · rfl
  · exact filled_of_slotValues_takes each slotsTake

theorem storable_of_element_takes {types : TypeTable} (faithful : types.Faithful)
    {blueprint : Blueprint} {bytes : List UInt8} {read : Element}
    (takes : (element types blueprint).Takes 0 bytes read) : read.Storable types blueprint := by
  apply conforms_of_element_takes _ takes
  intro type bytes value valueTakes
  exact storable_of_payload_takes faithful (Nat.zero_le maxNesting) valueTakes

end Reader

namespace Exchange

theorem slotValues {types : TypeTable} (kind : Kind) {fields : List (String × ValueType)}
    {slots : List (Option Value)}
    (filled : List.Forall₂
      (fun field slot => ∃ value, slot = some value ∧ value.type = field.2 ∧
        value.Storable types 0) fields slots) :
    Exchange (Writer.slotValues types kind (fields.map (·.1)) slots)
      (Reader.slotValues types fields) 0 slots := by
  induction filled with
  | nil => exact .pure []
  | cons here _ ih =>
      rcases here with ⟨value, rfl, typeEq, storable⟩
      have first := payload storable
      rw [typeEq] at first
      exact first.bind (ih.map (some value :: ·))

theorem element {types : TypeTable} {blueprint : Blueprint} {stored : Element}
    (storable : stored.Storable types blueprint) :
    Exchange (Writer.element types blueprint stored) (Reader.element types blueprint) 0 stored := by
  rw [Writer.element, if_neg (not_not.mpr storable.kind_eq),
    if_neg (not_not.mpr storable.slotCount)]
  apply (index stored.descriptor 0).bind
  have slots := (slotValues blueprint.kind storable.filled).map
    fun slots => (⟨blueprint.kind, stored.descriptor, slots⟩ : Element)
  have rebuilt : (⟨blueprint.kind, stored.descriptor, stored.slots⟩ : Element) = stored := by
    rw [← storable.kind_eq]
  rwa [rebuilt] at slots

end Exchange

end Resemblance
