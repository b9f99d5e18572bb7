import Resemblance.Proofs.Profile.DeclaredTypes
import Resemblance.Proofs.Profile.Receiving

/-!
# Profiles that can be written

A writer of profiles is stopped by few things: an element that its blueprint does not describe, a
type that is not in the table, or more sections than can be counted. Descriptors, texts and numbers
of any size are written, also those that no reader accepts.
-/

namespace Resemblance

/-- The section can be written, whoever may read it. -/
def Section.Writable (types : TypeTable) (blueprints : Blueprints) : Section → Prop
  | .descriptors _ => True
  | .metadata stored => ∀ part ∈ (Value.map stored.attributes).parts, part.Tagged types
  | .buildInfo _ => True
  | .elements list => ∃ blueprint, blueprints.get? list.kind = some blueprint ∧
      ∀ element ∈ list.elements, element.Writable types blueprint

namespace Writer.SucceedsIf

theorem descriptorTable (table : DescriptorTable) :
    (Writer.descriptorTable table).SucceedsIf True :=
  after (bytes _) (each_true fun entry _ => after (string entry.1) (bytes _))

theorem attributes (types : TypeTable) (entries : Attributes) :
    (Writer.attributes types entries).SucceedsIf
      (∀ part ∈ (Value.map entries).parts, part.Tagged types) :=
  payload types (.map entries)

theorem metadata (types : TypeTable) (stored : Metadata) :
    (Writer.metadata types stored).SucceedsIf
      (∀ part ∈ (Value.map stored.attributes).parts, part.Tagged types) :=
  after (bytes _) (after (bytes _) (after (string _) (after (string _) (after (bytes _)
    (after (bytes _) (attributes types stored.attributes))))))

theorem buildInfo (info : BuildInfo) : (Writer.buildInfo info).SucceedsIf True := by
  have counts : (Writer.each (fun entry => do Writer.string entry.1; Writer.length entry.2)
      info.counts.entries).SucceedsIf True :=
    each_true fun entry _ => after (string entry.1) (bytes _)
  exact after (string _) (after (string _) (after (bytes _) (after (bytes _) (after counts
    (after (bytes _) (each_true fun name _ => string name))))))

theorem elementList (types : TypeTable) (blueprints : Blueprints) (list : ElementList) :
    (Writer.elementList types blueprints list).SucceedsIf
      ((Section.elements list).Writable types blueprints) := by
  cases found : blueprints.get? list.kind with
  | none =>
      have stopped : Writer.elementList types blueprints list =
          MonadExcept.throw (Failure.notRegistered (.blueprint list.kind.name)) := by
        simp only [Writer.elementList, Blueprints.get, found]
        rfl
      rw [stopped]
      refine (throw _).congr (iff_of_false not_false ?_)
      rintro ⟨blueprint, known, _⟩
      rw [found] at known
      cases known
  | some blueprint =>
      have opened : Writer.elementList types blueprints list = (do
          Writer.length list.elements.length
          Writer.each (Writer.element types blueprint) list.elements) := by
        simp only [Writer.elementList, Blueprints.get_eq_of_get?_eq found]
        rfl
      rw [opened]
      have elements := each fun stored (_ : stored ∈ list.elements) =>
        element types blueprint stored
      refine (after (bytes _) elements).congr ?_
      simp [Section.Writable, found]

theorem sectionContent (types : TypeTable) (blueprints : Blueprints) (content : Section) :
    (Writer.sectionContent types blueprints content).SucceedsIf
      (content.Writable types blueprints) := by
  cases content with
  | descriptors table => exact descriptorTable table
  | metadata stored => exact metadata types stored
  | buildInfo info => exact buildInfo info
  | elements list => exact elementList types blueprints list

theorem registeredSection (types : TypeTable) (blueprints : Blueprints)
    (registered : RegisteredSection) :
    (Writer.registeredSection types blueprints registered).SucceedsIf
      (registered.content.Writable types blueprints) :=
  after (bytes _) (sectionContent types blueprints registered.content)

/-- A profile is written if its stored sections can be counted and each of them can be written. -/
theorem profile (stored : Profile) :
    (Writer.profile stored).SucceedsIf
      ((stored.stored.length : Int) ≤ Int32.maxValue.toInt ∧
        ∀ registered ∈ stored.stored,
          registered.content.Writable stored.types stored.blueprints) :=
  guarded (after (bytes _) (each fun registered _ =>
    registeredSection stored.types stored.blueprints registered)) _

end Writer.SucceedsIf

end Resemblance
