import Resemblance.Profile.Element

/-!
# Elements as similarities see them

A similarity compares elements of two profiles, whose descriptor tables and blueprints may differ.
A view replaces the index of a descriptor by its text and the number of a slot by its name, so that
nothing in it depends on how a profile numbers things.
-/

namespace Resemblance

/-- What a similarity may use of an element. -/
structure ElementView where
  kind : Kind
  /-- The text of its descriptor, absent if the table of its profile does not have it. -/
  descriptor? : Option String
  fields : List (String × Option Value)
  isApplication : Bool

namespace ElementView

def field? (view : ElementView) (key : String) : Option Value :=
  (view.fields.find? (·.1 == key)).bind (·.2)

/-- True if both elements have a descriptor, and the same one. -/
def sameDescriptor (left right : ElementView) : Bool :=
  match left.descriptor?, right.descriptor? with
  | some left, some right => left == right
  | _, _ => false

end ElementView

end Resemblance
