import Resemblance.Number.Binary64

/-!
# Documents

The content of a structured text, free of its notation: scalars, sequences, and mappings from names
to documents in the order in which they are written. Configurations are read from documents and
written as documents, and reports are written as documents.

Some notations write texts, numbers and truth values without marking which is which. Such a scalar
stays a plain scalar, and whoever reads the document decides what it has to be. A tag in front of a
document may name its type.
-/

namespace Resemblance

inductive Document where
  | null
  | bool (truth : Bool)
  | integer (number : Int)
  /-- Any other number. -/
  | decimal (number : Binary64)
  | text (text : String)
  /-- A scalar without a mark of its type. -/
  | plain (text : String)
  | block (text : String)
  | tagged (tag : String) (content : Document)
  | sequence (items : List Document)
  | mapping (entries : List (String × Document))
  deriving Inhabited

namespace Document

/-- The document under a name, if the document is a mapping that has the name. -/
def entry? (name : String) : Document → Option Document
  | mapping entries => (entries.find? (·.1 == name)).map (·.2)
  | _ => none

/-- The text of a scalar, whatever else it could stand for. -/
def text? : Document → Option String
  | text content => some content
  | plain content => some content
  | block content => some content
  | tagged _ content => content.text?
  | _ => none

end Document

end Resemblance
