import Resemblance.Document.Basic
import Resemblance.Document.Yaml.Node

/-!
# Reading YAML

`Yaml.read` turns a text in the notation of configuration files into a document, which must be the
only one in the text. A plain scalar stays a plain scalar of the document, and a tag stays in front
of what it names the type of. A reference stands for the node with its anchor. Since a node may
refer to itself, references inside of references are followed a fixed number of times only; what
they share is built once.
-/

namespace Resemblance

namespace Yaml

namespace Node

mutual

/-- The nodes with an anchor in a node, in the order in which they begin. -/
def anchored : Node → List (Nat × Node)
  | reference _ => []
  | scalar properties style text =>
      properties.anchor?.toList.map fun anchor => (anchor, scalar properties style text)
  | sequence properties items =>
      (properties.anchor?.toList.map fun anchor => (anchor, sequence properties items)) ++
        anchoredItems items
  | mapping properties entries =>
      (properties.anchor?.toList.map fun anchor => (anchor, mapping properties entries)) ++
        anchoredEntries entries

def anchoredItems : List Node → List (Nat × Node)
  | [] => []
  | item :: items => anchored item ++ anchoredItems items

def anchoredEntries : List (Node × Node) → List (Nat × Node)
  | [] => []
  | (key, value) :: entries => anchored key ++ (anchored value ++ anchoredEntries entries)

end

/-- A document behind the tag of a node, if it has one. -/
def withTag (properties : Properties) (content : Document) : Document :=
  match properties.tag? with
  | none => content
  | some tag => .tagged tag content

def scalarDocument : ScalarStyle → String → Document
  | .plain, text => .plain text
  | .quoted, text => .text text
  | .literal, text => .block text
  | .folded, text => .text text

/-- The mapping of some keys and values, or the sequence of them if a key is no name. -/
def entryDocument (entries : List (Document × Document)) : Document :=
  match entries.mapM fun (key, value) => key.text?.map fun name => (name, value) with
  | some named => .mapping named
  | none => .sequence (entries.map fun (key, value) => .sequence [key, value])

mutual

/-- The document of a node, where `target` is what references stand for. -/
def toDocument (target : Nat → Document) : Node → Document
  | reference anchor => target anchor
  | scalar properties style text => withTag properties (scalarDocument style text)
  | sequence properties items => withTag properties (.sequence (itemDocuments target items))
  | mapping properties entries =>
      withTag properties (entryDocument (entryDocuments target entries))

def itemDocuments (target : Nat → Document) : List Node → List Document
  | [] => []
  | item :: items => toDocument target item :: itemDocuments target items

def entryDocuments (target : Nat → Document) : List (Node × Node) → List (Document × Document)
  | [] => []
  | (key, value) :: entries =>
      (toDocument target key, toDocument target value) :: entryDocuments target entries

end

/-- The document under a number; without one, an empty sequence. -/
def target (documents : List (Nat × Document)) (anchor : Nat) : Document :=
  ((documents.find? (·.1 == anchor)).map (·.2)).getD (.sequence [])

/-- The documents of nodes with their numbers, in which references are followed `depth` times. -/
def targets (nodes : List (Nat × Node)) : (depth : Nat) → List (Nat × Document)
  | 0 => []
  | depth + 1 =>
      let documents := targets nodes depth
      nodes.map fun (anchor, node) => (anchor, node.toDocument (target documents))

/-- The nodes with an anchor, of which the last one with a number comes first. -/
def lastAnchored (root : Node) : List (Nat × Node) :=
  root.anchored.reverse

def referenceDepth : Nat := 16

def resolve (root : Node) : Document :=
  root.toDocument (target (targets root.lastAnchored referenceDepth))

end Node

def read (text : String) : Option Document := do
  let tokens ← tokens? text
  let root ← Node.ofTokens? tokens.toList
  return root.resolve

end Yaml

end Resemblance
