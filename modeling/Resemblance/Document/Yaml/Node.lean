import Resemblance.Document.Yaml.Token
import Resemblance.Text.Utf8

/-!
# Nodes of a YAML text

`Node.ofTokens?` reads the tokens of a text as a tree: scalars, sequences and mappings with their
properties, and references to nodes that have an anchor. An anchor is known from its node on, also
inside the node, and anchors are numbered. A new anchor gets the number of different names before
it, so that one whose name has been used already may share its number with a later one, which then
takes its place.
-/

namespace Resemblance

namespace Yaml

structure Properties where
  anchor? : Option Nat
  tag? : Option String
  deriving DecidableEq, Repr

inductive Node where
  /-- What stands elsewhere under an anchor. -/
  | reference (anchor : Nat)
  | scalar (properties : Properties) (style : ScalarStyle) (text : String)
  | sequence (properties : Properties) (items : List Node)
  | mapping (properties : Properties) (entries : List (Node × Node))
  deriving Inhabited

namespace Node

def absent : Node :=
  .scalar ⟨none, none⟩ .plain ""

/-- What is left of the tokens of a text, and what is known when they are read. -/
structure Reading where
  tokens : List Token
  handles : List (String × List UInt8)
  anchors : List (String × Nat)

/-- A step of reading tokens, which may fail. -/
abbrev Reader := StateT Reading Option

namespace Reader

def peek? : Reader (Option Token) := do
  return (← get).tokens.head?

def skip : Reader Unit :=
  modify fun reading => { reading with tokens := reading.tokens.drop 1 }

def nextIsOneOf (tokens : List Token) : Reader Bool := do
  return (← peek?).any tokens.contains

/-- Passes the next token if it is the given one, and tells whether it was. -/
def pass (token : Token) : Reader Bool := do
  if ← nextIsOneOf [token] then
    skip
    return true
  else return false

/-- Passes the next token, which must be the given one. -/
def expect (token : Token) : Reader Unit := do
  if ← pass token then return () else failure

def anchor? : Reader (Option String) := do
  match ← peek? with
  | some (.anchor name) => do
      skip
      return some name
  | _ => return none

def tag? : Reader (Option Tag) := do
  match ← peek? with
  | some (.tag tag) => do
      skip
      return some tag
  | _ => return none

/-- The bytes of a tag, whose handle must be known. -/
def tagBytes (tag : Tag) : Reader (List UInt8) := do
  match tag.handle? with
  | none => return tag.suffix
  | some handle =>
      match (← get).handles.find? (·.1 == handle) with
      | some (_, start) => return start ++ tag.suffix
      | none => failure

/-- The text of a tag; none if its bytes are no text. -/
def tagText? (tag? : Option Tag) : Reader (Option String) := do
  match tag? with
  | none => return none
  | some tag => return (Text.Utf8.decode (← tagBytes tag)).toOption

def number (name : String) : Reader Nat := do
  let anchors := (← get).anchors
  let others := anchors.filter (·.1 != name)
  modify fun reading => { reading with anchors := (name, anchors.length) :: others }
  return anchors.length

/-- Passes the properties of a node in any order, and tells whether there are some. -/
def properties : Reader (Bool × Properties) := do
  let before? ← anchor?
  let tag? ← tag?
  let after? ← if before?.isSome then pure none else anchor?
  let name? := before? <|> after?
  let text? ← tagText? tag?
  let anchor? ← name?.mapM number
  return (name?.isSome || tag?.isSome, ⟨anchor?, text?⟩)

end Reader

open Reader

mutual

/--
Reads a node in at most `steps` steps. Only an indented one may consist of indented nodes, and items
in the column of their key have no mark before the first one.
-/
def read : (steps : Nat) → (indented inKeyColumn : Bool) → Reader Node
  | 0, _, _ => failure
  | steps + 1, indented, inKeyColumn => do
      if let some (.reference name) ← peek? then
        skip
        match (← get).anchors.find? (·.1 == name) with
        | some (_, anchor) => return .reference anchor
        | none => failure
      else
        let (present, properties) ← properties
        match ← peek? with
        | some (.scalar style text) => do
            skip
            return .scalar properties style text
        | some .flowSequence => do
            skip
            return .sequence properties (← flowItems steps true)
        | some .flowMapping => do
            skip
            return .mapping properties (← flowEntries steps true)
        | some .blockSequence =>
            if indented then
              skip
              return .sequence properties (← blockItems steps)
            else emptyScalar present properties
        | some .blockMapping =>
            if indented then
              skip
              return .mapping properties (← blockEntries steps)
            else emptyScalar present properties
        | some .blockEntry =>
            if inKeyColumn then return .sequence properties (← keyColumnItems steps)
            else emptyScalar present properties
        | _ => emptyScalar present properties

def emptyScalar (present : Bool) (properties : Properties) : Reader Node :=
  if present then return .scalar properties .plain "" else failure

/-- Reads a node, unless one of some tokens follows, before which it is not written. -/
def readBefore : (steps : Nat) → (ends : List Token) → (indented inKeyColumn : Bool) → Reader Node
  | 0, _, _, _ => failure
  | steps + 1, ends, indented, inKeyColumn => do
      if ← nextIsOneOf ends then return absent else read steps indented inKeyColumn

/-- Reads a value with its mark, if it has one. -/
def valueBefore : (steps : Nat) → (ends : List Token) → (indented : Bool) → Reader Node
  | 0, _, _ => failure
  | steps + 1, ends, indented => do
      if ← pass .value then readBefore steps ends indented indented else return absent

def blockItems : (steps : Nat) → Reader (List Node)
  | 0 => failure
  | steps + 1 => do
      if ← pass .blockEnd then return []
      else
        expect .blockEntry
        let item ← readBefore steps [.blockEntry, .blockEnd] true false
        return item :: (← blockItems steps)

def keyColumnItems : (steps : Nat) → Reader (List Node)
  | 0 => failure
  | steps + 1 => do
      if ← pass .blockEntry then
        let item ← readBefore steps [.blockEntry, .key, .value, .blockEnd] true false
        return item :: (← keyColumnItems steps)
      else return []

def blockEntries : (steps : Nat) → Reader (List (Node × Node))
  | 0 => failure
  | steps + 1 => do
      if ← pass .blockEnd then return []
      else
        expect .key
        let ends := [Token.key, .value, .blockEnd]
        let key ← readBefore steps ends true true
        let value ← valueBefore steps ends true
        return (key, value) :: (← blockEntries steps)

/-- Reads the items up to a closing bracket; a key makes an item a mapping with one entry. -/
def flowItems : (steps : Nat) → (first : Bool) → Reader (List Node)
  | 0, _ => failure
  | steps + 1, first => do
      if ← pass .flowSequenceEnd then return []
      else
        if !first then expect .flowEntry
        if ← pass .flowSequenceEnd then
          if first then failure else return []
        else if ← pass .key then
          let ends := [Token.flowEntry, .flowSequenceEnd]
          let key ←
            if ← nextIsOneOf (.value :: ends) then
              skip
              pure absent
            else read steps false false
          let value ← valueBefore steps ends false
          return .mapping ⟨none, none⟩ [(key, value)] :: (← flowItems steps false)
        else
          let item ← read steps false false
          return item :: (← flowItems steps false)

/-- Reads the entries up to a closing brace; a node without a mark is a key without a value. -/
def flowEntries : (steps : Nat) → (first : Bool) → Reader (List (Node × Node))
  | 0, _ => failure
  | steps + 1, first => do
      if ← pass .flowMappingEnd then return []
      else
        if !first then expect .flowEntry
        if ← pass .flowMappingEnd then
          if first then failure else return []
        else if ← pass .key then
          let ends := [Token.flowEntry, .flowMappingEnd]
          let key ← readBefore steps (.value :: ends) false false
          let value ← valueBefore steps ends false
          return (key, value) :: (← flowEntries steps false)
        else
          let key ← read steps false false
          return (key, absent) :: (← flowEntries steps false)

end

/-- What the handles of tags stand for if no directive tells. -/
def standardHandles : List (String × List UInt8) :=
  [("!", nameBytes "!"), ("!!", nameBytes "tag:yaml.org,2002:")]

/--
What the handles of tags stand for after some directives: there may be one version, which must be
1.1 or 1.2, and each handle may be defined once.
-/
def handles? (versioned : Bool) (handles : List (String × List UInt8)) :
    List Directive → Option (List (String × List UInt8))
  | [] => some (handles ++ standardHandles)
  | .version major minor :: directives =>
      if versioned || major ≠ 1 || (minor ≠ 1 && minor ≠ 2) then none
      else handles? true handles directives
  | .handle handle start :: directives =>
      if handles.any (·.1 == handle) then none
      else handles? versioned (handles ++ [(handle, start)]) directives

def directive? : Token → Option Directive
  | .directive directive => some directive
  | _ => none

/-- Reads a document after its directives, of which there are some or none, and its end. -/
def document (steps : Nat) (directed : Bool) : Reader Node := do
  let ends := [Token.documentStart, .documentEnd]
  let root ←
    if ← pass .documentStart then
      if (← peek?).all fun token => ends.contains token || (directive? token).isSome then
        pure absent
      else read steps true false
    else if directed then failure
    else if (← peek?).isNone then pure absent
    else read steps true false
  modify fun reading =>
    { reading with tokens := reading.tokens.dropWhile (· == .documentEnd) }
  if (← peek?).isSome then failure else return root

/-- The only document that the tokens of a text make up; no tokens make up an empty one. -/
def ofTokens? (tokens : List Token) : Option Node := do
  let directives := (tokens.map directive?).takeWhile (·.isSome)
  let handles ← handles? false [] (directives.filterMap id)
  let rest := tokens.drop directives.length
  let steps := 3 * tokens.length + 3
  let (root, _) ← (document steps !directives.isEmpty).run ⟨rest, handles, []⟩
  return root

end Node

end Yaml

end Resemblance
