import Resemblance.Document.Yaml.BlockScalar
import Resemblance.Document.Yaml.Property
import Resemblance.Document.Yaml.Scalar

/-!
# Tokens of a YAML text

`Yaml.tokens?` splits a text into scalars, marks and properties, and makes the structure explicit
that indentation shows: a token stands where a mapping or sequence of indented nodes begins, and one
where it ends. A key is recognized by the colon behind it, so the token that marks a key is put in
front of one that has been read already; until then the key is a candidate. A key without a mark of
its own has to stand in one line, and at most 1024 bytes before its colon.
-/

namespace Resemblance

namespace Yaml

inductive ScalarStyle where
  | plain
  | quoted
  | literal
  | folded
  deriving DecidableEq, Repr

inductive Token where
  | directive (directive : Directive)
  | documentStart
  | documentEnd
  | blockSequence
  | blockMapping
  | blockEnd
  | flowSequence
  | flowSequenceEnd
  | flowMapping
  | flowMappingEnd
  | blockEntry
  | flowEntry
  | key
  | value
  | reference (name : String)
  | anchor (name : String)
  | tag (tag : Tag)
  | scalar (style : ScalarStyle) (text : String)
  deriving DecidableEq, Repr

/-- A node that is a key if a colon follows it. -/
structure KeyCandidate where
  place : Nat
  spot : Spot
  /-- True if nothing but a key can stand there. -/
  required : Bool
  deriving DecidableEq, Repr

/-- The structure of what has been read of a text. -/
structure Layout where
  tokens : Array Token
  /-- The columns of the mappings and sequences of indented nodes around, from the inside. -/
  columns : List Nat
  candidate? : Option KeyCandidate
  /-- The candidates around each pair of brackets, from the inside. -/
  outer : List (Option KeyCandidate)
  /-- True where a key may begin. -/
  allowsKey : Bool

namespace Layout

def start : Layout := ⟨#[], [], none, [], true⟩

def inFlow (layout : Layout) : Bool :=
  !layout.outer.isEmpty

/-- The first column of what belongs to the innermost indented node. -/
def least (layout : Layout) : Nat :=
  match layout.columns with
  | [] => 0
  | column :: _ => column + 1

/-- The layout with one more token, after which a key may begin or not. -/
def add (token : Token) (allowsKey : Bool) (layout : Layout) : Layout :=
  { layout with tokens := layout.tokens.push token, allowsKey }

/-- The layout without the candidate, which must not be required. -/
def dropCandidate? (layout : Layout) : Option Layout :=
  if layout.candidate?.any (·.required) then none else some { layout with candidate? := none }

/-- The layout with a candidate at a spot, if a key may begin there. -/
def addCandidate? (spot : Spot) (layout : Layout) : Option Layout :=
  if layout.allowsKey then
    (dropCandidate? layout).map fun layout =>
      let required := !layout.inFlow && layout.columns.head? = some spot.column
      { layout with candidate? := some ⟨layout.tokens.size, spot, required⟩ }
  else some layout

/-- True if a candidate is no longer one at a spot. -/
def isStale (spot : Spot) (candidate : KeyCandidate) : Bool :=
  candidate.spot.line < spot.line || candidate.spot.index + 1024 < spot.index

/-- The candidate if it still is one at a spot; a required one must be. -/
def keepFresh? (spot : Spot) : Option KeyCandidate → Option (Option KeyCandidate)
  | none => some none
  | some candidate =>
      if !isStale spot candidate then some (some candidate)
      else if candidate.required then none
      else some none

/-- The layout without the candidates that no longer are such at a spot. -/
def dropStale? (spot : Spot) (layout : Layout) : Option Layout := do
  return { layout with
    candidate? := ← keepFresh? spot layout.candidate?
    outer := ← layout.outer.mapM (keepFresh? spot) }

/-- The layout with an indented mapping or sequence that begins at a column, unless one does so. -/
def openBlock (token : Token) (column place : Nat) (layout : Layout) : Layout :=
  if layout.inFlow || column < layout.least then layout
  else { layout with
    tokens := layout.tokens.insertIdxIfInBounds place token
    columns := column :: layout.columns }

/-- The layout after the indented mappings and sequences right of a column, or after all of them. -/
def closeBlocks (column? : Option Nat) (layout : Layout) : Layout :=
  if layout.inFlow then layout
  else
    let isClosed (column : Nat) : Bool := column?.all fun limit => limit < column
    { layout with
      tokens := layout.tokens ++ (layout.columns.takeWhile isClosed).map fun _ => Token.blockEnd
      columns := layout.columns.dropWhile isClosed }

def openFlow? (token : Token) (spot : Spot) (layout : Layout) : Option Layout := do
  let layout ← layout.addCandidate? spot
  return { layout.add token true with
    candidate? := none, outer := layout.candidate? :: layout.outer }

def closeFlow? (token : Token) (layout : Layout) : Option Layout := do
  let layout ← layout.dropCandidate?
  match layout.outer with
  | [] => return layout.add token false
  | candidate? :: outer => return { layout.add token false with candidate?, outer }

/-- The layout after the mark of an item or a key, which begins an indented collection. -/
def addMark? (collection mark : Token) (allowsKey : Bool) (spot : Spot) (layout : Layout) :
    Option Layout :=
  if layout.inFlow || layout.allowsKey then
    (layout.openBlock collection spot.column layout.tokens.size).dropCandidate?.map
      (add mark allowsKey)
  else none

/-- The layout after the colon of a value: behind a candidate for a key, or after a marked key. -/
def addValue? (spot : Spot) (layout : Layout) : Option Layout :=
  match layout.candidate? with
  | some candidate =>
      let marked := { layout with
        tokens := layout.tokens.insertIdxIfInBounds candidate.place .key, candidate? := none }
      some ((marked.openBlock .blockMapping candidate.spot.column candidate.place).add .value false)
  | none => layout.addMark? .blockMapping .value (!layout.inFlow) spot

/-- The layout after a line that stands outside of all nodes. -/
def addLine? (token : Token) (layout : Layout) : Option Layout :=
  (layout.closeBlocks none).dropCandidate?.map (add token false)

/-- The layout after the property of a node that begins at a spot. -/
def addProperty? (token : Token) (spot : Spot) (layout : Layout) : Option Layout :=
  (layout.addCandidate? spot).map (add token false)

/-- The layout after a scalar in running text, which may be a key. -/
def addScalar? (style : ScalarStyle) (read : List Char) (endsLine : Bool) (spot : Spot)
    (layout : Layout) : Option Layout :=
  (layout.addCandidate? spot).map (add (.scalar style (String.ofList read.reverse)) endsLine)

def addBlock? (style : ScalarStyle) (read : List Char) (layout : Layout) : Option Layout :=
  layout.dropCandidate?.map (add (.scalar style (String.ofList read.reverse)) true)

/-- The layout after the token that begins at a spot, and what is left. -/
def next? (spot : Spot) (rest : List Spot) (layout : Layout) : Option (Layout × List Spot) := do
  let layout := (← layout.dropStale? spot).closeBlocks (some spot.column)
  let spots := spot :: rest
  if spot.column = 0 && spot.character = '%' then
    let (directive, rest) ← directive? rest
    return (← layout.addLine? (.directive directive), rest)
  else if atMarker '-' spots then return (← layout.addLine? .documentStart, rest.drop 2)
  else if atMarker '.' spots then return (← layout.addLine? .documentEnd, rest.drop 2)
  else if spot.character = '[' then return (← layout.openFlow? .flowSequence spot, rest)
  else if spot.character = '\x7b' then return (← layout.openFlow? .flowMapping spot, rest)
  else if spot.character = ']' then return (← layout.closeFlow? .flowSequenceEnd, rest)
  else if spot.character = '\x7d' then return (← layout.closeFlow? .flowMappingEnd, rest)
  else if spot.character = ',' then
    return ((← layout.dropCandidate?).add .flowEntry true, rest)
  else if spot.character = '-' && endsWord rest then
    return (← layout.addMark? .blockSequence .blockEntry true spot, rest)
  else if spot.character = '?' && (layout.inFlow || endsWord rest) then
    return (← layout.addMark? .blockMapping .key (!layout.inFlow) spot, rest)
  else if spot.character = ':' && (layout.inFlow || endsWord rest) then
    return (← layout.addValue? spot, rest)
  else if spot.character = '*' then
    let (name, rest) ← anchorName? rest
    return (← layout.addProperty? (.reference name) spot, rest)
  else if spot.character = '&' then
    let (name, rest) ← anchorName? rest
    return (← layout.addProperty? (.anchor name) spot, rest)
  else if spot.character = '!' then
    let (tag, rest) ← tag? layout.inFlow rest
    return (← layout.addProperty? (.tag tag) spot, rest)
  else if spot.character = '|' && !layout.inFlow then
    let (read, rest) ← blockScalar? true layout.least rest
    return (← layout.addBlock? .literal read, rest)
  else if spot.character = '>' && !layout.inFlow then
    let (read, rest) ← blockScalar? false layout.least rest
    return (← layout.addBlock? .folded read, rest)
  else if spot.character = '\'' then
    let (read, rest) ← singleQuoted .empty [] rest
    return (← layout.addScalar? .quoted read false spot, rest)
  else if spot.character = '\"' then
    let (read, rest) ← doubleQuoted .outside .empty [] rest
    return (← layout.addScalar? .quoted read false spot, rest)
  else if beginsPlain layout.inFlow spots then
    let part ← plainScalar layout.inFlow layout.least .empty [] spots
    return (← layout.addScalar? .plain part.read part.endsLine spot, part.rest)
  else none

def finish? (layout : Layout) : Option (Array Token) :=
  (layout.closeBlocks none).dropCandidate?.map (·.tokens)

end Layout

/--
Skips blanks, line breaks, comments and marks of the byte order at the beginning of a line, and
tells whether a key may begin after them. Where it may, no tab may stand before it.
-/
def skipGap (inFlow allowsKey comment : Bool) : List Spot → Bool × List Spot
  | [] => (allowsKey, [])
  | spot :: rest =>
      if spot.isBreak then skipGap inFlow (allowsKey || !inFlow) false rest
      else if comment then skipGap inFlow allowsKey true rest
      else if spot.character = '\ufeff' && spot.column = 0 then skipGap inFlow allowsKey false rest
      else if spot.character = ' ' then skipGap inFlow allowsKey false rest
      else if spot.character = '\t' && (inFlow || !allowsKey) then
        skipGap inFlow allowsKey false rest
      else if spot.character = '#' then skipGap inFlow allowsKey true rest
      else (allowsKey, spot :: rest)

/-- The tokens of a text with those that have been read already, in at most `steps` steps. -/
def tokensFrom? : (steps : Nat) → Layout → List Spot → Option (Array Token)
  | 0, _, _ => none
  | steps + 1, layout, spots =>
      match skipGap layout.inFlow layout.allowsKey false spots with
      | (_, []) => layout.finish?
      | (allowsKey, spot :: rest) =>
          match { layout with allowsKey }.next? spot rest with
          | none => none
          | some (layout, rest) => tokensFrom? steps layout rest

def tokens? (text : String) : Option (Array Token) :=
  if text.toList.all isAllowed then tokensFrom? (text.length + 1) .start (spots text) else none

end Yaml

end Resemblance
