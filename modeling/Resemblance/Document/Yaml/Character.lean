/-!
# Characters of a YAML text

The characters that end a line, that separate words, and that a text may hold at all. Columns decide
about the structure of a text, so a text is read as a list of spots: its characters with their
places. The spots of a text write the line breaks of other conventions as `'\n'`; the separators of
lines and of paragraphs end lines too, but stay themselves.
-/

namespace Resemblance

namespace Yaml

def isBreak (character : Char) : Bool :=
  ['\n', '\r', '\u0085', '\u2028', '\u2029'].contains character

def isBlank (character : Char) : Bool :=
  character = ' ' ∨ character = '\t'

def isNameCharacter (character : Char) : Bool :=
  character.isAlphanum ∨ character = '_' ∨ character = '-'

def isFlowPunctuation (character : Char) : Bool :=
  [',', '[', ']', '\x7b', '\x7d'].contains character

def isAllowed (character : Char) : Bool :=
  character = '\n' ∨ character = '\r' ∨ character = '\t' ∨ (' ' ≤ character ∧ character ≤ '~') ∨
    character = '\u0085' ∨ ('\u00a0' ≤ character ∧ character ≠ '\ufffe' ∧ character ≠ '\uffff')

structure Spot where
  character : Char
  /-- The number of bytes before it. -/
  index : Nat
  line : Nat
  /-- The number of characters before it in its line. -/
  column : Nat
  deriving DecidableEq, Repr

def unifiedBreak (character : Char) : Char :=
  if character = '\r' ∨ character = '\u0085' then '\n' else character

/-- The spots of characters, of which the first one has a given place. -/
def spotsFrom (index line column : Nat) : List Char → List Spot
  | '\r' :: '\n' :: rest =>
      ⟨'\n', index, line, column⟩ :: spotsFrom (index + 2) (line + 1) 0 rest
  | character :: rest =>
      let next := index + character.utf8Size
      if isBreak character then
        ⟨unifiedBreak character, index, line, column⟩ :: spotsFrom next (line + 1) 0 rest
      else ⟨character, index, line, column⟩ :: spotsFrom next line (column + 1) rest
  | [] => []

def spots (text : String) : List Spot :=
  spotsFrom 0 0 0 text.toList

namespace Spot

def isBreak (spot : Spot) : Bool :=
  Yaml.isBreak spot.character

def isBlank (spot : Spot) : Bool :=
  Yaml.isBlank spot.character

end Spot

/-- True before a blank or a line break, and at the end of a text. -/
def endsWord : List Spot → Bool
  | [] => true
  | spot :: _ => spot.isBlank || spot.isBreak

/-- True at a line that begins with three times a character, alone or before a blank. -/
def atMarker (marker : Char) : List Spot → Bool
  | first :: second :: third :: rest =>
      first.column = 0 && first.character = marker && second.character = marker &&
        third.character = marker && endsWord rest
  | _ => false

/-- True at a line that begins a document or ends one. -/
def atDocumentMarker (spots : List Spot) : Bool :=
  atMarker '-' spots || atMarker '.' spots

/--
The spots after the rest of a line, in which only blanks and a comment may stand; `comment` tells
whether the comment has begun.
-/
def lineEnd? (comment : Bool) : List Spot → Option (List Spot)
  | [] => some []
  | spot :: rest =>
      if spot.isBreak then some rest
      else if comment || spot.isBlank then lineEnd? comment rest
      else if spot.character = '#' then lineEnd? true rest
      else none

end Yaml

end Resemblance
