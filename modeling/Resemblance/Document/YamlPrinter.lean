import Resemblance.Document.Basic
import Resemblance.Document.PlainScalar
import Resemblance.Document.Yaml.Character
import Resemblance.Number.Decimal
import Resemblance.Text.Hex

/-!
# Writing YAML

`Yaml.render` writes a document in the notation of configuration files: each entry of a mapping on a
line of its own, nested mappings indented by two blanks, and sequences in the column of their key. A
text is written without quotes if nothing else could be read from it, between single quotes if its
type is in doubt or a character of it could be taken for a mark, and between double quotes if it has
characters that need an escape. A text of several lines is written as a block. A key that is long or
has several lines stands behind a mark of its own.
-/

namespace Resemblance

namespace Yaml

/-! ## Texts -/

/-- True for the characters that are written as they are. -/
def isPrintable (character : Char) : Bool :=
  character = '\n' ∨ (' ' ≤ character ∧ character ≤ '~') ∨
    ('\u00a0' ≤ character ∧ character ≠ '\ufeff' ∧ character ≠ '\ufffe' ∧ character ≠ '\uffff')

def isWordEnd : List Char → Bool
  | [] => true
  | character :: _ => isBlank character || isBreak character

/-- True for a character that has a meaning at the beginning of a scalar, before `rest`. -/
def indicatesFirst (character : Char) (rest : List Char) : Bool :=
  ['#', ',', '[', ']', '\x7b', '\x7d', '&', '*', '!', '|', '>', '\'', '\"', '%', '@',
    '\x60'].contains character ||
    (['?', ':', '-'].contains character && isWordEnd rest)

/-- True if a colon or a comment mark has a meaning inside a scalar, after `previous`. -/
def indicatesInside (previous : Char) : List Char → Bool
  | [] => false
  | character :: rest =>
      (character = ':' && isWordEnd rest) || (character = '#' && isWordEnd [previous]) ||
        indicatesInside character rest

/-- True if a character that marks structure would be read from a text without quotes. -/
def hasIndicator (characters : List Char) : Bool :=
  match characters with
  | [] => false
  | first :: rest =>
      characters.take 3 = ['-', '-', '-'] || characters.take 3 = ['.', '.', '.'] ||
        indicatesFirst first rest || indicatesInside first rest

def hasNeighbours (isLeft isRight : Char → Bool) : List Char → Bool
  | first :: second :: rest =>
      (isLeft first && isRight second) || hasNeighbours isLeft isRight (second :: rest)
  | _ => false

/-- True if a text has characters or neighbours that can only be written with escapes. -/
def needsEscape (characters : List Char) : Bool :=
  characters.any (fun character => !isPrintable character) ||
    hasNeighbours (· = ' ') isBreak characters

/-- True if a text can be written in one line without quotes, whatever is read from it. -/
def isBare (characters : List Char) : Bool :=
  !(needsEscape characters || characters.any isBreak || characters.head? = some ' ' ||
    characters.getLast? = some ' ' || hasIndicator characters)

inductive Style where
  | plain
  | single
  | double
  | block
  deriving DecidableEq, Repr

def style (text : String) : Style :=
  let characters := text.toList
  if characters.contains '\n' then
    if needsEscape characters || characters.getLast? = some ' ' then .double else .block
  else if PlainScalar.isText text && isBare characters then .plain
  else if needsEscape characters || hasNeighbours isBreak (· = ' ') characters then .double
  else .single

def escapedForm (character : Char) : String :=
  match character with
  | '\x00' => "\\0"
  | '\x07' => "\\a"
  | '\x08' => "\\b"
  | '\t' => "\\t"
  | '\n' => "\\n"
  | '\x0b' => "\\v"
  | '\x0c' => "\\f"
  | '\r' => "\\r"
  | '\x1b' => "\\e"
  | '\"' => "\\\""
  | '\\' => "\\\\"
  | '\u0085' => "\\N"
  | '\u2028' => "\\L"
  | '\u2029' => "\\P"
  | _ =>
      if isPrintable character then String.singleton character
      else if character.toNat ≤ 0xFF then "\\x" ++ Text.upperHex 2 character.toNat
      else if character.toNat ≤ 0xFFFF then "\\u" ++ Text.upperHex 4 character.toNat
      else "\\U" ++ Text.upperHex 8 character.toNat

def indentation (level : Nat) : String :=
  String.ofList (List.replicate (2 * level) ' ')

/--
Characters between single quotes, whose lines after the first one are indented. The first of some
line breaks is written twice if a single one would be read as a blank.
-/
def singleForm (indented : String) (afterBreak : Bool) : List Char → String
  | [] => if afterBreak then indented else ""
  | character :: rest =>
      if isBreak character then
        (if character = '\n' && !afterBreak then "\n" else "") ++ String.singleton character ++
          singleForm indented true rest
      else
        (if afterBreak then indented else "") ++
          (if character = '\'' then "\'\'" else String.singleton character) ++
          singleForm indented false rest

/-- The indented lines of a block, which keep their line breaks. -/
def literalLines (indented : String) (afterBreak : Bool) : List Char → String
  | [] => ""
  | character :: rest =>
      (if afterBreak && !isBreak character then indented else "") ++ String.singleton character ++
        literalLines indented (isBreak character) rest

/-- The first line of a block: if it is indented by more than can be seen, and how it ends. -/
def literalHeader (characters : List Char) : String :=
  let hint := if characters.head?.any fun first => first = ' ' || isBreak first then "2" else ""
  let ending :=
    match characters.reverse with
    | [] => "-"
    | [last] => if isBreak last then "+" else "-"
    | last :: previous :: _ =>
        if !isBreak last then "-" else if isBreak previous then "+" else ""
  "|" ++ hint ++ ending ++ "\n"

/-- A text up to the end of its last line, where further lines are indented. -/
def textForm (indented : String) (text : String) : String :=
  let characters := text.toList
  match style text with
  | .plain => text ++ "\n"
  | .single => "\'" ++ singleForm indented false characters ++ "\'\n"
  | .double => "\"" ++ String.join (characters.map escapedForm) ++ "\"\n"
  | .block =>
      literalHeader characters ++ literalLines indented true characters ++
        if characters.getLast?.any isBreak then "" else "\n"

def numberForm (number : Binary64) : String :=
  if number.isNaN then ".nan"
  else if number.isInfinite then if number.isNegative then "-.inf" else ".inf"
  else Decimal.render .ifNegative number

/-- True for a key that needs no mark: it is in one line and not longer than 128 bytes. -/
def isSimpleKey (key : String) : Bool :=
  key.utf8ByteSize ≤ 128 && !key.toList.any isBreak

/-! ## Documents -/

mutual

/--
A node up to the end of its last line. The first entry or item of a collection stands behind the
mark of the node, if there is one, and else on a new line. The entries of a mapping are at a level;
items without a mark before them are one level less indented.
-/
def nodeForm (marked : Bool) (level : Nat) : Document → String
  | .null => " null\n"
  | .bool true => " true\n"
  | .bool false => " false\n"
  | .integer number => " " ++ toString number ++ "\n"
  | .decimal number => " " ++ numberForm number ++ "\n"
  | .text text => " " ++ textForm (indentation level) text
  | .plain text => " " ++ text ++ "\n"
  | .block text => " " ++ textForm (indentation level) text
  | .tagged _ content => nodeForm marked level content
  | .sequence [] => " []\n"
  | .sequence items =>
      if marked then itemForms " " level items
      else "\n" ++ itemForms (indentation (level - 1)) (level - 1) items
  | .mapping [] => " \x7b\x7d\n"
  | .mapping entries =>
      if marked then entryForms " " level entries
      else "\n" ++ entryForms (indentation level) level entries

/-- Items of a level, of which the first one stands behind something. -/
def itemForms (first : String) (level : Nat) : List Document → String
  | [] => ""
  | item :: items =>
      first ++ "-" ++ nodeForm true (level + 1) item ++ itemForms (indentation level) level items

/-- Entries of a level, of which the first one stands behind something. -/
def entryForms (first : String) (level : Nat) : List (String × Document) → String
  | [] => ""
  | (key, value) :: entries =>
      let lines := textForm (indentation (level + 1)) key
      let form :=
        if isSimpleKey key then
          String.ofList lines.toList.dropLast ++ ":" ++ nodeForm false (level + 1) value
        else
          "? " ++ lines ++ indentation level ++ ":" ++ nodeForm true (level + 1) value
      first ++ form ++ entryForms (indentation level) level entries

end

def render (document : Document) : String :=
  String.ofList ((nodeForm true 0 document).toList.drop 1)

end Yaml

end Resemblance
