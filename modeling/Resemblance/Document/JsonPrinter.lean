import Resemblance.Document.Basic
import Resemblance.Number.Decimal
import Resemblance.Text.Hex

/-!
# Writing JSON

Documents in JavaScript Object Notation. `Json.compact` writes no blanks; `Json.pretty` writes each
item and entry on a line of its own, indented by two blanks for each level, and empty sequences and
mappings without a line break. What is not a finite number is written as `null`, and tags are left
out.
-/

namespace Resemblance

namespace Json

def characterForm (character : Char) : String :=
  match character with
  | '\"' => "\\\""
  | '\\' => "\\\\"
  | '\n' => "\\n"
  | '\r' => "\\r"
  | '\t' => "\\t"
  | '\x08' => "\\b"
  | '\x0c' => "\\f"
  | _ =>
      if character < ' ' then "\\u" ++ Text.lowerHex 4 character.toNat
      else String.singleton character

def textForm (text : String) : String :=
  "\"" ++ String.join (text.toList.map characterForm) ++ "\""

def numberForm (number : Binary64) : String :=
  if number.isNaN ∨ number.isInfinite then "null" else Decimal.render .always number

def lineBreak (level : Nat) : String :=
  "\n" ++ String.ofList (List.replicate (2 * level) ' ')

mutual

/-- A document without blanks. -/
def compact : Document → String
  | .null => "null"
  | .bool true => "true"
  | .bool false => "false"
  | .integer number => toString number
  | .decimal number => numberForm number
  | .text text => textForm text
  | .plain text => textForm text
  | .block text => textForm text
  | .tagged _ content => compact content
  | .sequence items => "[" ++ compactItems items ++ "]"
  | .mapping entries => "\x7b" ++ compactEntries entries ++ "\x7d"

def compactItems : List Document → String
  | [] => ""
  | [item] => compact item
  | item :: items => compact item ++ "," ++ compactItems items

def compactEntries : List (String × Document) → String
  | [] => ""
  | [(name, value)] => textForm name ++ ":" ++ compact value
  | (name, value) :: entries =>
      textForm name ++ ":" ++ compact value ++ "," ++ compactEntries entries

end

mutual

/-- A document whose first line is at a level. -/
def prettyAt (level : Nat) : Document → String
  | .null => "null"
  | .bool true => "true"
  | .bool false => "false"
  | .integer number => toString number
  | .decimal number => numberForm number
  | .text text => textForm text
  | .plain text => textForm text
  | .block text => textForm text
  | .tagged _ content => prettyAt level content
  | .sequence [] => "[]"
  | .sequence items => "[" ++ prettyItems (level + 1) items ++ lineBreak level ++ "]"
  | .mapping [] => "\x7b\x7d"
  | .mapping entries =>
      "\x7b" ++ prettyEntries (level + 1) entries ++ lineBreak level ++ "\x7d"

def prettyItems (level : Nat) : List Document → String
  | [] => ""
  | [item] => lineBreak level ++ prettyAt level item
  | item :: items => lineBreak level ++ prettyAt level item ++ "," ++ prettyItems level items

def prettyEntries (level : Nat) : List (String × Document) → String
  | [] => ""
  | [(name, value)] => lineBreak level ++ textForm name ++ ": " ++ prettyAt level value
  | (name, value) :: entries =>
      lineBreak level ++ textForm name ++ ": " ++ prettyAt level value ++ "," ++
        prettyEntries level entries

end

def pretty (document : Document) : String :=
  prettyAt 0 document

end Json

end Resemblance
