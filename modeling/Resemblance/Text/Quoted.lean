import Resemblance.Text.Hex
import Resemblance.Text.InvisibleTable

/-!
# Quoted texts

A text between quotes in which every character can be recognized: quotes, backslashes and line
breaks are written with a backslash, and characters without a form of their own as their code point.
-/

namespace Resemblance.Text

def quotedForm (character : Char) : String :=
  match character with
  | '\x00' => "\\0"
  | '\t' => "\\t"
  | '\r' => "\\r"
  | '\n' => "\\n"
  | '\"' => "\\\""
  | '\\' => "\\\\"
  | _ =>
      if isInvisible character then
        "\\u\x7b" ++ String.ofList (Nat.toDigits 16 character.toNat) ++ "\x7d"
      else String.singleton character

def quoted (text : String) : String :=
  "\"" ++ String.join (text.toList.map quotedForm) ++ "\""

end Resemblance.Text
