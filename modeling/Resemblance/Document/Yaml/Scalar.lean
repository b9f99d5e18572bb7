import Resemblance.Document.JsonReader
import Resemblance.Document.Yaml.Character

/-!
# Scalars in running text

Scalars between quotes and plain scalars may go on over several lines. What stands between two of
their words is a gap: blanks in one line stay as they are, and line breaks are folded, so that a
single one becomes a blank and an empty line becomes a line break. A line break that a backslash
escapes joins the lines without a blank.

A reader collects the characters of a scalar in reverse order.
-/

namespace Resemblance

namespace Yaml

/-! ## Gaps -/

/-- What stands between two words of a scalar. -/
inductive Gap where
  | blanks (read : List Char)
  /-- Line breaks: the first one, unless it was escaped, and the further ones in reverse order. -/
  | lines (first? : Option Char) (further : List Char)
  deriving DecidableEq, Repr

namespace Gap

def empty : Gap := .blanks []

def hasLines : Gap → Bool
  | .blanks _ => false
  | .lines _ _ => true

/-- The gap with a blank at its end; blanks at the beginning of a line do not count. -/
def addBlank (blank : Char) : Gap → Gap
  | .blanks read => .blanks (blank :: read)
  | gap => gap

/-- The gap with a line break at its end; blanks at the end of a line do not count. -/
def addBreak (lineBreak : Char) : Gap → Gap
  | .blanks _ => .lines (some lineBreak) []
  | .lines first? further => .lines first? (lineBreak :: further)

/-- The characters that a gap stands for, in reverse order. -/
def folded : Gap → List Char
  | .blanks read => read
  | .lines (some '\n') [] => [' ']
  | .lines (some '\n') further => further
  | .lines first? further => further ++ first?.toList

end Gap

/-! ## Between quotes -/

/-- Reads the rest of a scalar between single quotes, in which a quote is written twice. -/
def singleQuoted (gap : Gap) (read : List Char) : List Spot → Option (List Char × List Spot)
  | [] => none
  | spot :: rest =>
      if atDocumentMarker (spot :: rest) then none
      else if spot.isBreak then singleQuoted (gap.addBreak spot.character) read rest
      else if spot.isBlank then singleQuoted (gap.addBlank spot.character) read rest
      else if spot.character = '\'' then
        match rest with
        | next :: rest =>
            if next.character = '\'' then singleQuoted .empty ('\'' :: (gap.folded ++ read)) rest
            else some (gap.folded ++ read, next :: rest)
        | [] => some (gap.folded ++ read, [])
      else singleQuoted .empty (spot.character :: (gap.folded ++ read)) rest

/-- The character that an escape of one letter stands for. -/
def escaped? (letter : Char) : Option Char :=
  match letter with
  | '0' => some '\x00'
  | 'a' => some '\x07'
  | 'b' => some '\x08'
  | 't' => some '\t'
  | '\t' => some '\t'
  | 'n' => some '\n'
  | 'v' => some '\x0b'
  | 'f' => some '\x0c'
  | 'r' => some '\r'
  | 'e' => some '\x1b'
  | ' ' => some ' '
  | '\"' => some '\"'
  | '/' => some '/'
  | '\\' => some '\\'
  | 'N' => some '\u0085'
  | '_' => some '\u00a0'
  | 'L' => some '\u2028'
  | 'P' => some '\u2029'
  | _ => none

/-- The number of hexadecimal digits after the letter of an escape. -/
def escapeWidth? (letter : Char) : Option Nat :=
  match letter with
  | 'x' => some 2
  | 'u' => some 4
  | 'U' => some 8
  | _ => none

/-- The character with a code point, if there is one. -/
def ofCodePoint? (point : Nat) : Option Char :=
  if point < 0xD800 ∨ (0xE000 ≤ point ∧ point < 0x110000) then some (Char.ofNat point) else none

inductive Escape where
  | outside
  | begun
  /-- The letter and some digits of a code point, of which `left` and one more are missing. -/
  | digits (left point : Nat)
  deriving DecidableEq, Repr

def doubleQuoted (escape : Escape) (gap : Gap) (read : List Char) :
    List Spot → Option (List Char × List Spot)
  | [] => none
  | spot :: rest =>
      match escape with
      | .digits left point =>
          match Json.hexValue? spot.character with
          | none => none
          | some digit =>
              let point := 16 * point + digit
              match left with
              | left + 1 => doubleQuoted (.digits left point) .empty read rest
              | 0 =>
                  match ofCodePoint? point with
                  | none => none
                  | some character => doubleQuoted .outside .empty (character :: read) rest
      | .begun =>
          if spot.isBreak then doubleQuoted .outside (.lines none []) read rest
          else
            match escaped? spot.character, escapeWidth? spot.character with
            | some character, _ => doubleQuoted .outside .empty (character :: read) rest
            | none, some width => doubleQuoted (.digits (width - 1) 0) .empty read rest
            | none, none => none
      | .outside =>
          if atDocumentMarker (spot :: rest) then none
          else if spot.isBreak then doubleQuoted .outside (gap.addBreak spot.character) read rest
          else if spot.isBlank then doubleQuoted .outside (gap.addBlank spot.character) read rest
          else if spot.character = '\"' then some (gap.folded ++ read, rest)
          else if spot.character = '\\' then doubleQuoted .begun .empty (gap.folded ++ read) rest
          else doubleQuoted .outside .empty (spot.character :: (gap.folded ++ read)) rest

/-! ## Plain -/

/-- True at a colon that belongs to no scalar between brackets, whatever follows it. -/
def misplacedColon : List Spot → Bool
  | colon :: next :: _ =>
      colon.character = ':' && (next.character = '?' || isFlowPunctuation next.character)
  | _ => false

def endsPlain (inFlow : Bool) : List Spot → Bool
  | [] => true
  | spot :: rest =>
      (spot.character = ':' && endsWord rest) || (inFlow && isFlowPunctuation spot.character)

/-- True where a plain scalar does not go on after a gap. -/
def endsPlainAfterGap (inFlow : Bool) (least : Nat) : List Spot → Bool
  | [] => true
  | spot :: rest =>
      (!inFlow && spot.column < least) || spot.character = '#' || atDocumentMarker (spot :: rest)

structure PlainPart where
  read : List Char
  /-- True if a line ended after the scalar. -/
  endsLine : Bool
  rest : List Spot

/--
Reads a plain scalar that goes on in a later line if that begins in the column `least` or after it,
or between brackets. No tab may stand left of that column.
-/
def plainScalar (inFlow : Bool) (least : Nat) (gap : Gap) (read : List Char) :
    List Spot → Option PlainPart
  | [] => some ⟨read, gap.hasLines, []⟩
  | spot :: rest =>
      if spot.isBreak then plainScalar inFlow least (gap.addBreak spot.character) read rest
      else if spot.isBlank then
        if gap.hasLines && spot.column < least && spot.character = '\t' then none
        else plainScalar inFlow least (gap.addBlank spot.character) read rest
      else if gap ≠ .empty && endsPlainAfterGap inFlow least (spot :: rest) then
        some ⟨read, gap.hasLines, spot :: rest⟩
      else if inFlow && misplacedColon (spot :: rest) then none
      else if endsPlain inFlow (spot :: rest) then some ⟨read, gap.hasLines, spot :: rest⟩
      else plainScalar inFlow least .empty (spot.character :: (gap.folded ++ read)) rest

def beginsPlain (inFlow : Bool) : List Spot → Bool
  | [] => false
  | spot :: rest =>
      if spot.character = '-' then !endsWord rest
      else if spot.character = '?' ∨ spot.character = ':' then !inFlow && !endsWord rest
      else !(isFlowPunctuation spot.character || spot.isBlank || spot.isBreak ||
        ['#', '&', '*', '!', '|', '>', '\'', '\"', '%', '@', '\x60'].contains spot.character)

end Yaml

end Resemblance
