import Resemblance.Document.Yaml.Character

/-!
# Block scalars

A block scalar consists of the lines below its mark that are indented more than what is around them.
A literal block keeps its lines; a folded one joins lines by blanks, except around empty lines and
lines that begin with a blank. Digits and signs after the mark give the indentation and tell which
line breaks at the end belong to the scalar: all, one, or none.
-/

namespace Resemblance

namespace Yaml

/-- Which line breaks at the end of a block belong to it. -/
inductive Chomping where
  | strip
  | clip
  | keep
  deriving DecidableEq, Repr

structure BlockHeader where
  /-- The line breaks that belong to the block. -/
  chomping : Chomping
  /-- The indentation of the block, if it is given. -/
  width? : Option Nat
  rest : List Spot

/-- Reads a sign that tells which line breaks belong to a block. -/
def chomping? : List Spot → Option Chomping × List Spot
  | spot :: rest =>
      if spot.character = '+' then (some .keep, rest)
      else if spot.character = '-' then (some .strip, rest)
      else (none, spot :: rest)
  | [] => (none, [])

def blockWidth? : List Spot → Option Nat × List Spot
  | spot :: rest =>
      if spot.character.isDigit then (some (spot.character.toNat - '0'.toNat), rest)
      else (none, spot :: rest)
  | [] => (none, [])

def blockHeader? (spots : List Spot) : Option BlockHeader := do
  let (before?, rest) := chomping? spots
  let (width?, rest) := blockWidth? rest
  let (after?, rest) := if before?.isSome then (none, rest) else chomping? rest
  if width? = some 0 then none
  else return ⟨(before? <|> after?).getD .clip, width?, ← lineEnd? false rest⟩

/--
Finds the indentation of a block by its first line with content: the widest indentation up to it,
the breaks of the lines before it in reverse order, and what is left.
-/
def blockIndent? (widest : Nat) (breaks : List Char) :
    List Spot → Option (Nat × List Char × List Spot)
  | [] => some (widest, breaks, [])
  | spot :: rest =>
      let widest := max widest spot.column
      if spot.character = ' ' then blockIndent? widest breaks rest
      else if spot.character = '\t' then none
      else if spot.isBreak then blockIndent? widest (spot.character :: breaks) rest
      else some (widest, breaks, spot :: rest)

structure BlockText where
  /-- The characters, in reverse order. -/
  read : List Char
  lineBreak? : Option Char
  /-- The breaks of the empty lines after it, in reverse order. -/
  emptyLines : List Char
  /-- True if the last line with content begins with a blank. -/
  afterBlank : Bool

namespace BlockText

/-- The text with the first character of a new line. -/
def beginLine (literal : Bool) (character : Char) (text : BlockText) : BlockText :=
  let folds := !literal && text.lineBreak? = some '\n' && !text.afterBlank && !isBlank character
  let gap :=
    if folds then if text.emptyLines.isEmpty then [' '] else text.emptyLines
    else text.emptyLines ++ text.lineBreak?.toList
  ⟨character :: (gap ++ text.read), none, [], isBlank character⟩

/-- The characters of the finished text, in reverse order. -/
def finish (chomping : Chomping) (text : BlockText) : List Char :=
  match chomping with
  | .strip => text.read
  | .clip => text.lineBreak?.toList ++ text.read
  | .keep => text.emptyLines ++ (text.lineBreak?.toList ++ text.read)

end BlockText

/-- Reads the lines of a block that are indented by `indent`. -/
def blockLines (literal : Bool) (indent : Nat) (inLine : Bool) (text : BlockText) :
    List Spot → Option (BlockText × List Spot)
  | [] => some (text, [])
  | spot :: rest =>
      if inLine then
        if spot.isBreak then
          blockLines literal indent false { text with lineBreak? := some spot.character } rest
        else blockLines literal indent true { text with read := spot.character :: text.read } rest
      else if spot.column < indent && spot.character = ' ' then
        blockLines literal indent false text rest
      else if spot.column < indent && spot.character = '\t' then none
      else if spot.isBreak then
        blockLines literal indent false
          { text with emptyLines := spot.character :: text.emptyLines } rest
      else if spot.column = indent then
        blockLines literal indent true (text.beginLine literal spot.character) rest
      else some (text, spot :: rest)

/--
Reads a block scalar after its mark, inside a node whose content begins in the column `least` or
after it.
-/
def blockScalar? (literal : Bool) (least : Nat) (spots : List Spot) :
    Option (List Char × List Spot) := do
  let header ← blockHeader? spots
  let (indent, breaks, rest) ←
    match header.width? with
    | some width => some (least - 1 + width, [], header.rest)
    | none =>
        (blockIndent? 0 [] header.rest).map fun (widest, breaks, rest) =>
          (max (max widest least) 1, breaks, rest)
  let (text, rest) ← blockLines literal indent false ⟨[], none, breaks, false⟩ rest
  return (text.finish header.chomping, rest)

end Yaml

end Resemblance
