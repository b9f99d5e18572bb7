import Resemblance.Document.JsonReader
import Resemblance.Document.Yaml.Character

/-!
# Anchors, tags and directives

A node can have an anchor, under which other nodes refer to it, and a tag, which names its type. A
tag is written as a handle and a suffix, or as a whole between angle brackets; directives before a
document tell what its handles stand for. The suffix of a tag is a resource identifier, in which any
byte can be written as two hexadecimal digits after a percent sign; a null byte ends it.
-/

namespace Resemblance

namespace Yaml

def splitName (spots : List Spot) : String × List Spot :=
  (String.ofList ((spots.takeWhile fun spot => isNameCharacter spot.character).map (·.character)),
    spots.dropWhile fun spot => isNameCharacter spot.character)

def anchorName? (spots : List Spot) : Option (String × List Spot) :=
  let (name, rest) := splitName spots
  let ends := endsWord rest || rest.head?.any fun spot =>
    ['?', ':', ',', ']', '\x7d', '%', '@', '\x60'].contains spot.character
  if name.isEmpty || !ends then none else some (name, rest)

/-! ## Tags -/

/-- True for the characters of a resource identifier; some stand only between angle brackets. -/
def isUriCharacter (whole : Bool) (character : Char) : Bool :=
  isNameCharacter character ||
    [';', '/', '?', ':', '@', '&', '=', '+', '$', '.', '%', '!', '~', '*', '\'', '(', ')'].contains
      character ||
    (whole && [',', '[', ']'].contains character)

/-- The number of bytes that follow the first byte of a character. -/
def followingBytes? (first : Nat) : Option Nat :=
  if first < 0x80 then some 0
  else if 0xC0 ≤ first ∧ first < 0xE0 then some 1
  else if 0xE0 ≤ first ∧ first < 0xF0 then some 2
  else if 0xF0 ≤ first ∧ first < 0xF8 then some 3
  else none

/--
The bytes of a resource identifier. Bytes that belong to one character are written one after the
other; `missing` of them are still missing.
-/
def uriBytes? (missing : Nat) : List Char → Option (List UInt8)
  | [] => if missing = 0 then some [] else none
  | '%' :: high :: low :: rest => do
      let byte := 16 * (← Json.hexValue? high) + (← Json.hexValue? low)
      let missing ←
        if missing = 0 then followingBytes? byte
        else if 0x80 ≤ byte ∧ byte < 0xC0 then some (missing - 1)
        else none
      return byte.toUInt8 :: (← uriBytes? missing rest)
  | character :: rest =>
      if missing = 0 ∧ character ≠ '%' then
        (uriBytes? 0 rest).map (character.toNat.toUInt8 :: ·)
      else none

/-- Reads a resource identifier, which may be empty. -/
def uri? (whole : Bool) (spots : List Spot) : Option (List UInt8 × List Spot) :=
  let belongs (spot : Spot) : Bool := isUriCharacter whole spot.character
  (uriBytes? 0 ((spots.takeWhile belongs).map (·.character))).map fun bytes =>
    (bytes, spots.dropWhile belongs)

/-- The bytes that count of a resource identifier: those before a null byte. -/
def beforeNull (bytes : List UInt8) : List UInt8 :=
  bytes.takeWhile (· != 0)

def nameBytes (name : String) : List UInt8 :=
  name.toList.map fun character => character.toNat.toUInt8

/-- Reads the name of a handle, after its exclamation mark, and whether another mark closes it. -/
def handle (spots : List Spot) : String × Bool × List Spot :=
  let (name, rest) := splitName spots
  match rest with
  | spot :: after => if spot.character = '!' then (name, true, after) else (name, false, rest)
  | [] => (name, false, [])

/-- A tag: what its handle stands for comes before its suffix. -/
structure Tag where
  /-- The handle; none for a tag that is written as a whole. -/
  handle? : Option String
  suffix : List UInt8
  deriving DecidableEq, Repr

/-- Reads a tag between angle brackets, after the opening one. -/
def wholeTag? (spots : List Spot) : Option (Tag × List Spot) := do
  let (bytes, rest) ← uri? true spots
  match rest with
  | spot :: rest =>
      if bytes.isEmpty || spot.character ≠ '>' then none
      else return (⟨none, beforeNull bytes⟩, rest)
  | [] => none

/-- Reads a tag with a handle, after its exclamation mark; a mark alone is a tag as a whole. -/
def shortTag? (spots : List Spot) : Option (Tag × List Spot) := do
  let (name, closed, rest) := handle spots
  let (bytes, rest) ← uri? false rest
  if closed then
    if bytes.isEmpty then none
    else return (⟨some ("!" ++ name ++ "!"), beforeNull bytes⟩, rest)
  else
    let suffix := beforeNull (nameBytes name ++ bytes)
    return (if suffix.isEmpty then ⟨none, nameBytes "!"⟩ else ⟨some "!", suffix⟩, rest)

def tag? (inFlow : Bool) (spots : List Spot) : Option (Tag × List Spot) := do
  let (tag, rest) ←
    match spots with
    | spot :: rest => if spot.character = '<' then wholeTag? rest else shortTag? spots
    | [] => shortTag? []
  if endsWord rest || (inFlow && rest.head?.any (·.character = ',')) then return (tag, rest)
  else none

/-! ## Directives -/

inductive Directive where
  | version (major minor : Nat)
  | handle (handle : String) (start : List UInt8)
  deriving DecidableEq, Repr

/-- Reads a number of at most nine digits. -/
def versionNumber? (spots : List Spot) : Option (Nat × List Spot) :=
  let digits := spots.takeWhile fun spot => spot.character.isDigit
  if digits.isEmpty ∨ 9 < digits.length then none
  else
    some (digits.foldl (fun value spot => 10 * value + (spot.character.toNat - '0'.toNat)) 0,
      spots.drop digits.length)

def versionDirective? (spots : List Spot) : Option (Directive × List Spot) := do
  let (major, rest) ← versionNumber? (spots.dropWhile Spot.isBlank)
  match rest with
  | spot :: rest =>
      if spot.character ≠ '.' then none
      else do
        let (minor, rest) ← versionNumber? rest
        return (.version major minor, rest)
  | [] => none

def handleDirective? (spots : List Spot) : Option (Directive × List Spot) := do
  match spots.dropWhile Spot.isBlank with
  | [] => none
  | spot :: rest =>
      let (name, closed, rest) := handle rest
      if spot.character ≠ '!' || (!closed && !name.isEmpty) ||
          !rest.head?.any Spot.isBlank then none
      else do
        let (bytes, rest) ← uri? true (rest.dropWhile Spot.isBlank)
        if bytes.isEmpty || !endsWord rest then none
        else
          return (.handle ("!" ++ name ++ if closed then "!" else "") (beforeNull bytes), rest)

/-- Reads a directive and the rest of its line, after its percent sign. -/
def directive? (spots : List Spot) : Option (Directive × List Spot) := do
  let (name, rest) := splitName spots
  if !endsWord rest then none
  else do
    let (directive, rest) ←
      if name = "YAML" then versionDirective? rest
      else if name = "TAG" then handleDirective? rest
      else none
    return (directive, ← lineEnd? false rest)

end Yaml

end Resemblance
