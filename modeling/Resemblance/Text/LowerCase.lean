import Resemblance.Text.CaseTable

/-!
# Lower case

The full lower-case form of a text. A capital dotted I becomes a small i with a dot above. A capital
sigma becomes a final sigma at the end of a word: when a letter with case precedes it and none
follows, where ignorable characters in between do not count.
-/

namespace Resemblance.Text

/-- True if a code point lies in one of some ranges. -/
def inRanges (ranges : Array (Nat × Nat)) (point : Nat) : Bool :=
  ranges.any fun (first, last) => first ≤ point && point ≤ last

def isCaseIgnorable (character : Char) : Bool :=
  inRanges caseIgnorableRanges character.toNat

/-- True for the characters that have a case and are not ignored beside letters. -/
def isCased (character : Char) : Bool :=
  inRanges casedRanges character.toNat

def simpleLower (character : Char) : Char :=
  if character.toNat < 0x80 then character.toLower
  else
    let point := character.toNat
    match caseRuns.find? fun run =>
        run.first ≤ point && point ≤ run.last && (point - run.first) % run.step == 0 with
    | some run => Char.ofNat (point + run.shift).toNat
    | none => character

/-- True if the nearest character that is not ignored, if any, has a case. -/
def nextIsCased (characters : List Char) : Bool :=
  match characters.dropWhile isCaseIgnorable with
  | character :: _ => isCased character
  | [] => false

/-- The lower case of characters that follow the characters `before`, which are in reverse order. -/
def lowerAfter (before : List Char) : List Char → List Char
  | [] => []
  | character :: rest =>
      let lower :=
        if character = 'İ' then ['i', '\u0307']
        else if character = 'Σ' then
          if nextIsCased before && !nextIsCased rest then ['ς'] else ['σ']
        else [simpleLower character]
      lower ++ lowerAfter (character :: before) rest

def lowerCase (text : String) : String :=
  String.ofList (lowerAfter [] text.toList)

end Resemblance.Text
