/-!
# Paths

The parts of a path: names between slashes, where empty names and single dots mean nothing. A path
that begins with a slash leads from the root, any other one from the working directory. The
extension of a file is what follows the last dot of its name, unless the name begins with that dot;
the stem is the name without it.
-/

namespace Resemblance

namespace Path

/-- The names in a path, with empty names where slashes meet. -/
def parts (path : String) : List String :=
  (path.toList.splitOn '/').map String.ofList

def isIdle (name : String) : Bool :=
  name = "" ∨ name = "."

def names (path : String) : List String :=
  (parts path).filter fun name => !isIdle name

/-- The place that a name leads to from a place; the root is the directory above itself. -/
def step (place : List String) (name : String) : List String :=
  if isIdle name then place
  else if name = ".." then place.dropLast
  else place ++ [name]

def isAbsolute (path : String) : Bool :=
  path.toList.head? == some '/'

/--
True for a path that can be followed: it is not empty, has no null character, and has less than 4096
bytes.
-/
def isFollowable (path : String) : Bool :=
  !path.isEmpty && !path.toList.contains '\x00' && path.utf8ByteSize < 4096

/-- True for a name that a file or directory can have: it has at most 255 bytes. -/
def isShort (name : String) : Bool :=
  name.utf8ByteSize ≤ 255

/-- True for a path that ends in the directory it leads to, as `a/.` does. -/
def endsInDot (path : String) : Bool :=
  ((parts path).reverse.dropWhile (· == "")).head? == some "."

def fileName? (path : String) : Option String :=
  (names path).getLast?.filter (· ≠ "..")

/-- A name before and after its last dot; the second part is absent without such a dot. -/
def splitName (name : String) : String × Option String :=
  let characters := name.toList.reverse
  let after := characters.takeWhile (· ≠ '.')
  let before := characters.drop (after.length + 1)
  if before.isEmpty then (name, none)
  else (String.ofList before.reverse, some (String.ofList after.reverse))

def fileStem? (path : String) : Option String :=
  (fileName? path).map fun name => (splitName name).1

def extension? (path : String) : Option String :=
  (fileName? path).bind fun name => (splitName name).2

/-- The path without as many characters at its end as the extension of its file has. -/
def cutExtension (path : String) : String :=
  let cut := ((extension? path).getD "").length
  String.ofList (path.toList.take (path.length - cut))

/-- The path of the file with an extension after its stem; a path that leads to no file stays. -/
def setExtension (path extension : String) : String :=
  match fileName? path with
  | none => path
  | some name =>
      let parts := (((parts path).reverse.dropWhile isIdle).drop 1).reverse
      "/".intercalate (parts ++ [(splitName name).1 ++ "." ++ extension])

/--
The path of the file with another extension. The old one is cut off first, so that a name of an
extension after two dots becomes the way to the directory above, which gets none.
-/
def withExtension (path extension : String) : String :=
  setExtension (cutExtension path) extension

/-- The order of places: by their first names that differ, and a place before those below it. -/
def precedes : List String → List String → Bool
  | [], _ => true
  | _ :: _, [] => false
  | left :: lefts, right :: rights =>
      if left = right then precedes lefts rights else left < right

def join (directory : String) (place : List String) : String :=
  if place.isEmpty then directory
  else if directory.endsWith "/" then directory ++ "/".intercalate place
  else directory ++ "/" ++ "/".intercalate place

end Path

end Resemblance
