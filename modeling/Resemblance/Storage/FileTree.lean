import Resemblance.Failure
import Resemblance.Storage.Path

/-!
# File trees

Files and directories, each at the place that the names on the way to it from the root make up. The
working directory and the directories above it are always there. A file or directory can only be
created inside a directory, and a path leads only through directories that exist. Renaming puts a
file in the place of another one in one step.
-/

namespace Resemblance

/-- What is found at a place. -/
inductive FileNode where
  | file (bytes : List UInt8)
  | directory
  deriving DecidableEq, Repr

/-- Files and directories at their places. -/
structure FileTree where
  /-- The nodes other than the working directory and the directories above it. -/
  nodes : List (List String × FileNode)
  /-- The place that relative paths start from. -/
  workingDirectory : List String
  deriving DecidableEq, Repr

namespace FileTree

def empty : FileTree := ⟨[], ["home"]⟩

def nodeAt? (tree : FileTree) (place : List String) : Option FileNode :=
  if place.isPrefixOf tree.workingDirectory then some .directory
  else (tree.nodes.find? (·.1 == place)).map (·.2)

/-- The place that a name leads to from a place, which must be a directory. -/
def step? (tree : FileTree) (place : List String) (name : String) : Option (List String) :=
  if Path.isShort name && tree.nodeAt? place = some .directory then some (Path.step place name)
  else none

/-- The place that a path starts from. -/
def start (tree : FileTree) (path : String) : List String :=
  if Path.isAbsolute path then [] else tree.workingDirectory

/-- The place that a path leads to; nothing needs to be found at the place itself. -/
def resolve? (tree : FileTree) (path : String) : Option (List String) :=
  if Path.isFollowable path then (Path.parts path).foldlM tree.step? (tree.start path) else none

def node? (tree : FileTree) (path : String) : Option FileNode :=
  (tree.resolve? path).bind tree.nodeAt?

/-- The tree with a node at a place, and nothing else changed. -/
def setNode (tree : FileTree) (place : List String) (node : FileNode) : FileTree :=
  { tree with nodes := tree.nodes.filter (·.1 != place) ++ [(place, node)] }

def removeNode (tree : FileTree) (place : List String) : FileTree :=
  { tree with nodes := tree.nodes.filter (·.1 != place) }

def read? (tree : FileTree) (path : String) : Option (List UInt8) :=
  match tree.node? path with
  | some (.file bytes) => some bytes
  | _ => none

/-- The place of a file that can be created or replaced at a path. -/
def filePlace? (tree : FileTree) (path : String) : Option (List String) :=
  match tree.resolve? path with
  | none => none
  | some place =>
      if tree.nodeAt? place ≠ some .directory ∧
          tree.nodeAt? place.dropLast = some .directory then
        some place
      else none

def write? (tree : FileTree) (path : String) (bytes : List UInt8) : Option FileTree :=
  (tree.filePlace? path).map fun place => tree.setNode place (.file bytes)

def remove (tree : FileTree) (path : String) : FileTree :=
  match tree.resolve? path, tree.read? path with
  | some place, some _ => tree.removeNode place
  | _, _ => tree

/-- Moves a file to a path, in place of an earlier file. -/
def rename? (tree : FileTree) (source target : String) : Option FileTree :=
  match tree.read? source, tree.filePlace? target with
  | some bytes, some place => some ((tree.remove source).setNode place (.file bytes))
  | _, _ => none

/-- Creates or replaces a file, and gives the files afterwards. -/
def write (tree : FileTree) (path : String) (bytes : List UInt8) :
    Except Failure Unit × FileTree :=
  match tree.write? path bytes with
  | some written => (.ok (), written)
  | none => (.error (.io .operation []), tree)

/--
The tree with the directories that names lead to from a place, created one after the other, up to a
name that cannot be followed.
-/
def makeFrom (tree : FileTree) (place : List String) : List String → FileTree
  | [] => tree
  | name :: names =>
      let next := Path.step place name
      match tree.nodeAt? next with
      | some .directory => tree.makeFrom next names
      | some (.file _) => tree
      | none =>
          if Path.isShort name then (tree.setNode next .directory).makeFrom next names else tree

def isDirectory (tree : FileTree) (path : String) : Bool :=
  tree.node? path = some .directory

/--
Creates a directory and the directories on the way to it, and gives the files afterwards; an empty
path needs none. A directory in front of a dot at the end has to be there already.
-/
def makeDirectory (tree : FileTree) (path : String) : Except Failure Unit × FileTree :=
  if path.isEmpty then (.ok (), tree)
  else
    let names := if Path.isFollowable path then Path.names path else []
    let made := tree.makeFrom (tree.start path)
      (if Path.endsInDot path then names.dropLast else names)
    (if made.isDirectory path then .ok () else .error (.io .operation []), made)

/-- The name that leads from a place towards the working directory. -/
def nextName? (tree : FileTree) (place : List String) : Option String :=
  if place.isPrefixOf tree.workingDirectory then tree.workingDirectory[place.length]? else none

/-- The names in a directory, in order. -/
def names? (tree : FileTree) (path : String) : Option (List String) :=
  match tree.resolve? path with
  | none => none
  | some place =>
      if tree.nodeAt? place = some .directory then
        let others := tree.nodes.filterMap fun (other, _) =>
          if other.dropLast = place then other.getLast? else none
        some (((tree.nextName? place).toList ++ others).mergeSort
          fun left right => decide (left ≤ right))
      else none

/-- The place below a directory at which a node is a file. -/
def filePlaceBelow? (directory : List String) (entry : List String × FileNode) :
    Option (List String) :=
  match entry.2 with
  | .file _ =>
      if directory.isPrefixOf entry.1 then some (entry.1.drop directory.length) else none
  | .directory => none

/--
The paths of all files in a directory and the directories inside it, in the order of their names. A
path that leads to a file is the only one below itself.
-/
def filesBelow? (tree : FileTree) (path : String) : Option (List String) :=
  match tree.resolve? path, tree.node? path with
  | some place, some _ =>
      some (((tree.nodes.filterMap (filePlaceBelow? place)).mergeSort Path.precedes).map
        (Path.join path))
  | _, _ => none

end FileTree

end Resemblance
