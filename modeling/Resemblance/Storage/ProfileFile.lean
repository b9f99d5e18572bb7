import Resemblance.Profile.Stream
import Resemblance.Storage.FileTree

/-!
# Profiles in files

A profile is saved in two steps: it is written to a temporary file beside its destination, which is
then renamed. If it cannot be written, the temporary file is removed again. Failures of reading and
writing name the file of the profile.
-/

namespace Resemblance

/-- A source at the beginning of a node; reading from a directory fails. -/
def FileNode.toSource : FileNode → Source
  | .file bytes => .ofBytes bytes
  | .directory => { Source.ofBytes [] with ending := .broken }

def namingFile {Result : Type} (path : String) : Except Failure Result → Except Failure Result
  | .ok result => .ok result
  | .error failure => .error (failure.withPath path)

namespace Profile

def load (profile : Profile) (path : String) (tree : FileTree) : Except Failure Profile :=
  match tree.node? path with
  | none => .error (.io (.openProfile path) [])
  | some node => do
      let loaded ← namingFile path (profile.readFrom node.toSource)
      return { loaded with source? := some path }

/-- The file that a profile is written to before it is renamed. -/
def temporaryPath (path : String) : String :=
  Path.withExtension path "tmp"

/-- Saves a profile in a file, and gives the files afterwards. -/
def save (profile : Profile) (path : String) (tree : FileTree) :
    Except Failure Unit × FileTree :=
  let temporary := temporaryPath path
  match tree.write? temporary [] with
  | none => (.error (.io (.createProfile temporary) []), tree)
  | some created =>
      match Writer.profile profile .empty with
      | .error failure _ => (.error (failure.withPath path), created.remove temporary)
      | .ok _ sink =>
          let written := (created.write? temporary sink.bytes).getD created
          match written.rename? temporary path with
          | some renamed => (.ok (), renamed)
          | none => (.error (.io (.renameProfile path) []), written)

end Profile

end Resemblance
