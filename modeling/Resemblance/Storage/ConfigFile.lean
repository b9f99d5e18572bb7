import Resemblance.Config.Document
import Resemblance.Storage.FileTree

/-!
# Configurations in files

A configuration file holds a configuration in YAML. What is read from a file has been validated.
-/

namespace Resemblance

namespace Config

def load (path : String) (tree : FileTree) : Except Failure Config :=
  match (tree.read? path).map Text.Utf8.decode with
  | some (.ok text) => ofYaml text
  | _ => .error (.io (.readConfig path) [])

/-- Saves a configuration in a file, and gives the files afterwards. -/
def save (config : Config) (path : String) (tree : FileTree) : Except Failure Unit × FileTree :=
  match tree.write? path (Text.Utf8.encode config.toYaml) with
  | some written => (.ok (), written)
  | none => (.error (.io (.writeConfig path) []), tree)

end Config

end Resemblance
