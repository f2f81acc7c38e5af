import ManifestPin.Event
import ManifestPin.Files.Operations

/-! # Configuration files -/

namespace ManifestPin.Config

/-- The name of the configuration file that is looked up in the root directory. -/
def fileName : String :=
  "pin-sync.toml"

/-- The configuration in a file. -/
def load (tree : Tree) (path : String) : Except Failure Config := do
  let document ← (tree.readText path).mapError Failure.file
  (Config.parse document).mapError fun fault => .config path fault

/-- The configuration in the root directory, or the default one if there is no file. -/
def discover (tree : Tree) (root : String) : List Event × Except Failure Config :=
  let candidate := Path.join root fileName
  if tree.isFile candidate then ([.configFound candidate], load tree candidate)
  else ([], .ok default)

end ManifestPin.Config
