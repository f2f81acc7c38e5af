import ManifestPin.Command
import ManifestPin.Sync.Run

/-! # Configured runs -/

namespace ManifestPin.Sync

/-- What a configuration keeps in step, with paths relative to a root, where a launcher runs the
build. The tag is the number of the process. -/
def ofConfig (config : Config) (root : String) (launcher : Launcher) (tag : String) : Sync :=
  let resolved := config.resolve root
  { parameters := resolved.parameters
    manifest := resolved.manifest
    versionKey := resolved.versionKey
    directory := root
    tool := resolved.build.tool launcher
    tag }

end ManifestPin.Sync
