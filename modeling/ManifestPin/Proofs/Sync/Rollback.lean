import ManifestPin.Proofs.Sync.Update

/-! # Rollback

A run whose build fails leaves the files as the build left them, with the manifest that the run
found.
-/

namespace ManifestPin

namespace Tree

end Tree

/-- A run that comes to its build, is told no hash that can be pinned, and writes back the manifest
that it found. -/
structure Sync.RollsBack (sync : Sync) (tree : Tree) (inspection : Inspection) : Prop where
  builds : sync.Builds tree inspection
  fails : ∃ failure,
    sync.tool.Fails inspection.placeholder (sync.build inspection tree).result failure
  restored : ((sync.build inspection tree).tree.replaceText sync.tag sync.manifest
    inspection.manifest.content).result = .ok ()

namespace Sample

/-- The tree with another text in the manifest's file. -/
def spoil (tree : Tree) : Tree :=
  tree.put ["m", "a"] (.file "spoiled".toUTF8 fileMode)

/-- How the run ends that is told no hash. -/
theorem fails (change : Tree → Tree) (directory : String) (files : Tree) :
    (sync change "error\n").tool.Fails inspection.placeholder
      ((sync change "error\n").tool.invoke directory files).result
      (.undiscovered "build" (.unreported "error")) := by
  have last : Report.tail "error\n" = "error" := by decide
  have fails : (sync change "error\n").tool.Fails inspection.placeholder
      ((sync change "error\n").tool.invoke directory files).result
      (.undiscovered "build" (.unreported (Report.tail "error\n"))) :=
    .unreported { success := false, diagnostics := "error\n" } rfl (by decide)
  rw [last] at fails
  exact fails

/-- A run that is told no hash rolls back if the manifest can be written back. -/
theorem rollsBack {change : Tree → Tree}
    (restored : ((change provided).replaceText "7" "a/m"
      inspection.manifest.content).result.toOption = some ()) :
    (sync change "error\n").RollsBack tree inspection :=
  ⟨builds change "error\n", ⟨_, fails change _ _⟩, eq_ok_of_toOption restored⟩

end Sample

end ManifestPin
