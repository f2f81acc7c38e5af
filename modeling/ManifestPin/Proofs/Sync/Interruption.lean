import ManifestPin.Proofs.Sync.Recovery

/-! # Interrupted runs

A run that is killed after its first write leaves the provisional manifest on file. The version
there compares equal to the declared one, so the placeholder is all that tells it from a finished
update. The placeholder of an empty hash is empty, which is no sign of anything.
-/

namespace ManifestPin

section

variable {sync : Sync} {tree after : Tree} {inspection : Inspection} {manifest : Manifest}

/-- A run that is about to make its first write found another version pinned. -/
theorem Run.inspect_of_writing
    (writes : ((Run.start tree).step sync).stage = .writing inspection manifest) :
    (sync.inspect tree).2 = .ok inspection ∧ inspection.agreement = .different ∧
      manifest = inspection.provisional := by
  cases inspected : (sync.inspect tree).2 with
  | error failure =>
      rw [((Run.stands_start tree).inspect_of_error inspected).stage] at writes
      cases writes
  | ok found =>
      rw [((Run.stands_start tree).inspect inspected).stage] at writes
      cases upToDate : found.isUpToDate with
      | true =>
          rw [Inspection.next, if_pos upToDate] at writes
          cases writes
      | false =>
          rw [Inspection.next_of_sound (Inspection.sound_of_inspect inspected).1 upToDate] at writes
          cases agreement : found.agreement with
          | equal =>
              rw [agreement] at writes
              cases writes
          | different =>
              rw [agreement] at writes
              cases writes
              exact ⟨rfl, agreement, rfl⟩

/-- What the first write of a run puts on file is out of date unless the hash that it replaces is
empty, and a later run comes to its build with it. -/
theorem planned_of_writing
    (writes : ((Run.start tree).step sync).stage = .writing inspection manifest)
    (nonempty : inspection.pin.hash ≠ "")
    (written : after.readText sync.manifest = .ok manifest.content)
    (unchanged : after.readText sync.parameters = tree.readText sync.parameters) :
    (sync.check after).2 = .ok (.planned inspection.current inspection.current) ∧
    ∀ attempt : Attempt, (attempt.sync sync).Builds after inspection.pending ∧
      ((attempt.sync sync).run after).calls = [⟨attempt.directory, after⟩] := by
  obtain ⟨inspected, different, rfl⟩ := Run.inspect_of_writing writes
  obtain ⟨sound, path, -⟩ := Inspection.sound_of_inspect inspected
  have outdated := Inspection.outdated_pending nonempty
  have found : (sync.inspect after).2 = .ok inspection.pending :=
    Sync.inspect_of_unchanged inspected unchanged (sound.pending different)
      (inspection.path_provisional.trans path) rfl written
  refine ⟨Sync.check_of_outdated found outdated, fun attempt => ?_⟩
  have builds : (attempt.sync sync).Builds after inspection.pending :=
    ⟨found, outdated, fun apart => by cases apart⟩
  exact ⟨builds, builds.calls⟩

end

/-- A run that was killed after its first write is gone on with. -/
theorem planned_of_writing_sample :
    ((Sample.sync id "").check Sample.provided).2 = .ok (.planned "2" "2") ∧
      ((Sample.sync Sample.remove "got: def\n").run Sample.provided).calls =
        [⟨".", Sample.provided⟩] := by
  have first := Sync.stands_writing (Sample.builds id "").inspected rfl
  have kept : Sample.provided.readText "p" = .ok "V = 2\n" :=
    eq_ok_of_toOption (by decide +kernel)
  have left := planned_of_writing first.stage (by decide)
    (eq_ok_of_toOption (by decide +kernel) : Sample.provided.readText "a/m" = .ok _)
    (kept.trans Sample.declaration.symm)
  exact ⟨left.1, (left.2 ⟨(Sample.sync Sample.remove "got: def\n").tool, ".", "7", 4⟩).2⟩

namespace Sample

/-- The manifest with an empty hash. -/
def unhashed : Inspection where
  current := "2"
  manifest := { path := "a/m", content := "version = \"1\"\nsha256 = \"\"\n" }
  pin := { version := "1", hash := "" }
  agreement := .different

/-- The files with that manifest. -/
def blank : Tree :=
  tree.put ["m", "a"] (.file unhashed.manifest.content.toUTF8 fileMode)

end Sample

/-- An empty hash has an empty placeholder, which passes for a hash once the version is written. -/
theorem planned_of_writing_blank :
    ((Run.start Sample.blank).step (Sample.sync id "")).stage =
        .writing Sample.unhashed Sample.unhashed.provisional ∧
      (Run.steps (Sample.sync id "") 2 (Run.start Sample.blank)).tree.readText "a/m" =
        .ok Sample.unhashed.provisional.content ∧
      (Run.steps (Sample.sync id "") 2 (Run.start Sample.blank)).tree.readText "p" =
        Sample.blank.readText "p" ∧
      ((Sample.sync id "").check
        (Run.steps (Sample.sync id "") 2 (Run.start Sample.blank)).tree).2 =
        .ok (.notNeeded "2") := by
  have inspected : ((Sample.sync id "").inspect Sample.blank).2 = .ok Sample.unhashed :=
    Sync.inspect_eq_ok_iff.mpr ⟨⟨"2", eq_ok_of_toOption (by decide +kernel)⟩,
      eq_ok_of_toOption (by decide +kernel), Sample.compared⟩
  have first := Sync.stands_writing inspected rfl
  have second : (Run.steps (Sample.sync id "") 2 (Run.start Sample.blank)).tree =
      (Sample.blank.replaceText "7" "a/m" Sample.unhashed.provisional.content).tree :=
    (first.write (Sample.sync id "")).tree
  have written : (Sample.blank.replaceText "7" "a/m"
      Sample.unhashed.provisional.content).tree.readText "a/m" =
      .ok Sample.unhashed.pending.manifest.content := eq_ok_of_toOption (by decide +kernel)
  have declaration : Sample.blank.readText "p" = .ok "V = 2\n" :=
    eq_ok_of_toOption (by decide +kernel)
  have kept : (Sample.blank.replaceText "7" "a/m"
      Sample.unhashed.provisional.content).tree.readText "p" = .ok "V = 2\n" :=
    eq_ok_of_toOption (by decide +kernel)
  have unchanged := kept.trans declaration.symm
  have sound := (Inspection.sound_of_inspect inspected).1.pending rfl
  have found := Sync.inspect_of_unchanged inspected unchanged sound rfl rfl written
  rw [second]
  exact ⟨first.stage, written, unchanged, Sync.check_of_upToDate found (by decide +kernel)⟩

end ManifestPin
