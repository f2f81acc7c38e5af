import ManifestPin.Proofs.Hash.Recognition
import ManifestPin.Proofs.Sync.Finality

/-! # Accepted hashes

A run pins no placeholder of a hash. It pins an empty hash exactly if the build reports an algorithm's
name and a colon with no digest behind it, which `Hash.ofReported` leaves nothing of.
-/

namespace ManifestPin

open BuildTool (Reports)

namespace Sync

variable {sync : Sync} {tree : Tree} {inspection : Inspection}
  {version pinned current hash : String}

/-- Files with which a check finds nothing to do are settled. -/
theorem settled_of_check (checked : (sync.check tree).2 = .ok (.notNeeded version)) :
    sync.Settled tree version := by
  cases inspected : (sync.inspect tree).2 with
  | error failure =>
      rw [check_of_inspect_error inspected] at checked
      cases checked
  | ok inspection =>
      cases upToDate : inspection.isUpToDate with
      | true =>
          rw [check_of_upToDate inspected upToDate] at checked
          cases checked
          exact ⟨inspection, inspected, upToDate, rfl⟩
      | false =>
          rw [check_of_outdated inspected upToDate] at checked
          cases checked

/-- Settled files pin a hash that is no placeholder. -/
theorem Settled.isPlaceholder (settled : sync.Settled tree version) {value : String}
    (held : tree.pinnedValue sync.manifest .hash = .ok value) :
    Hash.isPlaceholder value = false := by
  obtain ⟨inspection, inspected, upToDate, -⟩ := settled.found
  obtain ⟨sound, path, read⟩ := Inspection.sound_of_inspect inspected
  rw [← path] at read held
  have pinned := Tree.pinnedValue_of_value read sound.hash
  obtain rfl : inspection.pin.hash = value := Except.ok.inj (pinned.symm.trans held)
  simp only [Inspection.isUpToDate, Bool.and_eq_true, Bool.not_eq_true'] at upToDate
  exact upToDate.2

/-- What a build has to report for a run to accept a hash: the hash is what the first token behind
a usable marker means. -/
structure Accepts (sync : Sync) (tree : Tree) (hash : String) : Prop where
  /-- It is the placeholder of no hash but possibly the empty one. -/
  real : ∀ source, source ≠ "" → Hash.placeholder source ≠ hash
  reported : ∃ call output, (sync.run tree).calls = [call] ∧
    (sync.tool.invoke call.directory call.tree).result = .ok output ∧
    ∃ site : Report.Site output.diagnostics.toList,
      hash = Hash.ofReported (String.ofList site.token) ∧
      (hash = "" ↔ ∃ algorithm : HashAlgorithm, site.token = algorithm.name.toList ++ [':'])

/-- A hash that is no placeholder is accepted once the build that reports it is done. -/
theorem Builds.accepts (builds : sync.Builds tree inspection)
    (reports : Reports inspection.placeholder (sync.build inspection tree).result hash) :
    sync.Accepts tree hash := by
  refine ⟨fun source nonempty same => ?_, ?_⟩
  · have recognised := Hash.isPlaceholder_iff_exists.mpr ⟨source, nonempty, same⟩
    exact absurd (reports.real.symm.trans recognised) (by decide)
  · obtain ⟨output, ran, reported⟩ := reports.reported
    obtain ⟨token, found, rfl⟩ := Option.map_eq_some_iff.mp reported
    obtain ⟨site, rfl⟩ := Report.token?_eq_some_iff.mp found
    refine ⟨_, output, builds.calls, ran, site, rfl, ?_⟩
    rw [Hash.ofReported_eq_empty_iff, String.toList_ofList, String.ofList_eq_empty_iff]
    exact or_iff_right site.word.nonempty

/-- An update pins what the build reported, which is no placeholder of a hash, and is empty exactly
if the token is an algorithm's name and a colon. The manifest then pins nothing only if the hash is
empty or starts with a quote; where a later check finds nothing to do, it pins no placeholder. -/
theorem accepts_of_updated
    (updated : sync.runResult tree = .ok (.updated pinned current hash)) :
    sync.Accepts tree hash ∧
      ((∀ call ∈ (sync.run tree).calls,
          ((sync.tool.invoke call.directory call.tree).tree.makeParent sync.manifest).1.Clear
            sync.tag sync.manifest) →
        ∃ value, (sync.run tree).tree.pinnedValue sync.manifest .hash = .ok value ∧
          (value = "" ↔ hash = "" ∨ hash.toList.head? = some '"') ∧
          ∀ version, (sync.check (sync.run tree).tree).2 = .ok (.notNeeded version) →
            ∀ source, source ≠ "" → Hash.placeholder source ≠ value) := by
  obtain ⟨inspection, builds, rfl, rfl, reports, written⟩ := builds_of_updated updated
  refine ⟨builds.accepts reports, fun clear => ?_⟩
  obtain ⟨output, -, reported⟩ := reports.reported
  have single := Report.feed_not_mem_hash? reported
  have left := clear ⟨sync.directory, sync.built inspection tree⟩ (by simp [builds.calls])
  have read := builds.readText_run reports left written
  have path : (inspection.final hash).path = sync.manifest :=
    (Inspection.path_final inspection hash).trans builds.path
  have held : (sync.run tree).tree.pinnedValue sync.manifest .hash =
      .ok (String.ofList (hash.toList.takeWhile (· ≠ '"'))) := by
    rw [← path] at read ⊢
    exact Tree.pinnedValue_of_value read (builds.sound.hash_final single)
  refine ⟨_, held, ?_, fun version checked source nonempty same => ?_⟩
  · rw [String.ofList_eq_empty_iff, ← String.toList_eq_nil_iff]
    cases hash.toList with
    | nil => simp
    | cons first rest => simp
  · have recognised := Hash.isPlaceholder_iff_exists.mpr ⟨source, nonempty, same⟩
    have real := (settled_of_check checked).isPlaceholder held
    exact absurd (real.symm.trans recognised) (by decide)

/-- A digest behind an algorithm's name is accepted and pinned without the name. -/
theorem accepts_of_updated_prefixed :
    (Sample.sync id "got: sha256:1b4x\n").Accepts Sample.tree "1b4x" ∧
      ∃ value, ((Sample.sync id "got: sha256:1b4x\n").run Sample.tree).tree.pinnedValue "a/m"
        .hash = .ok value ∧ value ≠ "" := by
  have reports : Reports Sample.inspection.placeholder
      (.ok { success := false, diagnostics := "got: sha256:1b4x\n" }) "1b4x" :=
    ⟨⟨_, rfl, by decide⟩, by decide, by decide⟩
  have ended := Sample.ends id reports (eq_ok_of_toOption (by decide +kernel))
  obtain ⟨accepts, pins⟩ := accepts_of_updated ended.1
  obtain ⟨value, held, empty, -⟩ := pins (Sample.clear_calls _)
  exact ⟨accepts, value, held, fun none => absurd (empty.mp none) (by decide)⟩

/-- An algorithm's name with no digest is accepted as an empty hash, which is the placeholder of
itself, and later checks find nothing to do. -/
theorem accepts_of_updated_bare :
    Sample.tree.pinnedValue "a/m" .hash = .ok "abc" ∧
      (Sample.sync id "got: sha256:\n").runResult Sample.tree = .ok (.updated "1" "2" "") ∧
      Hash.placeholder "" = "" ∧
      ((Sample.sync id "got: sha256:\n").run Sample.tree).tree.pinnedValue "a/m" .hash = .ok "" ∧
      ∃ version, ((Sample.sync id "got: sha256:\n").check
        ((Sample.sync id "got: sha256:\n").run Sample.tree).tree).2 =
          .ok (.notNeeded version) := by
  have builds := Sample.builds id "got: sha256:\n"
  have reports : Reports Sample.inspection.placeholder
      (.ok { success := false, diagnostics := "got: sha256:\n" }) "" :=
    ⟨⟨_, rfl, by decide⟩, by decide, by decide⟩
  obtain ⟨updated, ended⟩ := Sample.ends id reports (eq_ok_of_toOption (by decide +kernel))
  rw [ended]
  have read : (Sample.provided.replaceText "7" "a/m"
      (Sample.inspection.final "").content).tree.readText "a/m" =
        .ok (Sample.inspection.final "").content := eq_ok_of_toOption (by decide +kernel)
  have kept : (Sample.provided.replaceText "7" "a/m"
      (Sample.inspection.final "").content).tree.readText "p" = .ok "V = 2\n" :=
    eq_ok_of_toOption (by decide +kernel)
  obtain ⟨version, -, settled⟩ := builds.settled reports (by decide) read
    (kept.trans Sample.declaration.symm)
  exact ⟨eq_ok_of_toOption (by decide +kernel), updated, by decide,
    eq_ok_of_toOption (by decide +kernel), version, settled.check⟩

end Sync

end ManifestPin
