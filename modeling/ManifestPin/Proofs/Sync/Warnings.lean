import ManifestPin.Command
import ManifestPin.Proofs.Sync.Course
import ManifestPin.Proofs.Version.Precedence

/-! # Warnings

Each stage of a run adds its own warnings to those before it. Put together they report the
conditions that they name, in a fixed order and nothing else: the pinned hash is a placeholder, the
declared version ranks below the pinned one, the build succeeded, the hash has another shape, the
manifest was or was not written back.
-/

namespace ManifestPin

open BuildTool (Reports)

namespace Event

/-- The events by which one event reports a condition: that event where the condition holds, and
none where it does not. -/
inductive Under (event : Event) (condition : Prop) : List Event → Prop where
  | held (holds : condition) : Under event condition [event]
  | spared (fails : ¬condition) : Under event condition []

variable {event other : Event} {condition equivalent : Prop} {events : List Event}

theorem Under.congr (under : event.Under condition events) (same : condition ↔ equivalent) :
    event.Under equivalent events := by
  cases under with
  | held holds => exact .held (same.mp holds)
  | spared fails => exact .spared fun holds => fails (same.mpr holds)

/-- A condition that can be decided is reported by a choice. -/
theorem under_ite (event : Event) (condition : Prop) [Decidable condition] :
    event.Under condition (if condition then [event] else []) := by
  by_cases holds : condition
  · rw [if_pos holds]
    exact .held holds
  · rw [if_neg holds]
    exact .spared holds

theorem Under.mem_iff (under : event.Under condition events) :
    other ∈ events ↔ condition ∧ other = event := by
  cases under with
  | held holds => simp [holds]
  | spared fails => simp [fails]

/-- The events that report something wrong. -/
def warnings (events : List Event) : List Event :=
  events.filter isWarning

@[simp] theorem warnings_nil : warnings [] = [] := rfl

@[simp] theorem warnings_append (first second : List Event) :
    warnings (first ++ second) = warnings first ++ warnings second :=
  List.filter_append ..

theorem warnings_of_all (all : ∀ event ∈ events, event.isWarning = true) :
    warnings events = events :=
  List.filter_eq_self.mpr all

end Event

open Event (Under warnings)

variable {sync : Sync} {run : Run} {tree : Tree} {calls : List BuildCall} {inspection : Inspection}
  {manifest : Manifest} {failure : Failure} {hash : String} {count : Nat}

namespace Tree

/-- A replacement that succeeds leaves no temporary file that it would have to report. -/
theorem leftover_of_written {tag path : String} {content : ByteArray}
    (written : (tree.replace tag path content).result = .ok ()) :
    (tree.replace tag path content).leftover = none := by
  unfold replace at written ⊢
  rcases made : tree.makeParent path with ⟨base, _ | _⟩
  · rfl
  simp only [made] at written ⊢
  cases opens : guarded (temporary tag path) (base.truncate (temporary tag path)) with
  | error fault => rfl
  | ok state =>
      obtain ⟨opened, location⟩ := state
      simp only [opens] at written ⊢
      rcases fills : opened.fill location (temporary tag path) path content with ⟨filled, _ | _⟩
      · simp only [fills, abandon] at written
        split at written <;> cases written
      · simp only [fills] at written ⊢
        cases moves : guarded path (filled.move (temporary tag path) path) with
        | error fault =>
            simp only [moves, abandon] at written
            split at written <;> cases written
        | ok after => rfl

end Tree

namespace Replacement

@[simp] theorem warnings_events (replacement : Replacement) :
    warnings replacement.events = replacement.events := by
  refine Event.warnings_of_all fun event member => ?_
  obtain ⟨left, -, rfl⟩ := List.mem_map.mp member
  rfl

end Replacement

namespace BuildTool

variable {tool : BuildTool} {directory : String}

/-- Looking for a hash adds to the tool's own warnings that a build succeeded. -/
theorem warnings_discover (tool : BuildTool) (directory : String) (tree : Tree) :
    ∃ success, warnings (tool.discover directory tree).events =
        warnings (tool.invoke directory tree).events ++ success ∧
      Under (.buildSucceeded tool.program)
        (∃ output, (tool.invoke directory tree).result = .ok output ∧ output.success = true)
        success := by
  cases ran : (tool.invoke directory tree).result with
  | error failure =>
      refine ⟨[], ?_, .spared (by simp)⟩
      simp only [discover, ran, List.append_nil]
  | ok output =>
      have reported :
          warnings ((Report.hash? output.diagnostics).toList.map .hashReported) = [] := by
        cases Report.hash? output.diagnostics <;> rfl
      refine ⟨if output.success = true then [.buildSucceeded tool.program] else [], ?_,
        (Event.under_ite _ _).congr (by simp)⟩
      simp only [discover, ran, Event.warnings_append, reportEvents, reported, List.append_nil]
      cases output.success <;> rfl

end BuildTool

/-- A build command gives no warnings of its own. -/
theorem BuildCommand.warnings_tool (command : BuildCommand) (launcher : Launcher)
    (directory : String) (tree : Tree) :
    warnings ((command.tool launcher).invoke directory tree).events = [] :=
  rfl

namespace Inspection

/-- The warnings of a run whose manifest is out of date, before anything is written. -/
structure Opens (inspection : Inspection) (opening : List Event) : Prop where
  split : ∃ pending older, opening = pending ++ older ∧
    Under (.placeholderPinned inspection.pin.hash)
      (Hash.isPlaceholder inspection.pin.hash = true) pending ∧
    ∃ pinned current, Version.parse inspection.pin.version = .ok pinned ∧
      Version.parse inspection.current = .ok current ∧
      Under (.downgrade pinned.text current.text)
        (inspection.agreement = .different ∧ current.Precedes pinned) older

/-- Before anything is written a run warns of an older version exactly where it is to write one. -/
theorem Opens.downgrade_mem_iff {opening : List Event} (opens : inspection.Opens opening)
    {pinned current : Version} (first : Version.parse inspection.pin.version = .ok pinned)
    (second : Version.parse inspection.current = .ok current) {older newer : String} :
    .downgrade older newer ∈ opening ↔
      (inspection.agreement = .different ∧ current.Precedes pinned) ∧
        older = pinned.text ∧ newer = current.text := by
  obtain ⟨pending, warned, rfl, pends, before, after, earlier, later, ranks⟩ := opens.split
  obtain rfl := Except.ok.inj (first.symm.trans earlier)
  obtain rfl := Except.ok.inj (second.symm.trans later)
  simp [pends.mem_iff, ranks.mem_iff]

/-- The warnings up to the first action on the files. -/
def opening (inspection : Inspection) : List Event :=
  Sync.placeholderEvents inspection.pin ++ warnings inspection.next.1

theorem warnings_downgradeEvents (inspection : Inspection) :
    warnings inspection.downgradeEvents = inspection.downgradeEvents := by
  refine Event.warnings_of_all fun event member => ?_
  unfold downgradeEvents at member
  split at member
  · split at member
    · obtain rfl := List.mem_singleton.mp member
      rfl
    · cases member
  · cases member

theorem warnings_next_of_upToDate (upToDate : inspection.isUpToDate = true) :
    warnings inspection.next.1 = [] := by
  rw [next, if_pos upToDate]
  rfl

theorem warnings_next_of_equal (outdated : inspection.isUpToDate = false)
    (equal : inspection.agreement = .equal) : warnings inspection.next.1 = [] := by
  rw [next, if_neg (by simp [outdated]), equal]
  rfl

/-- Of all that a revision does, only an older version is warned of. -/
theorem warnings_next_of_different (sound : inspection.Sound)
    (different : inspection.agreement = .different) :
    warnings inspection.next.1 = inspection.downgradeEvents := by
  rw [next, if_neg (by simp [Sync.outdated_of_different different]), different]
  simp only [revise, withVersion, Manifest.setValue_of_value sound.version,
    Manifest.setValue_of_value sound.hash_revised, Event.warnings_append,
    warnings_downgradeEvents]
  exact (List.append_nil _).trans ((List.append_nil _).trans (List.append_nil _))

/-- Both versions that are compared can be read, so no comparison is left out. -/
theorem opens_opening (sound : inspection.Sound) (outdated : inspection.isUpToDate = false) :
    inspection.Opens inspection.opening := by
  obtain ⟨pinned, current, first, second⟩ := Version.parse_of_agreement sound.compared
  refine ⟨_, _, rfl, Event.under_ite _ _, pinned, current, first, second, ?_⟩
  cases agreement : inspection.agreement with
  | equal =>
      rw [warnings_next_of_equal outdated agreement]
      exact .spared (by simp)
  | different =>
      have below : current.compare pinned = .lt ↔ True ∧ current.Precedes pinned := by
        rw [Version.compare_eq_lt_iff, true_and]
      simp only [warnings_next_of_different sound agreement, downgradeEvents, first, second]
      exact (Event.under_ite _ _).congr below

/-- The shape of a hash is all that is warned of when it is accepted. -/
theorem warnings_accept (sound : inspection.Sound) (hash : String) :
    Under (.shapeChanged inspection.pin.hash hash)
      (Hash.shape hash ≠ Hash.shape inspection.pin.hash)
      (warnings (inspection.accept inspection.provisional hash).1) := by
  rw [accept, Manifest.setValue_of_value sound.hash_provisional]
  by_cases same : Hash.shape hash = Hash.shape inspection.pin.hash
  · simp only [shapeEvents, if_pos same]
    exact .spared (not_not_intro same)
  · simp only [shapeEvents, if_neg same]
    exact .held same

end Inspection

namespace Run

theorem steps_of_done {result : Except Failure Outcome} (sync : Sync) (count : Nat)
    (ended : run.stage = .done result) : steps sync count run = run := by
  induction count with
  | zero => rfl
  | succ count ih =>
      have stays : run.step sync = run := by simp only [step, ended]
      rw [steps, stays, ih]

namespace Stands

variable (sync count)

/-- The last stage of a run warns of a temporary file that it leaves. -/
theorem warnings_finishing
    (stands : run.Stands (.finishing inspection manifest hash) tree calls) :
    warnings (steps sync (count + 1) run).events = warnings run.events ++
      (tree.replaceText sync.tag manifest.path manifest.content).events := by
  obtain ⟨stage, rfl, rfl⟩ := stands
  obtain ⟨result, ended⟩ := exists_afterFinishing inspection hash
    (run.tree.replaceText sync.tag manifest.path manifest.content).result
  have last : run.step sync = run.finish sync inspection manifest hash := by
    simp only [step, stage]
  rw [steps, last, steps_of_done sync count ended]
  simp only [Run.finish, goOn, Event.warnings_append, Replacement.warnings_events]

/-- A run that writes back what it found tells whether it could. -/
theorem warnings_restoring (stands : run.Stands (.restoring inspection failure) tree calls) :
    warnings (steps sync (count + 1) run).events = warnings run.events ++
      ((tree.replaceText sync.tag sync.manifest inspection.manifest.content).events ++
        [restoreEvent sync.manifest
          (tree.replaceText sync.tag sync.manifest inspection.manifest.content).result]) := by
  obtain ⟨stage, rfl, rfl⟩ := stands
  have last : run.step sync = run.restore sync inspection failure := by
    simp only [step, stage]
  have ended : (run.restore sync inspection failure).stage = .done (.error failure) := rfl
  rw [steps, last, steps_of_done sync count ended]
  simp only [Run.restore, goOn, Event.warnings_append, Replacement.warnings_events]
  cases (run.tree.replaceText sync.tag sync.manifest inspection.manifest.content).result <;> rfl

/-- A build whose run goes on to write the final manifest. -/
theorem warnings_building_of_reports (sound : inspection.Sound)
    (stands : run.Stands (.building inspection inspection.provisional) tree calls)
    (reports : Reports inspection.placeholder (sync.tool.invoke sync.directory tree).result hash) :
    ∃ success shape, warnings (run.step sync).events = warnings run.events ++
        warnings (sync.tool.invoke sync.directory tree).events ++ success ++ shape ∧
      Under (.buildSucceeded sync.tool.program)
        (∃ output, (sync.tool.invoke sync.directory tree).result = .ok output ∧
          output.success = true) success ∧
      Under (.shapeChanged inspection.pin.hash hash)
        (Hash.shape hash ≠ Hash.shape inspection.pin.hash) shape := by
  obtain ⟨stage, rfl, rfl⟩ := stands
  obtain ⟨success, found, succeeds⟩ :=
    sync.tool.warnings_discover sync.directory run.tree
  refine ⟨success, _, ?_, succeeds, inspection.warnings_accept sound hash⟩
  have told := BuildTool.tell_of_reports reports
  rw [BuildTool.tell] at told
  simp only [step, stage, Run.build, told, goOn, Event.warnings_append, found, List.append_assoc]

/-- A build whose run goes on to write back what it found. -/
theorem warnings_building_of_fails
    (stands : run.Stands (.building inspection manifest) tree calls)
    (fails : sync.tool.Fails inspection.placeholder (sync.tool.invoke sync.directory tree).result
      failure) :
    ∃ success, warnings (run.step sync).events = warnings run.events ++
        warnings (sync.tool.invoke sync.directory tree).events ++ success ∧
      Under (.buildSucceeded sync.tool.program)
        (∃ output, (sync.tool.invoke sync.directory tree).result = .ok output ∧
          output.success = true) success := by
  obtain ⟨stage, rfl, rfl⟩ := stands
  obtain ⟨success, found, succeeds⟩ :=
    sync.tool.warnings_discover sync.directory run.tree
  refine ⟨success, ?_, succeeds⟩
  have told := BuildTool.tell_of_fails fails
  rw [BuildTool.tell] at told
  simp only [step, stage, Run.build, told, goOn, Event.warnings_append, found, List.append_assoc]

end Stands

end Run

namespace Sync

/-- An inspection that fails warns of nothing. -/
theorem warnings_inspect_of_error (refused : (sync.inspect tree).2 = .error failure) :
    warnings (sync.inspect tree).1 = [] := by
  unfold Sync.inspect at refused ⊢
  split
  · rfl
  next declared declares =>
  simp only [declares] at refused ⊢
  split
  · rfl
  next manifest pin pinned =>
  simp only [pinned] at refused ⊢
  split
  · rfl
  next agreement compared => simp [compared] at refused

theorem warnings_inspect (inspected : (sync.inspect tree).2 = .ok inspection) :
    warnings (sync.inspect tree).1 = placeholderEvents inspection.pin := by
  obtain ⟨⟨token, declares⟩, pinned, compared⟩ := inspect_eq_ok_iff.mp inspected
  simp only [Sync.inspect, declares, pinned, compared, declarationEvents]
  unfold placeholderEvents
  split <;> rfl

/-- The warnings of the first stage. -/
theorem warnings_step_start (inspected : (sync.inspect tree).2 = .ok inspection) :
    warnings (Run.steps sync 1 (Run.start tree)).events = inspection.opening := by
  have found := warnings_inspect inspected
  simp only [Run.steps, Run.step, Run.start, Run.inspect]
  rcases looked : sync.inspect tree with ⟨events, _ | _⟩
  · simp [looked] at inspected
  · rw [looked] at inspected found
    cases inspected
    simp only [Run.goOn, Event.warnings_append, List.nil_append, found]
    rfl

theorem run_eq_steps (count rest : Nat) (whole : count + rest = 4) (tree : Tree) :
    sync.run tree = Run.steps sync rest (Run.steps sync count (Run.start tree)) := by
  rw [run, ← whole, Run.steps_add]

/-- A run that is done after its first stage warns of nothing else. -/
theorem warnings_of_upToDate (inspected : (sync.inspect tree).2 = .ok inspection)
    (upToDate : inspection.isUpToDate = true) : warnings (sync.run tree).events = [] := by
  have ended := (steps_of_upToDate inspected upToDate 0).stage
  have settled : placeholderEvents inspection.pin = [] := by
    simp only [Inspection.isUpToDate, Inspection.hashPending, Bool.and_eq_true,
      Bool.not_eq_true'] at upToDate
    simp [placeholderEvents, upToDate.2]
  rw [run_eq_steps 1 3 rfl, Run.steps_of_done sync 3 ended, warnings_step_start inspected,
    Inspection.opening, settled, Inspection.warnings_next_of_upToDate upToDate, List.append_nil]

theorem warnings_of_error (refused : (sync.inspect tree).2 = .error failure) :
    warnings (sync.run tree).events = [] := by
  have first : Run.steps sync 1 (Run.start tree) =
      (Run.start tree).goOn tree (sync.inspect tree).1 (.done (.error failure)) := by
    simp only [Run.steps, Run.step, Run.start, Run.inspect]
    rcases looked : sync.inspect tree with ⟨events, _ | _⟩
    · rw [looked] at refused
      cases refused
      rfl
    · simp [looked] at refused
  rw [run_eq_steps 1 3 rfl, Run.steps_of_done sync 3 (by rw [first]; rfl), first]
  exact warnings_inspect_of_error refused

/-- A run that finds another version pinned writes the provisional manifest next. -/
theorem warnings_writing (inspected : (sync.inspect tree).2 = .ok inspection)
    (different : inspection.agreement = .different) :
    warnings (Run.steps sync 2 (Run.start tree)).events = inspection.opening ++
      (tree.replaceText sync.tag sync.manifest inspection.provisional.content).events := by
  have path := (Inspection.sound_of_inspect inspected).2.1
  obtain ⟨stage, files, -⟩ := stands_writing inspected different
  rw [Run.steps_succ sync 1, ← warnings_step_start inspected]
  simp only [Run.step, stage, files, Run.write, Run.goOn, Event.warnings_append,
    Replacement.warnings_events, Inspection.path_provisional, path]

theorem Builds.warnings_building (builds : sync.Builds tree inspection) :
    ∃ count ≤ 2, (Run.steps sync count (Run.start tree)).Stands
        (.building inspection inspection.provisional) (sync.built inspection tree) [] ∧
      warnings (Run.steps sync count (Run.start tree)).events = inspection.opening := by
  cases agreement : inspection.agreement with
  | different =>
      refine ⟨2, Nat.le_refl 2, builds.stands_building_of_different agreement, ?_⟩
      have kept := Tree.leftover_of_written (builds.saved agreement)
      rw [warnings_writing builds.inspected agreement, Replacement.events, Tree.replaceText, kept]
      exact List.append_nil _
  | equal =>
      exact ⟨1, by decide, builds.stands_building_of_equal agreement,
        warnings_step_start builds.inspected⟩

/-- The warnings of a whole run. A tool's own warnings stand where it runs, and a write that fails
tells of a temporary file that could not be removed. -/
inductive Warns (sync : Sync) (tree : Tree) : List Event → Prop where
  /-- The inspection fails. -/
  | refused (failure : Failure) (refused : (sync.inspect tree).2 = .error failure) :
      Warns sync tree []
  /-- Nothing has to be done. -/
  | upToDate (inspection : Inspection) (inspected : (sync.inspect tree).2 = .ok inspection)
      (upToDate : inspection.isUpToDate = true) :
      Warns sync tree []
  /-- The provisional manifest cannot be written, so nothing is built. -/
  | unsaved (inspection : Inspection) (refusal : FileFailure) (opening : List Event)
      (inspected : (sync.inspect tree).2 = .ok inspection)
      (different : inspection.agreement = .different)
      (refused : (tree.replaceText sync.tag sync.manifest inspection.provisional.content).result =
        .error refusal)
      (opens : inspection.Opens opening) :
      Warns sync tree (opening ++
        (tree.replaceText sync.tag sync.manifest inspection.provisional.content).events)
  /-- The build tells no hash that can be pinned, and the manifest that was found is written
  back. -/
  | restored (inspection : Inspection) (failure : Failure) (opening success : List Event)
      (builds : sync.Builds tree inspection)
      (fails : sync.tool.Fails inspection.placeholder (sync.build inspection tree).result failure)
      (opens : inspection.Opens opening)
      (succeeds : Under (.buildSucceeded sync.tool.program)
        (∃ output, (sync.build inspection tree).result = .ok output ∧ output.success = true)
        success)
      (restored : ((sync.build inspection tree).tree.replaceText sync.tag sync.manifest
        inspection.manifest.content).result = .ok ()) :
      Warns sync tree (opening ++ warnings (sync.build inspection tree).events ++ success ++
        [.restored sync.manifest])
  /-- The build tells no hash that can be pinned, and the manifest cannot be written back. -/
  | unrestored (inspection : Inspection) (failure : Failure) (refusal : FileFailure)
      (opening success : List Event) (builds : sync.Builds tree inspection)
      (fails : sync.tool.Fails inspection.placeholder (sync.build inspection tree).result failure)
      (opens : inspection.Opens opening)
      (succeeds : Under (.buildSucceeded sync.tool.program)
        (∃ output, (sync.build inspection tree).result = .ok output ∧ output.success = true)
        success)
      (refused : ((sync.build inspection tree).tree.replaceText sync.tag sync.manifest
        inspection.manifest.content).result = .error refusal) :
      Warns sync tree (opening ++ warnings (sync.build inspection tree).events ++ success ++
        ((sync.build inspection tree).tree.replaceText sync.tag sync.manifest
          inspection.manifest.content).events ++ [.restoreFailed sync.manifest (.file refusal)])
  /-- The build reports a hash, and the final manifest is to be written. -/
  | reported (inspection : Inspection) (hash : String) (opening success shape : List Event)
      (builds : sync.Builds tree inspection)
      (reports : Reports inspection.placeholder (sync.build inspection tree).result hash)
      (opens : inspection.Opens opening)
      (succeeds : Under (.buildSucceeded sync.tool.program)
        (∃ output, (sync.build inspection tree).result = .ok output ∧ output.success = true)
        success)
      (shapes : Under (.shapeChanged inspection.pin.hash hash)
        (Hash.shape hash ≠ Hash.shape inspection.pin.hash) shape) :
      Warns sync tree (opening ++ warnings (sync.build inspection tree).events ++ success ++
        shape ++ ((sync.build inspection tree).tree.replaceText sync.tag sync.manifest
          (inspection.final hash).content).events)

/-- A run that comes to its build warns of what the build and the write after it come to. -/
theorem Builds.warns (builds : sync.Builds tree inspection) :
    sync.Warns tree (warnings (sync.run tree).events) := by
  have opens := inspection.opens_opening builds.sound builds.outdated
  obtain ⟨count, few, stands, opening⟩ := builds.warnings_building
  obtain ⟨rest, whole⟩ := Nat.exists_eq_add_of_le few
  have run : sync.run tree = Run.steps sync (rest + 1)
      ((Run.steps sync count (Run.start tree)).step sync) :=
    run_eq_steps count (rest + 2) (by omega) tree
  rcases BuildTool.reports_or_fails sync.tool inspection.placeholder
    (sync.build inspection tree).result with ⟨hash, reports⟩ | ⟨failure, fails⟩
  · obtain ⟨success, shape, built, succeeds, shapes⟩ :=
      stands.warnings_building_of_reports sync builds.sound reports
    have next := stands.build sync builds.sound
    rw [BuildTool.tell_of_reports reports] at next
    rw [run, next.warnings_finishing sync rest, built, opening, Inspection.path_final, builds.path]
    exact .reported inspection hash _ success shape builds reports opens succeeds shapes
  · obtain ⟨success, built, succeeds⟩ := stands.warnings_building_of_fails sync fails
    have next := stands.build sync builds.sound
    rw [BuildTool.tell_of_fails fails] at next
    rw [run, next.warnings_restoring sync rest, built, opening]
    cases written : ((sync.build inspection tree).tree.replaceText sync.tag sync.manifest
        inspection.manifest.content).result with
    | ok =>
        have kept : ((sync.build inspection tree).tree.replaceText sync.tag sync.manifest
            inspection.manifest.content).events = [] := by
          rw [Replacement.events, Tree.replaceText, Tree.leftover_of_written written]
          rfl
        have ended := Warns.restored inspection failure _ success builds fails opens succeeds
          written
        rw [build] at ended written kept
        rw [written, kept]
        exact ended
    | error refusal =>
        have ended := Warns.unrestored inspection failure refusal _ success builds fails opens
          succeeds written
        rw [build] at ended written
        rw [written, ← List.append_assoc]
        exact ended

theorem warns (sync : Sync) (tree : Tree) : sync.Warns tree (warnings (sync.run tree).events) := by
  cases inspected : (sync.inspect tree).2 with
  | error failure =>
      rw [warnings_of_error inspected]
      exact .refused failure inspected
  | ok inspection =>
      cases upToDate : inspection.isUpToDate with
      | true =>
          rw [warnings_of_upToDate inspected upToDate]
          exact .upToDate inspection inspected upToDate
      | false =>
          rcases builds_or_refused inspected upToDate with builds | ⟨different, refusal, refused⟩
          · exact builds.warns
          · have sound := (Inspection.sound_of_inspect inspected).1
            have ended := stands_writing inspected different
            have stopped := (ended.write sync).stage
            rw [Inspection.path_provisional, (Inspection.sound_of_inspect inspected).2.1, refused,
              ← Run.steps_succ] at stopped
            rw [run_eq_steps 2 2 rfl, Run.steps_of_done sync 2 stopped,
              warnings_writing inspected different]
            exact .unsaved inspection refusal _ inspected different refused
              (inspection.opens_opening sound upToDate)

/-- Only the opening of a run, and its tool, may warn of an older version. -/
theorem Warns.exists_opening {events : List Event} (warns : sync.Warns tree events)
    (inspected : (sync.inspect tree).2 = .ok inspection)
    (outdated : inspection.isUpToDate = false) :
    ∃ opening rest, events = opening ++ rest ∧ inspection.Opens opening ∧
      ∀ older newer, .downgrade older newer ∈ rest →
        .downgrade older newer ∈ (sync.build inspection tree).events := by
  have leaves (replacement : Replacement) {older newer : String} :
      .downgrade older newer ∉ replacement.events := by
    simp [Replacement.events]
  have own {older newer : String}
      (member : .downgrade older newer ∈ warnings (sync.build inspection tree).events) :
      .downgrade older newer ∈ (sync.build inspection tree).events :=
    List.mem_of_mem_filter member
  cases warns with
  | refused failure refused =>
      rw [inspected] at refused
      cases refused
  | upToDate _ found upToDate =>
      obtain rfl := Except.ok.inj (inspected.symm.trans found)
      rw [outdated] at upToDate
      cases upToDate
  | unsaved _ refusal opening found different refused opens =>
      obtain rfl := Except.ok.inj (inspected.symm.trans found)
      exact ⟨opening, _, rfl, opens, fun _ _ member => absurd member (leaves _)⟩
  | restored _ failure opening success builds fails opens succeeds =>
      obtain rfl := Except.ok.inj (inspected.symm.trans builds.inspected)
      refine ⟨opening, _, List.append_assoc .. |>.trans (List.append_assoc ..), opens, ?_⟩
      intro older newer member
      simp only [List.mem_append, succeeds.mem_iff, List.mem_singleton, reduceCtorEq, and_false,
        or_false] at member
      exact own member
  | unrestored _ failure refusal opening success builds fails opens succeeds =>
      obtain rfl := Except.ok.inj (inspected.symm.trans builds.inspected)
      refine ⟨opening, _, by simp only [List.append_assoc]; rfl, opens, ?_⟩
      intro older newer member
      simp only [List.mem_append, succeeds.mem_iff, List.mem_singleton, reduceCtorEq, and_false,
        or_false, leaves] at member
      exact own member
  | reported _ hash opening success shape builds reports opens succeeds shapes =>
      obtain rfl := Except.ok.inj (inspected.symm.trans builds.inspected)
      refine ⟨opening, _, by simp only [List.append_assoc]; rfl, opens, ?_⟩
      intro older newer member
      simp only [List.mem_append, succeeds.mem_iff, shapes.mem_iff, reduceCtorEq, and_false,
        or_false, leaves] at member
      exact own member

/-- Every run warns of exactly what it comes across. So a run that is to write an older version than
the pinned one warns of that, and one that is to write a newer version does not, unless its tool
does. A configured build command gives no warnings of its own. -/
theorem warns_exactly (sync : Sync) (tree : Tree) :
    sync.Warns tree (warnings (sync.run tree).events) ∧
      (∀ inspection pinned current, (sync.inspect tree).2 = .ok inspection →
        inspection.agreement = .different → Version.parse inspection.pin.version = .ok pinned →
        Version.parse inspection.current = .ok current →
          (current.Precedes pinned →
            .downgrade pinned.text current.text ∈ warnings (sync.run tree).events) ∧
          (pinned.Precedes current → ∀ older newer,
            .downgrade older newer ∈ warnings (sync.run tree).events →
              .downgrade older newer ∈ (sync.build inspection tree).events)) ∧
      ∀ (command : BuildCommand) (launcher : Launcher) (directory : String) (files : Tree),
        warnings ((command.tool launcher).invoke directory files).events = [] := by
  refine ⟨sync.warns tree, ?_, BuildCommand.warnings_tool⟩
  intro inspection pinned current inspected different first second
  obtain ⟨opening, rest, whole, opens, others⟩ :=
    (sync.warns tree).exists_opening inspected (outdated_of_different different)
  rw [whole]
  constructor
  · intro older
    exact List.mem_append_left _
      ((opens.downgrade_mem_iff first second).mpr ⟨⟨different, older⟩, rfl, rfl⟩)
  · intro newer before after member
    rcases List.mem_append.mp member with warned | member
    · have older := ((opens.downgrade_mem_iff first second).mp warned).1.2
      rw [← Version.compare_eq_gt_iff] at newer
      rw [← Version.compare_eq_lt_iff, newer] at older
      cases older
    · exact others before after member

namespace Sample

/-- Files whose manifest pins a newer version than the declared one. -/
def ahead : Tree where
  entries :=
    [(["p"], .file "V = 1\n".toUTF8 fileMode),
      (["m"], .file "version = \"2\"\nsha256 = \"abc\"\n".toUTF8 fileMode)]
  here := []

/-- A run on these files whose build succeeds. -/
def succeeding : Sync where
  parameters := "p"
  manifest := "m"
  versionKey := "V"
  directory := "."
  tool :=
    { program := "build"
      invoke _ tree :=
        { tree
          events := []
          result := .ok { success := true, diagnostics := "got: sha256-x\n" } } }
  tag := "7"

/-- What the run finds. -/
def overtaken : Inspection where
  current := "1"
  manifest := { path := "m", content := "version = \"2\"\nsha256 = \"abc\"\n" }
  pin := { version := "2", hash := "abc" }
  agreement := .different

end Sample

/-- A run that is to write an older version warns of it, whatever its build comes to. -/
theorem warns_exactly_ahead :
    (Sample.succeeding.inspect Sample.ahead).2 = .ok Sample.overtaken ∧
      Event.downgrade "2" "1" ∈ warnings (Sample.succeeding.run Sample.ahead).events := by
  have pinned : Version.parse "2" = .ok ⟨[2], [], "2"⟩ := rfl
  have current : Version.parse "1" = .ok ⟨[1], [], "1"⟩ := rfl
  have older : Version.Precedes ⟨[1], [], "1"⟩ ⟨[2], [], "2"⟩ :=
    .inl ((Version.below_iff _ _).mpr (.inl Nat.one_lt_two))
  have apart : ((⟨[2], [], "2"⟩ : Version) == ⟨[1], [], "1"⟩) = false := by
    change (Version.compare _ _ == .eq) = false
    rw [Version.compare_eq_gt_iff.mpr older]
    rfl
  have compared : Version.agreement "2" "1" = .ok .different := by
    rw [Version.agreement_of_parse pinned current, apart]
    rfl
  have inspected : (Sample.succeeding.inspect Sample.ahead).2 = .ok Sample.overtaken :=
    inspect_eq_ok_iff.mpr ⟨⟨"1", eq_ok_of_toOption (by decide +kernel)⟩,
      eq_ok_of_toOption (by decide +kernel), compared⟩
  exact ⟨inspected, ((warns_exactly Sample.succeeding Sample.ahead).2.1 Sample.overtaken _ _
    inspected rfl pinned current).1 older⟩

end Sync

end ManifestPin
