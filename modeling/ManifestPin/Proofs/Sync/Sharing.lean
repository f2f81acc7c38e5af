import ManifestPin.Proofs.Sync.Advance
import ManifestPin.Proofs.Sync.Rollback
import ManifestPin.Sync.Sharing

/-! # Runs that share files

Runs on the same two files, one stage at a time in any order. Whoever's turn it is, one edition of
the manifest is on file before it and after it. An invariant of editions and stages is kept along a
schedule if each advance keeps it.
-/

namespace ManifestPin

open BuildTool (Reports)

namespace Sharing

variable {sharing : Sharing} {index other : Nat} {member : Member}

theorem turns_append (sharing : Sharing) (first second : List Nat) :
    sharing.turns (first ++ second) = (sharing.turns first).turns second :=
  List.foldl_append

theorem turn_of_absent (absent : sharing.members[index]? = none) : sharing.turn index = sharing := by
  simp only [turn, absent]

theorem turn_of_member (found : sharing.members[index]? = some member) :
    sharing.turn index =
      { tree := (member.turn sharing.tree).run.tree
        members := sharing.members.set index (member.turn sharing.tree) } := by
  simp only [turn, found]

/-- What every turn keeps is kept by a schedule. -/
theorem turns_induction (Kept : Sharing → Prop) (begins : Kept sharing)
    (turn : ∀ sharing index, Kept sharing → Kept (sharing.turn index)) (schedule : List Nat) :
    Kept (sharing.turns schedule) := by
  induction schedule generalizing sharing with
  | nil => exact begins
  | cons index schedule ih => exact ih (turn sharing index begins)

/-- A run that shares its files with no other goes through its stages. -/
theorem turns_alone (sync : Sync) (tree : Tree) (count : Nat) :
    (start tree [sync]).turns (List.replicate count 0) =
      { tree := (Run.steps sync count (Run.start tree)).tree
        members := [⟨sync, Run.steps sync count (Run.start tree)⟩] } := by
  induction count with
  | zero => rfl
  | succ count ih =>
      rw [List.replicate_succ', turns_append, ih, Run.steps_succ]
      rfl

/-- What held of some member's stage before a turn, and held of the stage after the turn if it held
before, holds of some member's stage after it. -/
theorem exists_mem_set (Holds : Stage → Prop) {members : List Member} {after : Member}
    (found : members[index]? = some member)
    (kept : Holds member.run.stage → Holds after.run.stage)
    (held : ∃ member ∈ members, Holds member.run.stage) :
    ∃ member ∈ members.set index after, Holds member.run.stage := by
  obtain ⟨holder, listed, held⟩ := held
  obtain ⟨place, at_place⟩ := List.mem_iff_getElem?.mp listed
  obtain ⟨inside, -⟩ := List.getElem?_eq_some_iff.mp found
  by_cases same : index = place
  · obtain rfl : member = holder := by simpa [← same, found] using at_place
    exact ⟨after, List.mem_set inside after, kept held⟩
  · refine ⟨holder, List.mem_iff_getElem?.mpr ⟨place, ?_⟩, held⟩
    rw [List.getElem?_set_ne same, at_place]

theorem forall_mem_set {Holds : Member → Prop} {members : List Member} {after : Member}
    (held : ∀ member ∈ members, Holds member) (last : Holds after) :
    ∀ member ∈ members.set index after, Holds member := by
  intro member listed
  rcases List.mem_or_eq_of_mem_set listed with listed | rfl
  · exact held member listed
  · exact last

end Sharing

namespace Sharing

section

variable (base : Sync) (tags : String → Prop) (declaration : String) (found : Inspection)
  (hash : String) (Told : String → Prop)

/-- Runs that work on an update, with one of its editions on file. -/
structure Works (sharing : Sharing) (edition : Edition) : Prop where
  held : base.Keeps tags declaration (edition.manifest found hash).content sharing.tree
  pinnable : edition = .final → Pinnable hash
  joins : ∀ member ∈ sharing.members, member.sync.Joins base tags declaration
  tells : ∀ member ∈ sharing.members,
    member.sync.Tells base tags declaration found.placeholder Told
  serves : ∀ member ∈ sharing.members, member.run.stage.Serves found Told

/-- Some run wrote another hash. -/
def Strayed (sharing : Sharing) : Prop :=
  ∃ member ∈ sharing.members, member.run.stage.Strays hash Told

/-- Runs that work on an update and keep some invariant, or of which one wrote another hash. -/
def Progress (Kept : Edition → List Member → Prop) (sharing : Sharing) : Prop :=
  (∃ edition, sharing.Works base tags declaration found hash Told edition ∧
    Kept edition sharing.members) ∨
  sharing.Strayed hash Told

end

variable {base : Sync} {tags : String → Prop} {declaration hash : String} {found : Inspection}
  {Told : String → Prop} {sharing : Sharing} {edition : Edition} {index : Nat} {member : Member}
  {result : Except Failure Outcome}

theorem stage_turn_of_done (done : member.run.stage = .done result) (tree : Tree) :
    (member.turn tree).run.stage = .done result := by
  simp only [Member.turn, Run.step, done]

/-- A run that is done stays done. -/
theorem Strayed.turn (strayed : sharing.Strayed hash Told) (index : Nat) :
    (sharing.turn index).Strayed hash Told := by
  cases found : sharing.members[index]? with
  | none => rwa [turn_of_absent found]
  | some member =>
      rw [turn_of_member found]
      refine exists_mem_set (·.Strays hash Told) found ?_ strayed
      rintro ⟨pinned, current, told, done, said, other⟩
      exact ⟨pinned, current, told, stage_turn_of_done done _, said, other⟩

namespace Works

variable (works : sharing.Works base tags declaration found hash Told edition)

include works

theorem readText :
    sharing.tree.readText base.manifest = .ok found.manifest.content ∨
      sharing.tree.readText base.manifest = .ok found.provisional.content ∨
      sharing.tree.readText base.manifest = .ok (found.final hash).content := by
  have content := works.held.readText_manifest
  cases edition with
  | found => exact .inl content
  | provisional => exact .inr (.inl content)
  | final => exact .inr (.inr content)

variable (outstanding : Outstanding base declaration found)
  (plain : ∀ tag, tags tag → '/' ∉ tag.toList) (unquoted : '"' ∉ hash.toList)

include outstanding plain unquoted

/-- A turn of a member advances the edition on file and the stage of this member alone. -/
theorem turn (at_index : sharing.members[index]? = some member) :
    (∃ after, Advances found hash Told edition member.run.stage after
        (member.turn sharing.tree).run.stage ∧
      (sharing.turn index).Works base tags declaration found hash Told after) ∨
    (sharing.turn index).Strayed hash Told := by
  have listed : member ∈ sharing.members := List.mem_of_getElem? at_index
  obtain ⟨inside, -⟩ := List.getElem?_eq_some_iff.mp at_index
  have joins := works.joins member listed
  have quiet := joins.quiet sharing.tree _ works.held
  have tells := fun told => works.tells member listed sharing.tree _ told works.held
  have stands : ({ member.run with tree := sharing.tree } : Run).Stands member.run.stage
      sharing.tree member.run.calls := ⟨rfl, rfl, rfl⟩
  have proceeds : Proceeds base tags declaration found hash Told edition member.run.stage
      (member.turn sharing.tree).run := by
    have path := outstanding.path
    have alike := joins.toAlike
    have serves := works.serves member listed
    generalize member.run.stage = stage at stands serves ⊢
    cases serves with
    | inspecting => exact .inspects alike works.held outstanding unquoted works.pinnable stands
    | writing => exact .writes alike works.held plain outstanding.stale path stands
    | building stale => exact .builds quiet tells stale stands
    | restoring stale => exact .restores alike works.held plain stale stands
    | finishing stale pinnable said =>
        exact .finishes alike works.held plain stale path pinnable said stands
    | done => exact .of_stands (stands.done member.sync) .stays works.held
  rw [turn_of_member at_index]
  rcases proceeds with ⟨after, advances, held⟩ | strays
  · exact .inl ⟨after, advances, held, advances.pinnable works.pinnable,
      forall_mem_set works.joins joins, forall_mem_set works.tells (works.tells member listed),
      forall_mem_set works.serves advances.serves⟩
  · exact .inr ⟨member.turn sharing.tree, List.mem_set inside _, strays⟩

/-- What every advance keeps is kept by a schedule, unless a run writes another hash. -/
theorem turns (Kept : Edition → List Member → Prop)
    (kept : ∀ {before after : Edition} {members : List Member} {index : Nat}
      {member next : Member}, Kept before members → members[index]? = some member →
      Advances found hash Told before member.run.stage after next.run.stage →
      Kept after (members.set index next))
    (begins : Kept edition sharing.members) (schedule : List Nat) :
    (sharing.turns schedule).Progress base tags declaration found hash Told Kept := by
  refine turns_induction (·.Progress base tags declaration found hash Told Kept)
    (.inl ⟨edition, works, begins⟩) (fun sharing index held => ?_) schedule
  rcases held with ⟨before, works, held⟩ | strayed
  · cases at_index : sharing.members[index]? with
    | none =>
        rw [turn_of_absent at_index]
        exact .inl ⟨before, works, held⟩
    | some member =>
        rcases works.turn outstanding plain unquoted at_index with ⟨after, advances, works⟩ | strayed
        · refine .inl ⟨after, works, ?_⟩
          rw [turn_of_member at_index]
          exact kept held at_index advances
        · exact .inr strayed
  · exact .inr (strayed.turn index)

end Works

/-- While the manifest is as it was found some run has not succeeded, and while the provisional
edition is on file some run has read the files and has not. -/
def Unfinished (edition : Edition) (members : List Member) : Prop :=
  match edition with
  | .found => ∃ member ∈ members, member.run.stage.succeeded = false
  | .provisional => ∃ member ∈ members, member.run.stage.unsettled = true
  | .final => True

namespace Unfinished

variable {members : List Member} {before after : Edition} {next : Member}

theorem exists_of_ne_final (unfinished : Unfinished edition members) (short : edition ≠ .final) :
    ∃ member ∈ members, member.run.stage.succeeded = false := by
  cases edition with
  | found => exact unfinished
  | final => exact absurd rfl short
  | provisional =>
      obtain ⟨member, listed, unsettled⟩ := unfinished
      refine ⟨member, listed, ?_⟩
      generalize member.run.stage = stage at unsettled ⊢
      cases stage with
      | done result =>
          cases result with
          | ok => cases unsettled
          | error => rfl
      | _ => rfl

theorem final_of_succeeded (unfinished : Unfinished edition members)
    (succeeded : ∀ member ∈ members, ∃ outcome, member.run.stage = .done (.ok outcome)) :
    edition = .final := by
  by_contra short
  obtain ⟨member, listed, unsuccessful⟩ := unfinished.exists_of_ne_final short
  obtain ⟨outcome, done⟩ := succeeded member listed
  rw [done] at unsuccessful
  cases unsuccessful

theorem advance (unfinished : Unfinished before members)
    (at_index : members[index]? = some member)
    (advances : Advances found hash Told before member.run.stage after next.run.stage) :
    Unfinished after (members.set index next) := by
  obtain ⟨inside, -⟩ := List.getElem?_eq_some_iff.mp at_index
  have listed : next ∈ members.set index next := List.mem_set inside next
  rcases advances.unsettled with rfl | unsettled | ⟨rfl, ⟨rfl, inspecting⟩ | same⟩
  · trivial
  · cases after with
    | final => trivial
    | provisional => exact ⟨next, listed, unsettled⟩
    | found =>
        have unfinished : Unfinished .provisional (members.set index next) :=
          ⟨next, listed, unsettled⟩
        exact unfinished.exists_of_ne_final (by decide)
  · refine exists_mem_set (·.unsettled = true) at_index (fun unsettled => ?_) unfinished
    rw [inspecting] at unsettled
    cases unsettled
  · cases after with
    | final => trivial
    | found =>
        exact exists_mem_set (·.succeeded = false) at_index (fun held => same ▸ held) unfinished
    | provisional =>
        exact exists_mem_set (·.unsettled = true) at_index (fun held => same ▸ held) unfinished

end Unfinished

variable {syncs : List Sync} {tree : Tree}

theorem works_start (joins : ∀ sync ∈ syncs, sync.Joins base tags declaration)
    (tells : ∀ sync ∈ syncs, sync.Tells base tags declaration found.placeholder Told)
    (held : base.Keeps tags declaration found.manifest.content tree) :
    (start tree syncs).Works base tags declaration found hash Told .found := by
  refine ⟨held, (fun final => by cases final), ?_, ?_, ?_⟩
  all_goals
    intro member listed
    obtain ⟨sync, included, rfl⟩ := List.mem_map.mp listed
  · exact joins sync included
  · exact tells sync included
  · exact .inspecting

theorem unfinished_start (some : syncs ≠ []) : Unfinished .found (start tree syncs).members := by
  obtain ⟨sync, others, rfl⟩ := List.exists_cons_of_ne_nil some
  exact ⟨_, List.mem_cons_self, rfl⟩

/-- Runs on the same two files may take turns in any order: as long as each build fails or tells the
same hash, nothing but what was found, the provisional content and the final content is ever on
file, and the final content once all runs have succeeded. -/
theorem readText_turns (inspected : (base.inspect tree).2 = .ok found)
    (outdated : found.isUpToDate = false) (plain : ∀ tag, tags tag → '/' ∉ tag.toList)
    (held : base.Keeps tags declaration found.manifest.content tree)
    (joins : ∀ sync ∈ syncs, sync.Joins base tags declaration)
    (tells : ∀ sync ∈ syncs, sync.Tells base tags declaration found.placeholder (· = hash))
    (unquoted : '"' ∉ hash.toList) (schedule : List Nat) :
    (((start tree syncs).turns schedule).tree.readText base.manifest =
        .ok found.manifest.content ∨
      ((start tree syncs).turns schedule).tree.readText base.manifest =
        .ok found.provisional.content ∨
      ((start tree syncs).turns schedule).tree.readText base.manifest =
        .ok (found.final hash).content) ∧
    (syncs ≠ [] →
      (∀ member ∈ ((start tree syncs).turns schedule).members,
        ∃ outcome, member.run.stage = .done (.ok outcome)) →
      ((start tree syncs).turns schedule).tree.readText base.manifest =
        .ok (found.final hash).content) := by
  have outstanding := Outstanding.of_inspect inspected outdated held.readText_parameters
  have works : (start tree syncs).Works base tags declaration found hash (· = hash) .found :=
    works_start joins tells held
  have agreed {sharing : Sharing} : ¬sharing.Strayed hash (· = hash) := by
    rintro ⟨member, -, pinned, current, told, -, said, other⟩
    exact other said
  constructor
  · rcases works.turns outstanding plain unquoted (fun _ _ => True) (fun _ _ _ => trivial)
      trivial schedule with ⟨edition, works, -⟩ | strayed
    · exact works.readText
    · exact absurd strayed agreed
  · intro some succeeded
    rcases works.turns outstanding plain unquoted Unfinished Unfinished.advance
      (unfinished_start some) schedule with ⟨edition, works, unfinished⟩ | strayed
    · obtain rfl := unfinished.final_of_succeeded succeeded
      exact works.held.readText_manifest
    · exact absurd strayed agreed

end Sharing

/-- A stage with a result is done. -/
theorem Stage.eq_done_of_result? {stage : Stage} {result : Except Failure Outcome}
    (ended : stage.result? = some result) : stage = .done result := by
  cases stage with
  | done => exact congrArg _ (Option.some.inj ended)
  | inspecting | writing | building | restoring | finishing => cases ended

theorem Sharing.stage?_eq_done {sharing : Sharing} {index : Nat} {result : Except Failure Outcome}
    (ended : (sharing.stage? index).bind Stage.result? = some result) :
    sharing.stage? index = some (.done result) := by
  obtain ⟨stage, found, ended⟩ := Option.bind_eq_some_iff.mp ended
  rw [found, Stage.eq_done_of_result? ended]

namespace Sample

/-- A run on the files of the sample whose build leaves them alone. -/
def tagged (tag diagnostics : String) : Sync :=
  { sync id diagnostics with tag }

theorem inspect_tagged (tag diagnostics : String) :
    ((tagged tag diagnostics).inspect tree).2 = .ok inspection := by
  have same : (tagged tag diagnostics).inspect tree = (sync id diagnostics).inspect tree :=
    Sync.inspect_congr rfl rfl rfl tree
  rw [same]
  exact (builds id diagnostics).inspected

theorem joins_tagged {tags : String → Prop} {tag : String} (diagnostics : String)
    (listed : tags tag) : (tagged tag diagnostics).Joins (tagged "7" "") tags "V = 2\n" :=
  ⟨⟨rfl, rfl, rfl, listed⟩, fun _ _ held => held⟩

theorem tells_tagged {tags : String → Prop} {diagnostics hash : String}
    (reported : Report.hash? diagnostics = some hash) (tag placeholder : String) :
    (tagged tag diagnostics).Tells (tagged "7" "") tags "V = 2\n" placeholder (· = hash) := by
  intro files content told _ reports
  obtain ⟨⟨output, ran, found⟩, -, -⟩ := reports
  cases ran
  exact Option.some.inj (found.symm.trans reported)

/-- Two runs that are told the same hash. -/
def twins : List Sync :=
  [tagged "7" "got: def\n", tagged "8" "got: def\n"]

/-- Both runs end with an update. -/
theorem done_twins (member : Member)
    (listed : member ∈ ((Sharing.start tree twins).turns [0, 1, 0, 1, 0, 0, 1, 1]).members) :
    member.run.stage = .done (.ok (.updated "1" "2" "def")) := by
  have ends : (((Sharing.start tree twins).turns [0, 1, 0, 1, 0, 0, 1, 1]).members.all fun member =>
      member.run.stage.result? = some (.ok (.updated "1" "2" "def"))) = true := by decide +kernel
  exact Stage.eq_done_of_result? (of_decide_eq_true (List.all_eq_true.mp ends member listed))

theorem plain_tags (tag : String) (listed : tag ∈ ["7", "8"]) : '/' ∉ tag.toList := by
  simp only [List.mem_cons, List.not_mem_nil, or_false] at listed
  rcases listed with rfl | rfl
  · decide
  · decide

theorem joins_twins (member : Sync) (listed : member ∈ twins) :
    member.Joins (tagged "7" "") (· ∈ ["7", "8"]) "V = 2\n" := by
  simp only [twins, List.mem_cons, List.not_mem_nil, or_false] at listed
  rcases listed with rfl | rfl
  · exact joins_tagged _ (by decide)
  · exact joins_tagged _ (by decide)

theorem tells_twins (member : Sync) (listed : member ∈ twins) :
    member.Tells (tagged "7" "") (· ∈ ["7", "8"]) "V = 2\n" inspection.placeholder
      (· = "def") := by
  simp only [twins, List.mem_cons, List.not_mem_nil, or_false] at listed
  rcases listed with rfl | rfl
  · exact tells_tagged told_def _ _
  · exact tells_tagged told_def _ _

end Sample

/-- Two runs that both find the manifest out of date and are told the same hash. -/
theorem Sharing.readText_turns_twins :
    ((start Sample.tree Sample.twins).turns [0, 1, 0, 1, 0, 0, 1, 1]).tree.readText "a/m" =
      .ok "version = \"2\"\nsha256 = \"def\"\n" := by
  have final : (Sample.inspection.final "def").content =
      "version = \"2\"\nsha256 = \"def\"\n" := by decide +kernel
  have turns := readText_turns (Sample.inspect_tagged "7" "") (by decide) Sample.plain_tags
    (Sample.serves _ Sample.plain_tags) Sample.joins_twins Sample.tells_twins (by decide)
    [0, 1, 0, 1, 0, 0, 1, 1]
  rw [← final]
  exact turns.2 (by decide) fun member listed => ⟨_, Sample.done_twins member listed⟩

/-- A tool that fails may leave another text on file, and a tool that lays a link at the temporary
name keeps the final manifest from being read, though it tells the hash. -/
theorem Sharing.readText_turns_overwritten :
    ((Sample.tagged "7" "").inspect Sample.tree).2 = .ok Sample.inspection ∧
    Sample.inspection.isUpToDate = false ∧
    (∀ files, ∃ failure, (Sample.sync Sample.spoil "error\n").tool.Fails
      Sample.inspection.placeholder
      ((Sample.sync Sample.spoil "error\n").tool.invoke "." files).result failure) ∧
    (∀ files, Reports Sample.inspection.placeholder
      ((Sample.sync Sample.lay "got: def\n").tool.invoke "." files).result "def") ∧
    (∀ content ∈ [Sample.inspection.manifest.content, Sample.inspection.provisional.content,
        (Sample.inspection.final "def").content],
      ((start Sample.tree [Sample.sync Sample.spoil "error\n",
        Sample.tagged "8" "got: def\n"]).turns [0, 0, 0]).tree.readText "a/m" ≠ .ok content) ∧
    (∀ member ∈ ((start Sample.tree [Sample.sync Sample.lay "got: def\n"]).turns
        [0, 0, 0, 0]).members, member.run.stage = .done (.ok (.updated "1" "2" "def"))) ∧
    ((start Sample.tree [Sample.sync Sample.lay "got: def\n"]).turns [0, 0, 0, 0]).tree.readText
      "a/m" ≠ .ok (Sample.inspection.final "def").content := by
  refine ⟨Sample.inspect_tagged "7" "", by decide,
    fun files => ⟨_, Sample.fails Sample.spoil "." files⟩, fun _ => Sample.reports_def,
    fun content listed => ne_ok_of_toOption ?_, fun member listed => ?_,
    ne_ok_of_toOption (by decide +kernel)⟩
  · revert content
    decide +kernel
  · have ends : (((start Sample.tree [Sample.sync Sample.lay "got: def\n"]).turns
        [0, 0, 0, 0]).members.all fun member =>
        member.run.stage.result? = some (.ok (.updated "1" "2" "def"))) = true := by decide +kernel
    exact Stage.eq_done_of_result? (of_decide_eq_true (List.all_eq_true.mp ends member listed))

end ManifestPin
