import ManifestPin.Sync.Run

/-! # Shared files

Several runs on the same files take turns in any order. At each turn one of them goes through one
stage, with the files as the turns before left them. -/

namespace ManifestPin

/-- A run among others, and what it keeps in step. -/
structure Member where
  sync : Sync
  run : Run

/-- Files that several runs share. -/
structure Sharing where
  /-- The files as the last turn left them. -/
  tree : Tree
  /-- The runs. -/
  members : List Member

/-- The member after its next stage, on the files as they are now. -/
def Member.turn (member : Member) (tree : Tree) : Member :=
  { member with run := { member.run with tree }.step member.sync }

namespace Sharing

/-- Runs before their first stages. -/
def start (tree : Tree) (syncs : List Sync) : Sharing :=
  { tree, members := syncs.map fun sync => ⟨sync, Run.start tree⟩ }

/-- A turn of the run at an index, or of none. -/
def turn (sharing : Sharing) (index : Nat) : Sharing :=
  match sharing.members[index]? with
  | none => sharing
  | some member =>
    let member := member.turn sharing.tree
    { tree := member.run.tree, members := sharing.members.set index member }

/-- Turns one after the other. -/
def turns (sharing : Sharing) (schedule : List Nat) : Sharing :=
  schedule.foldl turn sharing

/-- What the run at an index does next. -/
def stage? (sharing : Sharing) (index : Nat) : Option Stage :=
  sharing.members[index]?.map (·.run.stage)

end Sharing

end ManifestPin
