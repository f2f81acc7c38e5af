import ManifestPin.Build
import ManifestPin.Text.Lossy

/-! # Build commands

A build command names a program with its arguments. How the system runs programs is not known here:
a launcher stands for it. Nothing is kept of a process but its error stream and whether it
succeeded. -/

namespace ManifestPin

/-- What a process left that ran to its end. -/
structure Completion where
  /-- Whether it succeeded. -/
  success : Bool
  /-- What it wrote to its error stream. -/
  diagnostics : ByteArray

/-- What launching a program came to. -/
structure Launched where
  /-- The tree that the process left. -/
  tree : Tree
  /-- How the process ended, unless the system could not run it. -/
  result : Except LaunchFault Completion

/-- Runs a command in a directory of a tree, as the operating system does. -/
abbrev Launcher :=
  BuildCommand → (directory : String) → Tree → Launched

namespace BuildCommand

/-- Launches a command in a directory. Texts with a NUL character never reach the operating
system. -/
def launch (command : BuildCommand) (launcher : Launcher) (directory : String) (tree : Tree) :
    Launched :=
  if (command.program :: directory :: command.arguments).any fun text =>
      text.toList.contains '\x00' then
    { tree, result := .error .nulInText }
  else launcher command directory tree

/-- The build tool that launches a command. -/
def tool (command : BuildCommand) (launcher : Launcher) : BuildTool :=
  { program := command.program
    invoke := fun directory tree =>
      let launched := command.launch launcher directory tree
      { tree := launched.tree
        events := [.buildStarted command.program command.arguments directory]
        result :=
          match launched.result with
          | .error fault => .error (.notStarted command.program fault)
          | .ok completion =>
            .ok
              { success := completion.success
                diagnostics := Text.ofOctets completion.diagnostics } } }

end BuildCommand

end ManifestPin
