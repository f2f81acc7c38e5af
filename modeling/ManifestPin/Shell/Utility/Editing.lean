import ManifestPin.Shell.Editing.Run
import ManifestPin.Shell.Utility.Paths

/-! # The editor of lines

The program that runs editing scripts on files, and writes what comes of them or puts it in place of
the files. -/

namespace ManifestPin.Shell.Utility

open Editing

/-- A part of a script: its text, and the file that holds it if it is no argument. -/
structure ScriptPart where
  file : Option String
  text : String

namespace ScriptPart

/-- The text of a script of which the parts are lines. -/
def joined (parts : List ScriptPart) : String :=
  "\n".intercalate (parts.map (·.text))

/-- The number of the first line, or of the first argument, and how much of it is read. -/
def place (isCounted : Bool) : (number : Nat) → (position : Nat) → List ScriptPart → String
  | _, _, [] => ""
  | number, position, part :: rest =>
    let length := part.text.length
    if position ≤ length || rest.isEmpty then
      match part.file with
      | some file =>
        let lines := (part.text.toList.take position).count '\n' + 1
        "file " ++ file ++ " line " ++ toString lines ++ ": "
      | none =>
        "-e expression #" ++ toString number ++ ", char " ++
          toString (if isCounted then position else 0) ++ ": "
    else place isCounted (if part.file.isNone then number + 1 else number) (position - length - 1) rest

/-- Where a script is misread, and why. -/
def complaint (parts : List ScriptPart) (misreading : Editing.Misreading) : String :=
  let total := (joined parts).length
  let (isCounted, position) : Bool × Nat :=
    match misreading.fault with
    | .unclosedBlock left => (false, total - left)
    | .unusedExpression => (false, total)
    | _ => (true, misreading.position)
  place isCounted 1 position parts ++ misreading.fault.text

end ScriptPart

/-- The parts of a script that options name. -/
def scriptParts (options : List (Char × String)) : Task (Except String (List ScriptPart)) := do
  let mut parts : List ScriptPart := []
  for (letter, value) in options do
    if letter = 'e' then parts := parts ++ [{ file := none, text := value }]
    else if letter = 'f' then
      match ← contentOf value with
      | .ok content =>
        let text := if content.endsWith "\n" then (content.dropEnd 1).toString else content
        parts := parts ++ [{ file := some value, text }]
      | .error fault => return .error ("couldn't open file " ++ value ++ ": " ++ fault.text)
  return .ok parts

/-- The name of the copy that is kept of a file. -/
def keptName (ending path : String) : String :=
  let name := lastName path
  let kept := if ending.contains '*' then ending.replace "*" name else name ++ ending
  if kept.contains '/' then kept
  else (path.dropEnd name.length).toString ++ kept

/-- Puts a content in place of a file, of which a copy is kept if an ending is given. -/
def editFile (ending path content : String) : Task Nat := do
  let machine ← get
  let replace (tree : Tree) (path : String) (file : Entry) : Except SystemFault Tree :=
    ((tree.removeFile (gather path)).toOption.getD tree).create (gather path) file
  match machine.tree.entry (gather path) with
  | .error _ => return 4
  | .ok file =>
    let tree :=
      if ending = "" then .ok machine.tree
      else replace machine.tree (keptName ending path) file
    match tree with
    | .error fault =>
      report ("cannot rename " ++ path ++ ": " ++ fault.text)
      return 4
    | .ok tree =>
      match replace tree path (file.withContent (toOctets content)) with
      | .error _ => return 4
      | .ok tree =>
        set { machine with tree }
        return 0

/-- Runs scripts on the lines of files. -/
def sed : Utility :=
  withOptions
    { letters := "nEre:f:i::sl:zubp1", names := [("quiet", 'n'), ("silent", 'n'),
        ("expression", 'e'), ("file", 'f'), ("in-place", 'i'), ("line-length", 'l'),
        ("regexp-extended", 'E'), ("separate", 's'), ("null-data", 'z'), ("zero-terminated", 'z'),
        ("unbuffered", 'u'), ("posix", 'p'), ("debug", '1'), ("sandbox", '1'),
        ("follow-symlinks", '1')] } 1
    fun taken => do
      let isGiven := taken.has 'e' || taken.has 'f'
      let options :=
        if isGiven then taken.options else ((taken.operands.take 1).map fun text => ('e', text))
      let operands := if isGiven then taken.operands else taken.operands.drop 1
      if options.isEmpty then
        Task.complain ("Usage: " ++ (← get).name ++
          " [OPTION]... \x7bscript-only-if-no-other-script\x7d [input-file]...")
        return 1
      match ← scriptParts options with
      | .error complaint =>
        report complaint
        return 4
      | .ok parts =>
        let text := ScriptPart.joined parts
        match readScript (taken.has 'E' || taken.has 'r') text with
        | .error misreading =>
          report (ScriptPart.complaint parts misreading)
          return 1
        | .ok commands =>
          let script : Script :=
            { commands, quiet := taken.has 'n' || text.startsWith "#n"
              delimiter := if taken.has 'z' then '\x00' else '\n'
              width := ((taken.value? 'l').bind String.toNat?).getD 70 }
          match script.missingLabel? with
          | some name =>
            report ("can't find label for jump to \x60" ++ name ++ "'")
            return 4
          | none => pure ()
          let isInPlace := taken.has 'i'
          let machine ← get
          let read (path : String) : Option String :=
            (machine.readPath path).toOption.map ofOctets
          let mut groups : List (String × List Line) := []
          let mut status := 0
          for operand in inputs operands do
            match ← contentOf operand with
            | .ok content =>
              groups := groups ++ [(operand, linesOfContent script.delimiter content)]
            | .error .isDirectory =>
              if isInPlace then report ("couldn't edit " ++ operand ++ ": not a regular file")
              else report ("read error on " ++ operand ++ ": Is a directory")
              status := 4
              if !isInPlace then break
            | .error fault =>
              report ("can't read " ++ operand ++ ": " ++ fault.text)
              status := max status 2
          if !isInPlace && !taken.has 's' then
            groups := [("-", groups.flatMap (·.2))]
          let mut state := State.initial script []
          for (operand, lines) in groups do
            let fresh := State.initial script lines
            let (outcome, after) := State.run
              { fresh with
                kept := state.kept, files := state.files, latest := state.latest
                output := if isInPlace then {} else state.output } script read
            state := after
            if isInPlace then
              let result ← editFile ((taken.value? 'i').getD "") operand after.output.text
              if result ≠ 0 then
                status := result
                break
            match outcome with
            | .ok none => pure ()
            | .ok (some ending) =>
              status := ending
              break
            | .error fault =>
              report (ScriptPart.complaint parts { fault, position := 0 })
              status := 1
              break
          if !isInPlace then Task.print state.output.text
          for (path, written) in state.files do
            if path = "/dev/stderr" then
              (fun machine => ((), machine.write 2 (toOctets written.text)))
            else if path ≠ "/dev/stdout" then
              let _ ← writeFile path false written.text
          return status

end ManifestPin.Shell.Utility
