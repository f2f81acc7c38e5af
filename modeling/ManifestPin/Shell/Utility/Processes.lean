import ManifestPin.Shell.Evaluate
import ManifestPin.Shell.Utility.Basic

/-! # Utilities that run programs

The programs that run another one: with other variables, with arguments from the input, or for a
limited time. -/

namespace ManifestPin.Shell.Utility

/-- Runs the program of a name with arguments. A file that is no program is run as a script. -/
def startNamed (launch : Launcher) (name : String) (arguments : List String) :
    Task (Except SystemFault Ended) := do
  let machine ← get
  match machine.search name with
  | .program path =>
    match ← launch name path arguments with
    | .error .badFormat => launch "/bin/sh" "/bin/sh" (path :: arguments)
    | result => return result
  | .refused _ => return .error .permissionDenied
  | _ =>
    if name.toList.contains '/' then
      match machine.tree.entry (gather name) with
      | .ok _ => return .error .permissionDenied
      | .error fault => return .error fault
    else return .error .noEntry

/-- Goes on as the program of a name. If there is none, the fault is reported. -/
def becomeProgram (launch : Launcher) (complaint name : String) (arguments : List String) :
    Task Nat := do
  match ← startNamed launch name arguments with
  | .ok ended => return ended.code
  | .error fault =>
    report (complaint ++ quote name ++ ": " ++ fault.text)
    return if fault = .noEntry then 127 else 126

/-! ## Variables -/

/-- The variables as lines. -/
def listVariables (lineEnd : String) : Task Unit := do
  for held in (← get).bindings.reverse do
    Task.print (held.name ++ "=" ++ ((held.value.bind Value.text?).getD "") ++ lineEnd)

/-- The name and the value of an assignment. -/
def assignment? (word : String) : Option (String × String) :=
  let chars := word.toList
  let name := chars.takeWhile (· ≠ '=')
  if name.length = chars.length then none
  else some (String.ofList name, String.ofList (chars.drop (name.length + 1)))

/-- Sets the variables that words in front assign, and gives the other words. -/
def assignInFront : List String → Task (List String)
  | [] => return []
  | word :: rest => do
    match assignment? word with
    | some (name, value) =>
      modify fun machine =>
        machine.keep { name, value := some (.text value), exported := true }
      assignInFront rest
    | none => return word :: rest

/-- How a text is cut into words: what is left of it, whether an apostrophe or a quotation mark is
open, and the word that is being read. -/
structure Cutting where
  quoted : Option Char := none
  word : Option (List Char) := none
  words : List String := []

namespace Cutting

/-- The cutting with a character in its word. -/
def push (cutting : Cutting) (c : Char) : Cutting :=
  { cutting with word := some (c :: cutting.word.getD []) }

/-- The cutting with its word ended. -/
def close (cutting : Cutting) : Cutting :=
  match cutting.word with
  | some word =>
    { cutting with word := none, words := cutting.words ++ [String.ofList word.reverse] }
  | none => cutting

end Cutting

/-- The character that a letter behind a backslash stands for in a text that is cut into words. -/
def cutEscape (c : Char) : Char :=
  match c with
  | 'f' => '\x0c'
  | 'n' => '\n'
  | 'r' => '\x0d'
  | 't' => '\t'
  | 'v' => '\x0b'
  | c => c

/-- The words of a text: blanks separate them, and quotes and backslashes keep what they do. -/
def cutWords : List Char → Cutting → Except String (List String)
  | [], cutting =>
    if cutting.quoted.isSome then .error "no terminating quote in -S string"
    else .ok cutting.close.words
  | '\\' :: c :: rest, cutting =>
    match cutting.quoted with
    | some '\'' =>
      if c = '\'' || c = '\\' then cutWords rest (cutting.push c)
      else cutWords rest ((cutting.push '\\').push c)
    | none =>
      if c = '_' then cutWords rest cutting.close else cutWords rest (cutting.push (cutEscape c))
    | some _ => cutWords rest (cutting.push (if c = '_' then ' ' else cutEscape c))
  | ['\\'], _ => .error "invalid backslash at end of string in -S"
  | c :: rest, cutting =>
    match cutting.quoted with
    | some quoted =>
      if c = quoted then cutWords rest { cutting with quoted := none }
      else cutWords rest (cutting.push c)
    | none =>
      if c = '\'' || c = '"' then
        cutWords rest { cutting with quoted := some c, word := some (cutting.word.getD []) }
      else if isSpace c then cutWords rest cutting.close
      else if c = '#' && cutting.word.isNone then .ok cutting.words
      else cutWords rest (cutting.push c)

/-- Puts the words of a text in place of the option that gives it, if that is the first one. -/
def spreadText (arguments : List String) : Except String (List String) :=
  let cut (text : String) (rest : List String) : Except String (List String) :=
    (cutWords text.toList {}).map (· ++ rest)
  match arguments with
  | word :: rest =>
    if word = "-S" || word = "-vS" then cut (rest.headD "") rest.tail
    else if word.startsWith "-S" then cut (word.drop 2).toString rest
    else if word.startsWith "--split-string=" then cut (word.drop 15).toString rest
    else .ok arguments
  | [] => .ok []

/-- Runs a program with other variables, or lists the variables. -/
def env (launch : Launcher) : Utility := fun arguments => do
  let rules : OptionRules :=
    { letters := "iu:0C:v"
      names := [("ignore-environment", 'i'), ("unset", 'u'), ("null", '0'), ("chdir", 'C'),
        ("debug", 'v')]
      inOrder := true }
  match spreadText arguments with
  | .error complaint => refuseUsage complaint 125
  | .ok arguments =>
    withOptions rules 125 (fun taken => do
      let ignores := taken.has 'i' || taken.operands.head? = some "-"
      if ignores then modify fun machine => { machine with bindings := [] }
      for name in taken.values 'u' do
        modify fun machine => machine.unset name
      let operands :=
        if taken.operands.head? = some "-" then taken.operands.tail else taken.operands
      let words ← assignInFront operands
      match taken.value? 'C' with
      | some path =>
        let machine ← get
        match machine.tree.resolve (gather path) with
        | .ok location =>
          if machine.tree.holdsDirectory location then
            set { machine with tree := { machine.tree with here := location } }
          else
            report ("cannot change directory to " ++ quote path ++
              ": Not a directory")
            return 125
        | .error fault =>
          report ("cannot change directory to " ++ quote path ++ ": " ++ fault.text)
          return 125
      | none => pure ()
      match words with
      | [] =>
        listVariables (if taken.has '0' then "\x00" else "\n")
        return 0
      | name :: arguments =>
        let status ← becomeProgram launch "" name arguments
        if status = 127 && name.toList.any isSpace then
          report "use -[v]S to pass options in shebang lines"
        return status) arguments

/-- Writes the values of variables. -/
def printenv : Utility :=
  withOptions { letters := "0", names := [("null", '0')], inOrder := true } 2
    fun taken => do
      let lineEnd := if taken.has '0' then "\x00" else "\n"
      if taken.operands.isEmpty then
        listVariables lineEnd
        return 0
      forEach taken.operands fun name => do
        match (← get).text? name with
        | some value =>
          Task.print (value ++ lineEnd)
          return 0
        | none => return 1

/-! ## Arguments from the input -/

/-- The words of an input: blanks and line ends separate them, quotes and backslashes keep what they
do. With each word it is told whether its line ends with it. -/
def inputWords : List Char → Cutting → Except String (List String)
  | [], cutting =>
    match cutting.quoted with
    | some quoted =>
      .error ("unmatched " ++ (if quoted = '"' then "double" else "single") ++
        " quote; by default quotes are special to xargs unless you use the -0 option")
    | none => .ok cutting.close.words
  | c :: rest, cutting =>
    match cutting.quoted with
    | some quoted =>
      if c = quoted then inputWords rest { cutting with quoted := none }
      else if c = '\n' then
        .error ("unmatched " ++ (if quoted = '"' then "double" else "single") ++
          " quote; by default quotes are special to xargs unless you use the -0 option")
      else inputWords rest (cutting.push c)
    | none =>
      if c = '\'' || c = '"' then
        inputWords rest { cutting with quoted := some c, word := some (cutting.word.getD []) }
      else if c = '\\' then
        match rest with
        | c :: rest => inputWords rest (cutting.push c)
        | [] => inputWords [] cutting
      else if isSpace c then inputWords rest cutting.close
      else inputWords rest (cutting.push c)

/-- Texts in groups of a number. -/
def inGroups (count : Nat) : (fuel : Nat) → List String → List (List String)
  | 0, _ => []
  | fuel + 1, texts =>
    if texts.isEmpty then [] else texts.take count :: inGroups count fuel (texts.drop count)

/-- The exit status for how the programs end that are run with arguments from the input, and whether
no more are run. -/
def groupStatus (result : Except SystemFault Ended) : Nat × Bool :=
  match result with
  | .error fault => (if fault = .noEntry then 127 else 126, true)
  | .ok (.signal _) => (125, true)
  | .ok (.status 0) => (0, false)
  | .ok (.status 255) => (124, true)
  | .ok (.status _) => (123, false)

/-- Runs a program with arguments from the input. -/
def xargs (launch : Launcher) : Utility :=
  let rules : OptionRules :=
    { letters := "0n:I:L:rtd:P:a:ps:xE:i::"
      names := [("null", '0'), ("max-args", 'n'), ("replace", 'i'), ("max-lines", 'L'),
        ("no-run-if-empty", 'r'), ("verbose", 't'), ("delimiter", 'd'), ("max-procs", 'P'),
        ("arg-file", 'a'), ("max-chars", 's'), ("exit", 'x')]
      inOrder := true }
  withOptions rules 1 fun taken => do
    let content ← contentOf ((taken.value? 'a').getD "-")
    match content with
    | .error fault =>
      report ("Cannot open input file " ++ quote ((taken.value? 'a').getD "") ++
        ": " ++ fault.text)
      return 1
    | .ok content =>
      let mark? : Option String :=
        (taken.value? 'I').orElse fun _ =>
          (taken.value? 'i').map fun mark => if mark = "" then "\x7b\x7d" else mark
      let delimiter? : Option Char :=
        if taken.has '0' then some '\x00'
        else (taken.value? 'd').map fun text => (Format.unescapeText .program text).1.toList.headD ' '
      let words : Except String (List String) :=
        match delimiter? with
        | some delimiter =>
          let pieces := piecesAt delimiter content
          .ok (if pieces.getLast? = some "" then pieces.dropLast else pieces)
        | none =>
          if mark?.isSome then
            .ok (((linesOf content).map fun line =>
              String.ofList (line.toList.dropWhile isBlank)).filter (· ≠ ""))
          else inputWords content.toList {}
      match words with
      | .error complaint =>
        report complaint
        return 1
      | .ok words =>
        let command := if taken.operands.isEmpty then ["echo"] else taken.operands
        let count := ((taken.value? 'n').bind String.toNat?).getD (words.length + 1)
        let groups :=
          match mark? with
          | some mark => words.map fun word => command.map fun text => text.replace mark word
          | none =>
            match taken.value? 'L' with
            | some lines =>
              let count := lines.toNat?.getD 1
              (inGroups count (content.length + 1)
                ((linesOf content).filter fun line => !line.toList.all isSpace)).map fun lines =>
                  command ++ lines.flatMap fun line =>
                    ((inputWords line.toList {}).toOption.getD [])
            | none =>
              if words.isEmpty then (if taken.has 'r' then [] else [command])
              else (inGroups (max count 1) (words.length + 1) words).map (command ++ ·)
        let rec go (status : Nat) : List (List String) → Task Nat
          | [] => return status
          | group :: more => do
            let name := group.headD "echo"
            if taken.has 't' then Task.complain (" ".intercalate group)
            let result ← startNamed launch name group.tail
            match result with
            | .error fault => report (name ++ ": " ++ fault.text)
            | .ok (.signal signal) =>
              report (name ++ ": terminated by signal " ++ toString signal)
            | .ok (.status 255) =>
              report (name ++ ": exited with status 255; aborting")
            | .ok _ => pure ()
            let (found, stops) := groupStatus result
            if stops then return found else go (max status found) more
        go 0 groups

/-! ## Time -/

/-- The milliseconds that a text stands for: a number, with a letter for its unit. -/
def milliseconds? (text : String) : Option Nat :=
  let chars := text.toList
  let (whole, rest) := chars.span Char.isDigit
  let (fraction, rest) : List Char × List Char :=
    match rest with
    | '.' :: rest => rest.span Char.isDigit
    | rest => ([], rest)
  let thousandths := numberOf 10 ((fraction ++ ['0', '0', '0']).take 3)
  let number := numberOf 10 whole * 1000 + thousandths
  if whole.isEmpty && fraction.isEmpty then none
  else
    match rest with
    | [] => some number
    | ['s'] => some number
    | ['m'] => some (number * 60)
    | ['h'] => some (number * 3600)
    | ['d'] => some (number * 86400)
    | _ => if text = "inf" || text = "infinity" then some 0 else none

/-- Lets time pass. -/
def sleep : Utility :=
  withOptions { letters := "" } 1 fun taken => do
    if taken.operands.isEmpty then return ← refuseUsage "missing operand" 1
    let wrong := taken.operands.filter fun text => (milliseconds? text).isNone
    if wrong.isEmpty then
      let spent := (taken.operands.filterMap milliseconds?).foldl (· + ·) 0
      modify fun machine => { machine with clock := machine.clock + spent }
      return 0
    else
      for text in wrong do
        report ("invalid time interval " ++ quote text)
      adviseHelp
      return 1

/-- Runs a program for a limited time. -/
def timeout (launch : Launcher) : Utility :=
  let rules : OptionRules :=
    { letters := "s:k:vfp"
      names := [("signal", 's'), ("kill-after", 'k'), ("verbose", 'v'), ("foreground", 'f'),
        ("preserve-status", 'p')]
      inOrder := true }
  withOptions rules 125 fun taken => do
    match taken.operands with
    | limit :: name :: arguments =>
      match milliseconds? limit with
      | none => refuseUsage ("invalid time interval " ++ quote limit) 125
      | some limit =>
        let start := (← get).clock
        let status ← becomeProgram launch "failed to run command " name arguments
        let spent := (← get).clock - start
        if 0 < limit && limit < spent then
          modify fun machine => { machine with clock := start + limit }
          return if taken.has 'p' then 143 else 124
        else return status
    | _ =>
      adviseHelp
      return 125

/-- Runs a program that goes on when its terminal is closed. There is no terminal here. -/
def nohup (launch : Launcher) : Utility := fun arguments => do
  match if arguments.head? = some "--" then arguments.tail else arguments with
  | [] => refuseUsage "missing operand" 125
  | name :: arguments =>
    becomeProgram launch "failed to run command " name arguments

/-- Runs a program with another priority, which has no effect here. -/
def nice (launch : Launcher) : Utility :=
  withOptions { letters := "n:", names := [("adjustment", 'n')], inOrder := true } 125
    fun taken => do
      match taken.operands with
      | [] =>
        Task.print "0\n"
        return 0
      | name :: arguments => becomeProgram launch "" name arguments

/-- Runs a program with other buffers, which has no effect here. -/
def stdbuf (launch : Launcher) : Utility :=
  let rules : OptionRules :=
    { letters := "i:o:e:", names := [("input", 'i'), ("output", 'o'), ("error", 'e')]
      inOrder := true }
  withOptions rules 125 fun taken => do
    match taken.operands with
    | [] => refuseUsage "missing operand" 125
    | name :: arguments =>
      becomeProgram launch "failed to run command " name arguments

/-- Runs a program in a session of its own. -/
def setsid (launch : Launcher) : Utility :=
  withOptions { letters := "cfw", inOrder := true } 1 fun taken => do
    match taken.operands with
    | [] =>
      report "no command specified"
      return 1
    | name :: arguments => becomeProgram launch "failed to execute " name arguments

end ManifestPin.Shell.Utility
