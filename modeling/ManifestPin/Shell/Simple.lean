import ManifestPin.Shell.Calling

/-! # Simple commands

A simple command is expanded to words, its descriptors are changed, its variables are set, and the
command that the first word names is called. -/

namespace ManifestPin.Shell

/-- A variable and what it is set to, once that has been expanded. -/
inductive Setting where
  | text (name : String) (append : Bool) (text : String)
  | element (name key : String) (append : Bool) (text : String)
  | list (name written : String) (append : Bool) (values : List (Option String × String))

namespace Setting

/-- The name of the variable. -/
def name : Setting → String
  | .text name .. => name
  | .element name .. => name
  | .list name .. => name

/-- The assignment as traces show it. -/
def written (quote : String → String) : Setting → String
  | .text name append value => name ++ (if append then "+=" else "=") ++ quote value
  | .element name key append value =>
    name ++ "[" ++ key ++ "]" ++ (if append then "+=" else "=") ++ quote value
  | .list name written append _ => name ++ (if append then "+=(" else "=(") ++ written

/-- Sets the variable. -/
def apply : Setting → Run Unit
  | .text name append value => Run.assignText name append value
  | .element name key append value => Run.assignKey name key append value
  | .list name _ append values => Run.assignList name append values

end Setting

namespace Interpreter

/-- Expands what a variable is set to. -/
def expandAssignment (interpreter : Interpreter) : Assignment → Run Setting
  | .word name none append value => do
    return .text name append (← interpreter.powers.text .colons value)
  | .word name (some subscript) append value => do
    let key ← interpreter.powers.text .nowhere subscript
    return .element name key append (← interpreter.powers.text .colons value)
  | .list name written append values => do
    let entries ← values.mapM fun (subscript?, value) => do
      match subscript? with
      | some subscript =>
        let key ← interpreter.powers.text .nowhere subscript
        return [(some key, ← interpreter.powers.text .colons value)]
      | none => return (← interpreter.powers.fields .start value).map fun text => (none, text)
    return .list name written append entries.flatten

/-- The words of a command without those in front that only pass it on. -/
def passedOn : List String → List String
  | "command" :: rest => passedOn rest
  | "builtin" :: rest => passedOn rest
  | word :: rest => if word = "--" || word = "-p" then passedOn rest else word :: rest
  | [] => []

/-- Whether the arguments of a command may be assignments, which are not split. -/
def takesAssignments (machine : Machine) (words : List String) : Bool :=
  match passedOn words with
  | name :: _ =>
    match machine.dialect with
    | .standard => ["export", "readonly", "local"].contains name
    | .extended =>
      ["export", "readonly", "local", "declare", "typeset"].contains name &&
        (machine.function? name).isNone
  | [] => false

/-- Whether a word is an assignment as it is written. -/
def isAssignment (dialect : Dialect) : List Part → Bool
  | .literal false text :: _ =>
    let name := text.toList.takeWhile isNameChar
    let rest := text.toList.drop name.length
    isName (String.ofList name) &&
      (rest.head? = some '=' ||
        (dialect = .extended && (['+', '='].isPrefixOf rest || rest.head? = some '[')))
  | _ => false

/-- Expands the words of a command, of which some have been expanded. -/
def expandWords (interpreter : Interpreter) (done : List String) :
    List (List Part) → Run (List String)
  | [] => return done
  | word :: rest => do
    let machine ← get
    if isAssignment machine.dialect word && takesAssignments machine done then
      interpreter.expandWords (done ++ [← interpreter.powers.text .assigned word]) rest
    else
      let assigns := machine.dialect = .extended && isAssignment .extended word
      let tilde : Tilde := if assigns then .assigned else .start
      interpreter.expandWords (done ++ (← interpreter.powers.fields tilde word)) rest

/-- What stands in front of the lines of a trace. -/
def tracePrefix (interpreter : Interpreter) : Run String := do
  let machine ← get
  let text := (machine.text? "PS4").getD ""
  let source : Source :=
    { dialect := machine.dialect, rest := text.toList, line := machine.line
      documents := machine.documents }
  let start ← (do
    match Reader.readExpandable.run source with
    | .ok (parts, _) =>
      set (machine.setMode "xtrace" false)
      let start ← interpreter.powers.text .nowhere parts
      modify fun machine => (machine.setMode "xtrace" true).withStatus machine.status
      return start
    | .error _ => return text)
  match machine.dialect, start.toList with
  | .extended, c :: _ => return String.ofList (List.replicate machine.level c) ++ start
  | _, _ => return start

/-- Writes a line of a trace, if traces are asked for. -/
def trace (interpreter : Interpreter) (text : String) : Run Unit := do
  if (← get).isOn "xtrace" then
    Builtin.task (Task.complain ((← interpreter.tracePrefix) ++ text))

/-- A word as traces of the extended shell show it. -/
def tracedWord (text : String) : String :=
  if !Builtin.needsQuotes text && text.toList.any fun c => c < ' ' || '\x7e' < c then
    Expansion.quoteText text
  else Builtin.listed text

/-- Traces a command before it is called. -/
def traceCommand (interpreter : Interpreter) (settings : List Setting) (words : List String) :
    Run Unit := do
  match (← get).dialect with
  | .standard =>
    interpreter.trace (" ".intercalate (settings.map (Setting.written id) ++ words))
  | .extended =>
    let value (text : String) : String := if text = "" then "" else tracedWord text
    for setting in settings do
      interpreter.trace (setting.written value)
    if !words.isEmpty then interpreter.trace (" ".intercalate (words.map tracedWord))
    if words.head? = some "export" || words.head? = some "readonly" then
      for word in words.tail do
        match Builtin.splitAssignment word with
        | (name, append, some text) =>
          if isName name then interpreter.trace ((Setting.text name append text).written value)
        | _ => pure ()

/-- Does something while variables are set that programs get to know, and lets them be as they were
afterwards. -/
def withSettings (settings : List Setting) (action : Run Unit) : Run Unit := do
  if settings.isEmpty then action
  else
    let before ← get
    let saved := settings.map fun setting => (setting.name, before.held? setting.name)
    for setting in settings do
      match ← Run.attempt setting.apply with
      | .ok () => Run.mark setting.name fun held => { held with exported := true }
      | .error .fault => if before.dialect = .standard then throw .fault
      | .error stop => throw stop
    let result ← Run.attempt action
    modify fun after => saved.reverse.foldl Machine.restore after
    match result with
    | .ok () => return ()
    | .error stop => throw stop

/-- Whether words make the shell keep its new descriptors. -/
def keepsDescriptors : List String → Bool
  | ["exec"] => true
  | ["command", "exec"] => true
  | ["builtin", "exec"] => true
  | _ => false

/-- Whether the words call a command whose faults end a script. -/
def callsSpecial (machine : Machine) : List String → Bool
  | name :: _ => machine.dialect.isSpecial name
  | [] => false

/-- Runs the processes that read what the command that has run wrote. -/
def runReaders (interpreter : Interpreter) : Run Unit := do
  let (readers, others) := (← get).jobs.partition fun job => job.reads
  if !readers.isEmpty then
    for job in readers do
      Builtin.task (interpreter.runJob job)
    modify fun after => { after with jobs := others }

/-- Sets the variables that tell of the last command, in the extended dialect. -/
def remember (words : List String) : Run Unit := do
  let machine ← get
  if machine.dialect = .extended then
    match words.getLast? with
    | some last => set (machine.keep { name := "_", value := some (.text last) })
    | none => return ()

/-- Runs a simple command in the standard dialect: descriptors first, then variables. -/
def runStandard (interpreter : Interpreter) (tested : Bool) (assignments : List Assignment)
    (words : List String) (redirections : List Redirection) : Run Unit := do
  let before ← get
  let special := callsSpecial before words
  if !(← interpreter.redirectAll redirections) then
    if special then throw .fault
  else
    let temporary := !words.isEmpty && !special
    let call : Run Unit :=
      if words.isEmpty then modify fun machine => machine.withStatus machine.captured
      else interpreter.call { tested, bare := false } (words.length + 1) words
    let traced (settings : List Setting) : Run Unit := do
      let machine ← get
      set { machine with descriptors := before.descriptors }
      interpreter.traceCommand settings words
      modify fun after => { after with descriptors := machine.descriptors }
    if temporary then
      let settings ← assignments.mapM interpreter.expandAssignment
      withSettings settings (do
        traced settings
        call)
    else
      let settings ← assignments.mapM fun assignment => do
        let setting ← interpreter.expandAssignment assignment
        setting.apply
        return setting
      traced settings
      call

/-- The settings that lists behind a declaring command make of its arguments, and the words of the
command with the names of the lists. -/
def declaredLists (settings : List Setting) (words : List String) :
    List Setting × List Setting × List String :=
  let isList (setting : Setting) : Bool :=
    match setting with
    | .list .. => true
    | _ => false
  if words.isEmpty then (settings, [], words)
  else
    let (lists, others) := settings.partition isList
    (others, lists, words ++ lists.map Setting.name)

/-- Runs a simple command in the extended dialect: variables first, then descriptors. -/
def runExtended (interpreter : Interpreter) (tested : Bool) (assignments : List Assignment)
    (words : List String) (redirections : List Redirection) : Run Unit := do
  if words.isEmpty then
    for assignment in assignments do
      let setting ← interpreter.expandAssignment assignment
      interpreter.traceCommand [setting] []
      setting.apply
    Run.exit (← get).captured
    let _ ← interpreter.redirectAll redirections
  else
    let settings ← assignments.mapM interpreter.expandAssignment
    let (settings, lists, words) := declaredLists settings words
    interpreter.traceCommand settings words
    if ← interpreter.redirectAll redirections then
      withSettings settings (do
        interpreter.call { tested, bare := false } (words.length + 1) words
        for setting in lists do setting.apply)

/-- Runs a simple command. -/
def runSimple (interpreter : Interpreter) (tested : Bool) (line : Nat)
    (assignments : List Assignment) (parts : List (List Part))
    (redirections : List Redirection) : Run Unit := do
  Run.atLine line
  if (← get).functionLine.isNone then interpreter.runEvent "DEBUG"
  let before ← get
  set { before with captured := 0 }
  let words ← interpreter.expandWords [] parts
  let action :=
    match before.dialect with
    | .standard => interpreter.runStandard tested assignments words redirections
    | .extended => interpreter.runExtended tested assignments words redirections
  let result ← Run.attempt action
  if !keepsDescriptors words || result matches .error _ then
    modify fun after => { after with descriptors := before.descriptors }
  if before.dialect = .extended then
    interpreter.runReaders
    remember words
  match result with
  | .ok () => return ()
  | .error stop => throw stop

end Interpreter

end ManifestPin.Shell
