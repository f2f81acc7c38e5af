import ManifestPin.Shell.Parameter

/-! # Assigning

How variables, elements and whole lists are set, added to and marked. -/

namespace ManifestPin.Shell.Run

/-- The text that a variable gets: of one that holds integers, the value of the text. -/
def assignedText (held : Variable) (append : Bool) (old? : Option String) (text : String) :
    Run String := do
  let old := if append then old?.getD "" else ""
  if held.integer then
    let value ← evaluate none text
    if append then return toString (value + (← evaluate none old))
    else return toString value
  else return old ++ text

/-- Sets a variable, or adds to it. -/
def assignText (name : String) (append : Bool) (text : String) : Run Unit := do
  let machine ← get
  let held := (machine.held? name).getD { name, value := none }
  let text ← assignedText held append (held.value.bind Value.text?) text
  assign name text
  if name = "OPTIND" then modify fun machine => { machine with letter := 0 }

/-- Refuses a variable that is read-only. -/
def checkWritable (name : String) : Run Unit := do
  if ((← get).held? name).any (·.readOnly) then refuseReadOnly name

/-- The text of an element. -/
def elementText? (machine : Machine) (name key : String) : Option String :=
  match (machine.held? name).bind (·.value) with
  | some (.table entries) => entries.lookup key
  | value =>
    (subscriptNumber machine (listEnd value) key).bind fun index =>
      (Machine.entriesOf value).lookup index

/-- Sets an element of a list, or adds to it. -/
def assignKey (name key : String) (append : Bool) (text : String) : Run Unit := do
  checkWritable name
  let machine ← get
  let held := (machine.held? name).getD { name, value := none }
  assignElement name key (← assignedText held append (elementText? machine name key) text)

/-- Sets a list, or adds elements behind it. Elements without a subscript follow the one before. -/
def assignList (name : String) (append : Bool) (values : List (Option String × String)) :
    Run Unit := do
  checkWritable name
  let machine ← get
  let held := (machine.held? name).getD { name, value := none }
  let empty : Value :=
    match held.value with
    | some (.table _) => .table []
    | _ => .list []
  let start : Value :=
    match append, held.value with
    | true, some (.table entries) => .table entries
    | true, value => .list (Machine.entriesOf value)
    | false, _ => empty
  set (machine.keep { held with value := some start })
  let isTable := match start with | .table _ => true | _ => false
  let rec pairs : List (Option String × String) → List (String × String)
    | (none, key) :: (none, text) :: rest => (key, text) :: pairs rest
    | (some key, text) :: rest => (key, text) :: pairs rest
    | [(none, key)] => [(key, "")]
    | (none, key) :: rest => (key, "") :: pairs rest
    | [] => []
  if isTable then
    for (key, text) in pairs values do
      assignKey name key false text
  else
    let mut next := listEnd (some start)
    for (key?, text) in values do
      let key := key?.getD (toString next)
      let machine ← get
      let held := ((machine.held? name).bind (·.value))
      next := ((subscriptNumber machine (listEnd held) key).getD next) + 1
      assignKey name key false text

/-- Marks a variable, which is known from then on. -/
def mark (name : String) (change : Variable → Variable) : Run Unit :=
  modify fun machine =>
    machine.keep (change ((machine.held? name).getD { name, value := none }))

/-- While a function runs, keeps what a variable was to give it back at the end. -/
def shadow (name : String) : Run Unit :=
  modify fun machine =>
    match machine.shadowed with
    | some saved =>
      if saved.any fun entry => entry.1 = name then machine
      else { machine with shadowed := some ((name, machine.held? name) :: saved) }
    | none => machine

end ManifestPin.Shell.Run
