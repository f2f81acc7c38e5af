import ManifestPin.Files.Operations
import ManifestPin.Shell.Pattern
import ManifestPin.Shell.Script

/-! # The state of a shell

Files, variables, open streams and processes. What is written to a pipe is kept in order and read
from its front. -/

namespace ManifestPin.Shell

/-- What an open descriptor leads to. Descriptors that were copied share the position in a file. -/
inductive Stream where
  /-- Nothing is read and what is written is lost. -/
  | nothing
  | pipe (index : Nat)
  | file (location : Location) (position : Nat) (appends : Bool)
  | directory

/-- The value of a variable. -/
inductive Value where
  | text (text : String)
  /-- Elements by their numbers, in order. -/
  | list (entries : List (Nat × String))
  /-- Elements by their keys. -/
  | table (entries : List (String × String))
  deriving DecidableEq, Repr

/-- The text of a value: of a list, its first element. -/
def Value.text? : Value → Option String
  | .text content => some content
  | .list entries => entries.lookup 0
  | .table entries => entries.lookup "0"

/-- A variable. It may be known without having a value. -/
structure Variable where
  name : String
  value : Option Value
  exported : Bool := false
  readOnly : Bool := false
  integer : Bool := false
  deriving DecidableEq, Repr

/-- A function of a script. -/
structure Function where
  name : String
  /-- The line that it starts in. -/
  line : Nat
  /-- The file that it is defined in, if any. -/
  file : Option String
  body : Command

/-- A function or a file whose commands are running. -/
structure Frame where
  name : String
  /-- The file that holds the commands, if any. -/
  file : Option String
  /-- The line in which they were called. -/
  line : Nat
  isFunction : Bool

/-- How a process ends. -/
inductive Ended where
  | status (number : Nat)
  | signal (number : Nat)
  deriving DecidableEq, Repr

/-- The status that a shell sees of a process that ended. -/
def Ended.code : Ended → Nat
  | .status number => number
  | .signal number => 128 + number

/-- What a process takes over from the shell that starts it. -/
structure Fork where
  bindings : List Variable
  arguments : List String
  functions : List Function
  aliases : List (String × String)
  modes : List String
  descriptors : List (Nat × Nat)
  directory : Location
  here : String

/-- A process in the background. It runs when something waits for it. -/
structure Job where
  process : Nat
  /-- What is left to run. -/
  waiting : Option (Fork × Command)
  ended : Ended
  /-- Whether it reads what the command that runs writes. -/
  reads : Bool

/-- The state of a shell, or of a program that it runs. -/
structure Machine where
  /-- The files and the current directory. -/
  tree : Tree
  dialect : Dialect
  /-- The name of the shell, for messages. -/
  name : String
  /-- The command of the shell that is running, or the file whose commands are, for messages. -/
  caller : Option String := none
  /-- The file whose commands are running, if the shell was told to read one. -/
  file : Option String := none
  /-- The positional parameters. -/
  arguments : List String := []
  bindings : List Variable := []
  functions : List Function := []
  /-- Words that stand for other texts. -/
  aliases : List (String × String) := []
  /-- The exit status of the last command. -/
  status : Nat := 0
  /-- The streams of the descriptors, by their numbers. -/
  descriptors : List (Nat × Nat)
  streams : Array Stream
  /-- What the pipes hold. -/
  pipes : Array ByteArray
  /-- The texts within scripts that have been read. -/
  documents : Array (List Part) := #[]
  /-- The line of the current command, counted from that of the function that runs. -/
  line : Nat := 1
  /-- How many lines commands in words are moved by. -/
  lineShift : Int := 0
  /-- How deep commands are nested that come from texts and words, for traces. -/
  level : Nat := 0
  /-- The line that the function that runs starts in. -/
  functionLine : Option Nat := none
  /-- The script that is being read, for messages. -/
  script : String := ""
  /-- The options of the shell that are on. -/
  modes : List String := []
  /-- How many loops are running around the current command. -/
  loops : Nat := 0
  /-- While a function runs, the variables that it shadows and what they were. -/
  shadowed : Option (List (String × Option Variable)) := none
  /-- The functions that are running, and the files, innermost first. -/
  running : List Frame := []
  /-- The file that the shell was told to run. -/
  main : Option String := none
  /-- How many processes of the shell there are around the current one. -/
  subshells : Nat := 0
  /-- The directories that are remembered, the last one first. -/
  directories : List String := []
  /-- The commands to run on signals and at the end. -/
  traps : List (String × String) := []
  /-- Signals that the shell was started without taking. -/
  ignored : List String := []
  /-- Signals that processes have still to take, each with the number of the process. -/
  signals : List (Nat × Nat) := []
  /-- The number of the process that the shell started as. -/
  shell : Nat := 100
  /-- The number of the process that runs. -/
  process : Nat := 100
  /-- The number of the next process. -/
  fresh : Nat := 101
  /-- The number of the process that started the one that runs. -/
  parent : String := "1"
  /-- What the first program is told to be the number of the process that started it. -/
  starter : Option String := none
  /-- The last process in the background. -/
  background : Option Nat := none
  /-- The processes in the background, the oldest first. -/
  jobs : List Job := []
  /-- The time that has passed, in milliseconds. -/
  clock : Nat := 0
  /-- How far the letters of an option have been read. -/
  letter : Nat := 0
  /-- The status of the last commands whose output was part of a word. -/
  captured : Nat := 0
  /-- While the commands of the end run, the status that the shell ends with. -/
  ending : Option Nat := none
  /-- The path of the current directory as it was reached. -/
  here : String := "/"
  /-- The permission bits that new files do not get. -/
  mask : Nat := 0o022

/-- A step of a program: it changes the state. -/
abbrev Task := StateM Machine

namespace Machine

/-- Whether an option of the shell is on. -/
def isOn (machine : Machine) (mode : String) : Bool :=
  machine.modes.contains mode

/-- The machine with an option of the shell on or off. -/
def setMode (machine : Machine) (mode : String) (isOn : Bool) : Machine :=
  let others := machine.modes.filter (· ≠ mode)
  { machine with modes := if isOn then mode :: others else others }

/-- The machine with an exit status. -/
def withStatus (machine : Machine) (status : Nat) : Machine :=
  { machine with status }

/-- What a descriptor leads to. -/
def stream? (machine : Machine) (descriptor : Nat) : Option Stream :=
  (machine.descriptors.lookup descriptor).bind fun index => machine.streams[index]?

/-- The machine with a descriptor that leads to a new stream. -/
def openStream (machine : Machine) (descriptor : Nat) (stream : Stream) : Machine :=
  { machine with
    descriptors := (descriptor, machine.streams.size) ::
      machine.descriptors.filter fun entry => entry.1 ≠ descriptor
    streams := machine.streams.push stream }

/-- The machine with a descriptor that leads where another one does. -/
def copyStream (machine : Machine) (descriptor index : Nat) : Machine :=
  { machine with
    descriptors := (descriptor, index) ::
      machine.descriptors.filter fun entry => entry.1 ≠ descriptor }

/-- The machine without a descriptor. -/
def closeStream (machine : Machine) (descriptor : Nat) : Machine :=
  { machine with descriptors := machine.descriptors.filter fun entry => entry.1 ≠ descriptor }

/-- A new pipe with a content, and its index. -/
def addPipe (machine : Machine) (content : ByteArray) : Machine × Nat :=
  ({ machine with pipes := machine.pipes.push content }, machine.pipes.size)

/-- The content of a file. -/
def contentAt (machine : Machine) (location : Location) : ByteArray :=
  match machine.tree.get? location with
  | some (.file content _) => content
  | _ => ByteArray.empty

/-- Octets with others written over them from a position on. -/
def overwrite (content octets : ByteArray) (position : Nat) : ByteArray :=
  let gap : ByteArray := ⟨Array.replicate (position - content.size) 0⟩
  let kept := content.extract 0 position ++ gap
  kept ++ octets ++ content.extract (position + octets.size) content.size

/-- Writes octets to a stream. -/
def writeStream (machine : Machine) (index : Nat) (octets : ByteArray) : Machine :=
  match machine.streams[index]? with
  | some (.pipe pipe) =>
    { machine with pipes := machine.pipes.modify pipe fun content => content ++ octets }
  | some (.file location position appends) =>
    let content := machine.contentAt location
    let position := if appends then content.size else position
    let written := overwrite content octets position
    { machine with
      tree := machine.tree.update location (·.withContent written)
      streams := machine.streams.set! index (.file location (position + octets.size) appends) }
  | _ => machine

/-- Writes octets to a descriptor. What is written to a closed one is lost. -/
def write (machine : Machine) (descriptor : Nat) (octets : ByteArray) : Machine :=
  match machine.descriptors.lookup descriptor with
  | some index => machine.writeStream index octets
  | none => machine

/-- What is left to read from a descriptor. -/
def pendingAt (machine : Machine) (descriptor : Nat) : ByteArray :=
  match machine.stream? descriptor with
  | some (.pipe index) => machine.pipes.getD index ByteArray.empty
  | some (.file location position _) =>
    let content := machine.contentAt location
    content.extract position content.size
  | _ => ByteArray.empty

/-- The machine after a number of octets were read from a descriptor. -/
def consumeAt (machine : Machine) (descriptor count : Nat) : Machine :=
  match machine.descriptors.lookup descriptor with
  | none => machine
  | some index =>
    match machine.streams[index]? with
    | some (.pipe pipe) =>
      { machine with
        pipes := machine.pipes.modify pipe fun content => content.extract count content.size }
    | some (.file location position appends) =>
      let moved := Stream.file location (position + count) appends
      { machine with streams := machine.streams.set! index moved }
    | _ => machine

/-- A variable. -/
def held? (machine : Machine) (name : String) : Option Variable :=
  machine.bindings.find? fun held => held.name = name

/-- The machine without a variable. -/
def unset (machine : Machine) (name : String) : Machine :=
  { machine with bindings := machine.bindings.filter fun held => held.name ≠ name }

/-- The machine with a variable in place of the one of its name. -/
def keep (machine : Machine) (held : Variable) : Machine :=
  { machine with bindings := held :: (machine.unset held.name).bindings }

/-- The path of the current directory. -/
def directory (machine : Machine) : String :=
  "/" ++ "/".intercalate (machine.tree.here.reverse.map spread)

/-- The text of a variable. -/
def text? (machine : Machine) (name : String) : Option String :=
  (machine.held? name).bind fun held => held.value.bind Value.text?

/-- The machine with a variable set to a text, and exported if all assigned variables are. -/
def assign (machine : Machine) (name text : String) : Machine :=
  let old := (machine.held? name).getD { name, value := none }
  let value : Value :=
    match old.value with
    | some (.list entries) => .list ((0, text) :: entries.filter fun entry => entry.1 ≠ 0)
    | _ => .text text
  machine.keep
    { old with value := some value, exported := old.exported || machine.isOn "allexport" }

/-- The machine with a variable again as it was. -/
def restore (machine : Machine) (saved : String × Option Variable) : Machine :=
  match saved.2 with
  | some held => machine.keep held
  | none => machine.unset saved.1

/-- The variables that programs get to know. -/
def environment (machine : Machine) : List Variable :=
  machine.bindings.filter fun held => held.exported && held.value.isSome

/-- The characters that separate words. -/
def separators (machine : Machine) : List Char :=
  match machine.text? "IFS" with
  | some separators => separators.toList
  | none => [' ', '\t', '\n']

/-- What a process takes over from the shell. -/
def fork (machine : Machine) : Fork :=
  { bindings := machine.bindings
    arguments := machine.arguments
    functions := machine.functions
    aliases := machine.aliases
    modes := machine.modes
    descriptors := machine.descriptors
    directory := machine.tree.here
    here := machine.here }

/-- The machine with a new process in the background, whose input is a stream or is empty. -/
def enlist (machine : Machine) (body : Command) (input : Option Nat) : Machine :=
  let (machine, stream) : Machine × Nat :=
    match input with
    | some stream => (machine, stream)
    | none => ({ machine with streams := machine.streams.push .nothing }, machine.streams.size)
  let fork := (machine.copyStream 0 stream).fork
  let job : Job :=
    { process := machine.fresh, waiting := some (fork, body), ended := .status 0
      reads := input.isSome }
  { machine with fresh := machine.fresh + 1, jobs := machine.jobs ++ [job] }

/-- The state in which a process starts that goes on as the shell is. -/
def apart (machine : Machine) : Machine :=
  { machine with
    process := machine.fresh
    fresh := machine.fresh + 1
    traps := machine.traps.filter fun entry => entry.2 = ""
    jobs := []
    subshells := machine.subshells + 1
    ending := none }

/-- The state of a shell after a process of its own left another one: files, streams and time are
shared, and nothing else is. -/
def join (machine after : Machine) : Machine :=
  { machine with
    tree := { after.tree with here := machine.tree.here }
    streams := after.streams
    pipes := after.pipes
    documents := after.documents
    fresh := after.fresh
    signals := after.signals
    clock := after.clock }

/-- The state of a process that takes over what the shell gave it. -/
def resume (machine : Machine) (fork : Fork) (process : Nat) : Machine :=
  { machine with
    tree := { machine.tree with here := fork.directory }
    bindings := fork.bindings
    arguments := fork.arguments
    functions := fork.functions
    aliases := fork.aliases
    modes := fork.modes
    descriptors := fork.descriptors
    here := fork.here
    process
    traps := machine.traps.filter fun entry => entry.2 = ""
    jobs := []
    ending := none }

/-- The permission bits of a new file. -/
def newMode (machine : Machine) : Nat :=
  0o666 &&& (machine.mask ^^^ 0o777)

end Machine

namespace Task

/-- Writes a text to the output. -/
def print (text : String) : Task Unit :=
  modify fun machine => machine.write 1 (toOctets text)

/-- Writes a line to the error stream. -/
def complain (text : String) : Task Unit :=
  modify fun machine => machine.write 2 (toOctets (text ++ "\n"))

/-- Everything that is left to read from the input. -/
def readAll : Task String := do
  let machine ← get
  let content := machine.pendingAt 0
  set (machine.consumeAt 0 content.size)
  return ofOctets content

/-- Whether the output can be written to. -/
def hasOutput : Task Bool := do
  return ((← get).descriptors.lookup 1).isSome

end Task

end ManifestPin.Shell
