import ManifestPin.Text.Similarity

/-! # Options

The arguments of the command line. Each option is given at most once; help and version are answered
where they stand, unless something before them is refused. -/

namespace ManifestPin.CommandLine

/-- What the arguments say. -/
structure Options where
  /-- The repository root. -/
  root : String
  /-- The configuration file. -/
  config : Option String
  /-- The parameter file, in place of the configured one. -/
  parameters : Option String
  /-- The manifest, in place of the configured one. -/
  manifest : Option String
  /-- The version key, in place of the configured one. -/
  versionKey : Option String
  /-- Whether nothing is to be written. -/
  dryRun : Bool
  /-- Whether all events are shown. -/
  verbose : Bool
  deriving DecidableEq, Repr

/-- The options without any argument. -/
def Options.default : Options :=
  { root := "."
    config := none
    parameters := none
    manifest := none
    versionKey := none
    dryRun := false
    verbose := false }

/-- An option that takes a value. -/
inductive Setting where
  | root
  | config
  | parameters
  | manifest
  | versionKey
  deriving DecidableEq, Repr

/-- An option that takes none. -/
inductive Switch where
  | dryRun
  | verbose
  | help
  | version
  deriving DecidableEq, Repr

/-- An option. -/
inductive Flag where
  | setting (setting : Setting)
  | switch (switch : Switch)
  deriving DecidableEq, Repr

/-- The name of an option and of its value. -/
def Flag.names : Flag → String × Option String
  | .setting .root => ("root", some "ROOT")
  | .setting .config => ("config", some "CONFIG")
  | .setting .parameters => ("params", some "PARAMS")
  | .setting .manifest => ("manifest", some "MANIFEST")
  | .setting .versionKey => ("version-key", some "VERSION_KEY")
  | .switch .dryRun => ("dry-run", none)
  | .switch .verbose => ("verbose", none)
  | .switch .help => ("help", none)
  | .switch .version => ("version", none)

/-- The name of an option. -/
def Flag.name (flag : Flag) : String :=
  flag.names.1

/-- The letter of an option. -/
def Flag.letter? : Flag → Option Char
  | .setting .config => some 'c'
  | .switch .verbose => some 'v'
  | .switch .help => some 'h'
  | .switch .version => some 'V'
  | _ => none

/-- All options, in the order of their description. -/
def flags : List Flag :=
  [.setting .root, .setting .config, .setting .parameters, .setting .manifest,
    .setting .versionKey, .switch .dryRun, .switch .verbose, .switch .help, .switch .version]

/-- The option of a name. -/
def Flag.ofName? (name : String) : Option Flag :=
  flags.find? fun flag => flag.name = name

/-- The option of a letter. -/
def Flag.ofLetter? (letter : Char) : Option Flag :=
  flags.find? fun flag => flag.letter? = some letter

/-- The option whose name is most similar to a text; of equally similar ones, the last. -/
def Flag.similar? (name : String) : Option Flag :=
  let scored := flags.filterMap fun flag =>
    let score := Text.similarity name.toList flag.name.toList
    if 7 / 10 ≤ score then some (score, flag) else none
  let best := scored.foldl
    (fun best entry =>
      match best with
      | none => some entry
      | some found => if found.1 ≤ entry.1 then some entry else best)
    (none : Option (Rat × Flag))
  best.map (·.2)

/-- Why arguments are refused. -/
inductive Refusal where
  /-- There is no such argument. An option of a similar name may be meant. -/
  | unexpected (argument : String) (similar : Option Flag) (given : List Flag)
  /-- An option is given twice. -/
  | repeated (flag : Flag)
  /-- A setting has no value, or an empty path. -/
  | valueMissing (setting : Setting)
  /-- A switch has a value. -/
  | valueUnwanted (switch : Switch) (value : String) (given : List Flag)
  deriving DecidableEq, Repr

/-- What is asked for. -/
inductive Request where
  | run (options : Options)
  | help
  | version
  | refused (refusal : Refusal)
  deriving DecidableEq, Repr

/-- The arguments read so far. -/
structure Reading where
  options : Options
  /-- The options that were given. -/
  given : List Flag
  /-- The last setting, if it is not applied yet, and its value, if that was read. -/
  pending : Option (Setting × Option String)

namespace Reading

/-- The reading of no arguments. -/
def start : Reading :=
  { options := Options.default, given := [], pending := none }

/-- The reading with an option given. -/
def mark (reading : Reading) (flag : Flag) : Reading :=
  if reading.given.contains flag then reading
  else { reading with given := reading.given ++ [flag] }

/-- The reading with an option taken back. -/
def unmark (reading : Reading) (flag : Flag) : Reading :=
  { reading with given := reading.given.filter (· ≠ flag) }

/-- The options with the value of a setting. -/
def put (options : Options) (value : String) : Setting → Options
  | .root => { options with root := value }
  | .config => { options with config := some value }
  | .parameters => { options with parameters := some value }
  | .manifest => { options with manifest := some value }
  | .versionKey => { options with versionKey := some value }

/-- Applies the last setting. -/
def settle (reading : Reading) : Reading × Option Refusal :=
  match reading.pending with
  | none => (reading, none)
  | some (setting, none) => ({ reading with pending := none }, some (.valueMissing setting))
  | some (setting, some value) =>
    let flag := Flag.setting setting
    let reading := { reading with pending := none }
    if reading.given.contains flag then (reading.unmark flag, some (.repeated flag))
    else if value = "" && setting ≠ .versionKey then
      (reading.mark flag, some (.valueMissing setting))
    else ({ reading.mark flag with options := put reading.options value setting }, none)

/-- Goes on with the last setting applied, unless that is refused. -/
def settled (reading : Reading) (next : Reading → Reading ⊕ Request) : Reading ⊕ Request :=
  match reading.settle with
  | (reading, none) => next reading
  | (_, some refusal) => .inr (.refused refusal)

/-- The reading with a setting that comes with its value or waits for it. -/
def take (reading : Reading) (setting : Setting) (value : Option String) : Reading ⊕ Request :=
  reading.settled fun reading =>
    let reading := { reading with pending := some (setting, value) }
    match value with
    | none => .inl reading
    | some _ => reading.settled .inl

/-- The reading with a switch applied, or the request that the switch makes. -/
def turn (reading : Reading) (switch : Switch) : Reading ⊕ Request :=
  reading.settled fun reading =>
    let flag := Flag.switch switch
    let once (options : Options) : Reading ⊕ Request :=
      if reading.given.contains flag then .inr (.refused (.repeated flag))
      else .inl { reading.mark flag with options }
    match switch with
    | .help => .inr .help
    | .version => .inr .version
    | .dryRun => once { reading.options with dryRun := true }
    | .verbose => once { reading.options with verbose := true }

/-- The request of arguments that were all read. -/
def finish (reading : Reading) : Request :=
  match reading.settle with
  | (reading, none) => .run reading.options
  | (_, some refusal) => .refused refusal

/-- Refuses an argument that there is not. -/
def unexpected (argument : String) : Request :=
  .refused (.unexpected argument none [])

/-- Reads letters behind a hyphen. -/
def readLetters (reading : Reading) : List Char → Reading ⊕ Request
  | [] => .inl reading
  | letter :: rest =>
    match Flag.ofLetter? letter with
    | none => .inr (unexpected (String.ofList ['-', letter]))
    | some (.setting setting) =>
      match rest with
      | [] => reading.take setting none
      | '=' :: value => reading.take setting (some (String.ofList value))
      | value => reading.take setting (some (String.ofList value))
    | some (.switch switch) =>
      match reading.turn switch with
      | .inl reading => reading.readLetters rest
      | .inr request => .inr request

/-- Reads a name behind two hyphens, and its value behind an equals sign. -/
def readNamed (reading : Reading) (text : List Char) : Reading ⊕ Request :=
  let name := String.ofList (text.takeWhile (· ≠ '='))
  let value : Option String :=
    match text.dropWhile (· ≠ '=') with
    | [] => none
    | _ :: value => some (String.ofList value)
  match Flag.ofName? name, value with
  | some (.setting setting), value => reading.take setting value
  | some (.switch switch), none => reading.turn switch
  | some (.switch switch), some value =>
    .inr (.refused (.valueUnwanted switch value (reading.mark (.switch switch)).given))
  | none, _ =>
    let similar := Flag.similar? name
    let marked := similar.toList.foldl Reading.mark reading.settle.1
    .inr (.refused (.unexpected ("--" ++ name) similar marked.given))

/-- Reads one argument. One that is no option may be the value of the last setting. -/
def readArgument (reading : Reading) (argument : String) : Reading ⊕ Request :=
  match argument.toList, reading.pending with
  | '-' :: '-' :: text, _ => reading.readNamed text
  | '-' :: letter :: letters, _ => reading.readLetters (letter :: letters)
  | _, some (setting, none) => .inl { reading with pending := some (setting, some argument) }
  | _, _ => .inr (unexpected argument)

/-- Reads arguments. No argument may follow two hyphens. -/
def readArguments : Reading → List String → Request
  | reading, [] => reading.finish
  | reading, "--" :: [] => reading.finish
  | _, "--" :: argument :: _ => unexpected argument
  | reading, argument :: more =>
    match reading.readArgument argument with
    | .inl reading => reading.readArguments more
    | .inr request => request

end Reading

/-- What arguments ask for. -/
def Request.ofArguments (arguments : List String) : Request :=
  Reading.start.readArguments arguments

end ManifestPin.CommandLine
