import ManifestPin.CommandLine.Filter
import ManifestPin.CommandLine.Options
import ManifestPin.Sync.Outcome

/-! # Reports

What the command line shows: log lines, the outcome of a run, and its own description. -/

namespace ManifestPin.CommandLine

/-- How a word is set off from others where styles are shown. -/
inductive Style where
  | boldGreen
  | boldYellow
  | boldRed
  | green
  | cyan
  | yellow
  | bold
  | boldUnderlined
  | boldAndRed
  deriving DecidableEq, Repr

/-- What a terminal needs in front of a word in a style. -/
def Style.opening : Style → String
  | .boldGreen => "\x1b[1;32m"
  | .boldYellow => "\x1b[1;33m"
  | .boldRed => "\x1b[1;31m"
  | .green => "\x1b[32m"
  | .cyan => "\x1b[36m"
  | .yellow => "\x1b[33m"
  | .bold => "\x1b[1m"
  | .boldUnderlined => "\x1b[1m\x1b[4m"
  | .boldAndRed => "\x1b[1m\x1b[31m"

/-- A word in a style, if styles are shown. -/
def Style.apply (style : Style) (styled : Bool) (word : String) : String :=
  if styled then style.opening ++ word ++ "\x1b[0m" else word

/-- The name of a level, filled up to the width of the longest one. -/
def paddedLevel (level : Level) : String :=
  String.ofList (List.replicate (5 - level.name.length) ' ') ++ level.name

/-- The line that shows an event. -/
def logLine (time : String) (withTarget : Bool) (event : Event) : String :=
  let fields := event.fields.map fun (name, value) => " " ++ name ++ "=" ++ value.shown
  time ++ " " ++ paddedLevel event.level ++ " " ++
    (if withTarget then event.target ++ ": " else "") ++ event.message ++
    String.join fields ++ "\n"

/-- The lines that show an outcome. -/
def outcomeText (styled : Bool) : Outcome → String
  | .updated pinned current hash =>
    Style.boldGreen.apply styled "updated" ++ " " ++ pinned ++ " -> " ++
      Style.cyan.apply styled current ++ "\n  sha256 = " ++ hash ++ "\n"
  | .planned pinned current =>
    Style.boldYellow.apply styled "needs update" ++ " " ++ pinned ++ " -> " ++
      Style.cyan.apply styled current ++ "\n"
  | .notNeeded version => Style.green.apply styled "up to date" ++ " " ++ version ++ "\n"

/-- The line that shows a failure. -/
def failureText (styled : Bool) (failure : Failure) : String :=
  Style.boldRed.apply styled "error" ++ ": " ++ failure.message ++ "\n"

/-- The name of the program. -/
def programName : String :=
  "pin-sync"

/-- The line that shows the program's version. -/
def versionText : String :=
  programName ++ " 0.1.0\n"

/-- What an option is for. -/
def Flag.description : Flag → String
  | .setting .root =>
    "Repository root; relative paths and the build command resolve here [default: .]"
  | .setting .config => "Configuration file (defaults to <root>/pin-sync.toml when present)"
  | .setting .parameters => "Parameter file declaring the compiler version"
  | .setting .manifest => "Packaging manifest to update"
  | .setting .versionKey => "Key of the version declaration in the parameter file"
  | .switch .dryRun => "Report whether an update is needed without modifying the manifest"
  | .switch .verbose => "Enable verbose output"
  | .switch .help => "Print help"
  | .switch .version => "Print version"

/-- An option and its value as descriptions show them. -/
def Flag.shown (styled : Bool) (flag : Flag) : String :=
  Style.bold.apply styled ("--" ++ flag.name) ++
    (flag.names.2.map fun value => " <" ++ value ++ ">").getD ""

/-- How wide an option is in front of its description. -/
def Flag.width (flag : Flag) : Nat :=
  "  -x, ".length + (flag.shown false).length

/-- The column in which the descriptions of options start, two blanks behind the widest option. -/
def descriptionColumn : Nat :=
  (flags.map Flag.width).foldl max 0 + 2

/-- The line that describes an option. -/
def Flag.line (styled : Bool) (flag : Flag) : String :=
  let letter :=
    match flag.letter? with
    | some letter => Style.bold.apply styled ("-" ++ String.singleton letter) ++ ", "
    | none => "    "
  "  " ++ letter ++ flag.shown styled ++
    String.ofList (List.replicate (descriptionColumn - flag.width) ' ') ++ flag.description ++ "\n"

/-- How the program is called: with options, or with those that were given. -/
def usageText (styled : Bool) (given : List Flag) : String :=
  let arguments := if given.isEmpty then ["[OPTIONS]"] else given.map (Flag.shown styled)
  " ".intercalate
    (Style.boldUnderlined.apply styled "Usage:" :: Style.bold.apply styled programName :: arguments)

/-- The program's description. -/
def helpText (styled : Bool) : String :=
  "Command-line interface for pin-sync\n\n" ++ usageText styled [] ++ "\n\n" ++
    Style.boldUnderlined.apply styled "Options:" ++ "\n" ++
    String.join (flags.map (Flag.line styled))

/-- What is wrong with refused arguments, and how the program is called instead, if that helps. -/
def Refusal.explain (styled : Bool) (refusal : Refusal) : String × Option String :=
  let mark (text : String) : String := "'" ++ Style.yellow.apply styled text ++ "'"
  match refusal with
  | .unexpected argument similar given =>
    let tip (flag : Flag) : String :=
      "\n\n  " ++ Style.green.apply styled "tip:" ++ " a similar argument exists: '" ++
        Style.green.apply styled ("--" ++ flag.name) ++ "'"
    ("unexpected argument " ++ mark argument ++ " found" ++ (similar.map tip).getD "",
      some (usageText styled given))
  | .repeated flag =>
    ("the argument " ++ mark (flag.shown false) ++ " cannot be used multiple times",
      some (usageText styled []))
  | .valueMissing setting =>
    ("a value is required for " ++ mark ((Flag.setting setting).shown false) ++
      " but none was supplied", none)
  | .valueUnwanted switch value given =>
    ("unexpected value " ++ mark value ++ " for '" ++
      Style.bold.apply styled ((Flag.switch switch).shown false) ++
      "' found; no more were expected", some (usageText styled given))

/-- The lines that refuse arguments. -/
def refusalText (styled : Bool) (refusal : Refusal) : String :=
  let (fault, usage) := refusal.explain styled
  Style.boldAndRed.apply styled "error:" ++ " " ++ fault ++ "\n\n" ++
    (usage.map fun usage => usage ++ "\n\n").getD "" ++
    "For more information, try '" ++ Style.bold.apply styled "--help" ++ "'.\n"

end ManifestPin.CommandLine
