import ManifestPin.CommandLine.Options
import ManifestPin.CommandLine.Report
import ManifestPin.Config.Load
import ManifestPin.Sync.Configured

/-! # The program

One call of the program: its arguments, its environment and the files decide what it prints, what
it does to the files, and its exit code. -/

namespace ManifestPin.CommandLine

/-- What a call finds around it. -/
structure Environment where
  /-- The directives that select events, if any are set. -/
  directives : Option String
  /-- Whether words are set off by styles. -/
  styled : Bool
  /-- What log lines start with. -/
  time : String
  /-- The number of the process, which tells its temporary files from those of others. -/
  tag : String
  /-- How programs are run. -/
  launcher : Launcher
  /-- Whether the output takes what is printed. -/
  printable : Bool

/-- What a call came to. -/
structure Call where
  /-- The files. -/
  tree : Tree
  /-- The exit code. -/
  exitCode : Nat
  /-- What was printed. -/
  output : String
  /-- What was printed to the error stream. -/
  diagnostics : String

/-- The exit code of every failure. -/
def failureCode : Nat :=
  2

/-- The exit code of a call that cannot print its outcome. -/
def unprintedCode : Nat :=
  101

/-- The configuration with the settings that options give. -/
def Options.override (options : Options) (config : Config) : Config :=
  { config with
    parameters := options.parameters.getD config.parameters
    manifest := options.manifest.getD config.manifest
    versionKey := options.versionKey.getD config.versionKey }

/-- The configuration that options ask for. -/
def Options.loadConfig (options : Options) (tree : Tree) : List Event × Except Failure Config :=
  let (events, loaded) :=
    match options.config with
    | some path => ([], Config.load tree path)
    | none => Config.discover tree options.root
  (events, loaded.map options.override)

/-- What a run under options came to. -/
structure Execution where
  /-- The files. -/
  tree : Tree
  /-- What happened. -/
  events : List Event
  /-- The outcome, unless something failed. -/
  result : Except Failure Outcome

/-- Runs under options, or only looks whether a run is needed. -/
def Options.execute (options : Options) (launcher : Launcher) (tag : String) (tree : Tree) :
    Execution :=
  match options.loadConfig tree with
  | (events, .error failure) => { tree, events, result := .error failure }
  | (events, .ok config) =>
    let events := events ++ [.configResolved config options.root]
    let sync := Sync.ofConfig config options.root launcher tag
    if options.dryRun then
      let (more, result) := sync.check tree
      { tree, events := events ++ more, result }
    else
      let run := sync.run tree
      { tree := run.tree, events := events ++ run.events, result := sync.runResult tree }

/-- The filter of events: the one that is set if it can be read, else one by verbosity. -/
def Environment.filter (environment : Environment) (verbose : Bool) : Filter :=
  (environment.directives.bind Filter.parse?).getD
    (Filter.upTo (if verbose then Level.debug.rank else Level.warn.rank))

/-- The log lines of events. -/
def Environment.logText (environment : Environment) (verbose : Bool) (events : List Event) :
    String :=
  let shown := events.filter (environment.filter verbose).shows
  String.join (shown.map (logLine environment.time verbose))

/-- Answers a request. What was done is not undone when the outcome cannot be printed. -/
def Environment.answer (environment : Environment) (request : Request) (tree : Tree) : Call :=
  match request with
  | .help =>
    { tree, exitCode := 0, output := helpText environment.styled, diagnostics := "" }
  | .version => { tree, exitCode := 0, output := versionText, diagnostics := "" }
  | .refused refusal =>
    { tree
      exitCode := failureCode
      output := ""
      diagnostics := refusalText environment.styled refusal }
  | .run options =>
    let execution := options.execute environment.launcher environment.tag tree
    let log := environment.logText options.verbose execution.events
    match execution.result with
    | .ok outcome =>
      if environment.printable then
        { tree := execution.tree
          exitCode := outcome.exitCode
          output := outcomeText environment.styled outcome
          diagnostics := log }
      else { tree := execution.tree, exitCode := unprintedCode, output := "", diagnostics := log }
    | .error failure =>
      { tree := execution.tree
        exitCode := failureCode
        output := ""
        diagnostics := log ++ failureText environment.styled failure }

/-- One call of the program. -/
def call (environment : Environment) (arguments : List String) (tree : Tree) : Call :=
  environment.answer (Request.ofArguments arguments) tree

end ManifestPin.CommandLine
