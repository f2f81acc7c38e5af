import ManifestPin.Failure
import ManifestPin.Files.Replace

/-! # Events

What a run tells its observers on the way, each event with its level, its source, its message and
its fields. -/

namespace ManifestPin

/-- How urgent an event is, from the most urgent on. -/
inductive Level where
  | error
  | warn
  | info
  | debug
  | trace
  deriving DecidableEq, Repr

namespace Level

/-- The name of a level. -/
def name : Level → String
  | .error => "ERROR"
  | .warn => "WARN"
  | .info => "INFO"
  | .debug => "DEBUG"
  | .trace => "TRACE"

/-- How many levels are at least as urgent. -/
def rank : Level → Nat
  | .error => 1
  | .warn => 2
  | .info => 3
  | .debug => 4
  | .trace => 5

end Level

/-- The value of a field of an event. -/
inductive FieldValue where
  /-- A text that stands for itself. -/
  | plain (text : String)
  /-- A text that log lines show between quotes. -/
  | quoted (text : String)
  /-- Texts that log lines show between quotes. -/
  | quotedList (texts : List String)
  /-- A configuration. -/
  | config (settings : Config)
  deriving DecidableEq, Repr

namespace FieldValue

/-- The text of a value, without quotes around it. -/
def text : FieldValue → String
  | .plain text => text
  | .quoted text => text
  | .quotedList texts => Text.quoteList texts
  | .config settings => settings.diagnostic

/-- A value as log lines show it. -/
def shown : FieldValue → String
  | .quoted text => Text.quote text
  | value => value.text

end FieldValue

/-- Something that happens in a run. -/
inductive Event where
  /-- A configuration file is about to be read. -/
  | configFound (path : String)
  /-- The settings of the run are known. -/
  | configResolved (config : Config) (root : String)
  /-- A parameter file declares a version by a token. -/
  | declarationRead (path token version : String)
  /-- The declared version is known. -/
  | currentVersion (version : String)
  /-- The pinned values are known. -/
  | pinRead (pin : Pin)
  /-- The pinned hash is a placeholder. -/
  | placeholderPinned (hash : String)
  /-- The declared version is older than the pinned one. -/
  | downgrade (pinned current : String)
  /-- The manifest pins another version than the declared one. -/
  | updateNeeded (pinned current : String)
  /-- Only the hash has to be found again. -/
  | hashMissing (version : String)
  /-- Nothing has to be done. -/
  | upToDate (version : String)
  /-- A pinned value was replaced in memory. -/
  | fieldReplaced (path : String) (field : Field) (old new : String)
  /-- A build is about to start. -/
  | buildStarted (program : String) (arguments : List String) (directory : String)
  /-- A build that should fail on the placeholder did not. -/
  | buildSucceeded (program : String)
  /-- A build reported a hash. -/
  | hashReported (hash : String)
  /-- The reported hash has another shape than the pinned one. -/
  | shapeChanged (old new : String)
  /-- The manifest is as it was before the run. -/
  | restored (path : String)
  /-- The manifest could not be written back. -/
  | restoreFailed (path : String) (failure : Failure)
  /-- A temporary file could not be removed. -/
  | temporaryLeft (failure : FileFailure)
  deriving DecidableEq, Repr

namespace Event

/-- How urgent an event is. -/
def level : Event → Level
  | .configFound .. | .configResolved .. | .declarationRead .. => .debug
  | .fieldReplaced .. | .buildStarted .. => .debug
  | .currentVersion .. | .pinRead .. | .updateNeeded .. | .hashMissing .. => .info
  | .upToDate .. | .hashReported .. => .info
  | .placeholderPinned .. | .downgrade .. | .buildSucceeded .. | .shapeChanged .. => .warn
  | .restored .. | .temporaryLeft .. => .warn
  | .restoreFailed .. => .error

/-- The part of the program that an event comes from. -/
def target : Event → String
  | .configFound .. => "pin_core::config"
  | .configResolved .. => "pin_sync"
  | .declarationRead .. => "pin_core::source"
  | .fieldReplaced .. => "pin_core::manifest"
  | .buildStarted .. | .buildSucceeded .. | .hashReported .. => "pin_core::discover"
  | .temporaryLeft .. => "pin_core::io"
  | .currentVersion .. | .pinRead .. | .placeholderPinned .. | .downgrade .. => "pin_core::checker"
  | .updateNeeded .. | .hashMissing .. | .upToDate .. => "pin_core::checker"
  | .shapeChanged .. | .restored .. | .restoreFailed .. => "pin_core::checker"

/-- The message of an event. -/
def message : Event → String
  | .configFound .. => "Loading config"
  | .configResolved .. => "Resolved configuration"
  | .declarationRead .. => "Extracted source version"
  | .currentVersion .. => "Current version"
  | .pinRead .. => "Pinned version"
  | .placeholderPinned .. => "Pinned hash is a placeholder"
  | .downgrade .. => "Source version is older than the pinned version"
  | .updateNeeded .. => "Manifest needs update"
  | .hashMissing .. => "Rediscovering hash left as a placeholder"
  | .upToDate .. => "Manifest is up to date"
  | .fieldReplaced .. => "Rewrote manifest field"
  | .buildStarted .. => "Invoking build tool"
  | .buildSucceeded .. => "Build succeeded with a placeholder hash"
  | .hashReported .. => "Discovered real hash"
  | .shapeChanged .. => "Reported hash has a different shape than the pinned hash"
  | .restored .. => "Hash discovery failed; restored original manifest"
  | .restoreFailed .. => "Failed to restore manifest; it still holds a placeholder hash"
  | .temporaryLeft .. => "Failed to remove temp file"

/-- The fields of an event, in order. -/
def fields : Event → List (String × FieldValue)
  | .configFound path => [("path", .plain path)]
  | .configResolved config root => [("config", .config config), ("root", .plain root)]
  | .declarationRead path token version =>
    [("path", .plain path), ("token", .quoted token), ("version", .plain version)]
  | .currentVersion version => [("version", .plain version)]
  | .pinRead pin => [("version", .plain pin.version), ("hash", .plain pin.hash)]
  | .placeholderPinned hash => [("hash", .plain hash)]
  | .downgrade pinned current => [("pinned", .plain pinned), ("current", .plain current)]
  | .updateNeeded pinned current => [("from", .plain pinned), ("to", .plain current)]
  | .hashMissing version => [("version", .plain version)]
  | .upToDate version => [("version", .plain version)]
  | .fieldReplaced path field old new =>
    [("path", .plain path), ("field", .plain field.key), ("old", .quoted old),
      ("new", .quoted new)]
  | .buildStarted program arguments directory =>
    [("program", .plain program), ("args", .quotedList arguments), ("dir", .plain directory)]
  | .buildSucceeded program => [("program", .quoted program)]
  | .hashReported hash => [("hash", .plain hash)]
  | .shapeChanged old new => [("old", .plain old), ("new", .plain new)]
  | .restored path => [("path", .plain path)]
  | .restoreFailed path failure => [("path", .plain path), ("error", .plain failure.message)]
  | .temporaryLeft failure =>
    [("path", .plain failure.path), ("error", .plain failure.fault.message)]

/-- Whether an event reports something wrong. -/
def isWarning (event : Event) : Bool :=
  event.level.rank ≤ Level.warn.rank

end Event

/-- The event of a temporary file that could not be removed. -/
def Replacement.events (replacement : Replacement) : List Event :=
  replacement.leftover.toList.map Event.temporaryLeft

end ManifestPin
