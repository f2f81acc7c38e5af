import ManifestPin.Hash
import ManifestPin.Text.Lines

/-! # Build reports

A build that fails on a hash mismatch reports the hash that it got behind the marker `got:`. -/

namespace ManifestPin.Report

/-- The marker in front of the hash that a build got. -/
def marker : List Char :=
  ['g', 'o', 't', ':']

/-- The characters that may stand between the marker and the hash. -/
def isGap (c : Char) : Bool :=
  c = ' ' || c = '\t'

/-- The token that follows a marker at the start of a text on the same line. -/
def tokenAtStart? (text : List Char) : Option (List Char) := do
  let rest ← Text.dropStart? marker text
  match (rest.dropWhile isGap).takeWhile fun c => !Text.isBlank c with
  | [] => none
  | token => some token

/-- The token of the leftmost marker that a token follows. -/
def token? : List Char → Option (List Char)
  | [] => none
  | c :: rest => (tokenAtStart? (c :: rest)).orElse fun _ => token? rest

/-- The hash that build diagnostics report. -/
def hash? (diagnostics : String) : Option String :=
  (token? diagnostics.toList).map fun token => Hash.ofReported (String.ofList token)

/-- How many lines of diagnostics an error shows. -/
def tailLength : Nat :=
  20

/-- The last lines of diagnostics, without the break after the last one. -/
def tail (diagnostics : String) : String :=
  let lines := Text.lines diagnostics.toList
  String.ofList (Text.joinWith ['\n'] (lines.drop (lines.length - tailLength)))

end ManifestPin.Report
