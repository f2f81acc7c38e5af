import ManifestPin.Shell.Opening
import ManifestPin.Shell.Process

/-! # Redirecting

The descriptors of a command are changed one after the other before it runs, and are as before once
it has run. -/

namespace ManifestPin.Shell

namespace Interpreter

/-- What expansion needs from the interpreter. -/
def powers (interpreter : Interpreter) : Powers :=
  { capture := interpreter.capture }

/-- Expands what a redirection names, and gives what opens it. -/
def prepareTarget (interpreter : Interpreter) (parts : List Part) (act : String → Run Unit) :
    Run (Run Unit) := do
  if ← Run.isExtended then
    match ← interpreter.powers.fields .start parts with
    | [path] => return act path
    | _ => return Run.fail (String.join (parts.map Part.written) ++ ": ambiguous redirect") 1
  else
    return act (← interpreter.powers.text .start parts)

/-- Expands a redirection, and gives what changes the descriptor. -/
def prepare (interpreter : Interpreter) : Redirection → Run (Run Unit)
  | .file descriptor mode parts => interpreter.prepareTarget parts (Run.openFile descriptor mode)
  | .copy descriptor writes parts => do
    let extended ← Run.isExtended
    interpreter.prepareTarget parts fun text => do
      let isPlain := isNumeral text || text = "-" || text.endsWith "-"
      if extended && writes && descriptor = 1 && !isPlain then
        Run.openFile 1 .write text
        Run.copyDescriptor 2 "1"
      else Run.copyDescriptor descriptor text
  | .document descriptor index => do
    let parts := ((← get).documents[index]?).getD []
    let text ← interpreter.powers.text .nowhere parts
    return Run.openText descriptor text
  | .word descriptor parts => do
    let text ← interpreter.powers.text .start parts
    return Run.openText descriptor (text ++ "\n")

/-- Changes descriptors one after the other, and tells whether that went well. A fault leaves the
status behind, and the later descriptors as they are. -/
def redirectAll (interpreter : Interpreter) (redirections : List Redirection) : Run Bool := do
  let changes ← redirections.mapM interpreter.prepare
  let result ← Run.attempt (changes.forM id)
  match result with
  | .ok () => return true
  | .error .fault => return false
  | .error stop => throw stop

/-- Does something and lets the descriptors be as they were. -/
def keepingDescriptors (action : Run α) : Run α := do
  let machine ← get
  let result ← Run.attempt action
  modify fun after => { after with descriptors := machine.descriptors }
  match result with
  | .ok value => return value
  | .error stop => throw stop

/-- Runs something with other descriptors. A fault of a redirection ends the command alone. -/
def redirected (interpreter : Interpreter) (redirections : List Redirection) (body : Run Unit) :
    Run Unit :=
  keepingDescriptors (do
    if ← interpreter.redirectAll redirections then body)

end Interpreter

end ManifestPin.Shell
