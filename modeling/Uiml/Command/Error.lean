import Uiml.Text.Quoted

/-!
# Failures of commands

Why a command, an event or a change of binding could not be carried out, and the wording of each
reason.
-/

namespace Uiml

/-- Why something asked of an element could not be done. -/
inductive CommandError where
  | unknownElement (name : String)
  | unknownCommand (name : String)
  | missingArgument (command : String) (index : Nat) (what : String)
  | invalidArgument (command value what : String)
  | noTextSurface (element : String)
  | notAProgressBar (element : String)
  | noHandlers (element event : String)
  | noExternalHandler
  | unknownSlot (slot : Nat)
  deriving DecidableEq, Repr

/-- The wording of a failure. -/
def CommandError.message : CommandError → String
  | .unknownElement name => s!"element '{name}' not found"
  | .unknownCommand name => s!"unknown command '{name}'"
  | .missingArgument command index what => s!"'{command}' needs argument #{index} ({what})"
  | .invalidArgument command value what =>
    s!"'{command}' argument {Text.quote value} is not a valid {what}"
  | .noTextSurface element => s!"element '{element}' has no text surface"
  | .notAProgressBar element => s!"element '{element}' is not a progress bar"
  | .noHandlers element event => s!"no '{event}' handlers on element '{element}'"
  | .noExternalHandler => "no external event handler is installed"
  | .unknownSlot slot => s!"resource slot {slot} does not exist"

end Uiml
