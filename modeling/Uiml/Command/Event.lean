import Uiml.Command.Error
import Uiml.Registry
import Uiml.Widget.Canvas

/-!
# Events

An event on an element hands the calls that the element declares for it to the application, in the
order of their declaration, each with the arguments of the event after its own parameters.
-/

namespace Uiml

/-- A declared call handed to the application. -/
structure Invocation where
  element : String
  event : String
  command : String
  /-- The declared parameters, then the arguments of the event. -/
  args : List String
  deriving DecidableEq, Repr, Inhabited

namespace Event

/-- The event that a spelling means: without blanks around it, without an `on` before an upper-case
letter of ASCII, and in lower case. -/
def canonical (spelling : String) : String :=
  let name := Text.trimChars spelling.toList
  let bare :=
    match name with
    | 'o' :: 'n' :: c :: rest => if c.isUpper then c :: rest else name
    | _ => name
  Text.lowercase (String.ofList bare)

/-- The calls that an event on an element hands on, if there is someone listening. -/
def dispatch (listening : Bool) (registry : Registry) (widgets : Array Handle)
    (element spelling : String) (args : List String) : Except CommandError (List Invocation) := do
  let some id := registry.get? element | .error (.unknownElement element)
  let some h := widgets[id.index]? | .error (.unknownElement element)
  let event := canonical spelling
  match h.handlers.filter fun handler => handler.event = event with
  | [] => .error (.noHandlers element event)
  | matching =>
    if listening then
      .ok (matching.map fun handler =>
        ⟨element, handler.event, handler.command, handler.params ++ args⟩)
    else .error .noExternalHandler

/-- What is said when a call is handed on. -/
def announce (call : Invocation) : Logged Unit :=
  let shown := ", ".intercalate call.args
  Logged.say .debug .commands s!"event {call.event} → {call.command}({shown})"

/-- Hands on the calls of an event, and warns if there are none to be handed on. -/
def invoke (listening : Bool) (registry : Registry) (widgets : Array Handle)
    (element spelling : String) (args : List String) :
    Logged (Except CommandError (List Invocation)) :=
  match dispatch listening registry widgets element spelling args with
  | .ok calls => do
    calls.forM announce
    pure (.ok calls)
  | .error e => do
    Logged.say .warn .commands s!"event '{spelling}' on '{element}': {e.message}"
    pure (.error e)

end Event

end Uiml
