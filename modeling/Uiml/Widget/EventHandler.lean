import Uiml.Log
import Uiml.Markup.Element
import Uiml.Text.Quoted

/-!
# Event handlers

An attribute `onXxx` declares what happens on the event `xxx`: a list of calls, separated by
semicolons, each a command with or without parameters in parentheses. A part that is no call is
passed over with a warning and does not touch its neighbours.

## Main definitions

* `EventHandler` — one declared reaction
* `EventHandler.readCall` — reads one part of a list
* `EventHandler.readList`, `EventHandler.ofElement` — the handlers of an attribute and of an element
-/

namespace Uiml

/-- A declared reaction to an event. -/
structure EventHandler where
  /-- The event, in lower case and without the `on` of its attribute. -/
  event : String
  command : String
  params : List String
  deriving DecidableEq, Repr, Inhabited

namespace EventHandler

/-- Why a part of a list is no call. -/
inductive Fault where
  /-- A parenthesis is opened and the part does not end in one that closes it. -/
  | malformed
  | noCommand
  deriving DecidableEq, Repr

/-- The warning about a part. -/
def Fault.message (event part : String) : Fault → String
  | .malformed => s!"ignoring malformed '{event}' handler {Text.quote part}"
  | .noCommand => s!"ignoring '{event}' handler with no command: {Text.quote part}"

/-- A list without its last element, if that is the given one. -/
def dropLast? (last : Char) (cs : List Char) : Option (List Char) :=
  if cs.getLast? = some last then some cs.dropLast else none

/-- Reads the parameters between parentheses. -/
def readParams (inner : List Char) : List String :=
  if inner.all Text.isBlank then []
  else (inner.splitOn ',').map fun param => String.ofList (Text.trimChars param)

/-- Reads a call from a part without blanks at its ends. -/
def readCall (part : List Char) : Except Fault (String × List String) :=
  let call : Except Fault (List Char × List String) :=
    match Text.cutAt? (· == '(') part with
    | none => .ok (part, [])
    | some (before, after) =>
      match dropLast? ')' after with
      | none => .error .malformed
      | some inner => .ok (Text.trimChars before, readParams inner)
  match call with
  | .error fault => .error fault
  | .ok ([], _) => .error .noCommand
  | .ok (command, params) => .ok (String.ofList command, params)

/-- The parts of a list that are not blank, without the blanks at their ends. -/
def parts (list : String) : List (List Char) :=
  ((list.toList.splitOn ';').map Text.trimChars).filter fun part => !part.isEmpty

/-- The handler of one part, or a warning. -/
def ofPart (event : String) (part : List Char) : Logged (List EventHandler) :=
  match readCall part with
  | .ok (command, params) => pure [⟨event, command, params⟩]
  | .error fault => do
    Logged.say .warn .widgets (fault.message event (String.ofList part))
    pure []

/-- The handlers that a list declares for an event. -/
def readList (event list : String) : Logged (List EventHandler) := do
  return (← (parts list).mapM (ofPart event)).flatten

/-- The event that an attribute's key declares handlers for: what follows `on`, if that starts with
an upper-case letter of ASCII. -/
def eventOfKey? (key : String) : Option String :=
  match key.toList with
  | 'o' :: 'n' :: c :: rest =>
    if c.isUpper then some (Text.lowercase (String.ofList (c :: rest))) else none
  | _ => none

/-- The handlers that an element declares, in the order of its attributes. -/
def ofElement (e : Element) : Logged (List EventHandler) := do
  let lists ← e.attributes.mapM fun a =>
    match eventOfKey? a.key with
    | some event => readList event a.value
    | none => pure []
  return lists.flatten

end EventHandler

end Uiml
