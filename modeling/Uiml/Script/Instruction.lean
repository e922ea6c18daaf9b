import Uiml.Asset.Fetch
import Uiml.Number.Decimal
import Uiml.Number.Integer
import Uiml.Text.Quoted

/-!
# Script instructions

What the lines of a script ask for, and why a line asks for nothing that can be done.

## Main definitions

* `Instruction` — one thing to do
* `Script.Fault`, `Script.Error` — what is wrong with a line, and which line it is
-/

namespace Uiml

/-- One thing to do. -/
inductive Instruction where
  /-- Lets time pass. -/
  | wait (seconds : Float32)
  /-- Does a command to an element. -/
  | command (element command : String) (args : List String)
  /-- Gives a slot a text. -/
  | text (slot : Nat) (text : String)
  /-- Requests a picture for a slot. -/
  | image (slot : Nat) (kind : SourceKind) (source : String)
  /-- Hands on an event. -/
  | event (element event : String) (args : List String)
  /-- Moves a progress bar. -/
  | progress (element : String) (value : Float32) (animate : Bool)
  deriving DecidableEq

namespace Script

/-- A part of a line. -/
inductive Part where
  | slot
  | sourceKind
  | source
  | element
  | eventType
  deriving DecidableEq, Repr

/-- How messages speak of a part. -/
def Part.label : Part → String
  | .slot => "slot"
  | .sourceKind => "source kind"
  | .source => "source"
  | .element => "element"
  | .eventType => "event type"

/-- Why a line is no instruction. -/
inductive Fault where
  | number (text : String) (fault : Decimal.Fault)
  | slot (fault : Integer.Fault)
  | missing (part : Part)
  | unknownSourceKind (word : String)
  /-- The line starts with no known word and has no dot between an element and a command. -/
  | noCall
  /-- What follows the dot is not a single call. -/
  | notOneCall
  deriving DecidableEq, Repr

/-- The wording of a fault, each text being explained by the next. -/
def Fault.chain : Fault → List String
  | .number text fault => [Text.quote text ++ " is not a number", fault.message]
  | .slot fault => ["slot index", fault.message]
  | .missing part => ["missing " ++ part.label]
  | .unknownSourceKind word => ["unknown source kind " ++ Text.quote word]
  | .noCall => ["expected element.command(args)"]
  | .notOneCall => ["expected exactly one command call"]

/-- A line that is no instruction. -/
structure Error where
  /-- The number of the line, from 1 on. -/
  line : Nat
  /-- The line without the blanks at its ends. -/
  text : String
  fault : Fault
  deriving DecidableEq, Repr

namespace Error

/-- The wording of an error, each text being explained by the next. -/
def chain (e : Error) : List String :=
  s!"script line {e.line}: {Text.quote e.text}" :: e.fault.chain

/-- The wording of an error in one text. -/
def message (e : Error) : String := ": ".intercalate e.chain

end Error

end Script

end Uiml
