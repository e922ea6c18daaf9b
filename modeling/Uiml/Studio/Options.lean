import Uiml.Number.Integer
import Uiml.Text.Trim

/-!
# Options

What the program is asked for on its command line: a document, a script to play on it, and how.

## Main definitions

* `Studio.Options`, `Studio.Options.read` — the options, and their reading
* `Studio.UsageFault` — why a command line cannot be understood
-/

namespace Uiml.Studio

/-- What the program is asked for. -/
structure Options where
  /-- The document to load, in place of the demo. -/
  document : Option String := none
  /-- The script to play. -/
  script : Option String := none
  /-- The file of the settings. -/
  config : Option String := none
  /-- The frames of a second. -/
  rate : Nat := 60
  /-- The filter of the log lines. -/
  log : Option String := none
  /-- Whether the scene is shown before the script is played, too. -/
  dumpInitial : Bool := false
  deriving DecidableEq, Repr, Inhabited

/-- A named option. -/
inductive Flag where
  | script
  | config
  | fps
  | log
  | dumpInitial
  deriving DecidableEq, Repr

namespace Flag

/-- All named options. -/
def all : List Flag := [.script, .config, .fps, .log, .dumpInitial]

/-- How an option is written. -/
def name : Flag → String
  | .script => "--script"
  | .config => "--config"
  | .fps => "--fps"
  | .log => "--log"
  | .dumpInitial => "--dump-initial"

/-- How an option is shown with its value. -/
def usage : Flag → String
  | .script => "--script <SCRIPT>"
  | .config => "--config <CONFIG>"
  | .fps => "--fps <FPS>"
  | .log => "--log <LOG>"
  | .dumpInitial => "--dump-initial"

/-- The option that a word names. -/
def ofWord? (word : String) : Option Flag := all.find? fun flag => flag.name = word

end Flag

/-- What a command line can give. -/
inductive Argument where
  | document
  | option (flag : Flag)
  deriving DecidableEq, Repr

/-- How something that can be given is shown. -/
def Argument.usage : Argument → String
  | .document => "[DOCUMENT]"
  | .option flag => flag.usage

/-- Why a command line cannot be understood. -/
inductive UsageFault where
  /-- A second document. -/
  | extraDocument (arg : String)
  /-- An option that there is not, after what has been given. -/
  | unknownOption (name : String) (given : List Argument)
  | missingValue (argument : Argument)
  | repeated (flag : Flag)
  /-- A value for an option that takes none, after what has been given. -/
  | unwantedValue (value : String) (flag : Flag) (given : List Argument)
  | rateNumber (value : String) (fault : Integer.Fault)
  | rateRange (value : String) (n : Int)
  deriving DecidableEq, Repr

/-- The largest number of frames of a second. -/
def maxRate : Nat := Integer.largest 32

/-- How the program is called: with anything, or with what has been given. -/
def usageOf (given : List Argument) : String :=
  let options := given.filter (· ≠ .document)
  let document := if given.contains .document then "<DOCUMENT>" else Argument.document.usage
  let words := if given.isEmpty then ["[OPTIONS]"] else options.map Argument.usage
  " ".intercalate (["nabu-studio"] ++ words ++ [document])

namespace UsageFault

/-- What is wrong. -/
def summary : UsageFault → String
  | .extraDocument arg => s!"unexpected argument '{arg}' found"
  | .unknownOption name _ => s!"unexpected argument '{name}' found"
  | .missingValue argument => s!"a value is required for '{argument.usage}' but none was supplied"
  | .repeated flag => s!"the argument '{flag.usage}' cannot be used multiple times"
  | .unwantedValue value flag _ =>
    s!"unexpected value '{value}' for '{flag.usage}' found; no more were expected"
  | .rateNumber value fault => s!"invalid value '{value}' for '{Flag.fps.usage}': {fault.message}"
  | .rateRange value n =>
    s!"invalid value '{value}' for '{Flag.fps.usage}': {n} is not in 0..={maxRate}"

/-- What may have been meant. -/
def tip? : UsageFault → Option String
  | .unknownOption name _ => some s!"to pass '{name}' as a value, use '-- {name}'"
  | _ => none

/-- How the program is called, if a fault is about that. -/
def usage? : UsageFault → Option String
  | .extraDocument _ | .repeated _ => some (usageOf [])
  | .unknownOption _ given => some (usageOf given)
  | .unwantedValue _ flag given =>
    some (usageOf (given.filter (· ≠ .option flag) ++ [.option flag]))
  | _ => none

/-- The message about a fault. -/
def message (fault : UsageFault) : String :=
  let parts :=
    ["error: " ++ fault.summary] ++ (fault.tip?.map ("  tip: " ++ ·)).toList ++
      (fault.usage?.map ("Usage: " ++ ·)).toList ++ ["For more information, try '--help'.\n"]
  "\n\n".intercalate parts

end UsageFault

namespace Options

/-- Reads a number of frames of a second. -/
def readRate (value : String) : Except UsageFault Nat := do
  let n ← (Integer.readInt (Integer.largest 63) value.toList).mapError (.rateNumber value)
  if 0 ≤ n ∧ n ≤ maxRate then .ok n.toNat else .error (.rateRange value n)

/-- The options with a value, where a path has to have a name. -/
def withValue (options : Options) (argument : Argument) (value : String) :
    Except UsageFault Options :=
  let path (options : Options) : Except UsageFault Options :=
    if value = "" then .error (.missingValue argument) else .ok options
  match argument with
  | .document => path { options with document := some value }
  | .option .script => path { options with script := some value }
  | .option .config => path { options with config := some value }
  | .option .log => .ok { options with log := some value }
  | .option .fps => (readRate value).map fun rate => { options with rate }
  | .option .dumpInitial => .ok { options with dumpInitial := true }

end Options

/-- A command line that is read as far as some argument. -/
structure Progress where
  options : Options := {}
  /-- What has been given. -/
  given : List Argument := []
  /-- What is given next, with its value as far as it has come. -/
  pending : Option (Argument × Option String) := none
  /-- Whether there has been a document. -/
  hasDocument : Bool := false
  /-- Whether no option follows. -/
  isPlain : Bool := false
  deriving DecidableEq, Repr, Inhabited

namespace Progress

/-- Takes a value. -/
def accept (state : Progress) (argument : Argument) (value : String) :
    Except UsageFault Progress := do
  match argument with
  | .option flag => if state.given.contains argument then throw (.repeated flag)
  | .document => pure ()
  let options ← state.options.withValue argument value
  return { state with options, given := state.given ++ [argument] }

/-- Takes what is pending. Only then its value is looked at. -/
def settle (state : Progress) : Except UsageFault Progress :=
  let settled := { state with pending := none }
  match state.pending with
  | none => .ok settled
  | some (argument, none) => .error (.missingValue argument)
  | some (argument, some value) => settled.accept argument value

/-- Reads a word with two dashes, and the value after an equals sign in it. -/
def takeOption (state : Progress) (word : String) (value : Option String) :
    Except UsageFault Progress := do
  match Flag.ofWord? word, value with
  | none, _ => throw (.unknownOption word state.given)
  | some .dumpInitial, some value => throw (.unwantedValue value .dumpInitial state.given)
  | some .dumpInitial, none => (← state.settle).accept (.option .dumpInitial) ""
  | some flag, some value => (← state.settle).accept (.option flag) value
  | some flag, none => return { (← state.settle) with pending := some (.option flag, none) }

/-- Reads a word that is no option. -/
def takePlain (state : Progress) (arg : String) : Except UsageFault Progress := do
  match state.isPlain, state.pending with
  | false, some (argument, none) => return { state with pending := some (argument, some arg) }
  | _, _ =>
    if state.hasDocument then throw (.extraDocument arg)
    else
      return { (← state.settle) with pending := some (.document, some arg), hasDocument := true }

/-- Reads an argument. Two dashes alone say that no option follows. -/
def take (state : Progress) (arg : String) : Except UsageFault Progress :=
  match state.isPlain, arg.toList with
  | false, ['-', '-'] => .ok { state with isPlain := true }
  | false, '-' :: '-' :: _ =>
    match Text.cutAt? (· == '=') arg.toList with
    | some (word, value) => state.takeOption (String.ofList word) (some (String.ofList value))
    | none => state.takeOption arg none
  | false, '-' :: c :: _ => .error (.unknownOption (String.ofList ['-', c]) [])
  | _, _ => state.takePlain arg

end Progress

/-- Reads a command line, on which each option may be given once. -/
def Options.read (args : List String) : Except UsageFault Options := do
  let state ← args.foldlM Progress.take {}
  return (← state.settle).options

end Uiml.Studio
