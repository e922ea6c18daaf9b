import Uiml.Config.File
import Uiml.Script.Instruction
import Uiml.Session.Load

/-!
# Failures of the program

Why the program ends without showing a scene. A failure is told in texts, each of which explains
the one before it.

## Main definitions

* `Studio.Failure` — why the program ends
* `Studio.Failure.chain`, `Studio.Failure.report` — how that is told
-/

namespace Uiml

/-- The wording of an error of a configuration file, each text being explained by the next. -/
def Config.FileError.chain (e : Config.FileError) : List String :=
  match e with
  | .unreadable _ fault => [e.message, fault.message]
  | _ => [e.message]

/-- The wording of an error of a load, each text being explained by the next. -/
def LoadError.chain (e : LoadError) : List String :=
  match e with
  | .unreadable _ fault => [e.message, fault.message]
  | _ => [e.message]

namespace Studio

/-- Why the program ends. -/
inductive Failure where
  | config (path : String) (error : Config.FileError)
  /-- The document, or the demo if there is no path, cannot be loaded. -/
  | document (path : Option String) (error : LoadError)
  | scriptFile (path : String) (fault : ReadFault)
  | script (error : Script.Error)
  | breakdown (breakdown : Breakdown)
  deriving DecidableEq

namespace Failure

/-- The wording of a failure, each text being explained by the next. -/
def chain : Failure → List String
  | .config path e => ("loading config " ++ path) :: e.chain
  | .document (some path) e => ("loading " ++ path) :: e.chain
  | .document none e => "loading built-in demo" :: e.chain
  | .scriptFile path fault => ["reading script " ++ path, fault.message]
  | .script e => e.chain
  | .breakdown b => [b.message]

/-- What the program answers to who has called it. -/
def code : Failure → Nat
  | .breakdown _ => 101
  | _ => 1

/-- A text after a label, on the lines of which after the first blanks take the label's place. -/
def labelled (label indent text : String) : String :=
  label ++ ("\n" ++ indent).intercalate (Text.split '\n' text)

/-- The texts that explain a failure, numbered from 0 on if there are several. -/
def causes : List String → List String
  | [cause] => [labelled "    " "    " cause]
  | several => several.zipIdx.map fun (cause, i) =>
    let number := toString i
    let padding := String.ofList (List.replicate (5 - number.length) ' ')
    labelled (padding ++ number ++ ": ") "       " cause

/-- What is written when the program fails. -/
def report (failure : Failure) : String :=
  match failure.chain with
  | [] => ""
  | [summary] => s!"Error: {summary}\n"
  | summary :: rest =>
    s!"Error: {summary}\n\nCaused by:\n" ++ "\n".intercalate (causes rest) ++ "\n"

end Failure

end Studio

end Uiml
