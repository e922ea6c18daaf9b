import Uiml.Attribute.Value
import Uiml.Command.Error
import Uiml.Log
import Uiml.Scene.Style
import Uiml.Text.Quoted

/-!
# Commands and their arguments

The commands have names, in any case of their letters, and arguments that are given as texts. A
name and its arguments are read into an action before anything is done, so that a command that
cannot be read has changed nothing.

## Main definitions

* `Command` — the commands, with their names
* `Arguments` — the texts given to a command, read by position
* `Action`, `Action.read` — what a command is to do
-/

namespace Uiml

/-- The commands. -/
inductive Command where
  | show
  | hide
  | toggle
  | fadeIn
  | fadeOut
  | fade
  | moveTo
  | moveToOriginal
  | restorePosition
  | scale
  | slideOffScreen
  | bounce
  | setAlpha
  | setInteractable
  | setText
  | restoreState
  deriving DecidableEq, Repr

namespace Command

/-- The names of the commands in lower case. -/
def names : List (String × Command) :=
  [("show", .show), ("hide", .hide), ("toggle", .toggle), ("fadein", .fadeIn),
    ("fadeout", .fadeOut), ("fade", .fade), ("moveto", .moveTo),
    ("movetooriginal", .moveToOriginal), ("restoretooriginalposition", .restorePosition),
    ("scale", .scale), ("slideoffscreen", .slideOffScreen), ("bounce", .bounce),
    ("setalpha", .setAlpha), ("setinteractable", .setInteractable), ("settext", .setText),
    ("restoretooriginalstate", .restoreState)]

/-- The command of a name; blanks around it and the case of its ASCII letters do not matter. -/
def ofName? (name : String) : Option Command := Text.lookup? names (Text.trim name)

end Command

/-- The side to which an element leaves the screen. -/
inductive SlideDirection where
  | left
  | right
  | up
  | down
  deriving DecidableEq, Repr, Inhabited

namespace SlideDirection

/-- How the value is shown. -/
def label : SlideDirection → String
  | .left => "Left"
  | .right => "Right"
  | .up => "Up"
  | .down => "Down"

instance : Keyword SlideDirection where
  what := "slide direction"
  words := [("left", .left), ("right", .right), ("up", .up), ("down", .down)]
  label := label

end SlideDirection

/-- The texts given to a command. -/
structure Arguments where
  /-- The name of the command as it was given. -/
  command : String
  texts : List String
  /-- The duration of a command that may do without saying so. -/
  defaultDuration : Float32

namespace Arguments

/-- The argument at an index without the blanks around it. -/
def get? (args : Arguments) (index : Nat) : Option String := args.texts[index]?.map Text.trim

/-- The argument at an index as a value, given how a value is read. -/
def read {α : Type} (args : Arguments) (index : Nat) (what : String) (parse : String → Option α) :
    Except CommandError α :=
  match args.get? index with
  | none => .error (.missingArgument args.command index what)
  | some text =>
    match parse text with
    | some value => .ok value
    | none => .error (.invalidArgument args.command text what)

/-- The argument at an index as a finite number. -/
def float (args : Arguments) (index : Nat) (what : String) : Except CommandError Float32 :=
  args.read index what fun text => (Attribute.readTrimmedFloat text).filter Float32.isFinite

/-- The first argument as a duration. -/
def duration (args : Arguments) : Except CommandError Float32 := args.float 0 "duration"

/-- The first argument as a duration; missing or blank it is the default one. -/
def durationOrDefault (args : Arguments) : Except CommandError Float32 :=
  match args.get? 0 with
  | none | some "" => .ok args.defaultDuration
  | some _ => args.duration

/-- The argument at an index as a truth value. -/
def boolean (args : Arguments) (index : Nat) (what : String) : Except CommandError Bool :=
  args.read index what Attribute.readBool

end Arguments

/-- What a command is to do to its element, its arguments being read. -/
inductive Action where
  | show (duration : Float32)
  | hide (duration : Float32)
  | toggle (duration : Float32)
  | fade (alpha duration : Float32)
  | moveTo (position : Vec2) (duration : Float32)
  | moveHome (duration : Float32)
  | scale (factor duration : Float32)
  | slide (direction : SlideDirection) (duration : Float32)
  | bounce (duration : Float32)
  | setAlpha (alpha : Float32)
  | setInteractable (interactable : Bool)
  | setText (text : String)
  | restore
  deriving DecidableEq

namespace Action

/-- The direction of a slide: to the left if it is missing, or no direction. -/
def readDirection (args : Arguments) : Logged SlideDirection :=
  match args.get? 1 with
  | none => pure .left
  | some text =>
    match Keyword.read? text with
    | some direction => pure direction
    | none => do
      Logged.say .debug .commands s!"unknown slide direction {Text.quote text}, using left"
      pure .left

/-- Reads the arguments of a command. -/
def read (command : Command) (args : Arguments) : Except CommandError (Logged Action) :=
  match command with
  | .show => do return pure (.show (← args.duration))
  | .hide => do return pure (.hide (← args.duration))
  | .toggle => do return pure (.toggle (← args.durationOrDefault))
  | .fadeIn => do return pure (.fade 1 (← args.duration))
  | .fadeOut => do return pure (.fade 0 (← args.duration))
  | .fade => do
    let duration ← args.duration
    return pure (.fade (← args.float 1 "alpha") duration)
  | .moveTo => do
    let duration ← args.duration
    let x ← args.float 1 "x"
    return pure (.moveTo ⟨x, ← args.float 2 "y"⟩ duration)
  | .moveToOriginal => do return pure (.moveHome (← args.duration))
  | .restorePosition => do return pure (.moveHome (← args.durationOrDefault))
  | .scale => do
    let duration ← args.duration
    return pure (.scale (← args.float 1 "scale") duration)
  | .slideOffScreen => do
    let duration ← args.duration
    return (fun direction => .slide direction duration) <$> readDirection args
  | .bounce => do return pure (.bounce (← args.duration))
  | .setAlpha => do return pure (.setAlpha (← args.float 0 "alpha"))
  | .setInteractable => do return pure (.setInteractable (← args.boolean 0 "interactable"))
  | .setText =>
    match args.texts with
    | [] => .error (.missingArgument args.command 0 "text")
    | text :: _ => .ok (pure (.setText text))
  | .restoreState => .ok (pure .restore)

end Action

end Uiml
