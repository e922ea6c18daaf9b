import Uiml.Script.Instruction
import Uiml.Widget.EventHandler

/-!
# Reading scripts

A script has one instruction a line. The first word tells which, and a line that starts with none
of the known words is a call `element.command(args)`. Blank lines and comments are passed over.

## Main definitions

* `Script.stripComment` — a line without its comment
* `Script.readLine` — the instruction on a line
* `Script.parse` — the instructions of a script, in the order of its lines
-/

namespace Uiml.Script

/-! ### Comments -/

/-- Whether the characters after a mark keep it apart: there are none, or an ASCII blank comes
first. -/
def startsApart : List Char → Bool
  | [] => true
  | c :: _ => Text.isAsciiBlank c

/-- What stands before the first `#` that has an ASCII blank before it and an ASCII blank or nothing
after it. The flag tells whether such a blank stands before the characters. -/
def beforeMark (afterBlank : Bool) : List Char → List Char
  | [] => []
  | c :: rest =>
    if c = '#' && afterBlank && startsApart rest then []
    else c :: beforeMark (Text.isAsciiBlank c) rest

/-- A line without the blanks at its start and without its comment. A comment starts at a `#` that
the line starts with, or that stands between blanks. -/
def stripComment (line : List Char) : List Char :=
  match Text.dropBlanks line with
  | '#' :: _ => []
  | cs => beforeMark false cs

/-! ### The parts of a line -/

/-- The largest number that names a slot. -/
def maxSlot : Nat := Integer.largest 64

/-- Reads a number. -/
def readNumber (s : String) : Except Fault Float32 :=
  (Decimal.readSingle s).mapError (.number s)

/-- Reads the number of a slot. -/
def readSlot (s : String) : Except Fault Nat :=
  (Integer.readNat 10 maxSlot s.toList).mapError .slot

/-- Takes the first of the words that are left. -/
def takeWord (part : Part) : List String → Except Fault (String × List String)
  | [] => .error (.missing part)
  | word :: words => .ok (word, words)

/-! ### The forms of a line -/

/-- Reads a slot and its text. -/
def readText (s : String) : Except Fault Instruction := do
  let (slot, text) := Text.cut Text.isBlank s
  return .text (← readSlot slot) (Text.trim text)

/-- Reads a slot, a kind of source, and a source of at least one word. -/
def readImage (words : List String) : Except Fault Instruction := do
  let (slot, words) ← takeWord .slot words
  let slot ← readSlot slot
  let (kindName, words) ← takeWord .sourceKind words
  match Keyword.read? kindName with
  | none => .error (.unknownSourceKind kindName)
  | some kind =>
    if words.isEmpty then .error (.missing .source)
    else .ok (.image slot kind (" ".intercalate words))

/-- Reads an element, an event and its arguments. -/
def readEvent (words : List String) : Except Fault Instruction := do
  let (element, words) ← takeWord .element words
  let (event, args) ← takeWord .eventType words
  return .event element event args

/-- Reads an element and a number; only a following word `animate` counts. -/
def readProgress (words : List String) : Except Fault Instruction := do
  let (element, words) ← takeWord .element words
  let value ← readNumber (words.headD "")
  return .progress element value (words[1]? == some "animate")

/-- Reads an element, a dot and a single call. -/
def readCommand (line : String) : ExceptT Fault Logged Instruction := do
  match Text.cutAt? (· == '.') line.toList with
  | none => throw .noCall
  | some (element, call) =>
    match ← EventHandler.readList "script" (String.ofList call) with
    | [handler] =>
      return .command (Text.trim (String.ofList element)) handler.command handler.params
    | _ => throw .notOneCall

/-- Reads a line without blanks at its ends and without a comment. -/
def readLine (line : String) : ExceptT Fault Logged Instruction :=
  let (head, rest) := Text.cut Text.isBlank line
  let rest := Text.trim rest
  match head with
  | "wait" => liftExcept ((readNumber rest).map .wait)
  | "text" => liftExcept (readText rest)
  | "image" => liftExcept (readImage (Text.words rest))
  | "event" => liftExcept (readEvent (Text.words rest))
  | "progress" => liftExcept (readProgress (Text.words rest))
  | _ => readCommand line

/-! ### Scripts -/

/-- The lines of a script with their numbers, from 1 on. -/
def numberedLines (source : String) : List (List Char × Nat) :=
  (source.toList.splitOn '\n').zipIdx 1

/-- The instruction on a line of a script, if there is any. -/
def readNumbered (line : List Char × Nat) : ExceptT Error Logged (Option Instruction) :=
  match Text.trimChars (stripComment line.1) with
  | [] => return none
  | cs =>
    (some <$> readLine (String.ofList cs)).adapt fun fault =>
      ⟨line.2, String.ofList (Text.trimChars line.1), fault⟩

/-- The instructions of a script. -/
def parse (source : String) : ExceptT Error Logged (List Instruction) := do
  return (← (numberedLines source).mapM readNumbered).reduceOption

end Uiml.Script
