import Uiml.Log
import Uiml.Pattern.Meaning
import Uiml.Text.Trim

/-!
# Log filters

A filter says which log lines are shown. It is written as rules between commas: a level, or the
start of the names of some parts of the system, or both with an equals sign between them. Of the
rules about a part the one with the longest start counts, and of those the last. After a slash
follows a pattern of which all shown lines hold a run.

## Main definitions

* `Log.Filter`, `Log.Filter.shows` — filters, and what they let through
* `Log.Filter.parse` — reads a filter, with what is wrong in it
* `Log.Line.render` — how a line is shown
-/

namespace Uiml.Log

/-- What is shown of some parts of the system. -/
structure Rule where
  /-- The start of the names of the parts; without one the rule is about all of them. -/
  lead : Option String
  /-- The least grave level that is shown, if any is. -/
  least : Option Level
  deriving DecidableEq, Repr

namespace Rule

/-- Whether a rule is about a part of the system. -/
def concerns (rule : Rule) (target : Target) : Bool :=
  rule.lead.all fun lead => lead.toList.isPrefixOf target.name.toList

/-- How closely a rule describes the parts it is about. -/
def closeness (rule : Rule) : Nat := (rule.lead.map String.utf8ByteSize).getD 0

/-- Whether a rule lets lines of a level through. -/
def allows (rule : Rule) (level : Level) : Bool :=
  rule.least.any fun least => level.rank ≤ least.rank

end Rule

/-- Which lines are shown. -/
structure Filter where
  rules : List Rule
  /-- What the text of a line must hold a run of. -/
  pattern : Option Pattern := none
  deriving DecidableEq, Repr

namespace Filter

/-- The rule that decides about a part of the system. -/
def ruleFor? (filter : Filter) (target : Target) : Option Rule :=
  (filter.rules.filter fun rule => rule.concerns target).foldl
    (fun best rule =>
      if best.all fun other => other.closeness ≤ rule.closeness then some rule else best)
    none

/-- Whether a line is shown. -/
def shows (filter : Filter) (line : Line) : Bool :=
  (filter.ruleFor? line.target).any (·.allows line.level) &&
    filter.pattern.all fun pattern => pattern.occursIn line.text

/-- The rules with another one, which takes the place of a rule about the same parts. -/
def withRule (rule : Rule) : List Rule → List Rule
  | [] => [rule]
  | other :: rest => if other.lead = rule.lead then rule :: rest else other :: withRule rule rest

/-- The words for levels; one of them lets nothing through. -/
def levelWords : List (String × Option Level) :=
  [("off", none), ("error", some .error), ("warn", some .warn), ("info", some .info),
    ("debug", some .debug), ("trace", some .trace)]

/-- Reads a rule; of one that is none, the part that is wrong is given. -/
def readRule (s : String) : Except String Rule :=
  match Text.split '=' s with
  | [word] =>
    match Text.lookup? levelWords (Text.trim word) with
    | some least => .ok ⟨none, least⟩
    | none => .ok ⟨some word, some .trace⟩
  | [lead, word] =>
    if Text.isBlankText word then .ok ⟨some lead, some .trace⟩
    else
      match Text.lookup? levelWords (Text.trim word) with
      | some least => .ok ⟨some lead, least⟩
      | none => .error (Text.trim word)
  | _ => .error s

/-- Reads rules, after those read so far; what is wrong is passed over and kept apart. -/
def readRules (s : String) : List Rule × List String :=
  ((Text.split ',' s).map Text.trim |>.filter (· ≠ "")).foldl
    (fun (rules, wrong) part =>
      match readRule part with
      | .ok rule => (withRule rule rules, wrong)
      | .error part => (rules, wrong ++ [s!"invalid logging spec '{part}'"]))
    ([⟨none, none⟩], [])

/-- Reads a filter, and tells what is wrong with it. What no rule is about is not shown; a pattern
that is none asks for nothing. -/
def parse (s : String) : Filter × List String :=
  match Text.split '/' s with
  | [rules] => let (rules, wrong) := readRules rules; (⟨rules, none⟩, wrong)
  | [rules, text] =>
    let (rules, wrong) := readRules rules
    match Pattern.read text with
    | .ok pattern => (⟨rules, some pattern⟩, wrong)
    | .error report => (⟨rules, none⟩, wrong ++ [s!"invalid regex filter - {report}"])
  | _ => (⟨[⟨none, none⟩], none⟩, [s!"invalid logging spec '{s}' (too many '/'s)"])

end Filter

/-- How a line is shown: its level, padded to five characters, who speaks, and what is said. -/
def Line.render (line : Line) : String :=
  let padding := String.ofList (List.replicate (5 - line.level.name.length) ' ')
  s!"{line.level.name}{padding} {line.target.name}: {line.text}\n"

end Uiml.Log
