import Uiml.Pattern.Room
import Uiml.Text.Trim

/-!
# Faults of patterns

Why a text is no pattern, and how that is told: with the text, carets below the characters that are
at fault, and what is wrong with them.

## Main definitions

* `Pattern.Span`, `Pattern.Cause`, `Pattern.Fault` — where what is wrong
* `Pattern.Fault.report` — how that is told
-/

namespace Uiml.Pattern

/-- The characters from one number on, up to another. -/
structure Span where
  first : Nat
  past : Nat
  deriving DecidableEq, Repr, Inhabited

/-- What is wrong with the characters of a pattern. -/
inductive Cause where
  | classEscape
  | classRange
  | classRangeEnd
  | classUnclosed
  | numberMissing
  | numberTooLarge
  | codeMissing
  | codeOfNoCharacter
  | codeDigit
  | escapeCut
  | escapeUnknown
  | flagNegatesNothing
  | flagRepeated
  | flagsNegatedTwice
  | flagCut
  | flagUnknown
  | nameRepeated
  | nameMissing
  | nameCharacter
  | nameUnclosed
  | groupUnclosed
  | groupUnopened
  | countRange
  | countMissing
  | countUnclosed
  | nothingRepeated
  | edgeUnclosed
  | edgeUnknown
  | edgeCut
  | property
  | backreference
  | lookAround
  | beyondAscii
  | notOfText
  | propertyUnknown
  | classNeedsTables
  | caseNeedsTables
  deriving DecidableEq, Repr

/-- The wording of a cause. -/
def Cause.message : Cause → String
  | .classEscape => "invalid escape sequence found in character class"
  | .classRange => "invalid character class range, the start must be <= the end"
  | .classRangeEnd => "invalid range boundary, must be a literal"
  | .classUnclosed => "unclosed character class"
  | .numberMissing => "decimal literal empty"
  | .numberTooLarge => "decimal literal invalid"
  | .codeMissing => "hexadecimal literal empty"
  | .codeOfNoCharacter => "hexadecimal literal is not a Unicode scalar value"
  | .codeDigit => "invalid hexadecimal digit"
  | .escapeCut => "incomplete escape sequence, reached end of pattern prematurely"
  | .escapeUnknown => "unrecognized escape sequence"
  | .flagNegatesNothing => "dangling flag negation operator"
  | .flagRepeated => "duplicate flag"
  | .flagsNegatedTwice => "flag negation operator repeated"
  | .flagCut => "expected flag but got end of regex"
  | .flagUnknown => "unrecognized flag"
  | .nameRepeated => "duplicate capture group name"
  | .nameMissing => "empty capture group name"
  | .nameCharacter => "invalid capture group character"
  | .nameUnclosed => "unclosed capture group name"
  | .groupUnclosed => "unclosed group"
  | .groupUnopened => "unopened group"
  | .countRange => "invalid repetition count range, the start must be <= the end"
  | .countMissing => "repetition quantifier expects a valid decimal"
  | .countUnclosed => "unclosed counted repetition"
  | .nothingRepeated => "repetition operator missing expression"
  | .edgeUnclosed =>
    "special word boundary assertion is either unclosed or contains an invalid character"
  | .edgeUnknown =>
    "unrecognized special word boundary assertion, valid choices are: start, end, start-half " ++
      "or end-half"
  | .edgeCut =>
    "found either the beginning of a special word boundary or a bounded repetition on a \\b " ++
      "with an opening brace, but no closing brace"
  | .property => "invalid Unicode character class"
  | .backreference => "backreferences are not supported"
  | .lookAround => "look-around, including look-ahead and look-behind, is not supported"
  | .beyondAscii => "Unicode not allowed here"
  | .notOfText => "pattern can match invalid UTF-8"
  | .propertyUnknown => "Unicode property not found"
  | .classNeedsTables =>
    "Unicode-aware Perl class not found (make sure the unicode-perl feature is enabled)"
  | .caseNeedsTables =>
    "Unicode-aware case insensitivity matching is not available " ++
      "(make sure the unicode-case feature is enabled)"

/-- Why a text is no pattern. -/
inductive Fault where
  /-- Characters are at fault, and maybe what they repeat. -/
  | wrong (cause : Cause) (span : Span) (earlier : Option Span)
  /-- The pattern takes too much room. -/
  | tooLarge
  /-- The edges of words of all writing systems are asked for, which are not known. -/
  | wordsUnknown
  deriving DecidableEq, Repr

namespace Fault

/-- A line without the carriage return at its end. -/
def withoutReturn (line : String) : String :=
  if line.toList.getLast? = some '\r' then String.ofList line.toList.dropLast else line

/-- The lines of a text, without what ends them. -/
def linesOf (s : String) : List String :=
  let parts := Text.split '\n' s
  parts.dropLast.map withoutReturn ++ (parts.getLast?.filter (· ≠ "")).toList

/-- The numbers of the line and of the column of a character, from 1 on. -/
def position (pattern : List Char) (n : Nat) : Nat × Nat :=
  let before := pattern.take n
  (before.count '\n' + 1, (before.reverse.takeWhile (· ≠ '\n')).length + 1)

/-- Carets below columns, one after the other, each range from its first column up to another. -/
def carets : Nat → List (Nat × Nat) → List Char
  | _, [] => []
  | column, (first, past) :: rest =>
    let count := max 1 (past - first)
    List.replicate (first - column) ' ' ++ List.replicate count '^' ++
      carets (max column first + count) rest

/-- The line of a number with the carets below it, if there are any. -/
def showLine (width : Nat) (number : Nat) (line : String) (columns : List (Nat × Nat)) : String :=
  let digits := toString number
  let lead :=
    if width = 0 then "    "
    else String.ofList (List.replicate (width - digits.length) ' ') ++ digits ++ ": "
  let indent := String.ofList (List.replicate lead.length ' ')
  let below := if columns.isEmpty then "" else indent ++ String.ofList (carets 1 columns) ++ "\n"
  lead ++ line ++ "\n" ++ below

/-- The text of a pattern with carets below the spans that lie in one line. -/
def showLines (pattern : String) (width : Nat) (spans : List Span) : String :=
  let place := position pattern.toList
  String.join ((linesOf pattern).zipIdx.map fun (line, i) =>
    let here := spans.filter fun span =>
      (place span.first).1 = i + 1 && (place span.past).1 = i + 1
    showLine width (i + 1) line
      (here.map fun span => ((place span.first).2, (place span.past).2)))

/-- How a span that lies in several lines is told. -/
def showRange (pattern : List Char) (span : Span) : String :=
  let (firstLine, firstColumn) := position pattern span.first
  let (lastLine, lastColumn) := position pattern span.past
  s!"on line {firstLine} (column {firstColumn}) through line {lastLine} (column {lastColumn - 1})\n"

/-- How what is wrong with a pattern is told. -/
def report (pattern : String) : Fault → String
  | tooLarge => s!"Compiled regex exceeds size limit of {maxRoom} bytes."
  | wordsUnknown => "error building NFA"
  | wrong cause span earlier =>
    let spans := (earlier.toList ++ [span]).mergeSort fun s t => s.first ≤ t.first
    let chars := pattern.toList
    let ending := "error: " ++ cause.message
    if chars.contains '\n' then
      let count := (linesOf pattern).length + if chars.getLast? = some '\n' then 1 else 0
      let divider := String.ofList (List.replicate 79 '~') ++ "\n"
      let long := spans.filter fun span =>
        (position chars span.first).1 ≠ (position chars span.past).1
      let width := if count ≤ 1 then 0 else (toString count).length
      let notes := String.join (long.map (showRange chars))
      "regex parse error:\n" ++ divider ++ showLines pattern width spans ++ divider ++ notes ++
        ending
    else "regex parse error:\n" ++ showLines pattern 0 spans ++ ending

end Fault

end Uiml.Pattern
