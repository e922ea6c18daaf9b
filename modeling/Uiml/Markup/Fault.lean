import Uiml.Markup.Token

/-!
# Faults of a document

Why a text is no document, and the wording of each reason. A fault is reported with the place that
it concerns: the offending token, or the opening of what was never closed.
-/

namespace Uiml.Markup

/-- Why a text is no document. -/
inductive Fault where
  | unterminatedComment
  | unterminatedInstruction
  | unterminatedDeclaration
  | unterminatedValue
  | unterminatedReference
  | unknownReference (body : String)
  | endInsideTag
  | strayCharacter (c : Char)
  | angleInValue
  | noRoot
  | textOutsideRoot
  | secondRoot
  | expectedRoot (got : Token)
  | expectedName (got : Token)
  | expectedToken (want got : Token)
  | expectedValue (key : String) (got : Token)
  | strayInStartTag (got : Token) (tag : String)
  | strayInContent (got : Token)
  | duplicateAttribute (key tag : String)
  | mismatchedClose (close tag : String) (opened : Position)
  | unclosed (tag : String)
  deriving DecidableEq, Repr

/-- The wording of a fault. -/
def Fault.message : Fault → String
  | .unterminatedComment => "unterminated comment"
  | .unterminatedInstruction => "unterminated processing instruction"
  | .unterminatedDeclaration => "unterminated declaration"
  | .unterminatedValue => "unterminated attribute value"
  | .unterminatedReference => "unterminated entity reference"
  | .unknownReference body => s!"unknown entity '&{body};'"
  | .endInsideTag => "unexpected end of input inside tag"
  | .strayCharacter c => s!"unexpected character {Text.quoteChar c} inside tag"
  | .angleInValue => "'<' is not allowed in an attribute value"
  | .noRoot => "document has no root element"
  | .textOutsideRoot => "text is not allowed outside the root element"
  | .secondRoot => "only one root element is allowed"
  | .expectedRoot got => s!"expected '<', got {got.describe}"
  | .expectedName got => s!"expected a name, got {got.describe}"
  | .expectedToken want got => s!"expected {want.describe}, got {got.describe}"
  | .expectedValue key got => s!"expected a quoted value for '{key}', got {got.describe}"
  | .strayInStartTag got tag => s!"unexpected {got.describe} in start tag <{tag}>"
  | .strayInContent got => s!"unexpected {got.describe} in element content"
  | .duplicateAttribute key tag => s!"duplicate attribute '{key}' on <{tag}>"
  | .mismatchedClose close tag opened =>
    s!"mismatched close tag </{close}>, expected </{tag}> " ++
      s!"(opened at {opened.line}:{opened.column})"
  | .unclosed tag => s!"unclosed element <{tag}>"

/-- A fault and the place that it concerns. -/
structure Error where
  fault : Fault
  pos : Position
  deriving DecidableEq, Repr

/-- The full wording of an error. -/
def Error.message (e : Error) : String :=
  s!"uiml parse error at {e.pos.line}:{e.pos.column}: {e.fault.message}"

end Uiml.Markup
