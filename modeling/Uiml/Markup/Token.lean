import Uiml.Markup.Position
import Uiml.Text.Quoted

/-!
# Tokens of the markup language

A document is a sequence of tokens: the punctuation of tags, the names, equals signs and quoted
values inside them, and the character data between them.
-/

namespace Uiml

/-- A token. The values of attributes and the character data are decoded. -/
inductive Token where
  /-- `<` -/
  | lt
  /-- `</` -/
  | ltSlash
  /-- `>` -/
  | gt
  /-- `/>` -/
  | slashGt
  /-- `=` -/
  | eq
  | name (s : String)
  | value (s : String)
  | text (s : String)
  /-- The end of the source. -/
  | eof
  deriving DecidableEq, Repr, Inhabited

/-- How a message shows a token. -/
def Token.describe : Token → String
  | .lt => "Lt"
  | .ltSlash => "LtSlash"
  | .gt => "Gt"
  | .slashGt => "SlashGt"
  | .eq => "Eq"
  | .name s => "Name(" ++ Text.quote s ++ ")"
  | .value s => "Str(" ++ Text.quote s ++ ")"
  | .text s => "Text(" ++ Text.quote s ++ ")"
  | .eof => "Eof"

/-- A token and the place of its first character. -/
structure PlacedToken where
  token : Token
  pos : Position
  deriving DecidableEq, Repr, Inhabited

end Uiml
