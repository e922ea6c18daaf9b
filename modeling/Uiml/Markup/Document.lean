import Uiml.Markup.Element
import Uiml.Markup.Lexer

/-!
# Reading documents

A document is one element, and an element is spelled by its tokens: `<`, a name, attributes, and
either `/>` or `>`, children and the closing tag. Character data may stand between children and is
dropped.

## Main definitions

* `Markup.startTag` — the name and the attributes of an opening tag
* `Markup.content` — the children of an element up to its closing tag
* `Markup.documentOfTokens`, `Markup.parse` — the element that a token list or a source spells
-/

namespace Uiml.Markup

/-- The token that is read next; past the end of the list there is only the end of the source. -/
def nextToken : List PlacedToken → Token
  | [] => .eof
  | t :: _ => t.token

/-- The place of the token that is read next; past the end of the list it is `last`. -/
def nextPos (last : Position) : List PlacedToken → Position
  | [] => last
  | t :: _ => t.pos

/-- The place of the last token of a list. -/
def lastPos (tokens : List PlacedToken) : Position :=
  match tokens.getLast? with
  | some t => t.pos
  | none => .start

/-- An opening tag. -/
structure StartTag where
  tag : String
  attributes : List Attribute
  /-- Whether the tag ends in `/>`, so that the element has no content. -/
  selfClosed : Bool
  deriving DecidableEq, Repr

/-- Reads attributes after those already `seen`, and the end of the opening tag. -/
def startTagEnd (last : Position) (tag : String) (seen : List Attribute) :
    List PlacedToken → Except Error (StartTag × List PlacedToken)
  | ⟨.slashGt, _⟩ :: rest => .ok (⟨tag, seen, true⟩, rest)
  | ⟨.gt, _⟩ :: rest => .ok (⟨tag, seen, false⟩, rest)
  | ⟨.name key, _⟩ :: ⟨.eq, _⟩ :: ⟨.value value, _⟩ :: rest =>
    if seen.any (·.key == key) then .error ⟨.duplicateAttribute key tag, nextPos last rest⟩
    else startTagEnd last tag (seen ++ [⟨key, value⟩]) rest
  | ⟨.name key, _⟩ :: ⟨.eq, _⟩ :: rest =>
    .error ⟨.expectedValue key (nextToken rest), nextPos last rest⟩
  | ⟨.name _, _⟩ :: rest => .error ⟨.expectedToken .eq (nextToken rest), nextPos last rest⟩
  | tokens => .error ⟨.strayInStartTag (nextToken tokens) tag, nextPos last tokens⟩

/-- Reads an opening tag after its `<`. -/
def startTag (last : Position) :
    List PlacedToken → Except Error (StartTag × List PlacedToken)
  | ⟨.name tag, _⟩ :: rest => startTagEnd last tag [] rest
  | tokens => .error ⟨.expectedName (nextToken tokens), nextPos last tokens⟩

/-- Reads the closing tag of an element after its `</`. -/
def closeTag (last : Position) (tag : String) (opened closePos : Position) :
    List PlacedToken → Except Error (List PlacedToken)
  | ⟨.name close, _⟩ :: rest =>
    if close = tag then
      match rest with
      | ⟨.gt, _⟩ :: rest => .ok rest
      | rest => .error ⟨.expectedToken .gt (nextToken rest), nextPos last rest⟩
    else .error ⟨.mismatchedClose close tag opened, closePos⟩
  | tokens => .error ⟨.expectedName (nextToken tokens), nextPos last tokens⟩

theorem startTagEnd_length_lt {last : Position} {tag : String} {seen : List Attribute}
    {tokens rest : List PlacedToken} {start : StartTag}
    (h : startTagEnd last tag seen tokens = .ok (start, rest)) : rest.length < tokens.length := by
  fun_induction startTagEnd last tag seen tokens <;> simp_all
  omega

theorem startTag_length_lt {last : Position} {tokens rest : List PlacedToken} {start : StartTag}
    (h : startTag last tokens = .ok (start, rest)) : rest.length < tokens.length := by
  unfold startTag at h
  split at h
  · have := startTagEnd_length_lt h
    simp
    omega
  · contradiction

theorem closeTag_length_lt {last opened closePos : Position} {tag : String}
    {tokens rest : List PlacedToken} (h : closeTag last tag opened closePos tokens = .ok rest) :
    rest.length < tokens.length := by
  unfold closeTag at h
  split at h
  · split at h
    · split at h
      · injection h with h
        simp only [List.length_cons, h]
        omega
      · contradiction
    · contradiction
  · contradiction

/-- What is left of a token list after something has been read from it. -/
abbrev Shorter (tokens : List PlacedToken) :=
  { rest : List PlacedToken // rest.length < tokens.length }

/-- Reads the children of the element `tag`, opened at `opened`, and its closing tag. -/
def content (last : Position) (tag : String) (opened : Position) (tokens : List PlacedToken) :
    Except Error (List Element × Shorter tokens) :=
  match tokens with
  | [] => .error ⟨.unclosed tag, opened⟩
  | ⟨.eof, _⟩ :: _ => .error ⟨.unclosed tag, opened⟩
  | ⟨.text _, _⟩ :: rest =>
    match content last tag opened rest with
    | .error e => .error e
    | .ok (children, ⟨fin, hfin⟩) => .ok (children, ⟨fin, by simp; omega⟩)
  | ⟨.ltSlash, pos⟩ :: rest =>
    match h : closeTag last tag opened pos rest with
    | .error e => .error e
    | .ok fin => .ok ([], ⟨fin, by have := closeTag_length_lt h; simp; omega⟩)
  | ⟨.lt, pos⟩ :: rest =>
    match h : startTag last rest with
    | .error e => .error e
    | .ok (start, body) =>
      have hbody := startTag_length_lt h
      let inner : Except Error (List Element × { r : List PlacedToken // r.length ≤ body.length }) :=
        if start.selfClosed then .ok ([], ⟨body, Nat.le_refl _⟩)
        else
          match content last start.tag pos body with
          | .error e => .error e
          | .ok (children, ⟨after, hafter⟩) => .ok (children, ⟨after, Nat.le_of_lt hafter⟩)
      match inner with
      | .error e => .error e
      | .ok (children, ⟨after, hafter⟩) =>
        match content last tag opened after with
        | .error e => .error e
        | .ok (siblings, ⟨fin, hfin⟩) =>
          .ok (⟨start.tag, start.attributes, children, pos⟩ :: siblings,
            ⟨fin, by simp; omega⟩)
  | token :: rest => .error ⟨.strayInContent token.token, token.pos⟩
termination_by tokens.length

/-- The element that a token list spells. -/
def documentOfTokens (tokens : List PlacedToken) : Except Error Element :=
  let last := lastPos tokens
  match tokens with
  | ⟨.lt, pos⟩ :: rest => do
    let (start, body) ← startTag last rest
    let (children, after) ←
      if start.selfClosed then .ok ([], body)
      else (content last start.tag pos body).map fun (children, after) => (children, after.val)
    match nextToken after with
    | .eof => .ok ⟨start.tag, start.attributes, children, pos⟩
    | .text _ => .error ⟨.textOutsideRoot, nextPos last after⟩
    | _ => .error ⟨.secondRoot, nextPos last after⟩
  | tokens =>
    match nextToken tokens with
    | .eof => .error ⟨.noRoot, nextPos last tokens⟩
    | .text _ => .error ⟨.textOutsideRoot, nextPos last tokens⟩
    | token => .error ⟨.expectedRoot token, nextPos last tokens⟩

/-- The element that a source text spells. -/
def parse (source : String) : Except Error Element := do
  documentOfTokens (← tokenize source)

end Uiml.Markup
