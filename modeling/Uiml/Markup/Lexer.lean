import Uiml.Markup.Fault
import Uiml.Number.Integer
import Uiml.Text.Trim

/-!
# Reading tokens

A cursor moves through the source. Outside tags it skips comments, processing instructions and
declarations and gathers character data; inside a tag it reads names, equals signs and quoted
values. Every step of the cursor drops at least one character, which bounds the reading.

## Main definitions

* `Markup.Cursor` — the characters still to read and the place of the first of them
* `Markup.decodeReference` — the character that a reference `&…;` stands for
* `Markup.step` — reads or skips one item
* `Markup.tokenize` — all tokens of a source
-/

namespace Uiml.Markup

/-- What is left of a source, and where it starts. -/
structure Cursor where
  pos : Position
  rest : List Char
  deriving DecidableEq, Repr

namespace Cursor

/-- The cursor at the start of a source. -/
def ofString (s : String) : Cursor := ⟨.start, s.toList⟩

/-- The cursor `n` characters further on. -/
def drop (n : Nat) (cur : Cursor) : Cursor :=
  ⟨cur.pos.afterAll (cur.rest.take n), cur.rest.drop n⟩

/-- The cursor past the leading characters of a class. -/
def dropWhile (p : Char → Bool) (cur : Cursor) : Cursor :=
  ⟨cur.pos.afterAll (cur.rest.takeWhile p), cur.rest.dropWhile p⟩

theorem drop_length_lt {n : Nat} {cur : Cursor} (hn : 0 < n) (h : cur.rest ≠ []) :
    (cur.drop n).rest.length < cur.rest.length := by
  have := List.length_pos_iff.mpr h
  simp only [drop, List.length_drop]
  omega

theorem dropWhile_length_le (p : Char → Bool) (cur : Cursor) :
    (cur.dropWhile p).rest.length ≤ cur.rest.length :=
  (List.dropWhile_suffix p).length_le

end Cursor

/-- The first character of a name. -/
def isNameStart (c : Char) : Bool := Text.isAlphabetic c || c == '_' || c == ':'

/-- A later character of a name. -/
def isNameChar (c : Char) : Bool :=
  Text.isAlphanumeric c || c == '_' || c == '-' || c == '.' || c == ':'

/-- The character with the given code point, if there is one. -/
def charOfCode? (n : Nat) : Option Char :=
  if h : n.isValidChar then some (Char.ofNatAux n h) else none

/-- The character that a numeric reference of the given base names. -/
def numericReference (base : Nat) (digits : List Char) : Option Char :=
  match Integer.readNat base (Integer.largest 32) digits with
  | .ok n => charOfCode? n
  | .error _ => none

/-- The character that a reference stands for, given what stands between `&` and `;`. -/
def decodeReference : List Char → Option Char
  | ['a', 'm', 'p'] => some '&'
  | ['l', 't'] => some '<'
  | ['g', 't'] => some '>'
  | ['q', 'u', 'o', 't'] => some '"'
  | ['a', 'p', 'o', 's'] => some '\''
  | '#' :: 'x' :: digits => numericReference 16 digits
  | '#' :: 'X' :: digits => numericReference 16 digits
  | '#' :: digits => numericReference 10 digits
  | _ => none

/-- The most bytes that a reference may hold between `&` and `;`. -/
def maxReferenceBytes : Nat := 11

/-- Reads the reference at a cursor that stands on `&`. -/
def reference (cur : Cursor) : Except Error (Char × Cursor) :=
  match Text.cutAt? (· == ';') (cur.rest.drop 1) with
  | none => .error ⟨.unterminatedReference, cur.pos⟩
  | some (body, _) =>
    if maxReferenceBytes < (String.ofList body).utf8ByteSize then
      .error ⟨.unterminatedReference, cur.pos⟩
    else
      match decodeReference body with
      | none => .error ⟨.unknownReference (String.ofList body), cur.pos⟩
      | some c => .ok (c, cur.drop (body.length + 2))

theorem reference_length_lt {cur next : Cursor} {c : Char} (hrest : cur.rest ≠ [])
    (h : reference cur = .ok (c, next)) : next.rest.length < cur.rest.length := by
  unfold reference at h
  split at h
  · contradiction
  · split at h
    · contradiction
    · split at h
      · contradiction
      · simp only [Except.ok.injEq, Prod.mk.injEq] at h
        rw [← h.2]
        exact Cursor.drop_length_lt (by omega) hrest

/-- Reads characters and references up to a character of the class `stop` or the end. -/
def characters (stop : Char → Bool) (cur : Cursor) : Except Error (List Char × Cursor) :=
  match hrest : cur.rest with
  | [] => .ok ([], cur)
  | c :: rest =>
    if stop c then .ok ([], cur)
    else if c = '&' then
      match href : reference cur with
      | .error e => .error e
      | .ok (d, next) =>
        have := reference_length_lt (by simp [hrest]) href
        match characters stop next with
        | .error e => .error e
        | .ok (cs, fin) => .ok (d :: cs, fin)
    else
      match characters stop ⟨cur.pos.after c, rest⟩ with
      | .error e => .error e
      | .ok (cs, fin) => .ok (c :: cs, fin)
termination_by cur.rest.length
decreasing_by
  · exact this
  · simp [hrest]

/-- Whether the cursor stands in a tag or between tags. -/
inductive Mode where
  | content
  | tag
  deriving DecidableEq, Repr

/-- What reading one item yields. -/
inductive Step where
  /-- The source is at its end. -/
  | finish
  /-- A comment, a processing instruction, a declaration or blank character data. -/
  | skip (next : Cursor)
  /-- A token and where to go on. -/
  | emit (token : PlacedToken) (mode : Mode) (next : Cursor)
  deriving DecidableEq, Repr

/-- Where reading goes on after a step. -/
def Step.next? : Step → Option Cursor
  | .finish => none
  | .skip next => some next
  | .emit _ _ next => some next

/-- The cursor just past the first occurrence of a terminator. -/
def skipPast? (terminator : List Char) (pos : Position) : List Char → Option Cursor
  | [] => none
  | c :: rest =>
    if terminator.isPrefixOf (c :: rest) then some (Cursor.drop terminator.length ⟨pos, c :: rest⟩)
    else skipPast? terminator (pos.after c) rest

theorem skipPast?_length_le {terminator rest : List Char} {pos : Position} {next : Cursor}
    (h : skipPast? terminator pos rest = some next) : next.rest.length ≤ rest.length := by
  induction rest generalizing pos with
  | nil => simp [skipPast?] at h
  | cons c tail ih =>
    simp only [skipPast?] at h
    split at h
    · cases h
      simp [Cursor.drop]
    · have := ih h
      simp
      omega

/-- Skips a construct whose opening has `lead` characters, up to its terminator. -/
def skipConstruct (lead : Nat) (terminator : List Char) (fault : Fault) (cur : Cursor) :
    Except Error Step :=
  match skipPast? terminator (cur.drop lead).pos (cur.drop lead).rest with
  | some next => .ok (.skip next)
  | none => .error ⟨fault, cur.pos⟩

/-- Reads one item between tags. -/
def contentStep (cur : Cursor) : Except Error Step :=
  match cur.rest with
  | [] => .ok .finish
  | '<' :: '!' :: '-' :: '-' :: _ =>
    skipConstruct 4 ['-', '-', '>'] .unterminatedComment cur
  | '<' :: '?' :: _ => skipConstruct 2 ['?', '>'] .unterminatedInstruction cur
  | '<' :: '!' :: _ => skipConstruct 2 ['>'] .unterminatedDeclaration cur
  | '<' :: '/' :: _ => .ok (.emit ⟨.ltSlash, cur.pos⟩ .tag (cur.drop 2))
  | '<' :: _ => .ok (.emit ⟨.lt, cur.pos⟩ .tag (cur.drop 1))
  | _ =>
    match characters (· == '<') cur with
    | .error e => .error e
    | .ok (cs, next) =>
      if cs.all Text.isBlank then .ok (.skip next)
      else .ok (.emit ⟨.text (String.ofList cs), cur.pos⟩ .content next)

/-- Reads the quoted value at a cursor that stands on its opening quote. -/
def quotedStep (quote : Char) (cur : Cursor) : Except Error Step :=
  match characters (fun c => c == quote || c == '<') (cur.drop 1) with
  | .error e => .error e
  | .ok (cs, next) =>
    match next.rest with
    | [] => .error ⟨.unterminatedValue, cur.pos⟩
    | c :: _ =>
      if c = quote then .ok (.emit ⟨.value (String.ofList cs), cur.pos⟩ .tag (next.drop 1))
      else .error ⟨.angleInValue, next.pos⟩

/-- Reads one item of a tag at a cursor that stands on no blank. -/
def tagItem (cur : Cursor) : Except Error Step :=
  match cur.rest with
  | [] => .error ⟨.endInsideTag, cur.pos⟩
  | '>' :: _ => .ok (.emit ⟨.gt, cur.pos⟩ .content (cur.drop 1))
  | '/' :: '>' :: _ => .ok (.emit ⟨.slashGt, cur.pos⟩ .content (cur.drop 2))
  | '=' :: _ => .ok (.emit ⟨.eq, cur.pos⟩ .tag (cur.drop 1))
  | '"' :: _ => quotedStep '"' cur
  | '\'' :: _ => quotedStep '\'' cur
  | c :: rest =>
    if isNameStart c then
      let name := c :: rest.takeWhile isNameChar
      .ok (.emit ⟨.name (String.ofList name), cur.pos⟩ .tag (cur.drop name.length))
    else .error ⟨.strayCharacter c, cur.pos⟩

/-- Reads one item. -/
def step : Mode → Cursor → Except Error Step
  | .content, cur => contentStep cur
  | .tag, cur => tagItem (cur.dropWhile Text.isBlank)

theorem characters_length_le {stop : Char → Bool} {cur next : Cursor} {cs : List Char}
    (h : characters stop cur = .ok (cs, next)) : next.rest.length ≤ cur.rest.length := by
  fun_induction characters stop cur generalizing cs <;> grind

/-- Character data that does not stop at once takes at least one character. -/
theorem characters_length_lt {stop : Char → Bool} {cur next : Cursor} {c : Char}
    {rest cs : List Char} (hrest : cur.rest = c :: rest) (hc : stop c = false)
    (h : characters stop cur = .ok (cs, next)) : next.rest.length < cur.rest.length := by
  fun_induction characters stop cur generalizing cs <;> grind [→ characters_length_le]

theorem skipConstruct_length_lt {lead : Nat} {terminator : List Char} {fault : Fault}
    {cur next : Cursor} {result : Step} (hlead : 0 < lead) (hrest : cur.rest ≠ [])
    (h : skipConstruct lead terminator fault cur = .ok result) (hnext : result.next? = some next) :
    next.rest.length < cur.rest.length := by
  have hdrop := Cursor.drop_length_lt hlead hrest
  unfold skipConstruct at h
  split at h
  · next after hskip =>
    have := skipPast?_length_le hskip
    cases h
    cases hnext
    omega
  · contradiction

theorem contentStep_length_lt {cur next : Cursor} {result : Step}
    (h : contentStep cur = .ok result) (hnext : result.next? = some next) :
    next.rest.length < cur.rest.length := by
  unfold contentStep at h
  split at h
  · cases h; contradiction
  · next hrest => exact skipConstruct_length_lt (by omega) (by simp [hrest]) h hnext
  · next hrest => exact skipConstruct_length_lt (by omega) (by simp [hrest]) h hnext
  · next hrest => exact skipConstruct_length_lt (by omega) (by simp [hrest]) h hnext
  · next hrest =>
    cases h; cases hnext
    exact Cursor.drop_length_lt (by omega) (by simp [hrest])
  · next hrest =>
    cases h; cases hnext
    exact Cursor.drop_length_lt (by omega) (by simp [hrest])
  · next hne _ _ _ _ hlt =>
    split at h
    · contradiction
    · next cs after hchars =>
      have hshort : after.rest.length < cur.rest.length := by
        match hrest : cur.rest with
        | [] => exact absurd hrest hne
        | c :: tail =>
          rw [← hrest]
          refine characters_length_lt hrest ?_ hchars
          have : c ≠ '<' := fun hc => hlt tail (by rw [hrest, hc])
          simpa using this
      split at h <;> cases h <;> cases hnext <;> exact hshort

theorem quotedStep_length_lt {quote : Char} {cur next : Cursor} {result : Step}
    (hrest : cur.rest ≠ []) (h : quotedStep quote cur = .ok result)
    (hnext : result.next? = some next) : next.rest.length < cur.rest.length := by
  have hdrop := Cursor.drop_length_lt (n := 1) (by omega) hrest
  unfold quotedStep at h
  split at h
  · contradiction
  · next cs after hchars =>
    have hle := characters_length_le hchars
    split at h
    · contradiction
    · split at h
      · cases h; cases hnext
        simp only [Cursor.drop, List.length_drop] at hdrop hle ⊢
        omega
      · contradiction

theorem tagItem_length_lt {cur next : Cursor} {result : Step} (h : tagItem cur = .ok result)
    (hnext : result.next? = some next) : next.rest.length < cur.rest.length := by
  unfold tagItem at h
  split at h
  case h_1 => contradiction
  case h_5 hrest => exact quotedStep_length_lt (by simp [hrest]) h hnext
  case h_6 hrest => exact quotedStep_length_lt (by simp [hrest]) h hnext
  case h_7 hrest =>
    split at h
    · cases h; cases hnext
      exact Cursor.drop_length_lt (by simp) (by simp [hrest])
    · contradiction
  all_goals
    next hrest =>
      cases h; cases hnext
      exact Cursor.drop_length_lt (by omega) (by simp [hrest])

/-- A step leaves strictly less to read. -/
theorem step_length_lt {mode : Mode} {cur next : Cursor} {result : Step}
    (h : step mode cur = .ok result) (hnext : result.next? = some next) :
    next.rest.length < cur.rest.length := by
  cases mode with
  | content => exact contentStep_length_lt h hnext
  | tag =>
    exact Nat.lt_of_lt_of_le (tagItem_length_lt h hnext) (Cursor.dropWhile_length_le _ _)

/-- All tokens from a cursor to the end of its source. -/
def scan (mode : Mode) (cur : Cursor) : Except Error (List PlacedToken) :=
  match h : step mode cur with
  | .error e => .error e
  | .ok .finish => .ok [⟨.eof, cur.pos⟩]
  | .ok (.skip next) =>
    have := step_length_lt h rfl
    scan mode next
  | .ok (.emit token mode' next) =>
    have := step_length_lt h rfl
    (scan mode' next).map (token :: ·)
termination_by cur.rest.length

/-- The tokens of a source text; the last of them, and only it, is the end. -/
def tokenize (source : String) : Except Error (List PlacedToken) :=
  scan .content (.ofString source)

end Uiml.Markup
