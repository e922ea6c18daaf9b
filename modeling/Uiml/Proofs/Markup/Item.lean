import Uiml.Proofs.Markup.Scan

/-!
# The items of a source

A source is read item by item: between tags it is asides, character data and what opens a tag, and
in a tag it is names, equals signs, values and what ends the tag. Which item comes next is told by
its own characters and the one after it, so that an item is read alike whatever follows that one.

## Main definitions

* `TagItem`, `Item` — the items, each with its tokens and the mode in which reading goes on
* `Lexed` — a source that is made of items

## Main results

* `hasRead_of_step` — what a step reads is an item
* `Item.reads` — an item is read as its tokens
* `scan_eq_ok_iff` — a source has tokens exactly if it is made of items, which have them
-/

namespace Uiml.Markup

/-- An item of a tag: what it is made of, before a character or the end, its token, and whether the
tag goes on. -/
inductive TagItem (next : Option Char) : List Char → Token → Mode → Prop
  | gt : TagItem next ['>'] .gt .content
  | slashGt : TagItem next ['/', '>'] .slashGt .content
  | eq : TagItem next ['='] .eq .tag
  | name {name : String} (hname : IsName name.toList) (hnext : ∀ c ∈ next, isNameChar c = false) :
      TagItem next name.toList (.name name) .tag
  | value {quote : Char} {value : String} {written : List Char}
      (hquote : quote = '"' ∨ quote = '\'')
      (h : Decodes (fun c => c == quote || c == '<') value.toList written) :
      TagItem next (quote :: (written ++ [quote])) (.value value) .tag

/-- An item at a place, before a character or the end: the mode in which it is read, what it is made
of, its tokens, and the mode in which reading goes on. -/
inductive Item (p : Position) (next : Option Char) :
    Mode → List Char → List PlacedToken → Mode → Prop
  | aside {stretch : List Char} (h : Aside stretch) : Item p next .content stretch [] .content
  | blank {text written : List Char} (h : Decodes (· == '<') text written) (hne : written ≠ [])
      (hblank : Blanks text) (hnext : ∀ c ∈ next, c = '<') :
      Item p next .content written [] .content
  | text {s : String} {written : List Char} (h : Decodes (· == '<') s.toList written)
      (hblank : ¬ Blanks s.toList) (hnext : ∀ c ∈ next, c = '<') :
      Item p next .content written [⟨.text s, p⟩] .content
  | opening (hnext : ∀ c ∈ next, c ≠ '!' ∧ c ≠ '?' ∧ c ≠ '/') :
      Item p next .content ['<'] [⟨.lt, p⟩] .tag
  | closing : Item p next .content ['<', '/'] [⟨.ltSlash, p⟩] .tag
  | inTag {blanks stretch : List Char} {token : Token} {mode' : Mode} (hblanks : Blanks blanks)
      (h : TagItem next stretch token mode') :
      Item p next .tag (blanks ++ stretch) [⟨token, p.afterAll blanks⟩] mode'

/-- The rest of a source from a place on is made of items, which have these tokens, and the end. -/
inductive Lexed : Mode → Position → List Char → List PlacedToken → Prop
  | finish {p : Position} : Lexed .content p [] [⟨.eof, p⟩]
  | item {p : Position} {mode mode' : Mode} {stretch rest : List Char}
      {tokens more : List PlacedToken} (h : Item p rest.head? mode stretch tokens mode')
      (hmore : Lexed mode' (p.afterAll stretch) rest more) :
      Lexed mode p (stretch ++ rest) (tokens ++ more)

/-- The step that yields the tokens of an item. -/
def Step.of (tokens : List PlacedToken) (mode' : Mode) (next : Cursor) : Step :=
  match tokens with
  | [] => .skip next
  | token :: _ => .emit token mode' next

/-- A step has read an item, and yields its tokens. -/
def HasRead (mode : Mode) (p : Position) (cs : List Char) (result : Step) : Prop :=
  ∃ stretch rest tokens mode', cs = stretch ++ rest ∧ Item p rest.head? mode stretch tokens mode' ∧
    result = .of tokens mode' ⟨p.afterAll stretch, rest⟩

variable {p : Position} {mode mode' : Mode} {next : Cursor} {result : Step}
  {stretch rest cs : List Char} {tokens : List PlacedToken}

/-! ### What a step reads is an item -/

/-- What is skipped up to a terminator does not have it inside. -/
theorem exists_of_skipPast? {terminator : List Char} (hne : terminator ≠ [])
    (h : skipPast? terminator p cs = some next) :
    ∃ body, cs = body ++ (terminator ++ next.rest) ∧
      next.pos = p.afterAll (body ++ terminator) ∧ ¬ terminator <:+: body := by
  induction cs generalizing p with
  | nil => cases h
  | cons c cs ih =>
    rw [skipPast?] at h
    split at h
    · next hbegins =>
      obtain ⟨rest, hrest⟩ := List.isPrefixOf_iff_prefix.mp hbegins
      rw [← hrest, Cursor.drop_append] at h
      cases h
      exact ⟨[], hrest.symm, rfl, by simpa using hne⟩
    · next hbegins =>
      obtain ⟨body, rfl, hpos, hinside⟩ := ih h
      refine ⟨c :: body, rfl, hpos, ?_⟩
      rw [List.infix_cons_iff, not_or]
      refine ⟨fun hprefix => hbegins (List.isPrefixOf_iff_prefix.mpr ?_), hinside⟩
      exact hprefix.trans (List.prefix_append (c :: body) (terminator ++ next.rest))

/-- A construct that is skipped has its terminator once, at its end. -/
theorem exists_of_skipConstruct (lead : List Char) {terminator : List Char} {fault : Fault}
    (hne : terminator ≠ [])
    (h : skipConstruct lead.length terminator fault ⟨p, lead ++ cs⟩ = .ok result) :
    ∃ body rest, cs = body ++ (terminator ++ rest) ∧ ¬ terminator <:+: body ∧
      result = .skip ⟨p.afterAll (lead ++ (body ++ terminator)), rest⟩ := by
  rw [skipConstruct, Cursor.drop_append] at h
  split at h
  · next after hskip =>
    obtain ⟨body, rfl, hpos, hinside⟩ := exists_of_skipPast? hne hskip
    cases h
    refine ⟨body, after.rest, rfl, hinside, ?_⟩
    rw [Position.afterAll_append, ← hpos]
  · cases h

/-- An aside that is skipped is an item. -/
theorem hasRead_aside (h : Aside stretch) :
    HasRead .content p (stretch ++ rest) (.skip ⟨p.afterAll stretch, rest⟩) :=
  ⟨stretch, rest, [], .content, rfl, .aside h, rfl⟩

/-- Between tags, the end of the source or an item is read. -/
theorem hasRead_of_contentStep (h : contentStep ⟨p, cs⟩ = .ok result) :
    (cs = [] ∧ result = .finish) ∨ HasRead .content p cs result := by
  rw [contentStep.eq_def] at h
  split at h
  · next hcs =>
    cases h
    exact .inl ⟨hcs, rfl⟩
  · next cs hcs =>
    cases hcs
    obtain ⟨body, rest, rfl, hinside, rfl⟩ :=
      exists_of_skipConstruct ['<', '!', '-', '-'] (by simp) h
    rw [← List.append_assoc]
    exact .inr (hasRead_aside (.comment hinside))
  · next cs hcs =>
    cases hcs
    obtain ⟨body, rest, rfl, hinside, rfl⟩ :=
      exists_of_skipConstruct ['<', '?'] (by simp) h
    rw [← List.append_assoc]
    exact .inr (hasRead_aside (.instruction hinside))
  · next cs hcomment hcs =>
    cases hcs
    obtain ⟨body, rest, rfl, hinside, rfl⟩ :=
      exists_of_skipConstruct ['<', '!'] (by simp) h
    have hend : '>' ∉ body := fun hmem => hinside ((List.singleton_infix_iff _ _).mpr hmem)
    have hlead : ¬ ['-', '-'] <+: body := by
      rintro ⟨body, rfl⟩
      exact hcomment _ rfl
    rw [← List.append_assoc]
    exact .inr (hasRead_aside (.declaration hend hlead))
  · next rest hcs =>
    cases hcs; cases h
    exact .inr ⟨['<', '/'], rest, _, _, rfl, .closing, rfl⟩
  · next rest _ hinstruction hdeclaration hclosing hcs =>
    cases hcs; cases h
    -- what else may come after a `<` has been read for what it is
    refine .inr ⟨['<'], rest, _, _, rfl, .opening fun c hc => ?_, rfl⟩
    obtain ⟨tail, rfl⟩ := List.head?_eq_some_iff.mp hc
    exact ⟨fun h => hdeclaration tail (by rw [h]), fun h => hinstruction tail (by rw [h]),
      fun h => hclosing tail (by rw [h])⟩
  · next hne _ _ _ _ hlt =>
    split at h
    · cases h
    · next text fin hread =>
      obtain ⟨q, rest⟩ := fin
      obtain ⟨written, rfl, rfl, hdecodes, hends⟩ := (characters_eq_ok_iff rfl).mp hread
      have hnext : ∀ c ∈ rest.head?, c = '<' := by simpa using hends
      split at h
      · next hblank =>
        cases h
        refine .inr ⟨written, rest, [], _, rfl,
          .blank hdecodes ?_ (List.all_eq_true.mp hblank) hnext, rfl⟩
        -- a text is read up to a `<`, and there is none at its beginning
        rintro rfl
        rcases rest with _ | ⟨c, tail⟩
        · exact hne rfl
        · exact hlt tail (by rw [hnext c rfl]; rfl)
      · next hblank =>
        cases h
        have hitem : Item p rest.head? .content written [⟨.text (String.ofList text), p⟩]
            .content := by
          refine .text ?_ ?_ hnext
          · rwa [String.toList_ofList]
          · rw [String.toList_ofList]
            exact fun hall => hblank (List.all_eq_true.mpr hall)
        exact .inr ⟨written, rest, _, _, rfl, hitem, rfl⟩

/-- What a step in a tag has read, after the blanks, is an item. -/
def HasReadInTag (p : Position) (cs : List Char) (result : Step) : Prop :=
  ∃ stretch rest token mode', cs = stretch ++ rest ∧ TagItem rest.head? stretch token mode' ∧
    result = .emit ⟨token, p⟩ mode' ⟨p.afterAll stretch, rest⟩

theorem hasReadInTag_of_quotedStep {quote : Char} (hquote : quote = '"' ∨ quote = '\'')
    (h : quotedStep quote ⟨p, quote :: cs⟩ = .ok result) : HasReadInTag p (quote :: cs) result := by
  rw [quotedStep] at h
  split at h
  · cases h
  · next text fin hread =>
    obtain ⟨written, rfl, hpos, hdecodes, -⟩ :=
      (characters_eq_ok_iff (p := p.after quote) (amp_goes_on hquote)).mp hread
    split at h
    · cases h
    · next c rest hrest =>
      split at h
      · next hc =>
        subst hc
        cases h
        rw [hrest]
        refine ⟨c :: (written ++ [c]), rest, .value (String.ofList text), .tag, by simp,
          .value hquote (by rwa [String.toList_ofList]), ?_⟩
        simp [Cursor.drop, hrest, hpos, Position.afterAll_append]
      · cases h

theorem hasReadInTag_of_tagItem (h : tagItem ⟨p, cs⟩ = .ok result) : HasReadInTag p cs result := by
  rw [tagItem.eq_def] at h
  split at h
  · cases h
  · next rest hcs =>
    cases hcs; cases h
    exact ⟨['>'], rest, _, _, rfl, .gt, rfl⟩
  · next rest hcs =>
    cases hcs; cases h
    exact ⟨['/', '>'], rest, _, _, rfl, .slashGt, rfl⟩
  · next rest hcs =>
    cases hcs; cases h
    exact ⟨['='], rest, _, _, rfl, .eq, rfl⟩
  · next hcs =>
    cases hcs
    exact hasReadInTag_of_quotedStep (.inl rfl) h
  · next hcs =>
    cases hcs
    exact hasReadInTag_of_quotedStep (.inr rfl) h
  · next c rest _ _ _ _ _ hcs =>
    cases hcs
    split at h
    · next hc =>
      cases h
      have hname : IsName (String.ofList (c :: rest.takeWhile isNameChar)).toList := by
        rw [String.toList_ofList]
        exact ⟨c, _, rfl, hc, fun x hx => List.mem_takeWhile_imp hx⟩
      have hends : ∀ x ∈ (rest.dropWhile isNameChar).head?, isNameChar x = false := by
        have hhead := List.head?_dropWhile_not isNameChar rest
        intro x hx
        rw [hx] at hhead
        exact hhead
      have hitem := TagItem.name hname hends
      rw [String.toList_ofList] at hitem
      have hsplit : c :: rest = (c :: rest.takeWhile isNameChar) ++ rest.dropWhile isNameChar := by
        rw [List.cons_append, List.takeWhile_append_dropWhile]
      refine ⟨_, _, _, _, hsplit, hitem, ?_⟩
      rw [← Cursor.drop_append, ← hsplit]
    · cases h

/-- What a step reads is an item, and it finds the end only between tags. -/
theorem hasRead_of_step (h : step mode ⟨p, cs⟩ = .ok result) :
    (mode = .content ∧ cs = [] ∧ result = .finish) ∨ HasRead mode p cs result := by
  cases mode with
  | content =>
    rcases hasRead_of_contentStep h with ⟨hcs, hfinish⟩ | hread
    · exact .inl ⟨rfl, hcs, hfinish⟩
    · exact .inr hread
  | tag =>
    obtain ⟨stretch, rest, token, mode', hcs, hitem, rfl⟩ := hasReadInTag_of_tagItem h
    have hblanks : Blanks (cs.takeWhile Text.isBlank) := fun c hc => List.mem_takeWhile_imp hc
    refine .inr ⟨cs.takeWhile Text.isBlank ++ stretch, rest, _, mode', ?_, .inTag hblanks hitem, ?_⟩
    · rw [List.append_assoc, ← hcs]
      exact List.takeWhile_append_dropWhile.symm
    · rw [Position.afterAll_append]
      rfl

/-! ### An item is read as its tokens -/

/-- An item is read as its tokens, whatever comes after the character that it is told by. -/
theorem Item.reads (h : Item p rest.head? mode stretch tokens mode') :
    Reads mode p stretch tokens mode' rest := by
  cases h with
  | aside h => exact h.reads
  | blank h hne hblank hnext =>
    have hreads := reads_data (p := p) h hnext
    rwa [if_pos (List.all_eq_true.mpr hblank)] at hreads
  | @text s _ h hblank hnext =>
    have hreads := reads_data (p := p) h hnext
    rwa [if_neg fun hall => hblank (List.all_eq_true.mp hall), String.ofList_toList] at hreads
  | opening hnext => exact reads_lt hnext
  | closing => exact reads_ltSlash
  | inTag hblanks h =>
    cases h with
    | gt => exact reads_gt hblanks
    | slashGt => exact reads_slashGt hblanks
    | eq => exact reads_eq hblanks
    | name hname hnext => exact reads_name hblanks hname hnext
    | value hquote h => exact reads_value hblanks hquote h

theorem Step.next?_of (tokens : List PlacedToken) (mode' : Mode) (next : Cursor) :
    (Step.of tokens mode' next).next? = some next := by
  cases tokens <;> rfl

/-- Reading ends in an error of its first step, or at the end, or goes on after an item. -/
theorem scan_cases (mode : Mode) (p : Position) (cs : List Char) :
    (∃ error, step mode ⟨p, cs⟩ = .error error ∧ scan mode ⟨p, cs⟩ = .error error) ∨
    (mode = .content ∧ cs = []) ∨
    ∃ stretch rest tokens mode', cs = stretch ++ rest ∧ rest.length < cs.length ∧
      Item p rest.head? mode stretch tokens mode' := by
  cases hstep : step mode ⟨p, cs⟩ with
  | error error =>
    refine .inl ⟨error, rfl, ?_⟩
    rw [scan]
    split <;> simp_all
  | ok result =>
    rcases hasRead_of_step hstep with ⟨hmode, hcs, -⟩ |
      ⟨stretch, rest, tokens, mode', hcs, hitem, rfl⟩
    · exact .inr (.inl ⟨hmode, hcs⟩)
    · exact .inr (.inr ⟨stretch, rest, tokens, mode', hcs,
        step_length_lt hstep (Step.next?_of _ _ _), hitem⟩)

/-- A source has tokens exactly if it is made of items, which have these tokens. -/
theorem scan_eq_ok_iff : scan mode ⟨p, cs⟩ = .ok tokens ↔ Lexed mode p cs tokens := by
  constructor
  · intro h
    -- an item leaves less of the source than there was before it
    induction hn : cs.length using Nat.strongRecOn generalizing mode p cs tokens with
    | ind n ih =>
      subst hn
      rcases scan_cases mode p cs with ⟨error, -, herror⟩ | ⟨rfl, rfl⟩ |
        ⟨stretch, rest, first, mode', rfl, hlt, hitem⟩
      · cases h.symm.trans herror
      · rw [scan_finish rfl] at h
        cases h
        exact .finish
      · have hreads := hitem.reads
        rw [Reads, h] at hreads
        obtain ⟨more, hmore, rfl⟩ := exists_of_map hreads.symm
        exact .item hitem (ih _ hlt hmore rfl)
  · intro h
    induction h with
    | finish => exact scan_finish rfl
    | item h _ ih =>
      have hreads := h.reads
      rw [Reads, ih] at hreads
      exact hreads

end Uiml.Markup
