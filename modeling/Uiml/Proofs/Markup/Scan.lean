import Uiml.Proofs.Markup.Decoding

/-!
# Reading stretches of a source

The tokens of a source are those of its stretches, one after the other, provided that each stretch
is read with what comes after it in sight: a name ends where no name character follows, and what a
`<` opens is told by the character after it.

## Main definitions

* `Reads` — a stretch of a source, with what follows it, is read as some tokens
* `IsName`, `Blanks` — names, and the blanks that stand before the tokens of a tag
* `Aside` — comments, processing instructions and declarations, which yield no tokens

## Main results

* `Reads.trans` — stretches that follow each other are read one after the other
* `reads_lt`, `reads_ltSlash`, `reads_name`, `reads_eq`, `reads_value`, `reads_gt`, `reads_slashGt`,
  `Aside.reads`, `reads_data` — how each item is read
-/

namespace Uiml.Markup

/-- A stretch of a source that starts at a place, and after which comes `rest`, is read as tokens;
reading goes on after it in another mode. -/
def Reads (mode : Mode) (p : Position) (stretch : List Char) (tokens : List PlacedToken)
    (mode' : Mode) (rest : List Char) : Prop :=
  scan mode ⟨p, stretch ++ rest⟩ = (scan mode' ⟨p.afterAll stretch, rest⟩).map (tokens ++ ·)

variable {mode mode' mode'' : Mode} {p q : Position} {stretch stretch' blanks rest : List Char}
  {tokens tokens' : List PlacedToken} {token : PlacedToken} {c : Char}

theorem Reads.nil : Reads mode p [] [] mode rest := by
  simp only [Reads, List.nil_append, Position.afterAll_nil]
  cases scan mode ⟨p, rest⟩ <;> rfl

/-- Stretches that follow each other are read one after the other. -/
theorem Reads.trans (h : Reads mode p stretch tokens mode' (stretch' ++ rest))
    (h' : Reads mode' (p.afterAll stretch) stretch' tokens' mode'' rest) :
    Reads mode p (stretch ++ stretch') (tokens ++ tokens') mode'' rest := by
  rw [Reads] at h h' ⊢
  rw [List.append_assoc, h, h', Position.afterAll_append]
  cases scan mode'' ⟨(p.afterAll stretch).afterAll stretch', rest⟩ with
  | error e => rfl
  | ok ts => simp [Except.map]

/-! ### One step -/

section Steps

variable {cur next : Cursor}

theorem scan_emit (h : step mode cur = .ok (.emit token mode' next)) :
    scan mode cur = (scan mode' next).map (token :: ·) := by
  rw [scan]
  split <;> simp_all

theorem scan_skip (h : step mode cur = .ok (.skip next)) : scan mode cur = scan mode next := by
  rw [scan]
  split <;> simp_all

theorem scan_finish (h : step mode cur = .ok .finish) : scan mode cur = .ok [⟨.eof, cur.pos⟩] := by
  rw [scan]
  split <;> simp_all

/-- A stretch that a single step takes is read as the token of the step. -/
theorem Reads.of_emit (h : step mode ⟨p, stretch ++ rest⟩ =
    .ok (.emit token mode' ⟨p.afterAll stretch, rest⟩)) :
    Reads mode p stretch [token] mode' rest :=
  scan_emit h

/-- A stretch that a single step skips is read as nothing. -/
theorem Reads.of_skip (h : step mode ⟨p, stretch ++ rest⟩ =
    .ok (.skip ⟨p.afterAll stretch, rest⟩)) : Reads mode p stretch [] mode rest := by
  rw [Reads, scan_skip h]
  cases scan mode ⟨p.afterAll stretch, rest⟩ <;> rfl

end Steps

/-! ### Classes of characters -/

/-- A run of blanks. -/
def Blanks (cs : List Char) : Prop := ∀ c ∈ cs, Text.isBlank c = true

instance (cs : List Char) : Decidable (Blanks cs) :=
  List.decidableBAll _ cs

/-- A name: a character that may start one, and more that may go on. -/
def IsName (name : List Char) : Prop :=
  ∃ c cs, name = c :: cs ∧ isNameStart c = true ∧ ∀ x ∈ cs, isNameChar x = true

/-- The code points of blanks. -/
def blankCodes : List Nat :=
  [0x09, 0x0A, 0x0B, 0x0C, 0x0D, 0x20, 0x85, 0xA0, 0x1680, 0x2000, 0x2001, 0x2002, 0x2003, 0x2004,
    0x2005, 0x2006, 0x2007, 0x2008, 0x2009, 0x200A, 0x2028, 0x2029, 0x202F, 0x205F, 0x3000]

theorem mem_blankCodes (h : Text.isBlank c = true) : c.toNat ∈ blankCodes := by
  simp only [Text.isBlank, Bool.or_eq_true, Bool.and_eq_true, decide_eq_true_eq, beq_iff_eq] at h
  simp only [blankCodes, List.mem_cons, List.not_mem_nil, or_false]
  omega

/-- No blank is part of a name. -/
theorem isNameChar_of_isBlank (h : Text.isBlank c = true) : isNameChar c = false := by
  have hcodes : ∀ n ∈ blankCodes, isNameChar (Char.ofNat n) = false := by decide +kernel
  rw [← Char.ofNat_toNat c]
  exact hcodes _ (mem_blankCodes h)

/-- What may start a name may go on in one. -/
theorem isNameChar_of_isNameStart (h : isNameStart c = true) : isNameChar c = true := by
  simp only [isNameStart, isNameChar, Bool.or_eq_true] at h ⊢
  rcases h with (h | h) | h
  · refine .inl (.inl (.inl (.inl ?_)))
    unfold Text.isAlphabetic at h
    unfold Text.isAlphanumeric
    split at h <;> simp_all [Char.isAlphanum]
  · exact .inl (.inl (.inl (.inr h)))
  · exact .inr h

theorem isBlank_of_isNameStart (h : isNameStart c = true) : Text.isBlank c = false := by
  by_contra hblank
  have := isNameChar_of_isBlank (Bool.not_eq_false _ ▸ hblank)
  rw [isNameChar_of_isNameStart h] at this
  cases this

/-- Blanks end a name, and so does what ends one after blanks. -/
theorem Blanks.ends_name (hblanks : Blanks blanks)
    (hrest : ∀ c ∈ rest.head?, isNameChar c = false) :
    ∀ c ∈ (blanks ++ rest).head?, isNameChar c = false := by
  rcases blanks with _ | ⟨b, blanks⟩
  · exact hrest
  · rintro _ ⟨⟩
    exact isNameChar_of_isBlank (hblanks b List.mem_cons_self)

/-- A name with blanks before it is not the beginning of anything but a tag. -/
theorem Blanks.opens_tag {name : List Char} (hblanks : Blanks blanks) (hname : IsName name) :
    ∀ c ∈ (blanks ++ (name ++ rest)).head?, c ≠ '!' ∧ c ≠ '?' ∧ c ≠ '/' := by
  rcases blanks with _ | ⟨b, blanks⟩
  · obtain ⟨c, cs, rfl, hc, -⟩ := hname
    rintro _ ⟨⟩
    refine ⟨?_, ?_, ?_⟩ <;> rintro rfl <;> cases hc
  · have hb := hblanks b List.mem_cons_self
    rintro _ ⟨⟩
    refine ⟨?_, ?_, ?_⟩ <;> rintro rfl <;> cases hb

/-! ### Tags -/

section Tags

/-- The blanks before an item of a tag are passed over. -/
theorem dropWhile_blanks (hblanks : Blanks blanks)
    (hrest : ∀ c ∈ rest.head?, Text.isBlank c = false) :
    Cursor.dropWhile Text.isBlank ⟨p, blanks ++ rest⟩ = ⟨p.afterAll blanks, rest⟩ := by
  have hstops : rest.dropWhile Text.isBlank = rest ∧ rest.takeWhile Text.isBlank = [] := by
    cases rest with
    | nil => exact ⟨rfl, rfl⟩
    | cons c rest => simp [hrest c rfl]
  rw [Cursor.dropWhile, List.dropWhile_append_of_pos hblanks, List.takeWhile_append_of_pos hblanks,
    hstops.1, hstops.2, List.append_nil]

/-- An item of a tag is read with the blanks before it, and stands at its own first character. -/
theorem reads_tagItem (hblanks : Blanks blanks)
    (hfirst : ∀ c ∈ (stretch ++ rest).head?, Text.isBlank c = false) {token : Token}
    (h : tagItem ⟨p.afterAll blanks, stretch ++ rest⟩ = .ok (.emit ⟨token, p.afterAll blanks⟩ mode'
      ⟨(p.afterAll blanks).afterAll stretch, rest⟩)) :
    Reads .tag p (blanks ++ stretch) [⟨token, p.afterAll blanks⟩] mode' rest := by
  refine .of_emit ?_
  rw [step, List.append_assoc, dropWhile_blanks hblanks hfirst, h, Position.afterAll_append]

/-- The blanks of a closing angle are part of its tag, and what follows it is not. -/
theorem reads_gt (hblanks : Blanks blanks) :
    Reads .tag p (blanks ++ ['>']) [⟨.gt, p.afterAll blanks⟩] .content rest :=
  reads_tagItem hblanks (by rintro _ ⟨⟩; rfl) rfl

theorem reads_slashGt (hblanks : Blanks blanks) :
    Reads .tag p (blanks ++ ['/', '>']) [⟨.slashGt, p.afterAll blanks⟩] .content rest :=
  reads_tagItem hblanks (by rintro _ ⟨⟩; rfl) rfl

theorem reads_eq (hblanks : Blanks blanks) :
    Reads .tag p (blanks ++ ['=']) [⟨.eq, p.afterAll blanks⟩] .tag rest :=
  reads_tagItem hblanks (by rintro _ ⟨⟩; rfl) rfl

/-- An item that begins as a name is read as one. -/
theorem tagItem_name {c : Char} {cs : List Char} (hc : isNameStart c = true) :
    tagItem ⟨q, c :: cs⟩ = .ok (.emit ⟨.name (String.ofList (c :: cs.takeWhile isNameChar)), q⟩ .tag
      (Cursor.drop (c :: cs.takeWhile isNameChar).length ⟨q, c :: cs⟩)) := by
  have hmarks : c ≠ '>' ∧ c ≠ '/' ∧ c ≠ '=' ∧ c ≠ '"' ∧ c ≠ '\'' := by
    refine ⟨?_, ?_, ?_, ?_, ?_⟩ <;> rintro rfl <;> cases hc
  rw [tagItem.eq_def]
  split
  case h_7 heq => cases heq; rw [if_pos hc]
  all_goals simp_all

/-- A name is read whole if no character that could go on in it follows. -/
theorem reads_name {name : String} (hblanks : Blanks blanks) (hname : IsName name.toList)
    (hrest : ∀ c ∈ rest.head?, isNameChar c = false) :
    Reads .tag p (blanks ++ name.toList) [⟨.name name, p.afterAll blanks⟩] .tag rest := by
  obtain ⟨c, cs, hcs, hc, hall⟩ := hname
  have hstops : (cs ++ rest).takeWhile isNameChar = cs := by
    rw [List.takeWhile_append_of_pos hall]
    cases rest with
    | nil => simp
    | cons d rest => simp [hrest d rfl]
  refine reads_tagItem hblanks (by rw [hcs]; rintro _ ⟨⟩; exact isBlank_of_isNameStart hc) ?_
  rw [hcs, List.cons_append, tagItem_name hc, hstops, ← hcs, String.ofList_toList, hcs,
    ← List.cons_append, Cursor.drop_append]

/-- A reference may stand in a value. -/
theorem amp_goes_on {quote : Char} (hquote : quote = '"' ∨ quote = '\'') :
    ('&' == quote || '&' == '<') = false := by
  rcases hquote with rfl | rfl <;> rfl

/-- A quoted value is read as what is between its quotes is decoded to. -/
theorem reads_value {quote : Char} {value : String} {written : List Char} (hblanks : Blanks blanks)
    (hquote : quote = '"' ∨ quote = '\'')
    (hvalue : Decodes (fun c => c == quote || c == '<') value.toList written) :
    Reads .tag p (blanks ++ quote :: (written ++ [quote])) [⟨.value value, p.afterAll blanks⟩] .tag
      rest := by
  have hfirst : ∀ c ∈ (quote :: (written ++ [quote]) ++ rest).head?, Text.isBlank c = false := by
    rintro _ ⟨⟩
    rcases hquote with rfl | rfl <;> rfl
  refine reads_tagItem hblanks hfirst ?_
  generalize p.afterAll blanks = q
  have hcharacters : characters (fun c => c == quote || c == '<')
      ⟨q.after quote, written ++ quote :: rest⟩ = _ :=
    hvalue.characters (amp_goes_on hquote) (by rintro _ ⟨⟩; simp) (q.after quote)
  have hitem : tagItem ⟨q, quote :: (written ++ [quote]) ++ rest⟩ =
      quotedStep quote ⟨q, quote :: (written ++ quote :: rest)⟩ := by
    rw [List.cons_append, List.append_assoc]
    rcases hquote with rfl | rfl <;> rfl
  rw [hitem, quotedStep]
  simp [Cursor.drop, hcharacters, Position.afterAll_append]

end Tags

/-! ### Content -/

section Content

/-- A `<` opens a tag if what follows it is the beginning of nothing else. -/
theorem reads_lt (hrest : ∀ c ∈ rest.head?, c ≠ '!' ∧ c ≠ '?' ∧ c ≠ '/') :
    Reads .content p ['<'] [⟨.lt, p⟩] .tag rest := by
  refine .of_emit ?_
  rw [step, contentStep.eq_def]
  split <;> simp_all [Cursor.drop]

theorem reads_ltSlash : Reads .content p ['<', '/'] [⟨.ltSlash, p⟩] .tag rest :=
  .of_emit rfl

/-- A comment, a processing instruction or a declaration. It goes up to the first occurrence of what
ends it. -/
inductive Aside : List Char → Prop
  | comment {body : List Char} (h : ¬ ['-', '-', '>'] <:+: body) :
      Aside ('<' :: '!' :: '-' :: '-' :: (body ++ ['-', '-', '>']))
  | instruction {body : List Char} (h : ¬ ['?', '>'] <:+: body) :
      Aside ('<' :: '?' :: (body ++ ['?', '>']))
  | declaration {body : List Char} (h : '>' ∉ body) (hlead : ¬ ['-', '-'] <+: body) :
      Aside ('<' :: '!' :: (body ++ ['>']))

/-- Nothing that begins in a body is what ends it, also not together with characters of the end. -/
def EndsFirst (terminator body : List Char) : Prop :=
  ∀ cs rest, cs <:+ body → cs ≠ [] → ¬ terminator <+: cs ++ (terminator ++ rest)

/-- The end of a body is found there. -/
theorem EndsFirst.skipPast? {terminator body : List Char} (hne : terminator ≠ [])
    (h : EndsFirst terminator body) :
    skipPast? terminator p (body ++ (terminator ++ rest)) =
      some ⟨p.afterAll (body ++ terminator), rest⟩ := by
  induction body generalizing p with
  | nil =>
    obtain ⟨t, ts, rfl⟩ := List.exists_cons_of_ne_nil hne
    have hbegins : (t :: ts).isPrefixOf (t :: (ts ++ rest)) = true := by simp
    rw [List.nil_append, List.nil_append, List.cons_append, Markup.skipPast?, if_pos hbegins,
      ← List.cons_append, Cursor.drop_append]
  | cons c body ih =>
    have hnot := h (c :: body) rest (List.suffix_refl _) (List.cons_ne_nil c body)
    have hbody : EndsFirst terminator body :=
      fun cs rest hcs => h cs rest (hcs.trans (List.suffix_cons c body))
    rw [List.cons_append] at hnot ⊢
    rw [Markup.skipPast?, if_neg (by simpa using hnot), ih hbody]
    rfl

/-- A construct is skipped with its end. -/
theorem EndsFirst.skipConstruct {terminator body : List Char} (hne : terminator ≠ [])
    (h : EndsFirst terminator body) (lead : List Char) (fault : Fault) :
    skipConstruct lead.length terminator fault ⟨p, lead ++ (body ++ terminator) ++ rest⟩ =
      .ok (.skip ⟨p.afterAll (lead ++ (body ++ terminator)), rest⟩) := by
  rw [Markup.skipConstruct, List.append_assoc, Cursor.drop_append]
  simp only [List.append_assoc, h.skipPast? hne, Position.afterAll_append]

theorem endsFirst_comment {body : List Char} (h : ¬ ['-', '-', '>'] <:+: body) :
    EndsFirst ['-', '-', '>'] body := by
  rintro cs rest hcs hne hbegins
  -- two characters of the end that go on a body are no `->`, so that the match lies in the body
  match cs, hne with
  | [a], _ => simp at hbegins
  | [a, b], _ => simp at hbegins
  | a :: b :: c :: ds, _ =>
    refine h (List.IsInfix.trans ?_ hcs.isInfix)
    simp only [List.cons_append, List.cons_prefix_cons, List.nil_prefix, and_true] at hbegins
    obtain ⟨rfl, rfl, rfl⟩ := hbegins
    exact (List.prefix_append ['-', '-', '>'] ds).isInfix

theorem endsFirst_instruction {body : List Char} (h : ¬ ['?', '>'] <:+: body) :
    EndsFirst ['?', '>'] body := by
  rintro cs rest hcs hne hbegins
  match cs, hne with
  | [a], _ => simp at hbegins
  | a :: b :: ds, _ =>
    refine h (List.IsInfix.trans ?_ hcs.isInfix)
    simp only [List.cons_append, List.cons_prefix_cons, List.nil_prefix, and_true] at hbegins
    obtain ⟨rfl, rfl⟩ := hbegins
    exact (List.prefix_append ['?', '>'] ds).isInfix

theorem endsFirst_declaration {body : List Char} (h : '>' ∉ body) : EndsFirst ['>'] body := by
  rintro cs rest hcs hne hbegins
  obtain ⟨c, cs, rfl⟩ := List.exists_cons_of_ne_nil hne
  simp only [List.cons_append, List.cons_prefix_cons] at hbegins
  exact h (hcs.subset (hbegins.1 ▸ List.mem_cons_self))

theorem contentStep_declaration {cs : List Char} (h : ¬ ['-', '-'] <+: cs) :
    contentStep ⟨p, '<' :: '!' :: cs⟩ =
      skipConstruct 2 ['>'] .unterminatedDeclaration ⟨p, '<' :: '!' :: cs⟩ := by
  rw [contentStep.eq_def]
  split
  case h_2 heq => cases heq; simp at h
  case h_4 => rfl
  all_goals grind

/-- What stands aside is skipped. -/
theorem Aside.reads (h : Aside stretch) : Reads .content p stretch [] .content rest := by
  refine .of_skip ?_
  cases h with
  | comment h =>
    exact (endsFirst_comment h).skipConstruct (by simp) ['<', '!', '-', '-'] .unterminatedComment
  | instruction h =>
    exact (endsFirst_instruction h).skipConstruct (by simp) ['<', '?'] .unterminatedInstruction
  | @declaration body h hlead =>
    -- the end of the declaration does not make its lead that of a comment
    have hlead' : ¬ ['-', '-'] <+: body ++ ['>'] ++ rest := by
      intro hbegins
      match body with
      | [] => simp at hbegins
      | [a] => simp at hbegins
      | a :: b :: body =>
        simp only [List.cons_append, List.cons_prefix_cons, List.nil_prefix, and_true]
          at hbegins hlead
        exact hlead hbegins
    exact (contentStep_declaration hlead').trans
      ((endsFirst_declaration h).skipConstruct (by simp) ['<', '!'] .unterminatedDeclaration)

/-- Blanks are decoded to themselves. -/
theorem Blanks.decodes (h : Blanks blanks) : Decodes (· == '<') blanks blanks := by
  refine (Writes.of_forall fun c hc => ?_).decodes_data
  have hblank := h c hc
  refine ⟨?_, ?_⟩ <;> rintro rfl <;> cases hblank

/-- Character data up to a `<` or the end of the source is read as a text, if it is not blank. -/
theorem reads_data {text written : List Char} (h : Decodes (· == '<') text written)
    (hrest : ∀ c ∈ rest.head?, c = '<') :
    Reads .content p written
      (if text.all Text.isBlank then [] else [⟨.text (String.ofList text), p⟩]) .content rest := by
  have hcharacters : characters (· == '<') ⟨p, written ++ rest⟩ = _ :=
    h.characters rfl (by simpa using hrest) p
  rcases written with _ | ⟨c, written⟩
  · cases h
    exact .nil
  · have hc : c ≠ '<' := by
      cases h with
      | plain hstop => rintro rfl; cases hstop
      | reference => decide
    have hstep : contentStep ⟨p, c :: written ++ rest⟩ =
        if text.all Text.isBlank then .ok (.skip ⟨p.afterAll (c :: written), rest⟩)
        else .ok (.emit ⟨.text (String.ofList text), p⟩ .content
          ⟨p.afterAll (c :: written), rest⟩) := by
      rw [contentStep.eq_def]
      split <;> simp_all
    split
    · next hblank =>
      rw [if_pos hblank] at hstep
      exact .of_skip hstep
    · next hblank =>
      rw [if_neg hblank] at hstep
      exact .of_emit hstep

end Content

end Uiml.Markup
