import Uiml.Proofs.Markup.Order

/-!
# The places of tokens and faults

A token stands at the place of its first character, and a place is told by the characters before it:
its line by the line feeds among them, its column by those after the last line feed. Whatever is at
fault with a source is reported at a place of the source too.

## Main definitions

* `Position.counted` — the place after a text, counted from its start
* `Lexeme` — how a source goes on from the place of a token
* `IsPlaceIn` — the places of the characters of a text, and that of its end

## Main results

* `Position.start_afterAll` — places are counted from the start of a source
* `Lexed.placed`, `Lexed.pairwise_lt` — each token stands at its lexeme, and later ones further on
* `scan_error_pos` — what is at fault in reading tokens is at a place of the source
* `tokens_placed` — all this for the tokens of a source, and for what is at fault with it
-/

namespace Uiml

namespace Position

/-- One place is before another if it is on an earlier line, or in an earlier column of its line. -/
instance : LT Position := ⟨fun p q => p.line < q.line ∨ p.line = q.line ∧ p.column < q.column⟩

/-- The place after a text, counted from its start. -/
def counted (read : List Char) : Position :=
  ⟨1 + read.count '\n', 1 + (read.reverse.takeWhile (· != '\n')).length⟩

variable {p q r : Position}

theorem lt_iff : p < q ↔ p.line < q.line ∨ p.line = q.line ∧ p.column < q.column := Iff.rfl

theorem lt_trans (h : p < q) (h' : q < r) : p < r := by
  rw [lt_iff] at h h' ⊢
  omega

theorem lt_irrefl : ¬ p < p := by
  rw [lt_iff]
  omega

theorem lt_after (p : Position) (c : Char) : p < p.after c := by
  rw [after]
  split
  · exact .inl (Nat.lt_succ_self _)
  · exact .inr ⟨rfl, Nat.lt_succ_self _⟩

/-- The place after a text is further on. -/
theorem lt_afterAll {cs : List Char} (hne : cs ≠ []) (p : Position) : p < p.afterAll cs := by
  induction cs generalizing p with
  | nil => exact absurd rfl hne
  | cons c cs ih =>
    by_cases hcs : cs = []
    · subst hcs
      exact lt_after p c
    · exact lt_trans (lt_after p c) (ih hcs (p.after c))

/-- Different beginnings of a text end at different places. -/
theorem eq_of_afterAll_eq {cs read read' : List Char} (h : read <+: cs) (h' : read' <+: cs)
    (heq : p.afterAll read = p.afterAll read') : read = read' := by
  have hmore : ∀ {read more : List Char},
      p.afterAll read = p.afterAll (read ++ more) → more = [] := by
    intro read more heq
    by_contra hne
    have hlt := lt_afterAll hne (p.afterAll read)
    rw [← afterAll_append, ← heq] at hlt
    exact lt_irrefl hlt
  -- one of them goes on with the other, and what it goes on with leads no further
  rcases List.prefix_or_prefix_of_prefix h h' with ⟨more, rfl⟩ | ⟨more, rfl⟩
  · rw [hmore heq, List.append_nil]
  · rw [hmore heq.symm, List.append_nil]

/-- Places are counted from the start of a source. -/
theorem start_afterAll (read : List Char) : start.afterAll read = counted read := by
  induction read using List.reverseRecOn with
  | nil => rfl
  | append_singleton read c ih =>
    rw [afterAll_append, ih, afterAll_cons, afterAll_nil, after]
    split
    · next hc => simp [counted, hc, Nat.add_assoc]
    · next hc => simp [counted, hc, Nat.add_comm]

end Position

namespace Markup

/-- How a source goes on from the place of a token. -/
inductive Lexeme : Token → List Char → Prop
  | lt {rest : List Char} : Lexeme .lt ('<' :: rest)
  | ltSlash {rest : List Char} : Lexeme .ltSlash ('<' :: '/' :: rest)
  | gt {rest : List Char} : Lexeme .gt ('>' :: rest)
  | slashGt {rest : List Char} : Lexeme .slashGt ('/' :: '>' :: rest)
  | eq {rest : List Char} : Lexeme .eq ('=' :: rest)
  | name {s : String} {rest : List Char} (hs : IsName s.toList) :
      Lexeme (.name s) (s.toList ++ rest)
  | value {s : String} {quote : Char} {written rest : List Char}
      (hquote : quote = '"' ∨ quote = '\'')
      (h : Decodes (fun c => c == quote || c == '<') s.toList written) :
      Lexeme (.value s) (quote :: (written ++ quote :: rest))
  | text {s : String} {c : Char} {written rest : List Char}
      (h : Decodes (· == '<') s.toList (c :: written)) : Lexeme (.text s) (c :: (written ++ rest))
  | eof : Lexeme .eof []

/-- The places of the characters of a text that begins at a place, and that of its end. -/
def IsPlaceIn (p : Position) (cs : List Char) (q : Position) : Prop :=
  ∃ read rest, cs = read ++ rest ∧ q = p.afterAll read

/-- A token stands in a text that begins at a place where the text goes on with its lexeme. -/
def StandsIn (p : Position) (cs : List Char) (t : PlacedToken) : Prop :=
  ∃ read rest, cs = read ++ rest ∧ t.pos = p.afterAll read ∧ Lexeme t.token rest

variable {mode mode' : Mode} {p q : Position} {cs stretch rest : List Char}
  {tokens more : List PlacedToken} {error : Error}

theorem IsPlaceIn.append (h : IsPlaceIn (p.afterAll stretch) rest q) :
    IsPlaceIn p (stretch ++ rest) q := by
  obtain ⟨read, rest, rfl, rfl⟩ := h
  exact ⟨stretch ++ read, rest, (List.append_assoc ..).symm, (Position.afterAll_append ..).symm⟩

theorem isPlaceIn_self : IsPlaceIn p cs p := ⟨[], cs, rfl, rfl⟩

theorem StandsIn.append {t : PlacedToken} (h : StandsIn (p.afterAll stretch) rest t) :
    StandsIn p (stretch ++ rest) t := by
  obtain ⟨read, rest, rfl, hpos, hlexeme⟩ := h
  exact ⟨stretch ++ read, rest, (List.append_assoc ..).symm,
    hpos.trans (Position.afterAll_append ..).symm, hlexeme⟩

/-! ### The places of tokens -/

/-- A token stands at its lexeme, and before the end of what has it. -/
theorem standsIn_of_lexeme (lead : List Char) {lexeme : List Char} {token : Token}
    (hne : lexeme ≠ [])
    (h : Lexeme token (lexeme ++ rest)) :
    StandsIn p (lead ++ lexeme ++ rest) ⟨token, p.afterAll lead⟩ ∧
      p.afterAll lead < p.afterAll (lead ++ lexeme) := by
  refine ⟨⟨lead, lexeme ++ rest, List.append_assoc .., rfl, h⟩, ?_⟩
  rw [Position.afterAll_append]
  exact Position.lt_afterAll hne _

theorem Item.placed (h : Item p rest.head? mode stretch tokens mode') :
    ∀ t ∈ tokens, StandsIn p (stretch ++ rest) t ∧ t.pos < p.afterAll stretch := by
  cases h with
  | aside | blank => simp
  | @text s _ h hblank =>
    refine List.forall_mem_singleton.mpr ?_
    rcases stretch with _ | ⟨c, written⟩
    · -- nothing is decoded to nothing, which is blank
      generalize s.toList = text at h hblank
      cases h
      exact absurd (by simp [Blanks]) hblank
    · exact standsIn_of_lexeme [] (List.cons_ne_nil c written) (.text h)
  | opening =>
    exact List.forall_mem_singleton.mpr (standsIn_of_lexeme [] (by simp) .lt)
  | closing =>
    exact List.forall_mem_singleton.mpr (standsIn_of_lexeme [] (by simp) .ltSlash)
  | inTag _ h =>
    refine List.forall_mem_singleton.mpr ?_
    cases h with
    | gt => exact standsIn_of_lexeme _ (by simp) .gt
    | slashGt => exact standsIn_of_lexeme _ (by simp) .slashGt
    | eq => exact standsIn_of_lexeme _ (by simp) .eq
    | name hname =>
      have ⟨c, cs, hcs, _⟩ := hname
      exact standsIn_of_lexeme _ (by simp [hcs]) (.name hname)
    | value hquote h =>
      refine standsIn_of_lexeme _ (by simp) ?_
      rw [List.cons_append, List.append_assoc]
      exact .value hquote h

/-- The tokens of a source stand in it. -/
theorem Lexed.placed (h : Lexed mode p cs tokens) : ∀ t ∈ tokens, StandsIn p cs t := by
  induction h with
  | finish => exact List.forall_mem_singleton.mpr ⟨[], [], rfl, rfl, .eof⟩
  | item h _ ih =>
    exact List.forall_mem_append.mpr ⟨fun t ht => (h.placed t ht).1, fun t ht => (ih t ht).append⟩

theorem StandsIn.isPlaceIn {t : PlacedToken} (h : StandsIn p cs t) : IsPlaceIn p cs t.pos := by
  obtain ⟨read, rest, hcs, hpos, -⟩ := h
  exact ⟨read, rest, hcs, hpos⟩

/-- No place in a text is before its beginning. -/
theorem IsPlaceIn.lt_of_lt {r : Position} (h : IsPlaceIn p cs q) (hr : r < p) : r < q := by
  obtain ⟨read, rest, rfl, rfl⟩ := h
  by_cases hread : read = []
  · subst hread
    exact hr
  · exact Position.lt_trans hr (Position.lt_afterAll hread p)

/-- Later tokens stand further on. -/
theorem Lexed.pairwise_lt (h : Lexed mode p cs tokens) :
    tokens.Pairwise fun t u => t.pos < u.pos := by
  induction h with
  | finish => exact List.pairwise_singleton _ _
  | @item p mode mode' stretch rest tokens more h hmore ih =>
    refine List.pairwise_append.mpr ⟨?_, ih, fun t ht u hu => ?_⟩
    · rcases h.leads with ⟨rfl, -⟩ | ⟨t, rfl, -⟩
      · exact .nil
      · exact List.pairwise_singleton _ _
    · exact (hmore.placed u hu).isPlaceIn.lt_of_lt (h.placed t ht).2

/-- The last token is the end of the source, and there is one at most for each character before. -/
theorem Lexed.exists_eof (h : Lexed mode p cs tokens) :
    ∃ others, tokens = others ++ [⟨.eof, p.afterAll cs⟩] ∧ others.length ≤ cs.length ∧
      ∀ t ∈ others, t.token ≠ .eof := by
  induction h with
  | finish => exact ⟨[], rfl, Nat.le_refl 0, by simp⟩
  | @item p mode mode' stretch rest tokens more h _ ih =>
    obtain ⟨others, rfl, hlength, hothers⟩ := ih
    refine ⟨tokens ++ others, by simp [Position.afterAll_append], ?_, ?_⟩
    · have hone : tokens.length ≤ stretch.length := by
        rcases h.leads with ⟨rfl, -⟩ | ⟨t, rfl, -⟩
        · exact Nat.zero_le _
        · obtain ⟨hstands, hlt⟩ := h.placed t List.mem_cons_self
          -- where nothing is read, a token would end where it stands
          refine List.length_pos_iff.mpr ?_
          rintro rfl
          exact Position.lt_irrefl (hstands.isPlaceIn.lt_of_lt hlt)
      simp only [List.length_append]
      omega
    · refine List.forall_mem_append.mpr ⟨?_, hothers⟩
      rcases h.leads with ⟨rfl, -⟩ | ⟨t, rfl, ht⟩
      · simp
      · refine List.forall_mem_singleton.mpr fun heof => ?_
        rw [heof] at ht
        cases ht

/-! ### The places of faults -/

theorem IsPlaceIn.of_drop {n : Nat} {cur : Cursor}
    (h : IsPlaceIn (cur.drop n).pos (cur.drop n).rest q) : IsPlaceIn cur.pos cur.rest q := by
  rw [← List.take_append_drop n cur.rest]
  exact h.append

/-- What is at fault in a text is at a place in it. -/
theorem characters_error_pos {stop : Char → Bool} {cur : Cursor}
    (h : characters stop cur = .error error) : IsPlaceIn cur.pos cur.rest error.pos := by
  fun_induction characters stop cur with
  | case1 | case2 | case5 | case7 => cases h
  | case3 _ _ _ href =>
    cases h
    rw [reference_error_pos href]
    exact isPlaceIn_self
  | case4 cur rest _ next href _ herror hrest _ _ ih =>
    cases h
    obtain ⟨p, cs⟩ := cur
    obtain rfl : cs = '&' :: rest := hrest
    obtain ⟨body, rfl, -, hpos⟩ := reference_eq_ok_iff.mp href
    have hplace := ih herror
    rw [hpos] at hplace
    have := hplace.append
    simpa using this
  | case6 cur c rest hrest _ _ _ herror ih =>
    cases h
    rw [hrest]
    have hplace : IsPlaceIn (cur.pos.afterAll [c]) rest error.pos := ih herror
    exact hplace.append

theorem skipConstruct_error_pos {lead : Nat} {terminator : List Char} {fault : Fault}
    {cur : Cursor} (h : skipConstruct lead terminator fault cur = .error error) :
    error.pos = cur.pos := by
  rw [skipConstruct] at h
  split at h <;> cases h
  rfl

theorem contentStep_error_pos {cur : Cursor} (h : contentStep cur = .error error) :
    IsPlaceIn cur.pos cur.rest error.pos := by
  rw [contentStep.eq_def] at h
  split at h
  case h_1 | h_5 | h_6 => cases h
  case h_2 | h_3 | h_4 =>
    rw [skipConstruct_error_pos h]
    exact isPlaceIn_self
  case h_7 =>
    split at h
    · next hread =>
      cases h
      exact characters_error_pos hread
    · split at h <;> cases h

theorem quotedStep_error_pos {quote : Char} (hquote : quote = '"' ∨ quote = '\'')
    (h : quotedStep quote ⟨p, quote :: cs⟩ = .error error) :
    IsPlaceIn p (quote :: cs) error.pos := by
  rw [quotedStep] at h
  split at h
  · next hread =>
    cases h
    exact (characters_error_pos hread).of_drop
  · next text fin hread =>
    obtain ⟨written, rfl, hpos, -, -⟩ :=
      (characters_eq_ok_iff (p := p.after quote) (amp_goes_on hquote)).mp hread
    split at h
    · cases h
      exact isPlaceIn_self
    · split at h
      · cases h
      · cases h
        exact ⟨quote :: written, fin.rest, rfl, hpos⟩

theorem tagItem_error_pos (h : tagItem ⟨p, cs⟩ = .error error) : IsPlaceIn p cs error.pos := by
  rw [tagItem.eq_def] at h
  split at h
  case h_1 => cases h; exact isPlaceIn_self
  case h_2 | h_3 | h_4 => cases h
  case h_5 hcs => cases hcs; exact quotedStep_error_pos (.inl rfl) h
  case h_6 hcs => cases hcs; exact quotedStep_error_pos (.inr rfl) h
  case h_7 =>
    split at h <;> cases h
    exact isPlaceIn_self

theorem step_error_pos (h : step mode ⟨p, cs⟩ = .error error) : IsPlaceIn p cs error.pos := by
  cases mode with
  | content => exact contentStep_error_pos h
  | tag =>
    have hplace := (tagItem_error_pos h).append
    rwa [List.takeWhile_append_dropWhile] at hplace

/-- What is at fault in reading the tokens of a source is at a place in it. -/
theorem scan_error_pos (h : scan mode ⟨p, cs⟩ = .error error) : IsPlaceIn p cs error.pos := by
  induction hn : cs.length using Nat.strongRecOn generalizing mode p cs with
  | ind n ih =>
    subst hn
    rcases scan_cases mode p cs with ⟨error', hstep, herror⟩ | ⟨rfl, rfl⟩ |
      ⟨stretch, rest, first, mode', rfl, hlt, hitem⟩
    · cases h.symm.trans herror
      exact step_error_pos hstep
    · cases h.symm.trans (scan_finish rfl)
    · have hreads := hitem.reads
      rw [Reads, h] at hreads
      cases hmore : scan mode' ⟨p.afterAll stretch, rest⟩ with
      | error error' =>
        rw [hmore] at hreads
        cases hreads
        exact (ih _ hlt hmore rfl).append
      | ok more =>
        rw [hmore] at hreads
        cases hreads

/-! ### Sources -/

/-- If a source has tokens, the last of them, and only it, is the end, there are at most as many
others as the source has characters, each is at a place further on than those before it, and that
place, counted from the start of the source, is the one where the source goes on with the lexeme of
the token. What is at fault with a source that is no document is at a place of the source as
well. -/
theorem tokens_placed (source : String) :
    (∀ tokens, tokenize source = .ok tokens →
      (∃ others last, tokens = others ++ [⟨.eof, last⟩] ∧ (∀ t ∈ others, t.token ≠ .eof) ∧
        others.length ≤ source.length) ∧
      (tokens.Pairwise fun t u => t.pos.line < u.pos.line ∨
        t.pos.line = u.pos.line ∧ t.pos.column < u.pos.column) ∧
      ∀ t ∈ tokens, ∃ read rest, source.toList = read ++ rest ∧ t.pos = .counted read ∧
        Lexeme t.token rest) ∧
      ∀ error, parse source = .error error →
        ∃ read rest, source.toList = read ++ rest ∧ error.pos = .counted read := by
  constructor
  · intro tokens h
    have hlexed : Lexed .content .start source.toList tokens := scan_eq_ok_iff.mp h
    obtain ⟨others, htokens, hlength, hothers⟩ := hlexed.exists_eof
    refine ⟨⟨others, _, htokens, hothers, hlength⟩, hlexed.pairwise_lt, fun t ht => ?_⟩
    obtain ⟨read, rest, hsource, hpos, hlexeme⟩ := hlexed.placed t ht
    exact ⟨read, rest, hsource, hpos.trans (Position.start_afterAll read), hlexeme⟩
  · intro error h
    have hplace : IsPlaceIn .start source.toList error.pos := by
      rcases bind_eq_error_iff.mp h with hscan | ⟨tokens, hscan, herror⟩
      · exact scan_error_pos hscan
      · have hlexed : Lexed .content .start source.toList tokens := scan_eq_ok_iff.mp hscan
        exact ((hlexed.ordered fun t ht => (hlexed.placed t ht).isPlaceIn).documentOfTokens_error
          herror).1
    obtain ⟨read, rest, hsource, hpos⟩ := hplace
    exact ⟨read, rest, hsource, hpos.trans (Position.start_afterAll read)⟩

end Markup

end Uiml
