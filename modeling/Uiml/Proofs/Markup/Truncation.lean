import Uiml.Proofs.Markup.Place
import Uiml.Proofs.Markup.Written

/-!
# Truncated and extended documents

The root of a document ends in a `>`. Up to there the source is read in the same way whatever comes
after it, so that a source that breaks off earlier is no document; and after it there is nothing but
asides and blanks, so that none is one that goes on with anything else.

## Main definitions

* `ReadsRoot` — the beginning of a source from which its root is read
* `RootEnds` — where the root of a document ends
* `Intrudes` — what may not come after a root

## Main results

* `Spells.prefix_free` — no two elements are spelled by beginnings of the same tokens
* `Lexed.split_closer` — a source is read up to the end of a tag as if nothing came after it
* `parse_eq_ok_iff` — which sources are documents
* `truncated_rejected` — a document is none any more if its root is cut, or something comes after it
-/

namespace Uiml.Markup

/-- The characters of the token that ends a tag. -/
def closerText (selfClosed : Bool) : List Char := if selfClosed then ['/', '>'] else ['>']

/-- The root is read from the beginning of a source up to the end of its last tag, whatever comes
after it. -/
def ReadsRoot (root : Element) (lead : List Char) (selfClosed : Bool) : Prop :=
  ∃ ts, Spells root (ts ++ [⟨closer selfClosed, Position.start.afterAll lead⟩]) ∧
    ∀ rest, Reads .content .start (lead ++ closerText selfClosed)
      (ts ++ [⟨closer selfClosed, Position.start.afterAll lead⟩]) .content rest

/-- The root of a document ends in a `>` before which there are these characters: its last token, a
`>` or a `/>`, is the last one of the source but for the end, and the `>` is the last character of
that token. -/
def RootEnds (source : String) (root : Element) (before : List Char) : Prop :=
  ∃ spelled lead selfClosed last,
    tokenize source = .ok (spelled ++ [⟨closer selfClosed, .counted lead⟩, ⟨.eof, last⟩]) ∧
      Spells root (spelled ++ [⟨closer selfClosed, .counted lead⟩]) ∧
      before = lead ++ if selfClosed then ['/'] else []

/-- Character data of which nothing is read, as it is decoded to blanks. -/
def BlankData (written : List Char) : Prop := ∃ text, Decodes (· == '<') text written ∧ Blanks text

/-- What may not come after a root: what begins with a `<` and is no aside, and character data that
is not blank. -/
inductive Intrudes : List Char → Prop
  | element {rest : List Char} (h : ∀ c ∈ rest.head?, c ≠ '!' ∧ c ≠ '?') : Intrudes ('<' :: rest)
  | data {written rest : List Char} (hdata : '<' ∉ written) (hblank : ¬ BlankData written)
      (hrest : ∀ c ∈ rest.head?, c = '<') : Intrudes (written ++ rest)

variable {mode mode' : Mode} {p q last : Position} {e e' root root' : Element}
  {cs lead lead' stretch rest rest' : List Char} {selfClosed selfClosed' : Bool}
  {a b x y ts more tokens : List PlacedToken}

/-! ### The last token of an element -/

/-- No two elements are spelled by beginnings of the same tokens. -/
theorem Spells.prefix_free (h : Spells e a) (h' : Spells e' b) (heq : a ++ x = b ++ y) :
    a = b ∧ x = y := by
  obtain ⟨body, rfl, hread⟩ := h.elementAt
  obtain ⟨body', rfl, hread'⟩ := h'.elementAt
  simp only [List.cons_append, List.cons.injEq, PlacedToken.mk.injEq, true_and] at heq
  obtain ⟨hpos, hbody⟩ := heq
  have hsame := hread .start x
  rw [hbody, hpos, hread'] at hsame
  cases hsame
  exact ⟨by rw [hpos, List.append_cancel_right hbody], rfl⟩

theorem Spells.exists_closer (h : Spells e a) :
    ∃ ts selfClosed q, a = ts ++ [⟨closer selfClosed, q⟩] := by
  cases h with
  | @selfClosed _ _ pos p q spelled =>
    exact ⟨⟨.lt, pos⟩ :: ⟨.name _, p⟩ :: spelled, true, q, rfl⟩
  | @paired tag _ _ pos p q r s t spelled inner =>
    exact ⟨⟨.lt, pos⟩ :: ⟨.name tag, p⟩ :: (spelled ++ ⟨.gt, q⟩ :: (inner ++
      [⟨.ltSlash, r⟩, ⟨.name tag, s⟩])), false, t, by simp [closer]⟩

theorem closer_ne_eof (selfClosed : Bool) : closer selfClosed ≠ .eof := by
  cases selfClosed <;> decide

theorem closer_inj (h : closer selfClosed = closer selfClosed') : selfClosed = selfClosed' := by
  cases selfClosed <;> cases selfClosed' <;> simp [closer] at h ⊢

/-- The end of a tag is read as such, whatever comes after it. -/
theorem Item.of_closer {c : Option Char}
    (h : Item p c mode stretch [⟨closer selfClosed, q⟩] mode') :
    mode' = .content ∧ ∃ lead, stretch = lead ++ closerText selfClosed ∧ q = p.afterAll lead ∧
      ∀ rest, Reads mode p stretch [⟨closer selfClosed, q⟩] .content rest := by
  cases selfClosed with
  | false =>
    cases h with
    | inTag hblanks h =>
      cases h
      exact ⟨rfl, _, rfl, rfl, fun _ => reads_gt hblanks⟩
  | true =>
    cases h with
    | inTag hblanks h =>
      cases h
      exact ⟨rfl, _, rfl, rfl, fun _ => reads_slashGt hblanks⟩

/-- A source is read up to the end of a tag as if nothing came after it. -/
theorem Lexed.split_closer (h : Lexed mode p cs tokens)
    (htokens : tokens = ts ++ ⟨closer selfClosed, q⟩ :: more) :
    ∃ lead rest, cs = lead ++ closerText selfClosed ++ rest ∧ q = p.afterAll lead ∧
      (∀ rest', Reads mode p (lead ++ closerText selfClosed) (ts ++ [⟨closer selfClosed, q⟩])
        .content rest') ∧
      Lexed .content (p.afterAll (lead ++ closerText selfClosed)) rest more := by
  induction h generalizing ts with
  | finish =>
    rcases ts with _ | ⟨t, ts⟩
    · cases selfClosed <;> cases htokens
    · simp at htokens
  | @item p mode mode' stretch rest tokens more' h hmore ih =>
    -- an item before the end of the tag is told by what there is up to that end
    have hbefore : ∀ ts', more' = ts' ++ ⟨closer selfClosed, q⟩ :: more →
        ∃ lead rest', stretch ++ rest = lead ++ closerText selfClosed ++ rest' ∧
          q = p.afterAll lead ∧
          (∀ rest, Reads mode p (lead ++ closerText selfClosed)
            (tokens ++ ts' ++ [⟨closer selfClosed, q⟩]) .content rest) ∧
          Lexed .content (p.afterAll (lead ++ closerText selfClosed)) rest' more := by
      intro ts' hts'
      obtain ⟨lead, rest', rfl, rfl, hreads, hrest⟩ := ih hts'
      refine ⟨stretch ++ lead, rest', by simp, (Position.afterAll_append ..).symm,
        fun rest => ?_, ?_⟩
      · have hhead : (lead ++ closerText selfClosed ++ rest').head? =
            (lead ++ closerText selfClosed ++ rest).head? := by
          cases selfClosed <;> cases lead <;> rfl
        rw [hhead] at h
        have := h.reads.trans (hreads rest)
        simpa using this
      · rwa [List.append_assoc, Position.afterAll_append]
    rcases h.leads with ⟨rfl, -⟩ | ⟨t, rfl, -⟩
    · exact hbefore ts htokens
    · rcases ts with _ | ⟨t', ts⟩
      · cases htokens
        obtain ⟨rfl, lead, rfl, rfl, hreads⟩ := h.of_closer
        exact ⟨lead, rest, rfl, rfl, hreads, hmore⟩
      · cases htokens
        exact hbefore ts rfl

/-! ### Documents -/

/-- A source is a document if it is made of items, of which the tokens spell the document. -/
theorem parse_eq_ok_iff {source : String} : parse source = .ok root ↔
    ∃ tokens, Lexed .content .start source.toList tokens ∧ SpellsDocument root tokens := by
  constructor
  · intro h
    obtain ⟨tokens, hscan, hdocument⟩ := exists_of_bind_eq_ok h
    exact ⟨tokens, scan_eq_ok_iff.mp hscan, spellsDocument_of_documentOfTokens hdocument⟩
  · rintro ⟨tokens, hlexed, hdocument⟩
    have hscan : tokenize source = .ok tokens := scan_eq_ok_iff.mpr hlexed
    rw [parse, hscan]
    exact hdocument.documentOfTokens

/-- The tokens of a document are those of its root, the last of which ends a tag, and the end. -/
theorem Lexed.exists_closer (h : Lexed mode p cs tokens) (hdocument : SpellsDocument root tokens) :
    ∃ ts selfClosed q, tokens = ts ++ [⟨closer selfClosed, q⟩, ⟨.eof, p.afterAll cs⟩] ∧
      Spells root (ts ++ [⟨closer selfClosed, q⟩]) := by
  obtain ⟨others, htokens, -, hothers⟩ := h.exists_eof
  obtain ⟨spelled, rest, rfl, hspelled, hrest⟩ := hdocument
  obtain ⟨ts, selfClosed, q, rfl⟩ := hspelled.exists_closer
  refine ⟨ts, selfClosed, q, ?_, hspelled⟩
  rcases hrest with rfl | ⟨q', more, rfl⟩
  · -- the last token of the root is not the end of the source
    rw [List.append_nil] at htokens
    have hlast := List.append_inj_right' htokens rfl
    simp only [List.cons.injEq, PlacedToken.mk.injEq, and_true] at hlast
    exact absurd hlast.1 (closer_ne_eof selfClosed)
  · rcases List.eq_nil_or_concat more with rfl | ⟨more, t, rfl⟩
    · have hlast := List.append_inj_right' htokens rfl
      simp only [List.cons.injEq, and_true] at hlast
      rw [hlast]
      simp
    · -- the end comes only once
      rw [List.concat_eq_append, ← List.cons_append, ← List.append_assoc] at htokens
      have hinside := List.append_inj_left' htokens rfl
      exact absurd rfl (hothers ⟨.eof, q'⟩ (by rw [← hinside]; simp))

/-- Two roots that are read from the beginning of the same tokens end at the same place. -/
theorem ReadsRoot.eq (h : ReadsRoot root lead selfClosed) (h' : ReadsRoot root' lead' selfClosed')
    (hcs : cs = lead ++ closerText selfClosed ++ rest)
    (hcs' : cs = lead' ++ closerText selfClosed' ++ rest')
    (hscan : scan .content ⟨.start, cs⟩ = .ok tokens) :
    lead = lead' ∧ selfClosed = selfClosed' := by
  obtain ⟨ts, hspelled, hreads⟩ := h
  obtain ⟨ts', hspelled', hreads'⟩ := h'
  have hroot := hreads rest
  have hroot' := hreads' rest'
  rw [Reads, ← hcs, hscan] at hroot
  rw [Reads, ← hcs', hscan] at hroot'
  obtain ⟨more, -, htokens⟩ := exists_of_map hroot.symm
  obtain ⟨more', -, htokens'⟩ := exists_of_map hroot'.symm
  obtain ⟨hsame, -⟩ := hspelled.prefix_free hspelled' (htokens.trans htokens'.symm)
  have hlast := List.append_inj_right' hsame rfl
  simp only [List.cons.injEq, PlacedToken.mk.injEq, and_true] at hlast
  obtain ⟨hcloser, hplace⟩ := hlast
  have hlead : lead <+: cs := hcs ▸ (List.prefix_append _ _).trans (List.prefix_append _ _)
  have hlead' : lead' <+: cs := hcs' ▸ (List.prefix_append _ _).trans (List.prefix_append _ _)
  exact ⟨Position.eq_of_afterAll_eq hlead hlead' hplace, closer_inj hcloser⟩

/-- A document is read as its root, whatever comes after it, and then as nothing. -/
theorem exists_readsRoot {source : String} (h : parse source = .ok root) :
    ∃ lead selfClosed rest last, source.toList = lead ++ closerText selfClosed ++ rest ∧
      ReadsRoot root lead selfClosed ∧
      RootEnds source root (lead ++ if selfClosed then ['/'] else []) ∧
      Lexed .content (Position.start.afterAll (lead ++ closerText selfClosed)) rest
        [⟨.eof, last⟩] := by
  obtain ⟨tokens, hlexed, hdocument⟩ := parse_eq_ok_iff.mp h
  obtain ⟨ts, selfClosed, q, rfl, hspelled⟩ := hlexed.exists_closer hdocument
  have hscan : tokenize source = _ := scan_eq_ok_iff.mpr hlexed
  obtain ⟨lead, rest, hsource, rfl, hreads, hrest⟩ := hlexed.split_closer rfl
  refine ⟨lead, selfClosed, rest, _, hsource, ⟨ts, hspelled, hreads⟩, ?_, hrest⟩
  rw [Position.start_afterAll] at hscan hspelled
  exact ⟨ts, lead, selfClosed, _, hscan, hspelled, rfl⟩

/-! ### What comes after a root -/

section After

variable {data data' : List Char → Prop} {w f g : List Char}

theorem Filler.mono (hdata : ∀ w, data w → data' w) (h : Filler data f) : Filler data' f := by
  induction h with
  | data h => exact .data (hdata _ h)
  | aside h haside _ ih => exact .aside (hdata _ h) haside ih

/-- A filler goes on with another, if data goes on with data. -/
theorem Filler.append (hdata : ∀ {a b}, data a → data b → data (a ++ b)) (hf : Filler data f)
    (hg : Filler data g) : Filler data (f ++ g) := by
  induction hf with
  | @data w hw =>
    cases hg with
    | data hg => exact .data (hdata hw hg)
    | aside h haside hmore =>
      rw [← List.append_assoc]
      exact .aside (hdata hw h) haside hmore
  | aside h haside _ ih =>
    rw [List.append_assoc, List.append_assoc]
    exact .aside h haside ih

theorem BlankData.append {a b : List Char} (ha : BlankData a) (hb : BlankData b) :
    BlankData (a ++ b) := by
  obtain ⟨text, htext, hblank⟩ := ha
  obtain ⟨text', htext', hblank'⟩ := hb
  exact ⟨text ++ text', htext.append htext', List.forall_mem_append.mpr ⟨hblank, hblank'⟩⟩

theorem BlankData.reads (h : BlankData w) (p : Position) (hrest : ∀ c ∈ rest.head?, c = '<') :
    Reads .content p w [] .content rest := by
  obtain ⟨text, htext, hblank⟩ := h
  have hreads := reads_data (p := p) htext hrest
  rwa [if_pos (List.all_eq_true.mpr hblank)] at hreads

theorem blankData_nil : BlankData [] := ⟨[], .nil, by simp [Blanks]⟩

theorem Aside.head? (h : Aside stretch) : stretch.head? = some '<' := by
  cases h <;> rfl

/-- Only the data at the end of a filler is told by what comes after it. -/
theorem Filler.exists_last (h : Filler BlankData f) : ∃ g w, f = g ++ w ∧ BlankData w ∧
    ∀ p rest, Reads .content p g [] .content rest := by
  induction h with
  | @data w hw => exact ⟨[], w, rfl, hw, fun _ _ => .nil⟩
  | @aside written aside rest hwritten haside _ ih =>
    obtain ⟨g, w, rfl, hw, hreads⟩ := ih
    refine ⟨written ++ (aside ++ g), w, by simp, hw, fun p rest => ?_⟩
    have hnext : ∀ c ∈ (aside ++ g ++ rest).head?, c = '<' := by
      obtain ⟨tail, rfl⟩ := List.head?_eq_some_iff.mp haside.head?
      rintro _ ⟨⟩
      rfl
    exact (hwritten.reads p hnext).trans (haside.reads.trans (hreads _ rest))

/-- If nothing is read of the rest of a source, it is a filler. -/
theorem Lexed.filler (h : Lexed mode p cs tokens) (htokens : tokens = [⟨.eof, last⟩]) :
    Filler BlankData cs := by
  induction h with
  | finish => exact .data blankData_nil
  | item h _ ih =>
    cases h with
    | aside h => exact .aside blankData_nil h (ih htokens)
    | blank h _ hblank => exact (Filler.data ⟨_, h, hblank⟩).append BlankData.append (ih htokens)
    | text | opening | closing => cases htokens
    | inTag _ h => cases h <;> cases htokens

/-- What comes before the first `<` of a text is the same however it is found. -/
theorem eq_of_append_eq {a b r s : List Char} (ha : '<' ∉ a) (hr : ∀ c ∈ r.head?, c = '<')
    (hb : '<' ∉ b) (hs : ∀ c ∈ s.head?, c = '<') (heq : a ++ r = b ++ s) : a = b := by
  have htake : ∀ {a r : List Char}, '<' ∉ a → (∀ c ∈ r.head?, c = '<') →
      (a ++ r).takeWhile (· != '<') = a := by
    intro a r ha hr
    have hgoes : ∀ c ∈ a, (c != '<') = true := fun c hc => by
      simpa using ne_of_mem_of_not_mem hc ha
    rw [List.takeWhile_append_of_pos hgoes]
    cases r with
    | nil => simp
    | cons c r => simp [hr c rfl]
  rw [← htake ha hr, heq, htake hb hs]

/-- Character data that goes on after blank data, and is not blank itself, is read as a token. -/
theorem exists_token_of_data {written : List Char} (hw : BlankData w) (hdata : '<' ∉ written)
    (hblank : ¬ BlankData written) (hrest : ∀ c ∈ rest.head?, c = '<')
    (hlexed : Lexed .content p (w ++ written ++ rest) tokens) :
    ∃ t more, tokens = t :: more ∧ t.token ≠ .eof := by
  obtain ⟨text, htext, hnone⟩ := hw
  have hrun : '<' ∉ w ++ written := by
    rw [List.mem_append, not_or]
    exact ⟨htext.lt_not_mem, hdata⟩
  have hne : w ++ written ≠ [] := by
    intro hnil
    rw [(List.append_eq_nil_iff.mp hnil).2] at hblank
    exact hblank blankData_nil
  generalize hcs : w ++ written ++ rest = cs at hlexed
  cases hlexed with
  | finish => exact absurd (List.append_eq_nil_iff.mp hcs).1 hne
  | item h _ =>
    cases h with
    | aside h =>
      -- an aside begins with a `<`, and the data does not
      obtain ⟨tail, rfl⟩ := List.head?_eq_some_iff.mp h.head?
      obtain ⟨c, run, hc⟩ := List.exists_cons_of_ne_nil hne
      rw [hc, List.cons_append, List.cons_append] at hcs
      rw [hc, (List.cons.inj hcs).1] at hrun
      exact absurd List.mem_cons_self hrun
    | blank h _ hall hnext =>
      -- if all of the data is blank, so is the part that is not
      have hsame := eq_of_append_eq hrun hrest h.lt_not_mem hnext hcs
      rw [← hsame] at h
      obtain ⟨more, rfl, hmore⟩ := htext.exists_of_append rfl h
      exact absurd ⟨more, hmore, (List.forall_mem_append.mp hall).2⟩ hblank
    | text => exact ⟨_, _, rfl, by simp⟩
    | opening => exact ⟨_, _, rfl, by simp⟩
    | closing => exact ⟨_, _, rfl, by simp⟩

/-- A tag is read as a token. -/
theorem exists_token_of_element (h : ∀ c ∈ rest.head?, c ≠ '!' ∧ c ≠ '?')
    (hscan : scan .content ⟨p, '<' :: rest⟩ = .ok tokens) :
    ∃ t more, tokens = t :: more ∧ t.token ≠ .eof := by
  by_cases hclose : rest.head? = some '/'
  · obtain ⟨tail, rfl⟩ := List.head?_eq_some_iff.mp hclose
    have hreads : Reads .content p ['<', '/'] [⟨.ltSlash, p⟩] .tag tail := reads_ltSlash
    rw [Reads, List.cons_append, List.cons_append, List.nil_append, hscan] at hreads
    obtain ⟨more, -, rfl⟩ := exists_of_map hreads.symm
    exact ⟨_, more, rfl, by simp⟩
  · have hnext : ∀ c ∈ rest.head?, c ≠ '!' ∧ c ≠ '?' ∧ c ≠ '/' :=
      fun c hc => ⟨(h c hc).1, (h c hc).2, fun heq => hclose (heq ▸ hc)⟩
    have hreads : Reads .content p ['<'] [⟨.lt, p⟩] .tag rest := reads_lt hnext
    rw [Reads, List.cons_append, List.nil_append, hscan] at hreads
    obtain ⟨more, -, rfl⟩ := exists_of_map hreads.symm
    exact ⟨_, more, rfl, by simp⟩

/-- A filler and what may not come after a root do not read as the end. -/
theorem Intrudes.exists_token (h : Intrudes cs) (hf : Filler BlankData f)
    (hscan : scan .content ⟨p, f ++ cs⟩ = .ok tokens) :
    ∃ t more, tokens = t :: more ∧ t.token ≠ .eof := by
  obtain ⟨g, w, rfl, hw, hreads⟩ := hf.exists_last
  have hg := hreads p (w ++ cs)
  rw [Reads, ← List.append_assoc, hscan] at hg
  obtain ⟨tokens', hscan', rfl⟩ := exists_of_map hg.symm
  rw [List.nil_append]
  cases h with
  | @element rest h =>
    have hread : Reads .content (p.afterAll g) w [] .content ('<' :: rest) :=
      hw.reads _ (by rintro _ ⟨⟩; rfl)
    rw [Reads, hscan'] at hread
    obtain ⟨tokens'', hscan'', rfl⟩ := exists_of_map hread.symm
    exact exists_token_of_element h hscan''
  | data hdata hblank hrest =>
    rw [← List.append_assoc] at hscan'
    exact exists_token_of_data hw hdata hblank hrest (scan_eq_ok_iff.mp hscan')

end After

/-! ### Cut and extended documents -/

/-- No document breaks off before the end of the root of another. -/
theorem ReadsRoot.not_cut {source cut : List Char} (h : ReadsRoot root lead selfClosed)
    (hsource : source = lead ++ closerText selfClosed ++ rest)
    (hscan : scan .content ⟨.start, source⟩ = .ok tokens)
    (hcut : cut <+: lead ++ if selfClosed then ['/'] else []) :
    parse (String.ofList cut) ≠ .ok root' := by
  intro hparse
  obtain ⟨lead', selfClosed', rest', _, hcut', hroot', -⟩ := exists_readsRoot hparse
  rw [String.toList_ofList] at hcut'
  have hbefore : closerText selfClosed = (if selfClosed then ['/'] else []) ++ ['>'] := by
    cases selfClosed <;> rfl
  obtain ⟨more, hmore⟩ := hcut
  -- the root of what breaks off is read from the source as well
  have hsource' : source = lead' ++ closerText selfClosed' ++ (rest' ++ more ++ ['>'] ++ rest) := by
    rw [hsource, hbefore, ← List.append_assoc, ← hmore, hcut']
    simp
  obtain ⟨rfl, rfl⟩ := h.eq hroot' hsource hsource' hscan
  -- so both end with the same `>`, which what breaks off does not reach
  have hlength := congrArg List.length hmore
  rw [hcut', hbefore] at hlength
  simp at hlength

/-- Nothing that may not come after a root comes after it. -/
theorem ReadsRoot.not_intrudes {filler : List Char} (h : ReadsRoot root lead selfClosed)
    (hfiller : Filler BlankData filler) (hcs : Intrudes cs) :
    parse (String.ofList (lead ++ closerText selfClosed ++ (filler ++ cs))) ≠ .ok root' := by
  intro hparse
  obtain ⟨tokens, hlexed, hdocument⟩ := parse_eq_ok_iff.mp hparse
  rw [String.toList_ofList] at hlexed
  obtain ⟨ts, hspelled, hreads⟩ := h
  have hroot := hreads (filler ++ cs)
  rw [Reads, scan_eq_ok_iff.mpr hlexed] at hroot
  obtain ⟨more, hscan, rfl⟩ := exists_of_map hroot.symm
  obtain ⟨t, others, rfl, ht⟩ := hcs.exists_token hfiller hscan
  obtain ⟨spelled, rest, htokens, hspelled', hrest⟩ := hdocument
  obtain ⟨-, rfl⟩ := hspelled.prefix_free hspelled' htokens
  rcases hrest with hrest | ⟨p, more, hrest⟩
  · cases hrest
  · cases hrest
    exact ht rfl

/-- A document ends with its root, which has a last `>`. A source that is a beginning of a document
and breaks off before that `>` is no document; nor is one that goes on after a document, and after
blanks and asides, with a tag or with character data that is not blank. -/
theorem truncated_rejected {source : String} (h : parse source = .ok root) :
    ∃ before after, source.toList = before ++ '>' :: after ∧ RootEnds source root before ∧
      (∀ cut, cut <+: before → ∃ error, parse (String.ofList cut) = .error error) ∧
      ∀ filler more, Filler Blanks filler → Intrudes more →
        ∃ error, parse (source ++ String.ofList (filler ++ more)) = .error error := by
  have hrefused : ∀ {text : String}, (∀ e, parse text ≠ .ok e) →
      ∃ error, parse text = .error error := by
    intro text hne
    cases hparse : parse text with
    | error error => exact ⟨error, rfl⟩
    | ok e => exact absurd hparse (hne e)
  obtain ⟨lead, selfClosed, rest, last, hsource, hroot, hends, hrest⟩ := exists_readsRoot h
  obtain ⟨tokens, hlexed, -⟩ := parse_eq_ok_iff.mp h
  refine ⟨_, rest, ?_, hends, fun cut hcut => hrefused fun e => ?_,
    fun filler more hfiller hmore => hrefused fun e => ?_⟩
  · rw [hsource]
    cases selfClosed <;> simp [closerText]
  · exact hroot.not_cut hsource (scan_eq_ok_iff.mpr hlexed) hcut
  · have hfiller' : Filler BlankData (rest ++ filler) :=
      (hrest.filler rfl).append BlankData.append
        (hfiller.mono fun w hw => ⟨w, Blanks.decodes hw, hw⟩)
    have htext : source ++ String.ofList (filler ++ more) =
        String.ofList (lead ++ closerText selfClosed ++ (rest ++ filler ++ more)) := by
      rw [← String.toList_inj, String.toList_append, hsource]
      simp
    rw [htext]
    exact hroot.not_intrudes hfiller' hmore

/-- A document with a blank after its root. -/
theorem truncated_rejected_paired :
    parse "<a>x</a>\n" = .ok ⟨"a", [], [], ⟨1, 1⟩⟩ ∧
      ∃ before after, "<a>x</a>\n".toList = before ++ '>' :: after ∧
        RootEnds "<a>x</a>\n" ⟨"a", [], [], ⟨1, 1⟩⟩ before ∧
        (∀ cut, cut <+: before → ∃ error, parse (String.ofList cut) = .error error) ∧
        ∀ filler more, Filler Blanks filler → Intrudes more →
          ∃ error, parse ("<a>x</a>\n" ++ String.ofList (filler ++ more)) = .error error := by
  have htokens : tokenize "<a>x</a>\n" = .ok ([⟨.lt, ⟨1, 1⟩⟩, ⟨.name "a", ⟨1, 2⟩⟩,
      ⟨.gt, ⟨1, 3⟩⟩, ⟨.text "x", ⟨1, 4⟩⟩, ⟨.ltSlash, ⟨1, 5⟩⟩, ⟨.name "a", ⟨1, 7⟩⟩,
      ⟨.gt, ⟨1, 8⟩⟩] ++ [⟨.eof, ⟨2, 1⟩⟩]) := by decide +kernel
  have hspelled : Spells ⟨"a", [], [], ⟨1, 1⟩⟩ [⟨.lt, ⟨1, 1⟩⟩, ⟨.name "a", ⟨1, 2⟩⟩,
      ⟨.gt, ⟨1, 3⟩⟩, ⟨.text "x", ⟨1, 4⟩⟩, ⟨.ltSlash, ⟨1, 5⟩⟩, ⟨.name "a", ⟨1, 7⟩⟩,
      ⟨.gt, ⟨1, 8⟩⟩] :=
    .paired .nil List.nodup_nil (.text .nil)
  have h : parse "<a>x</a>\n" = .ok ⟨"a", [], [], ⟨1, 1⟩⟩ := by
    rw [parse, htokens]
    exact SpellsDocument.documentOfTokens ⟨_, _, rfl, hspelled, .inr ⟨_, [], rfl⟩⟩
  exact ⟨h, truncated_rejected h⟩

end Uiml.Markup
