import Uiml.Proofs.Markup.Grammar
import Uiml.Proofs.Markup.Scan

/-!
# Written documents

The ways to write an element tree as a source, and that each of them is read back as the tree. There
may be blanks before each token of a tag, and any character of a value may be a reference. Between
the children of an element, and around the root, stands what does not count: asides, and character
data or blanks.

The relations carry the place at which a stretch of the source begins, and so fix the places of the
elements that it writes.

## Main definitions

* `WritesTag` — an opening tag, without what ends it
* `Filler` — asides with data in between
* `WritesElement`, `WritesChildren` — an element, and the children of an element, at a place
* `WritesDocument` — a source

## Main results

* `WritesElement.reads` — the tokens of a written element spell it
* `parse_of_writesDocument` — a written document is read back
-/

namespace Uiml.Markup

/-- Attributes, each with a value in quotes. -/
inductive WritesAttributes : List Attribute → List Char → Prop
  | nil : WritesAttributes [] []
  | cons {key value : String} {quote : Char} {b b' b'' written rest : List Char}
      {attributes : List Attribute} (hb : Blanks b) (hkey : IsName key.toList) (hb' : Blanks b')
      (hb'' : Blanks b'') (hquote : quote = '"' ∨ quote = '\'')
      (hvalue : Writes (fun c => c ≠ '&' ∧ c ≠ '<' ∧ c ≠ quote) value.toList written)
      (h : WritesAttributes attributes rest) :
      WritesAttributes (⟨key, value⟩ :: attributes)
        ((b ++ key.toList) ++ ((b' ++ ['=']) ++ ((b'' ++ quote :: (written ++ [quote])) ++ rest)))

/-- An opening tag without its `>` or `/>`: the tag is a name, of which the first attribute is set
off by a blank, and the keys are distinct. -/
inductive WritesTag : String → List Attribute → List Char → Prop
  | mk {tag : String} {attributes : List Attribute} {blanks written : List Char}
      (hblanks : Blanks blanks) (htag : IsName tag.toList)
      (hattributes : WritesAttributes attributes written)
      (hapart : ∀ c ∈ written.head?, Text.isBlank c = true)
      (hkeys : (attributes.map Attribute.key).Nodup) :
      WritesTag tag attributes (['<'] ++ ((blanks ++ tag.toList) ++ written))

/-- Asides with data of a kind, possibly none, before, between and after them. -/
inductive Filler (data : List Char → Prop) : List Char → Prop
  | data {written : List Char} (h : data written) : Filler data written
  | aside {written aside rest : List Char} (hdata : data written) (haside : Aside aside)
      (h : Filler data rest) : Filler data (written ++ (aside ++ rest))

/-- Character data: anything, with `&` and `<` as references. -/
def CharacterData (written : List Char) : Prop :=
  ∃ text, Writes (fun c => c ≠ '&' ∧ c ≠ '<') text written

mutual

/-- An element, of which the `<` stands at a place. -/
inductive WritesElement : Position → Element → List Char → Prop
  | selfClosed {p : Position} {tag : String} {attributes : List Attribute} {opening b : List Char}
      (htag : WritesTag tag attributes opening) (hb : Blanks b) :
      WritesElement p ⟨tag, attributes, [], p⟩ (opening ++ (b ++ ['/', '>']))
  | paired {p : Position} {tag : String} {attributes : List Attribute} {children : List Element}
      {opening b inner b' b'' : List Char} (htag : WritesTag tag attributes opening)
      (hb : Blanks b)
      (hchildren : WritesChildren (p.afterAll (opening ++ (b ++ ['>']))) children inner)
      (hb' : Blanks b') (hb'' : Blanks b'') :
      WritesElement p ⟨tag, attributes, children, p⟩
        ((opening ++ (b ++ ['>'])) ++
          (inner ++ (['<', '/'] ++ ((b' ++ tag.toList) ++ (b'' ++ ['>'])))))

/-- Elements from a place on, with asides and character data before, between and after them. -/
inductive WritesChildren : Position → List Element → List Char → Prop
  | nil {p : Position} {filler : List Char} (h : Filler CharacterData filler) :
      WritesChildren p [] filler
  | cons {p : Position} {e : Element} {children : List Element} {filler first rest : List Char}
      (hfiller : Filler CharacterData filler) (he : WritesElement (p.afterAll filler) e first)
      (h : WritesChildren ((p.afterAll filler).afterAll first) children rest) :
      WritesChildren p (e :: children) (filler ++ (first ++ rest))

end

/-- A source: an element with asides and blanks around it. -/
def WritesDocument (root : Element) (source : List Char) : Prop :=
  ∃ before written after, source = before ++ (written ++ after) ∧ Filler Blanks before ∧
    WritesElement (Position.start.afterAll before) root written ∧ Filler Blanks after

variable {p : Position} {tag : String} {attributes : List Attribute} {e : Element}
  {children : List Element} {written rest : List Char}

/-! ### Tags -/

/-- The tokens of written attributes spell them. -/
theorem WritesAttributes.reads (h : WritesAttributes attributes written) (p : Position)
    (rest : List Char) :
    ∃ tokens, SpellsAttributes attributes tokens ∧ Reads .tag p written tokens .tag rest := by
  induction h generalizing p with
  | nil => exact ⟨[], .nil, .nil⟩
  | @cons key value quote b b' b'' written more attributes hb hkey hb' hb'' hquote hvalue _ ih =>
    obtain ⟨tokens, hspells, hreads⟩ := ih
      (((p.afterAll (b ++ key.toList)).afterAll (b' ++ ['='])).afterAll
        (b'' ++ quote :: (written ++ [quote])))
    -- a key ends before its equals sign or the blanks before that
    have hends : ∀ c ∈ ((b' ++ ['=']) ++ ((b'' ++ quote :: (written ++ [quote])) ++ more) ++
        rest).head?, isNameChar c = false := by
      simp only [List.append_assoc]
      exact hb'.ends_name (by rintro _ ⟨⟩; rfl)
    exact ⟨_, .cons hspells, (reads_name hb hkey hends).trans
      ((reads_eq hb').trans ((reads_value hb'' hquote hvalue.decodes_value).trans hreads))⟩

theorem WritesTag.isName (h : WritesTag tag attributes written) : IsName tag.toList := by
  cases h
  assumption

/-- The tokens of a written tag are a `<`, the name of the tag, and what spells its attributes. -/
theorem WritesTag.reads (h : WritesTag tag attributes written) (p : Position)
    (hrest : ∀ c ∈ rest.head?, isNameChar c = false) :
    (attributes.map Attribute.key).Nodup ∧ ∃ q tokens, SpellsAttributes attributes tokens ∧
      Reads .content p written (⟨.lt, p⟩ :: ⟨.name tag, q⟩ :: tokens) .tag rest := by
  cases h with
  | @mk blanks written hblanks htag hattributes hapart hkeys =>
    obtain ⟨tokens, hspells, hreads⟩ := hattributes.reads
      ((p.afterAll ['<']).afterAll (blanks ++ tag.toList)) rest
    -- the name of the tag ends at the blank before the first key, or with the tag
    have hends : ∀ c ∈ (written ++ rest).head?, isNameChar c = false := by
      rcases written with _ | ⟨c, written⟩
      · exact hrest
      · rintro _ ⟨⟩
        exact isNameChar_of_isBlank (hapart c rfl)
    have hopens : ∀ c ∈ ((blanks ++ tag.toList) ++ written ++ rest).head?,
        c ≠ '!' ∧ c ≠ '?' ∧ c ≠ '/' := by
      simp only [List.append_assoc]
      exact hblanks.opens_tag htag
    exact ⟨hkeys, _, tokens, hspells,
      (reads_lt hopens).trans ((reads_name hblanks htag hends).trans hreads)⟩

/-! ### What stands between elements -/

/-- If data is read as tokens of a kind, so is a filler with such data. -/
theorem Filler.reads {data : List Char → Prop} (kind : PlacedToken → Prop)
    (hdata : ∀ {written}, data written → ∀ p rest, (∀ c ∈ rest.head?, c = '<') →
      ∃ tokens, (∀ t ∈ tokens, kind t) ∧ Reads .content p written tokens .content rest)
    (h : Filler data written) (p : Position) (hrest : ∀ c ∈ rest.head?, c = '<') :
    ∃ tokens, (∀ t ∈ tokens, kind t) ∧ Reads .content p written tokens .content rest := by
  induction h generalizing p with
  | data h => exact hdata h p rest hrest
  | @aside written aside more hwritten haside _ ih =>
    obtain ⟨tokens, hkind, hreads⟩ := ih ((p.afterAll written).afterAll aside)
    have hnext : ∀ c ∈ (aside ++ more ++ rest).head?, c = '<' := by
      cases haside <;> (rintro _ ⟨⟩; rfl)
    obtain ⟨first, hfirst, hreads'⟩ := hdata hwritten p (aside ++ more ++ rest) hnext
    refine ⟨first ++ ([] ++ tokens), ?_, hreads'.trans (haside.reads.trans hreads)⟩
    simpa [or_imp, forall_and] using ⟨hfirst, hkind⟩

/-- Character data is read as texts. -/
theorem CharacterData.reads (h : CharacterData written) (p : Position) (rest : List Char)
    (hrest : ∀ c ∈ rest.head?, c = '<') :
    ∃ tokens, (∀ t ∈ tokens, ∃ s q, t = ⟨.text s, q⟩) ∧
      Reads .content p written tokens .content rest := by
  obtain ⟨text, htext⟩ := h
  refine ⟨_, ?_, reads_data htext.decodes_data hrest⟩
  split
  · simp
  · simp

/-- Blanks are character data of which nothing is read. -/
theorem Blanks.reads (h : Blanks written) (p : Position) (hrest : ∀ c ∈ rest.head?, c = '<') :
    Reads .content p written [] .content rest := by
  have hreads := reads_data (p := p) h.decodes hrest
  rwa [if_pos (List.all_eq_true.mpr h)] at hreads

theorem Filler.reads_blanks (h : Filler Blanks written) (p : Position)
    (hrest : ∀ c ∈ rest.head?, c = '<') : Reads .content p written [] .content rest := by
  obtain ⟨tokens, hnone, hreads⟩ := h.reads (fun _ => False)
    (fun hblanks p rest hrest => ⟨[], by simp, hblanks.reads p hrest⟩) p hrest
  rwa [List.eq_nil_iff_forall_not_mem.mpr hnone] at hreads

theorem SpellsChildren.append_text {texts spelled : List PlacedToken}
    (htexts : ∀ t ∈ texts, ∃ s q, t = ⟨.text s, q⟩) (h : SpellsChildren children spelled) :
    SpellsChildren children (texts ++ spelled) := by
  induction texts with
  | nil => exact h
  | cons t texts ih =>
    obtain ⟨⟨s, q, rfl⟩, hmore⟩ := List.forall_mem_cons.mp htexts
    exact .text (ih hmore)

/-! ### Elements -/

theorem WritesElement.head? (h : WritesElement p e written) : written.head? = some '<' := by
  cases h with
  | selfClosed htag => cases htag; rfl
  | paired htag => cases htag; rfl

mutual

/-- The tokens of a written element spell it. -/
theorem WritesElement.reads : ∀ {p : Position} {e : Element} {written : List Char},
    WritesElement p e written → ∀ rest, ∃ tokens, Spells e tokens ∧
      Reads .content p written tokens .content rest
  | _, _, _, @WritesElement.selfClosed p tag attributes opening b htag hb, rest => by
    have hends : ∀ c ∈ (b ++ ['/', '>'] ++ rest).head?, isNameChar c = false := by
      simp only [List.append_assoc]
      exact hb.ends_name (by rintro _ ⟨⟩; rfl)
    obtain ⟨hkeys, q, tokens, hspells, hreads⟩ := htag.reads p hends
    exact ⟨_, .selfClosed hspells hkeys, hreads.trans (reads_slashGt hb)⟩
  | _, _, _, @WritesElement.paired p tag attributes children opening b inner b' b'' htag hb
      hchildren hb' hb'', rest => by
    let closing : List Char := ['<', '/'] ++ ((b' ++ tag.toList) ++ (b'' ++ ['>']))
    have hends : ∀ c ∈ ((b ++ ['>']) ++ ((inner ++ closing) ++ rest)).head?,
        isNameChar c = false := by
      simp only [List.append_assoc]
      exact hb.ends_name (by rintro _ ⟨⟩; rfl)
    have hends' : ∀ c ∈ ((b'' ++ ['>']) ++ rest).head?, isNameChar c = false := by
      simp only [List.append_assoc]
      exact hb''.ends_name (by rintro _ ⟨⟩; rfl)
    obtain ⟨hkeys, q, tokens, hspells, hopening⟩ := htag.reads p hends
    obtain ⟨between, hchildren, hinner⟩ := hchildren.reads (closing ++ rest) (by rintro _ ⟨⟩; rfl)
    have hreads := (hopening.trans (reads_gt hb)).trans (hinner.trans
      (reads_ltSlash.trans ((reads_name hb' htag.isName hends').trans (reads_gt hb''))))
    refine ⟨_, ?_, hreads⟩
    simp only [List.cons_append, List.append_assoc, List.nil_append]
    exact .paired hspells hkeys hchildren

/-- The tokens of written children spell them. -/
theorem WritesChildren.reads : ∀ {p : Position} {children : List Element} {written : List Char},
    WritesChildren p children written → ∀ rest, (∀ c ∈ rest.head?, c = '<') →
      ∃ tokens, SpellsChildren children tokens ∧ Reads .content p written tokens .content rest
  | _, _, _, .nil h, rest, hrest => by
    obtain ⟨tokens, htexts, hreads⟩ := h.reads _ CharacterData.reads _ hrest
    have hspells := SpellsChildren.nil.append_text htexts
    rw [List.append_nil] at hspells
    exact ⟨tokens, hspells, hreads⟩
  | _, _, _, @WritesChildren.cons p e children filler first more hfiller he h, rest, hrest => by
    have hnext : ∀ c ∈ (first ++ more ++ rest).head?, c = '<' := by
      obtain ⟨first, rfl⟩ := List.head?_eq_some_iff.mp he.head?
      rintro _ ⟨⟩
      rfl
    obtain ⟨texts, htexts, hfiller⟩ := hfiller.reads _ CharacterData.reads p hnext
    obtain ⟨tokens, hspells, hfirst⟩ := he.reads (more ++ rest)
    obtain ⟨others, hothers, hmore⟩ := h.reads rest hrest
    exact ⟨_, (SpellsChildren.cons hspells hothers).append_text htexts,
      hfiller.trans (hfirst.trans hmore)⟩

end

/-! ### Documents -/

/-- A source that writes a tree is read as the tree, each of its elements where its `<` stands. -/
theorem parse_of_writesDocument {root : Element} {source : String}
    (h : WritesDocument root source.toList) : parse source = .ok root := by
  obtain ⟨before, written, after, hsource, hbefore, hroot, hafter⟩ := h
  obtain ⟨tokens, hspells, hreads⟩ := hroot.reads (after ++ [])
  have hnext : ∀ c ∈ (written ++ after ++ []).head?, c = '<' := by
    obtain ⟨more, rfl⟩ := List.head?_eq_some_iff.mp hroot.head?
    rintro _ ⟨⟩
    rfl
  have htokens := (hbefore.reads_blanks .start hnext).trans
    (hreads.trans (hafter.reads_blanks _ (by simp)))
  have hend : scan .content ⟨Position.start.afterAll source.toList, []⟩ = _ := scan_finish rfl
  rw [Reads, List.append_nil, ← hsource, hend] at htokens
  rw [parse, tokenize, Cursor.ofString, htokens]
  have hsplit : [] ++ (tokens ++ []) = tokens := by simp
  exact SpellsDocument.documentOfTokens
    ⟨tokens, _, by rw [hsplit], hspells, .inr ⟨_, [], rfl⟩⟩

/-- A document with an instruction before its root, a value with references, and a comment in which
something like its end stands earlier. -/
theorem parse_withReferences :
    parse "<?x ?>\n<A k = 'a&amp;&#60;\"'><!-- -- >-->b<B/></A >" =
      .ok ⟨"A", [⟨"k", "a&<\""⟩], [⟨"B", [], [], ⟨2, 36⟩⟩], ⟨2, 1⟩⟩ := by
  have hnone : Blanks [] := by decide
  have hspace : Blanks [' '] := by decide
  have hname : IsName "A".toList ∧ IsName "B".toList ∧ IsName "k".toList :=
    ⟨⟨'A', [], rfl, by decide, by simp⟩, ⟨'B', [], rfl, by decide, by simp⟩,
      ⟨'k', [], rfl, by decide, by simp⟩⟩
  have hless : Denotes ['#', '6', '0'] '<' := .decimal ⟨by decide, [6, 0], rfl, rfl⟩
  have hvalue : Writes (fun c => c ≠ '&' ∧ c ≠ '<' ∧ c ≠ '\'') "a&<\"".toList
      "a&amp;&#60;\"".toList :=
    .plain (by decide) (.reference .amp (by decide) (.reference hless (by decide)
      (.of_forall (by simp : ∀ c ∈ ['"'], _))))
  have hattributes : WritesAttributes [⟨"k", "a&<\""⟩] " k = 'a&amp;&#60;\"'".toList :=
    .cons hspace hname.2.2 hspace hspace (.inr rfl) hvalue .nil
  have hchild : WritesElement ⟨2, 36⟩ ⟨"B", [], [], ⟨2, 36⟩⟩ "<B/>".toList :=
    .selfClosed (.mk hnone hname.2.1 .nil (by rintro _ ⟨⟩) (by decide)) hnone
  have hcomment : Aside ('<' :: '!' :: '-' :: '-' :: (" -- >".toList ++ ['-', '-', '>'])) :=
    .comment (by decide)
  have hdata : CharacterData ['b'] := ⟨_, .of_forall (by simp)⟩
  have hchildren : WritesChildren ⟨2, 23⟩ [⟨"B", [], [], ⟨2, 36⟩⟩] "<!-- -- >-->b<B/>".toList :=
    .cons (p := ⟨2, 23⟩) (.aside ⟨[], .nil⟩ hcomment (.data hdata)) hchild (.nil (.data ⟨[], .nil⟩))
  have hroot : WritesElement ⟨2, 1⟩ ⟨"A", [⟨"k", "a&<\""⟩], [⟨"B", [], [], ⟨2, 36⟩⟩], ⟨2, 1⟩⟩
      "<A k = 'a&amp;&#60;\"'><!-- -- >-->b<B/></A >".toList :=
    .paired (p := ⟨2, 1⟩) (.mk hnone hname.1 hattributes (by rintro _ ⟨⟩; rfl) (by decide)) hnone
      hchildren hnone hspace
  have hinstruction : Aside ('<' :: '?' :: (['x', ' '] ++ ['?', '>'])) := .instruction (by decide)
  have hbefore : Filler Blanks "<?x ?>\n".toList :=
    .aside hnone hinstruction (.data (by decide : Blanks ['\n']))
  exact parse_of_writesDocument ⟨_, _, [], rfl, hbefore, hroot, .data hnone⟩

end Uiml.Markup
