import Mathlib.Data.List.Nodup
import Uiml.Markup.Document
import Uiml.Proofs.Outcome

/-!
# The grammar of documents

Which lists of tokens spell an element. An element is spelled by `<`, its tag, its attributes, and
either `/>`, or `>`, its children with character data in between, `</`, its tag again and `>`. The
place of an element is that of its `<`; where the other tokens stand does not matter.

## Main definitions

* `SpellsAttributes`, `Spells`, `SpellsChildren` — the tokens that spell attributes, an element, and
  the children of an element
* `SpellsDocument` — the tokens of a document: an element, and the end of the source
* `elementAt`, `childrenOf` — reading one element, and reading children, with what is left

## Main results

* `Spells.elementAt`, `spells_of_elementAt` — an element is read exactly from what spells it
* `documentOfTokens_eq_ok_iff` — so is a document, and all other lists of tokens are refused
-/

namespace Uiml.Markup

/-- The tokens spell a list of attributes. -/
inductive SpellsAttributes : List Attribute → List PlacedToken → Prop
  | nil : SpellsAttributes [] []
  | cons {key value : String} {p q r : Position} {attributes : List Attribute}
      {spelled : List PlacedToken} (h : SpellsAttributes attributes spelled) :
      SpellsAttributes (⟨key, value⟩ :: attributes)
        (⟨.name key, p⟩ :: ⟨.eq, q⟩ :: ⟨.value value, r⟩ :: spelled)

mutual

/-- The tokens spell an element. -/
inductive Spells : Element → List PlacedToken → Prop
  | selfClosed {tag : String} {attributes : List Attribute} {pos p q : Position}
      {spelled : List PlacedToken} (hattributes : SpellsAttributes attributes spelled)
      (hkeys : (attributes.map Attribute.key).Nodup) :
      Spells ⟨tag, attributes, [], pos⟩
        (⟨.lt, pos⟩ :: ⟨.name tag, p⟩ :: (spelled ++ [⟨.slashGt, q⟩]))
  | paired {tag : String} {attributes : List Attribute} {children : List Element}
      {pos p q r s t : Position} {spelled inner : List PlacedToken}
      (hattributes : SpellsAttributes attributes spelled)
      (hkeys : (attributes.map Attribute.key).Nodup) (hchildren : SpellsChildren children inner) :
      Spells ⟨tag, attributes, children, pos⟩
        (⟨.lt, pos⟩ :: ⟨.name tag, p⟩ :: (spelled ++ ⟨.gt, q⟩ ::
          (inner ++ [⟨.ltSlash, r⟩, ⟨.name tag, s⟩, ⟨.gt, t⟩])))

/-- The tokens spell a list of elements, one after the other with character data in between. -/
inductive SpellsChildren : List Element → List PlacedToken → Prop
  | nil : SpellsChildren [] []
  | text {s : String} {p : Position} {children : List Element} {spelled : List PlacedToken}
      (h : SpellsChildren children spelled) : SpellsChildren children (⟨.text s, p⟩ :: spelled)
  | cons {e : Element} {children : List Element} {first rest : List PlacedToken}
      (he : Spells e first) (h : SpellsChildren children rest) :
      SpellsChildren (e :: children) (first ++ rest)

end

/-- The tokens spell an element, after which there is nothing or the end of the source. -/
def SpellsDocument (root : Element) (tokens : List PlacedToken) : Prop :=
  ∃ spelled rest, tokens = spelled ++ rest ∧ Spells root spelled ∧
    (rest = [] ∨ ∃ p more, rest = ⟨.eof, p⟩ :: more)

variable {last opened closePos pos : Position} {tag : String} {seen attributes : List Attribute}
  {tokens rest after fin : List PlacedToken} {start : StartTag} {e : Element}
  {children : List Element}

/-! ### Tags -/

/-- The token that ends an opening tag. -/
def closer (selfClosed : Bool) : Token := if selfClosed then .slashGt else .gt

/-- The attributes that are read are spelled, and none of them has a key that was there before. -/
theorem spells_of_startTagEnd (h : startTagEnd last tag seen tokens = .ok (start, rest)) :
    ∃ attributes spelled q, tokens = spelled ++ ⟨closer start.selfClosed, q⟩ :: rest ∧
      SpellsAttributes attributes spelled ∧ start.tag = tag ∧
      start.attributes = seen ++ attributes ∧
      ((seen.map Attribute.key).Nodup → (start.attributes.map Attribute.key).Nodup) := by
  fun_induction startTagEnd last tag seen tokens with
  | case1 seen q rest =>
    cases h
    exact ⟨[], [], q, rfl, .nil, rfl, (List.append_nil seen).symm, id⟩
  | case2 seen q rest =>
    cases h
    exact ⟨[], [], q, rfl, .nil, rfl, (List.append_nil seen).symm, id⟩
  | case3 => cases h
  | case4 seen key p q value r rest hnew ih =>
    obtain ⟨attributes, spelled, t, rfl, hspelled, htag, hattributes, hkeys⟩ := ih h
    refine ⟨⟨key, value⟩ :: attributes, _, t, rfl, .cons hspelled, htag, ?_, fun hseen => hkeys ?_⟩
    · rw [hattributes, List.append_assoc]
      rfl
    · have hfresh : ∀ a ∈ seen, a.key ≠ key := by simpa using hnew
      rw [List.map_append, List.map_singleton, List.nodup_append]
      refine ⟨hseen, List.nodup_singleton key, fun k hk k' hk' => ?_⟩
      obtain ⟨a, ha, rfl⟩ := List.mem_map.mp hk
      exact List.mem_singleton.mp hk' ▸ hfresh a ha
  | case5 | case6 | case7 => cases h

/-- Attributes of which the keys are distinct are read from what spells them. -/
theorem SpellsAttributes.startTagEnd {spelled : List PlacedToken}
    (hspelled : SpellsAttributes attributes spelled)
    (hkeys : ((seen ++ attributes).map Attribute.key).Nodup) (selfClosed : Bool) (q : Position) :
    startTagEnd last tag seen (spelled ++ ⟨closer selfClosed, q⟩ :: rest) =
      .ok (⟨tag, seen ++ attributes, selfClosed⟩, rest) := by
  induction hspelled generalizing seen with
  | nil => cases selfClosed <;> simp [closer, Markup.startTagEnd]
  | @cons key value p q' r attributes spelled _ ih =>
    -- the attribute is new among those that have been seen, and the rest among those and this one
    have hfresh : ¬ seen.any (·.key == key) = true := by
      rw [List.map_append, List.map_cons, List.nodup_append] at hkeys
      simpa using fun a (ha : a ∈ seen) =>
        hkeys.2.2 a.key (List.mem_map_of_mem ha) key List.mem_cons_self
    rw [List.append_cons seen] at hkeys ⊢
    rw [← ih hkeys]
    simp only [List.cons_append, Markup.startTagEnd, if_neg hfresh]

/-- An opening tag is read exactly from a name, attributes with distinct keys, and its end. -/
theorem startTag_eq_ok_iff : startTag last tokens = .ok (start, rest) ↔
    ∃ p spelled q,
      tokens = ⟨.name start.tag, p⟩ :: (spelled ++ ⟨closer start.selfClosed, q⟩ :: rest) ∧
      SpellsAttributes start.attributes spelled ∧
      (start.attributes.map Attribute.key).Nodup := by
  constructor
  · intro h
    rw [startTag.eq_def] at h
    split at h
    · obtain ⟨attributes, spelled, q, rfl, hspelled, rfl, hattributes, hkeys⟩ :=
        spells_of_startTagEnd h
      rw [List.nil_append] at hattributes
      subst hattributes
      exact ⟨_, spelled, q, rfl, hspelled, hkeys List.nodup_nil⟩
    · cases h
  · rintro ⟨p, spelled, q, rfl, hspelled, hkeys⟩
    have hfresh : (([] ++ start.attributes).map Attribute.key).Nodup := hkeys
    rw [startTag]
    exact hspelled.startTagEnd hfresh start.selfClosed q

/-- A closing tag is read exactly from the name that it is to have, and `>`. -/
theorem closeTag_eq_ok_iff : closeTag last tag opened closePos tokens = .ok rest ↔
    ∃ p q, tokens = ⟨.name tag, p⟩ :: ⟨.gt, q⟩ :: rest := by
  constructor
  · intro h
    rw [closeTag.eq_def] at h
    split at h
    · split at h
      · next hclose =>
        split at h
        · cases h
          subst hclose
          exact ⟨_, _, rfl⟩
        · cases h
      · cases h
    · cases h
  · rintro ⟨p, q, rfl⟩
    simp only [closeTag, if_true]

/-! ### Elements and their children -/

/-- Reads the children of an element and its closing tag, and tells what is left. -/
def childrenOf (last : Position) (tag : String) (opened : Position) (tokens : List PlacedToken) :
    Except Error (List Element × List PlacedToken) :=
  (content last tag opened tokens).map fun read => (read.1, read.2.val)

/-- Reads the element of which the `<` stands at a place, and tells what is left. -/
def elementAt (last pos : Position) (tokens : List PlacedToken) :
    Except Error (Element × List PlacedToken) := do
  let (start, body) ← startTag last tokens
  let (children, after) ←
    if start.selfClosed then .ok ([], body) else childrenOf last start.tag pos body
  return (⟨start.tag, start.attributes, children, pos⟩, after)

section Reading

variable (last opened pos : Position) (tag : String) (rest : List PlacedToken)

theorem childrenOf_text (s : String) :
    childrenOf last tag opened (⟨.text s, pos⟩ :: rest) = childrenOf last tag opened rest := by
  rw [childrenOf, content, childrenOf]
  cases content last tag opened rest <;> rfl

theorem childrenOf_ltSlash :
    childrenOf last tag opened (⟨.ltSlash, pos⟩ :: rest) =
      (closeTag last tag opened pos rest).map fun fin => ([], fin) := by
  rw [childrenOf, content]
  split
  · next h => simp only [h, Except.map]
  · next h => simp only [h, Except.map]

variable {last pos}

theorem elementAt_of_error {error : Error} (h : startTag last tokens = .error error) :
    elementAt last pos tokens = .error error := by
  rw [elementAt, h]
  rfl

theorem elementAt_of_selfClosed {body : List PlacedToken}
    (h : startTag last tokens = .ok (start, body)) (hself : start.selfClosed = true) :
    elementAt last pos tokens = .ok (⟨start.tag, start.attributes, [], pos⟩, body) := by
  rw [elementAt, h]
  simp only [bind, Except.bind, hself, if_true]
  rfl

theorem elementAt_of_paired {body : List PlacedToken}
    (h : startTag last tokens = .ok (start, body)) (hself : start.selfClosed = false) :
    elementAt last pos tokens =
      (childrenOf last start.tag pos body).map fun (children, after) =>
        (⟨start.tag, start.attributes, children, pos⟩, after) := by
  rw [elementAt, h]
  simp only [bind, Except.bind, hself, Bool.false_eq_true, if_false]
  cases childrenOf last start.tag pos body <;> rfl

variable (last pos)

/-- A child is read, and then its siblings. -/
theorem childrenOf_lt :
    childrenOf last tag opened (⟨.lt, pos⟩ :: rest) = (do
      let (e, after) ← elementAt last pos rest
      let (siblings, fin) ← childrenOf last tag opened after
      return (e :: siblings, fin)) := by
  rw [childrenOf, content]
  split
  · next h =>
    rw [elementAt_of_error h]
    rfl
  · next start body h =>
    cases hself : start.selfClosed with
    | true =>
      rw [elementAt_of_selfClosed h hself]
      simp only [bind, Except.bind, if_true, childrenOf]
      cases content last tag opened body <;> rfl
    | false =>
      rw [elementAt_of_paired h hself, childrenOf]
      simp only [Bool.false_eq_true, if_false]
      rcases content last start.tag pos body with e | ⟨children, after, hafter⟩
      · rfl
      · simp only [bind, Except.bind, Except.map, childrenOf]
        cases content last tag opened after <;> rfl

end Reading

/-- What is read as children begins with character data, a closing tag or a child. -/
theorem childrenOf_cases (h : childrenOf last tag opened tokens = .ok (children, fin)) :
    (∃ s p rest, tokens = ⟨.text s, p⟩ :: rest ∧
      childrenOf last tag opened rest = .ok (children, fin)) ∨
    (∃ p rest, tokens = ⟨.ltSlash, p⟩ :: rest ∧ children = [] ∧
      closeTag last tag opened p rest = .ok fin) ∨
    ∃ p rest e after siblings, tokens = ⟨.lt, p⟩ :: rest ∧ children = e :: siblings ∧
      elementAt last p rest = .ok (e, after) ∧
      childrenOf last tag opened after = .ok (siblings, fin) := by
  rcases tokens with _ | ⟨⟨token, p⟩, rest⟩
  · rw [childrenOf, content] at h
    cases h
  · cases token with
    | text s =>
      rw [childrenOf_text] at h
      exact .inl ⟨s, p, rest, rfl, h⟩
    | ltSlash =>
      rw [childrenOf_ltSlash] at h
      cases hclose : closeTag last tag opened p rest with
      | error e => rw [hclose] at h; cases h
      | ok fin' =>
        rw [hclose] at h
        cases h
        exact .inr (.inl ⟨p, rest, rfl, rfl, hclose⟩)
    | lt =>
      rw [childrenOf_lt] at h
      obtain ⟨⟨e, after⟩, he, h⟩ := exists_of_bind_eq_ok h
      obtain ⟨⟨siblings, fin'⟩, hsiblings, h⟩ := exists_of_bind_eq_ok h
      cases h
      exact .inr (.inr ⟨p, rest, e, after, siblings, rfl, rfl, he, hsiblings⟩)
    | gt | slashGt | eq | name | value | eof => simp [childrenOf, content, Except.map] at h

/-! ### What is read is spelled -/

/-- An element that is read is a self-closed tag, or a tag with children after it. -/
theorem elementAt_cases (h : elementAt last pos tokens = .ok (e, after)) :
    ∃ start body, startTag last tokens = .ok (start, body) ∧
      e = ⟨start.tag, start.attributes, e.children, pos⟩ ∧
      ((start.selfClosed = true ∧ e.children = [] ∧ after = body) ∨
        (start.selfClosed = false ∧
          childrenOf last start.tag pos body = .ok (e.children, after))) := by
  obtain ⟨⟨start, body⟩, hstart, -⟩ := exists_of_bind_eq_ok h
  refine ⟨start, body, hstart, ?_⟩
  cases hself : start.selfClosed with
  | true =>
    rw [elementAt_of_selfClosed hstart hself] at h
    cases h
    exact ⟨rfl, .inl ⟨rfl, rfl, rfl⟩⟩
  | false =>
    rw [elementAt_of_paired hstart hself] at h
    cases hchildren : childrenOf last start.tag pos body with
    | error error => rw [hchildren] at h; cases h
    | ok read =>
      rw [hchildren] at h
      cases h
      exact ⟨rfl, .inr ⟨rfl, rfl⟩⟩

/-- An element takes up at least its `<`, so that less is left after it. -/
theorem Spells.length_lt {spelled : List PlacedToken} (h : Spells e spelled)
    (htokens : tokens = spelled ++ after) : after.length < tokens.length := by
  rw [htokens, List.length_append]
  cases h <;> simp

/-- The tokens that children are read from spell them, and a closing tag after them. -/
def ReadsSpelledChildren (last : Position) (tokens : List PlacedToken) : Prop :=
  ∀ {tag opened children fin}, childrenOf last tag opened tokens = .ok (children, fin) →
    ∃ inner p q r, tokens = inner ++ ⟨.ltSlash, p⟩ :: ⟨.name tag, q⟩ :: ⟨.gt, r⟩ :: fin ∧
      SpellsChildren children inner

/-- The tokens that an element is read from spell it if those of its children do. -/
theorem spells_of_elementAt_of_children
    (hchildren : ∀ body, body.length < tokens.length → ReadsSpelledChildren last body)
    (h : elementAt last pos tokens = .ok (e, after)) :
    ∃ spelled, ⟨.lt, pos⟩ :: tokens = spelled ++ after ∧ Spells e spelled := by
  obtain ⟨⟨tag, attributes, selfClosed⟩, body, hstart, he, hends⟩ := elementAt_cases h
  obtain ⟨p, spelled, q, rfl, hspelled, hkeys⟩ := startTag_eq_ok_iff.mp hstart
  rw [he]
  rcases hends with ⟨rfl, hnone, rfl⟩ | ⟨rfl, hread⟩
  · rw [hnone]
    exact ⟨_, by simp [closer], .selfClosed (p := p) (q := q) hspelled hkeys⟩
  · have hlength : body.length < (⟨.name tag, p⟩ :: (spelled ++ ⟨.gt, q⟩ :: body)).length := by
      simp
      omega
    obtain ⟨inner, r, s, t, rfl, hinner⟩ := hchildren body hlength hread
    exact ⟨_, by simp [closer],
      .paired (p := p) (q := q) (r := r) (s := s) (t := t) hspelled hkeys hinner⟩

theorem readsSpelledChildren (last : Position) (tokens : List PlacedToken) :
    ReadsSpelledChildren last tokens := by
  induction hn : tokens.length using Nat.strongRecOn generalizing tokens with
  | ind n ih =>
    subst hn
    have hshorter : ∀ body, body.length < tokens.length → ReadsSpelledChildren last body :=
      fun body hlt => ih body.length hlt body rfl
    intro tag opened children fin h
    rcases childrenOf_cases h with ⟨s, p, rest, rfl, hrest⟩ | ⟨p, rest, rfl, rfl, hclose⟩ |
      ⟨p, rest, e, after, siblings, rfl, rfl, he, hsiblings⟩
    · obtain ⟨inner, q, r, t, rfl, hinner⟩ := hshorter rest (Nat.lt_succ_self _) hrest
      exact ⟨_, q, r, t, rfl, .text hinner⟩
    · obtain ⟨q, r, rfl⟩ := closeTag_eq_ok_iff.mp hclose
      exact ⟨[], p, q, r, rfl, .nil⟩
    · obtain ⟨first, hfirst, hspelled⟩ := spells_of_elementAt_of_children
        (fun body hlt => hshorter body (Nat.lt_succ_of_lt hlt)) he
      obtain ⟨inner, q, r, t, rfl, hinner⟩ :=
        hshorter after (hspelled.length_lt hfirst) hsiblings
      exact ⟨first ++ inner, q, r, t, by rw [hfirst, List.append_assoc], .cons hspelled hinner⟩

/-- The tokens that an element is read from spell it. -/
theorem spells_of_elementAt (h : elementAt last pos tokens = .ok (e, after)) :
    ∃ spelled, ⟨.lt, pos⟩ :: tokens = spelled ++ after ∧ Spells e spelled :=
  spells_of_elementAt_of_children (fun body _ => readsSpelledChildren last body) h

/-! ### What is spelled is read -/

mutual

/-- An element is read from what spells it, and what follows is left. -/
theorem Spells.elementAt : ∀ {e : Element} {spelled : List PlacedToken}, Spells e spelled →
    ∃ body, spelled = ⟨.lt, e.pos⟩ :: body ∧
      ∀ last after, elementAt last e.pos (body ++ after) = .ok (e, after)
  | _, _, @Spells.selfClosed tag attributes _ p q spelled hattributes hkeys => by
    refine ⟨_, rfl, fun last after => ?_⟩
    have hstart : startTag last (⟨.name tag, p⟩ :: (spelled ++ ⟨.slashGt, q⟩ :: after)) =
        .ok (⟨tag, attributes, true⟩, after) :=
      startTag_eq_ok_iff.mpr ⟨p, spelled, q, rfl, hattributes, hkeys⟩
    rw [List.cons_append, List.append_assoc]
    exact elementAt_of_selfClosed hstart rfl
  | _, _, @Spells.paired tag attributes children _ p q r s t spelled inner hattributes hkeys
      hchildren => by
    refine ⟨_, rfl, fun last after => ?_⟩
    let closing : List PlacedToken := ⟨.ltSlash, r⟩ :: ⟨.name tag, s⟩ :: ⟨.gt, t⟩ :: after
    have hstart : startTag last (⟨.name tag, p⟩ :: (spelled ++ ⟨.gt, q⟩ :: (inner ++ closing))) =
        .ok (⟨tag, attributes, false⟩, inner ++ closing) :=
      startTag_eq_ok_iff.mpr ⟨p, spelled, q, rfl, hattributes, hkeys⟩
    have hbody : ⟨.name tag, p⟩ :: (spelled ++ ⟨.gt, q⟩ ::
        (inner ++ [⟨.ltSlash, r⟩, ⟨.name tag, s⟩, ⟨.gt, t⟩])) ++ after =
          ⟨.name tag, p⟩ :: (spelled ++ ⟨.gt, q⟩ :: (inner ++ closing)) := by simp [closing]
    rw [hbody, elementAt_of_paired hstart rfl, hchildren.childrenOf]
    rfl

/-- Children are read from what spells them and a closing tag. -/
theorem SpellsChildren.childrenOf :
    ∀ {children : List Element} {inner : List PlacedToken}, SpellsChildren children inner →
    ∀ last tag opened p q r fin, childrenOf last tag opened
      (inner ++ ⟨.ltSlash, p⟩ :: ⟨.name tag, q⟩ :: ⟨.gt, r⟩ :: fin) = .ok (children, fin)
  | _, _, .nil, last, tag, opened, p, q, r, fin => by
    rw [List.nil_append, childrenOf_ltSlash, closeTag_eq_ok_iff.mpr ⟨q, r, rfl⟩]
    rfl
  | _, _, .text h, last, tag, opened, p, q, r, fin => by
    rw [List.cons_append, childrenOf_text]
    exact h.childrenOf last tag opened p q r fin
  | _, _, .cons he h, last, tag, opened, p, q, r, fin => by
    obtain ⟨body, rfl, hread⟩ := he.elementAt
    rw [List.append_assoc, List.cons_append, childrenOf_lt, hread]
    simp only [bind, Except.bind, h.childrenOf]
    rfl

end

/-! ### Documents -/

/-- A document is an element that begins the source and after which there is nothing. -/
theorem documentOfTokens_lt (pos : Position) (rest : List PlacedToken) :
    documentOfTokens (⟨.lt, pos⟩ :: rest) = (do
      let (e, after) ← elementAt (lastPos (⟨.lt, pos⟩ :: rest)) pos rest
      match nextToken after with
      | .eof => return e
      | .text _ => .error ⟨.textOutsideRoot, nextPos (lastPos (⟨.lt, pos⟩ :: rest)) after⟩
      | _ => .error ⟨.secondRoot, nextPos (lastPos (⟨.lt, pos⟩ :: rest)) after⟩) := by
  rw [documentOfTokens]
  generalize lastPos _ = last
  cases hstart : startTag last rest with
  | error error => rw [elementAt_of_error hstart]; rfl
  | ok read =>
    obtain ⟨start, body⟩ := read
    cases hself : start.selfClosed with
    | true =>
      rw [elementAt_of_selfClosed hstart hself]
      simp only [bind, Except.bind, hself, if_true]
      rfl
    | false =>
      rw [elementAt_of_paired hstart hself, childrenOf]
      simp only [bind, Except.bind, hself, Bool.false_eq_true, if_false]
      cases content last start.tag pos body <;> rfl

theorem nextToken_eq_eof_iff : nextToken rest = .eof ↔
    rest = [] ∨ ∃ p more, rest = ⟨.eof, p⟩ :: more := by
  rcases rest with _ | ⟨⟨token, p⟩, more⟩
  · simp [nextToken]
  · simp [nextToken]

/-- What spells a document is read as the document. -/
theorem SpellsDocument.documentOfTokens (h : SpellsDocument e tokens) :
    documentOfTokens tokens = .ok e := by
  obtain ⟨spelled, rest, rfl, hspelled, hrest⟩ := h
  obtain ⟨body, rfl, hread⟩ := hspelled.elementAt
  rw [List.cons_append, documentOfTokens_lt, hread]
  simp only [bind, Except.bind, nextToken_eq_eof_iff.mpr hrest]
  rfl

/-- What is read as a document spells it. -/
theorem spellsDocument_of_documentOfTokens (h : documentOfTokens tokens = .ok e) :
    SpellsDocument e tokens := by
  rw [documentOfTokens.eq_def] at h
  split at h
  · next pos rest =>
    have hdocument := (documentOfTokens_lt pos rest).symm.trans h
    obtain ⟨⟨e', after⟩, he, hend⟩ := exists_of_bind_eq_ok hdocument
    obtain ⟨spelled, htokens, hspelled⟩ := spells_of_elementAt he
    cases hnext : nextToken after with
    | eof =>
      simp only [hnext] at hend
      cases hend
      exact ⟨spelled, after, htokens, hspelled, nextToken_eq_eof_iff.mp hnext⟩
    | lt | ltSlash | gt | slashGt | eq | name | value | text =>
      simp only [hnext] at hend
      cases hend
  · split at h <;> cases h

/-- A list of tokens is read as an element exactly if it spells the element, up to the end of the
source; every other list is refused. -/
theorem documentOfTokens_eq_ok_iff (tokens : List PlacedToken) :
    (∀ root, documentOfTokens tokens = .ok root ↔ SpellsDocument root tokens) ∧
      ((∃ error, documentOfTokens tokens = .error error) ↔
        ∀ root, ¬ SpellsDocument root tokens) := by
  have hread : ∀ root, Markup.documentOfTokens tokens = .ok root ↔ SpellsDocument root tokens :=
    fun root => ⟨spellsDocument_of_documentOfTokens, SpellsDocument.documentOfTokens⟩
  refine ⟨hread, ?_⟩
  simp only [← hread]
  cases Markup.documentOfTokens tokens <;> simp

end Uiml.Markup
