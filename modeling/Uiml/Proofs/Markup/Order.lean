import Uiml.Proofs.Markup.Grammar
import Uiml.Proofs.Markup.Item

/-!
# The order of tokens

The tokens of a source come in groups: character data, or a tag from its `<` or `</` up to its `>`
or `/>` with names, equals signs and values in between. So a document that is read from a source
meets no token of a tag between tags, and in a tag none but those of tags.

## Main definitions

* `Leads` — the tokens of each mode, and the mode in which reading goes on after them
* `Ordered` — tokens that follow one another in this way up to the end of the source
* `Group` — character data, or the tokens of a tag
* `Foreseen` — the faults that reading such tokens may come upon

## Main results

* `Lexed.ordered` — the tokens of a source are in order
* `Ordered.documentOfTokens_error` — what is at fault in tokens in order
* `tokenize_grouped` — the tokens of a source are groups, and all faults in them are foreseen
-/

namespace Uiml.Markup

/-- In a mode a token may be read, and leads to a mode. -/
inductive Leads : Mode → Token → Mode → Prop
  | text {s : String} (hs : ¬ Blanks s.toList) : Leads .content (.text s) .content
  | lt : Leads .content .lt .tag
  | ltSlash : Leads .content .ltSlash .tag
  | name {s : String} : Leads .tag (.name s) .tag
  | eq : Leads .tag .eq .tag
  | value {s : String} : Leads .tag (.value s) .tag
  | gt : Leads .tag .gt .content
  | slashGt : Leads .tag .slashGt .content

/-- Tokens from a mode on up to the end of the source, each at a place of a class. -/
inductive Ordered (P : Position → Prop) : Mode → List PlacedToken → Prop
  | finish {p : Position} (hp : P p) : Ordered P .content [⟨.eof, p⟩]
  | token {mode mode' : Mode} {token : Token} {p : Position} {rest : List PlacedToken} (hp : P p)
      (h : Leads mode token mode') (hrest : Ordered P mode' rest) :
      Ordered P mode (⟨token, p⟩ :: rest)

/-- What stands in a tag: a name, an equals sign or a value. -/
def IsPart (token : Token) : Prop :=
  (∃ s, token = .name s) ∨ token = .eq ∨ ∃ s, token = .value s

/-- Character data that is not blank, or the tokens of a tag. -/
inductive Group : List PlacedToken → Prop
  | text {s : String} {p : Position} (h : ¬ Blanks s.toList) : Group [⟨.text s, p⟩]
  | tag {first last : PlacedToken} {inner : List PlacedToken}
      (hfirst : first.token = .lt ∨ first.token = .ltSlash)
      (hinner : ∀ t ∈ inner, IsPart t.token)
      (hlast : last.token = .gt ∨ last.token = .slashGt) : Group (first :: (inner ++ [last]))

/-- A fault other than a token out of place: in element content there is none, and in an opening tag
only an equals sign or a value without a name before it. -/
def Foreseen (fault : Fault) : Prop :=
  (∀ got, fault ≠ .strayInContent got) ∧
    ∀ got tag, fault = .strayInStartTag got tag → got = .eq ∨ ∃ s, got = .value s

variable {P : Position → Prop} {mode mode' : Mode} {p : Position} {cs stretch : List Char}
  {tokens rest : List PlacedToken}

/-! ### The tokens of a source -/

/-- An item has no token and leaves the mode as it is, or one that leads from mode to mode. -/
theorem Item.leads {c : Option Char} (h : Item p c mode stretch tokens mode') :
    (tokens = [] ∧ mode' = mode) ∨ ∃ t, tokens = [t] ∧ Leads mode t.token mode' := by
  cases h with
  | aside | blank => exact .inl ⟨rfl, rfl⟩
  | text _ hblank => exact .inr ⟨_, rfl, .text hblank⟩
  | opening => exact .inr ⟨_, rfl, .lt⟩
  | closing => exact .inr ⟨_, rfl, .ltSlash⟩
  | inTag _ h =>
    refine .inr ⟨_, rfl, ?_⟩
    cases h with
    | gt => exact .gt
    | slashGt => exact .slashGt
    | eq => exact .eq
    | name => exact .name
    | value => exact .value

/-- The tokens of a source are in order. -/
theorem Lexed.ordered (h : Lexed mode p cs tokens) (hP : ∀ t ∈ tokens, P t.pos) :
    Ordered P mode tokens := by
  induction h with
  | finish => exact .finish (hP _ List.mem_cons_self)
  | item h _ ih =>
    obtain ⟨hfirst, hmore⟩ := List.forall_mem_append.mp hP
    rcases h.leads with ⟨rfl, rfl⟩ | ⟨t, rfl, ht⟩
    · exact ih hmore
    · exact .token (hfirst t List.mem_cons_self) ht (ih hmore)

/-- Groups, and the end of the source. -/
def Groups (tokens : List PlacedToken) : Prop :=
  ∃ (groups : List (List PlacedToken)) (q : Position),
    tokens = groups.flatten ++ [⟨.eof, q⟩] ∧ ∀ g ∈ groups, Group g

/-- What is left of a tag, and groups after it. -/
def TagRest (tokens : List PlacedToken) : Prop :=
  ∃ (inner : List PlacedToken) (last : PlacedToken) (rest : List PlacedToken),
    tokens = inner ++ last :: rest ∧ (∀ t ∈ inner, IsPart t.token) ∧
      (last.token = .gt ∨ last.token = .slashGt) ∧ Groups rest

theorem Groups.cons {group : List PlacedToken} (hgroup : Group group) (h : Groups rest) :
    Groups (group ++ rest) := by
  obtain ⟨groups, q, rfl, hgroups⟩ := h
  exact ⟨group :: groups, q, by simp, List.forall_mem_cons.mpr ⟨hgroup, hgroups⟩⟩

/-- A tag is a group with its first token. -/
theorem TagRest.groups {first : PlacedToken} (hfirst : first.token = .lt ∨ first.token = .ltSlash)
    (h : TagRest rest) : Groups (first :: rest) := by
  obtain ⟨inner, last, rest, rfl, hinner, hlast, hrest⟩ := h
  have hgroups := hrest.cons (.tag hfirst hinner hlast)
  rwa [List.cons_append, List.append_assoc, List.singleton_append] at hgroups

theorem TagRest.cons {t : PlacedToken} (ht : IsPart t.token) (h : TagRest rest) :
    TagRest (t :: rest) := by
  obtain ⟨inner, last, rest, rfl, hinner, hlast, hrest⟩ := h
  exact ⟨t :: inner, last, rest, rfl, List.forall_mem_cons.mpr ⟨ht, hinner⟩, hlast, hrest⟩

/-- Tokens in order come in groups; in a tag, what is left of it comes first. -/
theorem Ordered.grouped (h : Ordered P mode tokens) :
    match mode with
    | .content => Groups tokens
    | .tag => TagRest tokens := by
  induction h with
  | finish => exact ⟨[], _, rfl, by simp⟩
  | token _ h _ ih =>
    cases h with
    | text hs => exact ih.cons (.text hs)
    | lt => exact ih.groups (.inl rfl)
    | ltSlash => exact ih.groups (.inr rfl)
    | name => exact ih.cons (.inl ⟨_, rfl⟩)
    | eq => exact ih.cons (.inr (.inl rfl))
    | value => exact ih.cons (.inr (.inr ⟨_, rfl⟩))
    | gt => exact ⟨[], _, _, rfl, by simp, .inl rfl, ih⟩
    | slashGt => exact ⟨[], _, _, rfl, by simp, .inr rfl, ih⟩

/-! ### Reading tokens in order -/

section Reading

variable {last opened closePos : Position} {tag : String} {seen : List Attribute} {fault : Fault}
  {α β : Type} {left : α → List PlacedToken} {left' : β → List PlacedToken}

/-- What reading from tokens comes to: a fault that is foreseen, at a place of the class, or
something after which tokens are left that go on between tags. -/
def Yields (P : Position → Prop) (left : α → List PlacedToken) : Except Error α → Prop
  | .error error => P error.pos ∧ Foreseen error.fault
  | .ok a => Ordered P .content (left a)

theorem Yields.bind {x : Except Error α} {f : α → Except Error β} (hx : Yields P left x)
    (hf : ∀ a, x = .ok a → Ordered P .content (left a) → Yields P left' (f a)) :
    Yields P left' (x >>= f) := by
  cases x with
  | error error => exact hx
  | ok a => exact hf a rfl hx

theorem Yields.map {x : Except Error α} {f : α → β} (hx : Yields P left x)
    (hf : ∀ a, left' (f a) = left a) : Yields P left' (x.map f) := by
  cases x with
  | error error => exact hx
  | ok a =>
    rw [Yields, ← hf] at hx
    exact hx

/-- The token that is read next is at a place of the class. -/
theorem Ordered.nextPos (h : Ordered P mode tokens) : P (nextPos last tokens) := by
  cases h <;> assumption

/-- A fault of another kind than a token out of place is foreseen. -/
theorem foreseen_of_ne (hcontent : ∀ got, fault ≠ .strayInContent got)
    (htag : ∀ got tag, fault ≠ .strayInStartTag got tag) : Foreseen fault :=
  ⟨hcontent, fun got tag h => absurd h (htag got tag)⟩

/-- After a token of a tag the tokens of the tag go on. -/
theorem Ordered.tail {t : PlacedToken} (h : Ordered P .tag (t :: rest)) (ht : IsPart t.token) :
    Ordered P .tag rest := by
  cases h with
  | token _ hleads hrest =>
    cases hleads with
    | gt | slashGt => simp [IsPart] at ht
    | name | eq | value => exact hrest

theorem Ordered.startTagEnd (h : Ordered P .tag tokens) :
    Yields P Prod.snd (startTagEnd last tag seen tokens) := by
  fun_induction Markup.startTagEnd last tag seen tokens with
  | case1 | case2 =>
    cases h with
    | token _ hleads hrest => cases hleads; exact hrest
  | case3 =>
    have hrest := ((h.tail (.inl ⟨_, rfl⟩)).tail (.inr (.inl rfl))).tail (.inr (.inr ⟨_, rfl⟩))
    exact ⟨hrest.nextPos, foreseen_of_ne (by simp) (by simp)⟩
  | case4 _ _ _ _ _ _ _ _ ih =>
    exact ih (((h.tail (.inl ⟨_, rfl⟩)).tail (.inr (.inl rfl))).tail (.inr (.inr ⟨_, rfl⟩)))
  | case5 =>
    have hrest := (h.tail (.inl ⟨_, rfl⟩)).tail (.inr (.inl rfl))
    exact ⟨hrest.nextPos, foreseen_of_ne (by simp) (by simp)⟩
  | case6 =>
    have hrest := h.tail (.inl ⟨_, rfl⟩)
    exact ⟨hrest.nextPos, foreseen_of_ne (by simp) (by simp)⟩
  | case7 _ _ hslashGt hgt _ _ hname =>
    -- a token of a tag that is none of those that are read is an equals sign or a value
    refine ⟨h.nextPos, by simp, fun got _ heq => ?_⟩
    cases heq
    cases h with
    | token _ hleads =>
      cases hleads with
      | name => exact absurd rfl (hname _ _ _)
      | eq => exact .inl rfl
      | value => exact .inr ⟨_, rfl⟩
      | gt => exact absurd rfl (hgt _ _)
      | slashGt => exact absurd rfl (hslashGt _ _)

theorem Ordered.startTag (h : Ordered P .tag tokens) :
    Yields P Prod.snd (startTag last tokens) := by
  rw [Markup.startTag.eq_def]
  split
  · exact (h.tail (.inl ⟨_, rfl⟩)).startTagEnd
  · exact ⟨h.nextPos, foreseen_of_ne (by simp) (by simp)⟩

theorem Ordered.closeTag (h : Ordered P .tag tokens) (hclose : P closePos) :
    Yields P id (closeTag last tag opened closePos tokens) := by
  rw [Markup.closeTag.eq_def]
  split
  · have hrest := h.tail (.inl ⟨_, rfl⟩)
    split
    · split
      · cases hrest with
        | token _ hleads hmore => cases hleads; exact hmore
      · exact ⟨hrest.nextPos, foreseen_of_ne (by simp) (by simp)⟩
    · exact ⟨hclose, foreseen_of_ne (by simp) (by simp)⟩
  · exact ⟨h.nextPos, foreseen_of_ne (by simp) (by simp)⟩

/-- Tokens between tags from which children are read, with a closing tag after them. -/
def YieldsChildren (P : Position → Prop) (last : Position) (tokens : List PlacedToken) : Prop :=
  Ordered P .content tokens → ∀ {tag opened}, P opened →
    Yields P Prod.snd (childrenOf last tag opened tokens)

/-- An element is read from tokens in order if its children are. -/
theorem Ordered.elementAt_of_children (h : Ordered P .tag tokens) (hp : P p)
    (hchildren : ∀ body, body.length < tokens.length → YieldsChildren P last body) :
    Yields P Prod.snd (elementAt last p tokens) := by
  have hyields : Yields P Prod.snd (Markup.startTag last tokens) := h.startTag
  cases hstart : Markup.startTag last tokens with
  | error error =>
    rw [hstart] at hyields
    rwa [elementAt_of_error hstart]
  | ok read =>
    obtain ⟨start, body⟩ := read
    rw [hstart] at hyields
    cases hself : start.selfClosed with
    | true => rwa [elementAt_of_selfClosed hstart hself]
    | false =>
      rw [elementAt_of_paired hstart hself]
      exact (hchildren body (startTag_length_lt hstart) hyields hp).map fun _ => rfl

theorem yieldsChildren (last : Position) (tokens : List PlacedToken) :
    YieldsChildren P last tokens := by
  -- a child has children from fewer tokens, and the siblings after it are read from fewer as well
  induction hn : tokens.length using Nat.strongRecOn generalizing tokens with
  | ind n ih =>
    subst hn
    have hshorter : ∀ body, body.length < tokens.length → YieldsChildren P last body :=
      fun body hlt => ih body.length hlt body rfl
    intro h tag opened hopened
    cases h with
    | finish =>
      rw [childrenOf, content]
      exact ⟨hopened, foreseen_of_ne (by simp) (by simp)⟩
    | @token _ _ token p rest hp hleads hrest =>
      cases hleads with
      | text =>
        rw [childrenOf_text]
        exact hshorter rest (Nat.lt_succ_self _) hrest hopened
      | ltSlash =>
        rw [childrenOf_ltSlash]
        exact (hrest.closeTag hp).map fun _ => rfl
      | lt =>
        rw [childrenOf_lt]
        refine (hrest.elementAt_of_children hp fun body hlt =>
          hshorter body (Nat.lt_succ_of_lt hlt)).bind fun read he hafter => ?_
        obtain ⟨e, after⟩ := read
        obtain ⟨spelled, hsplit, hspelled⟩ := spells_of_elementAt he
        have hlt := hspelled.length_lt hsplit
        exact (hshorter after hlt hafter hopened).map fun _ => rfl

theorem Ordered.elementAt (h : Ordered P .tag tokens) (hp : P p) :
    Yields P Prod.snd (elementAt last p tokens) :=
  h.elementAt_of_children hp fun body _ => yieldsChildren last body

/-- A fault in tokens in order is foreseen, and at a place of the class. -/
theorem Ordered.documentOfTokens_error (h : Ordered P .content tokens) {error : Error}
    (herror : documentOfTokens tokens = .error error) : P error.pos ∧ Foreseen error.fault := by
  cases h with
  | finish hp =>
    cases herror
    exact ⟨hp, foreseen_of_ne (by simp) (by simp)⟩
  | @token _ _ _ p rest hp hleads hrest =>
    cases hleads with
    | text | ltSlash =>
      cases herror
      exact ⟨hp, foreseen_of_ne (by simp) (by simp)⟩
    | lt =>
      rw [documentOfTokens_lt, bind_eq_error_iff] at herror
      have hyields : Yields P Prod.snd (Markup.elementAt (lastPos (⟨.lt, p⟩ :: rest)) p rest) :=
        hrest.elementAt hp
      rcases herror with herror | ⟨⟨e, after⟩, he, herror⟩
      · rwa [herror] at hyields
      · rw [he] at hyields
        have hafter : Ordered P .content after := hyields
        simp only at herror
        split at herror
        · cases herror
        · cases herror
          exact ⟨hafter.nextPos, foreseen_of_ne (by simp) (by simp)⟩
        · cases herror
          exact ⟨hafter.nextPos, foreseen_of_ne (by simp) (by simp)⟩

end Reading

/-! ### Sources -/

/-- The tokens of a source are groups, each of them character data that is not blank or a tag, and
the end of the source. So reading them never comes upon a token of a tag in element content, or upon
a `<`, a `</`, character data or the end in an opening tag. -/
theorem tokenize_grouped {source : String} {tokens : List PlacedToken}
    (h : tokenize source = .ok tokens) :
    (∃ (groups : List (List PlacedToken)) (q : Position),
      tokens = groups.flatten ++ [⟨.eof, q⟩] ∧ ∀ g ∈ groups, Group g) ∧
      ∀ error, documentOfTokens tokens = .error error →
        (∀ got, error.fault ≠ .strayInContent got) ∧
          ∀ got tag, error.fault = .strayInStartTag got tag →
            got ≠ .lt ∧ got ≠ .ltSlash ∧ (∀ s, got ≠ .text s) ∧ got ≠ .eof := by
  have hordered : Ordered (fun _ => True) .content tokens :=
    (scan_eq_ok_iff.mp h).ordered fun _ _ => trivial
  refine ⟨hordered.grouped, fun error herror => ?_⟩
  obtain ⟨-, hcontent, hstart⟩ := hordered.documentOfTokens_error herror
  refine ⟨hcontent, fun got tag hfault => ?_⟩
  rcases hstart got tag hfault with rfl | ⟨s, rfl⟩
  · simp
  · simp

/-- A source with a stray value in a tag: its tokens come in groups all the same, and the value is
what is at fault. -/
theorem tokenize_grouped_strayValue : ∃ tokens, tokenize "<a 'v'>x</a>" = .ok tokens ∧
    (∃ (groups : List (List PlacedToken)) (q : Position),
      tokens = groups.flatten ++ [⟨.eof, q⟩] ∧ ∀ g ∈ groups, Group g) ∧
      documentOfTokens tokens = .error ⟨.strayInStartTag (.value "v") "a", ⟨1, 4⟩⟩ := by
  have h : tokenize "<a 'v'>x</a>" = .ok [⟨.lt, ⟨1, 1⟩⟩, ⟨.name "a", ⟨1, 2⟩⟩, ⟨.value "v", ⟨1, 4⟩⟩,
      ⟨.gt, ⟨1, 7⟩⟩, ⟨.text "x", ⟨1, 8⟩⟩, ⟨.ltSlash, ⟨1, 9⟩⟩, ⟨.name "a", ⟨1, 11⟩⟩,
      ⟨.gt, ⟨1, 12⟩⟩, ⟨.eof, ⟨1, 13⟩⟩] := by decide +kernel
  exact ⟨_, h, (tokenize_grouped h).1, rfl⟩

end Uiml.Markup
