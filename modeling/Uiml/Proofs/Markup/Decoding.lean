import Uiml.Markup.Document
import Uiml.Proofs.Markup.Reference
import Uiml.Proofs.Outcome
import Uiml.Proofs.Text.Parts

/-!
# Decoding references and texts

What is taken for a reference, and what a text with references in it is decoded to. A reference
goes up to the first `;` after its `&`, and what stands between is a name or a code point. The
digits of a code point are read as a number, and a number may have a plus sign: so references are
accepted that no character is denoted by.

## Main definitions

* `DenotesSigned` — the references with a plus sign
* `IsReference` — what a reference that is accepted holds between `&` and `;`
* `Decodes` — what a text with references in it is decoded to

## Main results

* `decodeReference_eq_some_iff`, `reference_eq_ok_iff` — which references are accepted
* `characters_eq_ok_iff` — what is read as a text is what is decoded to it
* `reference_exact` — a reference is decoded, or refused where it begins
-/

namespace Uiml.Markup

/-- What holds a code point with a plus sign before its digits. -/
inductive DenotesSigned : List Char → Char → Prop
  | decimal {digits : List Char} {c : Char} (h : IsNumeral 10 digits c.toNat) :
      DenotesSigned ('#' :: '+' :: digits) c
  | hexadecimal {x : Char} {digits : List Char} {c : Char} (hx : x = 'x' ∨ x = 'X')
      (h : IsNumeral 16 digits c.toNat) : DenotesSigned ('#' :: x :: '+' :: digits) c

/-- What a reference that is accepted holds between `&` and `;`. -/
def IsReference (body : List Char) (c : Char) : Prop :=
  (String.ofList body).utf8ByteSize ≤ 11 ∧ (Denotes body c ∨ DenotesSigned body c)

/-- What a text up to a character of the class `stop` is decoded to: other characters stand for
themselves, and references for theirs. -/
inductive Decodes (stop : Char → Bool) : List Char → List Char → Prop
  | nil : Decodes stop [] []
  | plain {c : Char} {text written : List Char} (hstop : stop c = false) (hamp : c ≠ '&')
      (h : Decodes stop text written) : Decodes stop (c :: text) (c :: written)
  | reference {c : Char} {body text written : List Char} (hbody : IsReference body c)
      (h : Decodes stop text written) : Decodes stop (c :: text) ('&' :: (body ++ ';' :: written))

/-! ### Numbers -/

section Numbers

variable {base most value n : Nat} {digits : List Char} {beyond : Integer.Fault} {c : Char}

/-- What is read as a number is made of digits, which have the number as their value after the one
read before them. -/
theorem exists_of_readDigits (h : Integer.readDigits base most beyond value digits = .ok n) :
    ∃ values : List Nat, digits.map (Integer.digit? base) = values.map some ∧
      value * base ^ values.length + Nat.ofDigits base values.reverse = n := by
  induction digits generalizing value with
  | nil =>
    cases h
    exact ⟨[], rfl, by simp⟩
  | cons d digits ih =>
    simp only [Integer.readDigits] at h
    split at h
    · cases h
    · next d' hd =>
      split at h
      · obtain ⟨values, hdigits, hvalue⟩ := ih h
        refine ⟨d' :: values, by rw [List.map_cons, hd, hdigits, List.map_cons], ?_⟩
        rw [← hvalue, List.reverse_cons, Nat.ofDigits_append, List.length_reverse,
          Nat.ofDigits_singleton, List.length_cons]
        ring
      · cases h

theorem readDigits_eq_ok_iff (hne : digits ≠ []) :
    Integer.readDigits base most beyond 0 digits = .ok n ↔ n ≤ most ∧ IsNumeral base digits n := by
  constructor
  · intro h
    obtain ⟨values, hdigits, hvalue⟩ := exists_of_readDigits h
    rw [Nat.zero_mul, Nat.zero_add] at hvalue
    exact ⟨Integer.readDigits_le (Nat.zero_le most) h, hne, values, hdigits, hvalue⟩
  · rintro ⟨hmost, -, values, hdigits, rfl⟩
    have hread : Integer.readDigits base most beyond 0 digits = _ :=
      readDigits_eq_ok beyond hdigits (by simpa using hmost)
    rwa [Nat.zero_mul, Nat.zero_add] at hread

/-- A number is read from a numeral, with a plus sign or without one. -/
theorem readNat_eq_ok_iff (hbase : base ≤ 16) : Integer.readNat base most digits = .ok n ↔
    n ≤ most ∧ (IsNumeral base digits n ∨ ∃ ds, digits = '+' :: ds ∧ IsNumeral base ds n) := by
  constructor
  · intro h
    rw [Integer.readNat.eq_def] at h
    split at h
    · cases h
    · cases h
    · next ds hne =>
      obtain ⟨hmost, hds⟩ := (readDigits_eq_ok_iff (by rintro rfl; exact hne rfl)).mp h
      exact ⟨hmost, .inr ⟨ds, rfl, hds⟩⟩
    · next hne _ _ =>
      obtain ⟨hmost, hdigits⟩ := (readDigits_eq_ok_iff hne).mp h
      exact ⟨hmost, .inl hdigits⟩
  · rintro ⟨hmost, hdigits | ⟨ds, rfl, hds⟩⟩
    · exact hdigits.readNat hbase hmost
    · obtain ⟨d, ds, rfl⟩ := List.exists_cons_of_ne_nil hds.1
      exact (readDigits_eq_ok_iff hds.1).mpr ⟨hmost, hds⟩

theorem charOfCode?_eq_some_iff : charOfCode? n = some c ↔ n = c.toNat := by
  constructor
  · intro h
    rw [charOfCode?, Option.dite_none_right_eq_some] at h
    obtain ⟨hvalid, hc⟩ := h
    cases hc
    rfl
  · rintro rfl
    exact charOfCode?_toNat c

/-- A numeric reference is accepted if it is a numeral, with a plus sign or without one, for the
code point of a character. -/
theorem numericReference_eq_some_iff (hbase : base ≤ 16) :
    numericReference base digits = some c ↔
      IsNumeral base digits c.toNat ∨ ∃ ds, digits = '+' :: ds ∧ IsNumeral base ds c.toNat := by
  have hmost : c.toNat ≤ Integer.largest 32 := Nat.le_sub_one_of_lt c.val.toNat_lt
  constructor
  · intro h
    rw [numericReference] at h
    split at h
    · next n hread =>
      rw [charOfCode?_eq_some_iff.mp h] at hread
      exact ((readNat_eq_ok_iff hbase).mp hread).2
    · cases h
  · intro h
    rw [numericReference, (readNat_eq_ok_iff hbase).mpr ⟨hmost, h⟩]
    exact charOfCode?_toNat c

end Numbers

/-! ### References -/

section References

variable {body rest : List Char} {c d : Char} {p : Position} {next : Cursor}

theorem DenotesSigned.decodeReference (h : DenotesSigned body c) :
    decodeReference body = some c := by
  cases h with
  | decimal h => exact (numericReference_eq_some_iff (by decide)).mpr (.inr ⟨_, rfl, h⟩)
  | hexadecimal hx h =>
    rcases hx with rfl | rfl <;>
      exact (numericReference_eq_some_iff (by decide)).mpr (.inr ⟨_, rfl, h⟩)

/-- What is decoded to a character denotes it, but for a plus sign. -/
theorem decodeReference_eq_some_iff :
    decodeReference body = some c ↔ Denotes body c ∨ DenotesSigned body c := by
  constructor
  · intro h
    rw [Markup.decodeReference.eq_def] at h
    split at h
    · cases h; exact .inl .amp
    · cases h; exact .inl .lt
    · cases h; exact .inl .gt
    · cases h; exact .inl .quot
    · cases h; exact .inl .apos
    · rcases (numericReference_eq_some_iff (by decide)).mp h with hn | ⟨ds, rfl, hn⟩
      · exact .inl (.hexadecimal (.inl rfl) hn)
      · exact .inr (.hexadecimal (.inl rfl) hn)
    · rcases (numericReference_eq_some_iff (by decide)).mp h with hn | ⟨ds, rfl, hn⟩
      · exact .inl (.hexadecimal (.inr rfl) hn)
      · exact .inr (.hexadecimal (.inr rfl) hn)
    · rcases (numericReference_eq_some_iff (by decide)).mp h with hn | ⟨ds, rfl, hn⟩
      · exact .inl (.decimal hn)
      · exact .inr (.decimal hn)
    · cases h
  · rintro (h | h)
    · exact h.decodeReference
    · exact h.decodeReference

/-- A plus sign is no digit. -/
theorem not_isNumeral_plus {base n : Nat} {digits : List Char} (hbase : base ≤ 16) :
    ¬ IsNumeral base ('+' :: digits) n :=
  fun h => h.ne_of_mem hbase (x := '+') rfl List.mem_cons_self rfl

/-- What has a plus sign denotes nothing. -/
theorem DenotesSigned.not_denotes (h : DenotesSigned body c) : ¬ Denotes body d := by
  intro hd
  cases h with
  | decimal h =>
    cases hd with
    | decimal hd => exact not_isNumeral_plus (by decide) hd
    | hexadecimal hx hd => rcases hx with hx | hx <;> cases hx
  | hexadecimal hx h =>
    cases hd with
    | decimal hd =>
      -- the mark of a hexadecimal reference is no decimal digit
      rcases hx with rfl | rfl <;> exact hd.ne_of_mem (by decide) rfl List.mem_cons_self rfl
    | hexadecimal hx' hd => exact not_isNumeral_plus (by decide) hd

/-- What is decoded to a character has no place for what ends a reference, or opens a tag. -/
theorem not_mem_of_denotes {x : Char} (h : Denotes body c ∨ DenotesSigned body c)
    (hx : x = ';' ∨ x = '<') : x ∉ body := by
  have hdigits : ∀ {base n digits}, base ≤ 16 → IsNumeral base digits n → x ∉ digits := by
    intro base n digits hbase h hmem
    refine h.ne_of_mem hbase ?_ hmem rfl
    rcases hx with rfl | rfl <;> rfl
  have hmarks : x ≠ '#' ∧ x ≠ '+' ∧ x ≠ 'x' ∧ x ≠ 'X' := by
    rcases hx with rfl | rfl <;> decide
  rcases h with h | h
  · cases h with
    | amp | lt | gt | quot | apos => rcases hx with rfl | rfl <;> decide
    | decimal h => simp [hmarks, hdigits (by decide) h]
    | hexadecimal hmark h => rcases hmark with rfl | rfl <;> simp [hmarks, hdigits (by decide) h]
  · cases h with
    | decimal h => simp [hmarks, hdigits (by decide) h]
    | hexadecimal hmark h => rcases hmark with rfl | rfl <;> simp [hmarks, hdigits (by decide) h]

/-- A reference is accepted up to the first `;`. -/
theorem reference_eq_ok_iff : reference ⟨p, '&' :: rest⟩ = .ok (c, next) ↔
    ∃ body, rest = body ++ ';' :: next.rest ∧ IsReference body c ∧
      next.pos = p.afterAll ('&' :: (body ++ [';'])) := by
  have hdrop : ∀ body after : List Char, Cursor.drop (body.length + 2)
      ⟨p, '&' :: (body ++ ';' :: after)⟩ = ⟨p.afterAll ('&' :: (body ++ [';'])), after⟩ := by
    intro body after
    have := Cursor.drop_append p ('&' :: (body ++ [';'])) after
    simpa using this
  constructor
  · intro h
    rw [Markup.reference, List.drop_one, List.tail_cons] at h
    split at h
    · cases h
    · next body after hcut =>
      obtain ⟨rfl, -⟩ := Text.cutAt?_beq_eq_some_iff.mp hcut
      split at h
      · cases h
      · next hsize =>
        split at h
        · cases h
        · next d hd =>
          rw [hdrop] at h
          cases h
          exact ⟨body, rfl, ⟨Nat.not_lt.mp hsize, decodeReference_eq_some_iff.mp hd⟩, rfl⟩
  · rintro ⟨body, rfl, hbody, hpos⟩
    have hcut := Text.cutAt?_beq_eq_some_iff.mpr
      ⟨(rfl : body ++ ';' :: next.rest = _), not_mem_of_denotes hbody.2 (.inl rfl)⟩
    have hsize : ¬ maxReferenceBytes < (String.ofList body).utf8ByteSize := Nat.not_lt.mpr hbody.1
    rw [Markup.reference, List.drop_one, List.tail_cons, hcut]
    simp only [if_neg hsize, decodeReference_eq_some_iff.mpr hbody.2, hdrop, ← hpos]

/-- A reference that is refused is at fault where it begins. -/
theorem reference_error_pos {cur : Cursor} {error : Error} (h : reference cur = .error error) :
    error.pos = cur.pos := by
  rw [Markup.reference] at h
  split at h
  · cases h; rfl
  · split at h
    · cases h; rfl
    · split at h
      · cases h; rfl
      · cases h

end References

/-! ### Texts -/

section Texts

variable {stop : Char → Bool} {text written rest : List Char} {c : Char} {p : Position}
  {fin : Cursor}

/-- Reading a text ends at a character that stops it, and at the end. -/
theorem characters_stop (h : ∀ c ∈ rest.head?, stop c = true) :
    characters stop ⟨p, rest⟩ = .ok ([], ⟨p, rest⟩) := by
  rw [characters.eq_def]
  cases rest with
  | nil => rfl
  | cons c rest => simp [h c rfl]

theorem characters_plain (hstop : stop c = false) (hamp : c ≠ '&') :
    characters stop ⟨p, c :: rest⟩ =
      (characters stop ⟨p.after c, rest⟩).map fun (cs, fin) => (c :: cs, fin) := by
  rw [characters.eq_def]
  simp only [hstop, Bool.false_eq_true, if_false, if_neg hamp]
  cases characters stop ⟨p.after c, rest⟩ <;> rfl

theorem characters_reference (hamp : stop '&' = false) :
    characters stop ⟨p, '&' :: rest⟩ = (do
      let (c, next) ← reference ⟨p, '&' :: rest⟩
      let (cs, fin) ← characters stop next
      return (c :: cs, fin)) := by
  rw [characters.eq_def]
  simp only [hamp, Bool.false_eq_true, if_false, if_true]
  split
  · next h => rw [h]; rfl
  · next c next h =>
    rw [h]
    simp only [bind, Except.bind]
    cases characters stop next <;> rfl

/-- What is decoded to a text is read as the text, before what comes after it. -/
theorem Decodes.characters_append (h : Decodes stop text written) (hamp : stop '&' = false)
    (p : Position) (rest : List Char) : characters stop ⟨p, written ++ rest⟩ =
      (characters stop ⟨p.afterAll written, rest⟩).map fun (cs, fin) => (text ++ cs, fin) := by
  induction h generalizing p with
  | nil =>
    simp only [List.nil_append, Position.afterAll_nil]
    cases characters stop ⟨p, rest⟩ <;> rfl
  | @plain c text written hstop hne _ ih =>
    rw [List.cons_append, characters_plain hstop hne, ih, Position.afterAll_cons]
    cases characters stop ⟨(p.after c).afterAll written, rest⟩ <;> rfl
  | @reference c body text written hbody _ ih =>
    have href : Markup.reference ⟨p, '&' :: (body ++ ';' :: (written ++ rest))⟩ =
        .ok (c, ⟨p.afterAll ('&' :: (body ++ [';'])), written ++ rest⟩) :=
      reference_eq_ok_iff.mpr ⟨body, rfl, hbody, rfl⟩
    have hwritten : '&' :: (body ++ ';' :: written) = '&' :: (body ++ [';']) ++ written := by simp
    rw [hwritten, Position.afterAll_append, List.append_assoc, List.cons_append, List.append_assoc,
      List.singleton_append, characters_reference hamp, href]
    simp only [bind, Except.bind, ih]
    cases characters stop ⟨(p.afterAll ('&' :: (body ++ [';']))).afterAll written, rest⟩ <;> rfl

/-- What is decoded to a text is read as the text, if it is not followed by more of one. -/
theorem Decodes.characters (h : Decodes stop text written) (hamp : stop '&' = false)
    (hrest : ∀ c ∈ rest.head?, stop c = true) (p : Position) :
    characters stop ⟨p, written ++ rest⟩ = .ok (text, ⟨p.afterAll written, rest⟩) := by
  rw [h.characters_append hamp, characters_stop hrest]
  simp [Except.map]

/-- What is read as a text is what is decoded to it, as far as nothing stops it. -/
theorem characters_eq_ok_iff (hamp : stop '&' = false) {cs : List Char} :
    Markup.characters stop ⟨p, cs⟩ = .ok (text, fin) ↔
      ∃ written, cs = written ++ fin.rest ∧ fin.pos = p.afterAll written ∧
        Decodes stop text written ∧ ∀ c ∈ fin.rest.head?, stop c = true := by
  constructor
  · intro h
    -- a reference is read as a whole, so that the induction is on the length of what is left
    induction hn : cs.length using Nat.strongRecOn generalizing cs p text with
    | ind n ih =>
      subst hn
      rcases cs with _ | ⟨c, cs⟩
      · rw [characters_stop (by simp)] at h
        cases h
        exact ⟨[], rfl, rfl, .nil, by simp⟩
      · cases hstop : stop c with
        | true =>
          rw [characters_stop (by simpa using hstop)] at h
          cases h
          exact ⟨[], rfl, rfl, .nil, by simpa using hstop⟩
        | false =>
          by_cases hc : c = '&'
          · subst hc
            rw [characters_reference hamp] at h
            obtain ⟨⟨d, next⟩, href, h⟩ := exists_of_bind_eq_ok h
            obtain ⟨⟨text', fin'⟩, hmore, h⟩ := exists_of_bind_eq_ok h
            cases h
            obtain ⟨body, rfl, hbody, hpos⟩ := reference_eq_ok_iff.mp href
            obtain ⟨written, hwritten, hfin, hdecodes, hends⟩ :=
              ih next.rest.length (by simp; omega) (p := next.pos) hmore rfl
            refine ⟨'&' :: (body ++ ';' :: written), by simp [hwritten], ?_,
              .reference hbody hdecodes, hends⟩
            rw [hfin, hpos, ← Position.afterAll_append]
            simp
          · rw [characters_plain hstop hc] at h
            obtain ⟨⟨text', fin'⟩, hmore, h⟩ := exists_of_map h
            cases h
            obtain ⟨written, hwritten, hfin, hdecodes, hends⟩ :=
              ih cs.length (by simp) hmore rfl
            exact ⟨c :: written, by rw [hwritten, List.cons_append], hfin,
              .plain hstop hc hdecodes, hends⟩
  · rintro ⟨written, rfl, hpos, hdecodes, hends⟩
    rw [hdecodes.characters hamp hends, ← hpos]

/-- A way to write a text is decoded to it. -/
theorem Writes.decodes {plain : Char → Prop} (h : Writes plain text written)
    (hplain : ∀ c, plain c → stop c = false ∧ c ≠ '&') : Decodes stop text written := by
  induction h with
  | nil => exact .nil
  | plain hc _ ih => exact .plain (hplain _ hc).1 (hplain _ hc).2 ih
  | reference hbody hsize _ ih => exact .reference ⟨hsize, .inl hbody⟩ ih

theorem Writes.decodes_data (h : Writes (fun c => c ≠ '&' ∧ c ≠ '<') text written) :
    Decodes (· == '<') text written :=
  h.decodes fun c hc => ⟨by simpa using hc.2, hc.1⟩

theorem Writes.decodes_value {quote : Char}
    (h : Writes (fun c => c ≠ '&' ∧ c ≠ '<' ∧ c ≠ quote) text written) :
    Decodes (fun c => c == quote || c == '<') text written :=
  h.decodes fun c hc => ⟨by simp [hc.2], hc.1⟩

theorem Decodes.append {text' written' : List Char} (h : Decodes stop text written)
    (h' : Decodes stop text' written') : Decodes stop (text ++ text') (written ++ written') := by
  induction h with
  | nil => exact h'
  | plain hstop hamp _ ih => exact .plain hstop hamp ih
  | reference hbody _ ih => simpa using Decodes.reference hbody ih

/-- What goes on with more is decoded to more. -/
theorem Decodes.exists_of_append {text' written' : List Char} (h : Decodes stop text written)
    (hamp : stop '&' = false) (h' : Decodes stop text' (written ++ written')) :
    ∃ more, text' = text ++ more ∧ Decodes stop more written' := by
  -- the longer text is read in one go, and its beginning is read as what it is decoded to
  have hread : Markup.characters stop ⟨.start, written ++ written' ++ []⟩ = _ :=
    h'.characters hamp (by simp) .start
  rw [List.append_assoc, h.characters_append hamp] at hread
  obtain ⟨⟨more, fin⟩, hmore, heq⟩ := exists_of_map hread
  cases heq
  obtain ⟨written'', hwritten, -, hdecodes, -⟩ := (characters_eq_ok_iff hamp).mp hmore
  rw [List.append_nil, List.append_nil] at hwritten
  exact ⟨more, rfl, hwritten ▸ hdecodes⟩

/-- No `<` is decoded: it ends a text, and is no part of a reference. -/
theorem Decodes.lt_not_mem (h : Decodes (· == '<') text written) : '<' ∉ written := by
  induction h with
  | nil => exact List.not_mem_nil
  | plain hstop _ _ ih =>
    rw [List.mem_cons, not_or]
    refine ⟨?_, ih⟩
    rintro rfl
    cases hstop
  | reference hbody _ ih => simp [not_mem_of_denotes hbody.2 (.inr rfl), ih]

end Texts

/-! ### References in a source -/

/-- A reference is decoded to a character exactly if it ends after at most eleven bytes that denote
the character, or would without the plus sign that stands before their digits; reading goes on just
past its end. Any other reference is refused where it begins. Both hold wherever a text is read: in
character data and in values. -/
theorem reference_exact (p : Position) (rest : List Char) :
    (∀ c next, reference ⟨p, '&' :: rest⟩ = .ok (c, next) ↔
      ∃ body, rest = body ++ ';' :: next.rest ∧ (String.ofList body).utf8ByteSize ≤ 11 ∧
        (Denotes body c ∨ DenotesSigned body c) ∧
        next.pos = p.afterAll ('&' :: (body ++ [';']))) ∧
      (∀ body c d, DenotesSigned body c → ¬ Denotes body d) ∧
      (∀ error, reference ⟨p, '&' :: rest⟩ = .error error → error.pos = p) ∧
      ∀ stop : Char → Bool, stop '&' = false →
        characters stop ⟨p, '&' :: rest⟩ = (do
          let (c, next) ← reference ⟨p, '&' :: rest⟩
          let (cs, fin) ← characters stop next
          return (c :: cs, fin)) := by
  refine ⟨fun c next => ?_, fun body c d h => h.not_denotes, fun error h => reference_error_pos h,
    fun stop hamp => characters_reference hamp⟩
  rw [reference_eq_ok_iff]
  simp only [IsReference, and_assoc]

/-- A code point with a plus sign denotes nothing, but is decoded. -/
theorem reference_plusSign :
    (∀ body after c, "#+65;".toList = body ++ ';' :: after → ¬ Denotes body c) ∧
      reference ⟨.start, "&#+65;".toList⟩ = .ok ('A', ⟨⟨1, 7⟩, []⟩) ∧
      (parse "<a v='&#+65;'/>").toOption.map Element.attributes = some [⟨"v", "A"⟩] := by
  refine ⟨fun body after c h hbody => ?_, rfl, by decide +kernel⟩
  have hsigned : DenotesSigned "#+65".toList 'A' := .decimal ⟨by decide, [6, 5], rfl, rfl⟩
  -- what denotes a character ends before the first semicolon
  have hcut : Text.cutAt? (· == ';') "#+65;".toList = some (body, after) :=
    Text.cutAt?_beq_eq_some_iff.mpr ⟨h, not_mem_of_denotes (.inl hbody) (.inl rfl)⟩
  cases hcut
  exact hsigned.not_denotes hbody

end Uiml.Markup
