import Mathlib.Data.Nat.Digits.Lemmas
import Uiml.Markup.Lexer

/-!
# References and escaped texts

A character can be written as a reference: by one of five names, or by its code point in decimal or
hexadecimal digits. A text is written character by character, as it is or as references; some
characters have to be references, depending on where the text stands.

## Main definitions

* `Denotes` — what a reference holds between `&` and `;`
* `Writes` — the ways to write a text, given which characters may stand as they are

## Main results

* `Denotes.decodeReference` — what denotes a character is decoded to it
-/

namespace Uiml.Markup

/-- Digits of a base that have a number as their value. -/
def IsNumeral (base : Nat) (digits : List Char) (n : Nat) : Prop :=
  digits ≠ [] ∧ ∃ values : List Nat,
    digits.map (Integer.digit? base) = values.map some ∧ Nat.ofDigits base values.reverse = n

/-- What a reference to a character holds between `&` and `;`. -/
inductive Denotes : List Char → Char → Prop
  | amp : Denotes ['a', 'm', 'p'] '&'
  | lt : Denotes ['l', 't'] '<'
  | gt : Denotes ['g', 't'] '>'
  | quot : Denotes ['q', 'u', 'o', 't'] '"'
  | apos : Denotes ['a', 'p', 'o', 's'] '\''
  | decimal {digits : List Char} {c : Char} (h : IsNumeral 10 digits c.toNat) :
      Denotes ('#' :: digits) c
  | hexadecimal {x : Char} {digits : List Char} {c : Char} (hx : x = 'x' ∨ x = 'X')
      (h : IsNumeral 16 digits c.toNat) : Denotes ('#' :: x :: digits) c

/-- A way to write a text: characters of a class as they are, and any character as a reference. -/
inductive Writes (plain : Char → Prop) : List Char → List Char → Prop
  | nil : Writes plain [] []
  | plain {c : Char} {text written : List Char} (hc : plain c) (h : Writes plain text written) :
      Writes plain (c :: text) (c :: written)
  | reference {c : Char} {body text written : List Char} (hbody : Denotes body c)
      (hsize : (String.ofList body).utf8ByteSize ≤ 11) (h : Writes plain text written) :
      Writes plain (c :: text) ('&' :: (body ++ ';' :: written))

/-! ### Numbers -/

section Numerals

variable {base most value n : Nat} {digits : List Char} {values : List Nat} {c x : Char}

theorem digit?_lt {d : Nat} (h : Integer.digit? base c = some d) : d < base := by
  simp only [Integer.digit?, Option.ite_none_right_eq_some, Option.some.injEq] at h
  exact h.2 ▸ h.1

/-- What is no digit of base sixteen is no digit of a smaller base. -/
theorem digit?_eq_none (hbase : base ≤ 16) (h : Integer.digit? 16 c = none) :
    Integer.digit? base c = none := by
  simp only [Integer.digit?, ite_eq_right_iff, reduceCtorEq, imp_false, Nat.not_lt] at h ⊢
  exact hbase.trans h

/-- Digits are read as their value, if it is in the range, after a value read before them. -/
theorem readDigits_eq_ok (beyond : Integer.Fault)
    (hdigits : digits.map (Integer.digit? base) = values.map some)
    (hmost : value * base ^ values.length + Nat.ofDigits base values.reverse ≤ most) :
    Integer.readDigits base most beyond value digits =
      .ok (value * base ^ values.length + Nat.ofDigits base values.reverse) := by
  induction digits generalizing value values with
  | nil =>
    obtain rfl : values = [] := by simpa using hdigits.symm
    simp [Integer.readDigits]
  | cons c digits ih =>
    rcases values with _ | ⟨d, values⟩
    · cases hdigits
    · obtain ⟨hd, hdigits⟩ := List.cons.inj hdigits
      -- the first digit counts for as many places as there are digits after it
      have hvalue : value * base ^ (d :: values).length + Nat.ofDigits base (d :: values).reverse =
          (value * base + d) * base ^ values.length + Nat.ofDigits base values.reverse := by
        rw [List.reverse_cons, Nat.ofDigits_append, List.length_reverse, Nat.ofDigits_singleton,
          List.length_cons]
        ring
      rw [hvalue] at hmost ⊢
      have hbase : 0 < base := Nat.zero_lt_of_lt (digit?_lt hd)
      have hnext : value * base + d ≤ most :=
        (Nat.le_mul_of_pos_right _ (Nat.pow_pos hbase)).trans ((Nat.le_add_right _ _).trans hmost)
      simp only [Integer.readDigits, hd, if_pos hnext]
      exact ih hdigits hmost

/-- A numeral is made of digits. -/
theorem IsNumeral.ne_of_mem (h : IsNumeral base digits n) (hbase : base ≤ 16)
    (hx : Integer.digit? 16 x = none) (hc : c ∈ digits) : c ≠ x := by
  obtain ⟨-, values, hdigits, -⟩ := h
  obtain ⟨d, -, hd⟩ := List.mem_map.mp (hdigits ▸ List.mem_map_of_mem hc)
  rintro rfl
  cases hd.trans (digit?_eq_none hbase hx)

/-- A numeral that is not beyond the range is read as its value. -/
theorem IsNumeral.readNat (h : IsNumeral base digits n) (hbase : base ≤ 16) (hmost : n ≤ most) :
    Integer.readNat base most digits = .ok n := by
  -- the sign that may stand before a numeral is no digit
  have hplus : ∀ c ∈ digits, c ≠ '+' := fun c hc => h.ne_of_mem hbase rfl hc
  obtain ⟨hne, values, hdigits, rfl⟩ := h
  have hbound : 0 * base ^ values.length + Nat.ofDigits base values.reverse ≤ most := by
    simpa using hmost
  have hread := readDigits_eq_ok .tooLarge hdigits hbound
  rw [Nat.zero_mul, Nat.zero_add] at hread
  rw [← hread, Integer.readNat.eq_def]
  split
  · exact absurd rfl hne
  · exact absurd rfl (hplus _ List.mem_cons_self)
  · exact absurd rfl (hplus _ List.mem_cons_self)
  · rfl

theorem charOfCode?_toNat (c : Char) : charOfCode? c.toNat = some c := by
  rw [charOfCode?, dif_pos (show c.toNat.isValidChar from c.valid)]
  rfl

/-- A numeral for the code point of a character refers to the character. -/
theorem IsNumeral.numericReference (h : IsNumeral base digits c.toNat) (hbase : base ≤ 16) :
    numericReference base digits = some c := by
  have hmost : c.toNat ≤ Integer.largest 32 := Nat.le_sub_one_of_lt c.val.toNat_lt
  rw [Markup.numericReference, h.readNat hbase hmost]
  exact charOfCode?_toNat c

end Numerals

/-! ### References -/

section References

variable {body : List Char} {c : Char}

/-- What denotes a character is decoded to it. -/
theorem Denotes.decodeReference (h : Denotes body c) : decodeReference body = some c := by
  cases h with
  | amp | lt | gt | quot | apos => rfl
  | @decimal digits _ h =>
    -- the mark of a hexadecimal reference is no decimal digit
    have hx : ∀ d ∈ digits, d ≠ 'x' := fun d hd => h.ne_of_mem (by decide) rfl hd
    have hX : ∀ d ∈ digits, d ≠ 'X' := fun d hd => h.ne_of_mem (by decide) rfl hd
    rw [← h.numericReference (by decide), Markup.decodeReference.eq_def]
    split <;> simp_all
  | hexadecimal hx h => rcases hx with rfl | rfl <;> exact h.numericReference (by decide)

/-- The cursor past characters that it has before it. -/
theorem Cursor.drop_append (p : Position) (read rest : List Char) :
    Cursor.drop read.length ⟨p, read ++ rest⟩ = ⟨p.afterAll read, rest⟩ := by
  rw [Cursor.drop, List.take_left, List.drop_left]

end References

/-! ### Texts -/

/-- A text of characters that may stand as they are can be written as it is. -/
theorem Writes.of_forall {plain : Char → Prop} {text : List Char} (h : ∀ c ∈ text, plain c) :
    Writes plain text text := by
  induction text with
  | nil => exact .nil
  | cons c text ih =>
    obtain ⟨hc, htext⟩ := List.forall_mem_cons.mp h
    exact .plain hc (ih htext)

end Uiml.Markup
