import Uiml.Attribute.Value
import Uiml.Proofs.Markup.Reference
import Uiml.Proofs.Text.Parts

/-!
# Colours in digits of base sixteen

A colour is written as `#` and three or four channels, each with one digit or each with two. Such a
text can be read by the places of its bytes, with what stands between two places taken for a number.
A place beyond the end or inside a character would break that off, and so would a number that is no
byte; and the reader of numbers lets a plus sign pass, which no channel has. None of this comes
about, as the digits are looked at first: they are single bytes, so that the text may be cut
anywhere.

## Main definitions

* `Attribute.StandsFor`, `Attribute.Channel`, `Attribute.Spells` — what digits write
* `Attribute.readHexColorAt` — the reading of a colour by the places of its bytes

## Main results

* `Attribute.readHexColor_eq_some_iff` — a colour is read from what spells it, and nothing else
* `Attribute.readHexColorAt_eq` — the reading by places never breaks off
* `Attribute.readHexColor_lowercase` — the case of digits does not matter
* `Attribute.readHexColor_exact` — the colour of any text
-/

namespace Uiml.Attribute

open Text (Breach sliceBytes exists_ofNat_of_le)

/-! ### What digits write -/

/-- A digit of base sixteen, in either case. -/
def IsHexDigit (c : Char) : Prop :=
  ('0' ≤ c ∧ c ≤ '9') ∨ ('a' ≤ c ∧ c ≤ 'f') ∨ ('A' ≤ c ∧ c ≤ 'F')

instance (c : Char) : Decidable (IsHexDigit c) := inferInstanceAs (Decidable (_ ∨ _))

/-- A digit stands for a number: the one of its place among the digits. -/
def StandsFor (c : Char) (n : Nat) : Prop :=
  "0123456789abcdef".toList[n]? = some c ∨ "0123456789ABCDEF".toList[n]? = some c

/-- A byte is written with some number of digits: with two of them, or with one, which stands for
two equal ones and so counts seventeen times. -/
inductive Channel : Nat → List Char → UInt8 → Prop
  | single {c : Char} {n : Nat} {byte : UInt8} (hc : StandsFor c n)
      (hbyte : byte.toNat = 17 * n) : Channel 1 [c] byte
  | pair {c d : Char} {m n : Nat} {byte : UInt8} (hc : StandsFor c m) (hd : StandsFor d n)
      (hbyte : byte.toNat = 16 * m + n) : Channel 2 [c, d] byte

/-- Digits write the channels of a colour in order, all of them with as many digits; the opacity is
full if it is left out. -/
inductive Spells : List Char → Color → Prop
  | rgb {width : Nat} {parts : List (List Char)} {r g b : UInt8}
      (h : List.Forall₂ (Channel width) parts [r, g, b]) :
      Spells parts.flatten (.ofBytes r g b 255)
  | rgba {width : Nat} {parts : List (List Char)} {r g b a : UInt8}
      (h : List.Forall₂ (Channel width) parts [r, g, b, a]) :
      Spells parts.flatten (.ofBytes r g b a)

/-! ### Reading by places -/

/-- The number that the bytes from one place up to another write in base sixteen. -/
def numberAt (hex : String) (first last : Nat) : OptionT (Except Breach) UInt8 := do
  let part ← sliceBytes hex first last
  match Integer.readNat 16 (Integer.largest 8) part.toList with
  | .ok n => return .ofNat n
  | .error _ => failure

/-- The channel that one digit at a place writes. -/
def singleAt (hex : String) (place : Nat) : OptionT (Except Breach) UInt8 := do
  let n ← numberAt hex place (place + 1)
  if n.toNat * 17 < UInt8.size then return n * 17 else throwThe Breach .overflow

/-- The channel that two digits from a place on write. -/
def pairAt (hex : String) (place : Nat) : OptionT (Except Breach) UInt8 :=
  numberAt hex place (place + 2)

/-- The colour that a text writes, read by the places of its bytes. -/
def readHexColorAt (s : String) : OptionT (Except Breach) Color :=
  match Text.trimChars s.toList with
  | '#' :: digits =>
    if digits.all fun c => IsHexDigit c then
      let hex := String.ofList digits
      match hex.utf8ByteSize with
      | 3 => do
        return .ofBytes (← singleAt hex 0) (← singleAt hex 1) (← singleAt hex 2) 255
      | 4 => do
        return .ofBytes (← singleAt hex 0) (← singleAt hex 1) (← singleAt hex 2) (← singleAt hex 3)
      | 6 => do
        return .ofBytes (← pairAt hex 0) (← pairAt hex 2) (← pairAt hex 4) 255
      | 8 => do
        return .ofBytes (← pairAt hex 0) (← pairAt hex 2) (← pairAt hex 4) (← pairAt hex 6)
      | _ => failure
    else failure
  | _ => failure

variable {c d : Char} {m n : Nat} {s : String} {digits : List Char} {color : Color}

/-! ### Digits -/

theorem StandsFor.lt (h : StandsFor c n) : n < 16 := by
  have hlength : "0123456789abcdef".toList.length = 16 ∧
      "0123456789ABCDEF".toList.length = 16 := by decide
  rcases h with h | h
  · exact hlength.1 ▸ (List.getElem?_eq_some_iff.mp h).1
  · exact hlength.2 ▸ (List.getElem?_eq_some_iff.mp h).1

theorem StandsFor.digit? (h : StandsFor c n) : Integer.digit? 16 c = some n := by
  have hn := h.lt
  rcases h with h | h
  · interval_cases n <;> (obtain rfl := Option.some.inj h; rfl)
  · interval_cases n <;> (obtain rfl := Option.some.inj h; rfl)

/-- A digit of base sixteen stands for a number. -/
theorem IsHexDigit.exists_standsFor (h : IsHexDigit c) : ∃ n, StandsFor c n := by
  rcases h with h | h | h
  · obtain ⟨n, (hlow : 48 ≤ n), (hhigh : n ≤ 57), rfl⟩ := exists_ofNat_of_le h.1 h.2
    exact ⟨n - 48, .inl (by interval_cases n <;> rfl)⟩
  · obtain ⟨n, (hlow : 97 ≤ n), (hhigh : n ≤ 102), rfl⟩ := exists_ofNat_of_le h.1 h.2
    exact ⟨n - 87, .inl (by interval_cases n <;> rfl)⟩
  · obtain ⟨n, (hlow : 65 ≤ n), (hhigh : n ≤ 70), rfl⟩ := exists_ofNat_of_le h.1 h.2
    exact ⟨n - 55, .inr (by interval_cases n <;> rfl)⟩

/-- What is read as a digit is one. -/
theorem isHexDigit_of_digit? (h : Integer.digit? 16 c = some n) : IsHexDigit c := by
  simp only [Integer.digit?, Option.ite_none_right_eq_some] at h
  obtain ⟨hlt, -⟩ := h
  by_contra hc
  simp only [IsHexDigit, not_or] at hc
  rw [if_neg hc.1, if_neg hc.2.1, if_neg hc.2.2] at hlt
  exact Nat.lt_irrefl 16 hlt

/-- Digits are characters of ASCII. -/
theorem IsHexDigit.utf8Size (h : IsHexDigit c) : c.utf8Size = 1 := by
  have hlast : c ≤ 'f' := by
    rcases h with h | h | h
    · exact Char.le_trans h.2 (by decide)
    · exact h.2
    · exact Char.le_trans h.2 (by decide)
  exact Char.utf8Size_eq_one_iff.mpr (UInt32.le_trans hlast (by decide))

theorem digit?_toLower (c : Char) : Integer.digit? 16 c.toLower = Integer.digit? 16 c := by
  rcases Text.toLower_cases c with h | ⟨n, hlow, hhigh, rfl⟩
  · rw [h]
  · interval_cases n <;> rfl

/-! ### Channels -/

variable {byte : UInt8} {bytes : List UInt8} {place width : Nat} {part : List Char}
  {parts : List (List Char)}

theorem liftM_ok {α : Type} (a : α) :
    (liftM (Except.ok a : Except Breach α) : OptionT (Except Breach) α) = pure a := rfl

/-- Digits between two places are read as the number that they write. -/
theorem numberAt_eq (hdigits : ∀ c ∈ digits, IsHexDigit c)
    (hpart : (digits.drop place).take width = part) (hwidth : part.length = width)
    (h : Markup.IsNumeral 16 part n) (hn : n < 256) :
    numberAt (String.ofList digits) place (place + width) = pure (.ofNat n) := by
  -- the digits are single bytes, so that they stand at the places of the bytes
  have hlast : place + width ≤ digits.length := by
    have hlength := congrArg List.length hpart
    rw [List.length_take, List.length_drop, hwidth] at hlength
    have hpos : 0 < width := hwidth ▸ List.length_pos_of_ne_nil h.1
    omega
  have hslice : sliceBytes (String.ofList digits) place (place + width) =
      .ok (String.ofList part) := by
    rw [Text.sliceBytes_ofList (fun c hc => (hdigits c hc).utf8Size) (Nat.le_add_right ..) hlast,
      Nat.add_sub_cancel_left, hpart]
  have hread : Integer.readNat 16 (Integer.largest 8) (String.ofList part).toList = .ok n := by
    rw [String.toList_ofList]
    exact h.readNat le_rfl (Nat.le_of_lt_succ hn)
  rw [numberAt, hslice, liftM_ok, pure_bind, hread]

/-- A sign is read with a number, so that it is the look at the digits that keeps it out. -/
example : (numberAt "+f" 0 2).run = .ok (some 15) ∧ readHexColor "#+f+f+f" = none := by decide

theorem Channel.length_eq (h : Channel width part byte) : part.length = width := by
  cases h <;> rfl

/-- One digit stands for two equal ones. -/
theorem Channel.exists_single (h : Channel 1 part byte) :
    ∃ c n, part = [c] ∧ StandsFor c n ∧ byte = .ofNat (16 * n + n) := by
  cases h with
  | @single c n _ hc hbyte =>
    refine ⟨c, n, rfl, hc, ?_⟩
    rw [← UInt8.ofNat_toNat (x := byte), hbyte]
    congr 1
    omega

theorem Channel.exists_pair (h : Channel 2 part byte) :
    ∃ c d m n, part = [c, d] ∧ StandsFor c m ∧ StandsFor d n ∧ byte = .ofNat (16 * m + n) := by
  cases h with
  | @pair c d m n _ hc hd hbyte =>
    exact ⟨c, d, m, n, rfl, hc, hd, by rw [← hbyte, UInt8.ofNat_toNat]⟩

/-- A channel of one digit is read at its place, and no byte overflows. -/
theorem Channel.singleAt (h : Channel 1 part byte) (hdigits : ∀ c ∈ digits, IsHexDigit c)
    (hpart : (digits.drop place).take 1 = part) :
    Attribute.singleAt (String.ofList digits) place = pure byte := by
  cases h with
  | @single c n _ hc hbyte =>
    have hlt := hc.lt
    have hnumeral : Markup.IsNumeral 16 [c] n :=
      ⟨List.cons_ne_nil _ _, [n], by simp [hc.digit?], by simp⟩
    have hnumber : (UInt8.ofNat n).toNat = n :=
      UInt8.toNat_ofNat_of_lt' (show n < 256 by omega)
    have hsize : (UInt8.ofNat n).toNat * 17 < UInt8.size := by
      rw [hnumber]
      exact (show n * 17 < 256 by omega)
    have hproduct : UInt8.ofNat n * 17 = byte := by
      rw [← UInt8.toNat_inj, UInt8.toNat_mul, hnumber, hbyte, Nat.mul_comm 17]
      exact Nat.mod_eq_of_lt (show n * 17 < 256 by omega)
    rw [Attribute.singleAt, numberAt_eq hdigits hpart rfl hnumeral (by omega), pure_bind,
      if_pos hsize, hproduct]

/-- A channel of two digits is read at its place. -/
theorem Channel.pairAt (h : Channel 2 part byte) (hdigits : ∀ c ∈ digits, IsHexDigit c)
    (hpart : (digits.drop place).take 2 = part) :
    Attribute.pairAt (String.ofList digits) place = pure byte := by
  cases h with
  | @pair c d m n _ hc hd hbyte =>
    have hnumeral : Markup.IsNumeral 16 [c, d] byte.toNat :=
      ⟨List.cons_ne_nil _ _, [m, n], by simp [hc.digit?, hd.digit?],
        by simp [Nat.ofDigits_cons, hbyte]; omega⟩
    rw [Attribute.pairAt, numberAt_eq hdigits hpart rfl hnumeral byte.toNat_lt, UInt8.ofNat_toNat]

/-- The bytes of digits are read from left to right. -/
theorem hexBytes?_cons_cons (hc : StandsFor c m) (hd : StandsFor d n) (rest : List Char) :
    hexBytes? (c :: d :: rest) = (hexBytes? rest).map (.ofNat (16 * m + n) :: ·) := by
  rw [hexBytes?, hexByte?, hc.digit?, hd.digit?]
  cases hexBytes? rest <;> rfl

theorem Channel.isHexDigit (h : Channel width part byte) : ∀ c ∈ part, IsHexDigit c := by
  cases h with
  | single hc => simpa using isHexDigit_of_digit? hc.digit?
  | pair hc hd => simpa using ⟨isHexDigit_of_digit? hc.digit?, isHexDigit_of_digit? hd.digit?⟩

theorem Channel.width_eq (h : Channel width part byte) : width = 1 ∨ width = 2 := by
  cases h with
  | single => exact .inl rfl
  | pair => exact .inr rfl

/-- As many digits as a channel has write a byte. -/
theorem exists_channel (hwidth : width = 1 ∨ width = 2) (hpart : ∀ c ∈ part, IsHexDigit c)
    (hlength : part.length = width) : ∃ byte, Channel width part byte := by
  rcases hwidth with rfl | rfl
  · obtain ⟨c, rfl⟩ := List.length_eq_one_iff.mp hlength
    obtain ⟨n, hc⟩ := (hpart c List.mem_cons_self).exists_standsFor
    have hlt := hc.lt
    exact ⟨_, .single hc (UInt8.toNat_ofNat_of_lt' (show 17 * n < 256 by omega))⟩
  · obtain ⟨c, d, rfl⟩ := List.length_eq_two.mp hlength
    obtain ⟨m, hc⟩ := (hpart c List.mem_cons_self).exists_standsFor
    obtain ⟨n, hd⟩ := (hpart d (List.mem_cons_of_mem _ List.mem_cons_self)).exists_standsFor
    have hm := hc.lt
    have hn := hd.lt
    exact ⟨_, .pair hc hd (UInt8.toNat_ofNat_of_lt' (show 16 * m + n < 256 by omega))⟩

/-! ### Channels in a row -/

theorem isHexDigit_of_channels (h : List.Forall₂ (Channel width) parts bytes) :
    ∀ c ∈ parts.flatten, IsHexDigit c := by
  induction h with
  | nil => simp
  | cons hpart _ ih =>
    rw [List.flatten_cons, List.forall_mem_append]
    exact ⟨hpart.isHexDigit, ih⟩

theorem length_of_channels (h : List.Forall₂ (Channel width) parts bytes) :
    parts.flatten.length = bytes.length * width := by
  induction h with
  | nil => simp
  | cons hpart _ ih =>
    rw [List.flatten_cons, List.length_append, hpart.length_eq, ih, List.length_cons,
      Nat.succ_mul, Nat.add_comm]

/-- Digits for some number of channels write so many bytes. -/
theorem exists_channels (hwidth : width = 1 ∨ width = 2) {count : Nat}
    (hdigits : ∀ c ∈ digits, IsHexDigit c) (hlength : digits.length = count * width) :
    ∃ parts bytes, digits = parts.flatten ∧ List.Forall₂ (Channel width) parts bytes ∧
      bytes.length = count := by
  induction count generalizing digits with
  | zero =>
    rw [Nat.zero_mul, List.length_eq_zero_iff] at hlength
    exact ⟨[], [], hlength, .nil, rfl⟩
  | succ count ih =>
    rw [Nat.succ_mul] at hlength
    -- the first digits write a channel, and those after them the other channels
    have hfirst : (digits.take width).length = width := by
      rw [List.length_take]
      omega
    have hrest : (digits.drop width).length = count * width := by
      rw [List.length_drop]
      omega
    obtain ⟨byte, hbyte⟩ :=
      exists_channel hwidth (fun c hc => hdigits c (List.mem_of_mem_take hc)) hfirst
    obtain ⟨parts, bytes, hparts, hbytes, hcount⟩ :=
      ih (fun c hc => hdigits c (List.mem_of_mem_drop hc)) hrest
    refine ⟨digits.take width :: parts, byte :: bytes, ?_, .cons hbyte hbytes, ?_⟩
    · rw [List.flatten_cons, ← hparts, List.take_append_drop]
    · rw [List.length_cons, hcount]

/-- Each channel stands where those before it end. -/
theorem channel_at (h : List.Forall₂ (Channel width) parts bytes) {k : Nat}
    (hk : bytes[k]? = some byte) :
    Channel width ((parts.flatten.drop (k * width)).take width) byte := by
  induction h generalizing k with
  | nil => cases hk
  | cons hpart _ ih =>
    cases k with
    | zero =>
      obtain rfl := Option.some.inj hk
      rwa [Nat.zero_mul, List.drop_zero, List.flatten_cons, List.take_left' hpart.length_eq]
    | succ k =>
      rw [List.flatten_cons, Nat.succ_mul, Nat.add_comm, ← List.drop_drop,
        List.drop_left' hpart.length_eq]
      exact ih hk

theorem singleAt_eq (h : List.Forall₂ (Channel 1) parts bytes) {k : Nat}
    (hk : bytes[k]? = some byte) : singleAt (String.ofList parts.flatten) k = pure byte :=
  (channel_at h hk).singleAt (isHexDigit_of_channels h) (by rw [Nat.mul_one])

theorem pairAt_eq (h : List.Forall₂ (Channel 2) parts bytes) {k : Nat}
    (hk : bytes[k]? = some byte) : pairAt (String.ofList parts.flatten) (k * 2) = pure byte :=
  (channel_at h hk).pairAt (isHexDigit_of_channels h) rfl

theorem width_of_channels (h : List.Forall₂ (Channel width) parts (byte :: bytes)) :
    width = 1 ∨ width = 2 := by
  cases h with
  | cons hpart _ => exact hpart.width_eq

theorem doubled_append (xs ys : List Char) : doubled (xs ++ ys) = doubled xs ++ doubled ys :=
  List.flatMap_append

theorem hexBytes?_doubled (h : List.Forall₂ (Channel 1) parts bytes) :
    hexBytes? (doubled parts.flatten) = some bytes := by
  induction h with
  | nil => rfl
  | cons hpart _ ih =>
    obtain ⟨c, n, rfl, hc, rfl⟩ := hpart.exists_single
    rw [List.flatten_cons, doubled_append]
    exact (hexBytes?_cons_cons hc hc _).trans (congrArg (Option.map _) ih)

theorem hexBytes?_flatten (h : List.Forall₂ (Channel 2) parts bytes) :
    hexBytes? parts.flatten = some bytes := by
  induction h with
  | nil => rfl
  | cons hpart _ ih =>
    obtain ⟨c, d, m, n, rfl, hc, hd, rfl⟩ := hpart.exists_pair
    rw [List.flatten_cons]
    exact (hexBytes?_cons_cons hc hd _).trans (congrArg (Option.map _) ih)

/-! ### Colours -/

theorem Spells.isHexDigit (h : Spells digits color) : ∀ c ∈ digits, IsHexDigit c := by
  cases h with
  | rgb h | rgba h => exact isHexDigit_of_channels h

/-- What spells a colour is read as that colour. -/
theorem Spells.readHexColor (h : Spells digits color)
    (hs : Text.trimChars s.toList = '#' :: digits) : Attribute.readHexColor s = some color := by
  rw [Attribute.readHexColor, hs]
  cases h with
  | rgb h =>
    rcases width_of_channels h with rfl | rfl
    · simp [length_of_channels h, hexBytes?_doubled h]
    · simp [length_of_channels h, hexBytes?_flatten h]
  | rgba h =>
    rcases width_of_channels h with rfl | rfl
    · simp [length_of_channels h, hexBytes?_doubled h]
    · simp [length_of_channels h, hexBytes?_flatten h]

/-- It is read by places as well. -/
theorem Spells.readHexColorAt (h : Spells digits color)
    (hs : Text.trimChars s.toList = '#' :: digits) :
    Attribute.readHexColorAt s = pure color := by
  have hbytes : (String.ofList digits).utf8ByteSize = digits.length :=
    Text.utf8ByteSize_ofList fun c hc => (h.isHexDigit c hc).utf8Size
  have hall : digits.all (fun c => IsHexDigit c) = true := by simpa using h.isHexDigit
  rw [Attribute.readHexColorAt, hs]
  simp only [if_pos hall, hbytes]
  cases h with
  | rgb h =>
    rw [length_of_channels h]
    rcases width_of_channels h with rfl | rfl
    · simp [singleAt_eq h (k := 0) rfl, singleAt_eq h (k := 1) rfl, singleAt_eq h (k := 2) rfl]
    · simp [pairAt_eq h (k := 0) rfl, pairAt_eq h (k := 1) rfl, pairAt_eq h (k := 2) rfl]
  | rgba h =>
    rw [length_of_channels h]
    rcases width_of_channels h with rfl | rfl
    · simp [singleAt_eq h (k := 0) rfl, singleAt_eq h (k := 1) rfl, singleAt_eq h (k := 2) rfl,
        singleAt_eq h (k := 3) rfl]
    · simp [pairAt_eq h (k := 0) rfl, pairAt_eq h (k := 1) rfl, pairAt_eq h (k := 2) rfl,
        pairAt_eq h (k := 3) rfl]

/-- What is read as bytes is made of digits. -/
theorem isHexDigit_of_hexBytes? {cs : List Char} (h : hexBytes? cs = some bytes) :
    ∀ c ∈ cs, IsHexDigit c := by
  induction cs using hexBytes?.induct generalizing bytes with
  | case1 => simp
  | case2 => cases h
  | case3 high low rest byte bytes hbytes hbyte ih =>
    rw [hexByte?] at hbyte
    split at hbyte
    · next m n hm hn =>
      simp only [List.forall_mem_cons]
      exact ⟨isHexDigit_of_digit? hm, isHexDigit_of_digit? hn, ih hbytes⟩
    · cases hbyte
  | case4 high low rest hnone ih =>
    rw [hexBytes?] at h
    split at h
    · next hbyte hbytes => exact absurd hbytes (hnone _ _ hbyte)
    · cases h

/-- Digits of the kind and the number that a colour has. -/
def IsHexShape (digits : List Char) : Prop :=
  (digits.length = 3 ∨ digits.length = 4 ∨ digits.length = 6 ∨ digits.length = 8) ∧
    ∀ c ∈ digits, IsHexDigit c

theorem IsHexShape.of_bytes (h : (match digits.length with
      | 3 | 4 => hexBytes? (doubled digits)
      | 6 | 8 => hexBytes? digits
      | _ => none) = some bytes) : IsHexShape digits := by
  have hdoubled : ∀ c ∈ digits, c ∈ doubled digits := fun c hc =>
    List.mem_flatMap.mpr ⟨c, hc, List.mem_cons_self⟩
  split at h
  · next hlength => exact ⟨.inl hlength, fun c hc => isHexDigit_of_hexBytes? h c (hdoubled c hc)⟩
  · next hlength =>
    exact ⟨.inr (.inl hlength), fun c hc => isHexDigit_of_hexBytes? h c (hdoubled c hc)⟩
  · next hlength => exact ⟨.inr (.inr (.inl hlength)), isHexDigit_of_hexBytes? h⟩
  · next hlength => exact ⟨.inr (.inr (.inr hlength)), isHexDigit_of_hexBytes? h⟩
  · cases h

/-- What is read as a colour is `#` with so many digits. -/
theorem isHexShape_of_readHexColor (h : Attribute.readHexColor s = some color) :
    ∃ digits, Text.trimChars s.toList = '#' :: digits ∧ IsHexShape digits := by
  rw [Attribute.readHexColor] at h
  split at h
  · next digits hs =>
    simp only at h
    split at h
    · next hbytes => exact ⟨digits, hs, .of_bytes hbytes⟩
    · next hbytes => exact ⟨digits, hs, .of_bytes hbytes⟩
    · cases h
  · cases h

theorem IsHexShape.exists_spells (h : IsHexShape digits) : ∃ color, Spells digits color := by
  obtain ⟨hlength, hdigits⟩ := h
  have hchannels : ∃ width, (width = 1 ∨ width = 2) ∧
      (digits.length = 3 * width ∨ digits.length = 4 * width) := by
    rcases hlength with h | h | h | h
    · exact ⟨1, .inl rfl, .inl h⟩
    · exact ⟨1, .inl rfl, .inr h⟩
    · exact ⟨2, .inr rfl, .inl h⟩
    · exact ⟨2, .inr rfl, .inr h⟩
  obtain ⟨width, hwidth, hcount | hcount⟩ := hchannels
  · obtain ⟨parts, bytes, rfl, h, hbytes⟩ := exists_channels hwidth hdigits hcount
    match bytes, hbytes with
    | [r, g, b], _ => exact ⟨_, .rgb h⟩
  · obtain ⟨parts, bytes, rfl, h, hbytes⟩ := exists_channels hwidth hdigits hcount
    match bytes, hbytes with
    | [r, g, b, a], _ => exact ⟨_, .rgba h⟩

/-- A colour is read from what spells it, and from nothing else. -/
theorem readHexColor_eq_some_iff : Attribute.readHexColor s = some color ↔
    ∃ digits, Text.trimChars s.toList = '#' :: digits ∧ Spells digits color := by
  constructor
  · intro h
    obtain ⟨digits, hs, hshape⟩ := isHexShape_of_readHexColor h
    obtain ⟨color', hspells⟩ := hshape.exists_spells
    obtain rfl := Option.some.inj ((hspells.readHexColor hs).symm.trans h)
    exact ⟨digits, hs, hspells⟩
  · rintro ⟨digits, hs, hspells⟩
    exact hspells.readHexColor hs

theorem isSome_readHexColor_iff : (Attribute.readHexColor s).isSome = true ↔
    ∃ digits, Text.trimChars s.toList = '#' :: digits ∧ IsHexShape digits := by
  rw [Option.isSome_iff_exists]
  constructor
  · rintro ⟨color, h⟩
    exact isHexShape_of_readHexColor h
  · rintro ⟨digits, hs, hshape⟩
    obtain ⟨color, hspells⟩ := hshape.exists_spells
    exact ⟨color, hspells.readHexColor hs⟩

/-- The reading by places never breaks off, and gives the same colours. -/
theorem readHexColorAt_eq (s : String) :
    (readHexColorAt s).run = .ok (Attribute.readHexColor s) := by
  cases h : Attribute.readHexColor s with
  | some color =>
    obtain ⟨digits, hs, hspells⟩ := readHexColor_eq_some_iff.mp h
    rw [hspells.readHexColorAt hs]
    rfl
  | none =>
    have hshape : ∀ digits, Text.trimChars s.toList = '#' :: digits → ¬IsHexShape digits := by
      intro digits hs hshape
      have hsome := isSome_readHexColor_iff.mpr ⟨digits, hs, hshape⟩
      rw [h] at hsome
      cases hsome
    rw [readHexColorAt]
    split
    · next digits hs =>
      split
      · next hall =>
        -- all are digits, so that their number is none of those
        have hdigits : ∀ c ∈ digits, IsHexDigit c := by simpa using hall
        have hlength : ¬(digits.length = 3 ∨ digits.length = 4 ∨ digits.length = 6 ∨
            digits.length = 8) := fun hlength => hshape digits hs ⟨hlength, hdigits⟩
        have hbytes : (String.ofList digits).utf8ByteSize = digits.length :=
          Text.utf8ByteSize_ofList fun c hc => (hdigits c hc).utf8Size
        simp only [hbytes]
        split
        all_goals first | rfl | omega
      · rfl
    · rfl

/-! ### The case of digits -/

theorem hexBytes?_map_toLower (cs : List Char) :
    hexBytes? (cs.map Char.toLower) = hexBytes? cs := by
  induction cs using hexBytes?.induct with
  | case1 => rfl
  | case2 => rfl
  | case3 high low rest byte bytes hbytes hbyte ih | case4 high low rest hnone ih =>
    simp only [List.map_cons, hexBytes?, hexByte?, digit?_toLower, ih]

theorem doubled_map_toLower (cs : List Char) :
    doubled (cs.map Char.toLower) = (doubled cs).map Char.toLower := by
  rw [doubled, doubled, List.flatMap_map, List.map_flatMap]
  rfl

theorem toLower_eq_hash_iff : c.toLower = '#' ↔ c = '#' := by
  rcases Text.toLower_cases c with h | ⟨n, hlow, hhigh, rfl⟩
  · rw [h]
  · interval_cases n <;> decide

/-- The case of letters does not matter to a colour. -/
theorem readHexColor_lowercase (s : String) :
    Attribute.readHexColor (Text.lowercase s) = Attribute.readHexColor s := by
  have htrim : Text.trimChars (Text.lowercase s).toList =
      (Text.trimChars s.toList).map Char.toLower := by
    rw [Text.lowercase, String.toList_ofList, Text.trimChars_map_toLower]
  rw [Attribute.readHexColor, Attribute.readHexColor, htrim]
  cases Text.trimChars s.toList with
  | nil => rfl
  | cons c digits =>
    -- no letter stands for `#`, nor does it for a letter
    by_cases hc : c = '#'
    · have hlower : Char.toLower '#' = '#' := rfl
      simp only [hc, List.map_cons, hlower, List.length_map, doubled_map_toLower,
        hexBytes?_map_toLower]
    · have hc' : c.toLower ≠ '#' := mt toLower_eq_hash_iff.mp hc
      rw [List.map_cons]
      split
      · next h => exact absurd (List.cons.inj h).1 hc'
      · split
        · next h => exact absurd (List.cons.inj h).1 hc
        · rfl

/-! ### Long forms -/

theorem length_doubled (digits : List Char) : (doubled digits).length = 2 * digits.length := by
  simp [doubled, Nat.mul_comm]

/-- A short form and its long form are the same colour, or both none. -/
theorem readHexColor_doubled {t : String} (hs : Text.trimChars s.toList = '#' :: digits)
    (hlength : digits.length = 3 ∨ digits.length = 4)
    (ht : Text.trimChars t.toList = '#' :: doubled digits) :
    Attribute.readHexColor t = Attribute.readHexColor s := by
  rw [Attribute.readHexColor, Attribute.readHexColor, hs, ht]
  rcases hlength with h | h
  · simp only [length_doubled, h]
  · simp only [length_doubled, h]

/-! ### All texts -/

/-- Whatever text is given, the reading of a colour by the places of its bytes ends without a slice
that is out of range or cuts a character, and without a byte that overflows, and its result is that
of `readHexColor`. There is one exactly if the text without the blanks at its ends is `#` with
three, four, six or eight digits of base sixteen; the digits then write the channels in order, one
digit counting seventeen times and a missing opacity being full. Texts that differ in the case of
letters only give the same result, and so does a short form with every digit doubled. -/
theorem readHexColor_exact (s : String) :
    (readHexColorAt s).run = .ok (Attribute.readHexColor s) ∧
    ((Attribute.readHexColor s).isSome = true ↔ ∃ digits,
      Text.trim s = String.ofList ('#' :: digits) ∧
      (digits.length = 3 ∨ digits.length = 4 ∨ digits.length = 6 ∨ digits.length = 8) ∧
      ∀ c ∈ digits, IsHexDigit c) ∧
    (∀ color, Attribute.readHexColor s = some color ↔ ∃ digits,
      Text.trim s = String.ofList ('#' :: digits) ∧ Spells digits color) ∧
    (∀ t, Text.sameLetters s t = true → Attribute.readHexColor t = Attribute.readHexColor s) ∧
    ∀ digits t, Text.trim s = String.ofList ('#' :: digits) →
      digits.length = 3 ∨ digits.length = 4 →
      Text.trim t = String.ofList ('#' :: digits.flatMap fun d => [d, d]) →
      Attribute.readHexColor t = Attribute.readHexColor s := by
  simp only [Text.trim, String.ofList_inj]
  refine ⟨readHexColorAt_eq s, isSome_readHexColor_iff, fun _ => readHexColor_eq_some_iff, ?_,
    fun digits t hs hlength ht => readHexColor_doubled hs hlength ht⟩
  intro t hsame
  have hlower : Text.lowercase t = Text.lowercase s := by
    rw [Text.lowercase, Text.lowercase, eq_of_beq hsame]
  rw [← readHexColor_lowercase t, hlower, readHexColor_lowercase]

/-- A green that is half clear, with one digit for each channel, in either case, and with two. -/
theorem readHexColor_exact_green :
    readHexColor "#0f08" = some (.ofBytes 0 255 0 136) ∧
      readHexColor "#0F08" = readHexColor "#0f08" ∧
      readHexColor "#00ff0088" = readHexColor "#0f08" := by
  obtain ⟨-, -, hspells, hcase, hlong⟩ := readHexColor_exact "#0f08"
  have hgreen : Spells ['0', 'f', '0', '8'] (.ofBytes 0 255 0 136) :=
    .rgba (.cons (.single (n := 0) (.inl rfl) rfl) (.cons (.single (n := 15) (.inl rfl) rfl)
      (.cons (.single (n := 0) (.inl rfl) rfl) (.cons (.single (n := 8) (.inl rfl) rfl) .nil))))
  exact ⟨(hspells _).mpr ⟨_, by decide, hgreen⟩, hcase "#0F08" (by decide),
    hlong ['0', 'f', '0', '8'] "#00ff0088" (by decide) (.inr rfl) (by decide)⟩

end Uiml.Attribute
