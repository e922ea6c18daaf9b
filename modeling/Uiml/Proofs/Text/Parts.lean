import Mathlib.Data.List.DropRight
import Mathlib.Tactic.IntervalCases
import Uiml.Text.Trim

/-!
# The parts of a text

A text is cut at the first character of a class, or at the places of its bytes. The second way goes
wrong if a place is beyond the end of the text or inside a character. It never does where one part
of the text ends and the next begins, and so it goes wrong nowhere if all characters are single
bytes.

The words of a text are its parts between blanks. A text that does not start with a blank starts
with a word. What follows it, without the blanks at its ends, holds the words that are left.

## Main definitions

* `Text.Breach` — why a reading by the places of bytes breaks off
* `Text.sliceBytes` — the part of a text between two of its bytes
* `Text.Heads` — a text starts with a word, and something follows it

## Main results

* `Text.cutAt?_eq_some_iff`, `Text.cutAt?_eq_none_iff` — where a text is cut
* `Text.sliceBytes_append`, `Text.sliceBytes_ofList` — a text may be cut between its parts, and one
  of single bytes anywhere
* `Text.trimChars_map_toLower` — the case of letters does not matter to the blanks at the ends
* `Text.heads_iff` — the first cut at a blank gives the first word
* `Text.Heads.words_eq`, `Text.exists_heads` — the words of a text are its first one and those after
  it
-/

namespace Uiml.Text

variable {p : Char → Bool} {cs before after : List Char} {line word rest : String}

/-! ### Cutting -/

/-- A text is cut at the first character of a class. -/
theorem cutAt?_eq_some_iff : cutAt? p cs = some (before, after) ↔
    ∃ c, cs = before ++ c :: after ∧ (∀ b ∈ before, p b = false) ∧ p c = true := by
  have hshape : cs.takeWhile (fun c => !p c) ++ cs.dropWhile (fun c => !p c) = cs :=
    List.takeWhile_append_dropWhile
  constructor
  · intro h
    rw [cutAt?] at h
    split at h
    · cases h
    · next c rest hrest =>
      cases h
      refine ⟨c, by rw [← hrest, hshape], fun b hb => ?_, ?_⟩
      · simpa using List.mem_takeWhile_imp hb
      · have hc := List.head?_dropWhile_not (fun c => !p c) cs
        rw [hrest] at hc
        simpa using hc
  · rintro ⟨c, rfl, hbefore, hc⟩
    have hgoes : ∀ b ∈ before, (!p b) = true := fun b hb => by rw [hbefore b hb]; rfl
    rw [cutAt?, List.dropWhile_append_of_pos hgoes, List.takeWhile_append_of_pos hgoes]
    simp [hc]

theorem cutAt?_eq_none_iff : cutAt? p cs = none ↔ ∀ c ∈ cs, p c = false := by
  have hnil : cutAt? p cs = none ↔ cs.dropWhile (fun c => !p c) = [] := by
    rw [cutAt?]
    split
    · next h => simp [h]
    · next h => simp [h]
  rw [hnil, List.dropWhile_eq_nil_iff]
  simp

/-- A text is cut at the first occurrence of a character. -/
theorem cutAt?_beq_eq_some_iff {d : Char} :
    cutAt? (· == d) cs = some (before, after) ↔ cs = before ++ d :: after ∧ d ∉ before := by
  rw [cutAt?_eq_some_iff]
  constructor
  · rintro ⟨c, hcs, hbefore, hc⟩
    obtain rfl : c = d := by simpa using hc
    exact ⟨hcs, fun hmem => by simpa using hbefore c hmem⟩
  · rintro ⟨hcs, hbefore⟩
    exact ⟨d, hcs, fun b hb => by simpa using ne_of_mem_of_not_mem hb hbefore, by simp⟩

theorem cutAt?_beq_eq_none_iff {d : Char} : cutAt? (· == d) cs = none ↔ d ∉ cs := by
  rw [cutAt?_eq_none_iff]
  constructor
  · intro h hmem
    simpa using h d hmem
  · intro h c hc
    simpa using ne_of_mem_of_not_mem hc h

/-! ### Cutting by the places of bytes -/

/-- Why a reading by the places of bytes breaks off: a place is beyond the end of the text, or
inside a character, or a number is more than a byte holds. -/
inductive Breach where
  | outOfRange
  | insideCharacter
  | overflow
  deriving DecidableEq, Repr

/-- The part of a text from one byte up to another, each of which is the first of a character or the
end of the text. -/
def sliceBytes (s : String) (first last : Nat) : Except Breach String :=
  if last < first ∨ s.utf8ByteSize < last then .error .outOfRange
  else if h : String.Pos.Raw.IsValid s ⟨first⟩ ∧ String.Pos.Raw.IsValid s ⟨last⟩ then
    .ok (s.extract (s.pos ⟨first⟩ h.1) (s.pos ⟨last⟩ h.2))
  else .error .insideCharacter

/-- A text may be cut where one of its parts ends and the next begins. -/
theorem sliceBytes_append (before part after : String) :
    sliceBytes (before ++ part ++ after) before.utf8ByteSize (before ++ part).utf8ByteSize =
      .ok part := by
  have hsize : (before ++ part).utf8ByteSize = before.utf8ByteSize + part.utf8ByteSize :=
    String.utf8ByteSize_append
  have hrange : ¬((before ++ part).utf8ByteSize < before.utf8ByteSize ∨
      (before ++ part ++ after).utf8ByteSize < (before ++ part).utf8ByteSize) := by
    rw [String.utf8ByteSize_append (t := after)]
    omega
  have hfirst : String.Pos.Raw.IsValid (before ++ part ++ after) ⟨before.utf8ByteSize⟩ :=
    String.Pos.Raw.isValid_iff_exists_append.mpr
      ⟨before, part ++ after, String.append_assoc, rfl⟩
  have hlast : String.Pos.Raw.IsValid (before ++ part ++ after) ⟨(before ++ part).utf8ByteSize⟩ :=
    String.Pos.Raw.isValid_iff_exists_append.mpr ⟨before ++ part, after, rfl, rfl⟩
  -- without the bytes of the first part, the places count from the start of the second
  have hskip : (before.toByteArray ++ (part.toByteArray ++ after.toByteArray)).extract
      (before.utf8ByteSize + 0) (before.utf8ByteSize + part.utf8ByteSize) =
        (part.toByteArray ++ after.toByteArray).extract 0 part.utf8ByteSize :=
    ByteArray.extract_append_size_add' String.size_toByteArray.symm
  rw [sliceBytes, if_neg hrange, dif_pos ⟨hfirst, hlast⟩, Except.ok.injEq, ← String.toByteArray_inj,
    String.toByteArray_extract, String.offset_pos, String.offset_pos, hsize, String.append_assoc,
    String.toByteArray_append, String.toByteArray_append]
  exact hskip.trans (ByteArray.extract_append_eq_left String.size_toByteArray.symm)

/-- A text may not be cut inside a character. -/
example : sliceBytes "é" 0 1 = .error .insideCharacter := rfl

theorem utf8ByteSize_ofList (h : ∀ c ∈ cs, c.utf8Size = 1) :
    (String.ofList cs).utf8ByteSize = cs.length := by
  induction cs with
  | nil => rfl
  | cons c cs ih =>
    obtain ⟨hc, hcs⟩ := List.forall_mem_cons.mp h
    rw [String.ofList_cons, String.utf8ByteSize_append, ih hcs, String.utf8ByteSize_singleton, hc,
      List.length_cons, Nat.add_comm]

/-- Where every character is one byte, a text may be cut anywhere. -/
theorem sliceBytes_ofList (h : ∀ c ∈ cs, c.utf8Size = 1) {first last : Nat} (hle : first ≤ last)
    (hlast : last ≤ cs.length) :
    sliceBytes (String.ofList cs) first last =
      .ok (String.ofList ((cs.drop first).take (last - first))) := by
  have hshape : cs = cs.take first ++ (cs.drop first).take (last - first) ++ cs.drop last := by
    have hdrop : cs.drop last = (cs.drop first).drop (last - first) := by
      rw [List.drop_drop, Nat.add_sub_cancel' hle]
    rw [hdrop, List.append_assoc, List.take_append_drop, List.take_append_drop]
  have hbefore : (String.ofList (cs.take first)).utf8ByteSize = first := by
    rw [utf8ByteSize_ofList fun c hc => h c (List.mem_of_mem_take hc), List.length_take]
    omega
  have hpart : (String.ofList ((cs.drop first).take (last - first))).utf8ByteSize =
      last - first := by
    rw [utf8ByteSize_ofList fun c hc => h c (List.mem_of_mem_drop (List.mem_of_mem_take hc)),
      List.length_take, List.length_drop]
    omega
  have hslice := sliceBytes_append (String.ofList (cs.take first))
    (String.ofList ((cs.drop first).take (last - first))) (String.ofList (cs.drop last))
  rwa [String.utf8ByteSize_append, hbefore, hpart, Nat.add_sub_cancel' hle, ← String.ofList_append,
    ← String.ofList_append, ← hshape] at hslice

/-! ### Blanks at the ends -/

theorem dropBlanks_append {before : List Char} (hbefore : ∀ c ∈ before, isBlank c = true)
    (cs : List Char) : dropBlanks (before ++ cs) = dropBlanks cs :=
  List.dropWhile_append_of_pos hbefore

/-- Trimming takes blanks away at both ends, however many there are. -/
theorem trimChars_pad {before after : List Char} (hbefore : ∀ c ∈ before, isBlank c = true)
    (hafter : ∀ c ∈ after, isBlank c = true) (cs : List Char) :
    trimChars (before ++ cs ++ after) = trimChars cs := by
  have hreverse : ∀ c ∈ after.reverse, isBlank c = true := fun c hc =>
    hafter c (List.mem_reverse.mp hc)
  rw [trimChars, trimChars, List.append_assoc, dropBlanks_append hbefore]
  -- either there is something between the blanks, or all of it is blank
  have happend : dropBlanks (cs ++ after) =
      if (dropBlanks cs).isEmpty then dropBlanks after else dropBlanks cs ++ after :=
    List.dropWhile_append
  rw [happend]
  split
  · next hblank =>
    have hnil : dropBlanks after = [] := List.dropWhile_eq_nil_iff.mpr hafter
    rw [hnil, List.isEmpty_iff.mp hblank]
  · rw [List.reverse_append, dropBlanks_append hreverse]

/-- What trimming takes away is blank. -/
theorem exists_pad (cs : List Char) : ∃ before after,
    (∀ c ∈ before, isBlank c = true) ∧ (∀ c ∈ after, isBlank c = true) ∧
      cs = before ++ trimChars cs ++ after := by
  refine ⟨cs.takeWhile isBlank, (dropBlanks cs).rtakeWhile isBlank, ?_, ?_, ?_⟩
  · exact fun c hc => List.mem_takeWhile_imp hc
  · exact fun c hc => List.mem_rtakeWhile_imp hc
  · have hsplit : trimChars cs ++ (dropBlanks cs).rtakeWhile isBlank = dropBlanks cs :=
      List.rdropWhile_append_rtakeWhile ..
    rw [List.append_assoc, hsplit, dropBlanks, List.takeWhile_append_dropWhile]

theorem trimChars_prefix (cs : List Char) : trimChars cs <+: dropBlanks cs := by
  have hsuffix := List.dropWhile_suffix isBlank (l := (dropBlanks cs).reverse)
  simpa [trimChars, dropBlanks] using List.reverse_prefix.mpr hsuffix

/-- A trimmed text does not start with a blank. -/
theorem isBlank_of_trimChars {c : Char} (h : trimChars cs = c :: after) : isBlank c = false := by
  obtain ⟨rest, hrest⟩ := trimChars_prefix cs
  have hhead := List.head?_dropWhile_not isBlank cs
  rw [h, dropBlanks] at hrest
  rw [← hrest] at hhead
  simpa using hhead

theorem trimChars_cons_of_isBlank {c : Char} (h : isBlank c = true) (cs : List Char) :
    trimChars (c :: cs) = trimChars cs := by
  have hdrop : dropBlanks (c :: cs) = dropBlanks cs := List.dropWhile_cons_of_pos h
  rw [trimChars, hdrop, trimChars]

/-! ### The case of letters -/

/-- A character between two others has a code point between theirs. -/
theorem exists_ofNat_of_le {c first last : Char} (hfirst : first ≤ c) (hlast : c ≤ last) :
    ∃ n, first.toNat ≤ n ∧ n ≤ last.toNat ∧ c = Char.ofNat n :=
  ⟨c.toNat, UInt32.le_iff_toNat_le.mp hfirst, UInt32.le_iff_toNat_le.mp hlast,
    (Char.ofNat_toNat c).symm⟩

/-- The letters of ASCII are the only characters that change with their case. -/
theorem toLower_cases (c : Char) : c.toLower = c ∨ ∃ n, 65 ≤ n ∧ n ≤ 90 ∧ c = Char.ofNat n := by
  by_cases h : c.val ≥ 'A'.val ∧ c.val ≤ 'Z'.val
  · exact .inr (exists_ofNat_of_le h.1 h.2)
  · exact .inl (dif_neg h)

theorem isBlank_toLower (c : Char) : isBlank c.toLower = isBlank c := by
  rcases toLower_cases c with h | ⟨n, hlow, hhigh, rfl⟩
  · rw [h]
  · interval_cases n <;> rfl

theorem dropBlanks_map_toLower (cs : List Char) :
    dropBlanks (cs.map Char.toLower) = (dropBlanks cs).map Char.toLower := by
  have hblank : isBlank ∘ Char.toLower = isBlank := funext isBlank_toLower
  rw [dropBlanks, List.dropWhile_map, hblank, dropBlanks]

theorem trimChars_map_toLower (cs : List Char) :
    trimChars (cs.map Char.toLower) = (trimChars cs).map Char.toLower := by
  rw [trimChars, dropBlanks_map_toLower, ← List.map_reverse, dropBlanks_map_toLower,
    ← List.map_reverse, trimChars]

/-! ### Words -/

/-- The words of a list of characters. -/
def wordsOf (cs : List Char) : List (List Char) := (cs.splitOnP isBlank).filter fun w => !w.isEmpty

theorem words_eq (s : String) : words s = (wordsOf s.toList).map String.ofList := rfl

theorem wordsOf_append_cons {c : Char} (hc : isBlank c = true) (before after : List Char) :
    wordsOf (before ++ c :: after) = wordsOf before ++ wordsOf after := by
  rw [wordsOf, List.splitOnP_append_cons _ _ hc, List.filter_append, wordsOf, wordsOf]

theorem wordsOf_cons {c : Char} (hc : isBlank c = true) (cs : List Char) :
    wordsOf (c :: cs) = wordsOf cs := wordsOf_append_cons hc [] cs

theorem wordsOf_of_forall (h : ∀ c ∈ cs, isBlank c = false) :
    wordsOf cs = [cs].filter fun w => !w.isEmpty := by
  rw [wordsOf, List.splitOnP_eq_singleton h]

theorem wordsOf_blanks (h : ∀ c ∈ cs, isBlank c = true) : wordsOf cs = [] := by
  induction cs with
  | nil => rfl
  | cons c cs ih =>
    obtain ⟨hc, hcs⟩ := List.forall_mem_cons.mp h
    rw [wordsOf_cons hc, ih hcs]

/-- Blanks at the ends of a text are around its words, not in them. -/
theorem wordsOf_pad {before after : List Char} (hbefore : ∀ c ∈ before, isBlank c = true)
    (hafter : ∀ c ∈ after, isBlank c = true) (cs : List Char) :
    wordsOf (before ++ cs ++ after) = wordsOf cs := by
  have hstart : wordsOf (before ++ cs) = wordsOf cs := by
    induction before with
    | nil => rfl
    | cons c before ih =>
      obtain ⟨hc, hbefore⟩ := List.forall_mem_cons.mp hbefore
      rw [List.cons_append, wordsOf_cons hc, ih hbefore]
  cases after with
  | nil => rw [List.append_nil, hstart]
  | cons c after =>
    obtain ⟨hc, hafter⟩ := List.forall_mem_cons.mp hafter
    rw [wordsOf_append_cons hc, hstart, wordsOf_blanks hafter, List.append_nil]

theorem wordsOf_trimChars (cs : List Char) : wordsOf (trimChars cs) = wordsOf cs := by
  obtain ⟨before, after, hbefore, hafter, hcs⟩ := exists_pad cs
  conv_rhs => rw [hcs]
  rw [wordsOf_pad hbefore hafter]

/-- A text starts with a word, and the rest follows it, but for blanks. -/
structure Heads (line word rest : String) : Prop where
  solid : ∀ c ∈ word.toList, isBlank c = false
  follows : ∃ after, line = word ++ after ∧ (∀ c, after.toList.head? = some c → isBlank c = true) ∧
    trim after = rest

/-- The first word of a text is what is cut off at its first blank. -/
theorem heads_iff : Heads line word rest ↔
    (cut isBlank line).1 = word ∧ trim (cut isBlank line).2 = rest := by
  constructor
  · rintro ⟨hsolid, after, rfl, hafter, rfl⟩
    -- there is no blank to cut at if nothing follows the word
    cases hcs : after.toList with
    | nil =>
      have hempty : after = "" := by simpa using hcs
      have hcut : cutAt? isBlank (word ++ after).toList = none :=
        cutAt?_eq_none_iff.mpr (by simpa [hempty] using hsolid)
      rw [cut, hcut, hempty, String.append_empty]
      exact ⟨rfl, rfl⟩
    | cons c cs =>
      have hc : isBlank c = true := hafter c (by simp [hcs])
      have hcut : cutAt? isBlank (word ++ after).toList = some (word.toList, cs) :=
        cutAt?_eq_some_iff.mpr ⟨c, by simp [hcs], hsolid, hc⟩
      rw [cut, hcut]
      refine ⟨String.ofList_toList, ?_⟩
      rw [trim, trim, hcs, trimChars_cons_of_isBlank hc, String.toList_ofList]
  · rintro ⟨rfl, rfl⟩
    cases hcut : cutAt? isBlank line.toList with
    | none =>
      rw [cut, hcut]
      exact ⟨cutAt?_eq_none_iff.mp hcut, "", by simp, by simp, rfl⟩
    | some parts =>
      obtain ⟨before, after⟩ := parts
      obtain ⟨c, hcs, hbefore, hc⟩ := cutAt?_eq_some_iff.mp hcut
      rw [cut, hcut]
      refine ⟨by simpa using hbefore, String.ofList (c :: after), ?_, by simpa using hc, ?_⟩
      · rw [← String.toList_inj, hcs]
        simp
      · rw [trim, trim, String.toList_ofList, trimChars_cons_of_isBlank hc, String.toList_ofList]

theorem heads_cut (line : String) :
    Heads line (cut isBlank line).1 (trim (cut isBlank line).2) := heads_iff.mpr ⟨rfl, rfl⟩

namespace Heads

theorem eq {word' rest' : String} (h : Heads line word rest) (h' : Heads line word' rest') :
    word = word' ∧ rest = rest' := by
  obtain ⟨hword, hrest⟩ := heads_iff.mp h
  obtain ⟨hword', hrest'⟩ := heads_iff.mp h'
  exact ⟨hword.symm.trans hword', hrest.symm.trans hrest'⟩

/-- Nothing follows nothing. -/
theorem ne_empty (h : Heads line word rest) (hrest : rest ≠ "") : line ≠ "" := by
  rintro rfl
  obtain ⟨after, htext, -, rfl⟩ := h.follows
  have hafter : after = "" := by
    have hlist := congrArg String.toList htext.symm
    simp only [String.toList_append, String.toList_empty, List.append_eq_nil_iff] at hlist
    simpa using hlist.2
  rw [hafter] at hrest
  exact hrest rfl

/-- What follows a word has no blanks at its ends. -/
theorem exists_trim_eq (h : Heads line word rest) : ∃ after, trim after = rest :=
  h.follows.imp fun _ hafter => hafter.2.2

/-- A trimmed text that is not empty starts with a word. -/
theorem word_ne_empty (h : Heads (trim line) word rest) (hline : trim line ≠ "") : word ≠ "" := by
  rintro rfl
  obtain ⟨after, hafter, hblank, -⟩ := h.follows
  rw [String.empty_append] at hafter
  cases hcs : after.toList with
  | nil =>
    rw [hafter] at hline
    exact hline (by simpa using hcs)
  | cons c cs =>
    have hc : isBlank c = true := hblank c (by simp [hcs])
    have htrim : trimChars line.toList = c :: cs := by
      rw [← hcs, ← hafter, trim, String.toList_ofList]
    rw [isBlank_of_trimChars htrim] at hc
    cases hc

/-- The words of a text are its first one and those of what follows it. -/
theorem words_eq (h : Heads (trim line) word rest) (hline : trim line ≠ "") :
    words (trim line) = word :: words rest := by
  have hword : wordsOf word.toList = [word.toList] := by
    rw [wordsOf_of_forall h.solid]
    simp [h.word_ne_empty hline]
  obtain ⟨after, htext, hafter, rfl⟩ := h.follows
  have hwords : wordsOf (word ++ after).toList = word.toList :: wordsOf after.toList := by
    rw [String.toList_append, ← List.singleton_append, ← hword]
    cases hcs : after.toList with
    | nil => simp [wordsOf]
    | cons c cs =>
      have hc : isBlank c = true := hafter c (by simp [hcs])
      rw [wordsOf_append_cons hc, wordsOf_cons hc]
  rw [Text.words_eq, Text.words_eq, htext, hwords, List.map_cons, String.ofList_toList, trim,
    String.toList_ofList, wordsOf_trimChars]

end Heads

theorem words_trim_eq_nil_iff : words (trim line) = [] ↔ trim line = "" := by
  constructor
  · intro h
    by_contra hline
    rw [(heads_cut (trim line)).words_eq hline] at h
    cases h
  · intro h
    rw [h]
    rfl

/-- A text with words starts with the first of them, and the others follow. -/
theorem exists_heads {ws : List String} (h : words (trim line) = word :: ws) :
    ∃ after, Heads (trim line) word (trim after) ∧ words (trim after) = ws := by
  have hline : trim line ≠ "" := fun hempty => by
    rw [words_trim_eq_nil_iff.mpr hempty] at h
    cases h
  have hheads := heads_cut (trim line)
  rw [hheads.words_eq hline] at h
  obtain ⟨rfl, rfl⟩ := List.cons.inj h
  exact ⟨_, hheads, rfl⟩

end Uiml.Text
