import Uiml.Proofs.Script.Grammar

/-!
# Comments in scripts

A comment starts at the first `#` that nothing but blanks stand before, or that stands between ASCII
blanks, where the end of a line counts for one. It is taken away with all that follows it on its
line, and so it can be added to any line. A `#` at any other place is text.

## Main definitions

* `Script.textLines` — the lines of a text, without the ends of lines
* `Script.StartsComment` — a `#` between two parts of a line starts a comment
* `Script.Uncommented` — a line is cut where its comment starts
* `Script.Padded` — lines with blank lines and comments added

## Main results

* `Script.uncommented_stripComment` — comments are taken away where they start
* `Script.trimChars_stripComment_append` — a comment that is added to a line goes without trace
* `Script.lines_eq` — what is read from a script is read from its lines
* `Script.comments_unheeded` — comments and blank lines make no difference, and the rest is kept
-/

namespace Uiml.Script

open Text

/-! ### Lines -/

/-- A line that was ended by a line feed, without a carriage return just before that. -/
def chopReturn (line : List Char) : List Char :=
  if line.getLast? = some '\r' then line.dropLast else line

/-- The lines of a text. They are ended by a line feed, or by a carriage return and a line feed, and
the last one may have no end. -/
def textLines (source : String) : List (List Char) :=
  let pieces := source.toList.splitOn '\n'
  pieces.dropLast.map chopReturn ++ pieces.getLast?.toList.filter (· ≠ [])

/-! ### Where comments start -/

/-- A `#` between two parts of a line starts a comment: there is nothing but blanks before it, or
there are ASCII blanks on both sides, of which the second one may be the end of the line. -/
def StartsComment (before after : List Char) : Prop :=
  (∀ c ∈ before, isBlank c = true) ∨
    (∃ c ∈ before.getLast?, isAsciiBlank c = true) ∧ ∀ c ∈ after.head?, isAsciiBlank c = true

instance (before after : List Char) : Decidable (StartsComment before after) :=
  decidable_of_iff (before.all isBlank = true ∨
    before.getLast?.any isAsciiBlank = true ∧ after.head?.all isAsciiBlank = true)
    (by simp [StartsComment, Option.any_eq_true, Option.all_eq_true])

/-- A line is cut where its comment starts, if there is one. -/
structure Uncommented (line kept comment : List Char) : Prop where
  shape : line = kept ++ comment
  plain : ∀ before after, kept = before ++ '#' :: after → ¬ StartsComment before (after ++ comment)
  mark : comment = [] ∨ ∃ after, comment = '#' :: after ∧ StartsComment kept after

/-- Lines with blank lines and comments added, as lines of their own or at the ends of lines. -/
inductive Padded : List (List Char) → List (List Char) → Prop
  | nil : Padded [] []
  | keep {lines lines' : List (List Char)} (line : List Char) (h : Padded lines lines') :
      Padded (line :: lines) (line :: lines')
  | blank {lines lines' : List (List Char)} {line : List Char}
      (hline : ∀ c ∈ line, isBlank c = true) (h : Padded lines lines') :
      Padded lines (line :: lines')
  | comment {lines lines' : List (List Char)} {blanks : List Char} (text : List Char)
      (hblanks : ∀ c ∈ blanks, isBlank c = true) (h : Padded lines lines') :
      Padded lines ((blanks ++ '#' :: text) :: lines')
  | append {lines lines' : List (List Char)} (line text : List Char) (h : Padded lines lines') :
      Padded (line :: lines) ((line ++ ' ' :: '#' :: ' ' :: text) :: lines')

variable {line kept kept' comment comment' before after more : List Char} {c : Char}
  {source source' : String}

/-- An ASCII blank after a mark is as good as the end of the line. -/
theorem startsComment_append_iff (hc : isAsciiBlank c = true) :
    StartsComment before (after ++ c :: more) ↔ StartsComment before after := by
  have hhead : (∀ d ∈ (after ++ c :: more).head?, isAsciiBlank d = true) ↔
      ∀ d ∈ after.head?, isAsciiBlank d = true := by
    cases after with
    | nil => simp [hc]
    | cons d after => simp
  rw [StartsComment, StartsComment, hhead]

/-- There is one cut. -/
theorem Uncommented.eq_of_prefix (h : Uncommented line kept comment)
    (h' : Uncommented line kept' comment') (hle : kept <+: kept') : kept = kept' := by
  obtain ⟨between, rfl⟩ := hle
  have hcomment : comment = between ++ comment' := by
    have hshape := h.shape.symm.trans h'.shape
    rwa [List.append_assoc, List.append_cancel_left_eq] at hshape
  cases between with
  | nil => rw [List.append_nil]
  | cons c between =>
    -- the comment of the shorter part starts within the longer one
    rcases h.mark with hnil | ⟨text, hmark, hstarts⟩
    · rw [hnil] at hcomment
      cases hcomment
    · obtain ⟨rfl, rfl⟩ := List.cons.inj (hmark.symm.trans hcomment)
      exact absurd hstarts (h'.plain kept between rfl)

theorem Uncommented.eq (h : Uncommented line kept comment)
    (h' : Uncommented line kept' comment') : kept = kept' := by
  have hkept : kept <+: line := ⟨comment, h.shape.symm⟩
  have hkept' : kept' <+: line := ⟨comment', h'.shape.symm⟩
  rcases List.prefix_or_prefix_of_prefix hkept hkept' with hle | hle
  · exact h.eq_of_prefix h' hle
  · exact (h'.eq_of_prefix h hle).symm

/-! ### What is stripped -/

/-- A mark between two parts of a line that follows a character which is an ASCII blank or not. -/
def Marks (afterBlank : Bool) (before after : List Char) : Prop :=
  (before.getLast?.map isAsciiBlank).getD afterBlank = true ∧ startsApart after = true

theorem marks_cons {afterBlank : Bool} :
    Marks afterBlank (c :: before) after ↔ Marks (isAsciiBlank c) before after := by
  rw [Marks, Marks, List.getLast?_cons]
  cases before.getLast? <;> simp

/-- What stands before the first mark has no mark in it, and a mark follows it or nothing at all. -/
theorem exists_beforeMark (afterBlank : Bool) (cs : List Char) : ∃ comment,
    cs = beforeMark afterBlank cs ++ comment ∧
    (∀ before after, beforeMark afterBlank cs = before ++ '#' :: after →
      ¬ Marks afterBlank before (after ++ comment)) ∧
    (comment = [] ∨ ∃ after, comment = '#' :: after ∧
      Marks afterBlank (beforeMark afterBlank cs) after) := by
  induction cs generalizing afterBlank with
  | nil => exact ⟨[], rfl, fun before after h => by simp [beforeMark] at h, .inl rfl⟩
  | cons c cs ih =>
    rw [beforeMark]
    split
    · next hmark =>
      simp only [Bool.and_eq_true, decide_eq_true_eq] at hmark
      obtain ⟨⟨rfl, hblank⟩, happart⟩ := hmark
      exact ⟨'#' :: cs, rfl, by simp, .inr ⟨cs, rfl, hblank, happart⟩⟩
    · next hmark =>
      obtain ⟨comment, hshape, hplain, hcomment⟩ := ih (isAsciiBlank c)
      refine ⟨comment, congrArg (c :: ·) hshape, fun before after heq => ?_, ?_⟩
      · cases before with
        | nil =>
          -- the character itself is no mark, by the test that has failed
          obtain ⟨rfl, rfl⟩ := List.cons.inj heq
          rw [← hshape]
          rintro ⟨hblank, happart⟩
          have hflag : afterBlank = true := hblank
          exact hmark (by rw [hflag, happart]; rfl)
        | cons d before =>
          obtain ⟨rfl, htail⟩ := List.cons.inj heq
          rw [marks_cons]
          exact hplain before after htail
      · refine hcomment.imp_right fun ⟨after, hafter, hmarks⟩ => ⟨after, hafter, ?_⟩
        exact marks_cons.mpr hmarks

/-- Behind a part of a line that is not blank, it is the marks that start comments. -/
theorem startsComment_iff_marks {blanks : List Char} (hbefore : before ≠ [])
    (hhead : ∀ c ∈ before.head?, isBlank c = false) :
    StartsComment (blanks ++ before) after ↔ Marks false before after := by
  obtain ⟨c, hc⟩ : ∃ c, before.getLast? = some c :=
    Option.isSome_iff_exists.mp (List.getLast?_isSome.mpr hbefore)
  have hsolid : ¬ ∀ c ∈ blanks ++ before, isBlank c = true := fun hall => by
    obtain ⟨d, before, rfl⟩ := List.exists_cons_of_ne_nil hbefore
    have hd := hall d (by simp)
    rw [hhead d rfl] at hd
    cases hd
  have happart : startsApart after = true ↔ ∀ d ∈ after.head?, isAsciiBlank d = true := by
    cases after <;> simp [startsApart]
  rw [StartsComment, or_iff_right hsolid, Marks, List.getLast?_append_of_ne_nil _ hbefore, hc,
    happart]
  simp

/-- Comments are taken away where they start. -/
theorem uncommented_stripComment (line : List Char) :
    ∃ kept comment, Uncommented line kept comment ∧ stripComment line = dropBlanks kept := by
  have hblanks : ∀ c ∈ line.takeWhile isBlank, isBlank c = true :=
    fun c hc => List.mem_takeWhile_imp hc
  have hline : line = line.takeWhile isBlank ++ dropBlanks line :=
    List.takeWhile_append_dropWhile.symm
  have hmark : '#' ∉ line.takeWhile isBlank := fun hmem => by
    have hblank := hblanks '#' hmem
    revert hblank
    decide
  rw [stripComment]
  split
  · next rest hrest =>
    -- the line is a comment
    rw [hrest] at hline
    refine ⟨_, _, ⟨hline, fun before after heq => ?_, .inr ⟨rest, rfl, .inl hblanks⟩⟩, ?_⟩
    · exact absurd (heq ▸ by simp) hmark
    · exact (List.dropWhile_eq_nil_iff.mpr hblanks).symm
  · next hrest =>
    obtain ⟨comment, hshape, hplain, hcomment⟩ := exists_beforeMark false (dropBlanks line)
    generalize beforeMark false (dropBlanks line) = text at hshape hplain hcomment ⊢
    have hhead : ∀ c ∈ text.head?, isBlank c = false ∧ c ≠ '#' := fun c hc => by
      obtain ⟨text, rfl⟩ : ∃ rest, text = c :: rest := List.head?_eq_some_iff.mp hc
      have hsolid := List.head?_dropWhile_not isBlank line
      rw [← dropBlanks, hshape] at hsolid
      exact ⟨by simpa using hsolid, fun h => hrest _ (by rw [hshape, h]; rfl)⟩
    refine ⟨line.takeWhile isBlank ++ text, comment, ⟨?_, fun before after heq => ?_, ?_⟩, ?_⟩
    · rw [List.append_assoc, ← hshape, ← hline]
    · -- the mark is in the part that is not blank, and not at its start
      obtain ⟨before, rfl, rfl⟩ : ∃ before', before = line.takeWhile isBlank ++ before' ∧
          text = before' ++ '#' :: after := by
        rcases List.append_eq_append_iff.mp heq with ⟨before', rfl, h⟩ | ⟨between, h, h'⟩
        · exact ⟨before', rfl, h⟩
        · cases between with
          | nil => exact ⟨[], by simpa using h.symm, h'.symm⟩
          | cons c between =>
            obtain ⟨rfl, -⟩ := List.cons.inj h'
            exact absurd (h ▸ by simp) hmark
      have hne : before ≠ [] := fun hnil => by
        rw [hnil] at hhead
        exact (hhead '#' rfl).2 rfl
      rw [startsComment_iff_marks hne fun c hc => (hhead c ?_).1]
      · exact hplain before after rfl
      · rw [List.head?_append_of_ne_nil _ hne]
        exact hc
    · rcases hcomment with hnone | ⟨after, hafter, hmarks⟩
      · exact .inl hnone
      refine .inr ⟨after, hafter, ?_⟩
      have hne : text ≠ [] := fun hnil => by
        rw [hnil] at hmarks
        cases hmarks.1
      exact (startsComment_iff_marks hne fun c hc => (hhead c hc).1).mpr hmarks
    · rw [dropBlanks_append hblanks]
      cases text with
      | nil => rfl
      | cons c text =>
        exact (List.dropWhile_cons_of_neg (by simp [(hhead c rfl).1])).symm

theorem dropBlanks_append_cons (hc : isBlank c = false) (before after : List Char) :
    dropBlanks (before ++ c :: after) = dropBlanks before ++ c :: after := by
  induction before with
  | nil => exact List.dropWhile_cons_of_neg (by simp [hc])
  | cons d before ih =>
    by_cases hd : isBlank d = true
    · simpa [dropBlanks, hd] using ih
    · simp [dropBlanks, hd]

theorem Uncommented.stripComment (h : Uncommented line kept comment) :
    stripComment line = dropBlanks kept := by
  obtain ⟨kept', comment', h', hstrip⟩ := uncommented_stripComment line
  rw [hstrip, h.eq h']

/-- If a mark and those before it do not start a comment, then it is kept. -/
theorem Uncommented.exists_of_plain (h : Uncommented (before ++ '#' :: after) kept comment)
    (hplain : ¬ StartsComment before after)
    (hearlier : ∀ front rest, before = front ++ '#' :: rest →
      ¬ StartsComment front (rest ++ '#' :: after)) :
    ∃ kept', kept = before ++ '#' :: kept' ∧ after = kept' ++ comment := by
  obtain ⟨kept', hkept'⟩ : before ++ ['#'] <+: kept := by
    have hfront : before ++ ['#'] <+: before ++ '#' :: after := ⟨after, by simp⟩
    rcases List.prefix_or_prefix_of_prefix hfront ⟨comment, h.shape.symm⟩ with hle | hle
    · exact hle
    rcases List.prefix_concat_iff.mp hle with rfl | ⟨between, rfl⟩
    · exact List.prefix_rfl
    -- otherwise a comment would start at the mark or before it
    have hcomment : comment = between ++ '#' :: after := by simpa using h.shape.symm
    rcases h.mark with rfl | ⟨text, rfl, hstarts⟩
    · simp at hcomment
    · cases between with
      | nil =>
        obtain ⟨-, rfl⟩ := List.cons.inj hcomment
        exact absurd hstarts (by simpa using hplain)
      | cons c between =>
        obtain ⟨rfl, rfl⟩ := List.cons.inj hcomment
        exact absurd hstarts (hearlier kept between rfl)
  have hshape := h.shape
  rw [← hkept'] at hshape
  exact ⟨kept', by rw [← hkept']; simp, by simpa using hshape⟩

/-! ### What can be added to a line -/

theorem trimChars_dropBlanks (cs : List Char) : trimChars (dropBlanks cs) = trimChars cs := by
  have hdrop : dropBlanks (dropBlanks cs) = dropBlanks cs := List.dropWhile_idempotent ..
  rw [trimChars, hdrop, trimChars]

/-- Behind a line, an ASCII blank and a comment can be added without trace. -/
theorem trimChars_stripComment_append (hc : isAsciiBlank c = true) (line : List Char)
    (hmore : more = [] ∨ ∃ text, more = '#' :: text ∧
      ∀ d ∈ text.head?, isAsciiBlank d = true) :
    trimChars (Script.stripComment (line ++ c :: more)) = trimChars (Script.stripComment line) := by
  obtain ⟨kept, comment, hkept, hstrip⟩ := uncommented_stripComment line
  have hshape := hkept.shape
  rcases hkept.mark with rfl | ⟨after, rfl, hstarts⟩
  · -- no comment starts before the blank, which is the last thing that is kept
    rw [List.append_nil] at hshape
    subst hshape
    have hlonger : Uncommented (line ++ c :: more) (line ++ [c]) more := by
      refine ⟨by simp, fun before after heq => ?_, ?_⟩
      · obtain ⟨after, rfl, rfl⟩ : ∃ after', after = after' ++ [c] ∧
            line = before ++ '#' :: after' := by
          rcases List.eq_nil_or_concat' after with rfl | ⟨after', d, rfl⟩
          · obtain ⟨-, hmark⟩ := List.append_inj' heq rfl
            obtain rfl : c = '#' := List.head_eq_of_cons_eq hmark
            cases hc
          · rw [← List.cons_append, ← List.append_assoc] at heq
            obtain ⟨hline, hd⟩ := List.append_inj' heq rfl
            exact ⟨after', by rw [hd], hline⟩
        rw [List.append_assoc, List.singleton_append, startsComment_append_iff hc]
        simpa using hkept.plain before after rfl
      · have hlast : (line ++ [c]).getLast? = some c := by simp
        exact hmore.imp_right fun ⟨text, htext, happart⟩ =>
          ⟨text, htext, .inr ⟨⟨c, hlast, hc⟩, happart⟩⟩
    have hblank : ∀ d ∈ [c], isBlank d = true := by simpa using isBlank_of_isAsciiBlank hc
    rw [hlonger.stripComment, hstrip, trimChars_dropBlanks, trimChars_dropBlanks]
    have hnone : ∀ d ∈ ([] : List Char), isBlank d = true := by simp
    exact trimChars_pad hnone hblank line
  · -- the comment that is there already goes on
    have hlonger : Uncommented (line ++ c :: more) kept ('#' :: (after ++ c :: more)) := by
      refine ⟨by simp [hshape], fun before between heq => ?_, .inr ⟨_, rfl, ?_⟩⟩
      · rw [← List.cons_append, ← List.append_assoc, startsComment_append_iff hc]
        exact hkept.plain before between heq
      · exact (startsComment_append_iff hc).mpr hstarts
    rw [hlonger.stripComment, hstrip]

/-! ### Scripts -/

/-- What a line comes to is what is read from it, or nothing. -/
def content (line : List Char) : String := trim (String.ofList (Script.stripComment line))

theorem content_eq_of_trimChars {line' : List Char} (h : trimChars (Script.stripComment line) =
    trimChars (Script.stripComment line')) : content line = content line' := by
  rw [content, content, trim, trim, String.toList_ofList, String.toList_ofList, h]

theorem content_chopReturn (line : List Char) : content (chopReturn line) = content line := by
  rw [chopReturn]
  split
  · next hlast =>
    obtain ⟨front, rfl⟩ := List.getLast?_eq_some_iff.mp hlast
    rw [List.dropLast_concat]
    exact (content_eq_of_trimChars (trimChars_stripComment_append (by rfl) front (.inl rfl))).symm
  · rfl

/-- A script is read from its lines. -/
theorem lines_eq (source : String) :
    lines source = ((textLines source).map content).filter (· ≠ "") := by
  have hpieces : source.toList.splitOn '\n' ≠ [] := List.splitOn_ne_nil _ _
  have hlines : lines source =
      ((source.toList.splitOn '\n').map content).filter (· ≠ "") := rfl
  rw [hlines, textLines]
  generalize source.toList.splitOn '\n' = pieces at hpieces ⊢
  obtain ⟨front, last, rfl⟩ := (List.eq_nil_or_concat' pieces).resolve_left hpieces
  have hlast : (([last].filter (· ≠ [])).map content).filter (· ≠ "") =
      ([last].map content).filter (· ≠ "") := by
    by_cases hnil : last = []
    · subst hnil
      rfl
    · rw [List.filter_cons_of_pos (by simpa using hnil), List.filter_nil]
  have hfront : (front.map chopReturn).map content = front.map content := by
    rw [List.map_map]
    exact List.map_congr_left fun line _ => content_chopReturn line
  rw [List.dropLast_concat, List.getLast?_concat, Option.toList_some, List.map_append,
    List.map_append, List.filter_append, List.filter_append, hlast, hfront]

theorem content_eq_empty_iff : content line = "" ↔ trimChars (Script.stripComment line) = [] := by
  rw [content, trim, String.toList_ofList, ← String.toList_inj, String.toList_ofList]
  rfl

theorem content_blank (hline : ∀ c ∈ line, isBlank c = true) : content line = "" := by
  have hdrop : dropBlanks line = [] := List.dropWhile_eq_nil_iff.mpr hline
  rw [content_eq_empty_iff, Script.stripComment, hdrop]
  rfl

theorem content_comment {blanks : List Char} (hblanks : ∀ c ∈ blanks, isBlank c = true)
    (text : List Char) : content (blanks ++ '#' :: text) = "" := by
  have hdrop : dropBlanks (blanks ++ '#' :: text) = '#' :: text := by
    rw [dropBlanks_append hblanks]
    exact List.dropWhile_cons_of_neg (by decide)
  rw [content_eq_empty_iff, Script.stripComment, hdrop]
  rfl

/-- Comments and blank lines have no content. -/
theorem Padded.content_eq {texts texts' : List (List Char)} (h : Padded texts texts') :
    (texts'.map content).filter (· ≠ "") = (texts.map content).filter (· ≠ "") := by
  induction h with
  | nil => rfl
  | keep line _ ih => rw [List.map_cons, List.map_cons, List.filter_cons, List.filter_cons, ih]
  | blank hline _ ih =>
    rw [List.map_cons, content_blank hline, List.filter_cons_of_neg (by simp), ih]
  | comment text hblanks _ ih =>
    rw [List.map_cons, content_comment hblanks, List.filter_cons_of_neg (by simp), ih]
  | append line text _ ih =>
    have hcontent : content (line ++ ' ' :: '#' :: ' ' :: text) = content line :=
      content_eq_of_trimChars
        (trimChars_stripComment_append (by rfl) line (.inr ⟨_, rfl, by simp [isAsciiBlank]⟩))
    rw [List.map_cons, List.map_cons, List.filter_cons, List.filter_cons, ih, hcontent]

/-- Blank lines and comments make no difference to the instructions of a script. -/
theorem parse_padded (h : Padded (textLines source) (textLines source'))
    (is : List Instruction) :
    (parse source').run.value = .ok is ↔ (parse source).run.value = .ok is := by
  rw [parse_eq_ok_iff, parse_eq_ok_iff, lines_eq, lines_eq, h.content_eq]

/-- A script that is read with blank lines and comments added has the instructions that it has
without them: lines that are blank or start with `#` wherever they are put, and comments at the ends
of lines. What is taken away from a line is what follows the first `#` that starts a comment, and
the `#` itself. One that is neither the first character on its line but for blanks nor between ASCII
blanks is kept, with the text after it up to the next one that starts a comment. -/
theorem comments_unheeded :
    (∀ source source' is, (parse source).run.value = .ok is →
      Padded (textLines source) (textLines source') → (parse source').run.value = .ok is) ∧
    (∀ before after, StartsComment before after →
      (∀ front rest, before = front ++ '#' :: rest → ¬ StartsComment front (rest ++ '#' :: after)) →
      stripComment (before ++ '#' :: after) = dropBlanks before) ∧
    ∀ before after, ¬ StartsComment before after →
      (∀ front rest, before = front ++ '#' :: rest → ¬ StartsComment front (rest ++ '#' :: after)) →
      ∃ kept comment, after = kept ++ comment ∧
        stripComment (before ++ '#' :: after) = dropBlanks before ++ '#' :: kept ∧
        (∀ front rest, kept = front ++ '#' :: rest →
          ¬ StartsComment (before ++ '#' :: front) (rest ++ comment)) ∧
        (comment = [] ∨
          ∃ text, comment = '#' :: text ∧ StartsComment (before ++ '#' :: kept) text) := by
  refine ⟨fun source source' is hparse h => (parse_padded h is).mpr hparse,
    fun before after hstarts hearlier => ?_, fun before after hplain hearlier => ?_⟩
  · exact Uncommented.stripComment ⟨rfl, hearlier, .inr ⟨after, rfl, hstarts⟩⟩
  · obtain ⟨kept, comment, hkept, hstrip⟩ := uncommented_stripComment (before ++ '#' :: after)
    obtain ⟨kept, rfl, rfl⟩ := hkept.exists_of_plain hplain hearlier
    refine ⟨kept, comment, rfl, ?_, fun front rest heq => ?_, hkept.mark⟩
    · rw [hstrip, dropBlanks_append_cons (by decide)]
    · exact hkept.plain _ _ (by rw [heq]; simp)

/-- A comment is put before an instruction and another one behind it, and colours are kept. -/
theorem comments_unheeded_color :
    (parse "event go click\r\n").run.value = .ok [.event "go" "click" []] ∧
    (parse "# go\n\nevent go click # once\r\n").run.value = .ok [.event "go" "click" []] ∧
    stripComment "go.tint(0) # a".toList = "go.tint(0) ".toList ∧
    ∃ kept comment, "fff) # a".toList = kept ++ comment ∧
      stripComment "go.tint(#fff) # a".toList = "go.tint(".toList ++ '#' :: kept := by
  have hlines : textLines "event go click\r\n" = ["event go click".toList] := by decide +kernel
  have hlines' : textLines "# go\n\nevent go click # once\r\n" =
      [[] ++ '#' :: " go".toList, [],
        "event go click".toList ++ ' ' :: '#' :: ' ' :: "once".toList] := by decide +kernel
  have hparse : (parse "event go click\r\n").run.value = .ok [.event "go" "click" []] := by
    have hcontent : lines "event go click\r\n" = ["event go click"] := by decide +kernel
    have hwords : words "event go click" = "event" :: "go" :: "click" :: [] := by decide +kernel
    rw [parse_eq_ok_iff, hcontent]
    exact .cons (.inl (.event hwords)) .nil
  have hpadded : Padded (textLines "event go click\r\n")
      (textLines "# go\n\nevent go click # once\r\n") := by
    rw [hlines, hlines']
    exact .comment _ (by simp) (.blank (by simp) (.append _ _ .nil))
  have hnone (before : List Char) (hbefore : '#' ∉ before) (after front rest : List Char)
      (heq : before = front ++ '#' :: rest) : ¬ StartsComment front (rest ++ '#' :: after) :=
    absurd (heq ▸ by simp) hbefore
  refine ⟨hparse, comments_unheeded.1 _ _ _ hparse hpadded, ?_, ?_⟩
  · exact comments_unheeded.2.1 "go.tint(0) ".toList " a".toList (by decide +kernel)
      (hnone _ (by decide +kernel) _)
  · obtain ⟨kept, comment, hafter, hstrip, -⟩ := comments_unheeded.2.2 "go.tint(".toList
      "fff) # a".toList (by decide +kernel) (hnone _ (by decide +kernel) _)
    exact ⟨kept, comment, hafter, hstrip⟩

end Uiml.Script
