import Mathlib.Data.List.Forall2
import Mathlib.Data.List.ReduceOption
import Uiml.Proofs.Outcome
import Uiml.Proofs.Script.Call
import Uiml.Script.Reader

/-!
# The grammar of scripts

Which lines of a script are instructions. Besides the forms that a line is meant to have there are
others that slip through: words after the number of a progress bar are passed over, and so are parts
of a command that are no calls; blanks within a source become single spaces; a command may address
no element, or have a closing parenthesis in its name.

## Main definitions

* `Script.Writes` — a line writes an instruction, in one of the forms of a script
* `Script.Slips` — a line is taken for an instruction although it has none of these forms

## Main results

* `Script.readLine_eq_ok_iff` — the two say what becomes of a line
* `Script.parse_eq_ok_iff` — and of a script, which has one instruction for each line with one
-/

namespace Uiml.Script

open Text EventHandler

/-- The words that instructions other than calls start with. -/
def keywords : List String := ["wait", "text", "image", "event", "progress"]

/-- A line writes an instruction: a word and what it needs, or an element, a dot and one call. -/
inductive Writes : String → Instruction → Prop
  | wait {line number : String} {seconds : Float32} (hline : Heads line "wait" number)
      (hnumber : readNumber number = .ok seconds) : Writes line (.wait seconds)
  | text {line rest slotText text : String} {slot : Nat} (hline : Heads line "text" rest)
      (hrest : Heads rest slotText text) (hslot : readSlot slotText = .ok slot) :
      Writes line (.text slot text)
  | image {line rest rest' slotText kindText source : String} {slot : Nat} {kind : SourceKind}
      (hline : Heads line "image" rest) (hrest : Heads rest slotText rest')
      (hrest' : Heads rest' kindText source) (hslot : readSlot slotText = .ok slot)
      (hkind : Keyword.read? kindText = some kind) (hsource : source ≠ "")
      (hspaced : " ".intercalate (words source) = source) : Writes line (.image slot kind source)
  | event {line element event : String} {args : List String}
      (hline : words line = "event" :: element :: event :: args) :
      Writes line (.event element event args)
  | progress {line element number : String} {value : Float32}
      (hline : words line = ["progress", element, number])
      (hnumber : readNumber number = .ok value) : Writes line (.progress element value false)
  | animate {line element number : String} {value : Float32}
      (hline : words line = ["progress", element, number, "animate"])
      (hnumber : readNumber number = .ok value) : Writes line (.progress element value true)
  | command {line word rest element call command : String} {part : List Char}
      {args : List String} (hword : Heads line word rest) (hkeyword : word ∉ keywords)
      (hline : line = element ++ "." ++ call) (hdot : '.' ∉ element.toList)
      (helement : trim element ≠ "") (hparts : parts call = [part])
      (hcall : SpellsCall part command args) (hclosed : ')' ∈ part → '(' ∈ part) :
      Writes line (.command (trim element) command args)

/-- A line is taken for an instruction although part of it is not heeded, or not as it should be. -/
inductive Slips : String → Instruction → Prop
  /-- Blanks within a source are taken for single spaces. -/
  | image {line rest rest' slotText kindText source : String} {slot : Nat} {kind : SourceKind}
      (hline : Heads line "image" rest) (hrest : Heads rest slotText rest')
      (hrest' : Heads rest' kindText source) (hslot : readSlot slotText = .ok slot)
      (hkind : Keyword.read? kindText = some kind) (hsource : source ≠ "")
      (hspaced : " ".intercalate (words source) ≠ source) :
      Slips line (.image slot kind (" ".intercalate (words source)))
  /-- Words after a number are passed over, but for `animate` as the first one. -/
  | progress {line element number word : String} {more : List String} {value : Float32}
      (hline : words line = "progress" :: element :: number :: word :: more)
      (hnumber : readNumber number = .ok value) (hmore : word ≠ "animate" ∨ more ≠ []) :
      Slips line (.progress element value (word = "animate"))
  /-- Parts that are no calls are passed over, the element may be empty, and a command without
  parameters may have a closing parenthesis in it. -/
  | command {line word rest element call command : String} {part : List Char}
      {before after : List (List Char)} {args : List String} (hword : Heads line word rest)
      (hkeyword : word ∉ keywords) (hline : line = element ++ "." ++ call)
      (hdot : '.' ∉ element.toList) (hparts : parts call = before ++ part :: after)
      (hcall : SpellsCall part command args)
      (hothers : ∀ other ∈ before ++ after, ∀ command args, ¬ SpellsCall other command args)
      (hslip : trim element = "" ∨ before ++ after ≠ [] ∨ ')' ∈ part ∧ '(' ∉ part) :
      Slips line (.command (trim element) command args)

variable {line word rest source element event slotText kindText : String} {i : Instruction}
  {args ws : List String}

/-! ### The words that are read -/

theorem readText_eq_ok_iff : readText rest = .ok i ↔
    ∃ slotText slot text, Heads rest slotText text ∧ readSlot slotText = .ok slot ∧
      i = .text slot text := by
  have hread : readText rest = (readSlot (cut isBlank rest).1 >>= fun slot =>
      .ok (.text slot (trim (cut isBlank rest).2))) := rfl
  rw [hread]
  constructor
  · intro h
    obtain ⟨slot, hslot, htext⟩ := exists_of_bind_eq_ok h
    cases htext
    exact ⟨_, slot, _, heads_cut rest, hslot, rfl⟩
  · rintro ⟨slotText, slot, text, hrest, hslot, rfl⟩
    obtain ⟨rfl, rfl⟩ := heads_iff.mp hrest
    rw [hslot]
    rfl

theorem readImage_eq_ok_iff : readImage ws = .ok i ↔
    ∃ slotText kindText word more slot kind, ws = slotText :: kindText :: word :: more ∧
      readSlot slotText = .ok slot ∧ Keyword.read? kindText = some kind ∧
      i = .image slot kind (" ".intercalate (word :: more)) := by
  match ws with
  | [] => simp [readImage, takeWord, bind, Except.bind]
  | [slotText] =>
    cases hslot : readSlot slotText <;> simp [readImage, takeWord, bind, Except.bind, hslot]
  | [slotText, kindText] =>
    cases hslot : readSlot slotText with
    | error fault => simp [readImage, takeWord, bind, Except.bind, hslot]
    | ok slot =>
      cases hkind : (Keyword.read? kindText : Option SourceKind) <;>
        simp [readImage, takeWord, bind, Except.bind, hslot, hkind]
  | slotText :: kindText :: word :: more =>
    cases hslot : readSlot slotText with
    | error fault => simp [readImage, takeWord, bind, Except.bind, hslot]
    | ok slot =>
      cases hkind : (Keyword.read? kindText : Option SourceKind) <;>
        simp [readImage, takeWord, bind, Except.bind, hslot, hkind, eq_comm]

theorem readEvent_eq_ok_iff : readEvent ws = .ok i ↔
    ∃ element event args, ws = element :: event :: args ∧ i = .event element event args := by
  match ws with
  | [] => simp [readEvent, takeWord, bind, Except.bind]
  | [element] => simp [readEvent, takeWord, bind, Except.bind]
  | element :: event :: args =>
    simp [readEvent, takeWord, bind, Except.bind, pure, Except.pure, eq_comm]

theorem readProgress_eq_ok_iff : readProgress ws = .ok i ↔
    ∃ element number more value, ws = element :: number :: more ∧
      readNumber number = .ok value ∧
      i = .progress element value (more.head? == some "animate") := by
  match ws with
  | [] => simp [readProgress, takeWord, bind, Except.bind]
  | [element] =>
    have hempty : readNumber "" = .error (.number "" .empty) := rfl
    simp [readProgress, takeWord, bind, Except.bind, hempty]
  | element :: number :: more =>
    cases hnumber : readNumber number with
    | error fault => simp [readProgress, takeWord, bind, Except.bind, hnumber]
    | ok value =>
      have hsecond : (number :: more)[1]? = more.head? := by cases more <;> rfl
      simp [readProgress, takeWord, bind, Except.bind, pure, Except.pure, hnumber, hsecond, eq_comm]

/-! ### Lines -/

theorem readLine_wait (h : Heads line "wait" rest) :
    readLine line = liftExcept ((readNumber rest).map .wait) := by
  obtain ⟨hword, rfl⟩ := heads_iff.mp h
  simp only [readLine, hword]

theorem readLine_text (h : Heads line "text" rest) :
    readLine line = liftExcept (readText rest) := by
  obtain ⟨hword, rfl⟩ := heads_iff.mp h
  simp only [readLine, hword]

theorem readLine_image (h : Heads line "image" rest) :
    readLine line = liftExcept (readImage (words rest)) := by
  obtain ⟨hword, rfl⟩ := heads_iff.mp h
  simp only [readLine, hword]

theorem readLine_event (h : Heads line "event" rest) :
    readLine line = liftExcept (readEvent (words rest)) := by
  obtain ⟨hword, rfl⟩ := heads_iff.mp h
  simp only [readLine, hword]

theorem readLine_progress (h : Heads line "progress" rest) :
    readLine line = liftExcept (readProgress (words rest)) := by
  obtain ⟨hword, rfl⟩ := heads_iff.mp h
  simp only [readLine, hword]

theorem readLine_command (h : Heads line word rest) (hword : word ∉ keywords) :
    readLine line = readCommand line := by
  obtain ⟨rfl, rfl⟩ := heads_iff.mp h
  simp only [keywords, List.mem_cons, List.not_mem_nil, or_false, not_or] at hword
  rw [readLine]
  split
  all_goals simp_all

theorem run_liftM {α : Type} (x : Logged α) :
    (liftM x : ExceptT Fault Logged α).run.value = .ok x.value := rfl

/-- A command is read from the call after the first dot, if that is a single one. -/
theorem readCommand_eq_ok_iff : (readCommand line).run.value = .ok i ↔
    ∃ element call handler, line = element ++ "." ++ call ∧ '.' ∉ element.toList ∧
      (readList "script" call).value = [handler] ∧
      i = .command (trim element) handler.command handler.params := by
  rw [readCommand]
  cases hcut : cutAt? (· == '.') line.toList with
  | none =>
    have hdot : '.' ∉ line.toList := cutAt?_beq_eq_none_iff.mp hcut
    refine iff_of_false (fun h => by cases h) ?_
    rintro ⟨element, call, handler, rfl, -⟩
    exact hdot (by simp)
  | some halves =>
    obtain ⟨element, call⟩ := halves
    obtain ⟨hline, hdot⟩ := cutAt?_beq_eq_some_iff.mp hcut
    simp only [ExceptT.run_bind, Logged.bind_value, run_liftM]
    constructor
    · intro h
      split at h
      · next handler hread =>
        cases h
        refine ⟨String.ofList element, String.ofList call, handler, ?_, by simpa using hdot, hread,
          rfl⟩
        rw [← String.toList_inj, hline]
        simp
      · cases h
    · rintro ⟨element', call', handler, rfl, hdot', hread, rfl⟩
      have hsame : cutAt? (· == '.') (element' ++ "." ++ call').toList =
          some (element'.toList, call'.toList) := cutAt?_beq_eq_some_iff.mpr ⟨by simp, hdot'⟩
      rw [hcut] at hsame
      cases hsame
      rw [String.ofList_toList, String.ofList_toList, hread]
      rfl

/-- The words of a text that has no blanks at its ends, one after the other. -/
theorem exists_source {more : List String}
    (h : words (trim rest) = slotText :: kindText :: word :: more) :
    ∃ rest' source, Heads (trim rest) slotText rest' ∧ Heads rest' kindText source ∧ source ≠ "" ∧
      words source = word :: more := by
  obtain ⟨after, hafter, hwords⟩ := exists_heads h
  obtain ⟨source, hsource, hwords⟩ := exists_heads hwords
  refine ⟨_, _, hafter, hsource, fun hempty => ?_, hwords⟩
  rw [words_trim_eq_nil_iff.mpr hempty] at hwords
  cases hwords

theorem run_liftExcept {α : Type} (x : Except Fault α) :
    (liftExcept x : ExceptT Fault Logged α).run.value = x := by cases x <;> rfl

/-- An image is read as it is written, unless there are other blanks than single spaces in its
source. -/
theorem image_writes_or_slips {after : String} (hheads : Heads line "image" (trim after))
    (h : readImage (words (trim after)) = .ok i) : Writes line i ∨ Slips line i := by
  obtain ⟨slotText, kindText, first, more, slot, kind, hrest, hslot, hkind, rfl⟩ :=
    readImage_eq_ok_iff.mp h
  obtain ⟨rest', source, hrest', hsource, hne, hmore⟩ := exists_source hrest
  rw [← hmore]
  by_cases hspaced : " ".intercalate (words source) = source
  · rw [hspaced]
    exact .inl (.image hheads hrest' hsource hslot hkind hne hspaced)
  · exact .inr (.image hheads hrest' hsource hslot hkind hne hspaced)

/-- Of the words after a number, only the first one is looked at. -/
theorem progress_writes_or_slips (hwords : words line = "progress" :: ws)
    (h : readProgress ws = .ok i) : Writes line i ∨ Slips line i := by
  obtain ⟨element, number, more, value, rfl, hnumber, rfl⟩ := readProgress_eq_ok_iff.mp h
  cases more with
  | nil => exact .inl (.progress hwords hnumber)
  | cons word more =>
    by_cases hmore : word = "animate" ∧ more = []
    · obtain ⟨rfl, rfl⟩ := hmore
      exact .inl (.animate hwords hnumber)
    · have hflag : ((word :: more).head? == some "animate") = decide (word = "animate") := by
        simp [beq_eq_decide]
      rw [hflag]
      exact .inr (.progress hwords hnumber (not_and_or.mp hmore))

/-- A command is read from the only part that is a call, whatever the other parts are. -/
theorem command_writes_or_slips (hheads : Heads line word rest) (hword : word ∉ keywords)
    (h : (readCommand line).run.value = .ok i) : Writes line i ∨ Slips line i := by
  obtain ⟨element, call, handler, htext, hdot, hread, rfl⟩ := readCommand_eq_ok_iff.mp h
  obtain ⟨-, before, part, after, hparts, hcall, hothers⟩ := readList_eq_singleton_iff.mp hread
  by_cases hslip : trim element = "" ∨ before ++ after ≠ [] ∨ ')' ∈ part ∧ '(' ∉ part
  · exact .inr (.command hheads hword htext hdot hparts hcall hothers hslip)
  · obtain ⟨helement, hslip⟩ := not_or.mp hslip
    obtain ⟨hnil, hopen⟩ := not_or.mp hslip
    obtain ⟨rfl, rfl⟩ := List.append_eq_nil_iff.mp (not_not.mp hnil)
    exact .inl (.command hheads hword htext hdot helement hparts hcall fun hclose =>
      not_not.mp fun hnone => hopen ⟨hclose, hnone⟩)

/-- What is read from a line is written on it, or slips through. -/
theorem writes_or_slips (hline : trim line ≠ "") (h : (readLine (trim line)).run.value = .ok i) :
    Writes (trim line) i ∨ Slips (trim line) i := by
  obtain ⟨word, rest, hheads⟩ : ∃ word rest, Heads (trim line) word rest := ⟨_, _, heads_cut _⟩
  by_cases hword : word ∈ keywords
  · have hwords := hheads.words_eq hline
    obtain ⟨after, rfl⟩ := hheads.exists_trim_eq
    simp only [keywords, List.mem_cons, List.not_mem_nil, or_false] at hword
    rcases hword with rfl | rfl | rfl | rfl | rfl
    · rw [readLine_wait hheads, run_liftExcept] at h
      obtain ⟨seconds, hnumber, rfl⟩ := exists_of_map h
      exact .inl (.wait hheads hnumber)
    · rw [readLine_text hheads, run_liftExcept, readText_eq_ok_iff] at h
      obtain ⟨slotText, slot, text, hrest, hslot, rfl⟩ := h
      exact .inl (.text hheads hrest hslot)
    · rw [readLine_image hheads, run_liftExcept] at h
      exact image_writes_or_slips hheads h
    · rw [readLine_event hheads, run_liftExcept, readEvent_eq_ok_iff] at h
      obtain ⟨element, event, args, hrest, rfl⟩ := h
      exact .inl (.event (by rw [hwords, hrest]))
    · rw [readLine_progress hheads, run_liftExcept] at h
      exact progress_writes_or_slips hwords h
  · rw [readLine_command hheads hword] at h
    exact command_writes_or_slips hheads hword h

theorem readLine_of_event (h : words (trim line) = "event" :: element :: event :: args) :
    (readLine (trim line)).run.value = .ok (.event element event args) := by
  obtain ⟨after, hheads, hwords⟩ := exists_heads h
  rw [readLine_event hheads, run_liftExcept, readEvent_eq_ok_iff]
  exact ⟨element, event, args, hwords, rfl⟩

theorem readLine_of_progress {number : String} {more : List String} {value : Float32}
    (h : words (trim line) = "progress" :: element :: number :: more)
    (hnumber : readNumber number = .ok value) :
    (readLine (trim line)).run.value =
      .ok (.progress element value (more.head? == some "animate")) := by
  obtain ⟨after, hheads, hwords⟩ := exists_heads h
  rw [readLine_progress hheads, run_liftExcept, readProgress_eq_ok_iff]
  exact ⟨element, number, more, value, hwords, hnumber, rfl⟩

theorem readLine_of_image {rest' : String} {slot : Nat} {kind : SourceKind}
    (hline : Heads line "image" rest) (hrest : Heads rest slotText rest')
    (hrest' : Heads rest' kindText source) (hslot : readSlot slotText = .ok slot)
    (hkind : Keyword.read? kindText = some kind) (hsource : source ≠ "") :
    (readLine line).run.value = .ok (.image slot kind (" ".intercalate (words source))) := by
  have hne' := hrest'.ne_empty hsource
  have hne := hrest.ne_empty hne'
  obtain ⟨after, rfl⟩ := hline.exists_trim_eq
  obtain ⟨after', rfl⟩ := hrest.exists_trim_eq
  obtain ⟨after'', rfl⟩ := hrest'.exists_trim_eq
  obtain ⟨word, more, hwords⟩ := List.exists_cons_of_ne_nil (mt words_trim_eq_nil_iff.mp hsource)
  rw [readLine_image hline, run_liftExcept, readImage_eq_ok_iff, hrest.words_eq hne,
    hrest'.words_eq hne', hwords]
  exact ⟨slotText, kindText, word, more, slot, kind, rfl, hslot, hkind, rfl⟩

theorem readLine_of_command {call command : String} {part : List Char}
    {before after : List (List Char)} (hword : Heads line word rest) (hkeyword : word ∉ keywords)
    (hline : line = element ++ "." ++ call) (hdot : '.' ∉ element.toList)
    (hparts : parts call = before ++ part :: after) (hcall : SpellsCall part command args)
    (hothers : ∀ other ∈ before ++ after, ∀ command args, ¬ SpellsCall other command args) :
    (readLine line).run.value = .ok (.command (trim element) command args) := by
  rw [readLine_command hword hkeyword, readCommand_eq_ok_iff]
  exact ⟨element, call, ⟨"script", command, args⟩, hline, hdot,
    readList_eq_singleton_iff.mpr ⟨rfl, before, part, after, hparts, hcall, hothers⟩, rfl⟩

theorem Writes.readLine (h : Writes (trim line) i) : (readLine (trim line)).run.value = .ok i := by
  cases h with
  | wait hline hnumber => rw [readLine_wait hline, run_liftExcept, hnumber]; rfl
  | text hline hrest hslot =>
    rw [readLine_text hline, run_liftExcept, readText_eq_ok_iff]
    exact ⟨_, _, _, hrest, hslot, rfl⟩
  | image hline hrest hrest' hslot hkind hsource hspaced =>
    rw [readLine_of_image hline hrest hrest' hslot hkind hsource, hspaced]
  | event hline => exact readLine_of_event hline
  | progress hline hnumber => exact readLine_of_progress hline hnumber
  | animate hline hnumber => exact readLine_of_progress hline hnumber
  | command hword hkeyword hline hdot _ hparts hcall _ =>
    have hsplit : parts _ = [] ++ _ :: [] := hparts
    exact readLine_of_command hword hkeyword hline hdot hsplit hcall (by simp)

theorem Slips.readLine (h : Slips (trim line) i) : (readLine (trim line)).run.value = .ok i := by
  cases h with
  | image hline hrest hrest' hslot hkind hsource _ =>
    exact readLine_of_image hline hrest hrest' hslot hkind hsource
  | progress hline hnumber _ =>
    rw [readLine_of_progress hline hnumber]
    simp [beq_eq_decide]
  | command hword hkeyword hline hdot hparts hcall hothers _ =>
    exact readLine_of_command hword hkeyword hline hdot hparts hcall hothers

/-- What becomes of a line that is not empty. -/
theorem readLine_eq_ok_iff (hline : trim line ≠ "") :
    (readLine (trim line)).run.value = .ok i ↔ Writes (trim line) i ∨ Slips (trim line) i :=
  ⟨writes_or_slips hline, fun h => h.elim Writes.readLine Slips.readLine⟩

/-! ### Scripts -/

/-- The lines of a script that are not empty, without comments and without blanks at their ends. -/
def lines (source : String) : List String :=
  ((source.toList.splitOn '\n').map fun line =>
    trim (String.ofList (stripComment line))).filter (· ≠ "")

theorem run_bind_eq_ok_iff {α β : Type} {x : ExceptT Error Logged α}
    {f : α → ExceptT Error Logged β} {b : β} : (x >>= f).run.value = .ok b ↔
      ∃ a, x.run.value = .ok a ∧ (f a).run.value = .ok b := by
  rw [ExceptT.run_bind, Logged.bind_value]
  cases x.run.value with
  | error e => exact iff_of_false (fun h => by cases h) (by simp)
  | ok a => simp

theorem run_mapM_eq_ok_iff {α β : Type} {f : α → ExceptT Error Logged β} {xs : List α}
    {ys : List β} : (xs.mapM f).run.value = .ok ys ↔
      List.Forall₂ (fun x y => (f x).run.value = .ok y) xs ys := by
  induction xs generalizing ys with
  | nil =>
    rw [List.forall₂_nil_left_iff]
    exact ⟨fun h => by cases h; rfl, fun h => by rw [h]; rfl⟩
  | cons x xs ih =>
    rw [List.mapM_cons, run_bind_eq_ok_iff, List.forall₂_cons_left_iff]
    simp only [run_bind_eq_ok_iff, ih]
    constructor
    · rintro ⟨y, hy, rest, hrest, heq⟩
      cases heq
      exact ⟨y, rest, hy, hrest, rfl⟩
    · rintro ⟨y, rest, hy, hrest, rfl⟩
      exact ⟨y, hy, rest, hrest, rfl⟩

theorem run_adapt_eq_ok_iff {α : Type} {x : ExceptT Fault Logged α} {f : Fault → Error} {a : α} :
    (x.adapt f).run.value = .ok a ↔ x.run.value = .ok a := by
  have hvalue : (x.adapt f).run.value = x.run.value.mapError f := rfl
  rw [hvalue]
  cases x.run.value with
  | error fault => simp [Except.mapError]
  | ok a => simp [Except.mapError]

theorem run_map_eq_ok_iff {α β : Type} {x : ExceptT Fault Logged α} {f : α → β} {b : β} :
    (f <$> x).run.value = .ok b ↔ ∃ a, x.run.value = .ok a ∧ f a = b := by
  rw [ExceptT.run_map, Logged.map_value]
  cases x.run.value with
  | error fault => simp [Except.map]
  | ok a => simp [Except.map]

/-- What becomes of a line with its number. -/
theorem readNumbered_eq_ok_iff {cs : List Char} {n : Nat} {result : Option Instruction} :
    (readNumbered (cs, n)).run.value = .ok result ↔
      trim (String.ofList (stripComment cs)) = "" ∧ result = none ∨
        trim (String.ofList (stripComment cs)) ≠ "" ∧ ∃ i,
          (readLine (trim (String.ofList (stripComment cs)))).run.value = .ok i ∧
            some i = result := by
  rw [trim, String.toList_ofList, readNumbered]
  cases hline : trimChars (stripComment cs) with
  | nil =>
    refine ⟨fun h => .inl ⟨rfl, ?_⟩, fun h => ?_⟩
    · cases h
      rfl
    · rcases h with ⟨-, rfl⟩ | ⟨hne, -⟩
      · rfl
      · exact absurd rfl hne
  | cons c cs =>
    simp only
    rw [run_adapt_eq_ok_iff, run_map_eq_ok_iff]
    simp

/-- Lines with numbers give the instructions of those that are not empty. -/
theorem numbered_iff (texts : List (List Char)) (n : Nat) (is : List Instruction) :
    (∃ results, List.Forall₂ (fun line result => (readNumbered line).run.value = .ok result)
        (texts.zipIdx n) results ∧ results.reduceOption = is) ↔
      List.Forall₂ (fun line i => Writes line i ∨ Slips line i)
        ((texts.map fun line => trim (String.ofList (stripComment line))).filter (· ≠ "")) is := by
  -- empty lines count for the numbers, but have no instruction on either side
  induction texts generalizing n is with
  | nil =>
    simp only [List.zipIdx_nil, List.forall₂_nil_left_iff, exists_eq_left, List.map_nil,
      List.filter_nil, List.reduceOption_nil]
    exact eq_comm
  | cons cs rest ih =>
    simp only [List.zipIdx_cons, List.map_cons, List.forall₂_cons_left_iff, readNumbered_eq_ok_iff]
    by_cases hline : trim (String.ofList (stripComment cs)) = ""
    · rw [List.filter_cons_of_neg (by simp [hline]), ← ih (n + 1) is]
      constructor
      · rintro ⟨_, ⟨_, results, ⟨-, rfl⟩ | ⟨hne, -⟩, hresults, rfl⟩, rfl⟩
        · exact ⟨results, hresults, (List.reduceOption_cons_of_none _).symm⟩
        · exact absurd hline hne
      · rintro ⟨results, hresults, rfl⟩
        exact ⟨none :: results, ⟨none, results, .inl ⟨hline, rfl⟩, hresults, rfl⟩,
          List.reduceOption_cons_of_none _⟩
    · rw [List.filter_cons_of_pos (by simp [hline]), List.forall₂_cons_left_iff]
      simp only [← readLine_eq_ok_iff hline]
      constructor
      · rintro ⟨_, ⟨_, results, ⟨hempty, -⟩ | ⟨-, i, hread, rfl⟩, hresults, rfl⟩, rfl⟩
        · exact absurd hempty hline
        · exact ⟨i, _, hread, (ih (n + 1) _).mp ⟨results, hresults, rfl⟩,
            List.reduceOption_cons_of_some ..⟩
      · rintro ⟨i, is, hread, his, rfl⟩
        obtain ⟨results, hresults, rfl⟩ := (ih (n + 1) is).mpr his
        exact ⟨some i :: results,
          ⟨some i, results, .inr ⟨hline, i, hread, rfl⟩, hresults, rfl⟩,
          List.reduceOption_cons_of_some ..⟩

/-- A script is read exactly if each of its lines that are not empty is an instruction, or slips
through for one; and then it has these instructions, in the order of the lines. -/
theorem parse_eq_ok_iff (source : String) (is : List Instruction) :
    (parse source).run.value = .ok is ↔
      List.Forall₂ (fun line i => Writes line i ∨ Slips line i) (lines source) is := by
  have hparse : (parse source).run.value = .ok is ↔ ∃ results,
      ((numberedLines source).mapM readNumbered).run.value = .ok results ∧
        results.reduceOption = is := by
    rw [parse, run_bind_eq_ok_iff]
    constructor
    · rintro ⟨results, hresults, heq⟩
      exact ⟨results, hresults, Except.ok.inj heq⟩
    · rintro ⟨results, hresults, rfl⟩
      exact ⟨results, hresults, rfl⟩
  rw [hparse]
  simp only [run_mapM_eq_ok_iff]
  exact numbered_iff _ 1 is

/-! ### What slips through -/

/-- There is one first dot on a line. -/
theorem eq_of_dot {element' call call' : String} (h : line = element ++ "." ++ call)
    (hdot : '.' ∉ element.toList) (h' : line = element' ++ "." ++ call')
    (hdot' : '.' ∉ element'.toList) : element = element' ∧ call = call' := by
  have hcut : cutAt? (· == '.') line.toList = some (element.toList, call.toList) :=
    cutAt?_beq_eq_some_iff.mpr ⟨by simp [h], hdot⟩
  have hcut' : cutAt? (· == '.') line.toList = some (element'.toList, call'.toList) :=
    cutAt?_beq_eq_some_iff.mpr ⟨by simp [h'], hdot'⟩
  rw [hcut] at hcut'
  simpa [String.toList_inj] using hcut'

/-- A line that slips through has none of the forms. -/
theorem Slips.not_writes {j : Instruction} (h : Slips (trim line) i) : ¬ Writes (trim line) j := by
  intro hwrites
  -- both say what is read from the line, so that they speak of the same instruction
  have hsame : i = j := by
    have hread := h.readLine
    rw [hwrites.readLine] at hread
    exact (Except.ok.inj hread).symm
  cases h with
  | image hline hrest hrest' _ _ _ hspaced =>
    cases hwrites with
    | image hline₂ hrest₂ hrest₂' _ _ _ hspaced₂ =>
      obtain ⟨-, rfl⟩ := hline.eq hline₂
      obtain ⟨-, rfl⟩ := hrest.eq hrest₂
      obtain ⟨-, rfl⟩ := hrest'.eq hrest₂'
      exact hspaced hspaced₂
    | _ => cases hsame
  | progress hline _ hmore =>
    cases hwrites with
    | progress hline₂ =>
      rw [hline] at hline₂
      simp at hline₂
    | animate hline₂ =>
      rw [hline] at hline₂
      simp only [List.cons.injEq] at hline₂
      exact hmore.elim (· hline₂.2.2.2.1) (· hline₂.2.2.2.2)
    | _ => cases hsame
  | command _ _ hline hdot hparts _ _ hslip =>
    cases hwrites with
    | command _ _ hline₂ hdot₂ helement hparts₂ _ hclosed =>
      obtain ⟨rfl, rfl⟩ := eq_of_dot hline hdot hline₂ hdot₂
      rw [hparts₂] at hparts
      rcases List.singleton_eq_append_iff.mp hparts with ⟨hnil, hcons⟩ | ⟨-, hcons⟩
      · obtain ⟨rfl, hnil'⟩ := List.cons.inj hcons
        rcases hslip with hempty | hne | ⟨hclose, hopen⟩
        · exact helement hempty
        · exact hne (by rw [hnil, hnil', List.append_nil])
        · exact hopen (hclosed hclose)
      · cases hcons
    | _ => cases hsame

/-- A script is read exactly if each of its lines that are not empty is an instruction, or slips
through for one; and then it has these instructions, in the order of the lines. What slips through
has none of the forms of an instruction. -/
theorem parse_grammar (source : String) :
    (∀ is, (parse source).run.value = .ok is ↔
      List.Forall₂ (fun line i => Writes line i ∨ Slips line i) (lines source) is) ∧
    ∀ line ∈ lines source, ∀ i j, Slips line i → ¬ Writes line j := by
  refine ⟨parse_eq_ok_iff source, fun line hline i j hslips => ?_⟩
  obtain ⟨cs, -, rfl⟩ := List.mem_map.mp (List.mem_filter.mp hline).1
  exact hslips.not_writes

/-- A semicolon between the parentheses of a call cuts it into two parts, of which the second one is
taken for a command. -/
theorem parse_semicolon :
    lines "go.settext(a;b)" = ["go.settext(a;b)"] ∧
      (∀ i, ¬ Writes "go.settext(a;b)" i) ∧
      (parse "go.settext(a;b)").run.value = .ok [.command "go" "b)" []] := by
  have hlines : lines "go.settext(a;b)" = [trim "go.settext(a;b)"] := by decide +kernel
  have htrim : trim "go.settext(a;b)" = "go.settext(a;b)" := by decide +kernel
  have hslips : Slips (trim "go.settext(a;b)") (.command (trim "go") "b)" []) := by
    have hhead : Heads (trim "go.settext(a;b)") "go.settext(a;b)" "" :=
      heads_iff.mpr (by decide +kernel)
    have hparts : parts "settext(a;b)" =
        ["settext(a".toList] ++ "b)".toList :: [] := by decide +kernel
    have hcall : SpellsCall "b)".toList "b)" [] :=
      (readCall_eq_ok_iff (by decide +kernel)).mp (by decide +kernel)
    refine .command hhead (by decide) (by decide +kernel) (by decide +kernel) hparts hcall ?_
      (.inr (.inl (by simp)))
    intro other hother command args hspells
    obtain rfl : other = "settext(a".toList := by simpa using hother
    have hread := (readCall_eq_ok_iff (by decide +kernel)).mpr hspells
    have hfault : readCall "settext(a".toList = .error .malformed := by decide +kernel
    rw [hfault] at hread
    cases hread
  have hname : trim "go" = "go" := by decide +kernel
  refine ⟨by rw [hlines, htrim], fun i => ?_, ?_⟩
  · rw [← htrim]
    exact hslips.not_writes
  · rw [parse_eq_ok_iff, hlines]
    rw [hname] at hslips
    exact .cons (.inr hslips) .nil

end Uiml.Script
