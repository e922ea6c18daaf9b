import Mathlib.Data.List.Forall2
import Uiml.Proofs.Script.Call

/-!
# Lists of handlers

A list of handlers that is written down is read back as it was, whatever blanks stand around its
separators. What is read are handlers that can be written down, and a part of a list that is no call
takes nothing from the parts beside it.

## Main definitions

* `Text.Joins` — texts joined by a separator, with blanks around each of them
* `EventHandler.Writes` — a call that stands for a handler
* `EventHandler.IsPlain` — a handler whose texts do not interfere with how it is written

## Main results

* `EventHandler.readList_joins` — a list that is written down is read back
* `EventHandler.parts_append` — the parts of two lists stay apart
* `EventHandler.isPlain_of_mem_readList` — what is read can be written down
* `EventHandler.readList_lossless` — the three together, for every event
-/

namespace Uiml

/-- What holds of everything on the left of a relation carries over to the right. -/
theorem forall_of_forall₂ {α β : Type} {R : α → β → Prop} {P : α → Prop} {Q : β → Prop}
    {as : List α} {bs : List β} (h : List.Forall₂ R as bs) (has : ∀ a ∈ as, P a)
    (hcarry : ∀ a b, P a → R a b → Q b) : ∀ b ∈ bs, Q b := by
  induction h with
  | nil => simp
  | cons hhead _ ih =>
    obtain ⟨ha, has⟩ := List.forall_mem_cons.mp has
    exact List.forall_mem_cons.mpr ⟨hcarry _ _ ha hhead, ih has⟩

namespace Text

variable {separator : Char} {text padded joined : String} {texts : List String}
  {cs part : List Char}

/-! ### Trimmed texts -/

theorem trimChars_trimChars (cs : List Char) : trimChars (trimChars cs) = trimChars cs := by
  obtain ⟨before, after, hbefore, hafter, hcs⟩ := exists_pad cs
  conv_rhs => rw [hcs, trimChars_pad hbefore hafter]

theorem trimChars_eq_nil_iff : trimChars cs = [] ↔ ∀ c ∈ cs, isBlank c = true := by
  constructor
  · intro h
    obtain ⟨before, after, hbefore, hafter, hcs⟩ := exists_pad cs
    rw [h, List.append_nil] at hcs
    rw [hcs]
    exact List.forall_mem_append.mpr ⟨hbefore, hafter⟩
  · intro h
    have hpad : trimChars (cs ++ [] ++ []) = trimChars [] := trimChars_pad h (by simp) []
    rwa [List.append_nil, List.append_nil] at hpad

theorem trim_eq_self_iff : trim text = text ↔ trimChars text.toList = text.toList := by
  rw [trim, ← String.toList_inj, String.toList_ofList]

theorem subset_of_trimChars (cs : List Char) : trimChars cs ⊆ cs := by
  obtain ⟨before, after, -, -, hcs⟩ := exists_pad cs
  intro c hc
  rw [hcs]
  exact List.mem_append_left _ (List.mem_append_right _ hc)

/-- A text that starts and ends with something other than a blank is trimmed. -/
theorem trimChars_of_ends {first last : Char} (hfirst : isBlank first = false)
    (hlast : isBlank last = false) (cs : List Char) :
    trimChars (first :: (cs ++ [last])) = first :: (cs ++ [last]) := by
  have hstart : ∀ {c : Char} {rest : List Char}, isBlank c = false →
      dropBlanks (c :: rest) = c :: rest := fun hc =>
    List.dropWhile_cons_of_neg (by simpa using hc)
  have hreverse : (first :: (cs ++ [last])).reverse = last :: (cs.reverse ++ [first]) := by simp
  rw [trimChars, hstart hfirst, hreverse, hstart hlast, ← hreverse, List.reverse_reverse]

/-- A part of a text holds no separator, and nothing that the text does not hold. -/
theorem of_mem_splitOn (h : part ∈ cs.splitOn separator) : separator ∉ part ∧ part ⊆ cs := by
  induction cs generalizing part with
  | nil =>
    rw [List.splitOn_nil, List.mem_singleton] at h
    simp [h]
  | cons c cs ih =>
    rw [List.splitOn_cons_eq_if_modifyHead] at h
    split at h
    · rcases List.mem_cons.mp h with rfl | hrest
      · simp
      · exact ⟨(ih hrest).1, List.subset_cons_of_subset c (ih hrest).2⟩
    · next hc =>
      -- the character belongs to the first part of what follows
      cases hsplit : cs.splitOn separator with
      | nil => exact absurd hsplit (List.splitOn_ne_nil _ _)
      | cons first rest =>
        rw [hsplit] at h ih
        rcases List.mem_cons.mp h with rfl | hrest
        · have hne : separator ≠ c := fun heq => hc (by simp [heq])
          obtain ⟨hfree, hsubset⟩ := ih List.mem_cons_self
          exact ⟨by simpa [hne] using hfree, List.cons_subset_cons c hsubset⟩
        · obtain ⟨hfree, hsubset⟩ := ih (List.mem_cons_of_mem _ hrest)
          exact ⟨hfree, List.subset_cons_of_subset c hsubset⟩

/-! ### Joined texts -/

/-- A text with blanks around it. -/
def Pads (text padded : String) : Prop :=
  ∃ before after : String, isBlankText before = true ∧ isBlankText after = true ∧
    padded = before ++ text ++ after

/-- Texts joined by a separator, with blanks around each of them. -/
def Joins (separator : Char) (texts : List String) (joined : String) : Prop :=
  ∃ padded, List.Forall₂ Pads texts padded ∧
    joined = (String.singleton separator).intercalate padded

theorem Pads.refl (text : String) : Pads text text := ⟨"", "", rfl, rfl, by simp⟩

theorem Pads.trimChars_eq (h : Pads text padded) :
    trimChars padded.toList = trimChars text.toList := by
  obtain ⟨before, after, hbefore, hafter, rfl⟩ := h
  rw [isBlankText, List.all_eq_true] at hbefore hafter
  rw [String.toList_append, String.toList_append, trimChars_pad hbefore hafter]

theorem Pads.not_mem (h : Pads text padded) (hseparator : isBlank separator = false)
    (htext : separator ∉ text.toList) : separator ∉ padded.toList := by
  obtain ⟨before, after, hbefore, hafter, rfl⟩ := h
  rw [isBlankText, List.all_eq_true] at hbefore hafter
  simp only [String.toList_append, List.mem_append, not_or]
  refine ⟨⟨fun hmem => ?_, htext⟩, fun hmem => ?_⟩
  · simpa [hseparator] using hbefore separator hmem
  · simpa [hseparator] using hafter separator hmem

/-- Joining with a blank after each separator is one way to join. -/
theorem joins_intercalate (separator : Char) (texts : List String) :
    Joins separator texts ((String.singleton separator ++ " ").intercalate texts) := by
  cases texts with
  | nil => exact ⟨[], .nil, by simp⟩
  | cons text texts =>
    refine ⟨text :: texts.map (" " ++ ·), .cons (.refl text) ?_, ?_⟩
    · exact List.forall₂_map_right_iff.mpr (List.forall₂_same.mpr fun next _ =>
        ⟨" ", "", by decide, rfl, by simp⟩)
    · induction texts generalizing text with
      | nil => simp
      | cons next texts ih =>
        rw [String.intercalate_cons_cons, List.map_cons, String.intercalate_cons_cons,
          String.intercalate_cons_append, ih next, String.append_assoc, String.append_assoc,
          String.append_assoc]

/-- The parts of a joined text are the texts, when these do not hold the separator. -/
theorem Joins.map_trimChars_splitOn (h : Joins separator texts joined)
    (hseparator : isBlank separator = false) (hne : texts ≠ [])
    (htexts : ∀ text ∈ texts, separator ∉ text.toList) :
    (joined.toList.splitOn separator).map trimChars =
      texts.map fun text => trimChars text.toList := by
  obtain ⟨padded, hpads, rfl⟩ := h
  have hfree : ∀ cs ∈ padded.map String.toList, separator ∉ cs := by
    rw [List.forall_mem_map]
    exact forall_of_forall₂ hpads htexts fun _ _ htext hpad =>
      Pads.not_mem hpad hseparator htext
  have hpadded : padded ≠ [] := by
    rintro rfl
    exact hne (List.forall₂_nil_right_iff.mp hpads)
  rw [String.toList_intercalate, String.toList_singleton,
    List.splitOn_intercalate separator hfree (by simpa using hpadded), List.map_map,
    ← List.forall₂_eq_eq_eq, List.forall₂_map_left_iff, List.forall₂_map_right_iff]
  exact hpads.flip.imp fun _ _ hpad => Pads.trimChars_eq hpad

/-- A joined text holds nothing but its separators, blanks and what the texts hold. -/
theorem Joins.not_mem {c : Char} (h : Joins separator texts joined) (hc : isBlank c = false)
    (hseparator : c ≠ separator) (htexts : ∀ text ∈ texts, c ∉ text.toList) :
    c ∉ joined.toList := by
  obtain ⟨padded, hpads, rfl⟩ := h
  have hfree : ∀ text ∈ padded, c ∉ text.toList :=
    forall_of_forall₂ hpads htexts fun _ _ htext hpad => Pads.not_mem hpad hc htext
  clear hpads
  induction padded with
  | nil => simp
  | cons first rest ih =>
    obtain ⟨hfirst, hrest⟩ := List.forall_mem_cons.mp hfree
    cases rest with
    | nil => simpa using hfirst
    | cons next rest =>
      simp only [String.intercalate_cons_cons, String.toList_append, String.toList_singleton,
        List.mem_append, List.mem_singleton, not_or]
      exact ⟨⟨hfirst, hseparator⟩, ih hrest⟩

end Text

namespace EventHandler

variable {event command list call inner : String} {params : List String}
  {handler : EventHandler} {handlers : List EventHandler} {calls : List String} {part : List Char}

/-! ### What is written -/

/-- A call stands for a handler: its command alone if it has no parameters, otherwise its command
and its parameters in parentheses, with commas and any blanks between them. -/
inductive Writes : EventHandler → String → Prop
  | bare {event command : String} : Writes ⟨event, command, []⟩ command
  | applied {event command inner : String} {params : List String} (hparams : params ≠ [])
      (hinner : Text.Joins ',' params inner) :
      Writes ⟨event, command, params⟩ (command ++ "(" ++ inner ++ ")")

/-- The call that stands for a handler, with one blank after each comma. -/
def toCall (handler : EventHandler) : String :=
  if handler.params = [] then handler.command
  else handler.command ++ "(" ++ ", ".intercalate handler.params ++ ")"

theorem writes_toCall (handler : EventHandler) : Writes handler handler.toCall := by
  obtain ⟨event, command, params⟩ := handler
  rw [toCall]
  split
  · next hparams =>
    cases hparams
    exact .bare
  · next hparams => exact .applied hparams (Text.joins_intercalate ',' params)

/-- No text of a handler interferes with how it is written: the command is there, no text has
blanks at its ends or holds a separator, and there is not just a single empty parameter, which
would be read as none. -/
structure IsPlain (handler : EventHandler) : Prop where
  command_ne : handler.command ≠ ""
  trim_command : Text.trim handler.command = handler.command
  semicolon_command : ';' ∉ handler.command.toList
  parenthesis_command : '(' ∉ handler.command.toList
  trim_param : ∀ param ∈ handler.params, Text.trim param = param
  semicolon_param : ∀ param ∈ handler.params, ';' ∉ param.toList
  comma_param : ∀ param ∈ handler.params, ',' ∉ param.toList
  params_ne : handler.params ≠ [""]

/-! ### Parameters -/

theorem readParams_of_blank {cs : List Char} (h : Text.trimChars cs = []) : readParams cs = [] := by
  rw [readParams, if_pos (List.all_eq_true.mpr (Text.trimChars_eq_nil_iff.mp h))]

theorem readParams_of_not_blank {cs : List Char} (h : Text.trimChars cs ≠ []) :
    readParams cs = ((cs.splitOn ',').map Text.trimChars).map String.ofList := by
  rw [readParams, if_neg fun hall => h (Text.trimChars_eq_nil_iff.mpr (List.all_eq_true.mp hall)),
    List.map_map]
  rfl

/-- A text without a comma between its blanks is a single part. -/
theorem splitOn_of_blank {cs : List Char} (h : Text.trimChars cs = []) :
    cs.splitOn ',' = [cs] := by
  refine List.splitOn_eq_singleton fun hmem => ?_
  have hblank := Text.trimChars_eq_nil_iff.mp h ',' hmem
  revert hblank
  decide

/-- Parameters that are joined by commas are read back. -/
theorem readParams_joins (h : Text.Joins ',' params inner) (hne : params ≠ [])
    (hempty : params ≠ [""]) (htrim : ∀ param ∈ params, Text.trim param = param)
    (hcomma : ∀ param ∈ params, ',' ∉ param.toList) : readParams inner.toList = params := by
  have hparts : (inner.toList.splitOn ',').map Text.trimChars = params.map String.toList := by
    rw [h.map_trimChars_splitOn (by decide) hne hcomma]
    exact List.map_congr_left fun param hparam => Text.trim_eq_self_iff.mp (htrim param hparam)
  have hblank : Text.trimChars inner.toList ≠ [] := by
    -- otherwise there is one part, and it is empty
    intro hnil
    rw [splitOn_of_blank hnil, List.map_singleton, hnil] at hparts
    obtain ⟨param, rfl, hparam⟩ := List.map_eq_singleton_iff.mp hparts.symm
    rw [String.toList_eq_nil_iff] at hparam
    exact hempty (by rw [hparam])
  rw [readParams_of_not_blank hblank, hparts, List.map_map]
  simp

/-- What is read between parentheses are trimmed texts without commas, made of what stands there,
and never a single empty one. -/
theorem mem_readParams {param : String} {cs : List Char} (h : param ∈ readParams cs) :
    Text.trim param = param ∧ ',' ∉ param.toList ∧ param.toList ⊆ cs := by
  by_cases hblank : Text.trimChars cs = []
  · simp [readParams_of_blank hblank] at h
  · rw [readParams_of_not_blank hblank, List.map_map] at h
    obtain ⟨part, hpart, rfl⟩ := List.mem_map.mp h
    rw [Function.comp_apply, Text.trim_eq_self_iff, String.toList_ofList]
    have hsubset := Text.subset_of_trimChars part
    obtain ⟨hcomma, hinner⟩ := Text.of_mem_splitOn hpart
    exact ⟨Text.trimChars_trimChars part, fun hmem => hcomma (hsubset hmem),
      List.Subset.trans hsubset hinner⟩

theorem readParams_ne (cs : List Char) : readParams cs ≠ [""] := by
  by_cases hblank : Text.trimChars cs = []
  · simp [readParams_of_blank hblank]
  · rw [readParams_of_not_blank hblank, List.map_map]
    intro h
    obtain ⟨part, hpart, hempty⟩ := List.map_eq_singleton_iff.mp h
    -- a single part is the whole text, which is not blank
    have hcs : [','].intercalate (cs.splitOn ',') = cs := List.intercalate_splitOn ','
    rw [hpart, List.intercalate_singleton] at hcs
    rw [← hcs] at hblank
    exact hblank (by simpa using congrArg String.toList hempty)

/-! ### Writing and reading a list -/

theorem Writes.trimChars_eq (h : Writes handler call) (hplain : handler.IsPlain) :
    Text.trimChars call.toList = call.toList := by
  have htrim := Text.trim_eq_self_iff.mp hplain.trim_command
  cases h with
  | bare => exact htrim
  | @applied event command inner params hparams hinner =>
    -- the command starts with something other than a blank, and the parenthesis is none
    cases hcommand : command.toList with
    | nil => exact absurd (String.toList_eq_nil_iff.mp hcommand) hplain.command_ne
    | cons c cs =>
      have hc : Text.isBlank c = false := Text.isBlank_of_trimChars (htrim.trans hcommand)
      have hparenthesis : Text.isBlank ')' = false := by decide
      have hends := Text.trimChars_of_ends hc hparenthesis (cs ++ '(' :: inner.toList)
      simpa [hcommand] using hends

theorem Writes.semicolon_not_mem (h : Writes handler call) (hplain : handler.IsPlain) :
    ';' ∉ call.toList := by
  cases h with
  | bare => exact hplain.semicolon_command
  | applied hparams hinner =>
    have hfree := hinner.not_mem (c := ';') (by decide) (by decide) hplain.semicolon_param
    simpa [hfree] using hplain.semicolon_command

/-- A call that stands for a handler is read as that handler. -/
theorem Writes.spellsCall (h : Writes handler call) (hplain : handler.IsPlain) :
    SpellsCall call.toList handler.command handler.params := by
  have htrim := Text.trim_eq_self_iff.mp hplain.trim_command
  cases h with
  | bare =>
    have hne : call.toList ≠ [] := fun hnil =>
      hplain.command_ne (String.toList_eq_nil_iff.mp hnil)
    have hcall := SpellsCall.bare hne hplain.parenthesis_command
    rwa [String.ofList_toList] at hcall
  | @applied event command inner params hparams hinner =>
    have hne : Text.trimChars command.toList ≠ [] := by
      rw [htrim]
      exact mt String.toList_eq_nil_iff.mp hplain.command_ne
    have hread := readParams_joins hinner hparams hplain.params_ne hplain.trim_param
      hplain.comma_param
    have hcall : SpellsCall (command.toList ++ '(' :: (inner.toList ++ [')'])) _ _ :=
      .applied hplain.parenthesis_command hne
    rw [htrim, String.ofList_toList, hread] at hcall
    simpa using hcall

theorem SpellsCall.ne_nil (h : SpellsCall part command params) : part ≠ [] := by
  cases h with
  | bare hpart => exact hpart
  | applied => simp

/-- A list of handlers that is written down is read back. -/
theorem readList_joins (hhandlers : ∀ handler ∈ handlers, handler.event = event ∧ handler.IsPlain)
    (hcalls : List.Forall₂ Writes handlers calls) (hlist : Text.Joins ';' calls list) :
    (readList event list).value = handlers := by
  have hparts : parts list = calls.map String.toList := by
    by_cases hne : calls = []
    · obtain ⟨padded, hpads, rfl⟩ := hlist
      rw [hne, List.forall₂_nil_left_iff] at hpads
      rw [hne, hpads]
      rfl
    · have hfree : ∀ call ∈ calls, ';' ∉ call.toList :=
        forall_of_forall₂ hcalls hhandlers fun _ _ hhandler hcall =>
          Writes.semicolon_not_mem hcall hhandler.2
      have htrim : ∀ call ∈ calls, Text.trimChars call.toList = call.toList :=
        forall_of_forall₂ hcalls hhandlers fun _ _ hhandler hcall =>
          Writes.trimChars_eq hcall hhandler.2
      have hsolid : ∀ call ∈ calls, call.toList ≠ [] :=
        forall_of_forall₂ hcalls hhandlers fun _ _ hhandler hcall =>
          (Writes.spellsCall hcall hhandler.2).ne_nil
      rw [parts, hlist.map_trimChars_splitOn (by decide) hne hfree, List.map_congr_left htrim,
        List.filter_eq_self]
      simpa using hsolid
  rw [readList_value, hparts, List.filterMap_map]
  clear hlist hparts
  induction hcalls with
  | nil => rfl
  | cons hcall _ ih =>
    obtain ⟨⟨hevent, hplain⟩, hhandlers⟩ := List.forall_mem_cons.mp hhandlers
    have hspells := hcall.spellsCall hplain
    have hhead := (ofCall?_eq_some_iff hspells.ne_nil).mpr ⟨hevent, hspells⟩
    have htail := ih hhandlers
    simp only [List.filterMap_cons, Function.comp_apply, hhead]
    exact congrArg _ htail

/-- A list of handlers can be written with one blank after each separator. -/
theorem readList_toCall
    (hhandlers : ∀ handler ∈ handlers, handler.event = event ∧ handler.IsPlain) :
    (readList event ("; ".intercalate (handlers.map toCall))).value = handlers :=
  readList_joins hhandlers
    (List.forall₂_map_right_iff.mpr (List.forall₂_same.mpr fun handler _ => writes_toCall handler))
    (Text.joins_intercalate ';' _)

/-! ### Parts of a list -/

theorem mem_parts (h : part ∈ parts list) :
    part ≠ [] ∧ Text.trimChars part = part ∧ ';' ∉ part := by
  refine ⟨ne_nil_of_mem_parts h, ?_⟩
  obtain ⟨piece, hpiece, rfl⟩ := List.mem_map.mp (List.mem_filter.mp h).1
  exact ⟨Text.trimChars_trimChars piece, fun hmem =>
    (Text.of_mem_splitOn hpiece).1 (Text.subset_of_trimChars piece hmem)⟩

/-- The parts of two lists stay apart. -/
theorem parts_append (a b : String) : parts (a ++ ";" ++ b) = parts a ++ parts b := by
  have hshape : (a ++ ";" ++ b).toList = a.toList ++ ';' :: b.toList := by simp
  rw [parts, hshape, List.splitOn_append_cons_self, List.map_append, List.filter_append]
  rfl

/-- What two lists give together, and what is said about them. -/
theorem readList_append (event a b : String) : readList event (a ++ ";" ++ b) =
    ⟨(readList event a).value ++ (readList event b).value,
      (readList event a).lines ++ (readList event b).lines⟩ := by
  have hlists : readList event (a ++ ";" ++ b) =
      readList event a >>= fun first => readList event b >>= fun second =>
        pure (first ++ second) := by
    simp only [readList, parts_append, List.mapM_append, bind_assoc, pure_bind,
      List.flatten_append]
  rw [hlists]
  show Logged.mk _ (_ ++ (_ ++ [])) = _
  rw [List.append_nil]
  rfl

/-- What is read from a trimmed part without semicolons can be written down. -/
theorem SpellsCall.isPlain (h : SpellsCall part command params)
    (htrim : Text.trimChars part = part) (hsemicolon : ';' ∉ part) :
    IsPlain ⟨event, command, params⟩ := by
  cases h with
  | bare hpart hopen =>
    exact {
      command_ne := fun hempty => hpart (by simpa using congrArg String.toList hempty)
      trim_command := by rw [Text.trim, String.toList_ofList, htrim]
      semicolon_command := by rwa [String.toList_ofList]
      parenthesis_command := by rwa [String.toList_ofList]
      trim_param := by simp
      semicolon_param := by simp
      comma_param := by simp
      params_ne := by simp }
  | @applied before inner hopen hcommand =>
    have hbefore := Text.subset_of_trimChars before
    simp only [List.mem_append, List.mem_cons, not_or] at hsemicolon
    exact {
      command_ne := fun hempty => hcommand (by simpa using congrArg String.toList hempty)
      trim_command := by rw [Text.trim, String.toList_ofList, Text.trimChars_trimChars]
      semicolon_command := by
        rw [String.toList_ofList]
        exact fun hmem => hsemicolon.1 (hbefore hmem)
      parenthesis_command := by
        rw [String.toList_ofList]
        exact fun hmem => hopen (hbefore hmem)
      trim_param := fun param hparam => (mem_readParams hparam).1
      semicolon_param := fun param hparam hmem =>
        hsemicolon.2.2.1 ((mem_readParams hparam).2.2 hmem)
      comma_param := fun param hparam => (mem_readParams hparam).2.1
      params_ne := readParams_ne inner }

/-- What is read can be written down. -/
theorem isPlain_of_mem_readList (h : handler ∈ (readList event list).value) :
    handler.event = event ∧ handler.IsPlain := by
  rw [readList_value] at h
  obtain ⟨part, hpart, hhandler⟩ := List.mem_filterMap.mp h
  obtain ⟨hne, htrim, hsemicolon⟩ := mem_parts hpart
  obtain ⟨hevent, hcall⟩ := (ofCall?_eq_some_iff hne).mp hhandler
  exact ⟨hevent, hcall.isPlain htrim hsemicolon⟩

/-- Nothing is lost between handlers and the lists that declare them. A list of handlers that can be
written down is read back, however its calls are spaced; two lists give together what each of them
gives, in order; and all that is ever read are handlers that can be written down, for the event that
was asked for. -/
theorem readList_lossless (event : String) :
    (∀ (handlers : List EventHandler) (calls : List String) (list : String),
      (∀ handler ∈ handlers, handler.event = event ∧ handler.IsPlain) →
      List.Forall₂ Writes handlers calls → Text.Joins ';' calls list →
      (readList event list).value = handlers) ∧
    (∀ a b : String, (readList event (a ++ ";" ++ b)).value =
        (readList event a).value ++ (readList event b).value ∧
      (readList event (a ++ ";" ++ b)).lines =
        (readList event a).lines ++ (readList event b).lines) ∧
    ∀ list : String, ∀ handler ∈ (readList event list).value,
      handler.event = event ∧ handler.IsPlain := by
  refine ⟨fun handlers calls list => readList_joins, fun a b => ?_, fun list handler =>
    isPlain_of_mem_readList⟩
  rw [readList_append]
  exact ⟨rfl, rfl⟩

/-- A part that breaks off takes nothing from the parts beside it, and parentheses may stand in
parameters. -/
example : (readList "click" " a ;b(1, 2;c((x), )").value =
    [⟨"click", "a", []⟩, ⟨"click", "c", ["(x)", ""]⟩] := by decide

end EventHandler

end Uiml
