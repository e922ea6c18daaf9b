import Uiml.Proofs.Text.Parts
import Uiml.Widget.EventHandler

/-!
# Calls

A call is a command, or a command with parameters between parentheses. A list of calls gives one
handler for each of its parts that is a call, and nothing for the others; so a list may give a
single handler although it has several parts.

## Main definitions

* `EventHandler.SpellsCall` — a part of a list is a call

## Main results

* `EventHandler.readCall_eq_ok_iff` — a call is read exactly from a part that spells it
* `EventHandler.readList_eq_singleton_iff` — which lists give a single handler
-/

namespace Uiml

/-- The result of an operation on each element of a list. -/
theorem Logged.mapM_value {α β : Type} (f : α → Logged β) (xs : List α) :
    (xs.mapM f).value = xs.map fun x => (f x).value := by
  induction xs with
  | nil => rfl
  | cons x xs ih => rw [List.mapM_cons, bind_value, bind_value, ih]; rfl

namespace EventHandler

variable {part before inner : List Char} {event list command : String} {params : List String}
  {handler : EventHandler}

/-- A part of a list is a call: a command alone, or one with parameters in parentheses, of which the
first one opens them and the last character closes them. -/
inductive SpellsCall : List Char → String → List String → Prop
  | bare {part : List Char} (hpart : part ≠ []) (hopen : '(' ∉ part) :
      SpellsCall part (String.ofList part) []
  | applied {before inner : List Char} (hopen : '(' ∉ before)
      (hcommand : Text.trimChars before ≠ []) :
      SpellsCall (before ++ '(' :: (inner ++ [')'])) (String.ofList (Text.trimChars before))
        (readParams inner)

theorem dropLast?_eq_some_iff {last : Char} {cs : List Char} :
    dropLast? last cs = some inner ↔ cs = inner ++ [last] := by
  rw [dropLast?]
  constructor
  · intro h
    split at h
    · next hlast =>
      obtain ⟨front, rfl⟩ := List.getLast?_eq_some_iff.mp hlast
      rw [List.dropLast_concat, Option.some.injEq] at h
      rw [h]
    · cases h
  · rintro rfl
    rw [List.getLast?_concat, if_pos rfl, List.dropLast_concat]

/-- A call is read exactly from a part that spells it. -/
theorem readCall_eq_ok_iff (hpart : part ≠ []) :
    readCall part = .ok (command, params) ↔ SpellsCall part command params := by
  constructor
  · intro h
    rw [readCall] at h
    split at h
    · cases h
    · cases h
    · next command' params' hempty hcall =>
      cases h
      split at hcall
      · next hcut =>
        cases hcall
        exact .bare hpart (Text.cutAt?_beq_eq_none_iff.mp hcut)
      · next before after hcut =>
        obtain ⟨rfl, hopen⟩ := Text.cutAt?_beq_eq_some_iff.mp hcut
        split at hcall
        · cases hcall
        · next inner hinner =>
          cases hcall
          rw [dropLast?_eq_some_iff.mp hinner]
          exact .applied hopen hempty
  · intro h
    cases h with
    | bare _ hopen =>
      rw [readCall, Text.cutAt?_beq_eq_none_iff.mpr hopen]
      cases part with
      | nil => exact absurd rfl hpart
      | cons c cs => rfl
    | @applied before inner hopen hcommand =>
      rw [readCall, Text.cutAt?_beq_eq_some_iff.mpr ⟨rfl, hopen⟩]
      simp only [dropLast?_eq_some_iff.mpr rfl]

/-- The handler of a part, if that is a call. -/
def ofCall? (event : String) (part : List Char) : Option EventHandler :=
  (readCall part).toOption.map fun call => ⟨event, call.1, call.2⟩

theorem ofCall?_eq_some_iff (hpart : part ≠ []) :
    ofCall? event part = some handler ↔
      handler.event = event ∧ SpellsCall part handler.command handler.params := by
  rw [← readCall_eq_ok_iff hpart, ofCall?]
  obtain ⟨event', command, params⟩ := handler
  cases readCall part with
  | error fault => simp [Except.toOption]
  | ok call => simp [Except.toOption, Prod.ext_iff, eq_comm]

theorem ofCall?_eq_none_iff (hpart : part ≠ []) :
    ofCall? event part = none ↔ ∀ command params, ¬ SpellsCall part command params := by
  simp only [← readCall_eq_ok_iff hpart, ofCall?]
  cases readCall part with
  | error fault => simp [Except.toOption]
  | ok call =>
    exact iff_of_false (by simp [Except.toOption]) fun h => h call.1 call.2 rfl

/-- What a list gives: a handler for each part that is a call. -/
theorem readList_value (event list : String) :
    (readList event list).value = (parts list).filterMap (ofCall? event) := by
  have hflatten : (readList event list).value =
      ((parts list).map fun part => (ofPart event part).value).flatten := by
    rw [readList, Logged.bind_value, Logged.mapM_value]
    rfl
  have hpart : ∀ part, (ofPart event part).value = (ofCall? event part).toList := by
    intro part
    rw [ofPart, ofCall?]
    cases readCall part <;> rfl
  rw [hflatten]
  induction parts list with
  | nil => rfl
  | cons part rest ih =>
    rw [List.map_cons, List.flatten_cons, ih, hpart, List.filterMap_cons]
    cases ofCall? event part <;> rfl

/-- No part of a list is empty. -/
theorem ne_nil_of_mem_parts (h : part ∈ parts list) : part ≠ [] := by
  simpa using (List.mem_filter.mp h).2

/-- A list gives a single handler exactly if one of its parts is a call and no other one is. -/
theorem readList_eq_singleton_iff :
    (readList event list).value = [handler] ↔ handler.event = event ∧
      ∃ before part after, parts list = before ++ part :: after ∧
        SpellsCall part handler.command handler.params ∧
        ∀ other ∈ before ++ after, ∀ command params, ¬ SpellsCall other command params := by
  -- the parts before and after the one that is a call give nothing
  rw [readList_value, List.filterMap_eq_cons_iff]
  have hparts : ∀ part ∈ parts list, part ≠ [] := fun _ => ne_nil_of_mem_parts
  constructor
  · rintro ⟨before, part, after, hlist, hbefore, hpart, hafter⟩
    rw [List.filterMap_eq_nil_iff] at hafter
    rw [hlist] at hparts
    obtain ⟨hevent, hcall⟩ := (ofCall?_eq_some_iff (hparts part (by simp))).mp hpart
    refine ⟨hevent, before, part, after, hlist, hcall, fun other hother => ?_⟩
    rcases List.mem_append.mp hother with hmem | hmem
    · exact (ofCall?_eq_none_iff (hparts other (by simp [hmem]))).mp (hbefore other hmem)
    · exact (ofCall?_eq_none_iff (hparts other (by simp [hmem]))).mp (hafter other hmem)
  · rintro ⟨hevent, before, part, after, hlist, hcall, hothers⟩
    rw [hlist] at hparts
    have hnone : ∀ other ∈ before ++ after, ofCall? event other = none := fun other hmem =>
      (ofCall?_eq_none_iff (hparts other (by
        rcases List.mem_append.mp hmem with hmem | hmem <;> simp [hmem]))).mpr (hothers other hmem)
    exact ⟨before, part, after, hlist, fun other hmem => hnone other (List.mem_append_left _ hmem),
      (ofCall?_eq_some_iff (hparts part (by simp))).mpr ⟨hevent, hcall⟩,
      List.filterMap_eq_nil_iff.mpr fun other hmem => hnone other (List.mem_append_right _ hmem)⟩

end EventHandler

end Uiml
