import Mathlib.Data.List.Dedup
import Mathlib.Data.List.DropRight
import Uiml.Proofs.Table.Keys
import Uiml.Registry

/-!
# What a registry tells of insertions

The tables of a registry are filled together, but a widget can lose its name in one of them and keep
it in the other. Whatever has been inserted and cleared, a look-up finds the widget that was the
last to get the name since the last clearing, among all widgets or among those of a kind. A clearing
hands on the widgets that can still be found in one way or the other, each once and in increasing
order.

## Main definitions

* `Registry.Edit`, `Registry.afterAll` — what can be done to a registry, and what that leaves
* `Registry.given` — the names that have been given since the last clearing
* `Registry.Records` — what the tables hold is what has been given

## Main results

* `Registry.records_afterAll` — the tables of an edited registry hold what has been given
* `Registry.increasing_ids`, `Registry.mem_ids_iff` — the widgets that a registry holds
* `Registry.lookups_follow_insertions` — all that look-ups and clearings tell of the insertions
-/

namespace Uiml

namespace Registry

/-- A name that is given to a widget of a kind. -/
structure Entry where
  name : String
  kind : Element.Kind
  id : WidgetId
  deriving DecidableEq

/-- What can be done to a registry. -/
inductive Edit
  | insert (entry : Entry)
  | clearAll

/-- The registry after something has been done to it. -/
def after (r : Registry) : Edit → Registry
  | .insert entry => (r.insert entry.name entry.kind entry.id).2
  | .clearAll => (r.clearAll () fun state _ => state).2

/-- The registry after some things have been done to it. -/
def afterAll (r : Registry) (edits : List Edit) : Registry := edits.foldl after r

/-- The name that is given, if one is. -/
def Edit.entry? : Edit → Option Entry
  | .insert entry => some entry
  | .clearAll => none

/-- The names that have been given since the last clearing, in order. -/
def given (edits : List Edit) : List Entry :=
  (edits.rtakeWhile fun edit => edit.entry?.isSome).filterMap Edit.entry?

/-- The widget that is the last to be given a name of a class. -/
def last? (entries : List Entry) (p : Entry → Bool) : Option WidgetId :=
  (entries.filter p).getLast?.map Entry.id

/-- The tables of a registry hold what has been given, and no key twice. -/
structure Records (r : Registry) (entries : List Entry) : Prop where
  distinct : r.byName.Distinct
  distinctKind : r.byKind.Distinct
  get : ∀ name, r.get? name = last? entries fun e => e.name = name
  getKind : ∀ kind name, r.getKind? kind name = last? entries fun e => e.kind = kind ∧ e.name = name

variable {r : Registry} {entries : List Entry} {edits : List Edit} {entry : Entry}
  {p : Entry → Bool} {id : WidgetId}

/-! ### Names that have been given -/

theorem given_insert (edits : List Edit) (entry : Entry) :
    given (edits ++ [.insert entry]) = given edits ++ [entry] := by
  rw [given, List.rtakeWhile_concat]
  simp [Edit.entry?, given]

theorem given_clearAll (edits : List Edit) : given (edits ++ [.clearAll]) = [] := by
  rw [given, List.rtakeWhile_concat]
  simp [Edit.entry?]

theorem last?_concat (entries : List Entry) (entry : Entry) (p : Entry → Bool) :
    last? (entries ++ [entry]) p = if p entry then some entry.id else last? entries p := by
  rw [last?, List.filter_append]
  by_cases hp : p entry = true
  · simp [hp]
  · simp [hp, last?]

/-- A widget is the last to be given a name of a class if no such name is given after that. -/
theorem last?_eq_some_iff : last? entries p = some id ↔
    ∃ before entry after, entries = before ++ entry :: after ∧ entry.id = id ∧ p entry = true ∧
      ∀ later ∈ after, p later = false := by
  rw [last?, List.getLast?_filter, Option.map_eq_some_iff]
  constructor
  · rintro ⟨entry, hfind, rfl⟩
    obtain ⟨hp, after, before, hreverse, hafter⟩ := List.find?_eq_some_iff_append.mp hfind
    refine ⟨before.reverse, entry, after.reverse, ?_, rfl, hp, fun later hlater => ?_⟩
    · rw [← List.reverse_reverse entries, hreverse]
      simp
    · simpa using hafter later (List.mem_reverse.mp hlater)
  · rintro ⟨before, entry, after, rfl, rfl, hp, hafter⟩
    refine ⟨entry, List.find?_eq_some_iff_append.mpr ⟨hp, after.reverse, before.reverse, ?_, ?_⟩,
      rfl⟩
    · simp
    · exact fun later hlater => by simpa using hafter later (List.mem_reverse.mp hlater)

theorem isSome_last? : (last? entries p).isSome = entries.any p := by
  rw [last?, Option.isSome_map, List.getLast?_filter, List.isSome_find?, List.any_reverse]

/-! ### What the tables hold -/

theorem records_empty : empty.Records [] where
  distinct := Table.distinct_empty
  distinctKind := Table.distinct_empty
  get := fun _ => rfl
  getKind := fun _ _ => rfl

theorem Records.insert (h : r.Records entries) (entry : Entry) :
    (r.insert entry.name entry.kind entry.id).2.Records (entries ++ [entry]) where
  distinct := h.distinct.insert _ _
  distinctKind := h.distinctKind.insert _ _
  get := fun name => by
    rw [last?_concat, ← h.get, Registry.insert, get?, Table.get?_insert, get?]
    exact if_congr (eq_comm.trans decide_eq_true_iff.symm) rfl rfl
  getKind := fun kind name => by
    rw [last?_concat, ← h.getKind, Registry.insert, getKind?, Table.get?_insert, getKind?]
    refine if_congr ?_ rfl rfl
    rw [Prod.mk.injEq, decide_eq_true_iff, eq_comm, eq_comm (a := name)]

/-- Whatever is done to a new registry, its tables hold what has been given. -/
theorem records_afterAll (edits : List Edit) : (empty.afterAll edits).Records (given edits) := by
  -- by induction on the history, the last edit being the one that counts
  induction edits using List.reverseRecOn with
  | nil => exact records_empty
  | append_singleton edits edit ih =>
    rw [afterAll, List.foldl_append]
    cases edit with
    | insert entry =>
      rw [given_insert]
      exact ih.insert entry
    | clearAll =>
      rw [given_clearAll]
      exact records_empty

/-- There is one name for each that has been given. -/
theorem Records.size_eq (h : r.Records entries) :
    r.size = (entries.map Entry.name).dedup.length := by
  have hmem (name : String) :
      name ∈ r.byName.entries.map Prod.fst ↔ name ∈ (entries.map Entry.name).dedup := by
    have hsome : (r.get? name).isSome = true ↔ name ∈ (entries.map Entry.name).dedup := by
      rw [h.get, isSome_last?]
      simp
    rw [← hsome, Option.isSome_iff_exists]
    constructor
    · intro hkey
      obtain ⟨⟨_, id⟩, hentry, rfl⟩ := List.mem_map.mp hkey
      exact ⟨id, h.distinct.get?_eq_some_iff.mpr hentry⟩
    · rintro ⟨id, hget⟩
      exact List.mem_map.mpr ⟨_, Table.mem_of_get? hget, rfl⟩
  have hperm := (List.perm_ext_iff_of_nodup h.distinct (List.nodup_dedup _)).mpr hmem
  rw [size, Table.size, ← hperm.length_eq, List.length_map]

/-! ### The widgets that are held -/

/-- What is left of a sorted list when repetitions are dropped is strictly increasing. -/
theorem pairwise_lt_eraseDups {ids : List WidgetId}
    (h : ids.Pairwise fun a b => a.index ≤ b.index) :
    ids.eraseDups.Pairwise fun a b => a.index < b.index := by
  -- by induction on the length, as all repetitions of the first id are dropped with it
  induction hn : ids.length using Nat.strongRecOn generalizing ids with
  | ind n ih =>
    subst hn
    cases ids with
    | nil => exact .nil
    | cons id rest =>
      obtain ⟨hle, hrest⟩ := List.pairwise_cons.mp h
      have hlt : (rest.filter fun other => !other == id).length < (id :: rest).length :=
        Nat.lt_succ_of_le (List.length_filter_le ..)
      rw [List.eraseDups_cons]
      refine List.pairwise_cons.mpr ⟨fun other hother => ?_, ih _ hlt (hrest.filter _) rfl⟩
      obtain ⟨hmem, hne⟩ := List.mem_filter.mp (List.mem_eraseDups.mp hother)
      have hindex : other.index ≠ id.index := fun he => by
        cases id; cases other; simp_all
      exact Nat.lt_of_le_of_ne (hle other hmem) hindex.symm

/-- The widgets that a registry holds come in increasing order, each once. -/
theorem increasing_ids (r : Registry) : r.ids.Pairwise fun a b => a.index < b.index := by
  refine pairwise_lt_eraseDups ?_
  let le (a b : WidgetId) : Bool := decide (a.index ≤ b.index)
  have htrans (a b c : WidgetId) (hab : le a b = true) (hbc : le b c = true) : le a c = true := by
    simp only [le, decide_eq_true_eq] at *
    omega
  have htotal (a b : WidgetId) : (le a b || le b a) = true := by
    simp only [le, Bool.or_eq_true, decide_eq_true_eq]
    omega
  have hsorted := List.pairwise_mergeSort htrans htotal
    (r.byName.entries.map Prod.snd ++ r.byKind.entries.map Prod.snd)
  exact hsorted.imp fun hle => of_decide_eq_true hle

/-- They are those that can be found by their names, with or without their kinds. -/
theorem Records.mem_ids (h : r.Records entries) : id ∈ r.ids ↔
    (∃ name, r.get? name = some id) ∨ ∃ kind name, r.getKind? kind name = some id := by
  have hname : (∃ name, (name, id) ∈ r.byName.entries) ↔ ∃ name, r.get? name = some id :=
    exists_congr fun _ => h.distinct.get?_eq_some_iff.symm
  have hkind : (∃ key, (key, id) ∈ r.byKind.entries) ↔
      ∃ kind name, r.getKind? kind name = some id := by
    rw [Prod.exists]
    exact exists_congr fun _ => exists_congr fun _ => h.distinctKind.get?_eq_some_iff.symm
  rw [← hname, ← hkind, ids, List.mem_eraseDups, (List.mergeSort_perm _ _).mem_iff]
  simp

/-- A widget is held as long as one of its names has not been given away among those of its kind.
What has not been given away among all widgets has not been given away among those of a kind. -/
theorem Records.mem_ids_iff (h : r.Records entries) : id ∈ r.ids ↔
    ∃ before entry after, entries = before ++ entry :: after ∧ entry.id = id ∧
      ∀ later ∈ after, later.kind = entry.kind → later.name ≠ entry.name := by
  have hkind : (∃ before entry after, entries = before ++ entry :: after ∧ entry.id = id ∧
      ∀ later ∈ after, later.kind = entry.kind → later.name ≠ entry.name) ↔
      ∃ kind name, r.getKind? kind name = some id := by
    simp only [h.getKind, last?_eq_some_iff, decide_eq_true_eq, decide_eq_false_iff_not, not_and]
    constructor
    · rintro ⟨before, entry, after, hentries, hid, hafter⟩
      exact ⟨_, _, before, entry, after, hentries, hid, ⟨rfl, rfl⟩, hafter⟩
    · rintro ⟨_, _, before, entry, after, hentries, hid, ⟨rfl, rfl⟩, hafter⟩
      exact ⟨before, entry, after, hentries, hid, hafter⟩
  rw [h.mem_ids, hkind]
  refine or_iff_right_of_imp ?_
  rintro ⟨name, hget⟩
  rw [h.get, last?_eq_some_iff] at hget
  obtain ⟨before, entry, after, hentries, hid, hp, hafter⟩ := hget
  refine hkind.mp ⟨before, entry, after, hentries, hid, fun later hlater _ hname => ?_⟩
  exact of_decide_eq_false (hafter later hlater) (hname.trans (of_decide_eq_true hp))

/-! ### Look-ups and clearings -/

/-- Whatever has been done to a new registry, a look-up finds the widget that was the last to get
the name since the last clearing, and so does one among the widgets of a kind. An insertion tells
which widget has had the name among all of them, and there are as many names as have been given. A
clearing hands on each widget that can be found in one of these ways, once and in increasing order:
those that have lost their names to widgets of other kinds as well, but not those that have lost
them to widgets of their own kind. It leaves nothing in the tables. -/
theorem lookups_follow_insertions (edits : List Edit) :
    (∀ name, (empty.afterAll edits).get? name = last? (given edits) fun e => e.name = name) ∧
    (∀ kind name, (empty.afterAll edits).getKind? kind name =
      last? (given edits) fun e => e.kind = kind ∧ e.name = name) ∧
    (∀ name kind id,
      ((empty.afterAll edits).insert name kind id).1 = (empty.afterAll edits).get? name) ∧
    (empty.afterAll edits).size = ((given edits).map Entry.name).dedup.length ∧
    ∃ ids : List WidgetId,
      ids.Pairwise (fun a b => a.index < b.index) ∧
      (∀ id, id ∈ ids ↔ (∃ name, (empty.afterAll edits).get? name = some id) ∨
        ∃ kind name, (empty.afterAll edits).getKind? kind name = some id) ∧
      (∀ id, id ∈ ids ↔ ∃ before entry after, given edits = before ++ entry :: after ∧
        entry.id = id ∧ ∀ later ∈ after, later.kind = entry.kind → later.name ≠ entry.name) ∧
      ∀ (σ : Type) (state : σ) (f : σ → WidgetId → σ),
        ((empty.afterAll edits).clearAll state f).1 = ids.foldl f state ∧
        ((empty.afterAll edits).clearAll state f).2.byName.entries = [] ∧
        ((empty.afterAll edits).clearAll state f).2.byKind.entries = [] := by
  have hrecords := records_afterAll edits
  refine ⟨hrecords.get, hrecords.getKind, fun _ _ _ => rfl, hrecords.size_eq,
    (empty.afterAll edits).ids, increasing_ids _, fun id => hrecords.mem_ids,
    fun id => hrecords.mem_ids_iff, fun σ state f => ⟨rfl, rfl, rfl⟩⟩

/-- A panel that has lost its name to a text is still found among the panels, and one that has lost
it to another panel is not. -/
example : (empty.afterAll [.insert ⟨"a", .panel, ⟨2⟩⟩, .insert ⟨"a", .panel, ⟨1⟩⟩,
    .insert ⟨"a", .text, ⟨0⟩⟩]).getKind? .panel "a" = some ⟨1⟩ := by decide

end Registry

end Uiml
