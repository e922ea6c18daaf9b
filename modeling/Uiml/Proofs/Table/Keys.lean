import Uiml.Table

/-!
# Keys of tables

A table that has no key twice stays so under every operation, and in such a table a look-up finds
exactly the entries that are there.

## Main definitions

* `Table.Distinct` — no key occurs twice

## Main results

* `Table.Distinct.insert`, `Table.Distinct.filterKeys`, … — the operations keep keys distinct
* `Table.Distinct.get?_eq_some_iff` — a look-up finds an entry exactly if it is there
* `Table.Distinct.perm_insert` — the order of the entries has no say in what an insertion leaves
* `Table.entries_ofList` — a table of entries with keys of their own holds just these
-/

namespace Uiml.Table

variable {κ υ : Type} {t : Table κ υ} {key : κ} {value : υ}

/-- No key of a table occurs twice. -/
def Distinct (t : Table κ υ) : Prop := (t.entries.map Prod.fst).Nodup

theorem distinct_empty : Distinct ({} : Table κ υ) := List.nodup_nil

/-- The keys that are left when entries are taken out were there before. -/
theorem mem_keys_of_filter {p : κ × υ → Bool} (h : key ∈ (t.entries.filter p).map Prod.fst) :
    key ∈ t.entries.map Prod.fst := (List.filter_sublist.map Prod.fst).subset h

theorem Distinct.filter (h : t.Distinct) (p : κ × υ → Bool) :
    Distinct ⟨t.entries.filter p⟩ :=
  h.sublist (List.filter_sublist.map Prod.fst)

/-- The values have no say in whether the keys are distinct. -/
theorem Distinct.mapValues (h : t.Distinct) (f : υ → υ) :
    Distinct ⟨t.entries.map fun entry => (entry.1, f entry.2)⟩ := by
  simp only [Distinct, List.map_map]
  exact h

theorem Distinct.filterKeys (h : t.Distinct) (p : κ → Bool) : (t.filterKeys p).Distinct :=
  h.filter _

variable [DecidableEq κ]

theorem get?_filterKeys (p : κ → Bool) :
    (t.filterKeys p).get? key = if p key then t.get? key else none := by
  rw [get?, filterKeys, List.find?_filter]
  cases hp : p key with
  | true =>
    have hsame : (fun entry : κ × υ => decide (p entry.1 = true ∧ decide (entry.1 = key) = true)) =
        fun entry => decide (entry.1 = key) := by
      funext entry
      by_cases hkey : entry.1 = key
      · simp [hkey, hp]
      · simp [hkey]
    rw [hsame]
    rfl
  | false =>
    simp only [Bool.false_eq_true, if_false, Option.map_eq_none_iff, List.find?_eq_none,
      decide_eq_true_eq]
    rintro entry - ⟨hentry, rfl⟩
    exact Bool.false_ne_true (hp.symm.trans hentry)

theorem get?_mapValues (f : υ → υ) :
    get? ⟨t.entries.map fun entry => (entry.1, f entry.2)⟩ key = (t.get? key).map f := by
  simp only [get?, List.find?_map, Option.map_map]
  rfl

theorem Distinct.erase (h : t.Distinct) (key : κ) : (t.erase key).Distinct := h.filter _

/-- An insertion brings in its own key, and no other. -/
theorem mem_keys_insertEntry {key' : κ} {entries : List (κ × υ)}
    (h : key' ∈ (insertEntry key value entries).map Prod.fst) :
    key' = key ∨ key' ∈ entries.map Prod.fst := by
  induction entries with
  | nil => exact .inl (by simpa [insertEntry] using h)
  | cons entry rest ih =>
    by_cases hkey : entry.1 = key
    · rw [insertEntry, if_pos hkey, List.map_cons, List.mem_cons] at h
      rcases h with rfl | h
      · exact .inl rfl
      · exact .inr (List.mem_cons_of_mem _ h)
    · rw [insertEntry, if_neg hkey, List.map_cons, List.mem_cons] at h
      rcases h with rfl | h
      · exact .inr List.mem_cons_self
      · exact (ih h).imp_right fun h => List.mem_cons_of_mem _ h

theorem Distinct.insert (h : t.Distinct) (key : κ) (value : υ) : (t.insert key value).Distinct := by
  obtain ⟨entries⟩ := t
  simp only [Distinct, Table.insert] at *
  induction entries with
  | nil => simp [insertEntry]
  | cons entry rest ih =>
    obtain ⟨hnew, hrest⟩ := List.nodup_cons.mp h
    by_cases hkey : entry.1 = key
    · rw [insertEntry, if_pos hkey]
      exact List.nodup_cons.mpr ⟨hkey ▸ hnew, hrest⟩
    · rw [insertEntry, if_neg hkey]
      refine List.nodup_cons.mpr ⟨fun hmem => ?_, ih hrest⟩
      rcases mem_keys_insertEntry hmem with he | hmem
      · exact hkey he
      · exact hnew hmem

/-- Among distinct keys an insertion leaves the other entries as they are. -/
theorem insertEntry_perm {entries : List (κ × υ)} (h : (entries.map Prod.fst).Nodup) :
    (insertEntry key value entries).Perm
      ((key, value) :: entries.filter fun entry => entry.1 ≠ key) := by
  induction entries with
  | nil => exact .refl _
  | cons entry rest ih =>
    obtain ⟨hnew, hrest⟩ := List.nodup_cons.mp h
    by_cases hkey : entry.1 = key
    · -- the key occurs at the head only, so that nothing of the rest is left out
      have hkept : (rest.filter fun entry => entry.1 ≠ key) = rest :=
        List.filter_eq_self.mpr fun other hother => decide_eq_true fun he =>
          hnew (hkey ▸ he ▸ List.mem_map_of_mem (f := Prod.fst) hother)
      rw [insertEntry, if_pos hkey, List.filter_cons_of_neg (by simpa using hkey), hkept]
    · rw [insertEntry, if_neg hkey, List.filter_cons_of_pos (by simpa using hkey)]
      exact ((ih hrest).cons entry).trans (.swap ..)

/-- The order of the entries has no say in which entries an insertion leaves. -/
theorem Distinct.perm_insert {t' : Table κ υ} (h : t.Distinct)
    (hperm : t'.entries.Perm t.entries) (key : κ) (value : υ) :
    (t'.insert key value).entries.Perm (t.insert key value).entries := by
  have hkeys : (t'.entries.map Prod.fst).Nodup := (hperm.map Prod.fst).nodup_iff.mpr h
  -- either way the new entry comes with the entries of other keys
  exact ((insertEntry_perm hkeys).trans ((hperm.filter _).cons _)).trans (insertEntry_perm h).symm

/-- What is put in under a new key comes last. -/
theorem insertEntry_of_not_mem {entries : List (κ × υ)} (h : key ∉ entries.map Prod.fst) :
    insertEntry key value entries = entries ++ [(key, value)] := by
  induction entries with
  | nil => rfl
  | cons entry rest ih =>
    rw [List.map_cons, List.mem_cons, not_or] at h
    rw [insertEntry, if_neg (Ne.symm h.1), ih h.2, List.cons_append]

theorem not_mem_keys (h : t.get? key = none) : key ∉ t.entries.map Prod.fst := by
  rw [get?_eq_none_iff, contains, List.any_eq_false] at h
  rintro hmem
  obtain ⟨entry, hentry, rfl⟩ := List.mem_map.mp hmem
  exact h entry hentry (decide_eq_true rfl)

theorem size_insert (h : t.get? key = none) (value : υ) :
    (t.insert key value).size = t.size + 1 := by
  rw [size, insert, insertEntry_of_not_mem (not_mem_keys h), List.length_append, size]
  rfl

theorem entries_foldl_insert {entries : List (κ × υ)}
    (h : ((t.entries ++ entries).map Prod.fst).Nodup) :
    (entries.foldl (fun t entry => t.insert entry.1 entry.2) t).entries =
      t.entries ++ entries := by
  induction entries generalizing t with
  | nil => rw [List.append_nil, List.foldl_nil]
  | cons entry rest ih =>
    have hnew : entry.1 ∉ t.entries.map Prod.fst := by
      rw [List.map_append, List.nodup_append] at h
      exact fun hmem => h.2.2 entry.1 hmem entry.1 (by simp) rfl
    have hinsert : (t.insert entry.1 entry.2).entries = t.entries ++ [entry] :=
      insertEntry_of_not_mem hnew
    rw [List.foldl_cons, ih] <;> rw [hinsert, List.append_assoc, List.singleton_append]
    exact h

/-- A table of entries with keys of their own holds just these. -/
theorem entries_ofList {entries : List (κ × υ)} (h : (entries.map Prod.fst).Nodup) :
    (ofList entries).entries = entries :=
  entries_foldl_insert (t := empty) h

theorem mem_of_get? (h : t.get? key = some value) : (key, value) ∈ t.entries := by
  obtain ⟨entry, hfind, rfl⟩ := Option.map_eq_some_iff.mp h
  have hkey : entry.1 = key := by simpa using List.find?_some hfind
  exact hkey ▸ List.mem_of_find?_eq_some hfind

/-- Among distinct keys a look-up finds what is there. -/
theorem Distinct.get?_eq_some_iff (h : t.Distinct) :
    t.get? key = some value ↔ (key, value) ∈ t.entries := by
  refine ⟨mem_of_get?, fun hmem => ?_⟩
  obtain ⟨entries⟩ := t
  simp only [Distinct, get?] at *
  induction entries with
  | nil => cases hmem
  | cons entry rest ih =>
    obtain ⟨hnew, hrest⟩ := List.nodup_cons.mp h
    rcases List.mem_cons.mp hmem with rfl | hmem
    · simp
    · -- the entry at the head has another key, as the key occurs further on
      have hne : entry.1 ≠ key := fun he => hnew (he ▸ List.mem_map_of_mem (f := Prod.fst) hmem)
      rw [List.find?_cons_of_neg (by simpa using hne)]
      exact ih hrest hmem

theorem Distinct.get?_filter (h : t.Distinct) (p : κ × υ → Bool) :
    get? ⟨t.entries.filter p⟩ key = (t.get? key).filter fun value => p (key, value) := by
  ext value
  rw [(h.filter p).get?_eq_some_iff, List.mem_filter, Option.filter_eq_some_iff,
    h.get?_eq_some_iff]

/-- The entry of a key is the only one with it. -/
theorem Distinct.filter_key (h : t.Distinct) (key : κ) :
    (t.entries.filter fun entry => entry.1 = key) =
      ((t.get? key).map fun value => (key, value)).toList := by
  obtain ⟨entries⟩ := t
  simp only [Distinct, get?] at *
  induction entries with
  | nil => rfl
  | cons entry rest ih =>
    obtain ⟨hnew, hrest⟩ := List.nodup_cons.mp h
    by_cases hkey : entry.1 = key
    · have hnone : (rest.filter fun entry => entry.1 = key) = [] := by
        refine List.filter_eq_nil_iff.mpr fun other hother he => hnew ?_
        rw [hkey, ← of_decide_eq_true he]
        exact List.mem_map_of_mem hother
      rw [List.filter_cons_of_pos (by simpa using hkey), hnone,
        List.find?_cons_of_pos (by simpa using hkey), ← hkey]
      rfl
    · rw [List.filter_cons_of_neg (by simpa using hkey),
        List.find?_cons_of_neg (by simpa using hkey)]
      exact ih hrest

end Uiml.Table
