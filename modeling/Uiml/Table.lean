/-!
# Tables

A table holds at most one value under each key, in the order in which the keys were first put in.

## Main statements

* `Table.get?_insert` — what a look-up finds after an insertion
* `Table.get?_erase` — what a look-up finds after a removal
-/

namespace Uiml

/-- A finite map that remembers the order of its keys. -/
structure Table (κ υ : Type) where
  entries : List (κ × υ) := []
  deriving Repr, Inhabited

namespace Table

variable {κ υ : Type} [DecidableEq κ]

/-- The table without entries. -/
def empty : Table κ υ := ⟨[]⟩

/-- The value under a key. -/
def get? (t : Table κ υ) (key : κ) : Option υ :=
  (t.entries.find? fun entry => entry.1 = key).map Prod.snd

/-- Whether there is a value under a key. -/
def contains (t : Table κ υ) (key : κ) : Bool := t.entries.any fun entry => entry.1 = key

/-- The table without the value under a key. -/
def erase (t : Table κ υ) (key : κ) : Table κ υ :=
  ⟨t.entries.filter fun entry => entry.1 ≠ key⟩

/-- The entries with a value put under a key. -/
def insertEntry (key : κ) (value : υ) : List (κ × υ) → List (κ × υ)
  | [] => [(key, value)]
  | entry :: rest =>
    if entry.1 = key then (key, value) :: rest else entry :: insertEntry key value rest

/-- The table with a value under a key. A key that is already there keeps its place. -/
def insert (t : Table κ υ) (key : κ) (value : υ) : Table κ υ := ⟨insertEntry key value t.entries⟩

/-- The table of the entries of which the keys fulfil a condition. -/
def filterKeys (t : Table κ υ) (p : κ → Bool) : Table κ υ :=
  ⟨t.entries.filter fun entry => p entry.1⟩

/-- The number of keys. -/
def size (t : Table κ υ) : Nat := t.entries.length

/-- The table with the given entries, the last of those with the same key. -/
def ofList (entries : List (κ × υ)) : Table κ υ :=
  entries.foldl (fun t entry => t.insert entry.1 entry.2) empty

@[simp] theorem get?_empty (key : κ) : (empty : Table κ υ).get? key = none := rfl

theorem get?_eq_none_iff {t : Table κ υ} {key : κ} :
    t.get? key = none ↔ t.contains key = false := by
  simp [get?, contains]

theorem get?_erase (t : Table κ υ) (key key' : κ) :
    (t.erase key).get? key' = if key' = key then none else t.get? key' := by
  unfold get? erase
  induction t.entries with
  | nil => simp
  | cons entry rest ih => grind

theorem get?_insert (t : Table κ υ) (key key' : κ) (value : υ) :
    (t.insert key value).get? key' = if key' = key then some value else t.get? key' := by
  unfold insert get?
  induction t.entries with
  | nil => grind [insertEntry]
  | cons entry rest ih => grind [insertEntry]

end Table

end Uiml
