import Mathlib.Data.List.Infix
import Mathlib.Logic.Function.Iterate
import Uiml.Asset.Files
import Uiml.Proofs.Asset.Path

/-!
# Where a path leads

The names of a path tell where it leads without a look at the files: each leads down, and two dots
lead up again. That gives a spot, wherever paths start from; and once that is known, a place among
the files. What is found by walking through the files is where the names say.

## Main definitions

* `Spot`, `Path.spot` — where the names of a path lead
* `Spot.Holds` — a spot is another one or below it
* `Spot.namesFrom` — the place of a spot, if it is known where paths start from

## Main results

* `Spot.holds_follow_iff` — when names lead to a spot below the one where they start
* `Path.place_eq`, `Spot.Holds.namesFrom` — paths lead to their spots, wherever they start from
* `Files.contents_of_resolve` — a file that a path leads to is where its names lead
-/

namespace Uiml

/-- A place as far as names tell: so many directories above where paths start from, and then down
along names. -/
structure Spot where
  /-- Whether the names start from the topmost directory. -/
  fromTop : Bool := false
  above : Nat := 0
  names : List String := []
  deriving DecidableEq, Repr

namespace Spot

variable {root spot : Spot} {name : String} {names : List String}

/-- The directory that a spot is in. The topmost one is in itself. -/
def up (spot : Spot) : Spot :=
  if spot.names = [] then
    if spot.fromTop then spot else { spot with above := spot.above + 1 }
  else { spot with names := spot.names.dropLast }

/-- Further down along names. -/
def down (spot : Spot) (names : List String) : Spot := { spot with names := spot.names ++ names }

/-- Where a name leads from a spot. -/
def enter (spot : Spot) (name : String) : Spot := if name = ".." then spot.up else spot.down [name]

/-- Where names lead from a spot. -/
def follow (spot : Spot) (names : List String) : Spot := names.foldl enter spot

/-- A spot is another one, or below it. -/
structure Holds (root spot : Spot) : Prop where
  fromTop : spot.fromTop = root.fromTop
  above : spot.above = root.above
  names : root.names <+: spot.names

theorem holds_iff : root.Holds spot ↔
    spot.fromTop = root.fromTop ∧ spot.above = root.above ∧ root.names <+: spot.names :=
  ⟨fun h => ⟨h.fromTop, h.above, h.names⟩, fun h => ⟨h.1, h.2.1, h.2.2⟩⟩

instance : Decidable (root.Holds spot) := decidable_of_iff _ holds_iff.symm

theorem Holds.refl (spot : Spot) : spot.Holds spot := ⟨rfl, rfl, List.prefix_refl _⟩

theorem enter_of_ne_up (h : name ≠ "..") (spot : Spot) : spot.enter name = spot.down [name] :=
  if_neg h

theorem follow_append (spot : Spot) (names rest : List String) :
    spot.follow (names ++ rest) = (spot.follow names).follow rest := List.foldl_append ..

theorem follow_concat (spot : Spot) (names : List String) (name : String) :
    spot.follow (names ++ [name]) = (spot.follow names).enter name := follow_append ..

/-- What is in a directory is below another spot if the directory is, or it is that spot itself. -/
theorem holds_down_iff :
    root.Holds (spot.down [name]) ↔ spot.down [name] = root ∨ root.Holds spot := by
  constructor
  · intro h
    rcases List.prefix_concat_iff.mp h.names with hnames | hnames
    · left
      obtain ⟨fromTop, above, names⟩ := root
      obtain ⟨rfl, rfl, -⟩ := holds_iff.mp h
      exact congrArg (Spot.mk _ _) hnames.symm
    · exact .inr ⟨h.fromTop, h.above, hnames⟩
  · rintro (rfl | h)
    · exact .refl _
    · exact ⟨h.fromTop, h.above, h.names.trans (List.prefix_append ..)⟩

/-- A directory is not below what is in it. -/
theorem not_holds_down : ¬ (spot.down [name]).Holds spot := by
  intro h
  have hlength := h.names.length_le
  rw [down, List.length_append, List.length_singleton] at hlength
  omega

/-! ### Up and down again -/

theorem up_of_nil (h : spot.names = []) :
    spot.up = if spot.fromTop then spot else { spot with above := spot.above + 1 } := if_pos h

theorem up_of_ne_nil (h : spot.names ≠ []) :
    spot.up = { spot with names := spot.names.dropLast } := if_neg h

theorem up_down_concat (spot : Spot) (names : List String) (name : String) :
    (spot.down (names ++ [name])).up = spot.down names := by
  rw [up_of_ne_nil (by simp [down])]
  simp [down, ← List.append_assoc]

/-- So many times up, while there are names to leave. -/
theorem iterate_up_of_le (spot : Spot) {count : Nat} (h : count ≤ spot.names.length) :
    up^[count] spot = { spot with names := spot.names.take (spot.names.length - count) } := by
  induction count with
  | zero => simp
  | succ count ih =>
    have hne : spot.names.take (spot.names.length - count) ≠ [] := by
      intro hnil
      have hlength := congrArg List.length hnil
      rw [List.length_take, List.length_nil] at hlength
      omega
    have hdrop : (spot.names.take (spot.names.length - count)).dropLast =
        spot.names.take (spot.names.length - (count + 1)) := by
      rw [List.dropLast_eq_take, List.take_take, List.length_take]
      congr 1
      omega
    rw [Function.iterate_succ_apply', ih (by omega), up_of_ne_nil hne, hdrop]

/-- Above the directory that paths start from there are no names, and the topmost directory is as
far as one gets. -/
theorem iterate_up_of_lt (spot : Spot) {count : Nat} (h : spot.names.length < count) :
    up^[count] spot =
      if spot.fromTop then { spot with names := [] }
      else { spot with above := spot.above + (count - spot.names.length), names := [] } := by
  obtain ⟨further, rfl⟩ := Nat.exists_eq_add_of_lt h
  induction further with
  | zero =>
    rw [Nat.add_zero, Function.iterate_succ_apply', iterate_up_of_le spot (Nat.le_refl _),
      up_of_nil (by simp)]
    simp
  | succ further ih =>
    rw [← Nat.add_assoc, Function.iterate_succ_apply', ih (by omega)]
    by_cases htop : spot.fromTop
    · rw [if_pos htop, if_pos htop, up_of_nil rfl, if_pos htop]
    · rw [if_neg htop, if_neg htop, up_of_nil rfl, if_neg htop]
      simp only [mk.injEq, and_true, true_and]
      omega

/-- Where names lead from where paths start. -/
def way (names : List String) : Spot := follow {} names

theorem up_fromTop (spot : Spot) : spot.up.fromTop = spot.fromTop := by
  rw [up]
  split
  · split <;> rfl
  · rfl

theorem way_fromTop (names : List String) : (way names).fromTop = false := by
  induction names using List.reverseRecOn with
  | nil => rfl
  | append_singleton names name ih =>
    rw [way, follow_concat, ← way, enter]
    split
    · rw [up_fromTop, ih]
    · exact ih

/-- Names lead up a number of times, and then down. -/
theorem follow_eq (spot : Spot) (names : List String) :
    spot.follow names = (up^[(way names).above] spot).down (way names).names := by
  -- on the last name, since where it leads depends on whether names are left to lead up from
  induction names using List.reverseRecOn with
  | nil => simp [way, follow, down]
  | append_singleton names name ih =>
    have hway : way (names ++ [name]) = (way names).enter name := follow_concat ..
    rw [follow_concat, ih, hway]
    by_cases hup : name = ".."
    · rw [enter, if_pos hup, enter, if_pos hup]
      by_cases hnames : (way names).names = []
      · rw [up_of_nil hnames, way_fromTop, if_neg (by simp), hnames]
        simp only [Function.iterate_succ_apply']
        simp [down]
      · obtain ⟨front, last, hfront⟩ := (List.eq_nil_or_concat _).resolve_left hnames
        rw [List.concat_eq_append] at hfront
        rw [up_of_ne_nil hnames, hfront, up_down_concat, List.dropLast_concat]
    · rw [enter_of_ne_up hup, enter_of_ne_up hup]
      simp [down, List.append_assoc]

/-- Names lead to the spot that they start from, or below it, exactly if they lead up no further
than that has names, unless those start from the topmost directory, and then down again by the names
that they have left. -/
theorem holds_follow_iff (root : Spot) (names : List String) :
    root.Holds (root.follow names) ↔
      ((way names).above ≤ root.names.length ∨ root.fromTop = true) ∧
        root.names.drop (root.names.length - (way names).above) <+: (way names).names := by
  rw [follow_eq]
  rcases Nat.lt_or_ge root.names.length (way names).above with hlt | hle
  · have hall : root.names.length - (way names).above = 0 := by omega
    rw [iterate_up_of_lt root hlt, holds_iff, hall, List.drop_zero]
    have hle : ¬ (way names).above ≤ root.names.length := Nat.not_le.mpr hlt
    by_cases htop : root.fromTop
    · simp [htop, down]
    · have habove : (way names).above - root.names.length ≠ 0 := by omega
      simp [htop, down, hle, habove]
  · rw [iterate_up_of_le root hle, holds_iff]
    -- the names that are left are those that the root starts with
    have hnames : root.names.take (root.names.length - (way names).above) ++
          root.names.drop (root.names.length - (way names).above) <+:
        root.names.take (root.names.length - (way names).above) ++ (way names).names ↔ _ :=
      List.prefix_append_right_inj _
    rw [List.take_append_drop] at hnames
    simp only [down, true_and, hnames, hle, true_or]

/-- Names that do not lead above their start lead below it. -/
theorem holds_follow (root : Spot) {names : List String} (h : (way names).above = 0) :
    root.Holds (root.follow names) := by
  rw [holds_follow_iff, h]
  simp

/-! ### Places -/

/-- The names that lead to a spot from the topmost directory, given where paths start from. -/
def namesFrom (start : List String) (spot : Spot) : List String :=
  (if spot.fromTop then [] else start.take (start.length - spot.above)) ++ spot.names

/-- A name leads from a spot where it leads from the directory that is there. -/
theorem namesFrom_enter (start : List String) (spot : Spot) (name : String) :
    (spot.enter name).namesFrom start = Path.enter (spot.namesFrom start) name := by
  by_cases hup : name = ".."
  · rw [enter, if_pos hup, Path.enter, if_pos hup]
    by_cases hnames : spot.names = []
    · rw [up_of_nil hnames]
      by_cases htop : spot.fromTop
      · simp [namesFrom, htop, hnames]
      · -- one name less is left of those that paths start from
        have hdrop : (start.take (start.length - spot.above)).dropLast =
            start.take (start.length - (spot.above + 1)) := by
          rw [List.dropLast_eq_take, List.take_take, List.length_take]
          congr 1
          omega
        simp [namesFrom, htop, hnames, hdrop]
    · rw [up_of_ne_nil hnames, namesFrom, namesFrom, List.dropLast_append_of_ne_nil hnames]
  · rw [enter_of_ne_up hup, Path.enter, if_neg hup, namesFrom, namesFrom, List.append_assoc]
    rfl

theorem namesFrom_follow (start : List String) (spot : Spot) (names : List String) :
    (spot.follow names).namesFrom start = names.foldl Path.enter (spot.namesFrom start) := by
  induction names generalizing spot with
  | nil => rfl
  | cons name rest ih =>
    rw [follow, List.foldl_cons, ← follow, ih, namesFrom_enter, List.foldl_cons]

/-- What is below a spot is below it wherever paths start from. -/
theorem Holds.namesFrom (h : root.Holds spot) (start : List String) :
    root.namesFrom start <+: spot.namesFrom start := by
  rw [Spot.namesFrom, Spot.namesFrom, h.fromTop, h.above, List.prefix_append_right_inj]
  exact h.names

end Spot

namespace Path

/-- Where the names of a path lead. -/
def spot (path : String) : Spot :=
  Spot.follow { fromTop := path.toList.head? = some '/' } (components path)

/-- A path leads to its spot. -/
theorem place_eq (start : List String) (path : String) :
    place start path = (spot path).namesFrom start := by
  have horigin : origin start path =
      Spot.namesFrom start { fromTop := path.toList.head? = some '/' } := by
    rw [origin, Spot.namesFrom]
    by_cases htop : path.toList.head? = some '/' <;> simp [htop]
  rw [place, spot, Spot.namesFrom_follow, horigin]

end Path

/-! ### Walking through files -/

namespace Files

variable {files : Files} {here out : List String} {path : String} {bytes : List UInt8}

/-- A walk goes on from a directory only: it stays there for a part that is no name, and goes where a
name leads. -/
theorem walk_cons {part : String} {rest : List String}
    (h : files.walk here (part :: rest) = .ok out) :
    files.entry? here = some .directory ∧
      (Path.leads part = false ∧ files.walk here rest = .ok out ∨
        Path.leads part = true ∧ files.walk (Path.enter here part) rest = .ok out) := by
  rw [walk.eq_def] at h
  simp only at h
  split at h
  · cases h
  · cases h
  · next hat =>
    refine ⟨hat, ?_⟩
    split at h
    · next hidle =>
      simp only [Bool.or_eq_true, decide_eq_true_eq] at hidle
      rcases hidle with rfl | rfl
      · exact .inl ⟨rfl, h⟩
      · exact .inl ⟨rfl, h⟩
    · next hidle =>
      split at h
      · cases h
      · exact .inr ⟨by simpa [Path.leads] using hidle, h⟩

/-- A walk ends where the names lead that it follows. -/
theorem place_of_walk {parts : List String} (h : files.walk here parts = .ok out) :
    out = (parts.filter Path.leads).foldl Path.enter here := by
  induction parts generalizing here with
  | nil => exact (Except.ok.inj h).symm
  | cons part rest ih =>
    obtain ⟨-, ⟨hidle, hrest⟩ | ⟨hleads, hrest⟩⟩ := walk_cons h
    · rw [List.filter_cons_of_neg (by simp [hidle])]
      exact ih hrest
    · rw [List.filter_cons_of_pos hleads, List.foldl_cons]
      exact ih hrest

theorem contents_of_file {names : List String} (h : files.entry? names = some (.file bytes)) :
    files.contents.get? names = some bytes := by
  rw [ entry?] at h
  split at h
  · cases h
  split at h
  · next hget => cases h; exact hget
  · split at h <;> cases h

/-- A path that leads to a file leads there part by part. -/
theorem exists_walk (h : files.resolve path = .ok (.file bytes)) :
    ∃ names, files.walk (Path.origin files.start path)
        ((path.toList.splitOn '/').map String.ofList) = .ok names ∧
      files.entry? names = some (.file bytes) := by
  rw [resolve] at h
  split at h
  · cases h
  split at h
  · cases h
  split at h
  · cases h
  split at h
  · cases h
  · next names hwalk =>
    split at h
    · next entry hentry =>
      cases h
      exact ⟨names, hwalk, hentry⟩
    · cases h

/-- A file that a path leads to is where the names of the path lead. -/
theorem contents_of_resolve (h : files.resolve path = .ok (.file bytes)) :
    files.contents.get? (Path.place files.start path) = some bytes := by
  obtain ⟨names, hwalk, hentry⟩ := exists_walk h
  have hplace : names = Path.place files.start path := place_of_walk hwalk
  rw [← hplace]
  exact contents_of_file hentry

end Files

end Uiml
