import Mathlib.Data.List.TakeWhile
import Uiml.Asset.Path

/-!
# The names of a path

What becomes of the names of a path when its text is changed: a slash divides a text into the names
before it and the names after it, slashes at the start lead nowhere, and another extension replaces
the last name and whatever follows it.

## Main definitions

* `Path.EndsIn` — a path taken apart around its last name

## Main results

* `Path.components_join` — a path that is joined to another one adds its names
* `Path.exists_endsIn` — a path with names has a last one
* `Path.EndsIn.withExtension_eq`, `Path.EndsIn.withExtension_endsIn` — another extension
-/

namespace Uiml.Path

variable {path base name front last tail extension : String} {cs before after : List Char}

/-! ### Texts and names -/

/-- Whether a name leads somewhere. -/
def leads (name : String) : Bool := name ≠ "" && name ≠ "."

theorem leads_iff : leads name = true ↔ name.toList ≠ [] ∧ name.toList ≠ ['.'] := by
  have hdot : name.toList = ['.'] ↔ name = "." := by rw [← String.toList_inj]; rfl
  simp [leads, hdot]

theorem leads_ofList_reverse : leads (String.ofList cs.reverse) = true ↔ cs ≠ [] ∧ cs ≠ ['.'] := by
  simp [leads_iff, List.reverse_eq_iff]

theorem components_ofList (cs : List Char) :
    components (String.ofList cs) = ((cs.splitOn '/').map String.ofList).filter leads := by
  rw [components, String.toList_ofList]
  rfl

/-- A slash divides the names of a path. -/
theorem components_slash (before after : List Char) :
    components (String.ofList (before ++ '/' :: after)) =
      components (String.ofList before) ++ components (String.ofList after) := by
  simp only [components_ofList, List.splitOn_append_cons_self, List.map_append, List.filter_append]

theorem components_append_slash (before after : String) :
    components (before ++ "/" ++ after) = components before ++ components after := by
  have hslash := components_slash before.toList after.toList
  rw [String.ofList_toList, String.ofList_toList] at hslash
  rw [← hslash, ← String.ofList_toList (s := before ++ "/" ++ after)]
  simp

theorem components_of_not_mem (h : '/' ∉ name.toList) : components name = [name].filter leads := by
  have hcomponents := components_ofList name.toList
  rw [String.ofList_toList] at hcomponents
  rw [hcomponents, List.splitOn_eq_singleton h, List.map_singleton, String.ofList_toList]

theorem components_of_leads (h : '/' ∉ name.toList) (hleads : leads name = true) :
    components name = [name] := by
  rw [components_of_not_mem h, List.filter_cons_of_pos hleads, List.filter_nil]

theorem eq_of_not_leads (h : ¬ leads name = true) : name = "" ∨ name = "." := by
  simpa [leads, or_iff_not_imp_left] using h

theorem components_of_not_leads (h : ¬ leads name = true) : components name = [] := by
  rcases eq_of_not_leads h with rfl | rfl <;> decide +kernel

@[simp] theorem components_empty : components "" = [] := rfl

@[simp] theorem components_nil : components (String.ofList []) = [] := rfl

theorem components_dot : components (String.ofList ['.']) = [] := by
  have h : components "." = [] := by decide +kernel
  exact h

/-- Slashes at the start of a path lead nowhere. -/
@[simp] theorem components_relative (path : String) :
    components (relative path) = components path := by
  obtain ⟨cs, rfl⟩ : ∃ cs, path = String.ofList cs := ⟨path.toList, String.ofList_toList.symm⟩
  rw [relative, String.toList_ofList]
  induction cs with
  | nil => rfl
  | cons c cs ih =>
    by_cases hc : c = '/'
    · subst hc
      rw [List.dropWhile_cons_of_pos (by simp), ih]
      simpa using (components_slash [] cs).symm
    · rw [List.dropWhile_cons_of_neg (by simpa using hc)]

theorem head?_relative (path : String) : (relative path).toList.head? ≠ some '/' := by
  rw [relative, String.toList_ofList]
  intro h
  have hhead := List.head?_dropWhile_not (· == '/') path.toList
  rw [h] at hhead
  simp at hhead

theorem join_append (base path rest : String) :
    join base (path ++ rest) = join base path ++ rest := by
  rw [join, join]
  split <;> simp only [String.append_assoc]

/-- The text of a path below another one, with the slash that stands between them. -/
theorem join_cases (base path : String) :
    join base path = path ∧ base = "" ∨
      ∃ cs, base ≠ "" ∧ (base.toList = cs ∨ base.toList = cs ++ ['/']) ∧
        join base path = String.ofList (cs ++ '/' :: path.toList) := by
  by_cases hempty : base = ""
  · exact .inl ⟨by rw [join, if_pos (by simp [hempty]), hempty, String.empty_append], hempty⟩
  · right
    by_cases hslash : base.toList.getLast? = some '/'
    · obtain ⟨cs, hcs⟩ := List.getLast?_eq_some_iff.mp hslash
      refine ⟨cs, hempty, .inr hcs, ?_⟩
      rw [join, if_pos (by simp [hslash]), ← String.toList_inj, String.toList_append, hcs]
      simp
    · refine ⟨base.toList, hempty, .inl rfl, ?_⟩
      rw [join, if_neg (by simp [hempty, hslash]), ← String.toList_inj]
      simp

/-- A path that is joined to another one adds its names. -/
theorem components_join (base path : String) :
    components (join base path) = components base ++ components path := by
  obtain ⟨hjoin, rfl⟩ | ⟨cs, -, hbase, hjoin⟩ := join_cases base path
  · rw [hjoin, components_empty, List.nil_append]
  · rw [hjoin, components_slash, String.ofList_toList, ← String.ofList_toList (s := base)]
    obtain hbase | hbase := hbase <;> rw [hbase]
    rw [components_slash, components_nil, List.append_nil]

/-- A path that is joined to another one starts as that does, if it does not start with a slash. -/
theorem head?_join (hpath : path.toList.head? ≠ some '/') :
    (join base path).toList.head? = some '/' ↔ base.toList.head? = some '/' := by
  obtain ⟨hjoin, rfl⟩ | ⟨cs, hempty, hbase, hjoin⟩ := join_cases base path
  · rw [hjoin]
    exact ⟨fun h => absurd h hpath, by simp⟩
  · rw [hjoin, String.toList_ofList]
    have hne : base.toList ≠ [] := by simpa using hempty
    obtain hbase | hbase := hbase <;> rw [hbase] at hne ⊢ <;> cases cs <;> simp at hne ⊢

/-! ### The last name -/

/-- Paths are made of parts between slashes, of which one after another is added at the end. -/
@[elab_as_elim]
theorem byParts {motive : String → Prop} (single : ∀ part, '/' ∉ part.toList → motive part)
    (slash : ∀ before part, '/' ∉ part.toList → motive before → motive (before ++ "/" ++ part))
    (path : String) : motive path := by
  -- the last slash of a path is the first one of its reverse
  by_cases hslash : '/' ∈ path.toList.reverse
  · obtain ⟨after, before, hpath, hafter⟩ := List.eq_append_cons_of_mem hslash
    have htext : path = String.ofList before.reverse ++ "/" ++ String.ofList after.reverse := by
      rw [← String.toList_inj, ← List.reverse_inj, hpath]
      simp
    have hshorter : before.reverse.length < path.toList.length := by
      have hlength := congrArg List.length hpath
      simp at hlength ⊢
      omega
    rw [htext]
    exact slash _ _ (by simpa using hafter) (byParts single slash _)
  · exact single path (by simpa using hslash)
termination_by path.toList.length
decreasing_by simpa using hshorter

/-- Slashes, with nothing or single dots after them. -/
inductive Idle : List Char → Prop
  | nil : Idle []
  | slash {cs part : List Char} : Idle cs → part = [] ∨ part = ['.'] → Idle (cs ++ '/' :: part)

theorem Idle.append (h : Idle before) (hcs : Idle cs) : Idle (before ++ cs) := by
  induction hcs with
  | nil => rwa [List.append_nil]
  | slash _ hpart ih => rw [← List.append_assoc]; exact .slash ih hpart

theorem Idle.components_append (h : Idle cs) (before : List Char) :
    components (String.ofList (before ++ cs)) = components (String.ofList before) := by
  induction h with
  | nil => rw [List.append_nil]
  | slash _ hpart ih =>
    rw [← List.append_assoc, components_slash, ih]
    rcases hpart with rfl | rfl
    · rw [components_nil, List.append_nil]
    · rw [components_dot, List.append_nil]

theorem Idle.dropTail_append (h : Idle cs) (before : List Char) :
    dropTail (before ++ cs).reverse = dropTail before.reverse := by
  induction h with
  | nil => rw [List.append_nil]
  | slash _ hpart ih =>
    rw [← List.append_assoc, List.reverse_append]
    rcases hpart with rfl | rfl <;> exact ih

/-- A path that starts with a slash and has no names is made of slashes and dots. -/
theorem idle_of_components (h : components path = [])
    (hstart : path = "" ∨ path.toList.head? = some '/') :
    Idle path.toList := by
  induction path using byParts with
  | single part hpart =>
    rcases hstart with rfl | hstart
    · exact .nil
    · exact absurd (List.mem_of_mem_head? hstart) hpart
  | slash before part hpart ih =>
    rw [components_append_slash, List.append_eq_nil_iff] at h
    have hidle : ¬ leads part = true := by
      intro hleads
      rw [components_of_leads hpart hleads] at h
      exact List.cons_ne_nil _ _ h.2
    have hbefore : Idle before.toList := by
      refine ih h.1 ?_
      by_cases hempty : before = ""
      · exact .inl hempty
      · right
        have hne : before.toList ≠ [] := by simpa using hempty
        obtain ⟨c, cs, hcs⟩ := List.exists_cons_of_ne_nil hne
        simpa [hcs] using hstart
    have hshape : (before ++ "/" ++ part).toList = before.toList ++ '/' :: part.toList := by simp
    rw [hshape]
    rcases eq_of_not_leads hidle with rfl | rfl
    · exact .slash hbefore (.inl rfl)
    · exact .slash hbefore (.inr rfl)

/-- A text that ends with a name has no tail. -/
theorem dropTail_of_leads (hleads : leads (String.ofList cs.reverse) = true) (hslash : '/' ∉ cs)
    (before : List Char) : dropTail (cs ++ before) = cs ++ before := by
  obtain ⟨hempty, hdot⟩ := leads_ofList_reverse.mp hleads
  obtain ⟨c, cs, rfl⟩ := List.exists_cons_of_ne_nil hempty
  rw [List.cons_append, dropTail]
  · exact List.cons_ne_nil _ _
  · intro rest hrest
    exact hslash (List.mem_cons.mpr (.inl (List.cons.inj hrest).1.symm))
  · intro rest hrest
    obtain ⟨rfl, hafter⟩ := List.cons.inj hrest
    cases cs with
    | nil => exact hdot rfl
    | cons d cs => exact hslash (by simp [(List.cons.inj hafter).1])

/-- A path that is a name with something before it and slashes and dots after it. What is before it
ends with a slash. -/
structure EndsIn (path front last tail : String) : Prop where
  text : path = front ++ last ++ tail
  front : front = "" ∨ ∃ cs, front.toList = cs ++ ['/']
  leads : leads last = true
  slash : '/' ∉ last.toList
  tail : Idle tail.toList

/-- A path with names has a last one. -/
theorem exists_endsIn (h : components path ≠ []) :
    ∃ front last tail, EndsIn path front last tail := by
  induction path using byParts with
  | single part hpart =>
    by_cases hleads : leads part = true
    · exact ⟨"", part, "", by simp, .inl rfl, hleads, hpart, .nil⟩
    · exact absurd (components_of_not_leads hleads) h
  | slash before part hpart ih =>
    by_cases hleads : leads part = true
    · exact ⟨before ++ "/", part, "", by simp, .inr ⟨before.toList, by simp⟩, hleads, hpart, .nil⟩
    · rw [components_append_slash, components_of_not_leads hleads, List.append_nil] at h
      obtain ⟨front, last, tail, hends⟩ := ih h
      refine ⟨front, last, tail ++ "/" ++ part, ?_, hends.front, hends.leads, hends.slash, ?_⟩
      · rw [hends.text]
        simp only [String.append_assoc]
      · have hshape : (tail ++ "/" ++ part).toList = tail.toList ++ '/' :: part.toList := by simp
        rw [hshape]
        rcases eq_of_not_leads hleads with rfl | rfl
        · exact .slash hends.tail (.inl rfl)
        · exact .slash hends.tail (.inr rfl)

namespace EndsIn

theorem components_eq (h : EndsIn path front last tail) :
    components path = components front ++ [last] := by
  have hlast := components_of_leads h.slash h.leads
  have htail := h.tail.components_append (front ++ last).toList
  rw [← String.toList_append, String.ofList_toList, String.ofList_toList, ← h.text] at htail
  rw [htail]
  rcases h.front with rfl | ⟨cs, hcs⟩
  · rw [String.empty_append, hlast, components_empty, List.nil_append]
  · have hfront : front = String.ofList (cs ++ '/' :: []) := by rw [← hcs, String.ofList_toList]
    have hslash := components_slash cs last.toList
    rw [String.ofList_toList, hlast] at hslash
    rw [hfront, components_slash, components_nil, List.append_nil, ← hslash]
    congr 1
    rw [← String.toList_inj]
    simp

/-- Whether a path starts with a slash is decided before its last name. -/
theorem head?_iff (h : EndsIn path front last tail) :
    path.toList.head? = some '/' ↔ front.toList.head? = some '/' := by
  obtain ⟨hempty, -⟩ := leads_iff.mp h.leads
  obtain ⟨c, cs, hlast⟩ := List.exists_cons_of_ne_nil hempty
  have hc : c ≠ '/' := by
    rintro rfl
    exact h.slash (by simp [hlast])
  rw [h.text, String.toList_append, String.toList_append, hlast]
  cases front.toList <;> simp [hc]

/-- The last name of a path is that of the path joined to another one. -/
theorem join (h : EndsIn path front last tail) (base : String) :
    EndsIn (join base path) (Path.join base front) last tail := by
  refine ⟨?_, ?_, h.leads, h.slash, h.tail⟩
  · rw [h.text, join_append, join_append]
  · obtain ⟨hjoin, rfl⟩ | ⟨cs, -, -, hjoin⟩ := join_cases base front
    · rw [hjoin]
      exact h.front
    · rw [hjoin, String.toList_ofList]
      rcases h.front with rfl | ⟨cs', hcs'⟩
      · exact .inr ⟨cs, by simp⟩
      · exact .inr ⟨cs ++ '/' :: cs', by simp [hcs']⟩

/-- Slashes and dots that are joined to a path follow its last name. -/
theorem join_idle (h : EndsIn base front last tail) (hpath : components path = []) :
    ∃ tail', EndsIn (Path.join base path) front last tail' := by
  have hidle : Idle ('/' :: path.toList) := by
    have hslash := components_append_slash "" path
    rw [hpath, components_empty, List.append_nil] at hslash
    simpa using idle_of_components hslash (.inr (by simp))
  obtain ⟨-, rfl⟩ | ⟨cs, -, hbase, hjoin⟩ := join_cases base path
  · have hnames := h.components_eq
    simp at hnames
  -- the tail of the base, without a slash at its end, comes before the slash that is put there
  obtain ⟨before, hbefore, htail⟩ : ∃ before, Idle before ∧
      cs = front.toList ++ last.toList ++ before := by
    rw [h.text, String.toList_append, String.toList_append] at hbase
    rcases hbase with hbase | hbase
    · exact ⟨tail.toList, h.tail, hbase.symm⟩
    · have hends := congrArg List.getLast? hbase
      have htail := h.tail
      generalize tail.toList = ts at hbase hends htail
      cases htail with
      | nil =>
        obtain ⟨name, c, hname⟩ := (List.eq_nil_or_concat last.toList).resolve_left
          (leads_iff.mp h.leads).1
        rw [List.concat_eq_append] at hname
        have hc : c = '/' := by simpa [hname, ← List.append_assoc] using hends
        exact absurd (by simp [hname, hc]) h.slash
      | slash hbefore hpart =>
        rcases hpart with rfl | rfl
        · exact ⟨_, hbefore, by simpa [← List.append_assoc] using hbase.symm⟩
        · simp [← List.append_assoc] at hends
  refine ⟨String.ofList (before ++ '/' :: path.toList), ?_, h.front, h.leads, h.slash, ?_⟩
  · rw [hjoin, htail, ← String.toList_inj]
    simp
  · rw [String.toList_ofList]
    exact hbefore.append hidle

theorem fileName?_eq (h : EndsIn path front last tail) (hup : last ≠ "..") :
    fileName? path = some last := by
  rw [fileName?, h.components_eq, List.getLast?_append, List.getLast?_singleton]
  simp [hup]

theorem dropTail_eq (h : EndsIn path front last tail) :
    dropTail path.toList.reverse = (front.toList ++ last.toList).reverse := by
  rw [h.text, String.toList_append, String.toList_append, h.tail.dropTail_append,
    List.reverse_append]
  have hleads := h.leads
  rw [← String.ofList_toList (s := last), ← List.reverse_reverse last.toList] at hleads
  exact dropTail_of_leads hleads (by simpa using h.slash) _

/-- Another extension replaces that of the last name, and what follows the name. -/
theorem withExtension_eq (h : EndsIn path front last tail) (hup : last ≠ "..")
    (extension : String) :
    withExtension path extension = front ++ (cutName last).1 ++ "." ++ extension := by
  rw [withExtension, h.fileName?_eq hup]
  simp only
  rw [h.dropTail_eq, List.reverse_append, ← String.length_toList, ← List.length_reverse,
    List.drop_left, List.reverse_reverse, String.ofList_toList]

end EndsIn

/-- A path without a last name leads nowhere, or its last name leads up. -/
theorem fileName?_eq_none_iff :
    fileName? path = none ↔ components path = [] ∨ (components path).getLast? = some ".." := by
  rw [fileName?]
  cases hlast : (components path).getLast? with
  | none => simp [List.getLast?_eq_none_iff.mp hlast]
  | some name =>
    have hne : components path ≠ [] := by
      rintro hnil
      simp [hnil] at hlast
    by_cases hup : name = ".."
    · simp [hup]
    · simp [hup, hne]

theorem exists_endsIn_of_fileName? (h : fileName? path = some last) :
    ∃ front tail, EndsIn path front last tail ∧ last ≠ ".." := by
  have hne : components path ≠ [] := by
    intro hnil
    rw [fileName?_eq_none_iff.mpr (.inl hnil)] at h
    cases h
  obtain ⟨front, last', tail, hends⟩ := exists_endsIn hne
  have hup : last' ≠ ".." := by
    rintro rfl
    rw [fileName?_eq_none_iff.mpr (.inr (by simp [hends.components_eq]))] at h
    cases h
  rw [hends.fileName?_eq hup] at h
  cases h
  exact ⟨front, tail, hends, hup⟩

/-- What is after the last slash of a path, which may lead nowhere. -/
def LastPart (path part : String) : Prop :=
  '/' ∉ part.toList ∧ (path = part ∨ ∃ before, path = before ++ "/" ++ part)

theorem exists_lastPart (path : String) : ∃ part, LastPart path part := by
  induction path using byParts with
  | single part hpart => exact ⟨part, hpart, .inl rfl⟩
  | slash before part hpart _ => exact ⟨part, hpart, .inr ⟨before, rfl⟩⟩

namespace LastPart

variable {part : String}

theorem join (h : LastPart path part) (base : String) : LastPart (join base path) part := by
  refine ⟨h.1, ?_⟩
  obtain ⟨hjoin, rfl⟩ | ⟨cs, -, -, hjoin⟩ := join_cases base path
  · rw [hjoin]
    exact h.2
  · right
    rcases h.2 with rfl | ⟨before, rfl⟩
    · exact ⟨String.ofList cs, by rw [hjoin, ← String.toList_inj]; simp⟩
    · exact ⟨String.ofList (cs ++ '/' :: before.toList), by rw [hjoin, ← String.toList_inj]; simp⟩

theorem exists_components (h : LastPart path part) :
    ∃ front, components path = front ++ components part := by
  rcases h.2 with rfl | ⟨before, rfl⟩
  · exact ⟨[], rfl⟩
  · exact ⟨components before, components_append_slash ..⟩

theorem of_components (h : LastPart path part) (hnil : components path = []) :
    part = "" ∨ part = "." := by
  refine eq_of_not_leads fun hleads => ?_
  obtain ⟨front, hfront⟩ := h.exists_components
  rw [hnil, components_of_leads h.1 hleads] at hfront
  simp at hfront

/-- The last part of a path without a last name leads nowhere or up. -/
theorem of_fileName? (h : LastPart path part) (hname : fileName? path = none) :
    part = "" ∨ part = "." ∨ part = ".." := by
  by_cases hleads : leads part = true
  · obtain ⟨front, hfront⟩ := h.exists_components
    rw [components_of_leads h.1 hleads] at hfront
    rcases fileName?_eq_none_iff.mp hname with hnil | hup
    · simp [hnil] at hfront
    · rw [hfront, List.getLast?_concat, Option.some.injEq] at hup
      exact .inr (.inr hup)
  · exact (eq_of_not_leads hleads).imp_right .inl

end LastPart

/-! ### Another extension -/

/-- A path without a last name stays as it is. -/
theorem withExtension_of_none (h : fileName? path = none) (extension : String) :
    withExtension path extension = path := by
  rw [withExtension, h]

theorem extension?_of_none (h : fileName? path = none) : extension? path = none := by
  rw [extension?, h, Option.bind_none]

/-- A name is cut at a dot that is not its first character, and no dot comes after it. -/
theorem cutName_eq_some {stem : String} (h : cutName name = (stem, some extension)) :
    name = stem ++ "." ++ extension ∧ stem ≠ "" := by
  have hshape : name.toList.reverse.takeWhile (· ≠ '.') ++ name.toList.reverse.dropWhile (· ≠ '.') =
      name.toList.reverse := List.takeWhile_append_dropWhile
  rw [cutName] at h
  split at h
  · cases h
  · cases h
  · next c rs hne hrest =>
    have hdot : c = '.' := by
      have hc := List.head?_dropWhile_not (· ≠ '.') name.toList.reverse
      rw [hrest] at hc
      simpa using hc
    obtain ⟨rfl, hextension⟩ := Prod.mk.inj h
    rw [hrest] at hshape
    have hname := congrArg List.reverse hshape
    refine ⟨?_, ?_⟩
    · rw [← String.toList_inj]
      simpa [hdot, ← Option.some.inj hextension] using hname.symm
    · intro hstem
      have hrs : rs = [] := by simpa [← String.toList_inj] using hstem
      exact hne hrs

theorem cutName_eq_none {stem : String} (h : cutName name = (stem, none)) : stem = name := by
  rw [cutName] at h
  split at h
  · exact (Prod.mk.inj h).1.symm
  · exact (Prod.mk.inj h).1.symm
  · cases h

/-- A text that can stand after the last dot of a name. -/
structure IsExtension (extension : String) : Prop where
  nonempty : extension ≠ ""
  slash : '/' ∉ extension.toList
  dot : '.' ∉ extension.toList

/-- A name with an extension leads somewhere. -/
theorem IsExtension.leads_append (h : IsExtension extension) (stem : String) :
    leads (stem ++ "." ++ extension) = true := by
  have htext : (stem ++ "." ++ extension).toList = stem.toList ++ '.' :: extension.toList := by simp
  have hpos : extension.toList ≠ [] := by simpa using h.nonempty
  refine leads_iff.mpr ⟨by simp [htext], fun hdot => ?_⟩
  rw [htext] at hdot
  cases hstem : stem.toList with
  | nil => rw [hstem] at hdot; exact hpos (List.cons.inj hdot).2
  | cons c cs => rw [hstem] at hdot; simp at hdot

/-- A name with an extension does not lead up. -/
theorem IsExtension.append_ne_up (h : IsExtension extension) (stem : String) :
    stem ++ "." ++ extension ≠ ".." := by
  intro heq
  obtain ⟨cs, c, hcs⟩ := (List.eq_nil_or_concat extension.toList).resolve_left
    (by simpa using h.nonempty)
  have htext := congrArg (fun s : String => s.toList.getLast?) heq
  have hc : c = '.' := by simpa [hcs, List.getLast?_cons] using htext
  exact h.dot (by simp [hcs, hc])

/-- What is left of a name without its extension is part of it. -/
theorem exists_eq_cutName_append (name : String) : ∃ rest, name = (cutName name).1 ++ rest := by
  obtain ⟨stem, extension, hcut⟩ : ∃ stem extension, cutName name = (stem, extension) := ⟨_, _, rfl⟩
  cases extension with
  | none => exact ⟨"", by rw [hcut, cutName_eq_none hcut, String.append_empty]⟩
  | some extension =>
    exact ⟨"." ++ extension, by rw [hcut, ← String.append_assoc]; exact (cutName_eq_some hcut).1⟩

namespace EndsIn

theorem extension?_eq (h : EndsIn path front last tail) (hup : last ≠ "..") :
    extension? path = (cutName last).2 := by
  rw [extension?, h.fileName?_eq hup, Option.bind_some]

/-- Another extension makes another last name and leaves what is before it. -/
theorem withExtension_endsIn (h : EndsIn path front last tail) (hup : last ≠ "..")
    (hextension : IsExtension extension) :
    EndsIn (withExtension path extension) front ((cutName last).1 ++ "." ++ extension) "" := by
  refine ⟨?_, h.front, hextension.leads_append _, ?_, .nil⟩
  · rw [h.withExtension_eq hup, String.append_empty, String.append_assoc, String.append_assoc,
      String.append_assoc]
  · obtain ⟨rest, hlast⟩ := exists_eq_cutName_append last
    have hslash := h.slash
    rw [hlast, String.toList_append, List.mem_append] at hslash
    have hstem : '/' ∉ (cutName last).1.toList := fun hmem => hslash (.inl hmem)
    simp [hstem, hextension.slash]

end EndsIn

end Uiml.Path
