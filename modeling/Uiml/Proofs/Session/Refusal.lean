import Uiml.Proofs.Build.Breakdown

/-!
# Documents that are refused

A document is read before anything is built: a file is read, its text is parsed, and the tag of the
root is looked at. So a document that is refused has had no effect but the clearing, if there is one
before each load, and a file that cannot be read has had none at all.

## Main definitions

* `Session.Source`, `Session.loadFrom` — the three ways to give a document, and loading it
* `Session.Source.document` — the document that is given, or why there is none
* `Session.refusal?` — why a document is refused

## Main results

* `Session.loadFrom_value` — the outcome of a load, from the document that is given
* `Session.loadFrom_error_iff` — which loads are refused, and what they leave
-/

namespace Uiml

/-- Whether a document is not loaded because its file cannot be read. -/
def LoadError.isUnreadable : LoadError → Bool
  | .unreadable _ _ => true
  | _ => false

namespace Session

/-- The ways to give a document. -/
inductive Source where
  | tree (root : Element)
  | text (source : String)
  | file (path : String)

/-- Loads a document, in whichever way it is given. -/
def loadFrom (s : Session) : Source → Building (Except LoadError CompileStats × Session)
  | .tree root => s.loadDocument root
  | .text source => s.load source
  | .file path => s.loadFile path

/-- The document that a text is. -/
def parsed (source : String) : Except LoadError Element :=
  (Markup.parse source).mapError LoadError.markup

/-- The document that is given, or why there is none. -/
def Source.document (files : Files) : Source → Except LoadError Element
  | .tree root => .ok root
  | .text source => parsed source
  | .file path => ((files.readText path).mapError (LoadError.unreadable path)).bind parsed

/-- Why a document is refused: there is none, or its root has the wrong tag. -/
def refusal? (s : Session) (source : Source) : Option LoadError :=
  match source.document s.slots.assets.files with
  | .error e => some e
  | .ok root =>
    if Text.sameLetters root.tag s.config.rootTag then none
    else some (.rootTag s.config.rootTag root.tag)

/-- What a refused document leaves of a session: it has been cleared if the settings say so, unless
there was no text to be parsed. -/
def afterRefusal (s : Session) (e : LoadError) : Session :=
  if s.config.clearOnLoad = true ∧ e.isUnreadable = false then s.clear.value else s

variable {s s' : Session}

theorem clearForLoad_value (s : Session) :
    s.clearForLoad.value = if s.config.clearOnLoad = true then s.clear.value else s := by
  rw [clearForLoad]
  split <;> rfl

theorem afterRefusal_of_isUnreadable {e : LoadError} (h : e.isUnreadable = true) :
    s.afterRefusal e = s := by
  rw [afterRefusal, h, if_neg]
  exact fun hboth => Bool.false_ne_true hboth.2.symm

theorem afterRefusal_of_not_isUnreadable {e : LoadError} (h : e.isUnreadable = false) :
    s.afterRefusal e = s.clearForLoad.value := by
  rw [afterRefusal, clearForLoad_value, h]
  simp only [and_true]

/-- A load is settled by the document that is given. -/
theorem loadFrom_value (s : Session) (source : Source) :
    (s.loadFrom source).run.value =
      match source.document s.slots.assets.files with
      | .error e => .ok (.error e, s.afterRefusal e)
      | .ok root => (s.clearForLoad.value.compile root).run.value := by
  have htext (text : String) : (s.load text).run.value =
      match parsed text with
      | .error e => .ok (.error e, s.afterRefusal e)
      | .ok root => (s.clearForLoad.value.compile root).run.value := by
    rw [load_value, parsed]
    cases Markup.parse text with
    | error e =>
      have hleft : s.afterRefusal (.markup e) = s.clearForLoad.value :=
        afterRefusal_of_not_isUnreadable rfl
      change _ = Except.ok (Except.error _, s.afterRefusal (.markup e))
      rw [hleft]
    | ok root => rfl
  cases source with
  | tree root => exact loadDocument_value s root
  | text text => exact htext text
  | file path =>
    have hfile := loadFile_value s path
    rw [Source.document]
    cases hread : s.slots.assets.files.readText path with
    | error fault =>
      -- nothing is cleared when there is nothing to parse
      have hleft : s.afterRefusal (.unreadable path fault) = s := afterRefusal_of_isUnreadable rfl
      rw [hread] at hfile
      change _ = Except.ok (Except.error _, s.afterRefusal (.unreadable path fault))
      rw [hleft]
      exact hfile
    | ok text =>
      rw [hread] at hfile
      exact hfile.trans (htext text)

/-- A document is refused exactly if there is none or its root has the wrong tag. It leaves the
session as it was if nothing is cleared before a load, or if its file could not be read, and
otherwise as the clearing leaves it. -/
theorem loadFrom_error_iff (s s' : Session) (source : Source) (e : LoadError) :
    (s.loadFrom source).run.value = .ok (.error e, s') ↔
      s.refusal? source = some e ∧ s' = s.afterRefusal e := by
  have hrefused (e' : LoadError) : (Except.ok (Except.error e', s.afterRefusal e') :
      Except Breakdown (Except LoadError CompileStats × Session)) = .ok (.error e, s') ↔
        some e' = some e ∧ s' = s.afterRefusal e := by
    constructor
    · intro h
      obtain ⟨he, rfl⟩ := Prod.mk.inj (Except.ok.inj h)
      obtain rfl := Except.error.inj he
      exact ⟨rfl, rfl⟩
    · rintro ⟨he, rfl⟩
      obtain rfl := Option.some.inj he
      rfl
  rw [loadFrom_value, refusal?]
  cases source.document s.slots.assets.files with
  | error e' => exact hrefused e'
  | ok root =>
    simp only
    rw [compile_value, config_clearForLoad]
    by_cases htag : Text.sameLetters root.tag s.config.rootTag = true
    · -- a document with the right root is compiled, and that ends with counts or breaks down
      rw [if_pos htag, if_pos htag]
      constructor
      · intro h
        cases hbench : (s.clearForLoad.value.workbench.compile s.config.theme root
          Scene.root).run.value with
        | error breakdown => rw [hbench] at h; cases h
        | ok bench => rw [hbench] at h; cases h
      · rintro ⟨he, -⟩
        cases he
    · have hleft : s.afterRefusal (.rootTag s.config.rootTag root.tag) = s.clearForLoad.value :=
        afterRefusal_of_not_isUnreadable rfl
      rw [if_neg htag, if_neg htag, ← hleft]
      exact hrefused (.rootTag s.config.rootTag root.tag)

end Session

end Uiml
