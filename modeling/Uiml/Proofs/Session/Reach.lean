import Uiml.Proofs.Build.Visit
import Uiml.Proofs.Outcome
import Uiml.Session.Load
import Uiml.Session.Operations

/-!
# Reachable sessions

A session is reached from a new one by operations in any order and number, as long as none of them
breaks down. Outcomes of requests for pictures may be anything and arrive in any order; fetching
from the assets at hand is one way to come by an outcome. Loading a text, a file or a tree of
elements ends in one of four ways: the file cannot be read and nothing has happened, the document is
refused after the clearing, it has been compiled, or compiling broke down.

## Main definitions

* `Session.Operation`, `Session.after` — what can be done to a session, and what it leaves
* `Session.Reachable` — the sessions that operations lead to
* `Session.Loading` — what a load that does not break down leaves of a session
* `Session.Compiling` — the same once the session has been cleared, if it is cleared at all

## Main results

* `Session.load_value`, `Session.compile_value` — the outcome of a load, case by case
* `Session.load_loading`, `Session.loadFile_loading`, `Session.loadDocument_loading`
-/

namespace Uiml

/-- An outcome arrives for a request that is on its way; it is applied later. -/
def Slots.arrive (board : Slots) (number : Nat) (result : Except FetchError Picture) : Slots :=
  match board.held.find? fun request => request.number = number with
  | none => board
  | some request =>
    { board with
      held := board.held.filter fun r => r.number ≠ number
      arrived := board.arrived ++ [⟨request, result⟩] }

namespace Session

/-- What can be done to a session. -/
inductive Operation where
  | load (source : String)
  | loadFile (path : String)
  | loadDocument (root : Element)
  | clear
  | execute (element command : String) (args : List String)
  | schedule (delay : Float32) (element command : String) (args : List String)
  | setProgress (element : String) (value : Float32) (animate : Bool)
  | tick (dt : Float32)
  | listen (listening : Bool)
  | invoke (element event : String) (args : List String)
  | takeEvents
  | setText (slot : Nat) (text : String)
  | request (slot : Nat) (source : String) (kind : SourceKind)
  | finish (number : Nat)
  | arrive (number : Nat) (result : Except FetchError Picture)
  | wait (timeout : Span)
  | changeBinding (element : String) (slot : Nat)
  | moveBinding (source target place : Nat)
  | unbind (element : String)
  | addBundle (name : String) (bytes : List UInt8)
  | removeBundle (name : String)
  | setStrict (strict : Bool)
  | clearCaches

/-- The session after an operation, or why the operation broke down. -/
def after (s : Session) : Operation → Except Breakdown Session
  | .load source => (s.load source).run.value.map Prod.snd
  | .loadFile path => (s.loadFile path).run.value.map Prod.snd
  | .loadDocument root => (s.loadDocument root).run.value.map Prod.snd
  | .clear => .ok s.clear.value
  | .execute element command args => .ok (s.execute element command args).value.2
  | .schedule delay element command args => .ok (s.schedule delay element command args)
  | .setProgress element value animate => .ok (s.setProgress element value animate).value.2
  | .tick dt => .ok (s.tick dt).value
  | .listen listening => .ok (s.listen listening)
  | .invoke element event args => .ok (s.invoke element event args).value.2
  | .takeEvents => .ok s.takeEvents.2
  | .setText slot text => .ok (s.setText slot text).value.2
  | .request slot source kind => .ok (s.request slot source kind).value.2
  | .finish number => .ok (s.finish number).2
  | .arrive number result => .ok { s with slots := s.slots.arrive number result }
  | .wait timeout => .ok (s.wait timeout).value.2
  | .changeBinding element slot => .ok (s.changeBinding element slot).value.2
  | .moveBinding source target place => .ok (s.moveBinding source target place).value.2
  | .unbind element => .ok (s.unbind element).2
  | .addBundle name bytes => .ok { s with slots := s.slots.addBundle name bytes }
  | .removeBundle name => .ok { s with slots := (s.slots.removeBundle name).2 }
  | .setStrict strict => .ok { s with resolver := { s.resolver with strict } }
  | .clearCaches => .ok { s with resolver := s.resolver.clearCaches }

/-- The sessions that operations lead to from a new one. -/
inductive Reachable : Session → Prop
  | new (config : Config) (files : Files) (bundles : Table String (List UInt8)) :
      Reachable (.new config files bundles)
  | after {s s' : Session} {op : Operation} :
      Reachable s → s.after op = .ok s' → Reachable s'

/-! ### Loads -/

variable {s s' : Session} {result : Except LoadError CompileStats × Session}

/-- The session after a document has been compiled into it. -/
def compiled (s : Session) (bench : Workbench) : Session :=
  { s.withWorkbench bench with loaded := true }

/-- What compiling a document leaves of a session, or refusing it. -/
inductive Compiling (s : Session) : Session → Prop
  | refused : Compiling s s
  | compiled (root : Element) (bench : Workbench)
      (hbench : (s.workbench.compile s.config.theme root Scene.root).run.value = .ok bench) :
      Compiling s (s.compiled bench)

/-- What a load leaves of a session. -/
inductive Loading (s : Session) : Session → Prop
  | unread : Loading s s
  | refused : Loading s s.clearForLoad.value
  | compiled (root : Element) (bench : Workbench)
      (hbench : (s.clearForLoad.value.workbench.compile s.clearForLoad.value.config.theme root
        Scene.root).run.value = .ok bench) :
      Loading s (s.clearForLoad.value.compiled bench)

/-- A document of which the root has the wrong tag is refused, any other is compiled. -/
theorem compile_value (s : Session) (root : Element) :
    (s.compile root).run.value =
      if Text.sameLetters root.tag s.config.rootTag then
        (s.workbench.compile s.config.theme root Scene.root).run.value.map fun bench =>
          (.ok bench.stats, s.compiled bench)
      else .ok (.error (.rootTag s.config.rootTag root.tag), s) := by
  rw [compile]
  cases Text.sameLetters root.tag s.config.rootTag with
  | false => rfl
  | true =>
    simp only [Bool.not_true, Bool.false_eq_true, if_false, if_true, Building.bind_value]
    cases (s.workbench.compile s.config.theme root Scene.root).run.value <;> rfl

theorem loadDocument_value (s : Session) (root : Element) :
    (s.loadDocument root).run.value = (s.clearForLoad.value.compile root).run.value := by
  rw [loadDocument, Building.bind_value]
  rfl

/-- A text that is no document is refused, any other is compiled. -/
theorem load_value (s : Session) (source : String) :
    (s.load source).run.value =
      match Markup.parse source with
      | .error e => .ok (.error (.markup e), s.clearForLoad.value)
      | .ok root => (s.clearForLoad.value.compile root).run.value := by
  rw [load, Building.bind_value, Building.lift_value]
  cases Markup.parse source <;> rfl

theorem loadFile_value (s : Session) (path : String) :
    (s.loadFile path).run.value =
      match s.slots.assets.files.readText path with
      | .error fault => .ok (.error (.unreadable path fault), s)
      | .ok source => (s.load source).run.value := by
  rw [loadFile]
  cases s.slots.assets.files.readText path with
  | error fault => rfl
  | ok source =>
    simp only [Building.bind_value, Building.lift_value]
    rfl

theorem compile_compiling {root : Element} (h : (s.compile root).run.value = .ok result) :
    Compiling s result.2 := by
  rw [compile_value] at h
  split at h
  · cases hbench : (s.workbench.compile s.config.theme root Scene.root).run.value with
    | error breakdown => rw [hbench] at h; cases h
    | ok bench =>
      rw [hbench] at h
      cases h
      exact .compiled root bench hbench
  · cases h
    exact .refused

theorem loadDocument_compiling {root : Element}
    (h : (s.loadDocument root).run.value = .ok result) :
    Compiling s.clearForLoad.value result.2 :=
  compile_compiling ((loadDocument_value s root).symm.trans h)

theorem load_compiling {source : String} (h : (s.load source).run.value = .ok result) :
    Compiling s.clearForLoad.value result.2 := by
  rw [load_value] at h
  cases hparse : Markup.parse source with
  | error e => rw [hparse] at h; cases h; exact .refused
  | ok root => rw [hparse] at h; exact compile_compiling h

theorem Compiling.loading (h : Compiling s.clearForLoad.value s') : Loading s s' := by
  cases h with
  | refused => exact .refused
  | compiled root bench hbench => exact .compiled root bench hbench

theorem loadDocument_loading {root : Element}
    (h : (s.loadDocument root).run.value = .ok result) : Loading s result.2 :=
  (loadDocument_compiling h).loading

theorem load_loading {source : String} (h : (s.load source).run.value = .ok result) :
    Loading s result.2 := (load_compiling h).loading

theorem loadFile_loading {path : String} (h : (s.loadFile path).run.value = .ok result) :
    Loading s result.2 := by
  rw [loadFile_value] at h
  cases hread : s.slots.assets.files.readText path with
  | error fault => rw [hread] at h; cases h; exact .unread
  | ok source => rw [hread] at h; exact load_loading h

/-- Each of the three ways to load a document is a `Session.Loading`. -/
theorem loading_of_map {outcome : Except Breakdown (Except LoadError CompileStats × Session)}
    (hloading : ∀ {result}, outcome = .ok result → Loading s result.2)
    (h : outcome.map Prod.snd = .ok s') : Loading s s' := by
  obtain ⟨result, houtcome, rfl⟩ := exists_of_map h
  exact hloading houtcome

end Session

end Uiml
