import Uiml.Markup.Document
import Uiml.Session.Basic

/-!
# Loading documents

A document is loaded from its text, from a file, or as a tree of elements. What is there already is
cleared first if the settings say so; contents of slots stay.

## Main definitions

* `Session.clear` — takes away all widgets
* `Session.load`, `Session.loadFile`, `Session.loadDocument` — load a document
-/

namespace Uiml

/-- Why a document cannot be loaded. -/
inductive LoadError where
  | unreadable (path : String) (fault : ReadFault)
  | markup (error : Markup.Error)
  | rootTag (expected found : String)
  deriving DecidableEq, Repr

/-- The wording of a failure. -/
def LoadError.message : LoadError → String
  | .unreadable path fault => s!"failed to read {path}: {fault.message}"
  | .markup error => error.message
  | .rootTag expected found => s!"root element must be <{expected}>, found <{found}>"

namespace Session

/-- Takes away all widgets, ends all animations and empties the scene. -/
def clear (s : Session) : Logged Session := do
  let ((slots, canvas), registry) := s.registry.clearAll (s.slots, s.stage.canvas)
    fun (state : Slots × Canvas) id => (state.1.unbind state.2 id).2
  Logged.say .debug .session s!"cleared canvas ({canvas.widgets.size} handle(s))"
  return { s with
    stage := ⟨⟨canvas.scene.destroy Scene.root, #[]⟩, s.stage.animator.clear⟩
    registry
    slots := slots.clearBindings
    loaded := false }

/-- Clears what is there if the settings say that a load does so. -/
def clearForLoad (s : Session) : Logged Session :=
  if s.config.clearOnLoad then s.clear else pure s

/-- Says why a document cannot be loaded. -/
def refuse (s : Session) (e : LoadError) : Building (Except LoadError CompileStats × Session) := do
  Logged.say .error .session e.message
  return (.error e, s)

/-- What is built on when a document is compiled. -/
def workbench (s : Session) : Workbench :=
  { canvas := s.stage.canvas, resolver := s.resolver, registry := s.registry, slots := s.slots }

/-- The session after a document has been compiled. -/
def withWorkbench (s : Session) (bench : Workbench) : Session :=
  { s.withCanvas bench.canvas with
    resolver := bench.resolver, registry := bench.registry, slots := bench.slots }

/-- Builds a document, of which the root must have the tag that the settings ask for. -/
def compile (s : Session) (root : Element) :
    Building (Except LoadError CompileStats × Session) := do
  if !Text.sameLetters root.tag s.config.rootTag then
    s.refuse (.rootTag s.config.rootTag root.tag)
  else
    let bench ← s.workbench.compile s.config.theme root Scene.root
    let stats := bench.stats
    Logged.say .info .session
      (s!"compiled {stats.created} element(s) ({stats.unnamed} unnamed, " ++
        s!"{stats.unknown} unknown, {stats.failed} failed)")
    return (.ok stats, { s.withWorkbench bench with loaded := true })

/-- Loads a document given as its elements. -/
def loadDocument (s : Session) (root : Element) :
    Building (Except LoadError CompileStats × Session) := do
  let s ← s.clearForLoad
  s.compile root

/-- Loads a document from its text. -/
def load (s : Session) (source : String) :
    Building (Except LoadError CompileStats × Session) := do
  let s ← s.clearForLoad
  match Markup.parse source with
  | .error e => s.refuse (.markup e)
  | .ok root => s.compile root

/-- Loads a document from a file. If the file cannot be read, nothing is cleared either. -/
def loadFile (s : Session) (path : String) :
    Building (Except LoadError CompileStats × Session) := do
  match s.slots.assets.files.readText path with
  | .error fault => s.refuse (.unreadable path fault)
  | .ok source =>
    Logged.say .info .session s!"loading {path}"
    s.load source

end Session

end Uiml
