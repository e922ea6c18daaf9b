import Uiml.Build.Raise
import Uiml.Registry
import Uiml.Slot.Binding

/-!
# Compiling documents

The elements below the root of a document are visited in order, parents first, and a widget is built
for each. An element without a name is passed over with all below it, and so is one that cannot be
built; the children of an element of unknown tag go where it would have gone.

## Main definitions

* `CompileStats`, `Workbench` — what has been counted and built so far
* `Workbench.visit` — builds one element, and tells where its children go
* `Workbench.compile` — builds a whole document
-/

namespace Uiml

/-- What became of the elements that were visited. -/
structure CompileStats where
  created : Nat := 0
  /-- Elements passed over, with all below them, because they have no name. -/
  unnamed : Nat := 0
  /-- Elements of which the tag is not known; their children were visited. -/
  unknown : Nat := 0
  /-- Elements passed over, with all below them, because they cannot be built. -/
  failed : Nat := 0
  deriving DecidableEq, Repr, Inhabited

/-- What documents are compiled into. -/
structure Workbench where
  canvas : Canvas
  resolver : Resolver
  registry : Registry
  slots : Slots
  stats : CompileStats := {}
  deriving Inhabited

/-- A computation that says what it does and may break down. -/
abbrev Building (α : Type) := ExceptT Breakdown Logged α

namespace Workbench

/-- Counts an element. -/
def count (bench : Workbench) (f : CompileStats → CompileStats) : Workbench :=
  { bench with stats := f bench.stats }

/-- Finds the group that a switch says it belongs to; one that is not there yet is warned about. -/
def findGroup (bench : Workbench) (name : String) : Option String → Logged (Option GroupRef)
  | none => pure none
  | some group =>
    match bench.registry.getKind? .toggleGroup group with
    | none => do
      Logged.say .warn .compiler
        s!"toggle '{name}': no toggle group named '{group}' (groups must come first)"
      pure none
    | some id => pure ((bench.canvas.widget? id).map fun h => ⟨id, h.node⟩)

/-- Gives the name of a new widget to it. -/
def register (bench : Workbench) (name : String) (kind : Element.Kind) (id : WidgetId) :
    Logged Workbench := do
  let (displaced, registry) := bench.registry.insert name kind id
  match displaced with
  | none => return { bench with registry }
  | some previous =>
    Logged.say .debug .compiler
      s!"'{name}' now refers to {kind.name} {id.describe} (was {previous.describe})"
    return { bench with registry }

/-- Binds a new widget to the slot that its element asks for, if it does. -/
def bindAsked (bench : Workbench) (e : Element) (id : WidgetId) : Logged Workbench := do
  let (asked, resolver) ← (Resolver.int e "bindId" (-1)).run bench.resolver
  let bench := { bench with resolver }
  if asked < 0 then return bench
  else
    let (_, slots, canvas) ← bench.slots.bind bench.canvas asked.toNat id
    return { bench with slots, canvas }

/-- Adds a widget, and tells where the widgets of child elements go. -/
def addWidget (bench : Workbench) (e : Element) (name : String) (kind : Element.Kind)
    (node : NodeId) (outfit : Outfit) (blueprint : Blueprint) : Logged (NodeId × Workbench) := do
  let group ← bench.findGroup name blueprint.group?
  let raised := blueprint.raise bench.canvas.scene node group
  let h := Handle.assemble name kind node outfit raised
  let scene :=
    ((raised.scene.applyTransform node h.transform).setAlpha node h.alpha).setInteractable node
      h.interactable
  let (id, canvas) := ({ bench.canvas with scene } : Canvas).addWidget h
  let bench ← ({ bench with canvas } : Workbench).register name kind id
  let bench := bench.count fun stats => { stats with created := stats.created + 1 }
  return (h.contentNode, ← bench.bindAsked e id)

/-- What messages call an element that has a name. -/
def shown (e : Element) (name : String) : String := s!"'{name}' at {e.pos.line}:{e.pos.column}"

/-- Builds an element below a node. Tells where its children go, unless they are passed over. -/
def visit (theme : Theme) (bench : Workbench) (parent : NodeId) (e : Element) :
    Building (Option NodeId × Workbench) := do
  match Resolver.nonBlank? e "name" with
  | none =>
    Logged.say .warn .compiler
      (s!"<{e.tag}> at {e.pos.line}:{e.pos.column} has no name; skipping it and its " ++
        s!"{e.size - 1} descendant(s)")
    return (none, bench.count fun stats => { stats with unnamed := stats.unnamed + 1 })
  | some name =>
    match e.kind? with
    | none =>
      Logged.say .warn .compiler
        s!"unknown element <{e.tag}> {shown e name}; compiling its children in place"
      return (some parent, bench.count fun stats => { stats with unknown := stats.unknown + 1 })
    | some kind =>
      let (outfit, resolver) ← (Outfit.read kind e).run bench.resolver
      let (blueprint, resolver) ← (Blueprint.read theme e kind).run resolver
      let (node, scene) := bench.canvas.scene.create parent name
      let bench := { bench with resolver, canvas := { bench.canvas with scene } }
      match blueprint with
      | .ok blueprint => do
        let (content, bench) ← bench.addWidget e name kind node outfit blueprint
        return (some content, bench)
      | .error (.fault fault) =>
        Logged.say .error .compiler s!"failed to build {kind.name} {shown e name}: {fault.message}"
        let bench := { bench with canvas := { bench.canvas with scene := scene.destroy node } }
        return (none, bench.count fun stats => { stats with failed := stats.failed + 1 })
      | .error (.breakdown breakdown) => throw breakdown

mutual

/-- Builds an element and all below it. -/
def compileElement (theme : Theme) (bench : Workbench) (parent : NodeId) :
    Element → Building Workbench
  | ⟨tag, attributes, children, pos⟩ => do
    let (below, bench) ← bench.visit theme parent ⟨tag, attributes, children, pos⟩
    match below with
    | none => return bench
    | some node => compileAll theme bench node children

/-- Builds elements in order. -/
def compileAll (theme : Theme) (bench : Workbench) (parent : NodeId) :
    List Element → Building Workbench
  | [] => return bench
  | e :: rest => do
    let bench ← compileElement theme bench parent e
    compileAll theme bench parent rest

end

/-- Builds all elements below the root of a document, below a node. -/
def compile (theme : Theme) (bench : Workbench) (root : Element) (parent : NodeId) :
    Building Workbench :=
  compileAll theme { bench with stats := {} } parent root.children

end Workbench

end Uiml
