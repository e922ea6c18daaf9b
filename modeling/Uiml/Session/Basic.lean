import Uiml.Build.Compile
import Uiml.Command.Event
import Uiml.Command.Execute
import Uiml.Slot.Content

/-!
# Sessions

A session is one live display: a stage, the names of its widgets, the slots that they are bound to,
and the settings by which documents are loaded into it. This module holds the type, and how widgets
are found.

## Main definitions

* `Session`, `Session.new` — the state of a display
* `Session.element?`, `Session.elementOf?` — the widget of a name
-/

namespace Uiml

/-- The state of a display. -/
structure Session where
  config : Config
  resolver : Resolver
  stage : Stage
  registry : Registry := {}
  slots : Slots
  /-- Whether the application takes the calls of events. -/
  listening : Bool := false
  /-- The calls that the application has been handed and has not taken yet. -/
  events : List Invocation := []
  /-- Whether a document has been loaded since the last clearing. -/
  loaded : Bool := false
  deriving Inhabited

namespace Session

/-- A display without widgets. -/
def new (config : Config) (files : Files) (bundles : Table String (List UInt8)) : Session :=
  { config
    resolver := .new config.strictAttributes
    stage := ⟨⟨.new, #[]⟩, {}⟩
    slots := .new config.slotCount (.ofConfig config files bundles) }

/-- The scene that is shown. -/
def scene (s : Session) : Scene := s.stage.canvas.scene

/-- The session with another scene. -/
def withScene (s : Session) (scene : Scene) : Session :=
  { s with stage := { s.stage with canvas := { s.stage.canvas with scene } } }

/-- The session with another canvas. -/
def withCanvas (s : Session) (canvas : Canvas) : Session :=
  { s with stage := { s.stage with canvas } }

/-- The widget of a name. -/
def element? (s : Session) (name : String) : Option Handle :=
  (s.registry.get? name).bind s.stage.widget?

/-- The widget of a name among those of a kind. -/
def elementOf? (s : Session) (kind : Element.Kind) (name : String) : Option Handle :=
  (s.registry.getKind? kind name).bind s.stage.widget?

end Session

end Uiml
