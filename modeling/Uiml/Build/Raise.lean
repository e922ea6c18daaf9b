import Uiml.Build.Blueprint
import Uiml.Scene.Basic

/-!
# Raising widgets

A blueprint is turned into nodes: the node of the widget gets its components, and the parts of the
widget get nodes of their own below it. What the blueprint adds to the state of the widget refers to
those nodes.

## Main definitions

* `Raised` — a scene, and what a blueprint adds to the state of a widget
* `Blueprint.raise` — the nodes of a blueprint
-/

namespace Uiml

/-- A scene with the nodes of a widget, and what its blueprint adds to its state. -/
structure Raised where
  scene : Scene
  parts : Handle.Parts := .plain
  /-- The node that shows the widget's text, and the text. -/
  text : Option (NodeId × String) := none
  imageSurface : Option NodeId := none
  deriving Inhabited

/-- The group that a switch belongs to: the widget and its node. -/
structure GroupRef where
  widget : WidgetId
  node : NodeId
  deriving DecidableEq, Repr, Inhabited

/-- Makes a node that fills its parent. -/
def Scene.createStretched (scene : Scene) (parent : NodeId) (name : String) : NodeId × Scene :=
  let (id, scene) := scene.create parent name
  (id, scene.stretch id)

/-- Adds components to a node. -/
def Scene.attachAll (scene : Scene) (id : NodeId) (components : List Component) : Scene :=
  components.foldl (fun scene component => scene.attach id component) scene

namespace Blueprint

variable (scene : Scene) (node : NodeId)

/-- The tints of a button of a colour. -/
def tintsOf (background : Color) : TintBlock :=
  { normal := background
    highlighted := background.lerp .white 0.2
    pressed := background.lerp .black 0.2
    disabled := background.lerp .gray 0.5 }

def raiseButton (background : Color) (label : Option TextStyle) : Raised :=
  let scene := scene.attachAll node [.fill background, .buttonTint (tintsOf background)]
  match label with
  | none => { scene, parts := .button none }
  | some style =>
    let (label, scene) := scene.createStretched node "Text"
    { scene := scene.attach label (.text style)
      parts := .button (some label)
      text := some (label, style.text) }

/-- The place of the content of a scrollable container: anchors, pivot and size. It has the size of
its container along the axis in which nothing scrolls. -/
def contentPlace (horizontal vertical : Bool) : Vec2 × Vec2 × Vec2 × Vec2 :=
  match horizontal, vertical with
  | false, true => (⟨0, 1⟩, .one, ⟨0.5, 1⟩, ⟨0, 300⟩)
  | true, false => (.zero, ⟨0, 1⟩, ⟨0, 0.5⟩, ⟨300, 0⟩)
  | _, _ => (⟨0, 1⟩, ⟨0, 1⟩, ⟨0, 1⟩, ⟨300, 300⟩)

/-- The layout of the content of a container that scrolls along one axis. -/
def contentLayout (vertical : Bool) : LinearLayout :=
  { axis := if vertical then .vertical else .horizontal
    spacing := 5
    childAlignment := .upperLeft
    reverse := false
    controlChildWidth := vertical
    controlChildHeight := !vertical
    forceExpandWidth := vertical
    forceExpandHeight := !vertical
    padding := {} }

/-- How content fits along an axis: it has the size that it asks for if it scrolls there. -/
def fit (scrolls : Bool) : FitMode := if scrolls then .preferred else .unconstrained

def raiseScrollArea (plan : ScrollPlan) : Raised :=
  let scene := scene.attach node (.fill plan.background)
  let (viewport, scene) := scene.createStretched node "Viewport"
  let (content, scene) := (scene.attach viewport .mask).create viewport "Content"
  let (anchorMin, anchorMax, pivot, size) := contentPlace plan.horizontal plan.vertical
  let scene :=
    (((scene.setAnchors content anchorMin anchorMax).setPivot content pivot).setSize content
      size).setPosition content .zero
  let layout :=
    if plan.horizontal != plan.vertical then [Component.layout (contentLayout plan.vertical)]
    else []
  let scene :=
    scene.attachAll content (.sizeFitter (fit plan.horizontal) (fit plan.vertical) :: layout)
  { scene := scene.attach node
      (.scroll
        { horizontal := plan.horizontal, vertical := plan.vertical, elasticity := plan.elasticity
          inertia := plan.inertia, deceleration := plan.deceleration, viewport, content })
    parts := .scrollArea viewport content }

def raiseProgressBar (plan : BarPlan) : Raised :=
  let (background, scene) := scene.createStretched node "Background"
  let scene := scene.attach background (.fill plan.background)
  let (area, scene) := scene.createStretched node "Fill Area"
  let (fill, scene) := scene.create area "Fill"
  let bar : ProgressBar :=
    { fill, min := plan.min, max := plan.max, value := plan.value, direction := plan.direction }
  let scene :=
    ((scene.setAnchors fill bar.anchors.1 bar.anchors.2).setSize fill .zero).setPosition fill .zero
  let scene := scene.attach fill (.fill plan.fill)
  { scene := scene.attach node
      (.slider
        { min := plan.min, max := plan.max, value := plan.value, direction := plan.direction
          fill })
    parts := .progressBar bar }

def raiseToggle (box checkmark : Color) (isOn : Bool) (group : Option GroupRef) : Raised :=
  let (background, scene) := scene.create node "Background"
  let scene :=
    ((scene.setAnchors background ⟨0, 0.5⟩ ⟨0, 0.5⟩).setPosition background ⟨10, 0⟩).setSize
      background ⟨20, 20⟩
  let (mark, scene) := (scene.attach background (.fill box)).createStretched background "Checkmark"
  let scene := (scene.attach mark (.fill checkmark)).setAlpha mark (if isOn then 1 else 0)
  { scene := scene.attach node (.toggle { isOn, checkmark := mark, group := group.map (·.node) })
    parts := .toggle mark isOn (group.map (·.widget)) }

def raiseInputField (plan : InputPlan) : Raised :=
  let scene := scene.attach node (.fill plan.background)
  let (area, scene) := scene.createStretched node "Text Area"
  let scene := (scene.setSize area ⟨-20, -10⟩).attach area .mask
  let (textNode, scene) := scene.createStretched area "Text"
  let scene := scene.attach textNode (.text plan.style)
  { scene := scene.attach node
      (.inputField
        { characterLimit := plan.characterLimit, contentType := plan.contentType, textNode })
    parts := .inputField textNode
    text := some (textNode, plan.style.text) }

def raiseDropdown (plan : DropdownPlan) : Raised :=
  let scene := scene.attach node (.fill plan.background)
  let (label, scene) := scene.createStretched node "Label"
  let scene := (scene.setSize label ⟨-35, -4⟩).setPosition label ⟨-7.5, 0⟩
  let scene := scene.attach label (.text plan.style)
  { scene := scene.attach node
      (.dropdown { options := plan.options, value := plan.value, label })
    parts := .dropdown label plan.options plan.value
    text := some (label, plan.style.text) }

/-- The fitter of a container that takes the size of its children. -/
def autoFitter (autoSize : Bool) : List Component :=
  if autoSize then [.sizeFitter .preferred .preferred] else []

/-- The nodes of a blueprint, the node of the widget being there already. -/
def raise (group : Option GroupRef) : Blueprint → Raised
  | .surface spec => { scene := scene.attach node (.canvas spec) }
  | .panel background => { scene := scene.attach node (.fill background) }
  | .text style =>
    { scene := scene.attach node (.text style), text := some (node, style.text) }
  | .button background label => raiseButton scene node background label
  | .image tint => { scene := scene.attach node (.image tint), imageSurface := some node }
  | .scrollArea plan => raiseScrollArea scene node plan
  | .progressBar plan => raiseProgressBar scene node plan
  | .toggleGroup allowSwitchOff => { scene := scene.attach node (.toggleGroup allowSwitchOff) }
  | .toggle box checkmark isOn _ => raiseToggle scene node box checkmark isOn group
  | .inputField plan => raiseInputField scene node plan
  | .dropdown plan => raiseDropdown scene node plan
  | .layout spec autoSize =>
    { scene := scene.attachAll node (.layout spec :: autoFitter autoSize) }
  | .grid spec autoSize => { scene := scene.attachAll node (.grid spec :: autoFitter autoSize) }

/-- The name of the group that a switch says it belongs to. -/
def group? : Blueprint → Option String
  | .toggle _ _ _ group => group
  | _ => none

end Blueprint

/-- The state of a widget from all that is known of it. -/
def Handle.assemble (name : String) (kind : Element.Kind) (node : NodeId) (outfit : Outfit)
    (raised : Raised) : Handle :=
  Handle.withHome
    { name, kind, node
      transform := outfit.transform
      alpha := outfit.alpha
      interactable := outfit.interactable
      handlers := outfit.handlers
      parts := raised.parts
      textSurface := raised.text.map Prod.fst
      text := raised.text.map Prod.snd
      imageSurface := raised.imageSurface }

end Uiml
