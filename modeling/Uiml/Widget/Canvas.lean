import Uiml.Widget.Handle

/-!
# Canvases

A canvas is a scene together with the widgets whose nodes are in it. The operations on a widget
change its state and what its nodes show in one go, and do nothing for an id that no widget has.
-/

namespace Uiml

/-- A scene and the widgets built into it, each at the index that is its id. -/
structure Canvas where
  scene : Scene
  widgets : Array Handle
  deriving DecidableEq, Inhabited

namespace Canvas

/-- The widget of an id. -/
def widget? (canvas : Canvas) (id : WidgetId) : Option Handle := canvas.widgets[id.index]?

/-- Adds a widget. -/
def addWidget (canvas : Canvas) (h : Handle) : WidgetId × Canvas :=
  (⟨canvas.widgets.size⟩, { canvas with widgets := canvas.widgets.push h })

/-- The canvas with the state of a widget changed, but not what its nodes show. -/
def modifyWidget (canvas : Canvas) (id : WidgetId) (f : Handle → Handle) : Canvas :=
  { canvas with widgets := canvas.widgets.modify id.index f }

/-- The canvas with a widget and its scene changed together. -/
def update (canvas : Canvas) (id : WidgetId) (f : Handle → Handle)
    (g : Handle → Scene → Scene) : Canvas :=
  match canvas.widget? id with
  | none => canvas
  | some h => { (canvas.modifyWidget id f) with scene := g h canvas.scene }

/-- Moves a widget. -/
def setPosition (canvas : Canvas) (id : WidgetId) (position : Vec2) : Canvas :=
  canvas.update id (fun h => { h with transform := { h.transform with position } })
    fun h scene => scene.setPosition h.node position

/-- Scales a widget. -/
def setScale (canvas : Canvas) (id : WidgetId) (scale : Vec3) : Canvas :=
  canvas.update id (fun h => { h with transform := { h.transform with scale } })
    fun h scene => scene.setScale h.node scale

/-- Makes a widget more or less opaque. -/
def setAlpha (canvas : Canvas) (id : WidgetId) (alpha : Float32) : Canvas :=
  canvas.update id (fun h => { h with alpha }) fun h scene => scene.setAlpha h.node alpha

/-- Lets a widget react, or not. -/
def setInteractable (canvas : Canvas) (id : WidgetId) (interactable : Bool) : Canvas :=
  canvas.update id (fun h => { h with interactable })
    fun h scene => scene.setInteractable h.node interactable

/-- Turns a switch on or off, and shows or hides its checkmark; `false` for any other widget. -/
def setToggle (canvas : Canvas) (id : WidgetId) (isOn : Bool) : Bool × Canvas :=
  match (canvas.widget? id).map Handle.parts with
  | some (.toggle checkmark _ group) =>
    (true, canvas.update id (fun h => { h with parts := .toggle checkmark isOn group })
      fun h scene => ((scene.setAlpha checkmark (if isOn then 1 else 0)).setToggle h.node isOn).2)
  | _ => (false, canvas)

/-- Gives a progress bar a value, which is taken into its range, and moves its fill; `false` for any
other widget. -/
def setProgress (canvas : Canvas) (id : WidgetId) (value : Float32) : Bool × Canvas :=
  match (canvas.widget? id).map Handle.parts with
  | some (.progressBar bar) =>
    let bar := bar.withValue value
    (true, canvas.update id (fun h => { h with parts := .progressBar bar })
      fun h scene =>
        ((scene.setAnchors bar.fill bar.anchors.1 bar.anchors.2).setSliderValue h.node bar.value).2)
  | _ => (false, canvas)

/-- Shows a text on a widget; `false` if it has nowhere to show it. -/
def showText (canvas : Canvas) (id : WidgetId) (text : String) : Bool × Canvas :=
  match (canvas.widget? id).bind Handle.textSurface with
  | some surface =>
    (true, canvas.update id (fun h => { h with text := some text })
      fun _ scene => (scene.setText surface text).2)
  | none => (false, canvas)

/-- Shows a picture on a widget; `false` if it has nowhere to show it. -/
def showImage (canvas : Canvas) (id : WidgetId) (image : Picture) : Bool × Canvas :=
  match (canvas.widget? id).bind Handle.imageSurface with
  | some surface =>
    (true, canvas.update id (fun h => { h with image := some image })
      fun _ scene => (scene.setImage surface image).2)
  | none => (false, canvas)

end Canvas

end Uiml
