import Uiml.Attribute.Resolver
import Uiml.Build.Fault
import Uiml.Config.Basic
import Uiml.Scene.Component
import Uiml.Widget.EventHandler
import Uiml.Widget.Handle

/-!
# Blueprints

All that an element's attributes say about its widget is read before any node is made. What every
kind of widget has is its outfit, and what its kind adds is its blueprint.

## Main definitions

* `Outfit`, `Outfit.read` — what all widgets have
* `Blueprint`, `Blueprint.read` — what the kinds of widgets add
-/

namespace Uiml

open Resolver

/-- What all widgets have. -/
structure Outfit where
  transform : Transform
  alpha : Float32
  interactable : Bool
  handlers : List EventHandler
  deriving Inhabited

namespace Outfit

/-- Where a widget lies: a position and a size given as vectors come before those given
otherwise. -/
def readTransform (e : Element) : Reading Transform := do
  let position ←
    if (nonBlank? e "position").isSome then vec2 e "position" .zero
    else vec2 e "anchoredPosition" .zero
  let size ←
    if (nonBlank? e "size").isSome then vec2 e "size" ⟨100, 100⟩
    else do
      let width ← float e "width" 100
      pure ⟨width, ← float e "height" 100⟩
  let anchorMin ← vec2 e "anchorMin" .half
  let anchorMax ← vec2 e "anchorMax" .half
  let pivot ← vec2 e "pivot" .half
  return { position, size, anchorMin, anchorMax, pivot, scale := ← vec3 e "scale" .one }

/-- Whether a widget reacts that does not say so: a bar does not, a panel does if it can be seen. -/
def reactsByDefault (kind : Element.Kind) (alpha : Float32) : Bool :=
  match kind with
  | .panel => 0 < alpha
  | .progressBar => false
  | _ => true

/-- Reads what all widgets have. -/
def read (kind : Element.Kind) (e : Element) : Reading Outfit := do
  let transform ← readTransform e
  let alpha ← float e "alpha" 1
  let interactable ← boolean e "interactable" (reactsByDefault kind alpha)
  return { transform, alpha, interactable, handlers := ← StateT.lift (EventHandler.ofElement e) }

end Outfit

/-- What a scrollable container is built from. -/
structure ScrollPlan where
  background : Color
  horizontal : Bool
  vertical : Bool
  elasticity : Float32
  inertia : Bool
  deceleration : Float32
  deriving Inhabited

/-- What a progress bar is built from. -/
structure BarPlan where
  min : Float32
  max : Float32
  value : Float32
  direction : SliderDirection
  background : Color
  fill : Color
  deriving Inhabited

/-- What a field to type into is built from. -/
structure InputPlan where
  background : Color
  style : TextStyle
  characterLimit : Int
  contentType : ContentType
  deriving Inhabited

/-- What a choice of options is built from. -/
structure DropdownPlan where
  background : Color
  options : List String
  value : Nat
  style : TextStyle
  deriving Inhabited

/-- What the kinds of widgets add. -/
inductive Blueprint where
  | surface (spec : CanvasSpec)
  | panel (background : Color)
  | text (style : TextStyle)
  | button (background : Color) (label : Option TextStyle)
  | image (tint : Color)
  | scrollArea (plan : ScrollPlan)
  | progressBar (plan : BarPlan)
  | toggleGroup (allowSwitchOff : Bool)
  /-- A switch, with the name of its group if it says that it has one. -/
  | toggle (box checkmark : Color) (isOn : Bool) (group : Option String)
  | inputField (plan : InputPlan)
  | dropdown (plan : DropdownPlan)
  | layout (spec : LinearLayout) (autoSize : Bool)
  | grid (spec : GridSpec) (autoSize : Bool)
  deriving Inhabited

namespace Blueprint

variable (theme : Theme) (e : Element)

/-- The size of the letters of a label that does not set its own. -/
def labelSize : Float32 := 14

def readSurface : Reading Blueprint := do
  let renderMode ← keyword e "renderMode" RenderMode.overlay
  let sortingOrder ← int e "sortingOrder" 0
  let pixelPerfect ← boolean e "pixelPerfect" false
  let referenceResolution ← vec2 e "referenceResolution" ⟨1920, 1080⟩
  let planeDistance ← if renderMode = .camera then float e "planeDistance" 100 else pure 100
  return .surface { renderMode, sortingOrder, pixelPerfect, referenceResolution, planeDistance }

def readPanel : Reading Blueprint := do
  return .panel (← color e "backgroundColor" theme.panel)

def readText : Reading Blueprint := do
  let fontSize ← float e "fontSize" theme.fontSize
  let color ← color e "color" theme.textColor
  let align ← keyword e "alignment" TextAlign.center
  return .text { text := string e "text" "", fontSize, color, align }

/-- A button has a label if it has a text. -/
def readButton : Reading Blueprint := do
  let background ← color e "backgroundColor" theme.button
  let text := string e "text" ""
  if text.isEmpty then return .button background none
  else
    let color ← color e "textColor" theme.buttonText
    let fontSize ← float e "fontSize" labelSize
    return .button background (some { text, fontSize, color, align := .center })

def readImage : Reading Blueprint := do return .image (← color e "color" .white)

def readScrollArea : Reading Blueprint := do
  let background ← color e "backgroundColor" theme.scrollBackground
  let horizontal ← boolean e "horizontal" false
  let vertical ← boolean e "vertical" true
  let elasticity ← float e "elasticity" 0.1
  let inertia ← boolean e "inertia" true
  let deceleration ← float e "deceleration" 0.135
  return .scrollArea { background, horizontal, vertical, elasticity, inertia, deceleration }

/-- The value of a bar is taken into its range, which must be one. -/
def readProgressBar : Reading (Except Setback Blueprint) := do
  let min ← float e "minValue" 0
  let max ← float e "maxValue" 1
  if max < min then return .error (.fault (.invertedRange .progressBar min max))
  let value ← float e "value" 0
  if !(min ≤ max) then return .error (.breakdown (.unorderedRange min max))
  let direction ← keyword e "direction" SliderDirection.leftToRight
  let background ← color e "backgroundColor" theme.progressBackground
  let fill ← color e "fillColor" theme.progressFill
  return .ok (.progressBar
    { min, max, value := Single.clamp min max value, direction, background, fill })

def readToggleGroup : Reading Blueprint := do
  return .toggleGroup (← boolean e "allowSwitchOff" false)

def readToggle : Reading Blueprint := do
  return .toggle theme.checkbox theme.checkmark (← boolean e "isOn" false) (nonBlank? e "group")

def readInputField : Reading Blueprint := do
  let background ← color e "backgroundColor" theme.inputField
  let color ← color e "textColor" .white
  let fontSize ← float e "fontSize" labelSize
  let characterLimit ← int e "characterLimit" 0
  let contentType ← keyword e "contentType" ContentType.standard
  return .inputField
    { background, style := { text := string e "text" "", fontSize, color, align := .midlineLeft }
      characterLimit, contentType }

/-- The options that an element offers. -/
def options : List String :=
  match nonBlank? e "options" with
  | some list => (Text.split ',' list).map Text.trim
  | none => []

/-- The last index of `count` options, in 32 bits with a sign: where these do not hold the count or
the index, it goes around. -/
def lastIndex (count : Nat) : Int := (Int32.ofNat count - 1).toInt

/-- The index of the chosen one of `count` options: the one that is asked for, taken into the range
of the indices, which must be one. -/
def chosen (count : Nat) (requested : Int) : Except Breakdown Nat :=
  if count = 0 then .ok 0
  else if lastIndex count < 0 then .error .emptyRange
  else .ok (max 0 (min requested (lastIndex count))).toNat

def readDropdown : Reading (Except Setback Blueprint) := do
  let background ← color e "backgroundColor" theme.dropdown
  match chosen (options e).length (← int e "value" 0) with
  | .error breakdown => return .error (.breakdown breakdown)
  | .ok value =>
    let fontSize ← float e "fontSize" labelSize
    let text := (options e).getD value ""
    let style : TextStyle := { text, fontSize, color := theme.textColor, align := .midlineLeft }
    return .ok (.dropdown { background, options := options e, value, style })

def readPadding : Reading Padding := do
  let p ← vec4 e "padding" .zero
  return ⟨Single.toInt32 p.x, Single.toInt32 p.y, Single.toInt32 p.z, Single.toInt32 p.w⟩

/-- A layout stretches its children along its axis unless told otherwise. -/
def readLayout (axis : Axis) : Reading Blueprint := do
  let isRow := axis = .horizontal
  let spacing ← float e "spacing" 0
  let childAlignment ←
    keyword e "childAlignment" (if isRow then TextAnchor.middleCenter else .upperCenter)
  let reverse ← boolean e "reverse" false
  let controlChildWidth ← boolean e "controlChildWidth" true
  let controlChildHeight ← boolean e "controlChildHeight" true
  let forceExpandWidth ← boolean e "forceExpandWidth" isRow
  let forceExpandHeight ← boolean e "forceExpandHeight" !isRow
  let padding ← readPadding e
  let spec : LinearLayout :=
    { axis, spacing, childAlignment, reverse, controlChildWidth, controlChildHeight
      forceExpandWidth, forceExpandHeight, padding }
  return .layout spec (← boolean e "autoSize" false)

def readGrid : Reading (Except Setback Blueprint) := do
  let constraintCount ← int e "constraintCount" 1
  if constraintCount < 1 then return .error (.fault (.constraintCount constraintCount))
  let cellSize ← vec2 e "cellSize" ⟨100, 100⟩
  let spacing ← vec2 e "spacing" .zero
  let startCorner ← keyword e "startCorner" Corner.upperLeft
  let startAxis ← keyword e "startAxis" Axis.horizontal
  let childAlignment ← keyword e "childAlignment" TextAnchor.upperLeft
  let constraint ← keyword e "constraint" GridConstraint.fixedColumnCount
  let padding ← readPadding e
  let spec : GridSpec :=
    { cellSize, spacing, startCorner, startAxis, childAlignment, constraint, constraintCount
      padding }
  return .ok (.grid spec (← boolean e "autoSize" false))

/-- Reads what a kind of widget adds. -/
def read (kind : Element.Kind) : Reading (Except Setback Blueprint) :=
  match kind with
  | .surface => .ok <$> readSurface e
  | .panel => .ok <$> readPanel theme e
  | .text => .ok <$> readText theme e
  | .button => .ok <$> readButton theme e
  | .image => .ok <$> readImage e
  | .scrollArea => .ok <$> readScrollArea theme e
  | .progressBar => readProgressBar theme e
  | .toggleGroup => .ok <$> readToggleGroup e
  | .toggle => .ok <$> readToggle theme e
  | .inputField => .ok <$> readInputField theme e
  | .dropdown => readDropdown theme e
  | .horizontalLayout => .ok <$> readLayout e .horizontal
  | .verticalLayout => .ok <$> readLayout e .vertical
  | .gridLayout => readGrid e

end Blueprint

end Uiml
