import Uiml.Color
import Uiml.Geometry
import Uiml.Scene.Style

/-!
# Components

What a node of a scene carries: plain descriptions that say what is to be drawn or laid out, and
that refer to other nodes by their ids.
-/

namespace Uiml

/-- The id of a node; ids count up in the order in which nodes are made. -/
structure NodeId where
  index : Nat
  deriving DecidableEq, Repr, Inhabited

/-- A text and how it looks. -/
structure TextStyle where
  text : String
  fontSize : Float32
  color : Color
  align : TextAlign
  deriving DecidableEq, Inhabited

/-- A nested render surface. -/
structure CanvasSpec where
  renderMode : RenderMode
  sortingOrder : Int
  pixelPerfect : Bool
  referenceResolution : Vec2
  /-- Only meaningful for a surface drawn by a camera. -/
  planeDistance : Float32
  deriving DecidableEq, Inhabited

/-- A scrollable container. -/
structure ScrollSpec where
  horizontal : Bool
  vertical : Bool
  elasticity : Float32
  inertia : Bool
  deceleration : Float32
  viewport : NodeId
  content : NodeId
  deriving DecidableEq, Inhabited

/-- A bar that is filled up to a value. -/
structure SliderSpec where
  min : Float32
  max : Float32
  value : Float32
  direction : SliderDirection
  fill : NodeId
  deriving DecidableEq, Inhabited

/-- A switch, possibly one of a group. -/
structure ToggleSpec where
  isOn : Bool
  checkmark : NodeId
  group : Option NodeId
  deriving DecidableEq, Inhabited

/-- A field to type into. -/
structure InputSpec where
  characterLimit : Int
  contentType : ContentType
  textNode : NodeId
  deriving DecidableEq, Inhabited

/-- A choice of one of several options. -/
structure DropdownSpec where
  options : List String
  value : Nat
  label : NodeId
  deriving DecidableEq, Inhabited

/-- Paddings in whole layout units. -/
structure Padding where
  left : Int := 0
  right : Int := 0
  top : Int := 0
  bottom : Int := 0
  deriving DecidableEq, Repr, Inhabited

/-- A row or a column. -/
structure LinearLayout where
  axis : Axis
  spacing : Float32
  childAlignment : TextAnchor
  reverse : Bool
  controlChildWidth : Bool
  controlChildHeight : Bool
  forceExpandWidth : Bool
  forceExpandHeight : Bool
  padding : Padding
  deriving DecidableEq, Inhabited

/-- A grid of cells. -/
structure GridSpec where
  cellSize : Vec2
  spacing : Vec2
  startCorner : Corner
  startAxis : Axis
  childAlignment : TextAnchor
  constraint : GridConstraint
  constraintCount : Int
  padding : Padding
  deriving DecidableEq, Inhabited

/-- The tints of an element that can be pressed. -/
structure TintBlock where
  normal : Color
  highlighted : Color
  pressed : Color
  disabled : Color
  deriving DecidableEq, Inhabited

/-- What a node carries. -/
inductive Component where
  /-- A plain background. -/
  | fill (color : Color)
  | text (style : TextStyle)
  /-- A picture, drawn with a tint. -/
  | image (tint : Color)
  /-- Clips what is below the node to its rectangle. -/
  | mask
  | canvas (spec : CanvasSpec)
  | scroll (spec : ScrollSpec)
  | slider (spec : SliderSpec)
  | toggleGroup (allowSwitchOff : Bool)
  | toggle (spec : ToggleSpec)
  | inputField (spec : InputSpec)
  | dropdown (spec : DropdownSpec)
  | layout (spec : LinearLayout)
  | grid (spec : GridSpec)
  | sizeFitter (horizontal vertical : FitMode)
  | buttonTint (tints : TintBlock)
  deriving DecidableEq, Inhabited

namespace Component

/-- The name of the kind of a component. -/
def kindName : Component → String
  | fill _ => "Fill"
  | text _ => "Text"
  | image _ => "Image"
  | mask => "Mask"
  | canvas _ => "Canvas"
  | scroll _ => "Scroll"
  | slider _ => "Slider"
  | toggleGroup _ => "ToggleGroup"
  | toggle _ => "Toggle"
  | inputField _ => "InputField"
  | dropdown _ => "Dropdown"
  | layout _ => "Layout"
  | grid _ => "Grid"
  | sizeFitter _ _ => "SizeFitter"
  | buttonTint _ => "ButtonTint"

/-- The text that a component shows. -/
def text? : Component → Option String
  | text style => some style.text
  | _ => none

/-- The component with another text, if it is one that shows text. -/
def withText? (s : String) : Component → Option Component
  | text style => some (text { style with text := s })
  | _ => none

/-- The component with another value, if it is a slider. -/
def withSliderValue? (value : Float32) : Component → Option Component
  | slider spec => some (slider { spec with value })
  | _ => none

/-- The component in another state, if it is a switch. -/
def withToggle? (isOn : Bool) : Component → Option Component
  | toggle spec => some (toggle { spec with isOn })
  | _ => none

/-- Whether a component shows a picture. -/
def isImage : Component → Bool
  | image _ => true
  | _ => false

end Component

end Uiml
