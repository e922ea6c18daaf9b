import Uiml.Text.Trim

/-!
# Styles

The closed sets of words that describe how nodes look and lay out their children. Each word can be
read from an attribute, in any case of its letters, and has a label by which it is shown.

## Main definitions

* `Keyword` — a set of words that attributes can hold
* `Keyword.read?` — the value of a word
-/

namespace Uiml

/-- A set of words that attributes can hold. -/
class Keyword (α : Type) where
  /-- What messages call a word of the set. -/
  what : String
  /-- The words in lower case, each with its value. -/
  words : List (String × α)
  /-- How a value is shown. -/
  label : α → String

/-- The value of a word; blanks around it and the case of its ASCII letters do not matter. -/
def Keyword.read? {α : Type} [Keyword α] (s : String) : Option α :=
  Text.lookup? (words : List (String × α)) (Text.trim s)

/-- How a text is aligned in its node. -/
inductive TextAlign where
  | left
  | right
  | center
  | justified
  | topLeft
  | topRight
  | topCenter
  | bottomLeft
  | bottomRight
  | bottomCenter
  | midlineLeft
  deriving DecidableEq, Repr

namespace TextAlign

instance : Inhabited TextAlign := ⟨.center⟩

/-- How the value is shown. -/
def label : TextAlign → String
  | .left => "Left"
  | .right => "Right"
  | .center => "Center"
  | .justified => "Justified"
  | .topLeft => "TopLeft"
  | .topRight => "TopRight"
  | .topCenter => "TopCenter"
  | .bottomLeft => "BottomLeft"
  | .bottomRight => "BottomRight"
  | .bottomCenter => "BottomCenter"
  | .midlineLeft => "MidlineLeft"

instance : Keyword TextAlign where
  what := "text alignment"
  words :=
    [("left", .left), ("right", .right), ("center", .center), ("justified", .justified),
      ("topleft", .topLeft), ("topright", .topRight), ("topcenter", .topCenter),
      ("bottomleft", .bottomLeft), ("bottomright", .bottomRight),
      ("bottomcenter", .bottomCenter), ("midlineleft", .midlineLeft)]
  label := label

end TextAlign

/-- How the children of a layout are aligned in it. -/
inductive TextAnchor where
  | upperLeft
  | upperCenter
  | upperRight
  | middleLeft
  | middleCenter
  | middleRight
  | lowerLeft
  | lowerCenter
  | lowerRight
  deriving DecidableEq, Repr

namespace TextAnchor

instance : Inhabited TextAnchor := ⟨.middleCenter⟩

/-- How the value is shown. -/
def label : TextAnchor → String
  | .upperLeft => "UpperLeft"
  | .upperCenter => "UpperCenter"
  | .upperRight => "UpperRight"
  | .middleLeft => "MiddleLeft"
  | .middleCenter => "MiddleCenter"
  | .middleRight => "MiddleRight"
  | .lowerLeft => "LowerLeft"
  | .lowerCenter => "LowerCenter"
  | .lowerRight => "LowerRight"

instance : Keyword TextAnchor where
  what := "anchor"
  words :=
    [("upperleft", .upperLeft), ("uppercenter", .upperCenter), ("upperright", .upperRight),
      ("middleleft", .middleLeft), ("middlecenter", .middleCenter),
      ("middleright", .middleRight), ("lowerleft", .lowerLeft), ("lowercenter", .lowerCenter),
      ("lowerright", .lowerRight)]
  label := label

end TextAnchor

/-- Where a grid starts. -/
inductive Corner where
  | upperLeft
  | upperRight
  | lowerLeft
  | lowerRight
  deriving DecidableEq, Repr

namespace Corner

instance : Inhabited Corner := ⟨.upperLeft⟩

/-- How the value is shown. -/
def label : Corner → String
  | .upperLeft => "UpperLeft"
  | .upperRight => "UpperRight"
  | .lowerLeft => "LowerLeft"
  | .lowerRight => "LowerRight"

instance : Keyword Corner where
  what := "grid corner"
  words :=
    [("upperleft", .upperLeft), ("upperright", .upperRight), ("lowerleft", .lowerLeft),
      ("lowerright", .lowerRight)]
  label := label

end Corner

/-- The direction of a layout. -/
inductive Axis where
  | horizontal
  | vertical
  deriving DecidableEq, Repr

namespace Axis

instance : Inhabited Axis := ⟨.horizontal⟩

/-- How the value is shown. -/
def label : Axis → String
  | .horizontal => "Horizontal"
  | .vertical => "Vertical"

instance : Keyword Axis where
  what := "axis"
  words :=
    [("horizontal", .horizontal), ("vertical", .vertical)]
  label := label

end Axis

/-- What a grid keeps fixed. -/
inductive GridConstraint where
  | flexible
  | fixedColumnCount
  | fixedRowCount
  deriving DecidableEq, Repr

namespace GridConstraint

instance : Inhabited GridConstraint := ⟨.fixedColumnCount⟩

/-- How the value is shown. -/
def label : GridConstraint → String
  | .flexible => "Flexible"
  | .fixedColumnCount => "FixedColumnCount"
  | .fixedRowCount => "FixedRowCount"

instance : Keyword GridConstraint where
  what := "grid constraint"
  words :=
    [("flexible", .flexible), ("fixedcolumncount", .fixedColumnCount),
      ("fixedrowcount", .fixedRowCount)]
  label := label

end GridConstraint

/-- How a surface is drawn. -/
inductive RenderMode where
  | overlay
  | camera
  | world
  deriving DecidableEq, Repr

namespace RenderMode

instance : Inhabited RenderMode := ⟨.overlay⟩

/-- How the value is shown. -/
def label : RenderMode → String
  | .overlay => "Overlay"
  | .camera => "Camera"
  | .world => "World"

instance : Keyword RenderMode where
  what := "render mode"
  words :=
    [("overlay", .overlay), ("camera", .camera), ("world", .world)]
  label := label

end RenderMode

/-- The direction in which a slider fills. -/
inductive SliderDirection where
  | leftToRight
  | rightToLeft
  | bottomToTop
  | topToBottom
  deriving DecidableEq, Repr

namespace SliderDirection

instance : Inhabited SliderDirection := ⟨.leftToRight⟩

/-- How the value is shown. -/
def label : SliderDirection → String
  | .leftToRight => "LeftToRight"
  | .rightToLeft => "RightToLeft"
  | .bottomToTop => "BottomToTop"
  | .topToBottom => "TopToBottom"

instance : Keyword SliderDirection where
  what := "slider direction"
  words :=
    [("lefttoright", .leftToRight), ("righttoleft", .rightToLeft),
      ("bottomtotop", .bottomToTop), ("toptobottom", .topToBottom)]
  label := label

end SliderDirection

/-- What may be typed into a field. -/
inductive ContentType where
  | standard
  | integer
  | decimal
  | alphanumeric
  | name
  | email
  | password
  | pin
  deriving DecidableEq, Repr

namespace ContentType

instance : Inhabited ContentType := ⟨.standard⟩

/-- How the value is shown. -/
def label : ContentType → String
  | .standard => "Standard"
  | .integer => "Integer"
  | .decimal => "Decimal"
  | .alphanumeric => "Alphanumeric"
  | .name => "Name"
  | .email => "Email"
  | .password => "Password"
  | .pin => "Pin"

instance : Keyword ContentType where
  what := "content type"
  words :=
    [("standard", .standard), ("integer", .integer), ("decimal", .decimal),
      ("alphanumeric", .alphanumeric), ("name", .name), ("email", .email),
      ("password", .password), ("pin", .pin)]
  label := label

end ContentType

/-- How a node takes the size of its content along an axis. -/
inductive FitMode where
  | unconstrained
  | preferred
  deriving DecidableEq, Repr, Inhabited

/-- How the value is shown. -/
def FitMode.label : FitMode → String
  | .unconstrained => "Unconstrained"
  | .preferred => "Preferred"

end Uiml
