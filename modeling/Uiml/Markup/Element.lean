import Uiml.Markup.Position
import Uiml.Text.Trim

/-!
# Element trees

A document is a tree of elements. An element keeps its tag and its attributes as they were
written; what they mean is decided where widgets are built.

## Main definitions

* `Element` — a node of the tree, with the place of its opening
* `Element.Kind` — the tags that have a meaning
* `Element.preorder` — the elements of a tree, parents first
-/

namespace Uiml

/-- A key and its raw value. -/
structure Attribute where
  key : String
  value : String
  deriving DecidableEq, Repr, Inhabited

/-- An element of a document. -/
structure Element where
  tag : String
  attributes : List Attribute := []
  children : List Element := []
  /-- The place of the opening `<`. -/
  pos : Position := ⟨0, 0⟩
  deriving Repr, Inhabited

namespace Element

/-- The kinds of elements that widgets are built for. -/
inductive Kind where
  /-- A nested render surface. -/
  | surface
  | panel
  | text
  | button
  | image
  /-- A scrollable container, whose children go into its inner content node. -/
  | scrollArea
  | progressBar
  | toggleGroup
  | toggle
  | inputField
  | dropdown
  | horizontalLayout
  | verticalLayout
  | gridLayout
  deriving DecidableEq, Repr, Inhabited

namespace Kind

/-- All kinds, in the order of their declaration. -/
def all : List Kind :=
  [surface, panel, text, button, image, scrollArea, progressBar, toggleGroup, toggle, inputField,
    dropdown, horizontalLayout, verticalLayout, gridLayout]

/-- The tags of each kind. -/
def tags : List (String × Kind) :=
  [("canvas", surface), ("surface", surface), ("panel", panel), ("text", text),
    ("button", button), ("image", image), ("scrollview", scrollArea), ("scrollarea", scrollArea),
    ("progressbar", progressBar), ("togglegroup", toggleGroup), ("toggle", toggle),
    ("inputfield", inputField), ("dropdown", dropdown), ("horizontallayout", horizontalLayout),
    ("verticallayout", verticalLayout), ("gridlayout", gridLayout)]

/-- The kind of a tag; the case of ASCII letters does not matter. -/
def ofTag? (tag : String) : Option Kind := Text.lookup? tags tag

/-- The name of a kind. -/
def name : Kind → String
  | surface => "Surface"
  | panel => "Panel"
  | text => "Text"
  | button => "Button"
  | image => "Image"
  | scrollArea => "ScrollArea"
  | progressBar => "ProgressBar"
  | toggleGroup => "ToggleGroup"
  | toggle => "Toggle"
  | inputField => "InputField"
  | dropdown => "Dropdown"
  | horizontalLayout => "HorizontalLayout"
  | verticalLayout => "VerticalLayout"
  | gridLayout => "GridLayout"

end Kind

/-- The raw value of a key; case matters. -/
def attribute? (e : Element) (key : String) : Option String :=
  (e.attributes.find? fun a => a.key == key).map Attribute.value

/-- The kind of an element, if its tag has one. -/
def kind? (e : Element) : Option Kind := Kind.ofTag? e.tag

mutual

/-- The elements of a tree with their depths, each before its children. -/
def preorderFrom (depth : Nat) : Element → List (Nat × Element)
  | ⟨tag, attributes, children, pos⟩ =>
    (depth, ⟨tag, attributes, children, pos⟩) :: preorderAll (depth + 1) children

/-- The elements of a list of trees with their depths. -/
def preorderAll (depth : Nat) : List Element → List (Nat × Element)
  | [] => []
  | e :: rest => preorderFrom depth e ++ preorderAll depth rest

end

/-- The elements of a tree with their depths, each before its children. -/
def preorder (e : Element) : List (Nat × Element) := preorderFrom 0 e

/-- The trees that a list of childless elements in preorder with their depths stands for: an element
is the parent of those that follow it at greater depths. -/
def forest : List (Nat × Element) → List Element
  | [] => []
  | (depth, e) :: rest =>
    { e with children := forest (rest.takeWhile fun next => depth < next.1) } ::
      forest (rest.dropWhile fun next => depth < next.1)
termination_by entries => entries.length
decreasing_by
  · have := (rest.takeWhile_prefix fun next => depth < next.1).length_le
    simp
    omega
  · have := (rest.dropWhile_suffix fun next => depth < next.1).length_le
    simp
    omega

mutual

/-- The number of elements of a tree. -/
def size : Element → Nat
  | ⟨_, _, children, _⟩ => sizeAll children + 1

/-- The number of elements of a list of trees. -/
def sizeAll : List Element → Nat
  | [] => 0
  | e :: rest => size e + sizeAll rest

end

end Element

end Uiml
