import Uiml.Scene.Component
import Uiml.Scene.Picture

/-!
# Scenes

A scene is a tree of nodes. Nodes are named by ids that are never given out twice; what is asked of
a node that is gone, or never was, does nothing.

## Main definitions

* `Scene`, `Scene.Node` — the tree and its nodes
* `Scene.create`, `Scene.destroy` — the operations that change the shape of the tree
* `Scene.subtree` — the live nodes below a node, parents first
-/

namespace Uiml

/-- A node of a scene. -/
structure Scene.Node where
  name : String
  parent : Option NodeId := none
  children : List NodeId := []
  position : Vec2 := .zero
  size : Vec2 := ⟨100, 100⟩
  anchorMin : Vec2 := .half
  anchorMax : Vec2 := .half
  pivot : Vec2 := .half
  scale : Vec3 := .one
  alpha : Float32 := 1
  interactable : Bool := true
  components : List Component := []
  image : Option Picture := none
  deriving DecidableEq, Inhabited

/-- A tree of nodes, each at the index that is its id; a node that is gone leaves its place empty.
-/
structure Scene where
  nodes : Array (Option Scene.Node)
  deriving DecidableEq, Inhabited

namespace Scene

namespace Node

/-- The text that a node shows: that of its first text component. -/
def text? (node : Node) : Option String := node.components.findSome? Component.text?

/-- The first component of a kind. -/
def component? (node : Node) (kind : String) : Option Component :=
  node.components.find? fun c => c.kindName = kind

end Node

/-- The id of the root, which is always there. -/
def root : NodeId := ⟨0⟩

/-- The scene of which the root is the only node. -/
def new : Scene := ⟨#[some { name := "Root" }]⟩

/-- The live node of an id. -/
def node? (scene : Scene) (id : NodeId) : Option Node := scene.nodes[id.index]?.join

/-- Whether an id is that of a live node. -/
def contains (scene : Scene) (id : NodeId) : Bool := (scene.node? id).isSome

/-- The number of live nodes. -/
def liveCount (scene : Scene) : Nat := scene.nodes.toList.countP Option.isSome

/-- The children of a node in the order in which they were made. -/
def children (scene : Scene) (id : NodeId) : List NodeId :=
  match scene.node? id with
  | some node => node.children
  | none => []

/-- The scene with a live node changed. -/
def modify (scene : Scene) (id : NodeId) (f : Node → Node) : Scene :=
  ⟨scene.nodes.modify id.index (Option.map f)⟩

/-- Makes a node below another, or below the root if that one is not there. -/
def create (scene : Scene) (parent : NodeId) (name : String) : NodeId × Scene :=
  let parent := if scene.contains parent then parent else root
  let id : NodeId := ⟨scene.nodes.size⟩
  let grown : Scene := ⟨scene.nodes.push (some { name, parent := some parent })⟩
  (id, grown.modify parent fun p => { p with children := p.children ++ [id] })

/-- The live nodes at and below a node with their depths, parents first, down to a given number of
levels. -/
def subtreeWithin (scene : Scene) : Nat → Nat → NodeId → List (Nat × NodeId × Node)
  | 0, _, _ => []
  | levels + 1, depth, id =>
    match scene.node? id with
    | none => []
    | some node =>
      (depth, id, node) :: node.children.flatMap (scene.subtreeWithin levels (depth + 1))

/-- The live nodes at and below a node with their depths, parents first. No path down the tree is
longer than the number of nodes. -/
def subtree (scene : Scene) (id : NodeId) : List (Nat × NodeId × Node) :=
  scene.subtreeWithin scene.nodes.size 0 id

/-- The scene without some of its nodes. -/
def erase (scene : Scene) (gone : List NodeId) : Scene :=
  ⟨scene.nodes.mapIdx fun i node => if ⟨i⟩ ∈ gone then none else node⟩

/-- The scene without a node that is no root and all below it. -/
def destroyBranch (scene : Scene) (id : NodeId) : Scene :=
  match scene.node? id with
  | none => scene
  | some node =>
    let pruned := scene.erase ((scene.subtree id).map fun entry => entry.2.1)
    match node.parent with
    | none => pruned
    | some parent => pruned.modify parent fun p => { p with children := p.children.filter (· ≠ id) }

/-- Destroys a node and all below it. The root stays, and loses all that is below it. -/
def destroy (scene : Scene) (id : NodeId) : Scene :=
  if id = root then (scene.children root).foldl destroyBranch scene else scene.destroyBranch id

/-! ### Fields of nodes -/

def setPosition (scene : Scene) (id : NodeId) (position : Vec2) : Scene :=
  scene.modify id fun node => { node with position }

def setSize (scene : Scene) (id : NodeId) (size : Vec2) : Scene :=
  scene.modify id fun node => { node with size }

def setAnchors (scene : Scene) (id : NodeId) (anchorMin anchorMax : Vec2) : Scene :=
  scene.modify id fun node => { node with anchorMin, anchorMax }

def setPivot (scene : Scene) (id : NodeId) (pivot : Vec2) : Scene :=
  scene.modify id fun node => { node with pivot }

def setScale (scene : Scene) (id : NodeId) (scale : Vec3) : Scene :=
  scene.modify id fun node => { node with scale }

def setAlpha (scene : Scene) (id : NodeId) (alpha : Float32) : Scene :=
  scene.modify id fun node => { node with alpha }

def setInteractable (scene : Scene) (id : NodeId) (interactable : Bool) : Scene :=
  scene.modify id fun node => { node with interactable }

/-- Makes a node fill its parent. -/
def stretch (scene : Scene) (id : NodeId) : Scene :=
  ((scene.setAnchors id .zero .one).setSize id .zero).setPosition id .zero

/-- Adds a component to a node. -/
def attach (scene : Scene) (id : NodeId) (component : Component) : Scene :=
  scene.modify id fun node => { node with components := node.components ++ [component] }

/-- Replaces the first element of a list that a function has a replacement for. -/
def replaceFirst {α : Type} (f : α → Option α) : List α → List α
  | [] => []
  | x :: rest =>
    match f x with
    | some y => y :: rest
    | none => x :: replaceFirst f rest

/-- Replaces the first component of a node that a function has a replacement for, and tells whether
there was one. -/
def replaceComponent (scene : Scene) (id : NodeId) (f : Component → Option Component) :
    Bool × Scene :=
  match scene.node? id with
  | none => (false, scene)
  | some node =>
    (node.components.any fun c => (f c).isSome,
      scene.modify id fun node => { node with components := replaceFirst f node.components })

/-- Replaces the text of a node, if it shows one. -/
def setText (scene : Scene) (id : NodeId) (text : String) : Bool × Scene :=
  scene.replaceComponent id (Component.withText? text)

/-- Replaces the value of a node's slider, if it has one. -/
def setSliderValue (scene : Scene) (id : NodeId) (value : Float32) : Bool × Scene :=
  scene.replaceComponent id (Component.withSliderValue? value)

/-- Replaces the state of a node's switch, if it has one. -/
def setToggle (scene : Scene) (id : NodeId) (isOn : Bool) : Bool × Scene :=
  scene.replaceComponent id (Component.withToggle? isOn)

/-- Gives a node a picture, if it has a component that shows one. -/
def setImage (scene : Scene) (id : NodeId) (image : Picture) : Bool × Scene :=
  match scene.node? id with
  | none => (false, scene)
  | some node =>
    if node.components.any Component.isImage then
      (true, scene.modify id fun node => { node with image := some image })
    else (false, scene)

/-- The first child of a node with a name. -/
def childNamed? (scene : Scene) (id : NodeId) (name : String) : Option NodeId :=
  (scene.children id).find? fun child => (scene.node? child).any fun node => node.name = name

/-- Follows names down from a node. -/
def descend? (scene : Scene) (id : NodeId) : List String → Option NodeId
  | [] => some id
  | name :: rest =>
    match scene.childNamed? id name with
    | none => none
    | some child => scene.descend? child rest

/-- The node that a path of names below the root leads to; empty names are passed over, and of
several children with a name the first is taken. -/
def findPath? (scene : Scene) (path : String) : Option NodeId :=
  scene.descend? root ((Text.split '/' path).filter (· ≠ ""))

end Scene

end Uiml
