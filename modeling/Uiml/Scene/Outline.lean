import Uiml.Number.Digits
import Uiml.Scene.Basic
import Uiml.Text.Quoted

/-!
# Outlines

An outline shows a scene as text: one line for every live node, parents first, each indented by two
blanks for every level below the root.
-/

namespace Uiml.Scene

/-- What the line of a node shows after its name. -/
def Node.summary (node : Node) : String :=
  s!" pos=({Single.fixed 1 node.position.x},{Single.fixed 1 node.position.y})" ++
    s!" size=({Single.fixed 0 node.size.x},{Single.fixed 0 node.size.y})" ++
    s!" alpha={Single.fixed 2 node.alpha} scale={Single.fixed 2 node.scale.x}" ++
    (if node.interactable then "" else " [inert]") ++
    (if node.components.isEmpty then ""
      else " [" ++ ", ".intercalate (node.components.map Component.kindName) ++ "]") ++
    (match node.text? with
      | some text => if text.isEmpty then "" else " " ++ Text.quote text
      | none => "") ++
    (match node.image with
      | some image => s!" <{image.width}x{image.height}>"
      | none => "")

/-- The line of a node at a depth. -/
def Node.line (depth : Nat) (node : Node) : String :=
  String.ofList (List.replicate (2 * depth) ' ') ++ node.name ++ node.summary

/-- The outline of a scene. -/
def outline (scene : Scene) : String :=
  String.join ((scene.subtree root).map fun (depth, _, node) => node.line depth ++ "\n")

end Uiml.Scene
