import Uiml.Build.Raise
import Uiml.Proofs.Scene.Component

/-!
# The faces of nodes

What a node shows does not depend on where in the tree it hangs. The face of a node is the node
without its parent and its children. What holds of faces after an operation is traced back to what
held of them before: setting a field touches one face, and making a node adds one.

## Main definitions

* `Scene.Node.face` — a node without its place in the tree
* `Scene.Shows` — a node is there, and its face is of some kind

## Main results

* `Scene.shows_modify` — a change of fields is seen in one face
* `Scene.shows_create`, `Scene.shows_destroy_create` — making a node, and taking it back
-/

namespace Uiml.Scene

variable {scene : Scene} {id j parent : NodeId} {name : String} {p q : Scene.Node → Prop}

/-- A node without its place in the tree. -/
def Node.face (node : Node) : Node := { node with parent := none, children := [] }

/-- A node is live, and something holds of its face. -/
def Shows (scene : Scene) (id : NodeId) (p : Node → Prop) : Prop :=
  ∃ node, scene.node? id = some node ∧ p node.face

/-- A change of a node that neither looks at its place in the tree nor changes it. -/
def Node.SetsFace (f : Node → Node) : Prop := ∀ node, (f node).face = f node.face

theorem Shows.imp (hpq : ∀ face, p face → q face) (h : scene.Shows id p) : scene.Shows id q := by
  obtain ⟨node, hnode, hp⟩ := h
  exact ⟨node, hnode, hpq _ hp⟩

theorem shows_iff_of_node? {node : Node} (h : scene.node? id = some node) :
    scene.Shows id p ↔ p node.face := by
  simp [Shows, h]

theorem contains_iff : scene.contains id = true ↔ ∃ node, scene.node? id = some node := by
  rw [contains, Option.isSome_iff_exists]

theorem Shows.contains (h : scene.Shows id p) : scene.contains id = true := by
  obtain ⟨node, hnode, -⟩ := h
  exact contains_iff.mpr ⟨node, hnode⟩

theorem shows_true (h : scene.contains id = true) : scene.Shows id fun _ => True := by
  obtain ⟨node, hnode⟩ := contains_iff.mp h
  exact ⟨node, hnode, trivial⟩

theorem node?_of_le (h : scene.nodes.size ≤ id.index) : scene.node? id = none := by
  simp [node?, Array.getElem?_eq_none h]

/-- A live node has been made. -/
theorem Shows.lt_size (h : scene.Shows id p) : id.index < scene.nodes.size := by
  obtain ⟨node, hnode, -⟩ := h
  refine Nat.lt_of_not_le fun hle => ?_
  rw [node?_of_le hle] at hnode
  cases hnode

theorem ext_index_iff : id = j ↔ id.index = j.index := by
  cases id; cases j; simp

/-! ### Changing the fields of a node -/

@[simp] theorem size_modify (f : Node → Node) :
    (scene.modify id f).nodes.size = scene.nodes.size := by
  simp [modify]

theorem node?_modify (f : Node → Node) :
    (scene.modify id f).node? j = if j = id then (scene.node? j).map f else scene.node? j := by
  by_cases h : j = id
  · subst h
    cases hj : scene.nodes[j.index]? <;> simp [node?, modify, Array.getElem?_modify, hj]
  · have hne : id.index ≠ j.index := fun he => h (ext_index_iff.mpr he.symm)
    simp [node?, modify, Array.getElem?_modify, h, hne]

/-- A change that is none leaves the scene as it is. -/
theorem modify_eq_self {f : Node → Node} (h : ∀ node, scene.node? id = some node → f node = node) :
    scene.modify id f = scene := by
  refine congrArg Scene.mk (Array.modify_eq_self fun place hplace => ?_)
  cases place with
  | none => rfl
  | some node =>
    have hnode : scene.node? id = some node := by rw [node?, hplace, Option.join_some]
    exact congrArg some (h node hnode)

theorem exists_node?_modify {f : Node → Node} : (scene.modify id f).Shows j p ↔
    ∃ node, scene.node? j = some node ∧ p (if j = id then f node else node).face := by
  rw [Shows, node?_modify]
  by_cases h : j = id
  · subst h
    cases scene.node? j <;> simp
  · simp only [h, if_false]

theorem shows_modify {f : Node → Node} (hf : Node.SetsFace f) :
    (scene.modify id f).Shows j p ↔
      scene.Shows j fun face => p (if j = id then f face else face) := by
  rw [exists_node?_modify, Shows]
  by_cases h : j = id <;> simp [h, hf _]

/-- What a change of a face cannot end goes on. -/
theorem Shows.modify {f : Node → Node} (h : scene.Shows j p) (hf : Node.SetsFace f)
    (hp : ∀ face, p face → p (f face)) : (scene.modify id f).Shows j p := by
  refine (shows_modify hf).mpr (h.imp fun face hface => ?_)
  split
  · exact hp face hface
  · exact hface

theorem Shows.modify_of_ne {f : Node → Node} (h : scene.Shows j p) (hf : Node.SetsFace f)
    (hne : j ≠ id) : (scene.modify id f).Shows j p := by
  simpa only [shows_modify hf, hne, if_false] using h

/-- New children change no face. -/
theorem shows_setChildren (children : Node → List NodeId) :
    (scene.modify id fun node => { node with children := children node }).Shows j p ↔
      scene.Shows j p := by
  rw [exists_node?_modify, Shows]
  by_cases h : j = id <;> simp [h, Node.face]

section Fields

variable (scene) (id j)

@[simp] theorem shows_setPosition (v : Vec2) : (scene.setPosition id v).Shows j p ↔
    scene.Shows j fun face => p (if j = id then { face with position := v } else face) :=
  shows_modify fun _ => rfl

@[simp] theorem shows_setSize (v : Vec2) : (scene.setSize id v).Shows j p ↔
    scene.Shows j fun face => p (if j = id then { face with size := v } else face) :=
  shows_modify fun _ => rfl

@[simp] theorem shows_setAnchors (v w : Vec2) : (scene.setAnchors id v w).Shows j p ↔
    scene.Shows j fun face =>
      p (if j = id then { face with anchorMin := v, anchorMax := w } else face) :=
  shows_modify fun _ => rfl

@[simp] theorem shows_setPivot (v : Vec2) : (scene.setPivot id v).Shows j p ↔
    scene.Shows j fun face => p (if j = id then { face with pivot := v } else face) :=
  shows_modify fun _ => rfl

@[simp] theorem shows_setScale (v : Vec3) : (scene.setScale id v).Shows j p ↔
    scene.Shows j fun face => p (if j = id then { face with scale := v } else face) :=
  shows_modify fun _ => rfl

@[simp] theorem shows_setAlpha (v : Float32) : (scene.setAlpha id v).Shows j p ↔
    scene.Shows j fun face => p (if j = id then { face with alpha := v } else face) :=
  shows_modify fun _ => rfl

@[simp] theorem shows_setInteractable (b : Bool) : (scene.setInteractable id b).Shows j p ↔
    scene.Shows j fun face => p (if j = id then { face with interactable := b } else face) :=
  shows_modify fun _ => rfl

@[simp] theorem shows_attach (c : Component) : (scene.attach id c).Shows j p ↔
    scene.Shows j fun face =>
      p (if j = id then { face with components := face.components ++ [c] } else face) :=
  shows_modify fun _ => rfl

@[simp] theorem shows_stretch : (scene.stretch id).Shows j p ↔
    scene.Shows j fun face =>
      p (if j = id then
          { face with anchorMin := .zero, anchorMax := .one, size := .zero, position := .zero }
        else face) := by
  by_cases h : j = id <;> simp [stretch, h]

@[simp] theorem shows_replaceComponent (f : Component → Option Component) :
    (scene.replaceComponent id f).2.Shows j p ↔
      scene.Shows j fun face =>
        p (if j = id then face.replace f else face) := by
  rw [replaceComponent]
  cases hid : scene.node? id with
  | none =>
    by_cases h : j = id
    · subst h
      simp [Shows, hid]
    · simp [h]
  | some node => exact shows_modify fun _ => rfl

theorem Shows.setAlpha {scene : Scene} {id j : NodeId} {v : Float32} (h : scene.Shows j p)
    (hp : ∀ face, p face → p { face with alpha := v }) : (scene.setAlpha id v).Shows j p :=
  h.modify (fun _ => rfl) hp

theorem Shows.setAlpha_of_ne {scene : Scene} {id j : NodeId} {v : Float32} (h : scene.Shows j p)
    (hne : j ≠ id) : (scene.setAlpha id v).Shows j p :=
  h.modify_of_ne (fun _ => rfl) hne

theorem Shows.setAnchors {scene : Scene} {id j : NodeId} {v w : Vec2} (h : scene.Shows j p)
    (hp : ∀ face, p face → p { face with anchorMin := v, anchorMax := w }) :
    (scene.setAnchors id v w).Shows j p :=
  h.modify (fun _ => rfl) hp

theorem Shows.setAnchors_of_ne {scene : Scene} {id j : NodeId} {v w : Vec2} (h : scene.Shows j p)
    (hne : j ≠ id) : (scene.setAnchors id v w).Shows j p :=
  h.modify_of_ne (fun _ => rfl) hne

theorem Shows.replaceComponent {scene : Scene} {id j : NodeId}
    {f : Component → Option Component} (h : scene.Shows j p)
    (hp : ∀ face, p face → p (face.replace f)) : (scene.replaceComponent id f).2.Shows j p := by
  refine (shows_replaceComponent scene id j f).mpr (h.imp fun face hface => ?_)
  split
  · exact hp face hface
  · exact hface

theorem Shows.replaceComponent_of_ne {scene : Scene} {id j : NodeId}
    {f : Component → Option Component} (h : scene.Shows j p) (hne : j ≠ id) :
    (scene.replaceComponent id f).2.Shows j p := by
  simpa only [shows_replaceComponent, hne, if_false] using h

@[simp] theorem shows_setImage (image : Picture) : (scene.setImage id image).2.Shows j p ↔
    scene.Shows j fun face =>
      p (if j = id ∧ face.components.any Component.isImage = true then
          { face with image := some image }
        else face) := by
  rw [setImage]
  cases hid : scene.node? id with
  | none =>
    by_cases h : j = id
    · subst h
      simp [Shows, hid]
    · simp [h]
  | some node =>
    have hmodify : (scene.modify id ({ · with image := some image })).Shows j p ↔
        scene.Shows j fun face => p (if j = id then { face with image := some image } else face) :=
      shows_modify fun _ => rfl
    by_cases h : j = id
    · subst h
      simp only [if_true] at hmodify
      rw [shows_iff_of_node? hid]
      cases hany : node.components.any Component.isImage with
      | true =>
        simp only [hany, if_true, hmodify, shows_iff_of_node? hid]
        simp only [Node.face, hany, and_self, if_true]
      | false =>
        simp only [hany, Bool.false_eq_true, if_false, shows_iff_of_node? hid]
        simp only [Node.face, hany, Bool.false_eq_true, and_false, if_false]
    · simp only [h, false_and, if_false] at hmodify ⊢
      split
      · exact hmodify
      · exact Iff.rfl

@[simp] theorem shows_attachAll (components : List Component) :
    (scene.attachAll id components).Shows j p ↔
      scene.Shows j fun face =>
        p (if j = id then { face with components := face.components ++ components } else face) := by
  rw [attachAll]
  induction components generalizing scene p with
  | nil => by_cases h : j = id <;> simp [h]
  | cons c components ih =>
    rw [List.foldl_cons, ih, shows_attach]
    by_cases h : j = id <;> simp [h]

end Fields

/-! ### Numbers of nodes -/

section Sizes

variable (scene) (id)

@[simp] theorem size_setPosition (v : Vec2) :
    (scene.setPosition id v).nodes.size = scene.nodes.size := size_modify _

@[simp] theorem size_setSize (v : Vec2) : (scene.setSize id v).nodes.size = scene.nodes.size :=
  size_modify _

@[simp] theorem size_setAnchors (v w : Vec2) :
    (scene.setAnchors id v w).nodes.size = scene.nodes.size := size_modify _

@[simp] theorem size_setPivot (v : Vec2) : (scene.setPivot id v).nodes.size = scene.nodes.size :=
  size_modify _

@[simp] theorem size_setAlpha (v : Float32) :
    (scene.setAlpha id v).nodes.size = scene.nodes.size := size_modify _

@[simp] theorem size_attach (c : Component) : (scene.attach id c).nodes.size = scene.nodes.size :=
  size_modify _

@[simp] theorem size_attachAll (components : List Component) :
    (scene.attachAll id components).nodes.size = scene.nodes.size := by
  rw [attachAll]
  induction components generalizing scene with
  | nil => rfl
  | cons c components ih => rw [List.foldl_cons, ih, size_attach]

@[simp] theorem size_stretch : (scene.stretch id).nodes.size = scene.nodes.size := by
  simp [stretch]

@[simp] theorem size_replaceComponent (f : Component → Option Component) :
    (scene.replaceComponent id f).2.nodes.size = scene.nodes.size := by
  rw [replaceComponent]
  cases scene.node? id with
  | none => rfl
  | some node => exact size_modify _

@[simp] theorem size_setImage (image : Picture) :
    (scene.setImage id image).2.nodes.size = scene.nodes.size := by
  rw [setImage]
  cases scene.node? id with
  | none => rfl
  | some node =>
    simp only
    split
    · exact size_modify _
    · rfl

end Sizes

/-! ### Making a node -/

@[simp] theorem create_fst : (scene.create parent name).1 = ⟨scene.nodes.size⟩ := rfl

@[simp] theorem size_create : (scene.create parent name).2.nodes.size = scene.nodes.size + 1 := by
  simp [create]

theorem node?_push (node : Node) : (⟨scene.nodes.push (some node)⟩ : Scene).node? j =
    if j = ⟨scene.nodes.size⟩ then some node else scene.node? j := by
  simp only [node?, Array.getElem?_push, ext_index_iff]
  split <;> simp

@[simp] theorem shows_create : (scene.create parent name).2.Shows j p ↔
    if j = ⟨scene.nodes.size⟩ then p { name } else scene.Shows j p := by
  refine (shows_setChildren _).trans ?_
  rw [Shows, node?_push]
  by_cases h : j = ⟨scene.nodes.size⟩
  · simp [h, Node.face]
  · simp only [h, if_false, Shows]

@[simp] theorem createStretched_fst :
    (scene.createStretched parent name).1 = ⟨scene.nodes.size⟩ := rfl

@[simp] theorem size_createStretched :
    (scene.createStretched parent name).2.nodes.size = scene.nodes.size + 1 := by
  simp [createStretched]

@[simp] theorem shows_createStretched : (scene.createStretched parent name).2.Shows j p ↔
    if j = ⟨scene.nodes.size⟩ then
      p { name, anchorMin := .zero, anchorMax := .one, size := .zero, position := .zero }
    else scene.Shows j p := by
  by_cases h : j = ⟨scene.nodes.size⟩ <;> simp [createStretched, h]

/-! ### Taking nodes away -/

theorem node?_erase (gone : List NodeId) :
    (scene.erase gone).node? j = if j ∈ gone then none else scene.node? j := by
  cases hj : scene.nodes[j.index]? <;> simp [node?, erase, hj]

theorem shows_destroyBranch : (scene.destroyBranch id).Shows j p ↔
    j ∉ (scene.subtree id).map (fun entry => entry.2.1) ∧ scene.Shows j p := by
  rw [destroyBranch]
  cases hid : scene.node? id with
  | none =>
    have hsub : scene.subtree id = [] := by
      rw [subtree]
      cases scene.nodes.size <;> simp [subtreeWithin, hid]
    simp [hsub]
  | some node =>
    have herase : (scene.erase ((scene.subtree id).map fun entry => entry.2.1)).Shows j p ↔
        j ∉ (scene.subtree id).map (fun entry => entry.2.1) ∧ scene.Shows j p := by
      rw [Shows, node?_erase]
      split <;> simp_all [Shows]
    cases hparent : node.parent with
    | none => simpa [hparent] using herase
    | some parent => simpa [hparent] using (shows_setChildren _).trans herase

/-- A node that has just been made is the only one of its branch. -/
theorem subtree_create (hpos : 0 < scene.nodes.size) :
    ((scene.create parent name).2.subtree ⟨scene.nodes.size⟩).map (fun entry => entry.2.1) =
      [⟨scene.nodes.size⟩] := by
  obtain ⟨node, hnode, hchildren⟩ : ∃ node,
      (scene.create parent name).2.node? ⟨scene.nodes.size⟩ = some node ∧ node.children = [] := by
    have hlive : scene.contains ⟨scene.nodes.size⟩ = false := by
      rw [contains, node?_of_le (by exact Nat.le_refl _), Option.isSome_none]
    have hne : (⟨scene.nodes.size⟩ : NodeId) ≠ if scene.contains parent then parent else root := by
      intro he
      split at he
      · next hparent => rw [← he, hlive] at hparent; cases hparent
      · have := congrArg NodeId.index he
        simp only [root] at this
        omega
    simp only [create, node?_modify, hne, if_false, node?_push]
    exact ⟨_, rfl, rfl⟩
  rw [subtree, size_create]
  simp [subtreeWithin, hnode, hchildren]

/-- Taking a node back that has just been made leaves all faces as they were before. -/
theorem shows_destroy_create (hpos : 0 < scene.nodes.size) :
    ((scene.create parent name).2.destroy ⟨scene.nodes.size⟩).Shows j p ↔ scene.Shows j p := by
  have hne : (⟨scene.nodes.size⟩ : NodeId) ≠ root := by
    intro he
    have := congrArg NodeId.index he
    simp only [root] at this
    omega
  rw [destroy, if_neg hne, shows_destroyBranch, subtree_create hpos, shows_create,
    List.mem_singleton]
  by_cases h : j = ⟨scene.nodes.size⟩
  · simp only [h, not_true_eq_false, false_and, false_iff]
    intro hshows
    exact Nat.lt_irrefl _ hshows.lt_size
  · simp only [h, not_false_eq_true, true_and, if_false]

theorem size_destroyBranch : (scene.destroyBranch id).nodes.size = scene.nodes.size := by
  rw [destroyBranch]
  cases scene.node? id with
  | none => rfl
  | some node =>
    have herase (gone : List NodeId) : (scene.erase gone).nodes.size = scene.nodes.size := by
      simp [erase]
    cases hparent : node.parent with
    | none => simp [hparent, herase]
    | some parent => simp [hparent, herase]

/-- The places of nodes that are gone stay empty. -/
theorem size_destroy : (scene.destroy id).nodes.size = scene.nodes.size := by
  rw [destroy]
  split
  · induction scene.children root generalizing scene with
    | nil => rfl
    | cons child children ih => rw [List.foldl_cons, ih, size_destroyBranch]
  · exact size_destroyBranch

end Uiml.Scene
