import Mathlib.Logic.Relation
import Uiml.Proofs.Scene.Face

/-!
# The tree of a scene

What ties a node into the tree are its name, its parent and its children. To set fields of nodes
changes no ties; to make a node adds a child to another; to destroy one takes away all below it.
The ids of nodes increase on the way down, so that no way down is longer than the number of nodes,
and a scene of which the root has no children has no other nodes.

## Main definitions

* `Scene.Node.ties`, `Scene.ties?` — what ties a node into the tree
* `Scene.SameTree` — the nodes of two scenes are tied into the same tree
* `Scene.IsTree` — parents and children know of each other, up to the root
* `Scene.IsForest` — children know of their parents
* `Scene.Below` — a node lies at or below another

## Main results

* `Scene.IsTree.congr`, `Scene.IsTree.create` — a tree stays one
-/

namespace Uiml.Scene

open Relation

/-- What ties a node into the tree. -/
structure Node.Ties where
  name : String
  parent : Option NodeId
  children : List NodeId

/-- The ties of a node. -/
def Node.ties (node : Node) : Node.Ties := ⟨node.name, node.parent, node.children⟩

/-- The ties with one more child. -/
def Node.Ties.adopt (t : Node.Ties) (id : NodeId) : Node.Ties :=
  { t with children := t.children ++ [id] }

/-- The ties without a child. -/
def Node.Ties.disown (t : Node.Ties) (id : NodeId) : Node.Ties :=
  { t with children := t.children.filter (· ≠ id) }

/-- A node that has got further children. -/
def Node.adding (node : Node) (new : List NodeId) : Node :=
  { node with children := node.children ++ new }

/-- A change of a node that leaves its ties alone. -/
def Node.KeepsTies (f : Node → Node) : Prop := ∀ node, (f node).ties = node.ties

/-- The ties of a live node. -/
def ties? (scene : Scene) (id : NodeId) : Option Node.Ties := (scene.node? id).map Node.ties

/-- The node below which a new one really goes. -/
def keeper (scene : Scene) (parent : NodeId) : NodeId :=
  if scene.contains parent then parent else root

/-- One node is a child of another. -/
def IsChild (scene : Scene) (parent id : NodeId) : Prop :=
  ∃ t, scene.ties? parent = some t ∧ id ∈ t.children

/-- One node lies at or below another. -/
def Below (scene : Scene) : NodeId → NodeId → Prop := ReflTransGen scene.IsChild

/-- Every live node but the root has a live parent, and just the children of a node name it as their
parent. -/
structure IsTree (scene : Scene) : Prop where
  root : ∃ t, scene.ties? root = some t ∧ t.parent = none
  parent : ∀ {id t}, scene.ties? id = some t → id ≠ Scene.root →
    ∃ p, t.parent = some p ∧ scene.IsChild p id
  child : ∀ {id t c}, scene.ties? id = some t → c ∈ t.children →
    id.index < c.index ∧ ∃ t', scene.ties? c = some t' ∧ t'.parent = some id
  nodup : ∀ {id t}, scene.ties? id = some t → t.children.Nodup

/-- Children have larger ids than the node that lists them, which lists them once, and name it as
their parent. A node may name a parent that is gone. -/
structure IsForest (scene : Scene) : Prop where
  child : ∀ {id t c}, scene.ties? id = some t → c ∈ t.children →
    id.index < c.index ∧ ∃ t', scene.ties? c = some t' ∧ t'.parent = some id
  nodup : ∀ {id t}, scene.ties? id = some t → t.children.Nodup

/-- The nodes of two scenes are tied into the same tree. -/
structure SameTree (scene scene' : Scene) : Prop where
  size : scene'.nodes.size = scene.nodes.size
  ties : ∀ j, scene'.ties? j = scene.ties? j

variable {scene scene' : Scene} {id j parent p : NodeId} {name : String} {t : Node.Ties}

/-! ### Ties -/

theorem isSome_ties? : (scene.ties? id).isSome = scene.contains id := Option.isSome_map

theorem contains_of_ties? (h : scene.ties? id = some t) : scene.contains id = true := by
  rw [← isSome_ties?, h, Option.isSome_some]

theorem lt_size_of_contains (h : scene.contains id = true) : id.index < scene.nodes.size :=
  (shows_true h).lt_size

theorem exists_ties? (h : scene.contains id = true) : ∃ t, scene.ties? id = some t :=
  Option.isSome_iff_exists.mp (isSome_ties?.trans h)

/-- The next node to be made is not one that has been made. -/
theorem ne_next (h : id.index < scene.nodes.size) : id ≠ ⟨scene.nodes.size⟩ :=
  fun he => Nat.ne_of_lt h (ext_index_iff.mp he)

theorem children_eq (scene : Scene) (id : NodeId) :
    scene.children id = ((scene.ties? id).map Node.Ties.children).getD [] := by
  rw [children, ties?]
  cases scene.node? id <;> rfl

theorem ties?_modify {f : Node → Node} (hf : Node.KeepsTies f) :
    (scene.modify id f).ties? j = scene.ties? j := by
  rw [ties?, node?_modify]
  split
  · cases hj : scene.node? j with
    | none => rw [ties?, hj]; rfl
    | some node => rw [ties?, hj]; exact congrArg some (hf node)
  · rfl

/-- The face of a node and its ties are all there is to it. -/
theorem node?_of_shows {new : List NodeId} (hshows : ∀ p, scene.Shows j p → scene'.Shows j p)
    (hties : scene'.ties? j =
      (scene.ties? j).map fun t => { t with children := t.children ++ new }) :
    scene'.node? j = (scene.node? j).map (·.adding new) := by
  rw [ties?, ties?, Option.map_map] at hties
  cases hnode : scene.node? j with
  | none =>
    rw [hnode] at hties
    exact Option.map_eq_none_iff.mp hties
  | some node =>
    obtain ⟨node', hnode', hface⟩ := hshows (· = node.face) ⟨node, hnode, rfl⟩
    rw [hnode, hnode', Option.map_some, Option.map_some, Option.some.injEq] at hties
    have hparent : node'.parent = node.parent := congrArg Node.Ties.parent hties
    have hchildren : node'.children = node.children ++ new := congrArg Node.Ties.children hties
    rw [hnode', Option.map_some, Option.some.injEq]
    cases node
    cases node'
    simp_all [Node.face, Node.adding]

theorem contains_congr (h : ∀ j, scene'.ties? j = scene.ties? j) :
    scene'.contains id = scene.contains id := by
  rw [← isSome_ties?, h, isSome_ties?]

theorem IsChild.congr (h : ∀ j, scene'.ties? j = scene.ties? j) (hchild : scene.IsChild p id) :
    scene'.IsChild p id := by
  obtain ⟨t, ht, hmem⟩ := hchild
  exact ⟨t, (h p).trans ht, hmem⟩

/-- A node stays below another as long as children stay children. -/
theorem Below.mono (h : ∀ {p c}, scene.IsChild p c → scene'.IsChild p c)
    (hbelow : scene.Below id j) : scene'.Below id j := ReflTransGen.mono (fun _ _ => h) _ _ hbelow

theorem SameTree.refl (scene : Scene) : scene.SameTree scene := ⟨rfl, fun _ => rfl⟩

theorem SameTree.trans {scene'' : Scene} (h : scene.SameTree scene')
    (h' : scene'.SameTree scene'') : scene.SameTree scene'' :=
  ⟨h'.size.trans h.size, fun j => (h'.ties j).trans (h.ties j)⟩

section Fields

variable (scene) (id j)

@[simp] theorem ties?_setPosition (v : Vec2) : (scene.setPosition id v).ties? j = scene.ties? j :=
  ties?_modify fun _ => rfl

@[simp] theorem ties?_setSize (v : Vec2) : (scene.setSize id v).ties? j = scene.ties? j :=
  ties?_modify fun _ => rfl

@[simp] theorem ties?_setAnchors (v w : Vec2) :
    (scene.setAnchors id v w).ties? j = scene.ties? j := ties?_modify fun _ => rfl

@[simp] theorem ties?_setPivot (v : Vec2) : (scene.setPivot id v).ties? j = scene.ties? j :=
  ties?_modify fun _ => rfl

@[simp] theorem ties?_setScale (v : Vec3) : (scene.setScale id v).ties? j = scene.ties? j :=
  ties?_modify fun _ => rfl

@[simp] theorem ties?_setAlpha (v : Float32) : (scene.setAlpha id v).ties? j = scene.ties? j :=
  ties?_modify fun _ => rfl

@[simp] theorem ties?_setInteractable (b : Bool) :
    (scene.setInteractable id b).ties? j = scene.ties? j := ties?_modify fun _ => rfl

@[simp] theorem ties?_attach (c : Component) : (scene.attach id c).ties? j = scene.ties? j :=
  ties?_modify fun _ => rfl

@[simp] theorem ties?_stretch : (scene.stretch id).ties? j = scene.ties? j := by simp [stretch]

@[simp] theorem ties?_attachAll (components : List Component) :
    (scene.attachAll id components).ties? j = scene.ties? j := by
  rw [attachAll]
  induction components generalizing scene with
  | nil => rfl
  | cons c components ih => rw [List.foldl_cons, ih, ties?_attach]

@[simp] theorem ties?_replaceComponent (f : Component → Option Component) :
    (scene.replaceComponent id f).2.ties? j = scene.ties? j := by
  rw [replaceComponent]
  cases scene.node? id with
  | none => rfl
  | some node => exact ties?_modify fun _ => rfl

@[simp] theorem ties?_setImage (image : Picture) :
    (scene.setImage id image).2.ties? j = scene.ties? j := by
  rw [setImage]
  cases scene.node? id with
  | none => rfl
  | some node =>
    simp only
    split
    · exact ties?_modify fun _ => rfl
    · rfl

@[simp] theorem ties?_applyTransform (t : Transform) :
    (scene.applyTransform id t).ties? j = scene.ties? j := by simp [applyTransform]

@[simp] theorem size_setScale (v : Vec3) :
    (scene.setScale id v).nodes.size = scene.nodes.size := size_modify _

@[simp] theorem size_setInteractable (b : Bool) :
    (scene.setInteractable id b).nodes.size = scene.nodes.size := size_modify _

@[simp] theorem size_applyTransform (t : Transform) :
    (scene.applyTransform id t).nodes.size = scene.nodes.size := by simp [applyTransform]

end Fields

/-! ### Making a node -/

theorem create_keeper (hroot : scene.contains root = true) :
    scene.create (scene.keeper parent) name = scene.create parent name := by
  rw [keeper]
  split
  · rfl
  · next h => simp only [create, hroot, if_true, if_neg h]

theorem contains_keeper (parent : NodeId) (hroot : scene.contains root = true) :
    scene.contains (scene.keeper parent) = true := by
  rw [keeper]
  split
  · assumption
  · exact hroot

/-- A new node has no children, and is the last child of its parent. -/
theorem node?_create (hparent : scene.contains parent = true) :
    (scene.create parent name).2.node? j =
      if j = ⟨scene.nodes.size⟩ then some { name, parent := some parent }
      else if j = parent then
        (scene.node? j).map fun p => { p with children := p.children ++ [⟨scene.nodes.size⟩] }
      else scene.node? j := by
  have hne : parent ≠ ⟨scene.nodes.size⟩ := ne_next (lt_size_of_contains hparent)
  simp only [create, hparent, if_true, node?_modify, node?_push]
  by_cases hj : j = ⟨scene.nodes.size⟩
  · subst hj
    rw [if_neg hne.symm, if_pos rfl, if_pos rfl]
  · rw [if_neg hj, if_neg hj]

theorem ties?_create (hparent : scene.contains parent = true) :
    (scene.create parent name).2.ties? j =
      if j = ⟨scene.nodes.size⟩ then some ⟨name, some parent, []⟩
      else if j = parent then (scene.ties? j).map (·.adopt ⟨scene.nodes.size⟩)
      else scene.ties? j := by
  rw [ties?, node?_create hparent]
  split
  · rfl
  · split
    · rw [ties?, Option.map_map, Option.map_map]
      rfl
    · rfl

/-- Where a node is made, the rest of the tree does not matter. -/
theorem SameTree.create (h : scene.SameTree scene') (hparent : scene.contains parent = true)
    (name : String) : (scene.create parent name).2.SameTree (scene'.create parent name).2 where
  size := by rw [size_create, size_create, h.size]
  ties := fun j => by
    have hparent' : scene'.contains parent = true := (contains_congr h.ties).trans hparent
    rw [ties?_create hparent', ties?_create hparent, h.size, h.ties]

namespace IsTree

theorem forest (h : scene.IsTree) : scene.IsForest := ⟨h.child, h.nodup⟩

theorem contains_root (h : scene.IsTree) : scene.contains Scene.root = true := by
  obtain ⟨t, ht, -⟩ := h.root
  exact contains_of_ties? ht

theorem pos (h : scene.IsTree) : 0 < scene.nodes.size := lt_size_of_contains h.contains_root

theorem ne_root (h : scene.IsTree) (hchild : scene.IsChild p id) : id ≠ Scene.root := by
  obtain ⟨t, ht, hmem⟩ := hchild
  intro he
  have hlt := (h.child ht hmem).1
  rw [he] at hlt
  exact Nat.not_lt_zero _ hlt

theorem child_lt_size (h : scene.IsTree) (ht : scene.ties? id = some t) {c : NodeId}
    (hc : c ∈ t.children) : c.index < scene.nodes.size := by
  obtain ⟨-, t', ht', -⟩ := h.child ht hc
  exact lt_size_of_contains (contains_of_ties? ht')

theorem congr (h : scene.IsTree) (hties : ∀ j, scene'.ties? j = scene.ties? j) :
    scene'.IsTree where
  root := by rw [hties]; exact h.root
  parent := by
    intro id t ht hne
    obtain ⟨p, hp, t', ht', hmem⟩ := h.parent (hties id ▸ ht) hne
    exact ⟨p, hp, t', (hties p).trans ht', hmem⟩
  child := by
    intro id t c ht hc
    rw [hties c]
    exact h.child (hties id ▸ ht) hc
  nodup := fun ht => h.nodup (hties _ ▸ ht)

theorem new : Scene.new.IsTree := by
  have hties : ∀ {id t}, Scene.new.ties? id = some t →
      id = Scene.root ∧ t = ⟨"Root", none, []⟩ := by
    intro id t ht
    have hlt := lt_size_of_contains (contains_of_ties? ht)
    obtain rfl : id = Scene.root := ext_index_iff.mpr (Nat.lt_one_iff.mp hlt)
    exact ⟨rfl, (Option.some.inj ht).symm⟩
  refine ⟨⟨_, rfl, rfl⟩, fun ht hne => absurd (hties ht).1 hne, fun ht hc => ?_, fun ht => ?_⟩
  · rw [(hties ht).2] at hc
    cases hc
  · rw [(hties ht).2]
    exact List.nodup_nil

/-- The ties of an old node after a node has been made: at most a child has been added. -/
theorem ties?_create_old (hparent : scene.contains parent = true)
    (ht : (scene.create parent name).2.ties? id = some t) (hne : id ≠ ⟨scene.nodes.size⟩) :
    ∃ t', scene.ties? id = some t' ∧ t.parent = t'.parent ∧
      t.children = if id = parent then t'.children ++ [⟨scene.nodes.size⟩] else t'.children := by
  rw [ties?_create hparent, if_neg hne] at ht
  split at ht
  · next he =>
    obtain ⟨t', ht', rfl⟩ := Option.map_eq_some_iff.mp ht
    exact ⟨t', ht', rfl, (if_pos he).symm⟩
  · next hother => exact ⟨t, ht, rfl, (if_neg hother).symm⟩

/-- An old node is still there after a node has been made, with its parent. -/
theorem exists_ties?_create (name : String) (hparent : scene.contains parent = true)
    (ht : scene.ties? id = some t) :
    ∃ t', (scene.create parent name).2.ties? id = some t' ∧ t'.parent = t.parent ∧
      ∀ c ∈ t.children, c ∈ t'.children := by
  have hne : id ≠ ⟨scene.nodes.size⟩ := ne_next (lt_size_of_contains (contains_of_ties? ht))
  rw [ties?_create hparent, if_neg hne, ht]
  split
  · exact ⟨_, rfl, rfl, fun c hc => List.mem_append_left _ hc⟩
  · exact ⟨t, rfl, rfl, fun c hc => hc⟩

/-- A child stays one wherever a node is made. -/
theorem isChild_create (h : scene.IsTree) (hchild : scene.IsChild p id) (parent : NodeId)
    (name : String) : (scene.create parent name).2.IsChild p id := by
  obtain ⟨t, ht, hmem⟩ := hchild
  rw [← create_keeper h.contains_root]
  obtain ⟨t', ht', -, hkeeps⟩ :=
    exists_ties?_create name (contains_keeper parent h.contains_root) ht
  exact ⟨t', ht', hkeeps id hmem⟩

theorem create_of_contains (h : scene.IsTree) (hparent : scene.contains parent = true) :
    (scene.create parent name).2.IsTree where
  root := by
    obtain ⟨t, ht, hnone⟩ := h.root
    obtain ⟨t', ht', hsame, -⟩ := exists_ties?_create name hparent ht
    exact ⟨t', ht', hsame.trans hnone⟩
  parent := by
    intro id t ht hne
    by_cases hid : id = ⟨scene.nodes.size⟩
    · -- the parent of the new node has just adopted it
      rw [ties?_create hparent, if_pos hid] at ht
      obtain rfl := Option.some.inj ht
      obtain ⟨old, hold⟩ := exists_ties? hparent
      have hne' : parent ≠ ⟨scene.nodes.size⟩ := ne_next (lt_size_of_contains hparent)
      refine ⟨parent, rfl, old.adopt ⟨scene.nodes.size⟩, ?_, ?_⟩
      · rw [ties?_create hparent, if_neg hne', if_pos rfl, hold, Option.map_some]
      · exact List.mem_append_right _ (List.mem_singleton.mpr hid)
    · obtain ⟨old, hold, hsame, -⟩ := ties?_create_old hparent ht hid
      obtain ⟨p, hp, t', ht', hmem⟩ := h.parent hold hne
      obtain ⟨new, hnew, -, hchildren⟩ := exists_ties?_create name hparent ht'
      exact ⟨p, hsame.trans hp, new, hnew, hchildren _ hmem⟩
  child := by
    intro id t c ht hc
    by_cases hid : id = ⟨scene.nodes.size⟩
    · rw [ties?_create hparent, if_pos hid] at ht
      obtain rfl := Option.some.inj ht
      cases hc
    · obtain ⟨old, hold, -, hchildren⟩ := ties?_create_old hparent ht hid
      have hold' : c ∈ old.children → id.index < c.index ∧
          ∃ t', (scene.create parent name).2.ties? c = some t' ∧ t'.parent = some id := by
        intro hmem
        obtain ⟨hlt, t', ht', hp⟩ := h.child hold hmem
        obtain ⟨new, hnew, hsame, -⟩ := exists_ties?_create name hparent ht'
        exact ⟨hlt, new, hnew, hsame.trans hp⟩
      rw [hchildren] at hc
      split at hc
      · next he =>
        rcases List.mem_append.mp hc with hmem | hmem
        · exact hold' hmem
        · obtain rfl := List.mem_singleton.mp hmem
          refine ⟨lt_size_of_contains (contains_of_ties? hold), _,
            (ties?_create hparent).trans (if_pos rfl), congrArg some he.symm⟩
      · exact hold' hc
  nodup := by
    intro id t ht
    by_cases hid : id = ⟨scene.nodes.size⟩
    · rw [ties?_create hparent, if_pos hid] at ht
      obtain rfl := Option.some.inj ht
      exact List.nodup_nil
    · obtain ⟨old, hold, -, hchildren⟩ := ties?_create_old hparent ht hid
      rw [hchildren]
      split
      · -- the new id is larger than those of all children
        refine List.nodup_append.mpr ⟨h.nodup hold, by simp, ?_⟩
        rintro c hc _ hnew rfl
        obtain rfl := List.mem_singleton.mp hnew
        exact Nat.lt_irrefl _ (h.child_lt_size hold hc)
      · exact h.nodup hold

/-- A tree with one more node is a tree. -/
theorem create (h : scene.IsTree) (parent : NodeId) (name : String) :
    (scene.create parent name).2.IsTree := by
  rw [← create_keeper h.contains_root]
  exact h.create_of_contains (contains_keeper parent h.contains_root)

end IsTree

end Uiml.Scene
