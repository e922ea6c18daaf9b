import Mathlib.Data.List.Nodup
import Uiml.Proofs.Scene.Uproot

/-!
# Well-formed scenes

Whatever is done to a new scene, with whatever ids, it stays a tree: parents and children know of
each other, and every node is found from the root. To destroy a node takes away what lies at or
below it, and an id that has been given out is not given out again.

## Main definitions

* `Scene.Edit`, `Scene.afterAll` — what can be done to a scene, and what that leaves
* `Scene.issued` — the ids that are given out
* `Scene.WellFormed` — parents and children know of each other
* `Scene.Destroys` — what the destruction of a node leaves

## Main results

* `Scene.wellFormed_afterAll` — what holds after all that can be done to a new scene
-/

namespace Uiml.Scene

open Relation

/-- What can be done to a scene. -/
inductive Edit
  | create (parent : NodeId) (name : String)
  | destroy (id : NodeId)
  | setPosition (id : NodeId) (position : Vec2)
  | setSize (id : NodeId) (size : Vec2)
  | setAnchors (id : NodeId) (anchorMin anchorMax : Vec2)
  | setPivot (id : NodeId) (pivot : Vec2)
  | setScale (id : NodeId) (scale : Vec3)
  | setAlpha (id : NodeId) (alpha : Float32)
  | setInteractable (id : NodeId) (interactable : Bool)
  | attach (id : NodeId) (component : Component)
  | setText (id : NodeId) (text : String)
  | setImage (id : NodeId) (image : Picture)
  | setSliderValue (id : NodeId) (value : Float32)
  | setToggle (id : NodeId) (isOn : Bool)

/-- The scene after something has been done to it. -/
def after (scene : Scene) : Edit → Scene
  | .create parent name => (scene.create parent name).2
  | .destroy id => scene.destroy id
  | .setPosition id position => scene.setPosition id position
  | .setSize id size => scene.setSize id size
  | .setAnchors id anchorMin anchorMax => scene.setAnchors id anchorMin anchorMax
  | .setPivot id pivot => scene.setPivot id pivot
  | .setScale id scale => scene.setScale id scale
  | .setAlpha id alpha => scene.setAlpha id alpha
  | .setInteractable id interactable => scene.setInteractable id interactable
  | .attach id component => scene.attach id component
  | .setText id text => (scene.setText id text).2
  | .setImage id image => (scene.setImage id image).2
  | .setSliderValue id value => (scene.setSliderValue id value).2
  | .setToggle id isOn => (scene.setToggle id isOn).2

/-- The id that is given out, if one is. -/
def issued? (scene : Scene) : Edit → Option NodeId
  | .create parent name => some (scene.create parent name).1
  | _ => none

/-- The scene after some things have been done to it. -/
def afterAll (scene : Scene) (edits : List Edit) : Scene := edits.foldl after scene

/-- The ids that are given out, in order. -/
def issued (scene : Scene) : List Edit → List NodeId
  | [] => []
  | edit :: edits => (scene.issued? edit).toList ++ (scene.after edit).issued edits

/-- Parents and children know of each other, up to the root, from which all nodes are found. -/
structure WellFormed (scene : Scene) : Prop where
  /-- The root is live, and has no parent. -/
  root : ∃ node, scene.node? root = some node ∧ node.parent = none
  /-- Every other live node has a live parent with a smaller id, which lists it once. -/
  parent : ∀ id node, scene.node? id = some node → id ≠ Scene.root →
    ∃ p parent, node.parent = some p ∧ scene.node? p = some parent ∧ p.index < id.index ∧
      parent.children.count id = 1
  /-- What a node lists as its children is live, and names it as its parent. -/
  child : ∀ id node, scene.node? id = some node → ∀ c ∈ node.children,
    ∃ child, scene.node? c = some child ∧ child.parent = some id
  /-- Every live node is found from the root, going from nodes to their children. -/
  reachable : ∀ id, scene.contains id = true → scene.Below Scene.root id

/-- What the destruction of a node leaves. -/
structure Destroys (scene : Scene) (id : NodeId) (scene' : Scene) : Prop where
  /-- Nothing changes if the node is not there. -/
  unknown : scene.contains id = false → scene' = scene
  /-- A node other than the root is gone, and all below it. -/
  gone : id ≠ root → scene.contains id = true → ∀ j, scene.Below id j → scene'.node? j = none
  /-- The other nodes are as they were, but for the parent, which has lost a child. -/
  rest : id ≠ root → scene.contains id = true → ∀ j, ¬scene.Below id j →
    scene'.node? j = (scene.node? j).map (Node.without id)
  /-- If it is the root, the other nodes are gone. -/
  goneRoot : id = root → ∀ j, j ≠ root → scene'.node? j = none
  /-- The root itself stays as it was, but for its children. -/
  restRoot : id = root →
    scene'.node? root = (scene.node? root).map fun node => { node with children := [] }

variable {scene scene' : Scene} {id j : NodeId}

theorem afterAll_cons (edit : Edit) (edits : List Edit) :
    scene.afterAll (edit :: edits) = (scene.after edit).afterAll edits := List.foldl_cons ..

/-- A node is made, a node is destroyed, or the tree stays as it is. -/
theorem after_cases (scene : Scene) (edit : Edit) :
    (∃ parent name, edit = .create parent name) ∨ (∃ id, edit = .destroy id) ∨
      scene.SameTree (scene.after edit) ∧ scene.issued? edit = none := by
  cases edit with
  | create parent name => exact .inl ⟨parent, name, rfl⟩
  | destroy id => exact .inr (.inl ⟨id, rfl⟩)
  | setText | setSliderValue | setToggle =>
    exact .inr (.inr ⟨⟨size_replaceComponent .., fun _ => ties?_replaceComponent ..⟩, rfl⟩)
  | setImage => exact .inr (.inr ⟨⟨size_setImage .., fun _ => ties?_setImage ..⟩, rfl⟩)
  | _ => exact .inr (.inr ⟨⟨size_modify _, fun _ => ties?_modify fun _ => rfl⟩, rfl⟩)

/-! ### What holds of a tree -/

namespace IsTree

/-- The way up from a node ends at the root. -/
theorem below_root (h : scene.IsTree) (hid : scene.contains id = true) :
    scene.Below Scene.root id := by
  induction hn : id.index using Nat.strongRecOn generalizing id with
  | ind n ih =>
    subst hn
    by_cases hroot : id = Scene.root
    · exact hroot ▸ .refl
    · obtain ⟨t, ht⟩ := exists_ties? hid
      obtain ⟨p, -, hchild⟩ := h.parent ht hroot
      obtain ⟨parent, hp, -⟩ := exists_node?_of_isChild hchild
      exact (ih p.index (h.forest.index_lt_of_isChild hchild)
        (contains_iff.mpr ⟨parent, hp⟩) rfl).tail hchild

theorem wellFormed (h : scene.IsTree) : scene.WellFormed where
  root := by
    obtain ⟨t, ht, hparent⟩ := h.root
    obtain ⟨node, hnode, rfl⟩ := Option.map_eq_some_iff.mp ht
    exact ⟨node, hnode, hparent⟩
  parent := by
    intro id node hnode hne
    have ht : scene.ties? id = some node.ties := by rw [ties?, hnode, Option.map_some]
    obtain ⟨p, hp, hchild⟩ := h.parent ht hne
    obtain ⟨parent, hparent, hmem⟩ := exists_node?_of_isChild hchild
    have hnodup : parent.children.Nodup := h.nodup (by rw [ties?, hparent, Option.map_some])
    exact ⟨p, parent, hp, hparent, h.forest.index_lt_of_isChild hchild,
      List.count_eq_one_of_mem hnodup hmem⟩
  child := by
    intro id node hnode c hc
    have hchild := isChild_of_node? hnode hc
    obtain ⟨child, hlive⟩ := contains_iff.mp (h.forest.contains_of_isChild hchild)
    exact ⟨child, hlive, h.forest.parent_of_isChild hlive hchild⟩
  reachable := fun _ hid => h.below_root hid

theorem destroys (h : scene.IsTree) (id : NodeId) : scene.Destroys id (scene.destroy id) := by
  have hbranch : id ≠ Scene.root →
      scene.Thins (scene.Below id) (Node.without id) (scene.destroy id) := by
    intro hne
    rw [Scene.destroy, if_neg hne]
    exact h.thins_destroyBranch hne
  obtain ⟨node, hnode, hparent⟩ := h.wellFormed.root
  have hroot (j : NodeId) : (scene.destroy Scene.root).node? j =
      if j = Scene.root then some node.face else none := h.node?_destroy_root ⟨node, hnode, rfl⟩
  refine ⟨fun hid => ?_, fun hne _ => (hbranch hne).gone, fun hne _ => (hbranch hne).rest, ?_, ?_⟩
  · have hne : id ≠ Scene.root := by
      rintro rfl
      rw [h.contains_root] at hid
      cases hid
    rw [contains, Option.isSome_eq_false_iff, Option.isNone_iff_eq_none] at hid
    exact (hbranch hne).unique (h.forest.thins_self hid)
  · rintro rfl j hj
    rw [hroot, if_neg hj]
  · rintro rfl
    rw [hroot, if_pos rfl, hnode, Option.map_some, Node.face, ← hparent]

theorem after (h : scene.IsTree) (edit : Edit) : (scene.after edit).IsTree := by
  rcases scene.after_cases edit with ⟨parent, name, rfl⟩ | ⟨id, rfl⟩ | ⟨hsame, -⟩
  · exact h.create parent name
  · exact h.destroy id
  · exact h.congr hsame.ties

theorem afterAll (h : scene.IsTree) (edits : List Edit) : (scene.afterAll edits).IsTree := by
  induction edits generalizing scene with
  | nil => exact h
  | cons edit edits ih => exact ih (h.after edit)

end IsTree

/-! ### Ids -/

theorem size_after (scene : Scene) (edit : Edit) :
    (scene.after edit).nodes.size = scene.nodes.size + (scene.issued? edit).toList.length := by
  rcases scene.after_cases edit with ⟨parent, name, rfl⟩ | ⟨id, rfl⟩ | ⟨hsame, hnone⟩
  · exact size_create
  · exact size_destroy
  · rw [hsame.size, hnone]
    rfl

/-- Ids are given out in order, starting with the number of nodes that have been made. -/
theorem issued_eq (scene : Scene) (edits : List Edit) :
    scene.issued edits =
      (List.range' scene.nodes.size (scene.issued edits).length).map NodeId.mk := by
  induction edits generalizing scene with
  | nil => rfl
  | cons edit edits ih =>
    rw [issued, List.length_append, ← List.range'_append_1, List.map_append, ← size_after, ← ih]
    congr 1
    cases edit <;> rfl

/-- A node that is live after a destruction was live before. -/
theorem Destroys.contains (h : scene.Destroys id scene') (hj : scene'.contains j = true) :
    scene.contains j = true := by
  obtain ⟨node', hnode'⟩ := contains_iff.mp hj
  cases hid : scene.contains id with
  | false => rwa [h.unknown hid] at hj
  | true =>
    by_cases hne : id = root
    · by_cases hroot : j = root
      · rw [hroot, ← hne]
        exact hid
      · rw [h.goneRoot hne j hroot] at hnode'
        cases hnode'
    · by_cases hbelow : scene.Below id j
      · rw [h.gone hne hid j hbelow] at hnode'
        cases hnode'
      · rw [h.rest hne hid j hbelow] at hnode'
        obtain ⟨node, hnode, -⟩ := Option.map_eq_some_iff.mp hnode'
        exact contains_iff.mpr ⟨node, hnode⟩

/-- A node that is live after an edit was live before, or has just been given its id. -/
theorem IsTree.contains_of_after (h : scene.IsTree) {edit : Edit}
    (hid : (scene.after edit).contains id = true) :
    scene.contains id = true ∨ id ∈ (scene.issued? edit).toList := by
  rcases scene.after_cases edit with ⟨parent, name, rfl⟩ | ⟨id, rfl⟩ | ⟨hsame, -⟩
  · have hshows := shows_create.mp (shows_true hid)
    by_cases hnew : id = ⟨scene.nodes.size⟩
    · exact .inr (List.mem_singleton.mpr hnew)
    · rw [if_neg hnew] at hshows
      exact .inl hshows.contains
  · exact .inl ((h.destroys id).contains hid)
  · exact .inl ((contains_congr hsame.ties).symm.trans hid)

theorem IsTree.contains_of_afterAll (h : scene.IsTree) {edits : List Edit}
    (hid : (scene.afterAll edits).contains id = true) :
    scene.contains id = true ∨ id ∈ scene.issued edits := by
  induction edits generalizing scene with
  | nil => exact .inl hid
  | cons edit edits ih =>
    rcases ih (h.after edit) hid with hlive | hissued
    · exact (h.contains_of_after hlive).imp_right fun hmem => List.mem_append_left _ hmem
    · exact .inr (List.mem_append_right _ hissued)

theorem size_afterAll (scene : Scene) (edits : List Edit) :
    (scene.afterAll edits).nodes.size = scene.nodes.size + (scene.issued edits).length := by
  induction edits generalizing scene with
  | nil => rfl
  | cons edit edits ih =>
    rw [afterAll_cons, ih, size_after, issued, List.length_append, Nat.add_assoc]

theorem le_index_of_mem_issued {edits : List Edit} (h : id ∈ scene.issued edits) :
    scene.nodes.size ≤ id.index ∧ id.index < scene.nodes.size + (scene.issued edits).length := by
  rw [issued_eq] at h
  obtain ⟨i, hi, rfl⟩ := List.mem_map.mp h
  exact List.mem_range'_1.mp hi

/-! ### New scenes -/

/-- Whatever is done to a new scene, with whatever ids, leaves it well-formed. The destruction of a
node, one node after the other, goes no deeper than there have been nodes, and takes away the nodes
at and below it and no others. Ids are given out in order, so that the id of a node that has been
destroyed is not given out again. -/
theorem wellFormed_afterAll (edits : List Edit) :
    (Scene.new.afterAll edits).WellFormed ∧
    (∀ id, ∃ scene',
      (∀ levels, (Scene.new.afterAll edits).nodes.size < levels →
        uproot levels (Scene.new.afterAll edits) id = some scene') ∧
      (Scene.new.afterAll edits).destroy id = scene' ∧
      (Scene.new.afterAll edits).Destroys id scene') ∧
    Scene.new.issued edits = (List.range' 1 (Scene.new.issued edits).length).map NodeId.mk ∧
    ∀ id, id = root ∨ id ∈ Scene.new.issued edits →
      (Scene.new.afterAll edits).contains id = false → ∀ more : List Edit,
        id ∉ (Scene.new.afterAll edits).issued more ∧
          ((Scene.new.afterAll edits).afterAll more).contains id = false := by
  have htree : (Scene.new.afterAll edits).IsTree := IsTree.new.afterAll edits
  refine ⟨htree.wellFormed, fun id => ⟨_, fun _ => htree.uproot id, rfl, htree.destroys id⟩,
    issued_eq .new edits, fun id hid hdead more => ?_⟩
  -- the id is smaller than those that are still to be given out
  have hlt : id.index < (Scene.new.afterAll edits).nodes.size := by
    rw [size_afterAll]
    rcases hid with rfl | hissued
    · exact Nat.lt_of_lt_of_le Nat.zero_lt_one (Nat.le_add_right _ _)
    · exact (le_index_of_mem_issued hissued).2
  have hfresh : id ∉ (Scene.new.afterAll edits).issued more := fun hmem =>
    Nat.not_lt_of_le (le_index_of_mem_issued hmem).1 hlt
  refine ⟨hfresh, Bool.eq_false_iff.mpr fun hlive => ?_⟩
  rcases htree.contains_of_afterAll hlive with hold | hnew
  · rw [hdead] at hold
    cases hold
  · exact hfresh hnew

/-- A node below another, which is destroyed with it, and a node that is to be made below one that
is gone. -/
def regrowth : List Edit :=
  [.create root "a", .create ⟨1⟩ "b", .destroy ⟨1⟩, .create ⟨2⟩ "c"]

/-- The last node is made below the root, and the ids of the others stay dead. -/
theorem wellFormed_regrowth :
    (Scene.new.afterAll regrowth).children root = [⟨3⟩] ∧
      Scene.new.issued regrowth = [⟨1⟩, ⟨2⟩, ⟨3⟩] ∧
      (Scene.new.afterAll regrowth).contains ⟨2⟩ = false ∧
      ((Scene.new.afterAll regrowth).afterAll [.create root "b"]).contains ⟨2⟩ = false := by
  have hissued : Scene.new.issued regrowth = [⟨1⟩, ⟨2⟩, ⟨3⟩] := by decide
  have hdead : (Scene.new.afterAll regrowth).contains ⟨2⟩ = false := by decide
  obtain ⟨-, -, -, hstay⟩ := wellFormed_afterAll regrowth
  have hmem : (⟨2⟩ : NodeId) ∈ Scene.new.issued regrowth := by rw [hissued]; decide
  exact ⟨by decide, hissued, hdead, (hstay ⟨2⟩ (.inr hmem) hdead [.create root "b"]).2⟩

end Uiml.Scene
