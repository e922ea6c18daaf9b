import Uiml.Proofs.Scene.Branch

/-!
# Destroying nodes one by one

A node may be destroyed by taking it out of the scene at once, before the nodes below it, and going
on with the children that it had. On the way nodes are left whose parent is gone, so that the scene
is no tree until all is done; and if a node were its own descendant, the destruction would never
end. On a tree it goes no deeper than there are nodes, and takes away the branch of the node.

## Main definitions

* `Scene.uproot` — the nodes at and below a node are taken out one by one, parents first
* `Scene.Thins` — some nodes are gone, and the others have changed in some way

## Main results

* `Scene.IsForest.uproot` — the destruction ends, and only the nodes at and below the node are gone
* `Scene.IsTree.uproot` — the branch of the node is gone, and nothing else
-/

namespace Uiml.Scene

open Relation

/-- The node without a child. -/
def Node.without (id : NodeId) (node : Node) : Node :=
  { node with children := node.children.filter (· ≠ id) }

/-- The scene without a node, which is taken off the list of its parent, if that is still there. -/
def pluck (scene : Scene) (id : NodeId) (parent : Option NodeId) : Scene :=
  match parent with
  | none => scene.erase [id]
  | some parent => (scene.erase [id]).modify parent (Node.without id)

/-- The scene after a node has been taken out, and then, one after the other, the children that it
had, with all below them; there is none if that goes deeper than a number of levels. The root
stays. -/
def uproot : Nat → Scene → NodeId → Option Scene
  | 0, _, _ => none
  | levels + 1, scene, id =>
    if id = root then (scene.children root).foldlM (uproot levels) scene
    else
      match scene.node? id with
      | none => some scene
      | some node => node.children.foldlM (uproot levels) (scene.pluck id node.parent)

/-- Some nodes of a scene are gone, and the others are what a function makes of them. -/
structure Thins (lost : NodeId → Prop) (f : Node → Node) (scene scene' : Scene) : Prop where
  size : scene'.nodes.size = scene.nodes.size
  gone : ∀ j, lost j → scene'.node? j = none
  rest : ∀ j, ¬lost j → scene'.node? j = (scene.node? j).map f

variable {scene scene' scene'' : Scene} {id j c parent p : NodeId} {lost : NodeId → Prop}
  {f : Node → Node} {node : Node} {t : Node.Ties}

/-- A scene is known by the number of nodes that have been made, and by those that are live. -/
theorem eq_of_node? (hsize : scene'.nodes.size = scene.nodes.size)
    (hnode : ∀ j, scene'.node? j = scene.node? j) : scene' = scene := by
  obtain ⟨nodes⟩ := scene
  obtain ⟨nodes'⟩ := scene'
  refine congrArg Scene.mk (Array.ext hsize fun i hi hi' => ?_)
  have hat := hnode ⟨i⟩
  simpa only [node?, Array.getElem?_eq_getElem hi, Array.getElem?_eq_getElem hi', Option.join_some]
    using hat

theorem Thins.unique (h : scene.Thins lost f scene') (h' : scene.Thins lost f scene'') :
    scene' = scene'' := by
  refine eq_of_node? (h.size.trans h'.size.symm) fun j => ?_
  by_cases hj : lost j
  · rw [h.gone j hj, h'.gone j hj]
  · rw [h.rest j hj, h'.rest j hj]

theorem Node.without_eq_self (h : id ∉ node.children) : node.without id = node := by
  have hkept : node.children.filter (· ≠ id) = node.children :=
    List.filter_eq_self.mpr fun c hc => decide_eq_true fun he => h (he ▸ hc)
  rw [Node.without, hkept]

theorem isChild_of_node? (hnode : scene.node? p = some node) (hmem : c ∈ node.children) :
    scene.IsChild p c := ⟨node.ties, by rw [ties?, hnode, Option.map_some], hmem⟩

theorem exists_node?_of_isChild (h : scene.IsChild p c) :
    ∃ node, scene.node? p = some node ∧ c ∈ node.children := by
  obtain ⟨t, ht, hmem⟩ := h
  obtain ⟨node, hnode, rfl⟩ := Option.map_eq_some_iff.mp ht
  exact ⟨node, hnode, hmem⟩

/-- A node that no node lists may be taken off all lists. -/
theorem map_without (h : ¬scene.IsChild j c) :
    (scene.node? j).map (Node.without c) = scene.node? j := by
  cases hj : scene.node? j with
  | none => rfl
  | some node =>
    have hmem : c ∉ node.children := fun hmem => h (isChild_of_node? hj hmem)
    rw [Option.map_some, Node.without_eq_self hmem]

/-! ### Scenes without some nodes -/

namespace Thins

/-- A child of a node that is left is left as one, unless it is taken off the lists. -/
theorem isChild_iff (h : scene.Thins lost (Node.without id) scene') :
    scene'.IsChild p c ↔ scene.IsChild p c ∧ ¬lost p ∧ c ≠ id := by
  constructor
  · intro hchild
    obtain ⟨node', hnode', hmem⟩ := exists_node?_of_isChild hchild
    have hp : ¬lost p := fun hp => by
      rw [h.gone p hp] at hnode'
      cases hnode'
    rw [h.rest p hp] at hnode'
    obtain ⟨node, hnode, rfl⟩ := Option.map_eq_some_iff.mp hnode'
    obtain ⟨hmem, hne⟩ := List.mem_filter.mp hmem
    exact ⟨isChild_of_node? hnode hmem, hp, of_decide_eq_true hne⟩
  · rintro ⟨hchild, hp, hne⟩
    obtain ⟨node, hnode, hmem⟩ := exists_node?_of_isChild hchild
    have hnode' : scene'.node? p = some (node.without id) := by
      rw [h.rest p hp, hnode, Option.map_some]
    exact isChild_of_node? hnode' (List.mem_filter.mpr ⟨hmem, decide_eq_true hne⟩)

/-- What is left is a forest, if the children of nodes that are left are left, or taken off. -/
theorem forest (h : scene.Thins lost (Node.without id) scene') (hforest : scene.IsForest)
    (hclosed : ∀ {p c}, scene.IsChild p c → ¬lost p → c ≠ id → ¬lost c) : scene'.IsForest := by
  have hold : ∀ {j t'}, scene'.ties? j = some t' →
      ¬lost j ∧ ∃ t, scene.ties? j = some t ∧ t' = t.disown id := by
    intro j t' ht'
    obtain ⟨node', hnode', rfl⟩ := Option.map_eq_some_iff.mp ht'
    have hj : ¬lost j := fun hj => by
      rw [h.gone j hj] at hnode'
      cases hnode'
    rw [h.rest j hj] at hnode'
    obtain ⟨node, hnode, rfl⟩ := Option.map_eq_some_iff.mp hnode'
    exact ⟨hj, node.ties, by rw [ties?, hnode, Option.map_some], rfl⟩
  refine ⟨fun {j t' c} ht' hc => ?_, fun {j t'} ht' => ?_⟩
  · obtain ⟨hj, t, ht, rfl⟩ := hold ht'
    obtain ⟨hmem, hne⟩ := List.mem_filter.mp hc
    obtain ⟨hlt, tc, htc, hparent⟩ := hforest.child ht hmem
    have hcleft : ¬lost c := hclosed ⟨t, ht, hmem⟩ hj (of_decide_eq_true hne)
    obtain ⟨child, hchild, rfl⟩ := Option.map_eq_some_iff.mp htc
    refine ⟨hlt, (child.without id).ties, ?_, hparent⟩
    rw [ties?, h.rest c hcleft, hchild, Option.map_some, Option.map_some]
  · obtain ⟨-, t, ht, rfl⟩ := hold ht'
    exact (hforest.nodup ht).filter _

/-- A node that no node lists need not be taken off. -/
theorem of_top (h : scene.Thins lost (Node.without id) scene') (htop : ∀ p, ¬scene.IsChild p id) :
    scene.Thins lost (fun node => node) scene' where
  size := h.size
  gone := h.gone
  rest := fun j hj => by rw [h.rest j hj, map_without (htop j), Option.map_id']

end Thins

namespace IsForest

theorem not_isChild_of_node?_eq_none (h : scene.IsForest) (hid : scene.node? id = none) (p : NodeId) :
    ¬scene.IsChild p id := by
  intro hchild
  have hlive := h.contains_of_isChild hchild
  rw [contains, hid] at hlive
  cases hlive

/-- Nodes know their parent. -/
theorem parent_of_isChild (h : scene.IsForest) (hnode : scene.node? id = some node)
    (hchild : scene.IsChild p id) : node.parent = some p := by
  obtain ⟨t, ht, hmem⟩ := hchild
  obtain ⟨-, t', ht', hparent⟩ := h.child ht hmem
  rw [ties?, hnode, Option.map_some, Option.some.injEq] at ht'
  subst ht'
  exact hparent

/-- To pluck a node takes it away, and off the list of its parent. -/
theorem thins_pluck (h : scene.IsForest) (hnode : scene.node? id = some node) :
    scene.Thins (· = id) (Node.without id) (scene.pluck id node.parent) := by
  have herase : ∀ j, (scene.erase [id]).node? j = if j = id then none else scene.node? j := by
    intro j
    simp only [node?_erase, List.mem_singleton]
  cases hparent : node.parent with
  | none =>
    -- no node lists a node that has no parent
    have htop : ∀ j, ¬scene.IsChild j id := fun j hchild => by
      rw [h.parent_of_isChild hnode hchild] at hparent
      cases hparent
    refine ⟨by simp [pluck, erase], fun j hj => ?_, fun j hj => ?_⟩
    · rw [pluck, herase, if_pos hj]
    · rw [pluck, herase, if_neg hj, map_without (htop j)]
  | some p =>
    refine ⟨by simp [pluck, erase], fun j hj => ?_, fun j hj => ?_⟩
    · rw [pluck, node?_modify, herase, if_pos hj]
      split <;> rfl
    · rw [pluck, node?_modify, herase, if_neg hj]
      split
      · rfl
      · next hne =>
        refine (map_without fun hchild => hne ?_).symm
        exact Option.some.inj ((h.parent_of_isChild hnode hchild).symm.trans hparent)

/-- A branch of a forest may be taken away. -/
theorem thinned (h : scene.IsForest) (hthins : scene.Thins (scene.Below id) (Node.without id) scene') :
    scene'.IsForest := by
  refine hthins.forest h fun hchild hp hne => ?_
  obtain ⟨t, ht, hmem⟩ := hchild
  exact h.not_below_of_mem_children hp ht hmem hne

theorem plucked (h : scene.IsForest) (hnode : scene.node? id = some node) :
    (scene.pluck id node.parent).IsForest :=
  (h.thins_pluck hnode).forest h fun _ _ hne => hne

/-- Below a child of a node nothing changes when the node is plucked. -/
theorem below_plucked (h : scene.IsForest) (hnode : scene.node? id = some node)
    (hc : c ∈ node.children) (hbelow : scene.Below c j) :
    (scene.pluck id node.parent).Below c j := by
  have hthins := h.thins_pluck hnode
  have hlt : id.index < c.index := h.index_lt_of_isChild (isChild_of_node? hnode hc)
  -- all that lies below the child has a larger id than the node
  have hne : ∀ {b}, scene.Below c b → b ≠ id := by
    rintro b hb rfl
    rcases h.below_cases hb with rfl | ⟨hlt', -⟩
    · exact Nat.lt_irrefl _ hlt
    · exact Nat.lt_asymm hlt hlt'
  induction hbelow with
  | refl => exact .refl
  | tail hb hlast ih => exact ih.tail (hthins.isChild_iff.mpr ⟨hlast, hne hb, hne (hb.tail hlast)⟩)

/-- What does not lie on a branch that has been taken away lies below the same nodes as before. -/
theorem below_thinned (hthins : scene.Thins (scene.Below c) (Node.without c) scene')
    (htop : ∀ p, ¬scene.IsChild p c) (hj : ¬scene.Below c j) :
    scene'.Below id j ↔ scene.Below id j := by
  constructor
  · exact Below.mono fun hchild => (hthins.isChild_iff.mp hchild).1
  · intro hbelow
    induction hbelow with
    | refl => exact .refl
    | tail hb hlast ih =>
      -- nothing on the way down to the node lies on the branch
      have hoff := fun hbelow => hj (ReflTransGen.tail hbelow hlast)
      refine (ih hoff).tail (hthins.isChild_iff.mpr ⟨hlast, hoff, ?_⟩)
      rintro rfl
      exact htop _ hlast

/-! ### The end of the destruction -/

/-- If nodes that no node lists can each be destroyed, so can all of them one after the other. -/
theorem foldlM_uproot {levels : Nat} {nodes : List NodeId} (h : scene.IsForest)
    (hends : ∀ scene' : Scene, scene'.IsForest → scene'.nodes.size = scene.nodes.size →
      ∀ c ∈ nodes, ∃ out, uproot levels scene' c = some out ∧
        scene'.Thins (scene'.Below c) (Node.without c) out)
    (htop : ∀ c ∈ nodes, ∀ p, ¬scene.IsChild p c) :
    ∃ out, nodes.foldlM (uproot levels) scene = some out ∧
      scene.Thins (fun j => ∃ c ∈ nodes, scene.Below c j) (fun node => node) out := by
  induction nodes generalizing scene with
  | nil =>
    refine ⟨scene, rfl, rfl, ?_, fun j _ => Option.map_id'.symm⟩
    rintro j ⟨c, hc, -⟩
    cases hc
  | cons c rest ih =>
    obtain ⟨hctop, hresttop⟩ := List.forall_mem_cons.mp htop
    obtain ⟨first, hfirst, hthins⟩ := hends scene h rfl c List.mem_cons_self
    obtain ⟨out, hout, hthins'⟩ := ih (h.thinned hthins)
      (fun scene' hscene' hsize d hd =>
        hends scene' hscene' (hsize.trans hthins.size) d (List.mem_cons_of_mem _ hd))
      (fun d hd p hchild => hresttop d hd p (hthins.isChild_iff.mp hchild).1)
    refine ⟨out, ?_, hthins'.size.trans hthins.size, ?_, ?_⟩
    · rw [List.foldlM_cons, hfirst]
      exact hout
    · intro j hlost
      by_cases hj : scene.Below c j
      · -- what is gone does not come back
        by_cases hj' : ∃ d ∈ rest, first.Below d j
        · exact hthins'.gone j hj'
        · rw [hthins'.rest j hj', hthins.gone j hj, Option.map_none]
      · obtain ⟨d, hd, hbelow⟩ := hlost
        rcases List.mem_cons.mp hd with rfl | hd
        · exact absurd hbelow hj
        · exact hthins'.gone j ⟨d, hd, (below_thinned hthins hctop hj).mpr hbelow⟩
    · intro j hkept
      have hj : ¬scene.Below c j := fun hbelow => hkept ⟨c, List.mem_cons_self, hbelow⟩
      have hj' : ¬∃ d ∈ rest, first.Below d j := by
        rintro ⟨d, hd, hbelow⟩
        exact hkept ⟨d, List.mem_cons_of_mem _ hd, (below_thinned hthins hctop hj).mp hbelow⟩
      rw [hthins'.rest j hj', (hthins.of_top hctop).rest j hj, Option.map_id', Option.map_id']

/-- The nodes below a node are below its children. -/
theorem below_iff (h : scene.IsForest) (hnode : scene.node? id = some node) :
    scene.Below id j ↔
      j = id ∨ ∃ c ∈ node.children, (scene.pluck id node.parent).Below c j := by
  constructor
  · intro hbelow
    rcases ReflTransGen.cases_head hbelow with rfl | ⟨c, hchild, hrest⟩
    · exact .inl rfl
    · obtain ⟨node', hnode', hc⟩ := exists_node?_of_isChild hchild
      obtain rfl : node = node' := Option.some.inj (hnode.symm.trans hnode')
      exact .inr ⟨c, hc, h.below_plucked hnode hc hrest⟩
  · rintro (rfl | ⟨c, hc, hbelow⟩)
    · exact .refl
    · refine .head (isChild_of_node? hnode hc) (hbelow.mono fun hchild => ?_)
      exact ((h.thins_pluck hnode).isChild_iff.mp hchild).1

/-- A node that is not there is missed by nobody. -/
theorem thins_self (h : scene.IsForest) (hnode : scene.node? id = none) :
    scene.Thins (scene.Below id) (Node.without id) scene where
  size := rfl
  gone := by
    intro j hbelow
    rcases ReflTransGen.cases_head hbelow with rfl | ⟨c, hchild, -⟩
    · exact hnode
    · obtain ⟨node, hnode', -⟩ := exists_node?_of_isChild hchild
      rw [hnode] at hnode'
      cases hnode'
  rest := fun j _ => (map_without (h.not_isChild_of_node?_eq_none hnode j)).symm

/-- The destruction of a node ends, and takes away the nodes at and below it and no others. -/
theorem uproot {levels : Nat} (h : scene.IsForest) (hne : id ≠ root)
    (hlevels : scene.nodes.size - id.index < levels) :
    ∃ out, uproot levels scene id = some out ∧
      scene.Thins (scene.Below id) (Node.without id) out := by
  -- ids increase on the way down, and no new ones are given out
  induction levels generalizing scene id with
  | zero => exact absurd hlevels (Nat.not_lt_zero _)
  | succ levels ih =>
    rw [Scene.uproot, if_neg hne]
    cases hnode : scene.node? id with
    | none => exact ⟨scene, rfl, h.thins_self hnode⟩
    | some node =>
      have hthins := h.thins_pluck hnode
      have hlt : id.index < scene.nodes.size := lt_size_of_contains (contains_iff.mpr ⟨node, hnode⟩)
      have hlarger : ∀ c ∈ node.children, id.index < c.index := fun c hc =>
        h.index_lt_of_isChild (isChild_of_node? hnode hc)
      have htop : ∀ c ∈ node.children, ∀ p, ¬(scene.pluck id node.parent).IsChild p c := by
        intro c hc p hchild
        -- the node was the only one to list its child
        obtain ⟨hchild, hp, -⟩ := hthins.isChild_iff.mp hchild
        obtain ⟨child, hlive⟩ := contains_iff.mp (h.contains_of_isChild hchild)
        have hparent := h.parent_of_isChild hlive hchild
        have hparent' := h.parent_of_isChild hlive (isChild_of_node? hnode hc)
        exact hp (Option.some.inj (hparent.symm.trans hparent'))
      obtain ⟨out, hout, hall⟩ := foldlM_uproot (h.plucked hnode)
        (fun scene' hscene' hsize c hc => by
          have hlt' := hlarger c hc
          have hroot : c ≠ root := fun he => by rw [he] at hlt'; exact Nat.not_lt_zero _ hlt'
          have hsize' := hsize.trans hthins.size
          exact ih hscene' hroot (by omega)) htop
      refine ⟨out, hout, hall.size.trans hthins.size, fun j hj => ?_, fun j hj => ?_⟩
      · by_cases hlost : ∃ c ∈ node.children, (scene.pluck id node.parent).Below c j
        · exact hall.gone j hlost
        · have hid : j = id := ((h.below_iff hnode).mp hj).resolve_right hlost
          rw [hall.rest j hlost, hthins.gone j hid, Option.map_none]
      · have hkept := fun hlost => hj ((h.below_iff hnode).mpr hlost)
        rw [hall.rest j fun hlost => hkept (.inr hlost),
          hthins.rest j fun he => hkept (.inl he), Option.map_id']

end IsForest

namespace IsTree

/-- To take the branch of a node away is to take away the nodes at and below it and no others. -/
theorem thins_destroyBranch (h : scene.IsTree) (hne : id ≠ Scene.root) :
    scene.Thins (scene.Below id) (Node.without id) (scene.destroyBranch id) := by
  cases hnode : scene.node? id with
  | none =>
    rw [Scene.destroyBranch, hnode]
    exact h.forest.thins_self hnode
  | some node =>
    have ht : scene.ties? id = some node.ties := by rw [ties?, hnode, Option.map_some]
    have hbranch : ∀ j, j ∈ scene.branch id ↔ scene.Below id j := fun j =>
      h.forest.mem_branch (contains_of_ties? ht)
    obtain ⟨p, hp, -⟩ := h.parent ht hne
    refine ⟨size_destroyBranch, fun j hj => ?_, fun j hj => ?_⟩
    · rw [destroyBranch_eq ht hp, node?_modify, node?_erase, if_pos ((hbranch j).mpr hj)]
      split <;> rfl
    · rw [destroyBranch_eq ht hp, node?_modify, node?_erase, if_neg (mt (hbranch j).mp hj)]
      split
      · rfl
      · next hother =>
        -- only the parent lists the node
        refine (map_without fun hchild => hother ?_).symm
        exact Option.some.inj ((h.forest.parent_of_isChild hnode hchild).symm.trans hp)

theorem uproot_of_ne_root {levels : Nat} (h : scene.IsTree) (hne : id ≠ Scene.root)
    (hlevels : scene.nodes.size - id.index < levels) :
    Scene.uproot levels scene id = some (scene.destroyBranch id) := by
  obtain ⟨out, hout, hthins⟩ := h.forest.uproot hne hlevels
  rw [hout, hthins.unique (h.thins_destroyBranch hne)]

theorem foldlM_uproot {levels : Nat} {nodes : List NodeId} (h : scene.IsTree)
    (hnodes : ∀ c ∈ nodes, c ≠ Scene.root ∧ scene.nodes.size - c.index < levels) :
    nodes.foldlM (Scene.uproot levels) scene =
      some (nodes.foldl Scene.destroyBranch scene) := by
  induction nodes generalizing scene with
  | nil => rfl
  | cons c rest ih =>
    obtain ⟨⟨hc, hlevels⟩, hrest⟩ := List.forall_mem_cons.mp hnodes
    rw [List.foldlM_cons, h.uproot_of_ne_root hc hlevels]
    refine ih (h.destroyBranch hc) ?_
    rwa [size_destroyBranch]

/-- On a tree the destruction of a node, of the root too, goes no deeper than there are nodes, and
comes to the same as taking the branches away at once. -/
theorem uproot {levels : Nat} (h : scene.IsTree) (id : NodeId) (hlevels : scene.nodes.size < levels) :
    Scene.uproot levels scene id = some (scene.destroy id) := by
  by_cases hid : id = Scene.root
  · subst hid
    obtain ⟨levels, rfl⟩ := Nat.exists_eq_succ_of_ne_zero (Nat.ne_zero_of_lt hlevels)
    rw [Scene.uproot, if_pos rfl, Scene.destroy, if_pos rfl]
    refine h.foldlM_uproot fun c hc => ?_
    obtain ⟨node, hnode⟩ := contains_iff.mp h.contains_root
    rw [children, hnode] at hc
    have hchild := isChild_of_node? hnode hc
    have hlarger := h.forest.index_lt_of_isChild hchild
    have hlive := lt_size_of_contains (h.forest.contains_of_isChild hchild)
    exact ⟨h.ne_root hchild, by omega⟩
  · rw [Scene.destroy, if_neg hid]
    exact h.uproot_of_ne_root hid (by omega)

end IsTree

end Uiml.Scene
