import Uiml.Proofs.Scene.Tree

/-!
# Branches that are taken away

To destroy a node takes away all that lies at or below it, and takes it off the list of its parent;
what is left is a tree again. A node that has just been made has nothing below it, so that making
and destroying it leaves no trace. The root itself stays, and is all that is left when it is
destroyed.

## Main results

* `Scene.IsForest.mem_branch` — the nodes at and below a node
* `Scene.IsTree.destroyBranch` — a tree without one of its branches is a tree
* `Scene.IsTree.node?_destroy_create` — a node made and destroyed leaves no trace
* `Scene.IsTree.node?_destroy_root` — only the root is left when the root is destroyed
-/

namespace Uiml.Scene

open Relation

variable {scene : Scene} {id j parent p : NodeId} {name : String} {t : Node.Ties}

/-- The ids of the nodes at and below a node. -/
def branch (scene : Scene) (id : NodeId) : List NodeId :=
  (scene.subtree id).map fun entry => entry.2.1

theorem below_of_mem_subtreeWithin {levels depth : Nat}
    (hj : j ∈ (scene.subtreeWithin levels depth id).map fun entry => entry.2.1) :
    scene.Below id j := by
  induction levels generalizing depth id with
  | zero => cases hj
  | succ levels ih =>
    rw [subtreeWithin] at hj
    cases hid : scene.node? id with
    | none => rw [hid] at hj; cases hj
    | some node =>
      rw [hid, List.map_cons, List.mem_cons, List.map_flatMap, List.mem_flatMap] at hj
      rcases hj with rfl | ⟨c, hc, hj⟩
      · exact .refl
      · have hchild : scene.IsChild id c := ⟨node.ties, by rw [ties?, hid]; rfl, hc⟩
        exact .head hchild (ih hj)

namespace IsForest

theorem index_lt_of_isChild (h : scene.IsForest) (hchild : scene.IsChild p id) :
    p.index < id.index := by
  obtain ⟨t, ht, hmem⟩ := hchild
  exact (h.child ht hmem).1

theorem contains_of_isChild (h : scene.IsForest) (hchild : scene.IsChild p id) :
    scene.contains id = true := by
  obtain ⟨t, ht, hmem⟩ := hchild
  obtain ⟨-, t', ht', -⟩ := h.child ht hmem
  exact contains_of_ties? ht'

/-- A node that lies below another is live, and has a larger id unless it is that one. -/
theorem below_cases (h : scene.IsForest) (hbelow : scene.Below id j) :
    j = id ∨ id.index < j.index ∧ scene.contains j = true := by
  induction hbelow with
  | refl => exact .inl rfl
  | tail _ hlast ih =>
    refine .inr ⟨?_, h.contains_of_isChild hlast⟩
    have hlt := h.index_lt_of_isChild hlast
    rcases ih with rfl | ⟨hlt', -⟩
    · exact hlt
    · exact Nat.lt_trans hlt' hlt

/-- Ids increase on the way down, so that enough levels are gone down to come to any node. -/
theorem mem_subtreeWithin (h : scene.IsForest) {levels depth : Nat}
    (hid : scene.contains id = true) (hbelow : scene.Below id j)
    (hlevels : j.index < id.index + levels) :
    j ∈ (scene.subtreeWithin levels depth id).map fun entry => entry.2.1 := by
  induction levels generalizing depth id with
  | zero =>
    rcases h.below_cases hbelow with rfl | ⟨hlt, -⟩ <;> omega
  | succ levels ih =>
    obtain ⟨node, hnode⟩ := contains_iff.mp hid
    rw [subtreeWithin, hnode, List.map_cons, List.mem_cons, List.map_flatMap, List.mem_flatMap]
    rcases ReflTransGen.cases_head hbelow with rfl | ⟨c, hchild, hrest⟩
    · exact .inl rfl
    · have hlt := h.index_lt_of_isChild hchild
      have hlive := h.contains_of_isChild hchild
      obtain ⟨t, ht, hmem⟩ := hchild
      rw [ties?, hnode] at ht
      obtain rfl := Option.some.inj ht
      exact .inr ⟨c, hmem, ih hlive hrest (by omega)⟩

theorem mem_branch (h : scene.IsForest) (hid : scene.contains id = true) :
    j ∈ scene.branch id ↔ scene.Below id j := by
  refine ⟨below_of_mem_subtreeWithin, fun hbelow => h.mem_subtreeWithin hid hbelow ?_⟩
  rcases h.below_cases hbelow with rfl | ⟨-, hlive⟩
  · exact Nat.lt_add_of_pos_right (Nat.lt_of_le_of_lt (Nat.zero_le _) (lt_size_of_contains hid))
  · exact Nat.lt_of_lt_of_le (lt_size_of_contains hlive) (Nat.le_add_left _ _)

/-- A child of a node off a branch is off the branch, unless the branch hangs on it. -/
theorem not_below_of_mem_children (h : scene.IsForest) (hoff : ¬scene.Below id j)
    (ht : scene.ties? j = some t) {c : NodeId} (hc : c ∈ t.children) (hne : c ≠ id) :
    ¬scene.Below id c := by
  intro hbelow
  obtain ⟨-, tc, htc, hparent⟩ := h.child ht hc
  rcases ReflTransGen.cases_tail hbelow with rfl | ⟨b, hb, tb, htb, hcb⟩
  · exact hne rfl
  · obtain ⟨-, tc', htc', hparent'⟩ := h.child htb hcb
    obtain rfl : tc = tc' := Option.some.inj (htc.symm.trans htc')
    obtain rfl : j = b := Option.some.inj (hparent.symm.trans hparent')
    exact hoff hb

end IsForest

/-! ### A branch -/

namespace IsTree

theorem destroyBranch_eq (ht : scene.ties? id = some t) (hp : t.parent = some p) :
    scene.destroyBranch id =
      (scene.erase (scene.branch id)).modify p fun node =>
        { node with children := node.children.filter (· ≠ id) } := by
  obtain ⟨node, hnode, rfl⟩ := Option.map_eq_some_iff.mp ht
  have hparent : node.parent = some p := hp
  rw [Scene.destroyBranch, hnode]
  simp only [hparent]
  rfl

/-- A node that is not on a branch keeps its ties when the branch is taken away, except that the
parent of the branch has one child less. -/
theorem ties?_destroyBranch (h : scene.IsTree) (ht : scene.ties? id = some t)
    (hp : t.parent = some p) (hj : ¬scene.Below id j) :
    (scene.destroyBranch id).ties? j =
      if j = p then (scene.ties? j).map (·.disown id) else scene.ties? j := by
  have hmem : j ∉ scene.branch id := fun hmem =>
    hj ((h.forest.mem_branch (contains_of_ties? ht)).mp hmem)
  rw [destroyBranch_eq ht hp, ties?, node?_modify, node?_erase, if_neg hmem, ties?]
  split
  · rw [Option.map_map, Option.map_map]
    rfl
  · rfl

theorem ties?_destroyBranch_of_below (h : scene.IsTree) (ht : scene.ties? id = some t)
    (hp : t.parent = some p) (hj : scene.Below id j) :
    (scene.destroyBranch id).ties? j = none := by
  have hmem : j ∈ scene.branch id := (h.forest.mem_branch (contains_of_ties? ht)).mpr hj
  rw [destroyBranch_eq ht hp, ties?, node?_modify, node?_erase, if_pos hmem]
  split <;> rfl

/-- A node that is there without a branch was there with it, has its parent, and all its children
but for the node that the branch hung on. -/
theorem exists_ties?_of_destroyBranch (h : scene.IsTree) (ht : scene.ties? id = some t)
    (hp : t.parent = some p) {t' : Node.Ties} (ht' : (scene.destroyBranch id).ties? j = some t') :
    ¬scene.Below id j ∧ ∃ old, scene.ties? j = some old ∧ t'.parent = old.parent ∧
      t'.children = if j = p then old.children.filter (· ≠ id) else old.children := by
  have hj : ¬scene.Below id j := by
    intro hbelow
    rw [h.ties?_destroyBranch_of_below ht hp hbelow] at ht'
    cases ht'
  refine ⟨hj, ?_⟩
  rw [h.ties?_destroyBranch ht hp hj] at ht'
  split at ht'
  · next he =>
    obtain ⟨old, hold, rfl⟩ := Option.map_eq_some_iff.mp ht'
    exact ⟨old, hold, rfl, (if_pos he).symm⟩
  · next hother => exact ⟨t', ht', rfl, (if_neg hother).symm⟩

/-- A node off a branch is there without it, with its parent and with its children off the branch. -/
theorem exists_ties?_destroyBranch (h : scene.IsTree) (ht : scene.ties? id = some t)
    (hp : t.parent = some p) {old : Node.Ties} (hold : scene.ties? j = some old)
    (hj : ¬scene.Below id j) :
    ∃ t', (scene.destroyBranch id).ties? j = some t' ∧ t'.parent = old.parent ∧
      ∀ c ∈ old.children, c ≠ id → c ∈ t'.children := by
  rw [h.ties?_destroyBranch ht hp hj, hold]
  split
  · exact ⟨_, rfl, rfl, fun c hc hne => List.mem_filter.mpr ⟨hc, decide_eq_true hne⟩⟩
  · exact ⟨old, rfl, rfl, fun c hc _ => hc⟩

/-- The root is below no other node. -/
theorem not_below_root (h : scene.IsTree) (hne : id ≠ Scene.root) : ¬scene.Below id Scene.root := by
  intro hbelow
  rcases h.forest.below_cases hbelow with he | ⟨hlt, -⟩
  · exact hne he.symm
  · exact Nat.not_lt_zero _ hlt

/-- A tree without one of its branches is a tree. -/
theorem destroyBranch (h : scene.IsTree) (hne : id ≠ Scene.root) :
    (scene.destroyBranch id).IsTree := by
  cases ht : scene.ties? id with
  | none =>
    -- there is nothing to take away
    have hnone : scene.node? id = none := Option.map_eq_none_iff.mp ht
    rw [Scene.destroyBranch, hnone]
    exact h
  | some t =>
    obtain ⟨p, hp, -⟩ := h.parent ht hne
    refine ⟨?root, ?parent, ?child, ?nodup⟩
    case root =>
      obtain ⟨old, hold, hnone⟩ := h.root
      obtain ⟨t', ht', hsame, -⟩ :=
        h.exists_ties?_destroyBranch ht hp hold (h.not_below_root hne)
      exact ⟨t', ht', hsame.trans hnone⟩
    case parent =>
      intro j t' ht' hj
      obtain ⟨hoff, old, hold, hsame, -⟩ := h.exists_ties?_of_destroyBranch ht hp ht'
      obtain ⟨q, hq, tq, htq, hmem⟩ := h.parent hold hj
      -- the parent of a node off the branch is off the branch, and the node is not its top
      have hqoff : ¬scene.Below id q := fun hbelow => hoff (hbelow.tail ⟨tq, htq, hmem⟩)
      obtain ⟨new, hnew, -, hchildren⟩ := h.exists_ties?_destroyBranch ht hp htq hqoff
      exact ⟨q, hsame.trans hq, new, hnew, hchildren j hmem fun he => hoff (he ▸ .refl)⟩
    case child =>
      intro j t' c ht' hc
      obtain ⟨hoff, old, hold, -, hchildren⟩ := h.exists_ties?_of_destroyBranch ht hp ht'
      have hmem : c ∈ old.children := by
        rw [hchildren] at hc
        split at hc
        · exact (List.mem_filter.mp hc).1
        · exact hc
      obtain ⟨hlt, tc, htc, hparent⟩ := h.child hold hmem
      have htop : c ≠ id := by
        -- the top of the branch has been taken off the list of its parent
        rintro rfl
        obtain rfl := Option.some.inj (ht.symm.trans htc)
        obtain rfl : j = p := Option.some.inj (hparent.symm.trans hp)
        rw [hchildren, if_pos rfl] at hc
        exact of_decide_eq_true (List.mem_filter.mp hc).2 rfl
      obtain ⟨new, hnew, hsame, -⟩ := h.exists_ties?_destroyBranch ht hp htc
        (h.forest.not_below_of_mem_children hoff hold hmem htop)
      exact ⟨hlt, new, hnew, hsame.trans hparent⟩
    case nodup =>
      intro j t' ht'
      obtain ⟨-, old, hold, -, hchildren⟩ := h.exists_ties?_of_destroyBranch ht hp ht'
      rw [hchildren]
      split
      · exact (h.nodup hold).filter _
      · exact h.nodup hold

/-! ### All branches -/

/-- Where the root has no children, there are no other nodes. -/
theorem eq_root_of_children (h : scene.IsTree)
    (hroot : ∀ t, scene.ties? Scene.root = some t → t.children = []) :
    ∀ {j}, scene.contains j = true → j = Scene.root := by
  intro j
  induction hn : j.index using Nat.strongRecOn generalizing j with
  | ind n ih =>
    subst hn
    intro hj
    refine Decidable.byContradiction fun hne => ?_
    rw [← isSome_ties?, Option.isSome_iff_exists] at hj
    obtain ⟨t, ht⟩ := hj
    -- the parent has a smaller id, so it is the root, which has no children
    obtain ⟨p, -, tp, htp, hmem⟩ := h.parent ht hne
    have hlt := h.forest.index_lt_of_isChild ⟨tp, htp, hmem⟩
    obtain rfl := ih p.index hlt rfl (contains_of_ties? htp)
    rw [hroot tp htp] at hmem
    cases hmem

/-- Taking away the branches below the root one by one leaves a tree of which the root has no
children, and does not touch what the root shows. -/
theorem foldl_destroyBranch (h : scene.IsTree) {children : List NodeId}
    (hroot : ∃ t, scene.ties? Scene.root = some t ∧ t.children = children) :
    (children.foldl Scene.destroyBranch scene).IsTree ∧
      (∃ t, (children.foldl Scene.destroyBranch scene).ties? Scene.root = some t ∧
        t.children = []) ∧
      ∀ p, scene.Shows Scene.root p →
        (children.foldl Scene.destroyBranch scene).Shows Scene.root p := by
  induction children generalizing scene with
  | nil => exact ⟨h, hroot, fun _ => id⟩
  | cons c rest ih =>
    obtain ⟨t, ht, hchildren⟩ := hroot
    have hchild : scene.IsChild Scene.root c := ⟨t, ht, hchildren ▸ List.mem_cons_self⟩
    have hne : c ≠ Scene.root := h.ne_root hchild
    obtain ⟨-, tc, htc, hparent⟩ := h.child ht (hchildren ▸ List.mem_cons_self)
    have hoff := h.not_below_root hne
    have hrest : (scene.destroyBranch c).ties? Scene.root = some (t.disown c) := by
      rw [h.ties?_destroyBranch htc hparent hoff, if_pos rfl, ht, Option.map_some]
    have hnodup := h.nodup ht
    rw [hchildren, List.nodup_cons] at hnodup
    have hfilter : (t.disown c).children = rest := by
      rw [Node.Ties.disown, hchildren]
      simp only [ne_eq, List.filter_cons, not_true_eq_false, decide_false, Bool.false_eq_true,
        if_false]
      exact List.filter_eq_self.mpr fun d hd => decide_eq_true fun he => hnodup.1 (he ▸ hd)
    obtain ⟨htree, hempty, hshows⟩ := ih (h.destroyBranch hne) ⟨_, hrest, hfilter⟩
    refine ⟨htree, hempty, fun p hp => hshows p (shows_destroyBranch.mpr ⟨fun hmem => ?_, hp⟩)⟩
    exact hoff ((h.forest.mem_branch (contains_of_ties? htc)).mp hmem)

theorem destroy_root_cases (h : scene.IsTree) :
    (scene.destroy Scene.root).IsTree ∧
      (∃ t, (scene.destroy Scene.root).ties? Scene.root = some t ∧ t.children = []) ∧
      ∀ p, scene.Shows Scene.root p → (scene.destroy Scene.root).Shows Scene.root p := by
  obtain ⟨t, ht, -⟩ := h.root
  have hchildren : scene.children Scene.root = t.children := by
    obtain ⟨node, hnode, rfl⟩ := Option.map_eq_some_iff.mp ht
    rw [Scene.children, hnode]
    rfl
  rw [Scene.destroy, if_pos rfl, hchildren]
  exact h.foldl_destroyBranch ⟨t, ht, rfl⟩

/-- Only the root is left when the root is destroyed, and it looks as before. -/
theorem node?_destroy_root (h : scene.IsTree) {face : Node}
    (hface : scene.Shows Scene.root (· = face)) :
    (scene.destroy Scene.root).node? j = if j = Scene.root then some face else none := by
  obtain ⟨htree, ⟨t, ht, hempty⟩, hshows⟩ := h.destroy_root_cases
  split
  · next he =>
    -- the face of the root is that of before, and nothing ties it to other nodes
    obtain ⟨node, hnode, hsame⟩ := hshows _ hface
    have hties : (scene.destroy Scene.root).ties? Scene.root = some node.ties := by
      rw [ties?, hnode, Option.map_some]
    obtain rfl := Option.some.inj (hties.symm.trans ht)
    obtain ⟨t', ht', hparent⟩ := htree.root
    obtain rfl := Option.some.inj (hties.symm.trans ht')
    have hnone : node.parent = none := hparent
    have hnil : node.children = [] := hempty
    rw [he, hnode, ← hsame, Node.face, ← hnone, ← hnil]
  · next hne =>
    refine Option.eq_none_iff_forall_ne_some.mpr fun node hnode => hne ?_
    exact htree.eq_root_of_children
      (fun t' ht' => by rw [← hempty, Option.some.inj (ht'.symm.trans ht)])
      (contains_iff.mpr ⟨node, hnode⟩)

theorem destroy (h : scene.IsTree) (id : NodeId) : (scene.destroy id).IsTree := by
  by_cases hid : id = Scene.root
  · subst hid
    exact h.destroy_root_cases.1
  · rw [Scene.destroy, if_neg hid]
    exact h.destroyBranch hid

/-- A node that is made and destroyed again leaves no trace, apart from the use of its id. -/
theorem node?_destroy_create (h : scene.IsTree) :
    ((scene.create parent name).2.destroy ⟨scene.nodes.size⟩).node? j = scene.node? j := by
  rw [← create_keeper h.contains_root]
  have hparent := contains_keeper parent h.contains_root
  generalize scene.keeper parent = parent at hparent
  have hne : (⟨scene.nodes.size⟩ : NodeId) ≠ Scene.root := fun he =>
    Nat.ne_of_gt h.pos (ext_index_iff.mp he)
  have hties : (scene.create parent name).2.ties? ⟨scene.nodes.size⟩ =
      some ⟨name, some parent, []⟩ := by
    rw [ties?_create hparent, if_pos rfl]
  have hbranch : (scene.create parent name).2.branch ⟨scene.nodes.size⟩ =
      [⟨scene.nodes.size⟩] := subtree_create h.pos
  rw [Scene.destroy, if_neg hne, destroyBranch_eq hties rfl, hbranch, node?_modify, node?_erase,
    node?_create hparent]
  by_cases hj : j = ⟨scene.nodes.size⟩
  · have hnone : scene.node? j = none := node?_of_le (Nat.le_of_eq (congrArg NodeId.index hj).symm)
    rw [if_pos (List.mem_singleton.mpr hj), hnone]
    split <;> rfl
  · rw [if_neg (fun hmem => hj (List.mem_singleton.mp hmem)), if_neg hj]
    split
    · -- the parent gets and loses a child that it did not have before
      cases hnode : scene.node? j with
      | none => rfl
      | some node =>
        have hold : (⟨scene.nodes.size⟩ : NodeId) ∉ node.children := fun hmem =>
          Nat.lt_irrefl _ (h.child_lt_size (by rw [ties?, hnode]; rfl) hmem)
        have hkept : node.children.filter (· ≠ (⟨scene.nodes.size⟩ : NodeId)) = node.children :=
          List.filter_eq_self.mpr fun c hc => decide_eq_true fun he => hold (he ▸ hc)
        have hfilter : (node.children ++ [(⟨scene.nodes.size⟩ : NodeId)]).filter
            (· ≠ (⟨scene.nodes.size⟩ : NodeId)) = node.children := by
          rw [List.filter_append, hkept, List.filter_cons_of_neg (by simp), List.filter_nil,
            List.append_nil]
        simp only [Option.map_some, hfilter]
    · rfl

end IsTree

end Uiml.Scene
