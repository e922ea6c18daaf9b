import Uiml.Build.Raise
import Uiml.Proofs.Scene.Closed
import Uiml.Proofs.Scene.Component
import Uiml.Proofs.Scene.Tree

/-!
# Scenes up to a renumbering

The ids of nodes say when the nodes have been made, which nobody sees. To renumber a node is to
replace the ids that it refers to; to blank it is to take away the text and the picture that it
shows. Neither gets in the way of the other, or of a change that does not look at ids.

Two scenes are alike if a renumbering that keeps the order of the ids takes the nodes of the one to
those of the other. Some nodes are free to show different contents. What is done to a node of the
one scene and to the renumbered node of the other leaves the scenes alike, as long as it does not
look at ids; and so does making a node in both.

## Main definitions

* `Component.renumber`, `Scene.Node.renumber` — what refers to nodes by other ids
* `Component.blank`, `Scene.Node.blank` — what shows no content
* `Scene.Alike` — two scenes are the same up to a renumbering
* `Scene.DifferAt` — two scenes are the same up to the content of a node

## Main results

* `Scene.Alike.modify`, `Scene.Alike.create` — what is done in both scenes keeps them alike
* `Scene.Alike.overwrite` — the content of a free node may change in one scene only
* `Scene.Alike.skip` — ids may be given out in one scene only
-/

namespace Uiml

/-! ### Components -/

namespace Component

/-- The component with the nodes that it refers to renumbered. -/
def renumber (f : NodeId → NodeId) : Component → Component
  | scroll spec => scroll { spec with viewport := f spec.viewport, content := f spec.content }
  | slider spec => slider { spec with fill := f spec.fill }
  | toggle spec => toggle { spec with checkmark := f spec.checkmark, group := spec.group.map f }
  | inputField spec => inputField { spec with textNode := f spec.textNode }
  | dropdown spec => dropdown { spec with label := f spec.label }
  | c => c

/-- The component without the text that it shows. -/
def blank : Component → Component
  | text style => text { style with text := "" }
  | c => c

variable {f g : NodeId → NodeId}

theorem renumber_id (c : Component) : c.renumber id = c := by
  cases c <;> simp [renumber]

theorem renumber_congr {c : Component} (h : ∀ r ∈ c.refs, f r = g r) :
    c.renumber f = c.renumber g := by
  cases c with
  | toggle spec =>
    have hgroup : spec.group.map f = spec.group.map g := Option.map_congr fun r hr =>
      h r (List.mem_cons_of_mem _ (Option.mem_toList.mpr hr))
    simp only [renumber, hgroup, h spec.checkmark List.mem_cons_self]
  | _ => simp_all [renumber, refs]

theorem renumber_of_refs {c : Component} (h : c.refs = []) : c.renumber f = c := by
  cases c <;> first | rfl | cases h

theorem withText?_renumber (s : String) (c : Component) :
    withText? s (c.renumber f) = (withText? s c).map (renumber f) := by
  cases c <;> rfl

theorem blank_withText? {s : String} {c d : Component} (h : withText? s c = some d) :
    d.blank = c.blank := by
  cases c <;> cases h
  rfl

@[simp] theorem isImage_renumber (c : Component) : (c.renumber f).isImage = c.isImage := by
  cases c <;> rfl

@[simp] theorem isImage_blank (c : Component) : c.blank.isImage = c.isImage := by
  cases c <;> rfl

end Component

namespace Scene

/-! ### Nodes -/

namespace Node

/-- The node with the nodes that it refers to renumbered. -/
def renumber (f : NodeId → NodeId) (node : Node) : Node :=
  { node with
    parent := node.parent.map f
    children := node.children.map f
    components := node.components.map (Component.renumber f) }

/-- The node without the content that it shows. -/
def blank (node : Node) : Node :=
  { node with components := node.components.map Component.blank, image := none }

variable {f g : NodeId → NodeId} {node node' : Node}

theorem renumber_id (node : Node) : node.renumber id = node := by
  have hcomponents : Component.renumber id = id := funext Component.renumber_id
  simp [renumber, hcomponents]

theorem renumber_congr (hparent : ∀ p, node.parent = some p → f p = g p)
    (hchildren : ∀ c ∈ node.children, f c = g c)
    (hrefs : ∀ c ∈ node.components, ∀ r ∈ c.refs, f r = g r) :
    node.renumber f = node.renumber g := by
  rw [renumber, Option.map_congr hparent, List.map_congr_left hchildren,
    List.map_congr_left fun c hc => Component.renumber_congr (hrefs c hc)]
  rfl

theorem components_blank (h : node.blank = node'.blank) :
    node.components.map Component.blank = node'.components.map Component.blank :=
  congrArg components h

theorem blank_replace_withText? (s : String) (node : Node) :
    (node.replace (Component.withText? s)).blank = node.blank := by
  have hcomponents := map_replaceFirst (f := Component.withText? s)
    (fun _ _ => Component.blank_withText?) node.components
  exact congrArg (fun cs => ({ node with components := cs, image := none } : Node)) hcomponents

theorem renumber_replace_withText? (s : String) (node : Node) :
    (node.replace (Component.withText? s)).renumber f =
      (node.renumber f).replace (Component.withText? s) := by
  have hcomponents := replaceFirst_map (Component.withText?_renumber (f := f) s) node.components
  exact congrArg (fun cs => ({ node.renumber f with components := cs } : Node)) hcomponents.symm

end Node

/-! ### Scenes -/

/-- The nodes that a live node refers to have been made. -/
theorem IsTree.renumber_congr {scene : Scene} {f g : NodeId → NodeId} {j : NodeId} {node : Node}
    (htree : scene.IsTree) (hwithin : scene.Within scene.nodes.size)
    (hfg : ∀ i : NodeId, i.index < scene.nodes.size → f i = g i)
    (hnode : scene.node? j = some node) : node.renumber f = node.renumber g := by
  have hties : scene.ties? j = some node.ties := by rw [ties?, hnode]; rfl
  refine Node.renumber_congr (fun p hp => hfg p ?_) (fun c hc => hfg c ?_)
    fun c hc r hr => hfg r (hwithin j node hnode c hc r hr)
  · by_cases hj : j = Scene.root
    · obtain ⟨t, ht, hnone⟩ := htree.root
      rw [← hj, hties] at ht
      obtain rfl := Option.some.inj ht
      cases hp.symm.trans hnone
    · obtain ⟨p', hp', t, ht, -⟩ := htree.parent hties hj
      obtain rfl := Option.some.inj (hp.symm.trans hp')
      exact lt_size_of_contains (contains_of_ties? ht)
  · exact htree.child_lt_size hties hc

/-- Two scenes are the same up to a renumbering of the nodes, and up to the contents of nodes that
are free. -/
structure Alike (f : NodeId → NodeId) (free : NodeId → Prop) (scene scene' : Scene) : Prop where
  /-- The renumbering keeps the order of the ids. -/
  mono : ∀ {i j : NodeId}, i.index < j.index → (f i).index < (f j).index
  root : f Scene.root = Scene.root
  /-- The ids that have not been given out correspond. -/
  next : ∀ k, f ⟨scene.nodes.size + k⟩ = ⟨scene'.nodes.size + k⟩
  onto : ∀ {j}, scene'.contains j = true → ∃ i, f i = j
  blank : ∀ j, (scene'.node? (f j)).map Node.blank =
    (scene.node? j).map fun node => (node.renumber f).blank
  same : ∀ j, ¬ free j → scene'.node? (f j) = (scene.node? j).map (Node.renumber f)

/-- Two scenes are the same up to the content of a node. -/
structure DifferAt (id : NodeId) (scene scene' : Scene) : Prop where
  size : scene'.nodes.size = scene.nodes.size
  blank : ∀ j, (scene'.node? j).map Node.blank = (scene.node? j).map Node.blank
  same : ∀ j, j ≠ id → scene'.node? j = scene.node? j

/-- A renumbering that leaves out some ids, from an id on. -/
def skipFrom (n count : Nat) (f : NodeId → NodeId) (j : NodeId) : NodeId :=
  if j.index < n then f j else ⟨(f j).index + count⟩

section Skip

variable {n count : Nat} {f : NodeId → NodeId} {i j : NodeId}

theorem skipFrom_of_lt (h : j.index < n) : skipFrom n count f j = f j := if_pos h

theorem skipFrom_of_le (h : n ≤ j.index) : skipFrom n count f j = ⟨(f j).index + count⟩ :=
  if_neg (Nat.not_lt_of_le h)

/-- To leave out ids keeps their order. -/
theorem skipFrom_mono (hf : ∀ {i j : NodeId}, i.index < j.index → (f i).index < (f j).index)
    (h : i.index < j.index) : (skipFrom n count f i).index < (skipFrom n count f j).index := by
  have hlt := hf h
  by_cases hj : j.index < n
  · rw [skipFrom_of_lt hj, skipFrom_of_lt (Nat.lt_trans h hj)]
    exact hlt
  · rw [skipFrom_of_le (Nat.le_of_not_lt hj)]
    by_cases hi : i.index < n
    · rw [skipFrom_of_lt hi]
      exact Nat.lt_add_right count hlt
    · rw [skipFrom_of_le (Nat.le_of_not_lt hi)]
      exact Nat.add_lt_add_right hlt count

end Skip

namespace Alike

variable {f : NodeId → NodeId} {free free' : NodeId → Prop} {scene scene' scene'' : Scene}
  {id j : NodeId}

theorem refl (free : NodeId → Prop) (scene : Scene) : scene.Alike (fun i => i) free scene where
  mono := fun h => h
  root := rfl
  next := fun _ => rfl
  onto := fun {j} _ => ⟨j, rfl⟩
  blank := fun j => by
    cases scene.node? j with
    | none => rfl
    | some node => exact congrArg (fun n => some n.blank) node.renumber_id.symm
  same := fun j _ => by
    cases scene.node? j with
    | none => rfl
    | some node => exact congrArg some node.renumber_id.symm

theorem weaken (h : scene.Alike f free scene') (hfree : ∀ j, free j → free' j) :
    scene.Alike f free' scene' :=
  { h with same := fun j hj => h.same j fun hold => hj (hfree j hold) }

theorem inj (h : scene.Alike f free scene') : f id = f j ↔ id = j := by
  refine ⟨fun he => ?_, congrArg f⟩
  rcases Nat.lt_trichotomy id.index j.index with hlt | heq | hlt
  · exact absurd (congrArg NodeId.index he) (Nat.ne_of_lt (h.mono hlt))
  · exact ext_index_iff.mpr heq
  · exact absurd (congrArg NodeId.index he) (Nat.ne_of_gt (h.mono hlt))

theorem contains (h : scene.Alike f free scene') (j : NodeId) :
    scene'.contains (f j) = scene.contains j := by
  have hsome := congrArg Option.isSome (h.blank j)
  rwa [Option.isSome_map, Option.isSome_map] at hsome

/-- What is done to a node of one scene and to the renumbered node of the other, whatever content it
shows, keeps the scenes alike. -/
theorem modify (h : scene.Alike f free scene') (id : NodeId) (g g' : Node → Node)
    (hg : ∀ node, (g node).renumber f = g' (node.renumber f))
    (hblank : ∀ node node', node.blank = node'.blank → (g' node).blank = (g' node').blank) :
    (scene.modify id g).Alike f free (scene'.modify (f id) g') where
  mono := h.mono
  root := h.root
  next := fun k => by
    rw [size_modify, size_modify]
    exact h.next k
  onto := fun {j} hj => by
    rw [Scene.contains, node?_modify] at hj
    split at hj
    · next he => exact ⟨id, he.symm⟩
    · exact h.onto hj
  blank := fun j => by
    have hj := h.blank j
    rw [node?_modify, node?_modify]
    simp only [h.inj]
    split
    · cases hnode : scene.node? j <;> cases hnode' : scene'.node? (f j) <;>
        rw [hnode, hnode'] at hj
      · rfl
      · cases hj
      · cases hj
      · next node node' =>
        have hnew : (g' node').blank = (g' (node.renumber f)).blank :=
          hblank _ _ (Option.some.inj hj)
        exact congrArg some (hnew.trans (congrArg Node.blank (hg node).symm))
    · exact hj
  same := fun j hj => by
    rw [node?_modify, node?_modify]
    simp only [h.inj]
    split
    · rw [h.same j hj, Option.map_map, Option.map_map]
      exact congrArg (Option.map · _) (funext fun node => (hg node).symm)
    · exact h.same j hj

/-- A field of nodes that holds no ids and no content is set in both scenes. -/
theorem set (h : scene.Alike f free scene') (id : NodeId) {g : Node → Node}
    (hg : ∀ node, (g node).renumber f = g (node.renumber f))
    (hblank : ∀ node, (g node).blank = g node.blank) :
    (scene.modify id g).Alike f free (scene'.modify (f id) g) :=
  h.modify id g g hg fun node node' he => by rw [hblank, hblank, he]

section Fields

variable (h : scene.Alike f free scene') (id : NodeId)

include h

theorem setPosition (v : Vec2) :
    (scene.setPosition id v).Alike f free (scene'.setPosition (f id) v) :=
  h.set id (fun _ => rfl) fun _ => rfl

theorem setSize (v : Vec2) : (scene.setSize id v).Alike f free (scene'.setSize (f id) v) :=
  h.set id (fun _ => rfl) fun _ => rfl

theorem setAnchors (v w : Vec2) :
    (scene.setAnchors id v w).Alike f free (scene'.setAnchors (f id) v w) :=
  h.set id (fun _ => rfl) fun _ => rfl

theorem setPivot (v : Vec2) : (scene.setPivot id v).Alike f free (scene'.setPivot (f id) v) :=
  h.set id (fun _ => rfl) fun _ => rfl

theorem setScale (v : Vec3) : (scene.setScale id v).Alike f free (scene'.setScale (f id) v) :=
  h.set id (fun _ => rfl) fun _ => rfl

theorem setAlpha (v : Float32) : (scene.setAlpha id v).Alike f free (scene'.setAlpha (f id) v) :=
  h.set id (fun _ => rfl) fun _ => rfl

theorem setInteractable (b : Bool) :
    (scene.setInteractable id b).Alike f free (scene'.setInteractable (f id) b) :=
  h.set id (fun _ => rfl) fun _ => rfl

theorem stretch : (scene.stretch id).Alike f free (scene'.stretch (f id)) :=
  ((h.setAnchors id _ _).setSize id _).setPosition id _

theorem applyTransform (t : Transform) :
    (scene.applyTransform id t).Alike f free (scene'.applyTransform (f id) t) :=
  ((((h.setAnchors id _ _).setPivot id _).setSize id _).setPosition id _).setScale id _

theorem attach (c : Component) :
    (scene.attach id c).Alike f free (scene'.attach (f id) (c.renumber f)) := by
  refine h.modify id _ _ (fun node => ?_) fun node node' hblank => ?_
  · simp [Node.renumber]
  · have hcomponents := congrArg (fun n => ({ n with
      components := n.components ++ [(c.renumber f).blank] } : Node)) hblank
    simpa [Node.blank] using hcomponents

/-- Components that refer to no nodes are the same in both scenes. -/
theorem attachAll {components : List Component} (hrefs : ∀ c ∈ components, c.refs = []) :
    (scene.attachAll id components).Alike f free (scene'.attachAll (f id) components) := by
  rw [Scene.attachAll, Scene.attachAll]
  induction components generalizing scene scene' with
  | nil => exact h
  | cons c components ih =>
    have hattached := h.attach id c
    rw [Component.renumber_of_refs (hrefs c List.mem_cons_self)] at hattached
    exact ih hattached fun d hd => hrefs d (List.mem_cons_of_mem _ hd)

end Fields

/-! ### Making a node -/

theorem push (h : scene.Alike f free scene') (node : Node) :
    (⟨scene.nodes.push (some node)⟩ : Scene).Alike f free
      ⟨scene'.nodes.push (some (node.renumber f))⟩ := by
  have hnew (j : NodeId) : f j = ⟨scene'.nodes.size⟩ ↔ j = ⟨scene.nodes.size⟩ := by
    have hsize : f ⟨scene.nodes.size⟩ = ⟨scene'.nodes.size⟩ := h.next 0
    rw [← hsize, h.inj]
  refine ⟨h.mono, h.root, fun k => ?_, fun {j} hj => ?_, fun j => ?_, fun j hj => ?_⟩
  · rw [Array.size_push, Array.size_push, Nat.add_assoc, Nat.add_assoc]
    exact h.next _
  · rw [Scene.contains, node?_push] at hj
    split at hj
    · next he => exact ⟨_, (h.next 0).trans he.symm⟩
    · exact h.onto hj
  · rw [node?_push, node?_push]
    simp only [hnew]
    split
    · rfl
    · exact h.blank j
  · rw [node?_push, node?_push]
    simp only [hnew]
    split
    · rfl
    · exact h.same j hj

/-- A node is made in both scenes. -/
theorem create (h : scene.Alike f free scene') (parent : NodeId) (name : String) :
    ∃ id made made', scene.create parent name = (id, made) ∧
      scene'.create (f parent) name = (f id, made') ∧ made.Alike f free made' := by
  have hsize : f ⟨scene.nodes.size⟩ = ⟨scene'.nodes.size⟩ := h.next 0
  have hkeeper : f (scene.keeper parent) = scene'.keeper (f parent) := by
    rw [keeper, keeper, h.contains]
    split
    · rfl
    · exact h.root
  refine ⟨_, _, _, rfl, Prod.ext hsize.symm rfl, ?_⟩
  have hnode : ({ name, parent := some (scene.keeper parent) } : Node).renumber f =
      { name, parent := some (scene'.keeper (f parent)) } := by
    simp [Node.renumber, hkeeper]
  have hpushed := h.push { name, parent := some (scene.keeper parent) }
  rw [hnode] at hpushed
  have hmade := hpushed.modify (scene.keeper parent)
    (fun p => { p with children := p.children ++ [⟨scene.nodes.size⟩] })
    (fun p => { p with children := p.children ++ [⟨scene'.nodes.size⟩] })
    (fun node => by simp [Node.renumber, hsize])
    fun node node' he => congrArg (fun n : Node =>
      { n with children := n.children ++ [(⟨scene'.nodes.size⟩ : NodeId)] }) he
  rw [hkeeper] at hmade
  exact hmade

theorem createStretched (h : scene.Alike f free scene') (parent : NodeId) (name : String) :
    ∃ id made made', scene.createStretched parent name = (id, made) ∧
      scene'.createStretched (f parent) name = (f id, made') ∧ made.Alike f free made' := by
  obtain ⟨id, made, made', hmade, hmade', h⟩ := h.create parent name
  refine ⟨id, made.stretch id, made'.stretch (f id), ?_, ?_, h.stretch id⟩
  · rw [Scene.createStretched, hmade]
  · rw [Scene.createStretched, hmade']

/-! ### Contents -/

theorem setText (h : scene.Alike f free scene') (id : NodeId) (s : String) :
    (scene.setText id s).2.Alike f free (scene'.setText (f id) s).2 := by
  have hreplaced := h.modify id (·.replace (Component.withText? s))
    (·.replace (Component.withText? s)) (fun node => node.renumber_replace_withText? s)
    fun node node' he => by
      rw [Node.blank_replace_withText?, Node.blank_replace_withText?, he]
  have hlive := h.contains id
  rw [Scene.contains, Scene.contains] at hlive
  rw [Scene.setText, Scene.setText, replaceComponent, replaceComponent]
  cases hnode : scene.node? id <;> cases hnode' : scene'.node? (f id) <;>
    rw [hnode, hnode'] at hlive
  · exact h
  · cases hlive
  · cases hlive
  · exact hreplaced

theorem setImage (h : scene.Alike f free scene') (id : NodeId) (image : Picture) :
    (scene.setImage id image).2.Alike f free (scene'.setImage (f id) image).2 := by
  have hset := h.modify id (fun node => { node with image := some image })
    (fun node => { node with image := some image }) (fun _ => rfl) fun node node' he => he
  have hblank := h.blank id
  rw [Scene.setImage, Scene.setImage]
  cases hnode : scene.node? id <;> cases hnode' : scene'.node? (f id) <;>
    rw [hnode, hnode'] at hblank
  · exact h
  · cases hblank
  · cases hblank
  · next node node' =>
    -- whether a node can show a picture is seen with other ids and without content as well
    have hcomponents : node'.components.any Component.isImage =
        node.components.any Component.isImage := by
      have heq := congrArg (List.any · Component.isImage)
        (Node.components_blank (Option.some.inj hblank))
      simpa [Node.renumber, Function.comp_def] using heq
    simp only [hcomponents]
    split
    · exact hset
    · exact h

/-- The content of a free node may change in one scene only. -/
theorem overwrite (h : scene.Alike f free scene') (hid : free id)
    (hdiffer : DifferAt (f id) scene' scene'') : scene.Alike f free scene'' where
  mono := h.mono
  root := h.root
  next := fun k => by
    rw [hdiffer.size]
    exact h.next k
  onto := fun {j} hj => by
    have hsome := congrArg Option.isSome (hdiffer.blank j)
    rw [Option.isSome_map, Option.isSome_map] at hsome
    exact h.onto (hsome.symm.trans hj)
  blank := fun j => (hdiffer.blank (f j)).trans (h.blank j)
  same := fun j hj => by
    have hne : f j ≠ f id := fun he => hj (h.inj.mp he ▸ hid)
    rw [hdiffer.same _ hne]
    exact h.same j hj

/-- The same number of ids may be given out in both scenes. -/
theorem congr (h : scene.Alike f free scene') {grown grown' : Scene} {n : Nat}
    (hnode : ∀ j, grown.node? j = scene.node? j) (hnode' : ∀ j, grown'.node? j = scene'.node? j)
    (hsize : grown.nodes.size = scene.nodes.size + n)
    (hsize' : grown'.nodes.size = scene'.nodes.size + n) : grown.Alike f free grown' where
  mono := h.mono
  root := h.root
  next := fun k => by
    rw [hsize, hsize', Nat.add_assoc, Nat.add_assoc]
    exact h.next _
  onto := fun {j} hj => by
    rw [Scene.contains, hnode'] at hj
    exact h.onto hj
  blank := fun j => by rw [hnode, hnode', h.blank]
  same := fun j hj => by rw [hnode, hnode', h.same j hj]

/-- Ids that have not been given out are not in use when some have been left out. -/
theorem node?_skipFrom (h : scene.Alike f free scene') {count : Nat}
    (hsize : scene''.nodes.size = scene'.nodes.size + count) (hle : scene.nodes.size ≤ j.index) :
    scene''.node? (skipFrom scene.nodes.size count f j) = none := by
  have hindex := congrArg NodeId.index (h.next (j.index - scene.nodes.size))
  simp only [Nat.add_sub_cancel' hle] at hindex
  rw [skipFrom_of_le hle]
  refine node?_of_le ?_
  rw [hsize, hindex]
  exact Nat.add_le_add_right (Nat.le_add_right _ _) count

/-- Ids may be given out in one scene only. -/
theorem skip (h : scene.Alike f free scene') (htree : scene.IsTree)
    (hwithin : scene.Within scene.nodes.size) {count : Nat}
    (hnode : ∀ j, scene''.node? j = scene'.node? j)
    (hsize : scene''.nodes.size = scene'.nodes.size + count) :
    scene.Alike (skipFrom scene.nodes.size count f) free scene'' := by
  -- a live node refers to nodes that have been made, which keep their numbers
  have hrenumber {j : NodeId} {node : Node} (hj : scene.node? j = some node) :
      node.renumber (skipFrom scene.nodes.size count f) = node.renumber f :=
    htree.renumber_congr hwithin (fun _ => skipFrom_of_lt) hj
  refine ⟨skipFrom_mono h.mono, (skipFrom_of_lt htree.pos).trans h.root, fun k => ?next,
    fun {j} hj => ?onto, fun j => ?blank, fun j hj => ?same⟩
  case next =>
    rw [skipFrom_of_le (Nat.le_add_right _ _), h.next, hsize]
    exact ext_index_iff.mpr (Nat.add_right_comm ..)
  case onto =>
    rw [Scene.contains, hnode] at hj
    obtain ⟨i, rfl⟩ := h.onto hj
    exact ⟨i, skipFrom_of_lt (lt_size_of_contains ((h.contains i).symm.trans hj))⟩
  case blank =>
    by_cases hlt : j.index < scene.nodes.size
    · rw [skipFrom_of_lt hlt, hnode, h.blank j]
      exact Option.map_congr fun node hj => congrArg Node.blank (hrenumber hj).symm
    · have hle := Nat.le_of_not_lt hlt
      rw [h.node?_skipFrom hsize hle, node?_of_le hle]
      rfl
  case same =>
    by_cases hlt : j.index < scene.nodes.size
    · rw [skipFrom_of_lt hlt, hnode, h.same j hj]
      exact Option.map_congr fun node hj => (hrenumber hj).symm
    · have hle := Nat.le_of_not_lt hlt
      rw [h.node?_skipFrom hsize hle, node?_of_le hle]
      rfl

end Alike

/-! ### Changes of content -/

variable {scene : Scene} {id : NodeId}

theorem DifferAt.refl (id : NodeId) (scene : Scene) : DifferAt id scene scene :=
  ⟨rfl, fun _ => rfl, fun _ _ => rfl⟩

theorem differAt_modify {g : Node → Node} (hg : ∀ node, (g node).blank = node.blank) :
    DifferAt id scene (scene.modify id g) where
  size := size_modify g
  blank := fun j => by
    rw [node?_modify]
    split
    · rw [Option.map_map]
      exact congrArg (Option.map · _) (funext hg)
    · rfl
  same := fun j hj => by rw [node?_modify, if_neg hj]

theorem differAt_setText (s : String) : DifferAt id scene (scene.setText id s).2 := by
  rw [Scene.setText, replaceComponent]
  cases scene.node? id with
  | none => exact .refl id scene
  | some node => exact differAt_modify fun node => node.blank_replace_withText? s

theorem differAt_setImage (image : Picture) : DifferAt id scene (scene.setImage id image).2 := by
  rw [Scene.setImage]
  cases scene.node? id with
  | none => exact .refl id scene
  | some node =>
    simp only
    split
    · exact differAt_modify fun _ => rfl
    · exact .refl id scene

end Scene

end Uiml
