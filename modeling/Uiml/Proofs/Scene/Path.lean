import Mathlib.Data.List.Induction
import Uiml.Proofs.Scene.WellFormed

/-!
# Paths of names

A path leads from the root down by the names of children, and a node leads up to the root by the
parents. In a tree the two are inverse to each other: a path leads to a node if it has the names of
the nodes on the way up, and each of these is the first child of its parent that has its name. Where
siblings have different names, which are not empty and have no slash in them, the names on the way
up from a node, with slashes between them, are a path that leads to it.

## Main definitions

* `Scene.Lineage` — the nodes on the way up from a node, the highest first
* `Scene.IsFirst` — a node is the first child of its parent that has its name
* `Scene.segments` — the names in a path
* `Scene.WellNamed` — the names of siblings can be told apart, also in a path

## Main results

* `Scene.IsTree.findPath?_eq_some_iff` — where a path leads
* `Scene.IsTree.findPath?_lineage` — the names on the way up are a path, if they can be told apart
* `Scene.findPath?_afterAll` — the paths of a scene, whatever has been done to it
-/

namespace Uiml.Scene

/-- The nodes on the way up from a node by the parents, with their ids, from the one just below the
root to the node itself. -/
inductive Lineage (scene : Scene) : NodeId → List (NodeId × Node) → Prop
  | root : scene.Lineage root []
  | child {id p : NodeId} {node : Node} {above : List (NodeId × Node)}
      (hnode : scene.node? id = some node) (hparent : node.parent = some p)
      (habove : scene.Lineage p above) : scene.Lineage id (above ++ [(id, node)])

/-- A node is the first child of its parent that has its name. -/
def IsFirst (scene : Scene) (id : NodeId) (node : Node) : Prop :=
  ∃ p parent before after, node.parent = some p ∧ scene.node? p = some parent ∧
    parent.children = before ++ id :: after ∧
    ∀ c ∈ before, ∀ sibling, scene.node? c = some sibling → sibling.name ≠ node.name

/-- The names in a path: what stands between its slashes, unless it is empty. -/
def segments (path : String) : List String := (Text.split '/' path).filter (· ≠ "")

/-- The names of the children of a node. -/
def childNames (scene : Scene) (id : NodeId) : List String :=
  (scene.children id).filterMap fun c => (scene.node? c).map Node.name

/-- The children of every node have different names, none of which is empty or has a slash in it. -/
structure WellNamed (scene : Scene) : Prop where
  distinct : ∀ id, (scene.childNames id).Nodup
  plain : ∀ id, ∀ name ∈ scene.childNames id, name ≠ "" ∧ '/' ∉ name.toList

variable {scene : Scene} {id p : NodeId} {node : Node} {name path : String}
  {names parts : List String} {entries above : List (NodeId × Node)}

/-! ### Names in paths -/

/-- Texts without slashes are told apart in a path, and the empty ones are passed over. -/
theorem segments_intercalate (h : ∀ part ∈ parts, '/' ∉ part.toList) :
    segments ("/".intercalate parts) = parts.filter (· ≠ "") := by
  cases parts with
  | nil => rfl
  | cons part rest =>
    have hsplit : ("/".intercalate (part :: rest)).toList.splitOn '/' =
        (part :: rest).map String.toList := by
      rw [String.toList_intercalate]
      exact List.splitOn_intercalate '/' (by simpa using h) (by simp)
    have hback : String.ofList ∘ String.toList = id := funext fun s => String.ofList_toList
    rw [segments, Text.split, hsplit, List.map_map, hback, List.map_id]

/-! ### The way down -/

theorem children_of_node? (h : scene.node? id = some node) : scene.children id = node.children := by
  rw [children, h]

theorem descend?_append_singleton (id : NodeId) (names : List String) (name : String) :
    scene.descend? id (names ++ [name]) =
      (scene.descend? id names).bind fun p => scene.childNamed? p name := by
  induction names generalizing id with
  | nil =>
    rw [List.nil_append, descend?, descend?, Option.bind_some]
    cases scene.childNamed? id name <;> rfl
  | cons first rest ih =>
    rw [List.cons_append, descend?, descend?]
    cases scene.childNamed? id first with
    | none => rfl
    | some child => exact ih child

/-- Only nodes that have been made have children. -/
theorem childNames_of_le (h : scene.nodes.size ≤ id.index) : scene.childNames id = [] := by
  rw [childNames, children, node?_of_le h]
  rfl

/-- It is enough to look at the nodes that have been made. -/
theorem wellNamed_iff : scene.WellNamed ↔ ∀ i < scene.nodes.size,
    (scene.childNames ⟨i⟩).Nodup ∧
      ∀ name ∈ scene.childNames ⟨i⟩, name ≠ "" ∧ '/' ∉ name.toList := by
  constructor
  · exact fun h i _ => ⟨h.distinct ⟨i⟩, h.plain ⟨i⟩⟩
  · intro h
    have hall (id : NodeId) : (scene.childNames id).Nodup ∧
        ∀ name ∈ scene.childNames id, name ≠ "" ∧ '/' ∉ name.toList := by
      by_cases hid : id.index < scene.nodes.size
      · exact h id.index hid
      · rw [childNames_of_le (Nat.not_lt.mp hid)]
        exact ⟨List.nodup_nil, by simp⟩
    exact ⟨fun id => (hall id).1, fun id => (hall id).2⟩

instance (scene : Scene) : Decidable scene.WellNamed := decidable_of_iff _ wellNamed_iff.symm

namespace IsTree

/-- A search among the children of a node finds the first of them with a name. -/
theorem childNamed?_eq_some_iff (h : scene.IsTree) : scene.childNamed? p name = some id ↔
    ∃ node, scene.node? id = some node ∧ node.parent = some p ∧ node.name = name ∧
      scene.IsFirst id node := by
  rw [childNamed?, List.find?_eq_some_iff_append]
  constructor
  · rintro ⟨hnamed, before, after, hchildren, hbefore⟩
    obtain ⟨node, hnode, hname⟩ : ∃ node, scene.node? id = some node ∧ node.name = name := by
      simpa [Option.any_eq_true] using hnamed
    cases hp : scene.node? p with
    | none =>
      -- nothing has children unless it is a node
      rw [children, hp] at hchildren
      cases (List.append_eq_nil_iff.mp hchildren.symm).2
    | some parent =>
      rw [children_of_node? hp] at hchildren
      have hmem : id ∈ parent.children := hchildren ▸ List.mem_append_right _ List.mem_cons_self
      have hparent := h.forest.parent_of_isChild hnode (isChild_of_node? hp hmem)
      refine ⟨node, hnode, hparent, hname, p, parent, before, after, hparent, hp, hchildren, ?_⟩
      -- a sibling of the same name would have been found before
      intro c hc sibling hsibling hsame
      have hother := hbefore c hc
      simp [hsibling, hsame, hname] at hother
  · rintro ⟨node, hnode, hparent, rfl, q, parent, before, after, hq, hp, hchildren, hbefore⟩
    obtain rfl := Option.some.inj (hparent.symm.trans hq)
    refine ⟨by simp [hnode], before, after, by rw [children_of_node? hp, hchildren], ?_⟩
    intro c hc
    cases hsibling : scene.node? c with
    | none => rfl
    | some sibling => simpa using hbefore c hc sibling hsibling

/-! ### The way up -/

theorem isChild_of_parent (h : scene.IsTree) (hnode : scene.node? id = some node)
    (hparent : node.parent = some p) : scene.IsChild p id := by
  -- the root has no parent, and all other nodes are children of theirs
  have hroot : id ≠ Scene.root := by
    rintro rfl
    obtain ⟨t, ht, hnone⟩ := h.root
    rw [ties?, hnode] at ht
    obtain rfl := Option.some.inj ht
    cases hnone.symm.trans hparent
  obtain ⟨q, hq, hchild⟩ := h.parent (show scene.ties? id = some node.ties by
    rw [ties?, hnode, Option.map_some]) hroot
  obtain rfl := Option.some.inj (hq.symm.trans hparent)
  exact hchild

/-- The root has nobody above it. -/
theorem lineage_root (h : scene.IsTree) (hlineage : scene.Lineage Scene.root entries) :
    entries = [] := by
  generalize hid : Scene.root = id at hlineage
  cases hlineage with
  | root => rfl
  | child hnode hparent _ => exact absurd hid.symm (h.ne_root (h.isChild_of_parent hnode hparent))

/-- There is one way up from a node. -/
theorem lineage_unique (h : scene.IsTree) {entries' : List (NodeId × Node)}
    (hlineage : scene.Lineage id entries) (hlineage' : scene.Lineage id entries') :
    entries = entries' := by
  induction hlineage generalizing entries' with
  | root => exact (h.lineage_root hlineage').symm
  | child hnode hparent _ ih =>
    cases hlineage' with
    | root => exact absurd rfl (h.ne_root (h.isChild_of_parent hnode hparent))
    | child hnode' hparent' habove' =>
      obtain rfl := Option.some.inj (hnode.symm.trans hnode')
      obtain rfl := Option.some.inj (hparent.symm.trans hparent')
      rw [ih habove']

/-- A live node leads up to the root. -/
theorem exists_lineage (h : scene.IsTree) (hid : scene.contains id = true) :
    ∃ entries, scene.Lineage id entries := by
  have hbelow := h.below_root hid
  induction hbelow with
  | refl => exact ⟨[], .root⟩
  | @tail p id _ hchild ih =>
    obtain ⟨parent, hp, -⟩ := exists_node?_of_isChild hchild
    obtain ⟨entries, hentries⟩ := ih (contains_iff.mpr ⟨parent, hp⟩)
    obtain ⟨node, hnode⟩ := contains_iff.mp hid
    exact ⟨_, .child hnode (h.forest.parent_of_isChild hnode hchild) hentries⟩

/-! ### There and back -/

/-- A way down leads to a node if it has the names on the way up from it, each of the nodes there
being the first child of its name. -/
theorem descend?_eq_some_iff (h : scene.IsTree) :
    scene.descend? Scene.root names = some id ↔ ∃ entries, scene.Lineage id entries ∧
      entries.map (·.2.name) = names ∧ ∀ entry ∈ entries, scene.IsFirst entry.1 entry.2 := by
  -- by the last name, since the way up has its lowest node at the end
  induction names using List.reverseRecOn generalizing id with
  | nil =>
    constructor
    · intro hdown
      obtain rfl := Option.some.inj hdown
      exact ⟨[], .root, rfl, by simp⟩
    · rintro ⟨entries, hlineage, hnames, -⟩
      cases hlineage with
      | root => rfl
      | child => simp at hnames
  | append_singleton names name ih =>
    rw [descend?_append_singleton, Option.bind_eq_some_iff]
    constructor
    · rintro ⟨p, hdown, hchild⟩
      obtain ⟨above, habove, rfl, hfirst⟩ := ih.mp hdown
      obtain ⟨node, hnode, hparent, rfl, hisFirst⟩ := h.childNamed?_eq_some_iff.mp hchild
      refine ⟨_, .child hnode hparent habove, by simp, ?_⟩
      rw [List.forall_mem_append]
      exact ⟨hfirst, by simpa using hisFirst⟩
    · rintro ⟨entries, hlineage, hnames, hfirst⟩
      cases hlineage with
      | root => simp at hnames
      | @child _ p node above hnode hparent habove =>
        rw [List.map_append, List.map_singleton] at hnames
        obtain ⟨hnames, hname⟩ := List.append_inj' hnames rfl
        rw [List.forall_mem_append] at hfirst
        have hlast : scene.IsFirst id node := by simpa using hfirst.2
        exact ⟨p, ih.mpr ⟨above, habove, hnames, hfirst.1⟩, h.childNamed?_eq_some_iff.mpr
          ⟨node, hnode, hparent, by simpa using hname, hlast⟩⟩

/-- A path leads to a node if its names are those on the way up from the node, each of the nodes
there being the first child of its name. -/
theorem findPath?_eq_some_iff (h : scene.IsTree) :
    scene.findPath? path = some id ↔ ∃ entries, scene.Lineage id entries ∧
      entries.map (·.2.name) = segments path ∧
      ∀ entry ∈ entries, scene.IsFirst entry.1 entry.2 :=
  h.descend?_eq_some_iff

/-! ### Names that tell nodes apart -/

theorem mem_childNames (hp : scene.node? p = some node) {c : NodeId} {child : Node}
    (hc : c ∈ node.children) (hchild : scene.node? c = some child) :
    child.name ∈ scene.childNames p := by
  rw [childNames, children_of_node? hp, List.mem_filterMap]
  exact ⟨c, hc, by rw [hchild, Option.map_some]⟩

/-- Where siblings have different names, each is the first of its name. -/
theorem isFirst_of_distinct (h : scene.IsTree) (hdistinct : ∀ id, (scene.childNames id).Nodup)
    (hnode : scene.node? id = some node) (hparent : node.parent = some p) :
    scene.IsFirst id node := by
  obtain ⟨parent, hp, hmem⟩ := exists_node?_of_isChild (h.isChild_of_parent hnode hparent)
  obtain ⟨before, after, hchildren⟩ := List.append_of_mem hmem
  refine ⟨p, parent, before, after, hparent, hp, hchildren, ?_⟩
  intro c hc sibling hsibling hsame
  -- the name would stand twice in the list, before the node and at the node
  have hnodup := hdistinct p
  rw [childNames, children_of_node? hp, hchildren, List.filterMap_append,
    List.nodup_append] at hnodup
  refine hnodup.2.2 node.name ?_ node.name ?_ rfl
  · exact List.mem_filterMap.mpr ⟨c, hc, by rw [hsibling, Option.map_some, hsame]⟩
  · exact List.mem_filterMap.mpr ⟨id, List.mem_cons_self, by rw [hnode, Option.map_some]⟩

/-- The nodes on the way up from a node have names that can stand in a path, and are the first of
them. -/
theorem forall_mem_lineage (h : scene.IsTree) (hnames : scene.WellNamed)
    (hlineage : scene.Lineage id entries) : ∀ entry ∈ entries,
      scene.IsFirst entry.1 entry.2 ∧ entry.2.name ≠ "" ∧ '/' ∉ entry.2.name.toList := by
  induction hlineage with
  | root => simp
  | @child id p node above hnode hparent _ ih =>
    obtain ⟨parent, hp, hmem⟩ := exists_node?_of_isChild (h.isChild_of_parent hnode hparent)
    rw [List.forall_mem_append]
    refine ⟨ih, ?_⟩
    simpa using ⟨h.isFirst_of_distinct hnames.distinct hnode hparent,
      hnames.plain p node.name (mem_childNames hp hmem hnode)⟩

/-- The names on the way up from a node are a path that leads to it. -/
theorem findPath?_lineage (h : scene.IsTree) (hnames : scene.WellNamed)
    (hlineage : scene.Lineage id entries) :
    scene.findPath? ("/".intercalate (entries.map (·.2.name))) = some id := by
  have hentries := h.forall_mem_lineage hnames hlineage
  have hplain : ∀ name ∈ entries.map (·.2.name), '/' ∉ name.toList :=
    List.forall_mem_map.mpr fun entry hentry => (hentries entry hentry).2.2
  have hkept : (entries.map (·.2.name)).filter (· ≠ "") = entries.map (·.2.name) :=
    List.filter_eq_self.mpr (List.forall_mem_map.mpr fun entry hentry =>
      decide_eq_true (hentries entry hentry).2.1)
  refine h.findPath?_eq_some_iff.mpr ⟨entries, hlineage, ?_, fun entry hentry =>
    (hentries entry hentry).1⟩
  rw [segments_intercalate hplain, hkept]

end IsTree

/-- Whatever is done to a new scene, there is one way up from every live node. A path leads to a
node just if its names are those of the nodes on the way up, and each of these is the first child of
its parent that has its name. If siblings have different names, which are not empty and have no
slash in them, then every live node has a path: the names on the way up from it, with slashes
between them. -/
theorem findPath?_afterAll (edits : List Edit) :
    let scene := Scene.new.afterAll edits
    (∀ id, scene.contains id = true → ∃! entries, scene.Lineage id entries) ∧
    (∀ path id, scene.findPath? path = some id ↔ ∃ entries, scene.Lineage id entries ∧
      entries.map (·.2.name) = segments path ∧
      ∀ entry ∈ entries, scene.IsFirst entry.1 entry.2) ∧
    (scene.WellNamed → ∀ id, scene.contains id = true → ∃ entries, scene.Lineage id entries ∧
      scene.findPath? ("/".intercalate (entries.map (·.2.name))) = some id) := by
  intro scene
  have htree : scene.IsTree := IsTree.new.afterAll edits
  refine ⟨fun id hid => ?_, fun path id => htree.findPath?_eq_some_iff, fun hnames id hid => ?_⟩
  · obtain ⟨entries, hlineage⟩ := htree.exists_lineage hid
    exact ⟨entries, hlineage, fun _ hother => htree.lineage_unique hother hlineage⟩
  · obtain ⟨entries, hlineage⟩ := htree.exists_lineage hid
    exact ⟨entries, hlineage, htree.findPath?_lineage hnames hlineage⟩

/-- Two nodes of one name at different levels, and one of it that is gone. -/
def namesakes : List Edit :=
  [.create root "a", .create ⟨1⟩ "b", .destroy ⟨2⟩, .create ⟨1⟩ "b", .create root "b"]

/-- The node of the name that is below the other one is found by way of its parent. -/
theorem findPath?_afterAll_namesakes :
    (Scene.new.afterAll namesakes).WellNamed ∧
      ∃ entries, (Scene.new.afterAll namesakes).Lineage ⟨3⟩ entries ∧
        entries.map (·.2.name) = ["a", "b"] ∧
        (Scene.new.afterAll namesakes).findPath? ("/".intercalate ["a", "b"]) = some ⟨3⟩ := by
  have hnames : (Scene.new.afterAll namesakes).WellNamed := by decide
  have hlive : (Scene.new.afterAll namesakes).contains ⟨3⟩ = true := by decide
  have hdown : (Scene.new.afterAll namesakes).findPath? "/a//b" = some ⟨3⟩ := by decide
  obtain ⟨hunique, hpath, hback⟩ := findPath?_afterAll namesakes
  obtain ⟨entries, hlineage, hentries, -⟩ := (hpath _ _).mp hdown
  obtain ⟨entries', hlineage', hup⟩ := hback hnames ⟨3⟩ hlive
  obtain rfl := (hunique ⟨3⟩ hlive).unique hlineage hlineage'
  have hsegments : segments "/a//b" = ["a", "b"] := by decide
  rw [hsegments] at hentries
  rw [hentries] at hup
  exact ⟨hnames, entries, hlineage, hentries, hup⟩

end Uiml.Scene
