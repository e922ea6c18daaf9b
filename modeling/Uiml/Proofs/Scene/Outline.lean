import Mathlib.Algebra.GroupWithZero.Nat
import Mathlib.Data.List.FinRange
import Mathlib.Data.List.Nodup
import Uiml.Proofs.Scene.WellFormed
import Uiml.Scene.Outline

/-!
# The lines of an outline

The live nodes of a tree can be listed from the root, each before its children and with how deep it
lies, and the children of a node in the order in which they were made. That lists every live node
once, and an outline has an entry for each: it is indented by twice the depth, starts with the name
of the node and ends with a line feed. There is no other line feed in what is written of a node but
for those in its name, which is written as it is. So there is one line for each live node just if no
name has a line feed in it.

## Main definitions

* `Scene.Lists` — a list shows what lies at and below some siblings in preorder
* `Scene.Depth` — how far a node is below the root
* `Scene.Ordered` — children stand in the order of their ids
* `Text.IsOneLine`, `Text.endedLines` — there is no line feed in a text, and the lines that a text
  ends
* `Scene.ShownBy` — a list of entries is what an outline shows

## Main results

* `Scene.IsTree.lists_subtree`, `Scene.IsTree.nodup_branch`, `Scene.IsTree.length_subtree` — what is
  gone through from the root is in preorder, and every live node is in it once
* `Scene.IsTree.ordered_afterAll` — children come in the order in which they were made
* `Scene.isOneLine_summary` — what is written of a node after its name is on one line
* `Scene.IsTree.lineFeeds_outline` — how many lines an outline has
* `Scene.outline_afterAll` — the outline of a scene, whatever has been done to it
-/

namespace Uiml

namespace Text

/-- There is no line feed in a text. -/
def IsOneLine (s : String) : Prop := '\n' ∉ s.toList

instance (s : String) : Decidable (IsOneLine s) := inferInstanceAs (Decidable (_ ∉ _))

/-- The number of line feeds in a text. -/
def lineFeeds (s : String) : Nat := s.toList.count '\n'

/-- The lines of a text that are ended by line feeds. -/
def endedLines (s : String) : List String := (split '\n' s).dropLast

variable {s t : String}

@[simp] theorem isOneLine_append : IsOneLine (s ++ t) ↔ IsOneLine s ∧ IsOneLine t := by
  simp [IsOneLine]

theorem isOneLine_ofList {cs : List Char} : IsOneLine (String.ofList cs) ↔ '\n' ∉ cs := by
  rw [IsOneLine, String.toList_ofList]

theorem isOneLine_iff : IsOneLine s ↔ lineFeeds s = 0 := List.count_eq_zero.symm

@[simp] theorem lineFeeds_append : lineFeeds (s ++ t) = lineFeeds s + lineFeeds t := by
  simp [lineFeeds]

theorem length_endedLines (s : String) : (endedLines s).length = lineFeeds s := by
  have hlength (cs : List Char) : (cs.splitOn '\n').length = cs.count '\n' + 1 := by
    induction cs with
    | nil => rfl
    | cons c cs ih =>
      rw [List.splitOn_cons_eq_if_modifyHead, List.count_cons]
      split
      · simp_all
      · simp_all
  rw [endedLines, List.length_dropLast, split, List.length_map, hlength, Nat.add_sub_cancel,
    lineFeeds]

/-- Lines that are ended by line feeds can be told apart. -/
theorem endedLines_join {lines : List String} (hlines : ∀ line ∈ lines, IsOneLine line) :
    endedLines (String.join (lines.map (· ++ "\n"))) = lines := by
  have hsplit : (String.join (lines.map (· ++ "\n"))).toList.splitOn '\n' =
      lines.map String.toList ++ [[]] := by
    rw [String.toList_join, List.flatMap_map]
    induction lines with
    | nil => rfl
    | cons line rest ih =>
      obtain ⟨hline, hrest⟩ := List.forall_mem_cons.mp hlines
      have hshape : (line ++ "\n").toList = line.toList ++ ['\n'] := String.toList_append
      rw [List.flatMap_cons, hshape, List.append_assoc, List.singleton_append,
        List.splitOn_append_cons_self, ih hrest, List.splitOn_eq_singleton hline, List.map_cons,
        List.singleton_append, List.cons_append]
  rw [endedLines, split, hsplit, List.map_append, List.map_singleton, List.dropLast_concat,
    List.map_map]
  simp

/-- Texts of one line each stay on one line if they are put together. -/
theorem isOneLine_intercalate {texts : List String} (hs : IsOneLine s)
    (htexts : ∀ text ∈ texts, IsOneLine text) : IsOneLine (s.intercalate texts) := by
  induction texts with
  | nil =>
    rw [String.intercalate_nil]
    decide
  | cons text rest ih =>
    obtain ⟨htext, hrest⟩ := List.forall_mem_cons.mp htexts
    cases rest with
    | nil => simpa using htext
    | cons next rest =>
      rw [String.intercalate_cons_cons, isOneLine_append, isOneLine_append]
      exact ⟨⟨htext, hs⟩, ih hrest⟩

/-! ### Numbers and quotes -/

/-- A number is written with digits. -/
theorem lineFeed_notMem_toDigits {base : Nat} (hbase : 1 < base) (n : Nat) :
    '\n' ∉ Nat.toDigits base n := by
  have hdigit (d : Nat) : d.digitChar ≠ '\n' := Nat.digitChar_ne '\n' rfl
  induction n using Nat.strongRecOn with
  | ind n ih =>
    rw [Nat.toDigits_eq_if hbase]
    split
    · simp [(hdigit n).symm]
    · have hlt : n / base < n := Nat.div_lt_self (by omega) hbase
      simp [ih _ hlt, (hdigit (n % base)).symm]

theorem isOneLine_toString (n : Nat) : IsOneLine (toString n) := by
  have hrepr : toString n = String.ofList (Nat.toDigits 10 n) := rfl
  rw [hrepr, isOneLine_ofList]
  exact lineFeed_notMem_toDigits (by decide) n

theorem isOneLine_positional (n : Nat) (place : Int) : IsOneLine (Digits.positional n place) := by
  have hdigits := lineFeed_notMem_toDigits (show 1 < 10 by decide) n
  have hzeros (k : Nat) : '\n' ∉ List.replicate k '0' := fun hmem => by
    simpa using List.eq_of_mem_replicate hmem
  rw [Digits.positional]
  split
  · rw [isOneLine_ofList, List.mem_append, not_or]
    exact ⟨hdigits, hzeros _⟩
  · have hpadded : '\n' ∉ List.replicate ((-place).toNat + 1 - (Nat.toDigits 10 n).length) '0' ++
        Nat.toDigits 10 n := by
      rw [List.mem_append, not_or]
      exact ⟨hzeros _, hdigits⟩
    rw [isOneLine_ofList, List.mem_append, List.mem_cons, not_or, not_or]
    exact ⟨mt List.mem_of_mem_take hpadded, by decide, mt List.mem_of_mem_drop hpadded⟩

theorem isOneLine_fixed (decimals : Nat) (x : Float32) : IsOneLine (Single.fixed decimals x) := by
  have hsigned (negative : Bool) {magnitude : String} (h : IsOneLine magnitude) :
      IsOneLine (if negative then "-" ++ magnitude else magnitude) := by
    cases negative
    · exact h
    · exact isOneLine_append.mpr ⟨by decide, h⟩
  rw [Single.fixed]
  split
  · decide
  · split <;> decide
  · refine hsigned _ ?_
    split
    · exact isOneLine_toString _
    · exact isOneLine_positional _ _

/-- Between quotes, a line feed is written with a backslash. -/
theorem lineFeed_notMem_escape (c : Char) : '\n' ∉ escape '"' c := by
  have hhex := lineFeed_notMem_toDigits (show 1 < 16 by decide) c.toNat
  rw [escape]
  split_ifs with _ _ _ hfeed
  all_goals try decide
  · simp [hexDigits, hhex]
  · simpa using Ne.symm hfeed

theorem isOneLine_quote (s : String) : IsOneLine (quote s) := by
  rw [quote, isOneLine_ofList]
  simp [lineFeed_notMem_escape]

end Text

namespace Scene

open Relation Text

/-- A list shows the nodes at and below some siblings with their depths, each node before what is
below it, and all that before the siblings that follow it. -/
inductive Lists (scene : Scene) : Nat → List NodeId → List (Nat × NodeId × Node) → Prop
  | nil {depth : Nat} : scene.Lists depth [] []
  | cons {depth : Nat} {id : NodeId} {node : Node} {siblings : List NodeId}
      {below after : List (Nat × NodeId × Node)} (hnode : scene.node? id = some node)
      (hbelow : scene.Lists (depth + 1) node.children below)
      (hafter : scene.Lists depth siblings after) :
      scene.Lists depth (id :: siblings) ((depth, id, node) :: (below ++ after))

/-- How far a node is below the root. -/
inductive Depth (scene : Scene) : NodeId → Nat → Prop
  | root : scene.Depth root 0
  | child {p id : NodeId} {n : Nat} (hp : scene.Depth p n) (hchild : scene.IsChild p id) :
      scene.Depth id (n + 1)

/-- Children stand in the order of their ids. -/
def Ordered (scene : Scene) : Prop :=
  ∀ id t, scene.ties? id = some t → t.children.Pairwise fun a b => a.index < b.index

/-- Nothing lies below both of two nodes. -/
def Separate (scene : Scene) (a b : NodeId) : Prop := ∀ j, scene.Below a j → ¬ scene.Below b j

variable {scene scene' : Scene} {id j p q a b : NodeId} {node : Node} {depth : Nat}
  {ids : List NodeId} {entries : List (Nat × NodeId × Node)}

/-! ### What is listed -/

namespace Lists

/-- What is listed lies at or below one of the siblings. -/
theorem exists_below (h : scene.Lists depth ids entries) :
    ∀ entry ∈ entries, ∃ id ∈ ids, scene.Below id entry.2.1 := by
  induction h with
  | nil => simp
  | @cons depth id node siblings below after hnode _ _ ihbelow ihafter =>
    intro entry hentry
    rcases List.mem_cons.mp hentry with rfl | hentry
    · exact ⟨id, List.mem_cons_self, .refl⟩
    rcases List.mem_append.mp hentry with hentry | hentry
    · obtain ⟨c, hc, hbelow⟩ := ihbelow entry hentry
      exact ⟨id, List.mem_cons_self, .head (isChild_of_node? hnode hc) hbelow⟩
    · obtain ⟨c, hc, hbelow⟩ := ihafter entry hentry
      exact ⟨c, List.mem_cons_of_mem _ hc, hbelow⟩

/-- It is shown as it is, with its depth. -/
theorem node?_depth (h : scene.Lists depth ids entries)
    (hdepth : ∀ id ∈ ids, scene.Depth id depth) :
    ∀ entry ∈ entries, scene.node? entry.2.1 = some entry.2.2 ∧ scene.Depth entry.2.1 entry.1 := by
  induction h with
  | nil => simp
  | @cons depth id node siblings below after hnode _ _ ihbelow ihafter =>
    have hid := hdepth id List.mem_cons_self
    intro entry hentry
    rcases List.mem_cons.mp hentry with rfl | hentry
    · exact ⟨hnode, hid⟩
    rcases List.mem_append.mp hentry with hentry | hentry
    · exact ihbelow (fun c hc => hid.child (isChild_of_node? hnode hc)) entry hentry
    · exact ihafter (fun c hc => hdepth c (List.mem_cons_of_mem _ hc)) entry hentry

end Lists

namespace IsForest

theorem isChild_unique (h : scene.IsForest) (hp : scene.IsChild p id) (hq : scene.IsChild q id) :
    p = q := by
  obtain ⟨tp, htp, hmemp⟩ := hp
  obtain ⟨tq, htq, hmemq⟩ := hq
  obtain ⟨-, t, ht, hparent⟩ := h.child htp hmemp
  obtain ⟨-, t', ht', hparent'⟩ := h.child htq hmemq
  obtain rfl : t = t' := Option.some.inj (ht.symm.trans ht')
  exact Option.some.inj (hparent.symm.trans hparent')

/-- A node does not lie below another child of its parent. -/
theorem eq_of_below_sibling (h : scene.IsForest) (ha : scene.IsChild p a) (hb : scene.IsChild p b)
    (hbelow : scene.Below a b) : a = b := by
  rcases ReflTransGen.cases_tail hbelow with heq | ⟨q, hq, hchild⟩
  · exact heq.symm
  · -- the way from one to the other would lead over the parent
    obtain rfl := h.isChild_unique hb hchild
    have hlt := h.index_lt_of_isChild ha
    rcases h.below_cases hq with rfl | ⟨hlt', -⟩ <;> omega

/-- Nothing lies below two children of a node. -/
theorem separate_of_isChild (h : scene.IsForest) (ha : scene.IsChild p a) (hb : scene.IsChild p b)
    (hne : a ≠ b) : scene.Separate a b := by
  intro j hja hjb
  have hunique : Relator.RightUnique (Function.swap scene.IsChild) :=
    fun _ _ _ hp hq => h.isChild_unique hp hq
  rcases ReflTransGen.total_of_right_unique hunique (reflTransGen_swap.mpr hja)
    (reflTransGen_swap.mpr hjb) with hab | hba
  · exact hne (h.eq_of_below_sibling hb ha (reflTransGen_swap.mp hab)).symm
  · exact hne (h.eq_of_below_sibling ha hb (reflTransGen_swap.mp hba))

/-- The children of a node are apart. -/
theorem pairwise_separate (h : scene.IsForest) (hnode : scene.node? id = some node) :
    node.children.Pairwise scene.Separate := by
  have hnodup : node.children.Nodup := h.nodup (by rw [ties?, hnode, Option.map_some])
  exact hnodup.imp_of_mem fun ha hb hne =>
    h.separate_of_isChild (isChild_of_node? hnode ha) (isChild_of_node? hnode hb) hne

/-- Below siblings that are apart, no node is listed twice. -/
theorem nodup_of_lists (h : scene.IsForest) (hlists : scene.Lists depth ids entries)
    (hseparate : ids.Pairwise scene.Separate) : (entries.map fun entry => entry.2.1).Nodup := by
  induction hlists with
  | nil => exact List.nodup_nil
  | @cons depth id node siblings below after hnode hbelow hafter ihbelow ihafter =>
    obtain ⟨hid, hsiblings⟩ := List.pairwise_cons.mp hseparate
    have hunder : ∀ entry ∈ below, scene.Below id entry.2.1 ∧ id ≠ entry.2.1 := by
      intro entry hentry
      obtain ⟨c, hc, hcbelow⟩ := hbelow.exists_below entry hentry
      have hchild := isChild_of_node? hnode hc
      refine ⟨.head hchild hcbelow, fun he => ?_⟩
      have hlt := h.index_lt_of_isChild hchild
      rw [he] at hlt
      rcases h.below_cases hcbelow with heq | ⟨hlt', -⟩
      · exact Nat.lt_irrefl _ (heq ▸ hlt)
      · exact Nat.lt_asymm hlt hlt'
    have hoff : ∀ entry ∈ after, ¬ scene.Below id entry.2.1 := by
      intro entry hentry hidbelow
      obtain ⟨c, hc, hcbelow⟩ := hafter.exists_below entry hentry
      exact hid c hc _ hidbelow hcbelow
    rw [List.map_cons, List.map_append, List.nodup_cons, List.nodup_append]
    refine ⟨fun hmem => ?_, ihbelow (h.pairwise_separate hnode), ihafter hsiblings, ?_⟩
    · rcases List.mem_append.mp hmem with hmem | hmem
      · obtain ⟨entry, hentry, he⟩ := List.mem_map.mp hmem
        exact (hunder entry hentry).2 he.symm
      · obtain ⟨entry, hentry, he⟩ := List.mem_map.mp hmem
        exact hoff entry hentry (he ▸ .refl)
    · rintro _ hmem _ hmem' rfl
      obtain ⟨entry, hentry, rfl⟩ := List.mem_map.mp hmem
      obtain ⟨entry', hentry', he⟩ := List.mem_map.mp hmem'
      exact hoff entry' hentry' (he ▸ (hunder entry hentry).1)

/-- What is gone through below siblings is in preorder, as ids increase on the way down, so that
enough levels are gone down. -/
theorem lists_subtreeWithin (h : scene.IsForest) {levels : Nat}
    (hids : ∀ id ∈ ids, scene.contains id = true ∧ scene.nodes.size ≤ id.index + levels) :
    scene.Lists depth ids (ids.flatMap (scene.subtreeWithin levels depth)) := by
  induction levels generalizing depth ids with
  | zero =>
    cases ids with
    | nil => exact .nil
    | cons id rest =>
      obtain ⟨hlive, hlevels⟩ := hids id List.mem_cons_self
      exact absurd (lt_size_of_contains hlive) (Nat.not_lt_of_le hlevels)
  | succ levels ih =>
    induction ids with
    | nil => exact .nil
    | cons id rest ihrest =>
      obtain ⟨hlive, hlevels⟩ := hids id List.mem_cons_self
      obtain ⟨node, hnode⟩ := contains_iff.mp hlive
      have hchildren : ∀ c ∈ node.children,
          scene.contains c = true ∧ scene.nodes.size ≤ c.index + levels := fun c hc => by
        have hchild := isChild_of_node? hnode hc
        have hlt := h.index_lt_of_isChild hchild
        exact ⟨h.contains_of_isChild hchild, by omega⟩
      have hhere : scene.subtreeWithin (levels + 1) depth id =
          (depth, id, node) :: node.children.flatMap (scene.subtreeWithin levels (depth + 1)) := by
        rw [subtreeWithin, hnode]
      rw [List.flatMap_cons, hhere, List.cons_append]
      exact .cons hnode (ih hchildren) (ihrest fun c hc => hids c (List.mem_cons_of_mem _ hc))

end IsForest

namespace IsTree

theorem lists_subtree (h : scene.IsTree) :
    scene.Lists 0 [Scene.root] (scene.subtree Scene.root) := by
  have hlists : scene.Lists 0 [Scene.root]
      ([Scene.root].flatMap (scene.subtreeWithin scene.nodes.size 0)) :=
    h.forest.lists_subtreeWithin (by simp [h.contains_root])
  rwa [List.flatMap_singleton] at hlists

theorem nodup_branch (h : scene.IsTree) : (scene.branch Scene.root).Nodup :=
  h.forest.nodup_of_lists h.lists_subtree (List.pairwise_singleton ..)

/-- From the root, all live nodes are found and no others. -/
theorem mem_branch_root (h : scene.IsTree) :
    id ∈ scene.branch Scene.root ↔ scene.contains id = true := by
  rw [h.forest.mem_branch h.contains_root]
  refine ⟨fun hbelow => ?_, h.below_root⟩
  rcases h.forest.below_cases hbelow with rfl | ⟨-, hlive⟩
  · exact h.contains_root
  · exact hlive

end IsTree

/-- The live nodes can be counted by their ids. -/
theorem liveCount_eq (scene : Scene) :
    scene.liveCount = (List.range scene.nodes.size).countP fun i => scene.contains ⟨i⟩ := by
  have hnodes : scene.nodes.toList =
      (List.range scene.nodes.size).map fun i => scene.node? ⟨i⟩ := by
    refine List.ext_getElem (by simp) fun i hi _ => ?_
    rw [Array.length_toList] at hi
    simp [node?, hi]
  rw [liveCount, hnodes, List.countP_map]
  rfl

/-- A tree is gone through in as many steps as there are live nodes. -/
theorem IsTree.length_subtree (h : scene.IsTree) :
    (scene.subtree Scene.root).length = scene.liveCount := by
  have hmem (id : NodeId) : id ∈ scene.branch Scene.root ↔
      id ∈ ((List.range scene.nodes.size).filter fun i => scene.contains ⟨i⟩).map NodeId.mk := by
    rw [h.mem_branch_root, List.mem_map]
    constructor
    · exact fun hid => ⟨id.index,
        List.mem_filter.mpr ⟨List.mem_range.mpr (lt_size_of_contains hid), hid⟩, rfl⟩
    · rintro ⟨i, hi, rfl⟩
      exact (List.mem_filter.mp hi).2
  have hinjective : Function.Injective NodeId.mk := fun _ _ he => congrArg NodeId.index he
  have hnodup := ((List.nodup_range (n := scene.nodes.size)).filter
    fun i => scene.contains ⟨i⟩).map hinjective
  have hperm := (List.perm_ext_iff_of_nodup h.nodup_branch hnodup).mpr hmem
  have hlength := hperm.length_eq
  rwa [branch, List.length_map, List.length_map, ← List.countP_eq_length_filter,
    ← liveCount_eq] at hlength

/-! ### The order of children -/

theorem ordered_new : Scene.new.Ordered := by
  intro id t ht
  have hlt := lt_size_of_contains (contains_of_ties? ht)
  obtain rfl : id = root := ext_index_iff.mpr (Nat.lt_one_iff.mp hlt)
  obtain rfl : _ = t := Option.some.inj ht
  exact .nil

namespace IsTree

theorem ordered_create (h : scene.IsTree) (hordered : scene.Ordered) (parent : NodeId)
    (name : String) : (scene.create parent name).2.Ordered := by
  rw [← create_keeper h.contains_root]
  have hparent := contains_keeper parent h.contains_root
  intro id t ht
  by_cases hid : id = ⟨scene.nodes.size⟩
  · rw [ties?_create hparent, if_pos hid] at ht
    obtain rfl := Option.some.inj ht
    exact .nil
  · obtain ⟨old, hold, -, hchildren⟩ := ties?_create_old hparent ht hid
    rw [hchildren]
    split
    · -- the new id is larger than those of all nodes
      refine List.pairwise_append.mpr ⟨hordered id old hold, List.pairwise_singleton .., ?_⟩
      intro c hc d hd
      obtain rfl := List.mem_singleton.mp hd
      exact h.child_lt_size hold hc
    · exact hordered id old hold

theorem ordered_destroy (h : scene.IsTree) (hordered : scene.Ordered) (id : NodeId) :
    (scene.destroy id).Ordered := by
  have hdestroys := h.destroys id
  intro j t ht
  obtain ⟨node', hnode', rfl⟩ := Option.map_eq_some_iff.mp ht
  cases hid : scene.contains id with
  | false =>
    rw [hdestroys.unknown hid] at ht
    exact hordered j _ ht
  | true =>
    by_cases hne : id = Scene.root
    · by_cases hj : j = Scene.root
      · rw [hj, hdestroys.restRoot hne] at hnode'
        obtain ⟨node, -, rfl⟩ := Option.map_eq_some_iff.mp hnode'
        exact .nil
      · rw [hdestroys.goneRoot hne j hj] at hnode'
        cases hnode'
    · by_cases hbelow : scene.Below id j
      · rw [hdestroys.gone hne hid j hbelow] at hnode'
        cases hnode'
      · rw [hdestroys.rest hne hid j hbelow] at hnode'
        obtain ⟨node, hnode, rfl⟩ := Option.map_eq_some_iff.mp hnode'
        exact (hordered j node.ties (by rw [ties?, hnode, Option.map_some])).filter _

theorem ordered_after (h : scene.IsTree) (hordered : scene.Ordered) (edit : Edit) :
    (scene.after edit).Ordered := by
  rcases scene.after_cases edit with ⟨parent, name, rfl⟩ | ⟨id, rfl⟩ | ⟨hsame, -⟩
  · exact h.ordered_create hordered parent name
  · exact h.ordered_destroy hordered id
  · intro id t ht
    rw [hsame.ties] at ht
    exact hordered id t ht

/-- Children come in the order in which they were made, whatever is done. -/
theorem ordered_afterAll (h : scene.IsTree) (hordered : scene.Ordered) (edits : List Edit) :
    (scene.afterAll edits).Ordered := by
  induction edits generalizing scene with
  | nil => exact hordered
  | cons edit edits ih => exact ih (h.after edit) (h.ordered_after hordered edit)

end IsTree

/-! ### The line of a node -/

/-- What is written of a node after its name is on one line. -/
theorem isOneLine_summary (node : Node) : IsOneLine node.summary := by
  have hstring (s : String) : toString s = s := rfl
  have hkinds : ∀ kind ∈ node.components.map Component.kindName, IsOneLine kind := by
    intro kind hkind
    obtain ⟨component, -, rfl⟩ := List.mem_map.mp hkind
    cases component <;> (rw [Component.kindName]; decide)
  unfold Node.summary
  simp only [isOneLine_append, hstring, isOneLine_fixed, and_true]
  refine ⟨⟨⟨⟨by decide, ?inert⟩, ?components⟩, ?shown⟩, ?picture⟩
  case inert => split <;> decide
  case components =>
    split
    · decide
    · simp only [isOneLine_append]
      exact ⟨⟨by decide, isOneLine_intercalate (by decide) hkinds⟩, by decide⟩
  case shown =>
    split
    · split
      · decide
      · exact isOneLine_append.mpr ⟨by decide, isOneLine_quote _⟩
    · decide
  case picture =>
    split
    · simp only [isOneLine_append, isOneLine_toString, and_true]
      decide
    · decide

/-- The line of a node has the line feeds of its name. -/
theorem lineFeeds_line (depth : Nat) (node : Node) :
    lineFeeds (node.line depth) = lineFeeds node.name := by
  have hindent : lineFeeds (String.ofList (List.replicate (2 * depth) ' ')) = 0 := by
    rw [lineFeeds, String.toList_ofList, List.count_replicate]
    rfl
  rw [Node.line, lineFeeds_append, lineFeeds_append, hindent, isOneLine_iff.mp
    (isOneLine_summary node), Nat.zero_add, Nat.add_zero]

/-! ### Outlines -/

/-- A list of entries is what the outline of a scene shows. -/
structure ShownBy (scene : Scene) (entries : List (Nat × NodeId × Node)) : Prop where
  /-- The entries are in preorder from the root on. -/
  preorder : scene.Lists 0 [root] entries
  /-- No node has two entries. -/
  nodup : (entries.map fun entry => entry.2.1).Nodup
  /-- All live nodes have entries, and no others. -/
  live : ∀ id, id ∈ entries.map (fun entry => entry.2.1) ↔ scene.contains id = true
  /-- An entry has a node as it is, and how far it is below the root. -/
  depth : ∀ entry ∈ entries,
    scene.node? entry.2.1 = some entry.2.2 ∧ scene.Depth entry.2.1 entry.1
  length : entries.length = scene.liveCount
  /-- The outline is what is written of the entries, indented by two blanks a level. -/
  text : scene.outline = String.join (entries.map fun entry =>
    String.ofList (List.replicate (2 * entry.1) ' ') ++ entry.2.2.name ++ entry.2.2.summary ++
      "\n")
  /-- It has a line for each live node, and one for each line feed in their names. -/
  feeds : (endedLines scene.outline).length =
    scene.liveCount + (entries.map fun entry => lineFeeds entry.2.2.name).sum
  /-- So it has a line for each live node just if their names are on one line. -/
  count : (endedLines scene.outline).length = scene.liveCount ↔
    ∀ id node, scene.node? id = some node → IsOneLine node.name
  /-- Then the lines are those of the entries. -/
  lines : endedLines scene.outline = (entries.map fun entry => entry.2.2.line entry.1) ↔
    ∀ id node, scene.node? id = some node → IsOneLine node.name

theorem outline_eq (scene : Scene) : scene.outline = String.join
    (((scene.subtree root).map fun entry => entry.2.2.line entry.1).map (· ++ "\n")) := by
  rw [outline, List.map_map]
  rfl

namespace IsTree

/-- An outline has a line for each live node, and one for each line feed in a name. -/
theorem lineFeeds_outline (h : scene.IsTree) : lineFeeds scene.outline = scene.liveCount +
    ((scene.subtree Scene.root).map fun entry => lineFeeds entry.2.2.name).sum := by
  have hjoin (lines : List String) : lineFeeds (String.join (lines.map (· ++ "\n"))) =
      lines.length + (lines.map lineFeeds).sum := by
    have hfeed : lineFeeds "\n" = 1 := by decide
    induction lines with
    | nil => rfl
    | cons line rest ih =>
      rw [List.map_cons, String.join_cons, lineFeeds_append, lineFeeds_append, ih, hfeed,
        List.length_cons, List.map_cons, List.sum_cons]
      omega
  rw [outline_eq, hjoin, List.length_map, h.length_subtree, List.map_map]
  congr 3
  exact funext fun entry => lineFeeds_line entry.1 entry.2.2

theorem shownBy_subtree (h : scene.IsTree) : scene.ShownBy (scene.subtree Scene.root) := by
  have hroot : ∀ id ∈ [Scene.root], scene.Depth id 0 := by simpa using Depth.root
  have hentries := h.lists_subtree.node?_depth hroot
  -- no name has a line feed in it just if the names of the entries have none
  have hnames : (∀ id node, scene.node? id = some node → IsOneLine node.name) ↔
      ∀ entry ∈ scene.subtree Scene.root, IsOneLine entry.2.2.name := by
    refine ⟨fun hall entry hentry => hall _ _ (hentries entry hentry).1, ?_⟩
    intro hall id node hnode
    have hmem := h.mem_branch_root.mpr (contains_iff.mpr ⟨node, hnode⟩)
    obtain ⟨entry, hentry, rfl⟩ := List.mem_map.mp hmem
    obtain rfl := Option.some.inj (hnode.symm.trans (hentries entry hentry).1)
    exact hall entry hentry
  have hcount : (endedLines scene.outline).length = scene.liveCount ↔
      ∀ id node, scene.node? id = some node → IsOneLine node.name := by
    rw [length_endedLines, h.lineFeeds_outline, hnames, Nat.add_eq_left,
      List.sum_eq_zero_iff_forall_eq_nat, List.forall_mem_map]
    exact forall₂_congr fun _ _ => isOneLine_iff.symm
  refine ⟨h.lists_subtree, h.nodup_branch, fun id => h.mem_branch_root, hentries, h.length_subtree,
    ?_, ?_, hcount, fun hlines => hcount.mp ?_, fun hall => ?_⟩
  · rw [outline_eq, List.map_map]
    rfl
  · rw [length_endedLines, h.lineFeeds_outline]
  · rw [hlines, List.length_map, h.length_subtree]
  · rw [outline_eq, endedLines_join]
    intro line hline
    obtain ⟨entry, hentry, rfl⟩ := List.mem_map.mp hline
    rw [isOneLine_iff, lineFeeds_line, ← isOneLine_iff]
    exact hnames.mp hall entry hentry

end IsTree

end Scene

end Uiml
