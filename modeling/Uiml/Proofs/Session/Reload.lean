import Uiml.Proofs.Session.Standing
import Uiml.Proofs.Session.Structure
import Uiml.Proofs.Build.SideBySide

/-!
# Loading again

If the settings ask for a clearing before each load, a load does in any session what it does in a
new one: the counts or the error are the same, and so are the names, the widgets and the scene, up
to the ids of nodes. What is seen of the history of a session is the contents of its slots, on the
widgets that are bound to them.

## Main definitions

* `Slots.HasContent` — a slot has a text or a picture
* `Session.SameLoad` — the same document is loaded into two sessions
* `Session.AlikeLoaded` — what two loads leave is the same up to a renumbering

## Main results

* `Session.Reachable.reload` — a load does the same as in a new session
-/

namespace Uiml

open Element (encountersAll)

/-- The slot of a number has a text or a picture. -/
def Slots.HasContent (board : Slots) (index : Nat) : Prop :=
  ∃ slot, board.slot? index = some slot ∧ (slot.text.isSome = true ∨ slot.image.isSome = true)

namespace Session

variable {s : Session}

/-! ### What the clearing leaves -/

theorem clear_canvas (s : Session) : s.clear.value.stage.canvas = s.stage.canvas.cleared := by
  rw [clear_value]

theorem content?_clear (s : Session) (i : Nat) :
    s.clear.value.slots.content? i = s.slots.content? i := by
  rw [clear_value, Slots.content?, Slots.clearBindings, Slots.slot?_map, Option.map_map]
  rfl

/-- Only the root is left by the clearing, as it was at first. -/
theorem Reachable.node?_clear (hs : Reachable s) (j : NodeId) :
    s.clear.value.stage.canvas.scene.node? j =
      if j = Scene.root then some { name := "Root" } else none := by
  rw [clear_canvas]
  exact hs.orderly.tree.node?_destroy_root hs.orderly.face

theorem content?_new (config : Config) (files : Files) (bundles : Table String (List UInt8))
    (i : Nat) : (Session.new config files bundles).slots.content? i =
      if i < config.slotCount then some (none, none) else none := by
  rw [Slots.content?, Slots.slot?]
  simp only [Session.new, Slots.new, Array.getElem?_replicate]
  split <;> rfl

theorem Standing.content? (hs : s.Standing) {i : Nat} (hi : ¬ s.slots.HasContent i) :
    s.slots.content? i = if i < s.config.slotCount then some (none, none) else none := by
  have hslots := hs.slots i
  rw [Slots.content?]
  cases hslot : s.slots.slot? i with
  | none =>
    rw [hslot] at hslots
    rw [if_neg (of_decide_eq_false hslots.symm)]
    rfl
  | some slot =>
    rw [hslot] at hslots
    rw [if_pos (of_decide_eq_true hslots.symm), Option.map_some, Slot.content]
    have htext : slot.text = none :=
      Option.not_isSome_iff_eq_none.mp fun h => hi ⟨slot, hslot, .inl h⟩
    have himage : slot.image = none :=
      Option.not_isSome_iff_eq_none.mp fun h => hi ⟨slot, hslot, .inr h⟩
    rw [htext, himage]

/-- After the clearing a session is like a new one, but for the ids of nodes that have been given
out and the contents of slots. -/
theorem Reachable.clear_alike (hs : Reachable s) (files : Files)
    (bundles : Table String (List UInt8)) :
    ∃ f, (Session.new s.config files bundles).clear.value.workbench.Alike f s.slots.HasContent
      s.clear.value.workbench := by
  let fresh := Session.new s.config files bundles
  have hfresh : Reachable fresh := .new s.config files bundles
  have hcleared : Reachable fresh.clear.value :=
    .after hfresh (rfl : fresh.after .clear = .ok fresh.clear.value)
  have hcleared' : Reachable s.clear.value := .after hs (rfl : s.after .clear = .ok s.clear.value)
  have hnodes (j : NodeId) : s.clear.value.stage.canvas.scene.node? j =
      fresh.clear.value.stage.canvas.scene.node? j := by
    rw [hs.node?_clear, hfresh.node?_clear]
  have hsize : fresh.clear.value.stage.canvas.scene.nodes.size = 1 := by
    rw [clear_canvas]
    exact Scene.size_destroy
  have hpos := hcleared'.orderly.tree.pos
  have hsize' : s.clear.value.stage.canvas.scene.nodes.size =
      fresh.clear.value.stage.canvas.scene.nodes.size +
        (s.clear.value.stage.canvas.scene.nodes.size - 1) := by omega
  have hwidgets : s.clear.value.stage.canvas.widgets = fresh.clear.value.stage.canvas.widgets := by
    rw [clear_canvas, clear_canvas]
    rfl
  -- the new canvas is like itself, and like one in which more ids have been given out
  have hcanvas := (Canvas.Alike.refl s.slots.HasContent fresh.clear.value.stage.canvas).skip
    hcleared.orderly (fun id => by rw [Canvas.widget?, hwidgets, Canvas.widget?])
    (congrArg Array.size hwidgets) hnodes hsize'
  refine ⟨_, hcanvas, rfl, ⟨fun {i} hi => ?_, fun {i} hi => ?_⟩, hcleared.standing.resolver,
    hcleared'.standing.resolver⟩
  · change s.clear.value.slots.content? i = fresh.clear.value.slots.content? i
    rw [content?_clear, content?_clear, content?_new, hs.standing.content? hi]
  · change fresh.clear.value.slots.content? i = _ ∧ (s.clear.value.slots.content? i).isSome = true
    obtain ⟨slot, hslot, -⟩ := hi
    have hlt := hs.standing.slots i
    rw [hslot] at hlt
    rw [content?_clear, content?_clear, content?_new, if_pos (of_decide_eq_true hlt.symm),
      Slots.content?, hslot]
    exact ⟨rfl, rfl⟩

/-! ### Loads -/

/-- The same document is loaded into two sessions, given as a tree, as a text or in a file. -/
inductive SameLoad (s s' : Session) : Building (Except LoadError CompileStats × Session) →
    Building (Except LoadError CompileStats × Session) → Prop
  | tree (root : Element) : SameLoad s s' (s.loadDocument root) (s'.loadDocument root)
  | text (source : String) : SameLoad s s' (s.load source) (s'.load source)
  | file (path : String) (hread : s.slots.assets.files.readText path =
      s'.slots.assets.files.readText path) : SameLoad s s' (s.loadFile path) (s'.loadFile path)

/-- What two loads leave: the same outcome and, unless that is an error, the same names and, up to a
renumbering of the nodes and the contents of hidden widgets, the same widgets and scene. -/
structure AlikeLoaded (hidden : Nat → Prop) (loaded loaded' : Except LoadError CompileStats × Session) :
    Prop where
  result : loaded'.1 = loaded.1
  registry : loaded.1.isOk = true → loaded'.2.registry = loaded.2.registry
  canvas : loaded.1.isOk = true →
    ∃ f, loaded.2.stage.canvas.Alike f hidden loaded'.2.stage.canvas

/-- Two loads of a document fail before it is compiled, or they compile the same. -/
theorem SameLoad.cases {s s' : Session}
    {load load' : Building (Except LoadError CompileStats × Session)}
    (h : SameLoad s s' load load') :
    (∃ e t t', load.run.value = .ok (.error e, t) ∧ load'.run.value = .ok (.error e, t')) ∨
      ∃ root, LoadsDocument s root load ∧ LoadsDocument s' root load' := by
  cases h with
  | tree root => exact .inr ⟨root, .tree, .tree⟩
  | text source =>
    cases hparse : Markup.parse source with
    | error e =>
      refine .inl ⟨.markup e, s.clearForLoad.value, s'.clearForLoad.value, ?_, ?_⟩
      · rw [load_value, hparse]
      · rw [load_value, hparse]
    | ok root => exact .inr ⟨root, .text hparse, .text hparse⟩
  | file path hread =>
    cases hsource : s.slots.assets.files.readText path with
    | error fault =>
      refine .inl ⟨.unreadable path fault, s, s', ?_, ?_⟩
      · rw [loadFile_value, hsource]
      · rw [loadFile_value, ← hread, hsource]
    | ok source =>
      cases hparse : Markup.parse source with
      | error e =>
        refine .inl ⟨.markup e, s.clearForLoad.value, s'.clearForLoad.value, ?_, ?_⟩
        · rw [loadFile_value, hsource]
          exact (load_value s source).trans (by rw [hparse])
        · rw [loadFile_value, ← hread, hsource]
          exact (load_value s' source).trans (by rw [hparse])
      | ok root =>
        exact .inr ⟨root, .file hsource hparse, .file (hread.symm.trans hsource) hparse⟩

/-- Compiling a document into a session that has been cleared ends as it does in a new one. -/
theorem Reachable.compile_alike (hs : Reachable s) (root : Element) (files : Files)
    (bundles : Table String (List UInt8)) :
    EndAlike (AlikeLoaded s.slots.HasContent)
      ((Session.new s.config files bundles).clear.value.compile root).run.value
      (s.clear.value.compile root).run.value := by
  let fresh := Session.new s.config files bundles
  have hcleared : Reachable fresh.clear.value :=
    .after (.new s.config files bundles) (rfl : fresh.after .clear = .ok fresh.clear.value)
  have hcleared' : Reachable s.clear.value := .after hs (rfl : s.after .clear = .ok s.clear.value)
  obtain ⟨f, hbench⟩ := hs.clear_alike files bundles
  have hcompile (t : Session) : (t.clear.value.workbench.compile t.config.theme root
      Scene.root).run.value = Workbench.walk t.config.theme t.clear.value.workbench
        (encountersAll none 0 root.children) := compile_eq_walk t.clear.value root
  rw [compile_value, compile_value]
  change EndAlike _ (if Text.sameLetters root.tag s.config.rootTag then
      (fresh.clear.value.workbench.compile fresh.config.theme root Scene.root).run.value.map _
    else _) (if Text.sameLetters root.tag s.config.rootTag then
      (s.clear.value.workbench.compile s.config.theme root Scene.root).run.value.map _ else _)
  split
  · -- both walk along the same encounters, as ids of widgets start anew
    rw [hcompile, hcompile]
    refine (hbench.walk hcleared.orderly hcleared'.orderly s.config.theme _).map
      fun bench bench' hbuilt hbuilt' h => ⟨congrArg Except.ok ?_, fun _ => h.registry,
        fun _ => ⟨f, h.canvas⟩⟩
    exact (Workbench.walk_stats hbuilt').trans (Workbench.walk_stats hbuilt).symm
  · exact .ended ⟨rfl, nofun, nofun⟩

/-- Where a load begins with a clearing, it does in any session what it does in a new one. Only the
contents of slots are seen, on the widgets that are bound to them. -/
theorem Reachable.reload (hs : Reachable s) (hclear : s.config.clearOnLoad = true) (files : Files)
    (bundles : Table String (List UInt8))
    {load load' : Building (Except LoadError CompileStats × Session)}
    (hload : SameLoad (Session.new s.config files bundles) s load load') :
    EndAlike (AlikeLoaded s.slots.HasContent) load.run.value load'.run.value := by
  rcases hload.cases with ⟨e, t, t', h, h'⟩ | ⟨root, h, h'⟩
  · rw [h, h']
    exact .ended ⟨rfl, nofun, nofun⟩
  · have hcleared (t : Session) (ht : t.config.clearOnLoad = true) :
        t.clearForLoad.value = t.clear.value := by
      rw [Session.clearForLoad, ht]
      rfl
    rw [h.value, h'.value, hcleared (.new s.config files bundles) hclear,
      hcleared s hclear]
    exact hs.compile_alike root files bundles

/-- A bound text is loaded into a session that has shown another document and has a text in the
slot. -/
theorem reload_boundText :
    ∃ s t t' f, (((Session.new {} {} {}).after (.loadDocument allFates)).bind
        fun s => s.after (.setText 0 "hi")) = .ok s ∧
      ((Session.new s.config {} {}).loadDocument boundText).run.value = .ok (.ok ⟨1, 0, 0, 0⟩, t) ∧
      (s.loadDocument boundText).run.value = .ok (.ok ⟨1, 0, 0, 0⟩, t') ∧
      t.stage.canvas.Alike f s.slots.HasContent t'.stage.canvas := by
  have hvalue : (((Session.new {} {} {}).after (.loadDocument allFates)).bind
      fun s => s.after (.setText 0 "hi")).toOption.map (fun s => (s.config.clearOnLoad,
        ((Session.new s.config {} {}).loadDocument boundText).run.value.toOption.map
          (·.1.toOption))) = some (true, some (some ⟨1, 0, 0, 0⟩)) := by decide +kernel
  cases hfirst : (Session.new {} {} {}).after (.loadDocument allFates) with
  | error breakdown => rw [hfirst] at hvalue; cases hvalue
  | ok first =>
    rw [hfirst] at hvalue
    cases hafter : first.after (.setText 0 "hi") with
    | error breakdown =>
      rw [Except.bind, hafter] at hvalue
      cases hvalue
    | ok s =>
      rw [Except.bind, hafter] at hvalue
      obtain ⟨hclear, hresult⟩ := Prod.mk.inj (Option.some.inj hvalue)
      have hs : Reachable s := .after (.after (.new {} {} {}) hfirst) hafter
      have halike := hs.reload hclear {} {} (.tree boundText)
      generalize hfresh : ((Session.new s.config {} {}).loadDocument boundText).run.value = fresh
        at halike hresult
      generalize hload : (s.loadDocument boundText).run.value = reloaded at halike
      cases halike with
      | broken breakdown => cases hresult
      | @ended fresh reloaded h =>
        obtain ⟨(_ | _), t⟩ := fresh <;> cases hresult
        obtain ⟨f, hf⟩ := h.canvas rfl
        have hreloaded : reloaded = (.ok ⟨1, 0, 0, 0⟩, reloaded.2) := Prod.ext h.result rfl
        exact ⟨s, t, reloaded.2, f, hafter, hfresh, hload.trans (congrArg Except.ok hreloaded), hf⟩

end Session

end Uiml
