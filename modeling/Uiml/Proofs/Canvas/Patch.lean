import Uiml.Proofs.Canvas.Faithful

/-!
# Values given in any order

To give a property of a widget a value writes to the state of the widget and to some of its nodes.
Two widgets have no nodes in common, and two properties of one widget have no fields in common, not
even those of the fill and the slider of a progress bar. So values of different properties may be
given in any order.

## Main definitions

* `Patch` — what giving a value writes, as far as it depends on the widget
* `Canvas.patched` — a canvas after that has been written

## Main results

* `Canvas.applyValue_eq_patched` — a value is given by writing a patch
* `Canvas.Faithful.applyValue_comm` — values of different properties may be given in any order
-/

namespace Uiml

/-! ### Nodes -/

namespace Scene

variable {scene : Scene} {i j : NodeId} {f g : Node → Node}

/-- Changes of different nodes, and changes of different fields, may be made in any order. -/
theorem modify_comm (h : i = j → ∀ node, g (f node) = f (g node)) :
    (scene.modify i f).modify j g = (scene.modify j g).modify i f := by
  simp only [modify, Scene.mk.injEq]
  refine Array.ext_getElem? fun k => ?_
  simp only [Array.getElem?_modify]
  by_cases hi : i.index = k <;> by_cases hj : j.index = k
  · have hsame := h (ext_index_iff.mpr (hi.trans hj.symm))
    simp only [hi, hj, if_true, Option.map_map]
    congr 1
    funext node
    cases node with
    | none => rfl
    | some node => exact congrArg some (hsame node)
  · simp only [hi, hj, if_true, if_false]
  · simp only [hi, hj, if_true, if_false]
  · simp only [hi, hj, if_false]

/-- A node that is not there is not changed. -/
theorem modify_of_node?_eq_none (h : scene.node? i = none) : scene.modify i f = scene :=
  modify_eq_self fun node hnode => by rw [h] at hnode; cases hnode

theorem replaceComponent_snd (f : Component → Option Component) :
    (scene.replaceComponent i f).2 = scene.modify i fun node => node.replace f := by
  rw [replaceComponent]
  cases hi : scene.node? i with
  | none => exact (modify_of_node?_eq_none hi).symm
  | some node => rfl

/-- The scene after changes of some nodes. -/
def modifyAll (scene : Scene) (edits : List (NodeId × (Node → Node))) : Scene :=
  edits.foldl (fun scene edit => scene.modify edit.1 edit.2) scene

theorem modifyAll_cons (edit : NodeId × (Node → Node)) (edits : List (NodeId × (Node → Node))) :
    scene.modifyAll (edit :: edits) = (scene.modify edit.1 edit.2).modifyAll edits := rfl

/-- Two changes do not get in each other's way. -/
def Apart (edit edit' : NodeId × (Node → Node)) : Prop :=
  edit.1 = edit'.1 → ∀ node, edit'.2 (edit.2 node) = edit.2 (edit'.2 node)

theorem modify_modifyAll_comm {edit : NodeId × (Node → Node)}
    {edits : List (NodeId × (Node → Node))} (h : ∀ edit' ∈ edits, Apart edit edit') :
    (scene.modify edit.1 edit.2).modifyAll edits =
      (scene.modifyAll edits).modify edit.1 edit.2 := by
  induction edits generalizing scene with
  | nil => rfl
  | cons edit' edits ih =>
    obtain ⟨hapart, hrest⟩ := List.forall_mem_cons.mp h
    rw [modifyAll_cons, modifyAll_cons, modify_comm hapart, ih hrest]

theorem modifyAll_comm {edits edits' : List (NodeId × (Node → Node))}
    (h : ∀ edit ∈ edits, ∀ edit' ∈ edits', Apart edit edit') :
    (scene.modifyAll edits).modifyAll edits' = (scene.modifyAll edits').modifyAll edits := by
  induction edits generalizing scene with
  | nil => rfl
  | cons edit edits ih =>
    obtain ⟨hapart, hrest⟩ := List.forall_mem_cons.mp h
    rw [modifyAll_cons, modifyAll_cons, ih hrest, modify_modifyAll_comm hapart]

end Scene

/-! ### Widgets -/

/-- What is written to a widget and to nodes. -/
structure Patch where
  widget : Handle → Handle := id
  nodes : List (NodeId × (Scene.Node → Scene.Node)) := []

/-- What giving a property of a widget a value writes: nothing, if the value has another shape. -/
def Handle.patch (h : Handle) : Property → TweenValue → Patch
  | .alpha, .scalar alpha =>
    { widget := fun h => { h with alpha }
      nodes := [(h.node, fun node => { node with alpha })] }
  | .position, .vec2 position =>
    { widget := fun h => { h with transform := { h.transform with position } }
      nodes := [(h.node, fun node => { node with position })] }
  | .scale, .vec3 scale =>
    { widget := fun h => { h with transform := { h.transform with scale } }
      nodes := [(h.node, fun node => { node with scale })] }
  | .progress, .scalar value =>
    match h.parts with
    | .progressBar bar =>
      { widget := fun h => { h with parts := .progressBar (bar.withValue value) }
        nodes :=
          [(bar.fill, fun node =>
              { node with
                anchorMin := (bar.withValue value).anchors.1
                anchorMax := (bar.withValue value).anchors.2 }),
            (h.node, fun node =>
              node.replace (Component.withSliderValue? (bar.withValue value).value))] }
    | _ => {}
  | _, _ => {}

/-- A change of a node that shows a value of a property. -/
inductive Property.Writes : Property → (Scene.Node → Scene.Node) → Prop
  | alpha (alpha : Float32) : Writes .alpha fun node => { node with alpha }
  | position (position : Vec2) : Writes .position fun node => { node with position }
  | scale (scale : Vec3) : Writes .scale fun node => { node with scale }
  | anchors (anchorMin anchorMax : Vec2) :
      Writes .progress fun node => { node with anchorMin, anchorMax }
  | slider (value : Float32) :
      Writes .progress fun node => node.replace (Component.withSliderValue? value)

/-- Different properties are shown by different fields of a node. -/
theorem Property.Writes.comm {property other : Property} {f g : Scene.Node → Scene.Node}
    (hf : property.Writes f) (hg : other.Writes g) (hne : property ≠ other) (node : Scene.Node) :
    g (f node) = f (g node) := by
  cases hf <;> cases hg <;> first | rfl | exact absurd rfl hne

namespace Handle

variable {h h' : Handle} {property other : Property} {value value' : TweenValue}
  {edit edit' : NodeId × (Scene.Node → Scene.Node)}

/-- A value is written to nodes of the widget, and to the fields that show its property. -/
theorem writes_of_mem_patch (hedit : edit ∈ (h.patch property value).nodes) :
    edit.1 ∈ h.nodes ∧ property.Writes edit.2 := by
  cases property <;> cases value <;> simp only [patch] at hedit
  case alpha.scalar v =>
    obtain rfl := List.mem_singleton.mp hedit
    exact ⟨List.mem_cons_self, .alpha v⟩
  case position.vec2 v =>
    obtain rfl := List.mem_singleton.mp hedit
    exact ⟨List.mem_cons_self, .position v⟩
  case scale.vec3 v =>
    obtain rfl := List.mem_singleton.mp hedit
    exact ⟨List.mem_cons_self, .scale v⟩
  case progress.scalar v =>
    cases hparts : h.parts with
    | progressBar bar =>
      rw [hparts, List.mem_cons, List.mem_singleton] at hedit
      rcases hedit with rfl | rfl
      · exact ⟨List.mem_cons_of_mem _ (fill_mem_parts hparts), .anchors _ _⟩
      · exact ⟨List.mem_cons_self, .slider _⟩
    | _ =>
      rw [hparts] at hedit
      cases hedit
  all_goals cases hedit

theorem node_patch (h h' : Handle) (property : Property) (value : TweenValue) :
    ((h.patch property value).widget h').node = h'.node := by
  cases property <;> cases value
  case progress.scalar v => simp only [patch]; cases h.parts <;> rfl
  all_goals rfl

/-- Only progress is a matter of the parts of a widget. -/
theorem parts_patch (hne : property ≠ .progress) :
    ((h.patch property value).widget h').parts = h'.parts := by
  cases property <;> cases value <;> first | rfl | exact absurd rfl hne

/-- What is written for a value depends on the node of a widget, and for progress on its parts. -/
theorem patch_congr (hnode : h'.node = h.node) (hparts : other = .progress → h'.parts = h.parts) :
    h'.patch other value = h.patch other value := by
  cases other <;> cases value
  case progress.scalar v => simp only [patch, hparts rfl, hnode]
  all_goals simp only [patch, hnode]

/-- What is written for a value does not depend on the values of other properties. -/
theorem patch_patch (hne : property ≠ other) :
    ((h.patch property value).widget h).patch other value' = h.patch other value' :=
  patch_congr (h.node_patch h property value) fun he => parts_patch (he ▸ hne)

/-- Different properties are different fields of a widget. -/
theorem patch_widget_comm (hne : property ≠ other) (w : Handle) :
    (h.patch other value').widget ((h.patch property value).widget w) =
      (h.patch property value).widget ((h.patch other value').widget w) := by
  cases property <;> cases value <;> cases other <;> cases value' <;>
    first | rfl | exact absurd rfl hne | (simp only [patch]; cases h.parts <;> rfl)

end Handle

namespace Canvas

variable {canvas : Canvas} {id id' : WidgetId} {property property' : Property}
  {value value' : TweenValue} {p q : Patch}

/-- The canvas after a patch of a widget has been written. -/
def patched (canvas : Canvas) (id : WidgetId) (patch : Patch) : Canvas :=
  { (canvas.modifyWidget id patch.widget) with scene := canvas.scene.modifyAll patch.nodes }

/-- To write nothing changes nothing. -/
theorem patched_empty (canvas : Canvas) (id : WidgetId) : canvas.patched id {} = canvas := by
  rw [patched, modifyWidget]
  congr 1
  exact Array.modify_eq_self fun h _ => rfl

theorem widget?_patched : (canvas.patched id p).widget? id' =
    if id' = id then (canvas.widget? id').map p.widget else canvas.widget? id' :=
  widget?_modifyWidget

/-- Patches that do not get in each other's way may be written in any order. -/
theorem patched_comm
    (hwidget : id = id' → ∀ h, q.widget (p.widget h) = p.widget (q.widget h))
    (hnodes : ∀ edit ∈ p.nodes, ∀ edit' ∈ q.nodes, Scene.Apart edit edit') :
    (canvas.patched id p).patched id' q = (canvas.patched id' q).patched id p := by
  simp only [patched, modifyWidget, Canvas.mk.injEq]
  refine ⟨Scene.modifyAll_comm hnodes, Array.ext_getElem? fun k => ?_⟩
  simp only [Array.getElem?_modify]
  by_cases hi : id.index = k <;> by_cases hj : id'.index = k
  · have hsame := hwidget (WidgetId.ext_index_iff.mpr (hi.trans hj.symm))
    simp only [hi, hj, if_true, Option.map_map]
    congr 1
    exact funext hsame
  · simp only [hi, hj, if_true, if_false]
  · simp only [hi, hj, if_true, if_false]
  · simp only [hi, hj, if_false]

/-- What giving a value to a property of a widget writes. -/
def patch (canvas : Canvas) (id : WidgetId) (property : Property) (value : TweenValue) : Patch :=
  match canvas.widget? id with
  | none => {}
  | some h => h.patch property value

section Give

variable {h : Handle} (hid : canvas.widget? id = some h)

include hid

theorem setAlpha_eq_patched (v : Float32) :
    canvas.setAlpha id v = canvas.patched id (h.patch .alpha (.scalar v)) := update_of_widget? hid

theorem setPosition_eq_patched (v : Vec2) :
    canvas.setPosition id v = canvas.patched id (h.patch .position (.vec2 v)) :=
  update_of_widget? hid

theorem setScale_eq_patched (v : Vec3) :
    canvas.setScale id v = canvas.patched id (h.patch .scale (.vec3 v)) := update_of_widget? hid

theorem setProgress_eq_patched (v : Float32) :
    (canvas.setProgress id v).2 = canvas.patched id (h.patch .progress (.scalar v)) := by
  rw [setProgress, hid, Option.map_some]
  simp only [Handle.patch]
  cases h.parts with
  | progressBar bar =>
    simp only [update_of_widget? hid, Scene.setSliderValue, Scene.replaceComponent_snd]
    rfl
  | _ => exact (canvas.patched_empty id).symm

end Give

/-- A value is given by writing a patch. -/
theorem applyValue_eq_patched :
    (canvas.applyValue id property value).value =
      canvas.patched id (canvas.patch id property value) := by
  rw [applyValue, patch]
  cases hid : canvas.widget? id with
  | none => exact (canvas.patched_empty id).symm
  | some h =>
    cases property <;> cases value
    case alpha.scalar v => exact setAlpha_eq_patched hid v
    case position.vec2 v => exact setPosition_eq_patched hid v
    case scale.vec3 v => exact setScale_eq_patched hid v
    case progress.scalar v => exact setProgress_eq_patched hid v
    all_goals exact (canvas.patched_empty id).symm

/-- What is written for a value does not depend on the values of other properties. -/
theorem patch_patched (hne : (id, property) ≠ (id', property')) :
    (canvas.patched id (canvas.patch id property value)).patch id' property' value' =
      canvas.patch id' property' value' := by
  rw [patch.eq_def, widget?_patched, patch.eq_def canvas id']
  by_cases he : id' = id
  · subst he
    have hproperty : property ≠ property' := fun he => hne (he ▸ rfl)
    rw [if_pos rfl, patch]
    cases hid : canvas.widget? id' with
    | none => rfl
    | some h => exact Handle.patch_patch hproperty
  · rw [if_neg he]

/-- Values of different properties may be given in any order: those of one widget are in different
fields, and those of different widgets on different nodes. -/
theorem Faithful.applyValue_comm (hc : canvas.Faithful) (hne : (id, property) ≠ (id', property')) :
    ((canvas.applyValue id property value).value.applyValue id' property' value').value =
      ((canvas.applyValue id' property' value').value.applyValue id property value).value := by
  rw [applyValue_eq_patched, applyValue_eq_patched, applyValue_eq_patched, applyValue_eq_patched,
    patch_patched hne, patch_patched hne.symm, patch, patch]
  cases hid : canvas.widget? id with
  | none => exact patched_comm (fun _ _ => rfl) (fun _ hedit => nomatch hedit)
  | some h =>
    cases hid' : canvas.widget? id' with
    | none => exact patched_comm (fun _ _ => rfl) (fun _ _ _ hedit' => nomatch hedit')
    | some h' =>
      refine patched_comm (fun he w => ?_) fun edit hedit edit' hedit' hnode node => ?_
      · subst he
        obtain rfl := Option.some.inj (hid.symm.trans hid')
        exact Handle.patch_widget_comm (fun he => hne (congrArg (Prod.mk id) he)) w
      · obtain ⟨hmem, hwrites⟩ := Handle.writes_of_mem_patch hedit
        obtain ⟨hmem', hwrites'⟩ := Handle.writes_of_mem_patch hedit'
        by_cases he : id = id'
        · subst he
          exact hwrites.comm hwrites' (fun he => hne (congrArg (Prod.mk id) he)) node
        · exact absurd (hnode ▸ hmem') (hc.disjoint hid hid' he _ hmem)

end Canvas

end Uiml
