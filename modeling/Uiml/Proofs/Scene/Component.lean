import Uiml.Scene.Basic

/-!
# Replacing components

A component is replaced in place, by one of its own kind. So a question about components of another
kind has the same answer before and after, and one about the kind itself is answered by the
replacement.

A change that is none leaves what it is made to as it is, be it an element of an array or the first
component of a kind.

## Main definitions

* `Component.Replaces` — a function replaces the components of a kind
* `Scene.Node.replace` — a node with its first component of a kind replaced

## Main results

* `Array.modify_eq_self` — an element that is changed into itself
* `Scene.map_replaceFirst` — what cannot tell a replacement apart is as before
* `Scene.Node.component?_replace`, `Scene.Node.component?_replace_of_ne`
* `Scene.Node.replace_eq_self` — a component that is its own replacement stays
* `Scene.Node.text?_replace_withText?` — a node that shows a text shows the new text
-/

/-- An element that is changed into itself leaves the array as it is. -/
theorem Uiml.Array.modify_eq_self {α : Type} {xs : Array α} {i : Nat} {f : α → α}
    (h : ∀ x, xs[i]? = some x → f x = x) : xs.modify i f = xs := by
  refine Array.ext_getElem? fun k => ?_
  rw [Array.getElem?_modify]
  split
  · next he =>
    subst he
    cases hx : xs[i]? with
    | none => rfl
    | some x => exact congrArg some (h x hx)
  · rfl

namespace Uiml.Scene

variable {α β : Type} {f : α → Option α} {p : α → Bool}

/-- What neither the replaced nor the replacement is asked for is found as before. -/
theorem find?_replaceFirst_of_not (h : ∀ x y, f x = some y → p x = false ∧ p y = false)
    (xs : List α) : (replaceFirst f xs).find? p = xs.find? p := by
  induction xs with
  | nil => rfl
  | cons x xs ih =>
    rw [replaceFirst]
    cases hx : f x with
    | none => rw [List.find?_cons, List.find?_cons, ih]
    | some y =>
      -- neither the element nor its replacement is asked for, and the rest is untouched
      obtain ⟨hpx, hpy⟩ := h x y hx
      simp only [List.find?_cons, hpx, hpy]

/-- If just what is asked for is replaced, the replacement is found. -/
theorem find?_replaceFirst (h : ∀ x, p x = (f x).isSome) (h' : ∀ x y, f x = some y → p y = true)
    (xs : List α) : (replaceFirst f xs).find? p = (xs.find? p).bind f := by
  induction xs with
  | nil => rfl
  | cons x xs ih =>
    rw [replaceFirst]
    cases hx : f x with
    | none =>
      have hpx : p x = false := by rw [h, hx, Option.isSome_none]
      simp only [List.find?_cons, hpx, ih]
    | some y =>
      have hpx : p x = true := by rw [h, hx, Option.isSome_some]
      simp only [List.find?_cons, hpx, h' x y hx, Option.bind_some, hx]

/-- An element that is its own replacement leaves the list as it is. -/
theorem replaceFirst_eq_self (h : ∀ x, p x = (f x).isSome) {xs : List α}
    (hfirst : ∀ x, xs.find? p = some x → f x = some x) : replaceFirst f xs = xs := by
  induction xs with
  | nil => rfl
  | cons x xs ih =>
    rw [replaceFirst]
    cases hx : f x with
    | none =>
      have hpx : p x = false := by rw [h, hx, Option.isSome_none]
      simp only [List.find?_cons, hpx] at hfirst
      exact congrArg (x :: ·) (ih hfirst)
    | some y =>
      have hpx : p x = true := by rw [h, hx, Option.isSome_some]
      have hself : f x = some x := hfirst x (by rw [List.find?_cons, hpx])
      rw [← Option.some.inj (hx.symm.trans hself)]

/-- What cannot tell an element from its replacement cannot tell the lists apart. -/
theorem map_replaceFirst {g : α → β} (h : ∀ x y, f x = some y → g y = g x) (xs : List α) :
    (replaceFirst f xs).map g = xs.map g := by
  induction xs with
  | nil => rfl
  | cons x xs ih =>
    rw [replaceFirst]
    cases hx : f x with
    | none => rw [List.map_cons, List.map_cons, ih]
    | some y => rw [List.map_cons, List.map_cons, h x y hx]

theorem findSome?_replaceFirst {g : α → Option β} (h : ∀ x y, f x = some y → g y = g x)
    (xs : List α) : (replaceFirst f xs).findSome? g = xs.findSome? g := by
  have hmap := congrArg (List.findSome? id) (map_replaceFirst h xs)
  rwa [List.findSome?_map, List.findSome?_map] at hmap

theorem any_replaceFirst (h : ∀ x y, f x = some y → p y = p x) (xs : List α) :
    (replaceFirst f xs).any p = xs.any p := by
  have hmap := congrArg (List.any · id) (map_replaceFirst h xs)
  rwa [List.any_map, List.any_map] at hmap

/-- A map that a replacement goes along with may be taken before or after it. -/
theorem replaceFirst_map {q : β → Option β} {m : α → β} (h : ∀ x, q (m x) = (f x).map m)
    (xs : List α) : replaceFirst q (xs.map m) = (replaceFirst f xs).map m := by
  induction xs with
  | nil => rfl
  | cons x xs ih =>
    rw [List.map_cons, replaceFirst, replaceFirst, h]
    cases f x with
    | none => exact congrArg (m x :: ·) ih
    | some y => rfl

end Uiml.Scene

namespace Uiml

/-- A function replaces the components of a kind, and no others, by components of that kind. -/
def Component.Replaces (kind : String) (f : Component → Option Component) : Prop :=
  ∀ c, (f c).isSome = decide (c.kindName = kind) ∧ ∀ d, f c = some d → d.kindName = kind

namespace Component

variable {kind : String} {f : Component → Option Component} {c d : Component}

theorem replaces_withText (text : String) : Replaces "Text" (withText? text) := by
  intro c
  -- one look at each kind of component
  cases c <;> simp [withText?, kindName]

theorem replaces_withSliderValue (value : Float32) :
    Replaces "Slider" (withSliderValue? value) := by
  intro c
  cases c <;> simp [withSliderValue?, kindName]

theorem replaces_withToggle (isOn : Bool) : Replaces "Toggle" (withToggle? isOn) := by
  intro c
  cases c <;> simp [withToggle?, kindName]

theorem Replaces.kindName_eq (hf : Replaces kind f) (h : f c = some d) :
    c.kindName = kind ∧ d.kindName = kind := by
  obtain ⟨hc, hd⟩ := hf c
  rw [h, Option.isSome_some] at hc
  exact ⟨of_decide_eq_true hc.symm, hd d h⟩

theorem text?_eq_none (h : c.kindName ≠ "Text") : c.text? = none := by
  cases c <;> first | rfl | exact absurd rfl h

theorem isImage_eq (c : Component) : c.isImage = decide (c.kindName = "Image") := by
  cases c <;> rfl

end Component

namespace Scene.Node

open Component

variable {kind kind' : String} {f : Component → Option Component} (node : Node)

/-- The node with the first component that a function has a replacement for replaced. -/
def replace (node : Node) (f : Component → Option Component) : Node :=
  { node with components := replaceFirst f node.components }

theorem component?_replace (hf : Replaces kind f) :
    (node.replace f).component? kind = (node.component? kind).bind f :=
  find?_replaceFirst (fun c => (hf c).1.symm) (fun _ _ h => decide_eq_true (hf.kindName_eq h).2) _

theorem replace_eq_self (hf : Replaces kind f)
    (hfirst : ∀ c, node.component? kind = some c → f c = some c) : node.replace f = node := by
  have hsame : replaceFirst f node.components = node.components :=
    replaceFirst_eq_self (fun c => (hf c).1.symm) hfirst
  rw [replace, hsame]

theorem component?_replace_of_ne (hf : Replaces kind f) (hne : kind' ≠ kind) :
    (node.replace f).component? kind' = node.component? kind' := by
  refine find?_replaceFirst_of_not (fun c d h => ?_) _
  obtain ⟨hc, hd⟩ := hf.kindName_eq h
  rw [hc, hd]
  exact ⟨decide_eq_false hne.symm, decide_eq_false hne.symm⟩

theorem text?_replace_of_ne (hf : Replaces kind f) (hne : kind ≠ "Text") :
    (node.replace f).text? = node.text? := by
  refine findSome?_replaceFirst (fun c d h => ?_) _
  obtain ⟨rfl, hd⟩ := hf.kindName_eq h
  rw [text?_eq_none hne, text?_eq_none (by rwa [hd])]

theorem any_isImage_replace (hf : Replaces kind f) :
    (node.replace f).components.any Component.isImage = node.components.any Component.isImage := by
  refine any_replaceFirst (fun c d h => ?_) _
  obtain ⟨hc, hd⟩ := hf.kindName_eq h
  rw [isImage_eq, isImage_eq, hc, hd]

/-- A node that shows a text shows the text that is put in its place. -/
theorem text?_replace_withText? (text : String) :
    (node.replace (withText? text)).text? = node.text?.map fun _ => text := by
  show (replaceFirst (withText? text) node.components).findSome? Component.text? = _
  rw [text?]
  induction node.components with
  | nil => rfl
  | cons c components ih =>
    rw [replaceFirst]
    cases c <;> first | rfl | exact ih

end Scene.Node

end Uiml
