import Uiml.Table
import Uiml.Widget.Handle

/-!
# The registry of names

Widgets are found by the name of their element, among all of them or among those of one kind. A
later widget takes the name from an earlier one in every table that it enters; the earlier one can
still be found by its kind, if the two differ in that.
-/

namespace Uiml

/-- The widgets by name, and by kind and name. -/
structure Registry where
  byName : Table String WidgetId := {}
  byKind : Table (Element.Kind × String) WidgetId := {}
  deriving Inhabited

namespace Registry

/-- The registry without names. -/
def empty : Registry := {}

/-- The widget of a name. -/
def get? (r : Registry) (name : String) : Option WidgetId := r.byName.get? name

/-- The widget of a name among those of a kind. -/
def getKind? (r : Registry) (kind : Element.Kind) (name : String) : Option WidgetId :=
  r.byKind.get? (kind, name)

/-- Gives a widget a name, and tells which widget loses it. -/
def insert (r : Registry) (name : String) (kind : Element.Kind) (id : WidgetId) :
    Option WidgetId × Registry :=
  (r.get? name, ⟨r.byName.insert name id, r.byKind.insert (kind, name) id⟩)

/-- The number of names. -/
def size (r : Registry) : Nat := r.byName.size

/-- Whether no table holds a name. -/
def isEmpty (r : Registry) : Bool := r.byName.entries.isEmpty && r.byKind.entries.isEmpty

/-- The names of a kind with their widgets. -/
def ofKind (r : Registry) (kind : Element.Kind) : List (String × WidgetId) :=
  (r.byKind.entries.filter fun entry => entry.1.1 = kind).map fun entry => (entry.1.2, entry.2)

/-- The widgets that some table holds, in increasing order, each once. -/
def ids (r : Registry) : List WidgetId :=
  ((r.byName.entries.map Prod.snd ++ r.byKind.entries.map Prod.snd).mergeSort
    fun a b => a.index ≤ b.index).eraseDups

/-- Hands on the widgets that some table holds, and empties all tables. -/
def clearAll {σ : Type} (r : Registry) (state : σ) (f : σ → WidgetId → σ) : σ × Registry :=
  (r.ids.foldl f state, empty)

end Registry

end Uiml
