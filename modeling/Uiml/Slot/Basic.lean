import Uiml.Asset.Fetch
import Uiml.Image.Decode
import Uiml.Log
import Uiml.Widget.Canvas

/-!
# Slots

A slot holds a text or a picture for the widgets that are bound to it. Slots are numbered and
outlive the widgets. Pictures are requested, fetched later, and applied when their turn comes.

## Main definitions

* `Slot`, `Slots` — a slot, and the board of all slots with the requests on their way
* `Slots.lookUp` — the slot of a number, with a warning if there is none
-/

namespace Uiml

/-- What a slot is for. -/
inductive Slot.Kind where
  | unbound
  | text
  | image
  deriving DecidableEq, Repr, Inhabited

/-- How the value is shown. -/
def Slot.Kind.label : Slot.Kind → String
  | .unbound => "Unbound"
  | .text => "Text"
  | .image => "Image"

/-- Whether the content of a slot is there. -/
inductive Slot.LoadState where
  | unloaded
  | loading
  | loaded
  deriving DecidableEq, Repr, Inhabited

/-- How the value is shown. -/
def Slot.LoadState.label : Slot.LoadState → String
  | .unloaded => "Unloaded"
  | .loading => "Loading"
  | .loaded => "Loaded"

/-- A slot. -/
structure Slot where
  kind : Slot.Kind := .unbound
  state : Slot.LoadState := .unloaded
  text : Option String := none
  image : Option Picture := none
  /-- Where the picture came from. -/
  source : Option String := none
  /-- The widgets that show the content, in the order in which they were bound. -/
  bindings : List WidgetId := []
  /-- The number of the newest request for a picture. -/
  latestRequest : Nat := 0
  /-- The number of requests without an outcome. Each of them waits among those of the board, so
  that the number needs more than 32 bits only if as many wait at once. -/
  inFlight : Nat := 0
  deriving DecidableEq, Inhabited

/-- A slot without content and without widgets, which requests aside is as good as new. -/
def Slot.isIdle (slot : Slot) : Bool :=
  slot.kind = .unbound && slot.state = .unloaded && slot.bindings.isEmpty

/-- A request for a picture. -/
structure ImageRequest where
  number : Nat
  slot : Nat
  source : String
  kind : SourceKind
  deriving DecidableEq, Repr, Inhabited

/-- What became of a request. -/
structure ImageOutcome where
  request : ImageRequest
  result : Except FetchError Picture
  deriving Inhabited

/-- The slots, what their pictures can be fetched from, and the requests on their way. -/
structure Slots where
  slots : Array Slot
  assets : Assets
  /-- The number of requests of which the outcome has not been applied. -/
  inFlight : Nat := 0
  /-- The number of the newest request. -/
  lastRequest : Nat := 0
  /-- The requests that have not been fetched. -/
  held : List ImageRequest := []
  /-- The outcomes that have not been applied, in the order in which they came. -/
  arrived : List ImageOutcome := []
  /-- The requests that have been fetched and never get an outcome. -/
  stuck : List ImageRequest := []
  deriving Inhabited

/-- The picture that a source has now, or why it has none; nothing if decoding gets stuck. -/
def Assets.picture (assets : Assets) (kind : SourceKind) (source : String) :
    Option (Except FetchError Picture) :=
  match assets.fetch kind source with
  | .error e => some (.error e)
  | .ok bytes =>
    match Decoding.ofBytes bytes with
    | .picture picture => some (.ok picture)
    | .refused => some (.error .undecodable)
    | .stuck => none

namespace Slots

/-- So many empty slots. -/
def new (count : Nat) (assets : Assets) : Slots := { slots := Array.replicate count {}, assets }

/-- The number of slots. -/
def size (board : Slots) : Nat := board.slots.size

/-- The slot of a number. -/
def slot? (board : Slots) (index : Nat) : Option Slot := board.slots[index]?

/-- The board with a slot changed. -/
def modify (board : Slots) (index : Nat) (f : Slot → Slot) : Slots :=
  { board with slots := board.slots.modify index f }

/-- The slot of a number; an operation that asks for one that is not there warns. -/
def lookUp (board : Slots) (operation : String) (index : Nat) : Logged (Option Slot) :=
  match board.slot? index with
  | some slot => pure (some slot)
  | none => do
    Logged.say .warn .resources
      s!"{operation}: resource slot {index} out of range (0..{board.size})"
    pure none

/-- The board with an asset put under a name. -/
def addBundle (board : Slots) (name : String) (bytes : List UInt8) : Slots :=
  { board with
    assets := { board.assets with bundles := board.assets.bundles.insert name bytes } }

/-- The board without the asset of a name, and whether there was one. -/
def removeBundle (board : Slots) (name : String) : Bool × Slots :=
  (board.assets.bundles.contains name,
    { board with assets := { board.assets with bundles := board.assets.bundles.erase name } })

/-- How messages show the board: its measures. -/
def describe (board : Slots) : String :=
  "ResourceBindingManager \x7b slots: " ++ toString board.size ++ ", bundles: " ++
    toString board.assets.bundles.size ++ ", in_flight: " ++ toString board.inFlight ++ " \x7d"

end Slots

end Uiml
