import Uiml.Attribute.Value
import Uiml.Log
import Uiml.Markup.Element
import Uiml.Scene.Style
import Uiml.Table
import Uiml.Text.Quoted

/-!
# Typed attributes

A resolver reads the attributes of elements as values of a type. Reading never fails: where the
attribute is missing, or is no value of the type, the caller's default stands in. Vectors and
colours that were read once are kept in caches of bounded size.

## Main definitions

* `Cache`, `Resolver` — what has been read so far
* `Reading` — a computation that reads attributes, fills the caches and may warn
* `Resolver.readVec2`, … — values of texts, through the caches
* `Resolver.vec2`, … — values of attributes, with a default
-/

namespace Uiml

/-- The most entries that a cache holds. -/
def Cache.capacity : Nat := 100

/-- Values that have been read, by the text that they were read from. A full cache takes up nothing
more. -/
structure Cache (α : Type) where
  /-- The entries that are there from the start. -/
  seeds : List (String × α)
  known : Table String α
  deriving Inhabited

namespace Cache

variable {α : Type}

/-- The cache that holds its seeds only. -/
def seeded (seeds : List (String × α)) : Cache α := ⟨seeds, Table.ofList seeds⟩

/-- The cache as it was at the start. -/
def reset (cache : Cache α) : Cache α := seeded cache.seeds

/-- The value kept for a text. -/
def get? (cache : Cache α) (key : String) : Option α := cache.known.get? key

/-- Keeps a value, unless the cache is full. -/
def insert (cache : Cache α) (key : String) (value : α) : Cache α :=
  if cache.known.size < capacity then { cache with known := cache.known.insert key value }
  else cache

/-- The number of entries. -/
def size (cache : Cache α) : Nat := cache.known.size

/-- The value of a text: the one kept, or else the one read, which is then kept if `keep` says
so. -/
def read (cache : Cache α) (key : String) (parse : String → Option α) (keep : α → Bool) :
    Option α × Cache α :=
  match cache.get? key with
  | some value => (some value, cache)
  | none =>
    match parse key with
    | none => (none, cache)
    | some value => (some value, if keep value then cache.insert key value else cache)

end Cache

/-- The caches of a resolver, and whether it warns about what it cannot read. -/
structure Resolver where
  strict : Bool
  vec2Cache : Cache Vec2
  vec3Cache : Cache Vec3
  vec4Cache : Cache Vec4
  colorCache : Cache Color
  deriving Inhabited

/-- The sizes of the caches. -/
structure CacheStats where
  vec2 : Nat
  vec3 : Nat
  vec4 : Nat
  color : Nat
  deriving DecidableEq, Repr, Inhabited

/-- A computation that reads attributes. -/
abbrev Reading (α : Type) := StateT Resolver Logged α

namespace Resolver

/-- Vectors that are known from the start. -/
def vec2Seeds : List (String × Vec2) :=
  [("0,0", ⟨0, 0⟩), ("1,1", ⟨1, 1⟩), ("0.5,0.5", ⟨0.5, 0.5⟩), ("1920,1080", ⟨1920, 1080⟩),
    ("100,100", ⟨100, 100⟩), ("1,0", ⟨1, 0⟩), ("0,1", ⟨0, 1⟩)]

@[inherit_doc vec2Seeds]
def vec3Seeds : List (String × Vec3) :=
  [("0,0,0", ⟨0, 0, 0⟩), ("1,1,1", ⟨1, 1, 1⟩), ("0.5,0.5,0.5", ⟨0.5, 0.5, 0.5⟩),
    ("1,0,0", ⟨1, 0, 0⟩), ("0,1,0", ⟨0, 1, 0⟩), ("0,0,1", ⟨0, 0, 1⟩)]

@[inherit_doc vec2Seeds]
def vec4Seeds : List (String × Vec4) :=
  [("0,0,0,0", ⟨0, 0, 0, 0⟩), ("1,1,1,1", ⟨1, 1, 1, 1⟩), ("10,10,10,10", ⟨10, 10, 10, 10⟩),
    ("5,5,5,5", ⟨5, 5, 5, 5⟩)]

/-- Colours that are known from the start. -/
def colorSeeds : List (String × Color) :=
  Attribute.namedColors ++
    [("#ffffff", .white), ("#000000", .black), ("#ff0000", .red), ("#00ff00", .green),
      ("#0000ff", .blue), ("#ffff00", ⟨1, 1, 0, 1⟩)]

/-- A resolver that has read nothing yet. -/
def new (strict : Bool) : Resolver :=
  ⟨strict, .seeded vec2Seeds, .seeded vec3Seeds, .seeded vec4Seeds, .seeded colorSeeds⟩

/-- The resolver with its caches as they were at the start. -/
def clearCaches (r : Resolver) : Resolver :=
  { r with
    vec2Cache := r.vec2Cache.reset, vec3Cache := r.vec3Cache.reset,
    vec4Cache := r.vec4Cache.reset, colorCache := r.colorCache.reset }

/-- The sizes of the caches. -/
def stats (r : Resolver) : CacheStats :=
  ⟨r.vec2Cache.size, r.vec3Cache.size, r.vec4Cache.size, r.colorCache.size⟩

/-! ### Values of texts -/

/-- The vector that a text writes. -/
def readVec2 (s : String) : Reading (Option Vec2) := do
  let (value, cache) := (← get).vec2Cache.read (Text.trim s) Attribute.readVec2 fun _ => true
  modify fun r => { r with vec2Cache := cache }
  return value

/-- The vector that a text writes; of those with two components none is kept. -/
def readVec3 (s : String) : Reading (Option Vec3) := do
  let key := Text.trim s
  let (value, cache) := (← get).vec3Cache.read key Attribute.readVec3
    fun _ => (Text.split ',' key).length = 3
  modify fun r => { r with vec3Cache := cache }
  return value

/-- The vector that a text writes. -/
def readVec4 (s : String) : Reading (Option Vec4) := do
  let (value, cache) := (← get).vec4Cache.read (Text.trim s) Attribute.readVec4 fun _ => true
  modify fun r => { r with vec4Cache := cache }
  return value

/-- The colour that a text writes, in any case of its letters; one that equals the default is not
kept. -/
def readColor (s : String) (default : Color) : Reading (Option Color) := do
  let (value, cache) := (← get).colorCache.read (Text.lowercase (Text.trim s)) Attribute.readColor
    fun c => !c.same default
  modify fun r => { r with colorCache := cache }
  return value

/-! ### Values of attributes -/

/-- The warning about an attribute that cannot be read. -/
def warning (e : Element) (key raw what : String) : String :=
  let name := Text.quote ((e.attribute? "name").getD "")
  s!"<{e.tag} name={name}> attribute '{key}': " ++
    s!"cannot read {Text.quote raw} as {what}; using default"

/-- The value of an attribute, or the default with a warning if the resolver is strict. -/
def resolve {α : Type} (e : Element) (key what : String) (default : α)
    (read : String → Reading (Option α)) : Reading α :=
  match e.attribute? key with
  | none => return default
  | some raw => do
    match ← read raw with
    | some value => return value
    | none =>
      let strict := (← get).strict
      StateT.lift (Logged.sayIf strict .warn .attributes (warning e key raw what))
      return default

/-- The raw value of an attribute. -/
def string (e : Element) (key default : String) : String := (e.attribute? key).getD default

/-- The raw value of an attribute that is not blank. -/
def nonBlank? (e : Element) (key : String) : Option String :=
  (e.attribute? key).filter fun raw => !Text.isBlankText raw

def float (e : Element) (key : String) (default : Float32) : Reading Float32 :=
  resolve e key "number" default fun raw => return Attribute.readFloat raw

def int (e : Element) (key : String) (default : Int) : Reading Int :=
  resolve e key "integer" default fun raw => return Attribute.readInt raw

def boolean (e : Element) (key : String) (default : Bool) : Reading Bool :=
  resolve e key "boolean" default fun raw => return Attribute.readBool raw

def vec2 (e : Element) (key : String) (default : Vec2) : Reading Vec2 :=
  resolve e key "2-vector" default readVec2

def vec3 (e : Element) (key : String) (default : Vec3) : Reading Vec3 :=
  resolve e key "3-vector" default readVec3

def vec4 (e : Element) (key : String) (default : Vec4) : Reading Vec4 :=
  resolve e key "4-vector" default readVec4

def color (e : Element) (key : String) (default : Color) : Reading Color :=
  resolve e key "color" default fun raw => readColor raw default

def keyword {α : Type} [Keyword α] (e : Element) (key : String) (default : α) : Reading α :=
  resolve e key (Keyword.what α) default fun raw => return Keyword.read? raw

end Resolver

end Uiml
