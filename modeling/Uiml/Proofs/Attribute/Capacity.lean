import Uiml.Proofs.Attribute.Question
import Uiml.Proofs.Table.Keys

/-!
# The room in caches

A cache starts with its seeds, and takes up what is read as long as there is room. Nothing that it
holds is ever dropped or replaced, except that all caches can be emptied down to their seeds. So a
cache that is full stays as it is until then, and the seeds are always there.

## Main definitions

* `Cache.Grows` — what a question leaves of a cache
* `Cache.Extends`, `Cache.IsKept` — a cache has lost nothing, and holds its seeds and has not
  outgrown its room
* `Resolver.Shelf`, `Resolver.cacheOf` — the caches of a resolver by name
* `Resolver.Question.asked?` — the text under which a question looks into a cache

## Main results

* `Resolver.Question.ask_grows` — a question adds at most one entry, under the text that it asks for
* `Resolver.extends_foldl_used` — until caches are emptied, they lose nothing
* `Resolver.caches_kept` — whatever a resolver has been used for, its caches are in good order
-/

namespace Uiml

/-! ### One cache -/

namespace Cache

variable {α : Type} {cache cache' cache'' : Cache α} {key : String} {asked : Option String}
  {admits : String → Prop} {seeds : List (String × α)}

/-- What a question leaves of a cache: the cache as it was, or one entry more, under the text that
was asked for. That is the case only if there was room, the text was not there yet, and it is of a
kind that is kept. -/
inductive Grows (asked : Option String) (admits : String → Prop) (cache : Cache α) :
    Cache α → Prop
  | stays : Grows asked admits cache cache
  | takes {key : String} (value : α) (hasked : asked = some key) (hadmits : admits key)
      (hroom : cache.size < capacity) (hnew : cache.get? key = none) :
      Grows asked admits cache { cache with known := cache.known.insert key value }

/-- A cache has lost nothing; and nothing has happened to it if it was full. -/
structure Extends (cache cache' : Cache α) : Prop where
  seeds : cache'.seeds = cache.seeds
  known : ∀ key value, cache.get? key = some value → cache'.get? key = some value
  size : cache.size ≤ cache'.size
  full : cache.size = capacity → cache' = cache

/-- A cache holds its seeds, and no more than it has room for, and nothing but what is kept. -/
structure IsKept (seeds : List (String × α)) (admits : String → Prop) (cache : Cache α) :
    Prop where
  start : cache.seeds = seeds
  seeded : ∀ seed ∈ seeds, cache.get? seed.1 = some seed.2
  distinct : cache.known.Distinct
  size : cache.size ≤ capacity
  admitted : ∀ key value, cache.get? key = some value → admits key

theorem read_grows (cache : Cache α) (key : String) (parse : String → Option α)
    {keep : α → Bool} (hkeep : ∀ value, keep value = true → admits key) :
    cache.Grows (some key) admits (cache.read key parse keep).2 := by
  rw [read]
  cases hget : cache.get? key with
  | some value => exact .stays
  | none =>
    cases parse key with
    | none => exact .stays
    | some value =>
      simp only
      split
      · next hkept =>
        rw [Cache.insert]
        split
        · next hroom => exact .takes value rfl (hkeep value hkept) hroom hget
        · exact .stays
      · exact .stays

theorem size_takes (hnew : cache.get? key = none) (value : α) :
    size { cache with known := cache.known.insert key value } = cache.size + 1 :=
  Table.size_insert hnew value

theorem Extends.refl (cache : Cache α) : cache.Extends cache :=
  ⟨rfl, fun _ _ h => h, le_rfl, fun _ => rfl⟩

theorem Extends.trans (h : cache.Extends cache') (h' : cache'.Extends cache'') :
    cache.Extends cache'' where
  seeds := h'.seeds.trans h.seeds
  known := fun key value hget => h'.known key value (h.known key value hget)
  size := h.size.trans h'.size
  full := by
    intro hfull
    have hsame := h.full hfull
    exact (h'.full (hsame ▸ hfull)).trans hsame

/-- An entry more takes nothing away, as its text was not there. -/
theorem Grows.extends (h : cache.Grows asked admits cache') : cache.Extends cache' := by
  cases h with
  | stays => exact .refl cache
  | @takes key value hasked hadmits hroom hnew =>
    refine ⟨rfl, fun key' value' hget => ?_, ?_, fun hfull => absurd hfull hroom.ne⟩
    · have hne : key' ≠ key := fun he => by
        rw [he, hnew] at hget
        cases hget
      exact (Table.get?_insert ..).trans ((if_neg hne).trans hget)
    · rw [size_takes hnew]
      exact Nat.le_succ _

theorem IsKept.grows (h : cache.IsKept seeds admits) (hgrows : cache.Grows asked admits cache') :
    cache'.IsKept seeds admits where
  start := hgrows.extends.seeds.trans h.start
  seeded := fun seed hseed => hgrows.extends.known _ _ (h.seeded seed hseed)
  distinct := by
    cases hgrows with
    | stays => exact h.distinct
    | takes => exact h.distinct.insert _ _
  size := by
    cases hgrows with
    | stays => exact h.size
    | takes value _ _ hroom hnew =>
      rw [size_takes hnew]
      exact hroom
  admitted := by
    intro key' value' hget
    cases hgrows with
    | stays => exact h.admitted key' value' hget
    | takes value hasked hadmits hroom hnew =>
      rw [get?, Table.get?_insert] at hget
      split at hget
      · next he => exact he ▸ hadmits
      · exact h.admitted key' value' hget

theorem entries_seeded (h : (seeds.map Prod.fst).Nodup) : (seeded seeds).known.entries = seeds :=
  Table.entries_ofList h

/-- A cache that holds its seeds only holds all of them. -/
theorem isKept_seeded (hdistinct : (seeds.map Prod.fst).Nodup) (hsize : seeds.length ≤ capacity)
    (hadmits : ∀ seed ∈ seeds, admits seed.1) : (seeded seeds).IsKept seeds admits := by
  have hentries := entries_seeded hdistinct
  have hkeys : (seeded seeds).known.Distinct := by
    rw [Table.Distinct, hentries]
    exact hdistinct
  have hmem : ∀ key value, (seeded seeds).get? key = some value ↔ (key, value) ∈ seeds := by
    intro key value
    rw [get?, hkeys.get?_eq_some_iff, hentries]
  refine ⟨rfl, fun seed hseed => (hmem _ _).mpr hseed, hkeys, ?_, fun key value hget => ?_⟩
  · rw [size, Table.size, hentries]
    exact hsize
  · exact hadmits _ ((hmem key value).mp hget)

end Cache

namespace Resolver

/-! ### All caches of a resolver -/

/-- The names of the caches. -/
inductive Shelf where
  | vec2
  | vec3
  | vec4
  | color
  deriving DecidableEq

namespace Shelf

/-- What a cache holds. -/
abbrev Value : Shelf → Type
  | .vec2 => Vec2
  | .vec3 => Vec3
  | .vec4 => Vec4
  | .color => Color

/-- The seeds of a cache. -/
def seeds : (shelf : Shelf) → List (String × shelf.Value)
  | .vec2 => vec2Seeds
  | .vec3 => vec3Seeds
  | .vec4 => vec4Seeds
  | .color => colorSeeds

/-- The form in which a text is kept. -/
def key : Shelf → String → String
  | .color, s => Text.lowercase (Text.trim s)
  | _, s => Text.trim s

/-- The texts that are kept: vectors of three only if they are written with three numbers. -/
def Admits : Shelf → String → Prop
  | .vec3, key => (Text.split ',' key).length = 3
  | _, _ => True

instance : (shelf : Shelf) → (key : String) → Decidable (shelf.Admits key)
  | .vec3, key => inferInstanceAs (Decidable ((Text.split ',' key).length = 3))
  | .vec2, _ | .vec4, _ | .color, _ => .isTrue trivial

/-- A text is looked up in one cache only. -/
def asks (shelf : Shelf) (s : String) (other : Shelf) : Option String :=
  if other = shelf then some (shelf.key s) else none

end Shelf

/-- The cache of a name. -/
def cacheOf (r : Resolver) : (shelf : Shelf) → Cache shelf.Value
  | .vec2 => r.vec2Cache
  | .vec3 => r.vec3Cache
  | .vec4 => r.vec4Cache
  | .color => r.colorCache

/-- The text under which the value of an attribute is looked up in a cache, if it is at all. -/
def Form.asked? {α : Type} : Form α → String → Shelf → Option String
  | .vec2 => Shelf.asks .vec2
  | .vec3 => Shelf.asks .vec3
  | .vec4 => Shelf.asks .vec4
  | .color => Shelf.asks .color
  | _ => fun _ _ => none

/-- The text under which a question looks into a cache, if it does. -/
def Question.asked? {α : Type} : Question α → Shelf → Option String
  | .vec2 s => Shelf.asks .vec2 s
  | .vec3 s => Shelf.asks .vec3 s
  | .vec4 s => Shelf.asks .vec4 s
  | .color s _ => Shelf.asks .color s
  | .get form e key _ => fun shelf => (e.attribute? key).bind fun raw => form.asked? raw shelf

end Resolver

open Resolver

/-- A computation makes each cache grow by what it asks for there. -/
def Reading.Grows {α : Type} (asked : Shelf → Option String) (x : Reading α) : Prop :=
  ∀ (r : Resolver) (shelf : Shelf),
    (r.cacheOf shelf).Grows (asked shelf) shelf.Admits ((x.run r).value.2.cacheOf shelf)

theorem Reading.Grows.pure {α : Type} (asked : Shelf → Option String) (a : α) :
    Grows asked (Pure.pure a) := fun _ _ => .stays

namespace Resolver

variable {α : Type} {r : Resolver}

open Reading (Grows)

theorem readVec2_grows (s : String) : Grows (Shelf.asks .vec2 s) (readVec2 s) := by
  intro r shelf
  have hrun : ((readVec2 s).run r).value.2 =
      { r with vec2Cache := (r.vec2Cache.read (Text.trim s) Attribute.readVec2 fun _ => true).2 } :=
    rfl
  rw [hrun]
  cases shelf with
  | vec2 => exact r.vec2Cache.read_grows (Text.trim s) Attribute.readVec2 fun _ _ => trivial
  | vec3 | vec4 | color => exact .stays

/-- A vector written with two numbers is not kept. -/
theorem readVec3_grows (s : String) : Grows (Shelf.asks .vec3 s) (readVec3 s) := by
  intro r shelf
  have hrun : ((readVec3 s).run r).value.2 =
      { r with vec3Cache := (r.vec3Cache.read (Text.trim s) Attribute.readVec3 fun _ =>
        (Text.split ',' (Text.trim s)).length = 3).2 } := rfl
  rw [hrun]
  cases shelf with
  | vec3 =>
    exact r.vec3Cache.read_grows (Text.trim s) Attribute.readVec3 fun _ hkeep =>
      of_decide_eq_true hkeep
  | vec2 | vec4 | color => exact .stays

theorem readVec4_grows (s : String) : Grows (Shelf.asks .vec4 s) (readVec4 s) := by
  intro r shelf
  have hrun : ((readVec4 s).run r).value.2 =
      { r with vec4Cache := (r.vec4Cache.read (Text.trim s) Attribute.readVec4 fun _ => true).2 } :=
    rfl
  rw [hrun]
  cases shelf with
  | vec4 => exact r.vec4Cache.read_grows (Text.trim s) Attribute.readVec4 fun _ _ => trivial
  | vec2 | vec3 | color => exact .stays

theorem readColor_grows (s : String) (default : Color) :
    Grows (Shelf.asks .color s) (readColor s default) := by
  intro r shelf
  have hrun : ((readColor s default).run r).value.2 =
      { r with colorCache := (r.colorCache.read (Text.lowercase (Text.trim s)) Attribute.readColor
        fun c => !c.same default).2 } := rfl
  rw [hrun]
  cases shelf with
  | color =>
    exact r.colorCache.read_grows (Text.lowercase (Text.trim s)) Attribute.readColor
      fun _ _ => trivial
  | vec2 | vec3 | vec4 => exact .stays

/-- To take the default for what cannot be read, and to warn of it, leaves the caches alone. -/
theorem resolve_grows (e : Element) (key what : String) (default : α)
    {read : String → Reading (Option α)} {asked : String → Shelf → Option String}
    (hread : ∀ raw, Grows (asked raw) (read raw)) :
    Grows (fun shelf => (e.attribute? key).bind fun raw => asked raw shelf)
      (resolve e key what default read) := by
  rw [resolve]
  cases e.attribute? key with
  | none => exact .pure _ default
  | some raw =>
    intro r shelf
    have hgrows := hread raw r shelf
    simp only [StateT.run_bind, Logged.bind_value, Option.bind_some]
    cases ((read raw).run r).value.1 with
    | some value => exact hgrows
    | none => exact hgrows

theorem Form.read_grows (form : Form α) (e : Element) (key : String) (default : α) :
    Grows (fun shelf => (e.attribute? key).bind fun raw => form.asked? raw shelf)
      (form.read e key default) := by
  cases form with
  | string => exact .pure _ _
  | float | int | boolean | keyword => exact resolve_grows e key _ default fun _ => .pure _ _
  | vec2 => exact resolve_grows e key _ default readVec2_grows
  | vec3 => exact resolve_grows e key _ default readVec3_grows
  | vec4 => exact resolve_grows e key _ default readVec4_grows
  | color => exact resolve_grows e key _ default fun raw => readColor_grows raw default

/-- A question adds at most one entry to a cache, under the text that it asks for there. -/
theorem Question.ask_grows (question : Question α) : Grows question.asked? question.ask := by
  cases question with
  | vec2 s => exact readVec2_grows s
  | vec3 s => exact readVec3_grows s
  | vec4 s => exact readVec4_grows s
  | color s default => exact readColor_grows s default
  | get form e key default => exact form.read_grows e key default

/-! ### Uses -/

/-- The caches of a resolver hold their seeds, and no more than they have room for. -/
def IsKept (r : Resolver) : Prop :=
  ∀ shelf, (r.cacheOf shelf).IsKept shelf.seeds shelf.Admits

theorem Shelf.nodup_seeds (shelf : Shelf) : (shelf.seeds.map Prod.fst).Nodup := by
  cases shelf <;> decide +kernel

/-- The seeds of a cache have texts that are kept, and there is room for them. -/
theorem Shelf.isKept_seeded (shelf : Shelf) :
    (Cache.seeded shelf.seeds).IsKept shelf.seeds shelf.Admits := by
  refine Cache.isKept_seeded shelf.nodup_seeds ?_ ?_
  · cases shelf <;> decide
  · cases shelf <;> decide +kernel

theorem new_isKept (strict : Bool) : (new strict).IsKept := by
  intro shelf
  have hseeded := shelf.isKept_seeded
  cases shelf <;> exact hseeded

/-- A cache that is emptied holds its seeds only. -/
theorem IsKept.cacheOf_clearCaches (h : r.IsKept) (shelf : Shelf) :
    r.clearCaches.cacheOf shelf = .seeded shelf.seeds := by
  have hseeds := (h shelf).start
  cases shelf <;> exact congrArg Cache.seeded hseeds

theorem IsKept.used (h : r.IsKept) (use : Use) : (r.used use).IsKept := by
  intro shelf
  cases use with
  | ask question => exact (h shelf).grows (question.ask_grows r shelf)
  | clearCaches =>
    rw [Resolver.used, h.cacheOf_clearCaches]
    exact shelf.isKept_seeded
  | setStrict strict =>
    have hshelf := h shelf
    cases shelf <;> exact hshelf

theorem isKept_foldl_used (h : r.IsKept) (uses : List Use) : (uses.foldl used r).IsKept := by
  induction uses generalizing r with
  | nil => exact h
  | cons use uses ih => exact ih (h.used use)

/-- Whether a use empties the caches. -/
def Use.clears : Use → Bool
  | .clearCaches => true
  | _ => false

theorem extends_used (r : Resolver) {use : Use} (h : use.clears = false) (shelf : Shelf) :
    (r.cacheOf shelf).Extends ((r.used use).cacheOf shelf) := by
  cases use with
  | ask question => exact (question.ask_grows r shelf).extends
  | clearCaches => cases h
  | setStrict strict =>
    have hrefl := Cache.Extends.refl (r.cacheOf shelf)
    cases shelf <;> exact hrefl

/-- Until the caches are emptied, they lose nothing. -/
theorem extends_foldl_used (r : Resolver) {uses : List Use}
    (h : ∀ use ∈ uses, use.clears = false) (shelf : Shelf) :
    (r.cacheOf shelf).Extends ((uses.foldl used r).cacheOf shelf) := by
  induction uses generalizing r with
  | nil => exact .refl _
  | cons use uses ih =>
    obtain ⟨huse, huses⟩ := List.forall_mem_cons.mp h
    exact (extends_used r huse shelf).trans (ih (r.used use) huses)

/-- Whatever a resolver has been used for, each of its caches holds its seeds, and no more than it
has room for; a vector of three is kept only if it is written with three numbers. From then on,
until the caches are emptied, none of them loses anything, and one that is full stays as it is; a
question adds at most one entry, under the text that it asks for. To be emptied leaves a cache with
its seeds only. -/
theorem caches_kept (strict : Bool) (uses : List Use) :
    let r := uses.foldl used (new strict)
    (∀ shelf, (r.cacheOf shelf).IsKept shelf.seeds shelf.Admits) ∧
    (∀ key value, r.vec3Cache.get? key = some value → (Text.split ',' key).length ≠ 2) ∧
    (∀ more : List Use, (∀ use ∈ more, use.clears = false) →
      ∀ shelf, (r.cacheOf shelf).Extends ((more.foldl used r).cacheOf shelf)) ∧
    (∀ {α : Type} (question : Question α) (shelf : Shelf), (r.cacheOf shelf).Grows
      (question.asked? shelf) shelf.Admits ((r.used (.ask question)).cacheOf shelf)) ∧
    ∀ shelf, (r.clearCaches.cacheOf shelf).known.entries = shelf.seeds := by
  intro r
  have hkept : r.IsKept := isKept_foldl_used (new_isKept strict) uses
  refine ⟨hkept, fun key value hget => ?_, fun more hmore => extends_foldl_used r hmore,
    fun question => question.ask_grows r, fun shelf => ?_⟩
  · have hthree : (Text.split ',' key).length = 3 := (hkept .vec3).admitted key value hget
    omega
  · rw [hkept.cacheOf_clearCaches, Cache.entries_seeded shelf.nodup_seeds]

end Resolver

end Uiml
