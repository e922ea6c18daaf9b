import Uiml.Build.Blueprint

/-!
# What has been read before does not matter

The caches of a resolver hold only what their texts mean. As long as that is so, what is read from
the attributes of an element is settled by the attributes: the caches of a session that has loaded
documents for hours give the same answers as those of a new one.

## Main definitions

* `Cache.Sound`, `Resolver.Sound` — caches hold what their texts mean
* `Reading.Means`, `Reading.Settled` — a computation has one value for all sound resolvers, and
  keeps them sound

## Main results

* `Resolver.new_sound`, `Resolver.clearCaches_sound` — resolvers start sound, and can start anew
* `Outfit.read_settled`, `Blueprint.read_settled` — what is read for a widget is settled
-/

namespace Uiml

/-! ### Caches -/

theorem Table.get?_foldl_insert {κ υ : Type} [DecidableEq κ] {entries : List (κ × υ)} {key : κ}
    {value : υ} {t : Table κ υ}
    (h : (entries.foldl (fun t entry => t.insert entry.1 entry.2) t).get? key = some value) :
    t.get? key = some value ∨ (key, value) ∈ entries := by
  induction entries generalizing t with
  | nil => exact .inl h
  | cons entry rest ih =>
    rcases ih h with hget | hmem
    · rw [Table.get?_insert] at hget
      split at hget
      · next he => exact .inr (List.mem_cons.mpr (.inl (Prod.ext he (Option.some.inj hget).symm)))
      · exact .inl hget
    · exact .inr (List.mem_cons_of_mem _ hmem)

namespace Cache

variable {α : Type} {parse : String → Option α} {cache : Cache α} {key : String}

/-- A cache holds what its texts mean, and so do its seeds. -/
structure Sound (parse : String → Option α) (cache : Cache α) : Prop where
  known : ∀ {key value}, cache.get? key = some value → parse key = some value
  seeds : ∀ seed ∈ cache.seeds, parse seed.1 = some seed.2

theorem seeded_sound {seeds : List (String × α)}
    (h : ∀ seed ∈ seeds, parse seed.1 = some seed.2) : (seeded seeds).Sound parse where
  known := fun hget => by
    -- what is found in a new cache has been seeded
    rcases Table.get?_foldl_insert hget with hnone | hmem
    · rw [Table.get?_empty] at hnone
      cases hnone
    · exact h _ hmem
  seeds := h

theorem Sound.reset (h : cache.Sound parse) : cache.reset.Sound parse := seeded_sound h.seeds

theorem Sound.insert (h : cache.Sound parse) {value : α} (hparse : parse key = some value) :
    (cache.insert key value).Sound parse := by
  rw [Cache.insert]
  split
  · refine ⟨fun hget => ?_, h.seeds⟩
    rw [get?, Table.get?_insert] at hget
    split at hget
    · next he => rw [he, hparse, hget]
    · exact h.known hget
  · exact h

/-- What is read through a sound cache is what the text means. -/
theorem Sound.read (h : cache.Sound parse) (key : String) (keep : α → Bool) :
    (cache.read key parse keep).1 = parse key ∧ (cache.read key parse keep).2.Sound parse := by
  rw [Cache.read]
  cases hget : cache.get? key with
  | some value => exact ⟨(h.known hget).symm, h⟩
  | none =>
    cases hparse : parse key with
    | none => exact ⟨rfl, h⟩
    | some value =>
      -- the value has just been read, so it may be remembered or not
      refine ⟨rfl, ?_⟩
      simp only
      split
      · exact h.insert hparse
      · exact h

end Cache

namespace Resolver

/-- The caches of a resolver hold what their texts mean. -/
structure Sound (r : Resolver) : Prop where
  vec2 : r.vec2Cache.Sound Attribute.readVec2
  vec3 : r.vec3Cache.Sound Attribute.readVec3
  vec4 : r.vec4Cache.Sound Attribute.readVec4
  color : r.colorCache.Sound Attribute.readColor

/-- The seeds of the caches are what their texts mean. -/
theorem new_sound (strict : Bool) : (new strict).Sound where
  vec2 := Cache.seeded_sound (by decide +kernel)
  vec3 := Cache.seeded_sound (by decide +kernel)
  vec4 := Cache.seeded_sound (by decide +kernel)
  color := Cache.seeded_sound (by decide +kernel)

theorem clearCaches_sound {r : Resolver} (h : r.Sound) : r.clearCaches.Sound :=
  ⟨h.vec2.reset, h.vec3.reset, h.vec4.reset, h.color.reset⟩

end Resolver

/-! ### Computations that read -/

namespace Reading

variable {α β : Type}

/-- A computation has this value for all sound resolvers, and keeps them sound. -/
def Means (x : Reading α) (a : α) : Prop :=
  ∀ r : Resolver, r.Sound → (x.run r).value.1 = a ∧ (x.run r).value.2.Sound

/-- A computation has one value for all sound resolvers, and keeps them sound. -/
def Settled (x : Reading α) : Prop :=
  ∃ a, ∀ r : Resolver, r.Sound → (x.run r).value.1 = a ∧ (x.run r).value.2.Sound

theorem Means.pure (a : α) : Means (Pure.pure a) a := fun _ hr => ⟨rfl, hr⟩

theorem Settled.pure (a : α) : Settled (Pure.pure a) := ⟨a, Means.pure a⟩

theorem Settled.lift (x : Logged α) : Settled (StateT.lift x) := ⟨x.value, fun _ hr => ⟨rfl, hr⟩⟩

theorem Settled.bind {x : Reading α} {f : α → Reading β} (hx : Settled x)
    (hf : ∀ a, Settled (f a)) : Settled (x >>= f) := by
  obtain ⟨a, ha⟩ := hx
  obtain ⟨b, hb⟩ := hf a
  refine ⟨b, fun r hr => ?_⟩
  obtain ⟨hvalue, hsound⟩ := ha r hr
  rw [StateT.run_bind, Logged.bind_value, hvalue]
  exact hb _ hsound

theorem Settled.map {x : Reading α} (hx : Settled x) (f : α → β) : Settled (f <$> x) := by
  obtain ⟨a, ha⟩ := hx
  exact ⟨f a, fun r hr => ⟨congrArg f (ha r hr).1, (ha r hr).2⟩⟩

theorem Settled.ite {c : Prop} {_ : Decidable c} {x y : Reading α} (hx : Settled x)
    (hy : Settled y) : Settled (if c then x else y) := by
  split
  · exact hx
  · exact hy

/-- A choice between two ways to come by what is gone on with. -/
theorem Settled.ite_bind {c : Prop} {_ : Decidable c} {x y : Reading α} {f : α → Reading β}
    (hx : Settled x) (hy : Settled y) (hf : ∀ a, Settled (f a)) :
    Settled (if c then x >>= f else y >>= f) :=
  .ite (hx.bind hf) (hy.bind hf)

/-- The value of a settled computation is the one that a new resolver gives. -/
theorem Settled.value_eq {x : Reading α} (hx : Settled x) {r : Resolver} (hr : r.Sound) :
    (x.run r).value.1 = (x.run (.new false)).value.1 := by
  obtain ⟨a, ha⟩ := hx
  rw [(ha r hr).1, (ha _ (Resolver.new_sound false)).1]

theorem Settled.sound {x : Reading α} (hx : Settled x) {r : Resolver} (hr : r.Sound) :
    (x.run r).value.2.Sound := by
  obtain ⟨_, ha⟩ := hx
  exact (ha r hr).2

end Reading

namespace Resolver

open Reading

variable (e : Element) (key : String)

theorem readVec2_means (s : String) : Means (readVec2 s) (Attribute.readVec2 (Text.trim s)) := by
  intro r hr
  obtain ⟨hvalue, hsound⟩ := hr.vec2.read (Text.trim s) fun _ => true
  exact ⟨hvalue, hsound, hr.vec3, hr.vec4, hr.color⟩

theorem readVec3_means (s : String) : Means (readVec3 s) (Attribute.readVec3 (Text.trim s)) := by
  intro r hr
  obtain ⟨hvalue, hsound⟩ :=
    hr.vec3.read (Text.trim s) fun _ => (Text.split ',' (Text.trim s)).length = 3
  exact ⟨hvalue, hr.vec2, hsound, hr.vec4, hr.color⟩

theorem readVec4_means (s : String) : Means (readVec4 s) (Attribute.readVec4 (Text.trim s)) := by
  intro r hr
  obtain ⟨hvalue, hsound⟩ := hr.vec4.read (Text.trim s) fun _ => true
  exact ⟨hvalue, hr.vec2, hr.vec3, hsound, hr.color⟩

theorem readColor_means (s : String) (default : Color) :
    Means (readColor s default) (Attribute.readColor (Text.lowercase (Text.trim s))) := by
  intro r hr
  obtain ⟨hvalue, hsound⟩ :=
    hr.color.read (Text.lowercase (Text.trim s)) fun c => !c.same default
  exact ⟨hvalue, hr.vec2, hr.vec3, hr.vec4, hsound⟩

/-- An attribute has the value that its text has, if it is there and has one, and else the default.
Whether the resolver warns makes no difference to that. -/
theorem resolve_means {α : Type} (what : String) (default : α) {read : String → Reading (Option α)}
    {parse : String → Option α} (hread : ∀ raw, Means (read raw) (parse raw)) :
    Means (resolve e key what default read) (((e.attribute? key).bind parse).getD default) := by
  rw [resolve]
  cases e.attribute? key with
  | none => exact .pure default
  | some raw =>
    intro r hr
    obtain ⟨hvalue, hsound⟩ := hread raw r hr
    rw [StateT.run_bind, Logged.bind_value, hvalue, Option.bind_some]
    cases parse raw with
    | some value => exact ⟨rfl, hsound⟩
    | none => exact ⟨rfl, hsound⟩

theorem float_means (default : Float32) : Means (float e key default)
    (((e.attribute? key).bind Attribute.readFloat).getD default) :=
  resolve_means e key _ default fun _ => .pure _

theorem int_means (default : Int) : Means (int e key default)
    (((e.attribute? key).bind Attribute.readInt).getD default) :=
  resolve_means e key _ default fun _ => .pure _

theorem boolean_means (default : Bool) : Means (boolean e key default)
    (((e.attribute? key).bind Attribute.readBool).getD default) :=
  resolve_means e key _ default fun _ => .pure _

theorem vec2_means (default : Vec2) : Means (vec2 e key default)
    (((e.attribute? key).bind fun raw => Attribute.readVec2 (Text.trim raw)).getD default) :=
  resolve_means e key _ default readVec2_means

theorem vec3_means (default : Vec3) : Means (vec3 e key default)
    (((e.attribute? key).bind fun raw => Attribute.readVec3 (Text.trim raw)).getD default) :=
  resolve_means e key _ default readVec3_means

theorem vec4_means (default : Vec4) : Means (vec4 e key default)
    (((e.attribute? key).bind fun raw => Attribute.readVec4 (Text.trim raw)).getD default) :=
  resolve_means e key _ default readVec4_means

theorem color_means (default : Color) : Means (color e key default)
    (((e.attribute? key).bind fun raw =>
      Attribute.readColor (Text.lowercase (Text.trim raw))).getD default) :=
  resolve_means e key _ default fun raw => readColor_means raw default

theorem keyword_means {α : Type} [Keyword α] (default : α) : Means (keyword e key default)
    (((e.attribute? key).bind Keyword.read?).getD default) :=
  resolve_means e key _ default fun _ => .pure _

theorem float_settled (default : Float32) : Settled (float e key default) :=
  ⟨_, float_means e key default⟩

theorem int_settled (default : Int) : Settled (int e key default) := ⟨_, int_means e key default⟩

theorem boolean_settled (default : Bool) : Settled (boolean e key default) :=
  ⟨_, boolean_means e key default⟩

theorem vec2_settled (default : Vec2) : Settled (vec2 e key default) :=
  ⟨_, vec2_means e key default⟩

theorem vec3_settled (default : Vec3) : Settled (vec3 e key default) :=
  ⟨_, vec3_means e key default⟩

theorem vec4_settled (default : Vec4) : Settled (vec4 e key default) :=
  ⟨_, vec4_means e key default⟩

theorem color_settled (default : Color) : Settled (color e key default) :=
  ⟨_, color_means e key default⟩

theorem keyword_settled {α : Type} [Keyword α] (default : α) : Settled (keyword e key default) :=
  ⟨_, keyword_means e key default⟩

end Resolver

/-! ### What is read for a widget -/

open Reading Resolver

theorem Outfit.readTransform_settled (e : Element) : Settled (readTransform e) := by
  refine .ite_bind (vec2_settled ..) (vec2_settled ..) fun position => ?_
  -- the size is read in two ways, and what comes after it is the same for both
  have hplace (size : Vec2) : Settled (do
      let anchorMin ← vec2 e "anchorMin" .half
      let anchorMax ← vec2 e "anchorMax" .half
      let pivot ← vec2 e "pivot" .half
      let scale ← vec3 e "scale" .one
      return ({ position, size, anchorMin, anchorMax, pivot, scale } : Transform)) :=
    .bind (vec2_settled ..) fun _ => .bind (vec2_settled ..) fun _ => .bind (vec2_settled ..)
      fun _ => .bind (vec3_settled ..) fun _ => .pure _
  refine .ite (.bind (vec2_settled ..) hplace) (.bind (float_settled ..) fun _ => ?_)
  exact .bind (float_settled ..) fun _ => .bind (.pure _) hplace

theorem Outfit.read_settled (kind : Element.Kind) (e : Element) : Settled (read kind e) :=
  .bind (readTransform_settled e) fun _ => .bind (float_settled ..) fun _ =>
    .bind (boolean_settled ..) fun _ => .bind (.lift _) fun _ => .pure _

namespace Blueprint

variable (theme : Theme) (e : Element)

theorem readSurface_settled : Settled (readSurface e) := by
  refine .bind (keyword_settled ..) fun _ => .bind (int_settled ..) fun _ => ?_
  refine .bind (boolean_settled ..) fun _ => .bind (vec2_settled ..) fun _ => ?_
  exact .ite_bind (float_settled ..) (.pure _) fun _ => .pure _

theorem readText_settled : Settled (readText theme e) :=
  .bind (float_settled ..) fun _ => .bind (color_settled ..) fun _ =>
    .bind (keyword_settled ..) fun _ => .pure _

theorem readButton_settled : Settled (readButton theme e) :=
  .bind (color_settled ..) fun _ => .ite (.pure _)
    (.bind (color_settled ..) fun _ => .bind (float_settled ..) fun _ => .pure _)

theorem readScrollArea_settled : Settled (readScrollArea theme e) := by
  refine .bind (color_settled ..) fun _ => .bind (boolean_settled ..) fun _ => ?_
  refine .bind (boolean_settled ..) fun _ => .bind (float_settled ..) fun _ => ?_
  exact .bind (boolean_settled ..) fun _ => .bind (float_settled ..) fun _ => .pure _

theorem readProgressBar_settled : Settled (readProgressBar theme e) := by
  refine .bind (float_settled ..) fun _ => .bind (float_settled ..) fun _ => ?_
  refine .ite (.pure _) (.bind (float_settled ..) fun _ => .ite (.pure _) ?_)
  exact .bind (keyword_settled ..) fun _ => .bind (color_settled ..) fun _ =>
    .bind (color_settled ..) fun _ => .pure _

theorem readInputField_settled : Settled (readInputField theme e) := by
  refine .bind (color_settled ..) fun _ => .bind (color_settled ..) fun _ => ?_
  exact .bind (float_settled ..) fun _ => .bind (int_settled ..) fun _ =>
    .bind (keyword_settled ..) fun _ => .pure _

theorem readDropdown_settled : Settled (readDropdown theme e) := by
  refine .bind (color_settled ..) fun _ => .bind (int_settled ..) fun _ => ?_
  split
  · exact .pure _
  · exact .bind (float_settled ..) fun _ => .pure _

theorem readPadding_settled : Settled (readPadding e) :=
  .bind (vec4_settled ..) fun _ => .pure _

theorem readLayout_settled (axis : Axis) : Settled (readLayout e axis) := by
  refine .bind (float_settled ..) fun _ => .bind (keyword_settled ..) fun _ => ?_
  refine .bind (boolean_settled ..) fun _ => .bind (boolean_settled ..) fun _ => ?_
  refine .bind (boolean_settled ..) fun _ => .bind (boolean_settled ..) fun _ => ?_
  refine .bind (boolean_settled ..) fun _ => .bind (readPadding_settled e) fun _ => ?_
  exact .bind (boolean_settled ..) fun _ => .pure _

theorem readGrid_settled : Settled (readGrid e) := by
  refine .bind (int_settled ..) fun _ => .ite (.pure _) (.bind (vec2_settled ..) fun _ => ?_)
  refine .bind (vec2_settled ..) fun _ => .bind (keyword_settled ..) fun _ => ?_
  refine .bind (keyword_settled ..) fun _ => .bind (keyword_settled ..) fun _ => ?_
  refine .bind (keyword_settled ..) fun _ => .bind (readPadding_settled e) fun _ => ?_
  exact .bind (boolean_settled ..) fun _ => .pure _

/-- What a kind of widget adds is settled by the attributes of the element. -/
theorem read_settled (kind : Element.Kind) : Settled (read theme e kind) := by
  cases kind with
  | surface => exact (readSurface_settled e).map _
  | panel => exact .map (.bind (color_settled ..) fun _ => .pure _) _
  | text => exact (readText_settled theme e).map _
  | button => exact (readButton_settled theme e).map _
  | image => exact .map (.bind (color_settled ..) fun _ => .pure _) _
  | scrollArea => exact (readScrollArea_settled theme e).map _
  | progressBar => exact readProgressBar_settled theme e
  | toggleGroup => exact .map (.bind (boolean_settled ..) fun _ => .pure _) _
  | toggle => exact .map (.bind (boolean_settled ..) fun _ => .pure _) _
  | inputField => exact (readInputField_settled theme e).map _
  | dropdown => exact readDropdown_settled theme e
  | horizontalLayout => exact (readLayout_settled e .horizontal).map _
  | verticalLayout => exact (readLayout_settled e .vertical).map _
  | gridLayout => exact readGrid_settled e

end Blueprint

end Uiml
