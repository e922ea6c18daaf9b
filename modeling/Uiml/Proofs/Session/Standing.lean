import Uiml.Proofs.Build.Fate
import Uiml.Proofs.Session.Linked
import Uiml.Proofs.Slot.Alike

/-!
# What stands for as long as a session

Whatever is done to a session, its settings stay, it has the number of slots that they ask for, and
what its resolver remembers of attributes is what they mean. So the history of a session is not seen
in what is read from a document, nor in which slots there are.

## Main definitions

* `Session.Standing` — the caches are sound and the number of slots is that of the settings

## Main results

* `Session.Reachable.standing` — so it is in every reachable session
-/

namespace Uiml

/-- Two boards have slots of the same numbers. -/
def Slots.SameSlots (board board' : Slots) : Prop :=
  ∀ i, (board'.slot? i).isSome = (board.slot? i).isSome

namespace Slots

variable {board board' : Slots} {canvas : Canvas}

theorem SameSlots.trans {board'' : Slots} (h : board.SameSlots board')
    (h' : board'.SameSlots board'') : board.SameSlots board'' := fun i => (h' i).trans (h i)

theorem KeepsBindings.sameSlots (h : board.KeepsBindings board') : board.SameSlots board' := by
  intro i
  have hsome := congrArg Option.isSome (h i)
  rwa [Option.isSome_map, Option.isSome_map] at hsome

theorem sameSlots_of_content? (h : ∀ i, board'.content? i = board.content? i) :
    board.SameSlots board' := by
  intro i
  have hsome := congrArg Option.isSome (h i)
  rwa [content?, content?, Option.isSome_map, Option.isSome_map] at hsome

theorem unbind_sameSlots (board : Slots) (canvas : Canvas) (id : WidgetId) :
    board.SameSlots (board.unbind canvas id).2.1 := sameSlots_of_content? content?_unbind

theorem clearBindings_sameSlots (board : Slots) : board.SameSlots board.clearBindings := fun i => by
  rw [clearBindings, slot?_map, Option.isSome_map]

theorem bind_sameSlots (board : Slots) (canvas : Canvas) (index : Nat) (id : WidgetId) :
    board.SameSlots (board.bind canvas index id).value.2.1 := sameSlots_of_content? content?_bind

theorem Rebinds.sameSlots {canvas' : Canvas} (h : Rebinds (board, canvas) (board', canvas')) :
    board.SameSlots board' := sameSlots_of_content? (content?_of_stock_eq h.stock_eq)

end Slots

namespace Workbench

theorem bindTo_sameSlots (bench : Workbench) (asked : Option Nat) (id : WidgetId) :
    bench.slots.SameSlots (bench.bindTo asked id).slots := by
  cases asked with
  | none => exact fun _ => rfl
  | some index => exact bench.slots.bind_sameSlots bench.canvas index id

/-- Whatever is visited, what is remembered of attributes stays sound, and the slots are the same. -/
theorem visit_standing {theme : Theme} {bench bench' : Workbench} {parent : NodeId} {e : Element}
    {below : Option NodeId} (h : (visit theme bench parent e).run.value = .ok (below, bench')) :
    (bench.resolver.Sound → bench'.resolver.Sound) ∧ bench.slots.SameSlots bench'.slots := by
  cases visit_cases h with
  | unnamed => exact ⟨id, fun _ => rfl⟩
  | unknown => exact ⟨id, fun _ => rfl⟩
  | failed _ hsound => exact ⟨hsound, fun _ => rfl⟩
  | @kept name kind outfit blueprint _ _ _ hsettled =>
    refine ⟨fun hr => (hsettled hr).2, ?_⟩
    have hbound := (bench.grow parent name kind outfit blueprint).bindTo_sameSlots e.slotAsked
      ⟨bench.canvas.widgets.size⟩
    rw [Workbench.grow] at hbound
    exact hbound

end Workbench

namespace Session

variable {s s' : Session}

/-- What is remembered of attributes is what they mean, and there are as many slots as the settings
ask for. -/
structure Standing (s : Session) : Prop where
  resolver : s.resolver.Sound
  slots : ∀ i, (s.slots.slot? i).isSome = decide (i < s.config.slotCount)

theorem standing_new (config : Config) (files : Files) (bundles : Table String (List UInt8)) :
    (Session.new config files bundles).Standing where
  resolver := Resolver.new_sound config.strictAttributes
  slots := fun i => by
    simp only [Session.new, Slots.new, Slots.slot?, Array.getElem?_replicate]
    split
    · next h => exact (decide_eq_true h).symm
    · next h => exact (decide_eq_false h).symm

namespace Standing

theorem keep (hs : s.Standing) (hconfig : s'.config = s.config)
    (hresolver : s'.resolver = s.resolver) (hslots : s.slots.SameSlots s'.slots) : s'.Standing where
  resolver := hresolver ▸ hs.resolver
  slots := fun i => by rw [hslots, hs.slots, hconfig]

theorem clear (hs : s.Standing) : s.clear.value.Standing := by
  rw [clear_value]
  exact hs.keep rfl rfl s.slots.clearBindings_sameSlots

theorem clearForLoad (hs : s.Standing) : s.clearForLoad.value.Standing := by
  rw [Session.clearForLoad]
  cases s.config.clearOnLoad with
  | true => exact hs.clear
  | false => exact hs

theorem loading (hs : s.Standing) (h : Loading s s') : s'.Standing := by
  cases h with
  | unread => exact hs
  | refused => exact hs.clearForLoad
  | compiled root bench hbench =>
    -- the caches and the slots go through the visits together
    have hs := hs.clearForLoad
    obtain ⟨hresolver, hslots⟩ : bench.resolver.Sound ∧
        s.clearForLoad.value.slots.SameSlots bench.slots :=
      Workbench.compileAll_induction
        (p := fun b => b.resolver.Sound ∧ s.clearForLoad.value.slots.SameSlots b.slots)
        (fun hvisit hb => (Workbench.visit_standing hvisit).imp (· hb.1) hb.2.trans)
        root.children hbench ⟨hs.resolver, fun _ => rfl⟩
    exact ⟨hresolver, fun i => (hslots i).trans (hs.slots i)⟩

/-- Every operation leaves it so. -/
theorem after (hs : s.Standing) {op : Operation} (h : s.after op = .ok s') : s'.Standing := by
  have hrefl (slots : Slots) : slots.SameSlots slots := fun _ => rfl
  cases op <;> simp only [Session.after] at h
  case load source => exact hs.loading (loading_of_map load_loading h)
  case loadFile path => exact hs.loading (loading_of_map loadFile_loading h)
  case loadDocument root => exact hs.loading (loading_of_map loadDocument_loading h)
  case clear => cases h; exact hs.clear
  case execute => cases h; exact hs.keep rfl rfl (hrefl _)
  case schedule => cases h; exact hs.keep rfl rfl (hrefl _)
  case setProgress element value animate =>
    cases h
    rw [setProgress]
    split <;> exact hs.keep rfl rfl (hrefl _)
  case tick dt => cases h; exact hs.keep rfl rfl Slots.poll_keepsBindings.sameSlots
  case listen => cases h; exact hs.keep rfl rfl (hrefl _)
  case invoke element event args =>
    cases h
    rw [invoke, Logged.bind_value]
    split <;> exact hs.keep rfl rfl (hrefl _)
  case takeEvents => cases h; exact hs.keep rfl rfl (hrefl _)
  case setText slot text =>
    cases h; exact hs.keep rfl rfl (Slots.setText_keepsBindings text).sameSlots
  case request slot source kind =>
    cases h; exact hs.keep rfl rfl (Slots.request_keepsBindings source kind).sameSlots
  case finish number => cases h; exact hs.keep rfl rfl (Slots.finish_keepsBindings number).sameSlots
  case arrive number result =>
    cases h; exact hs.keep rfl rfl (Slots.arrive_keepsBindings number result).sameSlots
  case wait timeout => cases h; exact hs.keep rfl rfl Slots.poll_keepsBindings.sameSlots
  case changeBinding element slot =>
    cases h
    cases hget : s.registry.get? element with
    | none => rw [changeBinding_of_get?_eq_none hget]; exact hs
    | some id =>
      rw [changeBinding_of_get? hget]
      exact hs.keep rfl rfl (s.slots.changeBinding_rebinds s.stage.canvas id slot).sameSlots
  case moveBinding source target place =>
    cases h
    exact hs.keep rfl rfl
      (s.slots.moveBinding_rebinds s.stage.canvas source target place).sameSlots
  case unbind element =>
    cases h
    cases hget : s.registry.get? element with
    | none => rw [unbind_of_get?_eq_none hget]; exact hs
    | some id =>
      rw [unbind_of_get? hget]
      exact hs.keep rfl rfl (s.slots.unbind_sameSlots s.stage.canvas id)
  case addBundle => cases h; exact hs.keep rfl rfl (hrefl _)
  case removeBundle => cases h; exact hs.keep rfl rfl (hrefl _)
  case setStrict strict =>
    cases h
    have hr := hs.resolver
    exact ⟨⟨hr.vec2, hr.vec3, hr.vec4, hr.color⟩, hs.slots⟩
  case clearCaches => cases h; exact ⟨Resolver.clearCaches_sound hs.resolver, hs.slots⟩

end Standing

theorem Reachable.standing (hs : Reachable s) : s.Standing := by
  induction hs with
  | new config files bundles => exact standing_new config files bundles
  | after _ hafter ih => exact ih.after hafter

end Session

end Uiml
