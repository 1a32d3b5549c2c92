import CacheSync.Proofs.Cache.Alterations
import CacheSync.Proofs.Node.Hearing
import CacheSync.Proofs.Node.Independent
import CacheSync.Proofs.Node.Replication

/-!
# Nodes that invalidate a cache

An operation on an invalidated cache is told to the bus as what it alters, and the event of another
node drops its keys in the cache and in the aliases of the cache, and nowhere else: an alias that is
configured itself passes nothing on.  Where no times are compared, what a message makes of a node is
a function of what the node holds (`Frame.heldAfter`).
-/

namespace CacheSync

open Json (Value)

namespace Frame

/-- No configured cache compares the times of its events. -/
def Uncompared (frame : Frame) : Prop :=
  ∀ {name : String} {config : CacheConfig}, frame.config.cache? name = some config →
    config.comparison = none

/-- A node with an invalidated cache.  Nothing is refused in the cache or in its aliases. -/
structure Invalidates (frame : Frame) (config : CacheConfig) : Prop where
  configured : frame.config.cache? config.name = some config
  invalidated : config.policy = .invalidated
  uncompared : frame.Uncompared
  free : ∀ name ∈ config.name :: config.aliases, frame.guard name = .none

/-- What the caches hold after the message of a body. -/
def heldAfter (frame : Frame) (body : List UInt8) (held : String → Contents) : String → Contents :=
  match Wire.decode body with
  | .error _ => held
  | .ok event => fun name key => frame.effect event name key (held name key)

variable {frame : Frame} {config : CacheConfig} {event : Event}

theorem held_receive_of_uncompared (uncompared : frame.Uncompared) (event : Event) (view : View)
    (name key : String) :
    (frame.receive event view).held name key =
      frame.effect event name key (view.held name key) := by
  rw [held_receive]
  cases found : frame.config.cache? event.cache with
  | none => simp only [effect, found, ite_self]
  | some config =>
      have taken : frame.takes event view = true := by
        simp only [takes, found, accepts, uncompared found, Option.isNone_none, Bool.true_or]
      rw [if_pos taken]

theorem held_receiveBody_of_uncompared (uncompared : frame.Uncompared) (body : List UInt8)
    (view : View) : (frame.receiveBody body view).held = frame.heldAfter body view.held := by
  unfold receiveBody heldAfter
  cases Wire.decode body with
  | error fault => rfl
  | ok event =>
      funext name key
      exact held_receive_of_uncompared uncompared event view name key

end Frame

theorem Guard.drops_none_iff {event : Event} {key : String} :
    Guard.none.drops event.key key = true ↔ event.Concerns key := by
  unfold Event.Concerns
  cases event.key with
  | all => simp [drops, allows_none]
  | entry one => simp [drops, allows_none, eq_comm]

namespace Frame.Invalidates

variable {frame : Frame} {config : CacheConfig} {event : Event}

/-- An event drops its keys in the cache and its aliases, where there are any. -/
theorem effect_eq (invalidates : frame.Invalidates config) (of : event.cache = config.name)
    (name key : String) (value : Option Value) :
    frame.effect event name key value =
      if (name ∈ config.name :: config.aliases ∧ event.Concerns key) ∧ frame.has name = true then
        none
      else value := by
  have configured : frame.config.cache? event.cache = some config := by
    rw [of]
    exact invalidates.configured
  simp only [effect, configured, turned, invalidates.invalidated, Guard.applied_of_invalidated]
  by_cases among : name ∈ config.name :: config.aliases
  · simp only [invalidates.free name among, Guard.drops_none_iff]
    by_cases concerned : event.Concerns key
    · by_cases present : frame.has name = true
      · -- The cache drops the key by its policy, an alias in any case.
        rcases List.mem_cons.1 among with rfl | named
        · simp only [present, concerned, List.mem_cons_self, and_self, ↓reduceIte, ite_self]
        · simp only [named, present, concerned, List.mem_cons_of_mem, and_self, ↓reduceIte]
      · simp only [present, Bool.false_eq_true, false_and, and_false, ↓reduceIte]
    · simp only [concerned, and_false, false_and, ↓reduceIte, ite_self]
  · have notOwn : name ≠ config.name := fun same => among (same ▸ List.mem_cons_self)
    have notNamed : name ∉ config.aliases := fun member => among (List.mem_cons_of_mem _ member)
    simp only [among, notOwn, notNamed, false_and, ↓reduceIte]

end Frame.Invalidates

namespace Core

variable {core : Core} {cache : String} {config : CacheConfig}

theorem held_of_absent {name : String} (absent : core.frame.has name = false) (key : String) :
    core.held name key = none := by
  rw [has_frame, Option.isSome_eq_false_iff, Option.isNone_iff_eq_none] at absent
  rw [held, absent]
  rfl

/-- Where no times are compared, handling a message changes what is held and nothing else matters. -/
theorem held_receive_of_uncompared (started : core.frame.lifecycle = .started)
    (crashless : core.frame.Crashless) (uncompared : core.frame.Uncompared) (body : List UInt8)
    (clock : Clock) :
    (core.receive body clock).core.held = core.frame.heldAfter body core.held := by
  have left : core.purgesOn body clock = false := by
    unfold purgesOn
    cases Wire.decode body with
    | error fault => rfl
    | ok event =>
        unfold purges
        dsimp only
        cases found : core.config.cache? event.cache with
        | none => rfl
        | some config =>
            dsimp only
            rw [uncompared found]
  have handled := receive_shows crashless (isStarted_iff.2 started) left
  have contents := congrArg View.held handled.view_eq
  rw [Frame.held_receiveBody_of_uncompared uncompared] at contents
  exact contents

/-! ## Operations of the application -/

/-- What an operation leaves behind: its cache altered, and one event that says so, or none. -/
structure Operated.Alters (operated : Operated) (core : Core) (cache : String) (call : StoreCall)
    (now : Moment) : Prop where
  frame_eq : operated.core.frame = core.frame
  others_eq : ∀ other, other ≠ cache → operated.core.held other = core.held other
  describes : (call.alteration (core.held cache)).Describes (core.held cache)
    (operated.core.held cache)
  told : (operated.heard = [] ∧ (call.alteration (core.held cache)).told? = none) ∨
    ∃ event, operated.heard = [event] ∧
      (call.alteration (core.held cache)).told? = some (event.key, event.kind) ∧
        event.cache = cache ∧ event.origin = call.origin ∧ event.time = now

theorem store_of_hearsOnce (hears : core.frame.HearsOnce cache) :
    ∃ store, core.shelf.store? cache = some store := by
  obtain ⟨_, listeners, listening, _⟩ := hears
  obtain ⟨store, found, _⟩ := Option.map_eq_some_iff.1 listening
  exact ⟨store, found⟩

theorem operate_alters (hears : core.frame.HearsOnce cache)
    (free : core.frame.guard cache = .none) (guarded : Bool) (call : StoreCall) (clock : Clock) :
    ∃ operated, core.operate cache guarded call clock = some operated ∧
      operated.Alters core cache call clock.wall := by
  obtain ⟨store, found⟩ := store_of_hearsOnce hears
  have sound := store.sound_perform clock.wall call
  have alters := store.alters_perform clock.wall call
  rw [← held_of_store? found] at alters
  refine ⟨_, operate_of_free found free guarded call clock, ?_⟩
  have after := held_setStore found sound.name_eq
  have heard := heard_of_hearsOnce found hears sound.listeners_eq
  refine ⟨frame_setStore found sound.name_eq sound.listeners_eq, ?_, ?_, ?_⟩
  · intro other different
    rw [after, if_neg different]
  · rw [after, if_pos rfl]
    have describes := alters.describes
    rw [← held_of_store? found] at describes
    exact describes
  · rw [heard, ← alters.told]
    cases made : (store.perform call clock.wall).event with
    | none => exact Or.inl ⟨rfl, rfl⟩
    | some event =>
        obtain ⟨of, _, origin, time, _⟩ := sound.told event made
        exact Or.inr ⟨event, rfl, rfl, of.trans (CacheShelf.name_of_store? found), origin, time⟩

end Core

end CacheSync
