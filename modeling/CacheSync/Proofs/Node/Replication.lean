import CacheSync.Proofs.Config.Validated
import CacheSync.Proofs.Node.View
import CacheSync.Proofs.Wire.RoundTrip

/-!
# Nodes that replicate a cache

What a started node does with a cache that it replicates: an operation of the application is told
to the bus in at most one event, which the node lets out, and an event from another node leaves its
key with the new value or with none.
-/

namespace CacheSync

open Json (Value)

namespace Frame

/-- A started node with a replicated cache that refuses nothing. -/
structure Replicates (frame : Frame) (cache : String) (config : CacheConfig) : Prop where
  started : frame.lifecycle = .started
  plain : frame.codec = .plain
  validated : frame.config.Validated
  configured : frame.config.cache? cache = some config
  replicated : config.policy = .replicated
  crashless : frame.Crashless
  present : frame.has cache = true
  free : frame.guard cache = .none

/-- A started node that replicates a cache and does not compare the times of its events. -/
def Mirrors (frame : Frame) (cache : String) : Prop :=
  ∃ config : CacheConfig, frame.Replicates cache config ∧ config.comparison = none

/-- The bus of the node is told of every change of a cache, and once. -/
def HearsOnce (frame : Frame) (cache : String) : Prop :=
  frame.linked = true ∧
    ∃ listeners, frame.listeners cache = some listeners ∧
      listeners.countP (·.audience = .bus) = 1

namespace Replicates

variable {frame : Frame} {cache : String} {config : CacheConfig}

theorem name_eq (replicates : frame.Replicates cache config) : config.name = cache :=
  replicates.validated.consistent.name_eq replicates.configured

theorem aliases_eq_nil (replicates : frame.Replicates cache config) : config.aliases = [] :=
  replicates.validated.consistent.aliases_eq_nil replicates.configured replicates.replicated

end Replicates

end Frame

/-! ## The contents after an event -/

namespace Guard

theorem allows_none (operation : Operation) : Guard.none.allows operation = true := rfl

/-- An event that is replicated leaves each key that it concerns with its new value or with
none. -/
theorem applied_of_concerns {event : Event} {key : String} (concerned : event.Concerns key)
    (held : Contents) :
    Guard.none.applied .replicated event held key = .none ∨
      Guard.none.applied .replicated event held key = event.new := by
  rcases concerned with wildcard | one
  · exact Or.inl (by simp [applied, dropped, wildcard, allows_none])
  · cases new : event.new with
    | none => exact Or.inl (by simp [applied, dropped, one, new, allows_none])
    | some value =>
        simp only [applied, one, new, allows_none, ↓reduceIte]
        cases held key with
        | none => exact Or.inr rfl
        | some current =>
            simp only [Store.joined, takeIfExpected]
            split
            · split
              · exact Or.inr rfl
              · exact Or.inl rfl
            · exact Or.inl rfl

/-- An event leaves the keys that it does not concern. -/
theorem applied_of_not_concerns {event : Event} {key : String} (untouched : ¬ event.Concerns key)
    (held : Contents) : Guard.none.applied .replicated event held key = held key := by
  cases shape : event.key with
  | all => exact absurd (Or.inl shape) untouched
  | entry one =>
      have different : key ≠ one := by
        rintro rfl
        exact untouched (Or.inr shape)
      cases new : event.new with
      | none => simp [applied, dropped, shape, new, allows_none, different]
      | some value => simp [applied, shape, new, allows_none, different]

/-- An event that another node reads leaves each key that it concerns with the new value that was
sent or with none. -/
theorem applied_delivered_of_concerns {event : Event} {key : String}
    (concerned : event.Concerns key) (held : Contents) :
    Guard.none.applied .replicated event.delivered held key = .none ∨
      Guard.none.applied .replicated event.delivered held key = event.new := by
  have concernedThere : event.delivered.Concerns key := concerned
  rcases applied_of_concerns concernedThere held with gone | new
  · exact Or.inl gone
  · rcases event.new_delivered with none | arrives
    · exact Or.inl (new.trans none)
    · exact Or.inr (new.trans arrives)

theorem applied_delivered_of_not_concerns {event : Event} {key : String}
    (untouched : ¬ event.Concerns key) (held : Contents) :
    Guard.none.applied .replicated event.delivered held key = held key := by
  have untouchedThere : ¬ event.delivered.Concerns key := untouched
  exact applied_of_not_concerns untouchedThere held

end Guard

namespace Core

variable {core : Core} {cache : String} {config : CacheConfig}

theorem isStarted_of_replicates (replicates : core.frame.Replicates cache config) :
    core.isStarted = true := by
  have started : core.lifecycle = .started := replicates.started
  simp [isStarted, started]

theorem store_of_replicates (replicates : core.frame.Replicates cache config) :
    ∃ store, core.shelf.store? cache = some store := by
  have present := replicates.present
  rw [has_frame, Option.isSome_iff_exists] at present
  exact present

/-! ## Operations of the application -/

/-- What an operation leaves behind: the rest of the core as it was, and the cache as its event
tells. -/
structure Operated.Follows (operated : Operated) (core : Core) (cache : String) (call : StoreCall)
    (now : Moment) : Prop where
  heard_eq : operated.heard = core.emitted cache call now
  frame_eq : operated.core.frame = core.frame
  recorded_eq : operated.core.timestamps = core.timestamps
  others_eq : ∀ other, other ≠ cache → operated.core.held other = core.held other
  told : (operated.heard = [] ∧ operated.core.held cache = core.held cache) ∨
    ∃ event, operated.heard = [event] ∧ event.cache = cache ∧ event.key = call.key ∧
      event.origin = call.origin ∧ event.time = now ∧
        event.Tells (core.held cache) (operated.core.held cache)

theorem perform_of_free {guard : Guard} (free : guard = .none) (store : Store) (call : StoreCall)
    (now : Moment) : guard.perform store call now = .ok (store.perform call now) := by
  subst free
  unfold Guard.perform
  cases call.operation? with
  | none => rfl
  | some operation => exact Guard.run_of_allows (Guard.allows_none operation)

/-- The bus is told of the event of a change as often as it listens. -/
theorem heard_of_hearsOnce {store : Store} (found : core.shelf.store? cache = some store)
    (hears : core.frame.HearsOnce cache) {α : Type} {change : Change α}
    (listeners_eq : change.store.listeners = store.listeners) :
    core.heard change = change.event.toList := by
  obtain ⟨linked, listeners, listening, once⟩ := hears
  have link : core.linked = true := linked
  have same : store.listeners = listeners := by simpa [frame, found] using listening
  unfold heard
  cases change.event with
  | none => rfl
  | some event => simp [ears, link, listeners_eq, same, once]

/-- A cache that refuses nothing carries out every operation. -/
theorem operate_of_free {store : Store} (found : core.shelf.store? cache = some store)
    (free : core.frame.guard cache = .none) (guarded : Bool) (call : StoreCall) (clock : Clock) :
    core.operate cache guarded call clock =
      some ⟨{ core with shelf := core.shelf.setStore (store.perform call clock.wall).store },
        .ok (store.perform call clock.wall).answer, core.heard (store.perform call clock.wall)⟩ := by
  have unguarded : (if guarded then core.shelf.guard cache else Guard.none) = .none := by
    cases guarded with
    | true => exact free
    | false => rfl
  simp [operate, found, perform_of_free unguarded]

theorem operate_follows (replicates : core.frame.Replicates cache config)
    (hears : core.frame.HearsOnce cache) (guarded : Bool) (call : StoreCall) (clock : Clock) :
    ∃ operated, core.operate cache guarded call clock = some operated ∧
      operated.Follows core cache call clock.wall := by
  obtain ⟨store, found⟩ := store_of_replicates replicates
  have sound := store.sound_perform clock.wall call
  refine ⟨_, operate_of_free found replicates.free guarded call clock, ?_⟩
  have after := held_setStore found sound.name_eq
  have heard := heard_of_hearsOnce found hears sound.listeners_eq
  refine ⟨?_, frame_setStore found sound.name_eq sound.listeners_eq, rfl, ?_, ?_⟩
  · simp only [heard, emitted, found]
  · intro other different
    rw [after, if_neg different]
  · rw [after, if_pos rfl, held_of_store? found, heard]
    cases made : (store.perform call clock.wall).event with
    | none => exact Or.inl ⟨rfl, sound.silent made⟩
    | some event =>
        obtain ⟨cacheEq, about, origin, time, tells⟩ := sound.told event made
        exact Or.inr ⟨event, rfl, cacheEq.trans (CacheShelf.name_of_store? found), about,
          origin, time, tells⟩

/-- The node lets out every event of the cache that was made here. -/
theorem outbound_of_replicates (replicates : core.frame.Replicates cache config) {event : Event}
    (of : event.cache = cache) (made : event.origin = .localNode) (clock : Clock) :
    core.outbound event clock = ((core.record config event clock).1, some config) := by
  have configured : core.config.cache? event.cache = some config := by
    rw [of]
    exact replicates.configured
  unfold outbound
  simp only [isStarted_of_replicates replicates, configured, made, Origin.isRemote,
    replicates.replicated, Policy.propagates, Bool.not_true, Bool.false_eq_true, ↓reduceIte]

theorem encode_of_replicated (plain : core.codec = .plain) (replicated : config.policy = .replicated)
    (event : Event) :
    core.codec.encode event config.policy.includesValues = .ok (Wire.encode event true) := by
  rw [plain, replicated]
  rfl

/-! ## Events from other nodes -/

/-- The message of an event that can be read is applied to the cache alone, if it is accepted. -/
theorem receive_of_replicates (replicates : core.frame.Replicates cache config) {body : List UInt8}
    {event : Event} (read : Wire.decode body = .ok event) (of : event.cache = cache)
    {clock : Clock} (left : core.purgesOn body clock = false) :
    (core.receive body clock).Shows core.frame
      (if Frame.accepts config event core.view then
        core.frame.apply cache .replicated event (Frame.note config event core.view)
      else core.view) := by
  have shows_ := receive_shows replicates.crashless (isStarted_of_replicates replicates) left
  simpa only [Frame.receiveBody, read, Frame.receive, of, replicates.configured, Frame.spread,
    replicates.aliases_eq_nil, List.foldl_nil, replicates.name_eq, replicates.replicated]
    using shows_

/-- Where times are not compared, every event of the cache is applied. -/
theorem receive_of_uncompared (replicates : core.frame.Replicates cache config)
    (uncompared : config.comparison = none) {body : List UInt8} {event : Event}
    (read : Wire.decode body = .ok event) (of : event.cache = cache) (clock : Clock) :
    (core.receive body clock).Shows core.frame
      (core.frame.apply cache .replicated event core.view) := by
  have configured : core.config.cache? event.cache = some config := by
    rw [of]
    exact replicates.configured
  have left : core.purgesOn body clock = false := by
    simp [purgesOn, read, purges, configured, uncompared]
  simpa [Frame.accepts, Frame.note, uncompared] using receive_of_replicates replicates read of left

theorem held_apply_of_replicates (replicates : core.frame.Replicates cache config) (event : Event)
    (view : View) (other : String) :
    (core.frame.apply cache .replicated event view).held other =
      if other = cache then Guard.none.applied .replicated event (view.held cache)
      else view.held other := by
  simp [Frame.apply, replicates.present, replicates.free]

end Core

/-! ## A sample -/

/-- A replicated cache, whose events may be compared by time. -/
def CacheConfig.sample (compared : Bool) : CacheConfig :=
  ⟨"users", .replicated, [], if compared then some .default else none⟩

/-- The configuration of a node with this cache alone. -/
def BusConfig.sample (compared : Bool) : BusConfig :=
  { BusDefinition.default.bare with caches := Table.empty.insert "users" (.sample compared) }

theorem BusConfig.sample_validated (compared : Bool) : (sample compared).Validated := by
  refine ⟨{ BusDefinition.default with caches := [.sample compared] }, ?_, ?_⟩
  · intro cache member
    rw [List.mem_singleton.1 member]
    refine ⟨⟨"users", .replicated, [], (CacheConfig.sample compared).comparison⟩, ?_⟩
    cases compared <;> rfl
  · cases compared <;> rfl

namespace Core

/-- A started node, whose bus listens to its one cache. -/
def sample (compared : Bool) : Core :=
  { new (.sample compared) .plain
      (CacheShelf.empty.setStore ((Store.ofName "users").listen .bus).1) with
    lifecycle := .started }

theorem sample_replicates (compared : Bool) :
    (sample compared).frame.Replicates "users" (.sample compared) where
  started := rfl
  plain := rfl
  validated := BusConfig.sample_validated compared
  configured := rfl
  replicated := rfl
  crashless := fun _ => Guard.crashless_none
  present := rfl
  free := rfl

theorem sample_hearsOnce (compared : Bool) : (sample compared).frame.HearsOnce "users" :=
  ⟨rfl, _, rfl, rfl⟩

end Core

end CacheSync
