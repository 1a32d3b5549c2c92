import CacheSync.Node.Sending
import CacheSync.Proofs.Node.Hearing

/-!
# What a bus is told

A bus is told of the changes of the caches it listens to, be it by an operation of the application
or by a message that is applied.  Of an operation it hears as often as it listens.  What it hears of
a message makes no job for it, for all of these changes are of remote origin.
-/

namespace CacheSync

/-- How often the bus of a node hears of a change of a cache. -/
def Frame.ears (frame : Frame) (cache : String) : Nat :=
  if frame.linked then ((frame.listeners cache).getD []).countP (·.audience = .bus) else 0

/-- Whether an event of the node leaves it: the bus hears of it, and the policy of its cache lets
it pass. -/
def Frame.propagates (frame : Frame) (event : Event) : Bool :=
  decide (frame.ears event.cache = 1) && decide (event.origin = .localNode) &&
    (frame.config.cache? event.cache).any fun config => config.policy.propagates event.kind

namespace Core

variable {core : Core} {cache : String} {clock : Clock}

/-! ## Operations -/

/-- The event of an operation, if it makes one.  A refused operation makes none. -/
def announced (core : Core) (cache : String) (guarded : Bool) (call : StoreCall) (clock : Clock) :
    List Event :=
  match core.shelf.store? cache with
  | none => []
  | some store =>
      match (if guarded then core.shelf.guard cache else .none).perform store call clock.wall with
      | .error _ => []
      | .ok change => change.event.toList

/-- What an operation leaves behind, and what the bus hears of it. -/
structure Operated.Announces (operated : Operated) (core : Core) (cache : String)
    (call : StoreCall) (events : List Event) : Prop where
  frame_eq : operated.core.frame = core.frame
  meter_eq : operated.core.meter = core.meter
  once : events.length ≤ 1
  heard_eq : operated.heard = events.flatMap (List.replicate (core.frame.ears cache))
  told : ∀ event ∈ events, event.cache = cache ∧ event.origin = call.origin

theorem operate_announces {guarded : Bool} {call : StoreCall} {operated : Operated}
    (operates : core.operate cache guarded call clock = some operated) :
    operated.Announces core cache call (core.announced cache guarded call clock) := by
  obtain ⟨store, found, rfl⟩ := Option.map_eq_some_iff.1 operates
  unfold announced
  simp only [found]
  cases outcome : (if guarded then core.shelf.guard cache else .none).perform store call
      clock.wall with
  | error stop => exact ⟨rfl, rfl, Nat.zero_le 1, rfl, fun event member => by cases member⟩
  | ok change =>
      have sound := Guard.eq_of_perform outcome ▸ store.sound_perform clock.wall call
      have listening : core.ears change.store = core.frame.ears cache := by
        simp only [ears, Frame.ears, frame, found, Option.map_some, Option.getD_some,
          sound.listeners_eq]
      refine ⟨frame_setStore found sound.name_eq sound.listeners_eq, rfl, ?_, ?_, ?_⟩
      · dsimp only
        cases change.event with
        | none => exact Nat.zero_le 1
        | some event => exact Nat.le_refl 1
      · simp only [heard, listening]
        cases change.event with
        | none => rfl
        | some event => exact (List.flatMap_singleton _ _).symm
      · intro event member
        have told := sound.told event (Option.mem_toList.1 member)
        exact ⟨told.1.trans (CacheShelf.name_of_store? found), told.2.2.1⟩

/-! ## Messages -/

theorem relayAll_snd_of_remote (events : List Event) (clock : Clock) :
    ∀ core : Core, (∀ event ∈ events, event.origin = .remoteNode) →
      (core.relayAll events clock).2 = [] := by
  induction events with
  | nil =>
      intro core _
      rfl
  | cons event rest inductionHypothesis =>
      intro core remote
      have first : (core.relay event clock).2 = [] := by
        simp only [relay, outbound_of_remote core clock (remote event List.mem_cons_self),
          Option.map_none, Option.toList_none]
      have others := inductionHypothesis (core.overhear event clock)
        fun other member => remote other (List.mem_cons_of_mem event member)
      exact List.append_eq_nil_iff.2 ⟨first, others⟩

theorem goOn_snd {done : Handled × List Job} {work : Core → Handled × List Job}
    (first : done.2 = []) (others : ∀ core, (work core).2 = []) : (goOn done work).2 = [] := by
  unfold goOn
  split
  · exact first
  · exact List.append_eq_nil_iff.2 ⟨first, others _⟩

theorem applyToRelaying_snd (core : Core) (cache : String) (policy : Policy) (event : Event)
    (clock : Clock) : (core.applyToRelaying cache policy event clock).2 = [] := by
  unfold applyToRelaying
  cases core.shelf.store? cache with
  | none => rfl
  | some store =>
      dsimp only
      cases applied : (core.shelf.guard cache).apply policy store event clock.wall with
      | none => rfl
      | some change =>
          exact relayAll_snd_of_remote _ clock _
            fun event member => origin_of_heard (Guard.sound_of_apply applied) member

theorem invalidateAllRelaying_snd (caches : List String) (event : Event) (clock : Clock) :
    ∀ core : Core, (core.invalidateAllRelaying caches event clock).2 = [] := by
  induction caches with
  | nil =>
      intro core
      rfl
  | cons cache rest inductionHypothesis =>
      intro core
      exact goOn_snd (core.applyToRelaying_snd cache .invalidated event clock) inductionHypothesis

theorem acceptRelaying_snd (core : Core) (config : CacheConfig) (event : Event) (clock : Clock) :
    (core.acceptRelaying config event clock).2 = [] := by
  unfold acceptRelaying
  cases core.record config event clock with
  | mk recorded news =>
      cases news with
      | false => rfl
      | true =>
          exact goOn_snd (recorded.applyToRelaying_snd config.name config.policy event clock)
            (invalidateAllRelaying_snd config.aliases event clock)

/-- Applying a message makes no job for the bus: neither the change of its cache, whether that
replaces, drops or clears, nor that of any alias. -/
theorem receiveRelaying_eq (core : Core) (body : List UInt8) (clock : Clock) :
    core.receiveRelaying body clock = (core.receive body clock, []) := by
  refine Prod.ext rfl ?_
  unfold receiveRelaying
  split
  · rfl
  · cases Wire.decode body with
    | error fault => rfl
    | ok event =>
        dsimp only
        split
        · rfl
        · exact acceptRelaying_snd _ _ event clock

end Core

end CacheSync
