import CacheSync.Cache.Call
import CacheSync.Proofs.Node.View

/-!
# Handling messages, whatever happens

A message may crash the thread that handles it, and saving the time of its event may remove old
records on the way.  What is said here of `Core.receive` holds all the same: it leaves the frame of
the core, it counts one message received, and it records no time but that of its event.  A message
that is not stale is spread: applied to the cache of its event and invalidated in the aliases.
-/

namespace CacheSync

namespace Guard

variable {guard : Guard} {store : Store} {event : Event} {now : Moment}

/-- What a guard lets through is what was asked for. -/
theorem eq_of_run {α : Type} {operation : Operation} {act : Store → Change α} {change : Change α}
    (done : guard.run store operation act = .ok change) : change = act store := by
  unfold run at done
  cases stopped : guard.stop? store.name operation with
  | none =>
      rw [stopped] at done
      injection done with same
      exact same.symm
  | some stop =>
      rw [stopped] at done
      cases done

theorem eq_of_map_run {α β : Type} {operation : Operation} {act : Store → Change α}
    {finish : Change α → Change β} {change : Change β}
    (done : (guard.run store operation act).map finish = .ok change) :
    change = finish (act store) := by
  cases ran : guard.run store operation act with
  | error stop =>
      rw [ran] at done
      cases done
  | ok made =>
      rw [ran, eq_of_run ran] at done
      injection done with same
      exact same.symm

theorem eq_of_perform {call : StoreCall} {change : Change StoreAnswer}
    (done : guard.perform store call now = .ok change) : change = store.perform call now := by
  unfold perform at done
  cases operation : call.operation? with
  | none =>
      rw [operation] at done
      injection done with same
      exact same.symm
  | some refusable =>
      rw [operation] at done
      exact eq_of_run done

theorem sound_of_invalidate {change : Change Outcome}
    (done : guard.invalidate store event now = .ok change) :
    change.Sound store event.key .remoteNode now := by
  unfold invalidate at done
  cases shape : event.key with
  | all =>
      simp only [shape] at done
      rw [eq_of_map_run done]
      exact (store.sound_clear .remoteNode now).map _
  | entry key =>
      simp only [shape] at done
      rw [eq_of_map_run done]
      exact (store.sound_evict key .remoteNode now).map _

theorem sound_of_replicate {change : Change Outcome}
    (done : guard.replicate store event now = .ok change) :
    change.Sound store event.key .remoteNode now := by
  unfold replicate at done
  cases shape : event.key with
  | all =>
      simp only [shape] at done
      exact shape ▸ sound_of_invalidate done
  | entry key =>
      cases new : event.new with
      | none =>
          simp only [shape, new] at done
          exact shape ▸ sound_of_invalidate done
      | some value =>
          simp only [shape, new] at done
          rw [eq_of_map_run done]
          exact (store.sound_merge key .remoteNode now value _).map _

/-- An event that could be applied was applied soundly, or it failed and nothing changed. -/
theorem sound_of_apply {policy : Policy} {change : Change Outcome}
    (applied : guard.apply policy store event now = some change) :
    change.Sound store event.key .remoteNode now := by
  unfold apply applyAcross at applied
  cases policy with
  | invalidated =>
      cases outcome : guard.invalidate store event now with
      | ok made =>
          simp only [outcome, Option.some.injEq] at applied
          exact applied ▸ sound_of_invalidate outcome
      | error stop =>
          cases stop with
          | failed error =>
              simp only [outcome, Option.some.injEq] at applied
              exact applied ▸ .unchanged _
          | crashed => simp only [outcome, reduceCtorEq] at applied
  | replicated =>
      cases outcome : guard.replicate store event now with
      | ok made =>
          simp only [outcome, Option.some.injEq] at applied
          exact applied ▸ sound_of_replicate outcome
      | error stop =>
          cases stop with
          | crashed => simp only [outcome, reduceCtorEq] at applied
          | failed error =>
              -- A replication that fails is tried again as an invalidation.
              cases fallback : guard.invalidate store event now with
              | ok evicted =>
                  simp only [outcome, fallback, Except.map, Option.some.injEq] at applied
                  exact applied ▸ (sound_of_invalidate fallback).map _
              | error stop =>
                  cases stop with
                  | failed error =>
                      simp only [outcome, fallback, Except.map, Option.some.injEq] at applied
                      exact applied ▸ .unchanged _
                  | crashed => simp only [outcome, fallback, Except.map, reduceCtorEq] at applied

end Guard

/-- Whether a mark is made by applying an event. -/
def Mark.isOfApplying : Mark → Bool
  | .suppressed _ => true
  | .applied _ => true
  | .applyFailed _ => true
  | _ => false

/-- The configuration that a node sends an event by, if it sends it. -/
def Frame.outbound? (frame : Frame) (event : Event) : Option CacheConfig :=
  if frame.lifecycle = .started ∧ event.origin = .localNode then
    (frame.config.cache? event.cache).filter fun config => config.policy.propagates event.kind
  else none

namespace Core

variable {core before after later : Core} {config : CacheConfig} {event : Event} {clock : Clock}

theorem isStarted_iff : core.isStarted = true ↔ core.frame.lifecycle = .started := by
  simp only [isStarted, beq_iff_eq]
  rfl

theorem isStarted_of_frame (same : after.frame = before.frame) :
    after.isStarted = before.isStarted :=
  congrArg (fun frame : Frame => frame.lifecycle == .started) same

theorem config_of_frame (same : after.frame = before.frame) : after.config = before.config :=
  congrArg Frame.config same

/-! ## Applying an event -/

/-- What applying an event leaves as it is: all but the contents of caches and its own marks. -/
structure Spares (before after : Core) : Prop where
  frame_eq : after.frame = before.frame
  timestamps_eq : after.timestamps = before.timestamps
  count_eq : ∀ mark, mark.isOfApplying = false → after.meter.count mark = before.meter.count mark

namespace Spares

theorem refl (core : Core) : core.Spares core :=
  ⟨rfl, rfl, fun _ _ => rfl⟩

theorem trans (first : before.Spares after) (second : after.Spares later) :
    before.Spares later where
  frame_eq := second.frame_eq.trans first.frame_eq
  timestamps_eq := second.timestamps_eq.trans first.timestamps_eq
  count_eq mark other := (second.count_eq mark other).trans (first.count_eq mark other)

theorem mark (core : Core) {made : Mark} (applying : made.isOfApplying = true) :
    core.Spares (core.mark made) where
  frame_eq := rfl
  timestamps_eq := rfl
  count_eq counted other := by
    have different : made ≠ counted := by
      rintro rfl
      rw [applying] at other
      cases other
    simp only [Core.mark, Meter.count_mark, different, ↓reduceIte, Nat.add_zero]

end Spares

theorem overhear_spares (core : Core) (clock : Clock) (remote : event.origin = .remoteNode) :
    core.Spares (core.overhear event clock) := by
  unfold overhear outbound
  split
  · exact .refl core
  · split
    · exact .refl core
    next config _ =>
      simp only [remote, Origin.isRemote, ↓reduceIte]
      exact .mark core rfl

theorem foldl_overhear_spares (core : Core) (events : List Event) (clock : Clock)
    (remote : ∀ event ∈ events, event.origin = .remoteNode) :
    core.Spares (events.foldl (fun core event => core.overhear event clock) core) := by
  induction events generalizing core with
  | nil => exact .refl core
  | cons event rest inductionHypothesis =>
      have first := core.overhear_spares clock (remote event List.mem_cons_self)
      have others : ∀ other ∈ rest, other.origin = .remoteNode :=
        fun other member => remote other (List.mem_cons_of_mem event member)
      exact first.trans (inductionHypothesis _ others)

theorem applyTo_spares (core : Core) (cache : String) (policy : Policy) (event : Event)
    (clock : Clock) : core.Spares (core.applyTo cache policy event clock).core := by
  cases found : core.shelf.store? cache with
  | none =>
      rw [applyTo_of_absent found]
      exact .refl core
  | some store =>
      cases applied : (core.shelf.guard cache).apply policy store event clock.wall with
      | none =>
          rw [applyTo_of_crash found applied]
          exact .refl core
      | some change =>
          have sound := Guard.sound_of_apply applied
          have put : core.Spares { core with shelf := core.shelf.setStore change.store } :=
            ⟨frame_setStore found sound.name_eq sound.listeners_eq, rfl, fun _ _ => rfl⟩
          have remote : ∀ event ∈ core.heard change, event.origin = .remoteNode :=
            fun event member => origin_of_heard sound member
          have marked : (outcomeMark cache change.answer).isOfApplying = true := by
            unfold outcomeMark
            split <;> rfl
          rw [applyTo_of_change found applied]
          exact (put.trans (foldl_overhear_spares _ _ clock remote)).trans (.mark _ marked)

theorem invalidateAll_spares (caches : List String) (event : Event) (clock : Clock) :
    ∀ core : Core, core.Spares (core.invalidateAll caches event clock).core := by
  induction caches with
  | nil => exact .refl
  | cons cache rest inductionHypothesis =>
      intro core
      have first := core.applyTo_spares cache .invalidated event clock
      rw [invalidateAll_cons]
      dsimp only
      split
      · exact first
      · exact first.trans (inductionHypothesis _)

theorem spread_spares (core : Core) (config : CacheConfig) (event : Event) (clock : Clock) :
    core.Spares (core.spread config event clock).core := by
  have first := core.applyTo_spares config.name config.policy event clock
  rw [spread_eq_invalidateAll]
  dsimp only
  split
  · exact first
  · exact first.trans (invalidateAll_spares _ _ _ _)

/-! ## What leaves the caches -/

/-- What a message changes is as it was: the caches, and how many messages were received. -/
structure Stands (before after : Core) : Prop where
  frame_eq : after.frame = before.frame
  shelf_eq : after.shelf = before.shelf
  received_eq : after.meter.count .received = before.meter.count .received

namespace Stands

theorem refl (core : Core) : core.Stands core :=
  ⟨rfl, rfl, rfl⟩

theorem trans (first : before.Stands after) (second : after.Stands later) :
    before.Stands later where
  frame_eq := second.frame_eq.trans first.frame_eq
  shelf_eq := second.shelf_eq.trans first.shelf_eq
  received_eq := second.received_eq.trans first.received_eq

theorem mark (core : Core) {made : Mark} (other : made ≠ .received) :
    core.Stands (core.mark made) where
  frame_eq := rfl
  shelf_eq := rfl
  received_eq := by
    simp only [Core.mark, Meter.count_mark, other, ↓reduceIte, Nat.add_zero]

theorem held_eq (stands : before.Stands after) : after.held = before.held := by
  funext cache key
  simp only [held, stands.shelf_eq]

end Stands

theorem record_stands (core : Core) (config : CacheConfig) (event : Event) (clock : Clock) :
    core.Stands (core.record config event clock).1 := by
  unfold record
  split
  · exact .refl core
  · refine ⟨rfl, rfl, ?_⟩
    dsimp only
    unfold TimestampStore.reportSave
    split
    · simp [TimestampStore.reportCleanup]
    · rfl

theorem outbound_stands (core : Core) (event : Event) (clock : Clock) :
    core.Stands (core.outbound event clock).1 := by
  unfold outbound
  split
  · exact .refl core
  · split
    · exact .refl core
    next config _ =>
      split
      · exact .mark core (by simp)
      · have recorded := core.record_stands config event clock
        dsimp only
        split
        · exact recorded
        · exact recorded.trans (.mark _ (by simp))

theorem cleanUp_stands (core : Core) (cache : String) (expiration : Duration) (clock : Clock) :
    core.Stands (core.cleanUp cache expiration clock) :=
  ⟨rfl, rfl, by simp [cleanUp, TimestampStore.reportCleanup]⟩

/-- A node sends an event if it is one of its own, and the policy of its cache lets it pass. -/
theorem outbound_snd (core : Core) (event : Event) (clock : Clock) :
    (core.outbound event clock).2 = core.frame.outbound? event := by
  have config : core.frame.config = core.config := rfl
  unfold outbound Frame.outbound?
  simp only [← isStarted_iff, config]
  cases core.isStarted with
  | false => rfl
  | true =>
      cases core.config.cache? event.cache with
      | none => cases event.origin <;> rfl
      | some config =>
          cases event.origin with
          | remoteNode => rfl
          | localNode =>
              simp only [Bool.not_true, Bool.false_eq_true, ↓reduceIte, Origin.isRemote, and_self,
                Option.filter_some]
              split <;> rfl

/-- A local event of a configured cache has its time recorded, whether it is sent or not. -/
theorem timestamps_outbound (started : core.isStarted = true)
    (configured : core.config.cache? event.cache = some config)
    (local_ : event.origin.isRemote = false) :
    (core.outbound event clock).1.timestamps = (core.record config event clock).1.timestamps := by
  simp only [outbound, started, Bool.not_true, Bool.false_eq_true, ↓reduceIte, configured, local_]
  split <;> rfl

/-! ## Handling a message -/

/-- What becomes of a message. -/
inductive Fate (core : Core) (body : List UInt8) (clock : Clock) : Handled → Prop where
  | ignored : core.isStarted = false → Fate core body clock ⟨core, false⟩
  | undecodable {fault : Wire.CodecError} : core.isStarted = true →
      Wire.decode body = .error fault →
      Fate core body clock ⟨(core.mark .received).mark .undecodable, false⟩
  | unconfigured {event : Event} : core.isStarted = true → Wire.decode body = .ok event →
      core.config.cache? event.cache = none → Fate core body clock ⟨core.mark .received, false⟩
  | stale {event : Event} {config : CacheConfig} {recorded : Core} : core.isStarted = true →
      Wire.decode body = .ok event → core.config.cache? event.cache = some config →
      (core.mark .received).record config event clock = (recorded, false) →
      Fate core body clock ⟨recorded.mark (.stale config.name), false⟩
  | applied {event : Event} {config : CacheConfig} {recorded : Core} : core.isStarted = true →
      Wire.decode body = .ok event → core.config.cache? event.cache = some config →
      (core.mark .received).record config event clock = (recorded, true) →
      Fate core body clock (recorded.spread config event clock)

theorem receive_fate (core : Core) (body : List UInt8) (clock : Clock) :
    core.Fate body clock (core.receive body clock) := by
  cases started : core.isStarted with
  | false =>
      rw [receive_of_idle started]
      exact .ignored started
  | true =>
      cases read : Wire.decode body with
      | error fault =>
          rw [receive_of_undecodable started read]
          exact .undecodable started read
      | ok event =>
          cases configured : core.config.cache? event.cache with
          | none =>
              rw [receive_of_unconfigured started read configured]
              exact .unconfigured started read configured
          | some config =>
              rw [receive_eq_accept started read configured, accept_eq_spread]
              cases recorded : (core.mark .received).record config event clock with
              | mk after news =>
                  cases news with
                  | false => exact .stale started read configured recorded
                  | true => exact .applied started read configured recorded

/-- A message of a configured cache is stale or spread. -/
theorem receive_of_configured {body : List UInt8} (started : core.isStarted = true)
    (read : Wire.decode body = .ok event)
    (configured : core.config.cache? event.cache = some config) :
    core.receive body clock =
      let recorded := (core.mark .received).record config event clock
      if recorded.2 = true then recorded.1.spread config event clock
      else ⟨recorded.1.mark (.stale config.name), false⟩ := by
  have fate := core.receive_fate body clock
  generalize core.receive body clock = handled at fate
  cases fate with
  | ignored stopped =>
      rw [started] at stopped
      cases stopped
  | undecodable _ unread =>
      rw [read] at unread
      cases unread
  | unconfigured _ readAs unknown =>
      obtain rfl := Except.ok.inj (read.symm.trans readAs)
      rw [configured] at unknown
      cases unknown
  | stale _ readAs found saved =>
      obtain rfl := Except.ok.inj (read.symm.trans readAs)
      obtain rfl := Option.some.inj (configured.symm.trans found)
      simp only [saved, Bool.false_eq_true, ↓reduceIte]
  | applied _ readAs found saved =>
      obtain rfl := Except.ok.inj (read.symm.trans readAs)
      obtain rfl := Option.some.inj (configured.symm.trans found)
      simp only [saved, ↓reduceIte]

/-- A message of no configured cache has no time recorded. -/
theorem receive_timestamps_of_unknown (core : Core) (body : List UInt8) (clock : Clock)
    (unknown : ∀ event, Wire.decode body = .ok event → core.config.cache? event.cache = none) :
    (core.receive body clock).core.timestamps = core.timestamps := by
  have fate := core.receive_fate body clock
  generalize core.receive body clock = handled at fate
  cases fate with
  | ignored stopped => rfl
  | undecodable started read => rfl
  | unconfigured started read missing => rfl
  | stale started read configured saved =>
      rw [unknown _ read] at configured
      cases configured
  | applied started read configured saved =>
      rw [unknown _ read] at configured
      cases configured

theorem receive_frame (core : Core) (body : List UInt8) (clock : Clock) :
    (core.receive body clock).core.frame = core.frame := by
  have fate := core.receive_fate body clock
  generalize core.receive body clock = handled at fate
  cases fate with
  | ignored stopped => rfl
  | undecodable started read => rfl
  | unconfigured started read unknown => rfl
  | @stale event config recorded started read configured saved =>
      have stands := (core.mark .received).record_stands config event clock
      rw [saved] at stands
      exact stands.frame_eq
  | @applied event config recorded started read configured saved =>
      have stands := (core.mark .received).record_stands config event clock
      rw [saved] at stands
      exact (recorded.spread_spares config event clock).frame_eq.trans stands.frame_eq

/-- A started node counts every message once. -/
theorem receive_received (started : core.isStarted = true) (body : List UInt8) (clock : Clock) :
    (core.receive body clock).core.meter.count .received =
      core.meter.count .received + 1 := by
  have counted : (core.mark .received).meter.count .received = core.meter.count .received + 1 := by
    simp [Core.mark]
  rw [← counted]
  have fate := core.receive_fate body clock
  generalize core.receive body clock = handled at fate
  cases fate with
  | ignored stopped =>
      rw [started] at stopped
      cases stopped
  | undecodable started read => exact (Stands.mark _ (by simp)).received_eq
  | unconfigured started read unknown => rfl
  | @stale event config recorded started read configured saved =>
      have stands := (core.mark .received).record_stands config event clock
      rw [saved] at stands
      exact (stands.trans (.mark recorded (by simp))).received_eq
  | @applied event config recorded started read configured saved =>
      have stands := (core.mark .received).record_stands config event clock
      rw [saved] at stands
      exact ((recorded.spread_spares config event clock).count_eq .received rfl).trans
        stands.received_eq

/-- Where no cache crashes, no message does. -/
theorem receive_crashed (crashless : core.frame.Crashless) (body : List UInt8) (clock : Clock) :
    (core.receive body clock).crashed = false := by
  have fate := core.receive_fate body clock
  generalize core.receive body clock = handled at fate
  cases fate with
  | ignored stopped => rfl
  | undecodable started read => rfl
  | unconfigured started read unknown => rfl
  | stale started read configured saved => rfl
  | @applied event config recorded started read configured saved =>
      have stands := (core.mark .received).record_stands config event clock
      rw [saved] at stands
      exact (spread_shows (stands.frame_eq ▸ crashless) config event clock).crashed_eq

end Core

end CacheSync
