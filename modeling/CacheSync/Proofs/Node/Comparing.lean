import CacheSync.Proofs.Node.Replication

/-!
# Nodes that compare times

Of a cache whose events are compared by time, a node takes over an event exactly if nothing later
is recorded for its key.  `View.TookOver` says what the node shows then, whether the event was made
by its own application or by another node: the time of the event is recorded, and the key holds the
new value of the event or none.
-/

namespace CacheSync

open Json (Value)

/-- A started node that replicates a cache, compares the times of its events, and tells the bus of
every change once. -/
def Frame.Compares (frame : Frame) (cache : String) : Prop :=
  ∃ config : CacheConfig, frame.Replicates cache config ∧ config.comparison.isSome = true ∧
    frame.HearsOnce cache

/-! ## Events taken over -/

/-- What a view shows of a cache after a later event of one key was taken over. -/
structure View.TookOver (after before : View) (event : Event) (key : String) : Prop where
  one : event.key = .entry key
  newer : ∀ recorded, before.recorded event.cache key = some recorded → recorded < event.micros
  recorded_eq : after.recorded event.cache key = some event.micros
  held_cases : after.held event.cache key = none ∨ after.held event.cache key = event.new
  recorded_others : ∀ other, other ≠ key →
    after.recorded event.cache other = before.recorded event.cache other
  held_others : ∀ other, other ≠ key → after.held event.cache other = before.held event.cache other

namespace View

theorem isNews_iff {view : View} {event : Event} {key : String} (one : event.key = .entry key) :
    view.isNews event = true ↔
      ∀ recorded, view.recorded event.cache key = some recorded → recorded < event.micros := by
  simp only [isNews, one]
  cases view.recorded event.cache key with
  | none => simp
  | some recorded => simp

/-- An event that is no news finds a time recorded that is not earlier. -/
theorem recorded_of_stale {view : View} {event : Event} {key : String}
    (one : event.key = .entry key) (stale : view.isNews event = false) :
    ∃ recorded, view.recorded event.cache key = some recorded ∧ event.micros ≤ recorded := by
  simp only [isNews, one] at stale
  cases found : view.recorded event.cache key with
  | none => simp [found] at stale
  | some recorded =>
      rw [found] at stale
      exact ⟨recorded, rfl, by simpa using stale⟩

/-- Recorded times only grow. -/
theorem TookOver.grows {after before : View} {event : Event} {key : String}
    (took : after.TookOver before event key) {other : String} {recorded : Int}
    (held : before.recorded event.cache other = some recorded) :
    ∃ later, after.recorded event.cache other = some later ∧ recorded ≤ later := by
  by_cases same : other = key
  · subst same
    exact ⟨event.micros, took.recorded_eq, Int.le_of_lt (took.newer recorded held)⟩
  · exact ⟨recorded, (took.recorded_others other same).trans held, Int.le_refl recorded⟩

end View

namespace Core

variable {core : Core} {cache : String}

/-! ## Messages -/

/-- A message is taken over, or found stale and dropped. -/
theorem receive_cases (compares : core.frame.Compares cache) {event : Event} {key : String}
    (of : event.cache = cache) (one : event.key = .entry key) (dated : event.time.InCalendar)
    {body : List UInt8} (read : Wire.decode body = .ok event.delivered) {clock : Clock}
    (left : core.purgesOn body clock = false) :
    (core.receive body clock).core.frame = core.frame ∧
      ((core.receive body clock).core.view.TookOver core.view event key ∨
        (core.receive body clock).core.view = core.view ∧
          ∃ recorded, core.view.recorded cache key = some recorded ∧ event.micros ≤ recorded) := by
  obtain ⟨config, replicates, compared, _⟩ := compares
  have handled := receive_of_replicates replicates read of left
  have micros := event.micros_delivered dated
  have deliveredOne : event.delivered.key = .entry key := one
  refine ⟨handled.frame_eq, ?_⟩
  rw [handled.view_eq]
  have accepts : Frame.accepts config event.delivered core.view =
      core.view.isNews event.delivered := by
    simp [Frame.accepts, Option.isNone_eq_false_iff.2 compared]
  simp only [accepts, Frame.note, compared, ↓reduceIte]
  cases news : core.view.isNews event.delivered with
  | false =>
      obtain ⟨recorded, found, notEarlier⟩ := View.recorded_of_stale deliveredOne news
      rw [micros] at notEarlier
      subst of
      exact Or.inr ⟨by simp, recorded, found, notEarlier⟩
  | true =>
      have newer := (View.isNews_iff deliveredOne).1 news
      rw [micros] at newer
      have contents := held_apply_of_replicates replicates event.delivered
        (core.view.saved event.delivered)
      subst of
      simp only [↓reduceIte]
      refine Or.inl ⟨one, newer, ?_, ?_, ?_, ?_⟩
      · simp [Frame.apply, View.saved, one, news, micros]
      · rw [contents, if_pos rfl]
        exact Guard.applied_delivered_of_concerns (Or.inr one) _
      · intro other different
        simp [Frame.apply, View.saved, one, different, eq_comm (a := key)]
      · intro other different
        have untouched : ¬ event.Concerns other := by rwa [Event.concerns_entry one]
        rw [contents, if_pos rfl, Guard.applied_delivered_of_not_concerns untouched]
        rfl

/-! ## Events of the application -/

theorem post_eq (compares : core.frame.Compares cache) {event : Event} (of : event.cache = cache)
    (made : event.origin = .localNode) {clock : Clock} (left : core.purges event clock = false) :
    ∃ after, core.post event clock = (after, some (Wire.encode event true)) ∧
      after.frame = core.frame ∧ after.view = core.view.saved event := by
  obtain ⟨config, replicates, compared, _⟩ := compares
  have found : core.config.cache? event.cache = some config := by
    rw [of]
    exact replicates.configured
  obtain ⟨sameFrame, noted, _⟩ := record_spec found left
  have recorded : (core.record config event clock).1.frame.Replicates cache config := by
    rw [sameFrame]
    exact replicates
  have encoded := encode_of_replicated recorded.plain recorded.replicated event
  refine ⟨(core.record config event clock).1, ?_, sameFrame, ?_⟩
  · simp only [post, outbound_of_replicates replicates of made clock, Option.bind_some, encoded,
      Except.toOption]
  · rw [noted, Frame.note, if_pos compared]

/-- A node that makes the latest event of all takes it over. -/
theorem post_takes (compares : core.frame.Compares cache) {clock : Clock} {operated : Operated}
    {event : Event} {key : String} (of : event.cache = cache)
    (one : event.key = .entry key) (made : event.origin = .localNode)
    (frame_eq : operated.core.frame = core.frame)
    (recorded_eq : operated.core.timestamps = core.timestamps)
    (tells : event.Tells (core.held cache) (operated.core.held cache))
    (newer : ∀ recorded, core.view.recorded cache key = some recorded → recorded < event.micros)
    (left : operated.core.purges event clock = false) :
    ∃ after, operated.core.post event clock = (after, some (Wire.encode event true)) ∧
      after.frame = core.frame ∧ after.view.TookOver core.view event key := by
  have operatedCompares : operated.core.frame.Compares cache := by
    rw [frame_eq]
    exact compares
  obtain ⟨after, posted, sameFrame, saved⟩ := post_eq operatedCompares of made left
  subst of
  have sameRecords : operated.core.view.recorded = core.view.recorded := by
    simp only [view, recorded_eq]
  have news : operated.core.view.isNews event = true := by
    rw [View.isNews_iff one, sameRecords]
    exact newer
  refine ⟨after, posted, sameFrame.trans frame_eq, ?_⟩
  rw [saved]
  refine ⟨one, newer, ?_, ?_, ?_, ?_⟩
  · simp [View.saved, one, news]
  · exact Or.inr (tells.after_of_concerns (Or.inr one))
  · intro other different
    simp [View.saved, one, sameRecords, eq_comm (a := key), different]
  · intro other different
    have untouched : ¬ event.Concerns other := by rwa [Event.concerns_entry one]
    exact tells.after_of_not_concerns untouched

end Core

end CacheSync
