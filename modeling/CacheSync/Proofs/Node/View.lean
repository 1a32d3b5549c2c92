import CacheSync.Node.Core
import CacheSync.Proofs.Cache.Changes
import CacheSync.Proofs.Timestamps.Saving

/-!
# What a message changes

A core is split into a `Frame`, which no message changes, and a `View`, which is what can be seen of
it: the contents of its caches and the recorded times.  `Frame.receive` says what an event makes of
a view, and the main statement, `receive_shows`, that this is what handling its message does.  The
theory of coherence is about views only; counters, clocks and the bookkeeping of removals play no
part in it.
-/

namespace CacheSync

open Json (Value)

/-- What of a core stays as it is. -/
@[ext]
structure Frame where
  config : BusConfig
  codec : Codec
  lifecycle : Lifecycle
  linked : Bool
  guard : String → Guard
  listeners : String → Option (List Listener)

/-- What can be seen of a core. -/
@[ext]
structure View where
  held : String → Contents
  recorded : String → String → Option Int

namespace Frame

/-- Whether there is a cache of a name. -/
def has (frame : Frame) (cache : String) : Bool :=
  (frame.listeners cache).isSome

/-- No cache ends the thread that calls it. -/
def Crashless (frame : Frame) : Prop :=
  ∀ cache, (frame.guard cache).Crashless

end Frame

namespace View

/-- Whether an event is later than what is recorded for its key. -/
def isNews (view : View) (event : Event) : Bool :=
  match event.key with
  | .all => true
  | .entry key =>
      match view.recorded event.cache key with
      | none => true
      | some recorded => recorded < event.micros

/-- The time of an event is recorded if the event is news. -/
def saved (view : View) (event : Event) : View where
  held := view.held
  recorded := fun cache key =>
    if cache = event.cache ∧ event.key = .entry key ∧ view.isNews event = true then
      some event.micros
    else view.recorded cache key

end View

namespace Frame

/-- Apply an event to one cache, if it is there. -/
def apply (frame : Frame) (cache : String) (policy : Policy) (event : Event) (view : View) :
    View where
  held := fun other =>
    if other = cache ∧ frame.has cache = true then
      (frame.guard cache).applied policy event (view.held cache)
    else view.held other
  recorded := view.recorded

/-- Apply an event to its cache and invalidate it in the aliases. -/
def spread (frame : Frame) (config : CacheConfig) (event : Event) (view : View) : View :=
  config.aliases.foldl (fun view cache => frame.apply cache .invalidated event view)
    (frame.apply config.name config.policy event view)

/-- Whether an event of a cache is applied. -/
def accepts (config : CacheConfig) (event : Event) (view : View) : Bool :=
  config.comparison.isNone || view.isNews event

/-- Record the time of an event, if its cache compares times. -/
def note (config : CacheConfig) (event : Event) (view : View) : View :=
  if config.comparison.isSome then view.saved event else view

/-- Handle an event from another node. -/
def receive (frame : Frame) (event : Event) (view : View) : View :=
  match frame.config.cache? event.cache with
  | none => view
  | some config =>
      if accepts config event view then frame.spread config event (note config event view) else view

/-- Handle a message: its event, if it can be read. -/
def receiveBody (frame : Frame) (body : List UInt8) (view : View) : View :=
  match Wire.decode body with
  | .error _ => view
  | .ok event => frame.receive event view

end Frame

namespace Core

/-- The contents of a cache; a cache that is not there holds nothing. -/
def held (core : Core) (cache : String) : Contents :=
  fun key => (core.shelf.store? cache).bind fun store => store.get? key

def frame (core : Core) : Frame where
  config := core.config
  codec := core.codec
  lifecycle := core.lifecycle
  linked := core.linked
  guard := core.shelf.guard
  listeners := fun cache => (core.shelf.store? cache).map (·.listeners)

def view (core : Core) : View where
  held := core.held
  recorded := core.timestamps.last?

/-! ## Stores put back -/

theorem held_of_store? {core : Core} {cache : String} {store : Store}
    (found : core.shelf.store? cache = some store) : core.held cache = store.get? := by
  funext key
  simp [held, found]

theorem has_frame {core : Core} {cache : String} :
    core.frame.has cache = (core.shelf.store? cache).isSome := by
  simp [Frame.has, frame]

theorem frame_setStore {core : Core} {cache : String} {store changed : Store}
    (found : core.shelf.store? cache = some store) (name_eq : changed.name = store.name)
    (listeners_eq : changed.listeners = store.listeners) :
    ({ core with shelf := core.shelf.setStore changed } : Core).frame = core.frame := by
  have named : changed.name = cache := name_eq.trans (CacheShelf.name_of_store? found)
  ext1
  · rfl
  · rfl
  · rfl
  · rfl
  · rfl
  · funext other
    simp only [frame, CacheShelf.store?_setStore, named]
    split
    next same =>
      subst same
      simp [found, listeners_eq]
    next => rfl

theorem held_setStore {core : Core} {cache : String} {store changed : Store}
    (found : core.shelf.store? cache = some store) (name_eq : changed.name = store.name)
    (other : String) :
    ({ core with shelf := core.shelf.setStore changed } : Core).held other =
      if other = cache then changed.get? else core.held other := by
  have named : changed.name = cache := name_eq.trans (CacheShelf.name_of_store? found)
  funext key
  simp only [held, CacheShelf.store?_setStore, named]
  split
  · rfl
  · rfl

/-! ## Events that the bus overhears -/

theorem overhear_of_remote (core : Core) {event : Event} (clock : Clock)
    (remote : event.origin = .remoteNode) :
    (core.overhear event clock).frame = core.frame ∧
      (core.overhear event clock).view = core.view := by
  unfold overhear outbound
  split
  · exact ⟨rfl, rfl⟩
  · split
    · exact ⟨rfl, rfl⟩
    · simp only [remote, Origin.isRemote, ↓reduceIte]
      exact ⟨rfl, rfl⟩

theorem foldl_overhear_of_remote (events : List Event) (clock : Clock) :
    ∀ core : Core, (∀ event ∈ events, event.origin = .remoteNode) →
      (events.foldl (fun core event => core.overhear event clock) core).frame = core.frame ∧
        (events.foldl (fun core event => core.overhear event clock) core).view = core.view := by
  induction events with
  | nil =>
      intro core _
      exact ⟨rfl, rfl⟩
  | cons event rest inductionHypothesis =>
      intro core remote
      obtain ⟨sameFrame, sameView⟩ := core.overhear_of_remote clock (remote event (by simp))
      obtain ⟨restFrame, restView⟩ := inductionHypothesis (core.overhear event clock)
        fun other member => remote other (List.mem_cons_of_mem event member)
      exact ⟨restFrame.trans sameFrame, restView.trans sameView⟩

/-! ## Handling -/

/-- Something was handled without a crash, and this is what there is then. -/
structure Handled.Shows (handled : Handled) (frame : Frame) (view : View) : Prop where
  crashed_eq : handled.crashed = false
  frame_eq : handled.core.frame = frame
  view_eq : handled.core.view = view

/-- What a bus hears of a sound change has the origin of the change. -/
theorem origin_of_heard {core : Core} {event : Event} {α : Type} {change : Change α}
    {store : Store} {about : EntryKey} {origin : Origin} {now : Moment} (sound : change.Sound store about origin now)
    (told : event ∈ core.heard change) : event.origin = origin := by
  unfold heard at told
  cases made : change.event with
  | none =>
      rw [made] at told
      cases told
  | some event =>
      rw [made] at told
      rw [List.eq_of_mem_replicate told]
      exact (sound.told event made).2.2.1

theorem applyTo_shows {core : Core} (crashless : core.frame.Crashless) (cache : String)
    (policy : Policy) (event : Event) (clock : Clock) :
    (core.applyTo cache policy event clock).Shows core.frame
      (core.frame.apply cache policy event core.view) := by
  cases found : core.shelf.store? cache with
  | none =>
      rw [applyTo_of_absent found]
      refine ⟨rfl, rfl, ?_⟩
      simp [Frame.apply, has_frame, found]
  | some store =>
      obtain ⟨change, applied, sound, contents⟩ :=
        Guard.apply_spec store event clock.wall (crashless cache) policy
      rw [applyTo_of_change found applied]
      have remote : ∀ told ∈ core.heard change, told.origin = .remoteNode :=
        fun told member => origin_of_heard sound member
      obtain ⟨sameFrame, sameView⟩ := foldl_overhear_of_remote (core.heard change) clock
        { core with shelf := core.shelf.setStore change.store } remote
      refine ⟨rfl, sameFrame.trans (frame_setStore found sound.name_eq sound.listeners_eq),
        sameView.trans ?_⟩
      ext1
      · funext other
        simp only [view, held_setStore found sound.name_eq, Frame.apply, has_frame, found,
          Option.isSome_some, and_true, contents, held_of_store? found]
      · rfl

theorem invalidateAll_shows (caches : List String) (event : Event) (clock : Clock) :
    ∀ core : Core, core.frame.Crashless →
      (core.invalidateAll caches event clock).Shows core.frame
        (caches.foldl (fun view cache => core.frame.apply cache .invalidated event view)
          core.view) := by
  induction caches with
  | nil =>
      intro core _
      exact ⟨rfl, rfl, rfl⟩
  | cons cache rest inductionHypothesis =>
      intro core crashless
      have first := applyTo_shows crashless cache .invalidated event clock
      have others := inductionHypothesis (core.applyTo cache .invalidated event clock).core
        (by rw [first.frame_eq]; exact crashless)
      rw [first.frame_eq, first.view_eq] at others
      simp only [invalidateAll_cons, first.crashed_eq, Bool.false_eq_true, ↓reduceIte,
        List.foldl_cons]
      exact others

theorem spread_shows {core : Core} (crashless : core.frame.Crashless) (config : CacheConfig)
    (event : Event) (clock : Clock) :
    (core.spread config event clock).Shows core.frame
      (core.frame.spread config event core.view) := by
  have first := applyTo_shows crashless config.name config.policy event clock
  have others := invalidateAll_shows config.aliases event clock
    (core.applyTo config.name config.policy event clock).core
    (by rw [first.frame_eq]; exact crashless)
  rw [first.frame_eq, first.view_eq] at others
  simp only [spread_eq_invalidateAll, first.crashed_eq, Bool.false_eq_true, ↓reduceIte]
  exact others

theorem record_spec {core : Core} {config : CacheConfig} {event : Event} {clock : Clock}
    (found : core.config.cache? event.cache = some config)
    (left : core.purges event clock = false) :
    (core.record config event clock).1.frame = core.frame ∧
      (core.record config event clock).1.view = Frame.note config event core.view ∧
        (core.record config event clock).2 = Frame.accepts config event core.view := by
  simp only [purges, found] at left
  unfold record Frame.note Frame.accepts
  cases compared : config.comparison with
  | none => exact ⟨rfl, rfl, rfl⟩
  | some comparison =>
      simp only [compared] at left
      simp only [Option.isSome_some, ↓reduceIte, Option.isNone_some, Bool.false_or]
      cases shape : event.key with
      | all =>
          have saved := core.timestamps.save_all shape comparison clock
          refine ⟨rfl, ?_, by simp [saved, View.isNews, shape]⟩
          ext1
          · rfl
          · funext cache key
            simp [view, View.saved, saved, shape]
      | entry one =>
          have saved := core.timestamps.save_entry shape comparison clock
          have news : core.view.isNews event =
              core.timestamps.isNews event.cache one event.micros := by
            unfold View.isNews TimestampStore.isNews
            rw [shape]
            rfl
          rw [saved] at left
          refine ⟨rfl, ?_, ?_⟩
          · ext1
            · rfl
            · funext cache key
              have recorded := TimestampStore.last?_saveKey _ _ _ _ _ _ left cache key
              simp only [View.saved, news, shape, saved, EntryKey.entry.injEq, eq_comm (a := one)]
              exact recorded
          · rw [saved, TimestampStore.accepted_saveKey, news]

theorem accept_shows (core : Core) {config : CacheConfig} {event : Event} {clock : Clock}
    (crashless : core.frame.Crashless)
    (found : core.config.cache? event.cache = some config)
    (left : core.purges event clock = false) :
    (core.accept config event clock).Shows core.frame (core.frame.receive event core.view) := by
  obtain ⟨sameFrame, noted, news⟩ := record_spec found left
  have lookup : core.frame.config.cache? event.cache = some config := found
  simp only [Frame.receive, lookup]
  rw [accept_eq_spread]
  generalize core.record config event clock = recorded at *
  obtain ⟨after, isNews⟩ := recorded
  dsimp only at sameFrame noted news ⊢
  subst news
  cases accepted : Frame.accepts config event core.view with
  | false =>
      -- A stale event is later than nothing, so it has left the records as they were.
      refine ⟨rfl, sameFrame, noted.trans ?_⟩
      simp only [Frame.accepts, Bool.or_eq_false_iff] at accepted
      unfold Frame.note
      split
      · ext1
        · rfl
        · funext cache key
          simp [View.saved, accepted.2]
      · rfl
  | true =>
      have afterCrashless : after.frame.Crashless := by
        rw [sameFrame]
        exact crashless
      have spread := spread_shows afterCrashless config event clock
      rw [sameFrame, noted] at spread
      exact spread

/-- A started core makes of a message what `Frame.receive` makes of its event. -/
theorem receive_shows {core : Core} {body : List UInt8} {clock : Clock}
    (crashless : core.frame.Crashless) (started : core.isStarted = true)
    (left : core.purgesOn body clock = false) :
    (core.receive body clock).Shows core.frame (core.frame.receiveBody body core.view) := by
  unfold purgesOn at left
  unfold Frame.receiveBody
  cases read : Wire.decode body with
  | error fault =>
      rw [receive_of_undecodable started read]
      exact ⟨rfl, rfl, rfl⟩
  | ok event =>
      simp only [read] at left
      dsimp only
      cases found : core.config.cache? event.cache with
      | none =>
          have lookup : core.frame.config.cache? event.cache = none := found
          rw [receive_of_unconfigured started read found]
          refine ⟨rfl, rfl, ?_⟩
          simp only [Frame.receive, lookup]
          rfl
      | some config =>
          rw [receive_eq_accept started read found]
          exact accept_shows (core.mark .received) crashless found left

end Core

end CacheSync
