import CacheSync.Proofs.Secrecy.Crews
import Mathlib.Data.List.Forall2

/-!
# Nodes that differ in values

Two nodes with invalidated caches only that differ at most in the values they hold: their caches
hold the same keys, and their crews have alike work to do.  Everything else is the same.  Whatever
is done to both at the same time leaves them alike, and makes them send the same messages and judge
the same events stale.
-/

namespace CacheSync

/-- A configuration with invalidated caches only. -/
def BusConfig.IsDiscreet (config : BusConfig) : Prop :=
  ∀ name cache, config.cache? name = some cache → cache.policy = .invalidated

/-! ## Cores -/

/-- Two cores with invalidated caches only that differ at most in what their caches hold. -/
inductive Core.Alike : Core → Core → Prop where
  | intro {core : Core} {shelf : CacheShelf} (shelves : core.shelf.Alike shelf)
      (discreet : core.config.IsDiscreet) : Alike core { core with shelf := shelf }

/-- Two outcomes of handling a message. -/
structure Core.Handled.Alike (first second : Core.Handled) : Prop where
  core : first.core.Alike second.core
  crashed_eq : second.crashed = first.crashed

/-- Two operations, of which the bus hears alike events. -/
structure Core.Operated.Alike (first second : Core.Operated) : Prop where
  core : first.core.Alike second.core
  heard : List.Forall₂ Event.Alike first.heard second.heard

namespace Core.Alike

variable {first second : Core} {event other : Event}

theorem config_eq (alike : first.Alike second) : second.config = first.config := by
  cases alike
  rfl

theorem lifecycle_eq (alike : first.Alike second) : second.lifecycle = first.lifecycle := by
  cases alike
  rfl

theorem meter_eq (alike : first.Alike second) : second.meter = first.meter := by
  cases alike
  rfl

theorem isStarted_eq (alike : first.Alike second) : second.isStarted = first.isStarted := by
  rw [isStarted, isStarted, alike.lifecycle_eq]

theorem withLifecycle (alike : first.Alike second) (lifecycle : Lifecycle) :
    Core.Alike { first with lifecycle := lifecycle } { second with lifecycle := lifecycle } := by
  obtain ⟨shelves, discreet⟩ := alike
  exact .intro shelves discreet

theorem discreet (alike : first.Alike second) : first.config.IsDiscreet := by
  obtain ⟨_, discreet⟩ := alike
  exact discreet

theorem mark (alike : first.Alike second) (made : Mark) :
    (first.mark made).Alike (second.mark made) := by
  obtain ⟨shelves, discreet⟩ := alike
  exact .intro shelves discreet

theorem markAll (alike : first.Alike second) (marks : List Mark) :
    (first.markAll marks).Alike (second.markAll marks) := by
  obtain ⟨shelves, discreet⟩ := alike
  exact .intro shelves discreet

/-- The time of an event is recorded whatever its values are. -/
theorem record (alike : first.Alike second) (same : event.Alike other) (config : CacheConfig)
    (clock : Clock) :
    (first.record config event clock).1.Alike (second.record config other clock).1 ∧
      (second.record config other clock).2 = (first.record config event clock).2 := by
  obtain ⟨old, new, rfl⟩ := same.exists_eq
  obtain ⟨shelves, discreet⟩ := alike
  unfold Core.record
  cases config.comparison with
  | none => exact ⟨.intro shelves discreet, rfl⟩
  | some comparison => exact ⟨.intro shelves discreet, rfl⟩

theorem cleanUp (alike : first.Alike second) (cache : String) (expiration : Duration)
    (clock : Clock) :
    (first.cleanUp cache expiration clock).Alike (second.cleanUp cache expiration clock) := by
  obtain ⟨shelves, discreet⟩ := alike
  exact .intro shelves discreet

/-- Whether an event is let out does not depend on its values. -/
theorem outbound (alike : first.Alike second) (same : event.Alike other) (clock : Clock) :
    (first.outbound event clock).1.Alike (second.outbound other clock).1 ∧
      (second.outbound other clock).2 = (first.outbound event clock).2 ∧
        ∀ config, (first.outbound event clock).2 = some config → config.policy = .invalidated := by
  unfold Core.outbound
  rw [same.cache_eq, same.origin_eq, same.kind_eq]
  have recorded (config : CacheConfig) := alike.record same config clock
  have discreet := alike.discreet
  rw [alike.config_eq, alike.isStarted_eq]
  split
  · exact ⟨alike, rfl, by simp⟩
  · cases configured : first.config.cache? event.cache with
    | none => exact ⟨alike, rfl, by simp⟩
    | some config =>
        dsimp only
        cases event.origin.isRemote with
        | true => exact ⟨alike.mark _, rfl, by simp⟩
        | false =>
            cases config.policy.propagates event.kind with
            | true =>
                refine ⟨(recorded config).1, rfl, ?_⟩
                rintro _ ⟨⟩
                exact discreet _ _ configured
            | false => exact ⟨(recorded config).1.mark _, rfl, by simp⟩

theorem heard_alike (alike : first.Alike second) {α β : Type} {change : Change α}
    {another : Change β} (same : change.Alike another) :
    List.Forall₂ Event.Alike (first.heard change) (second.heard another) := by
  obtain ⟨shelves, discreet⟩ := alike
  unfold Core.heard Core.ears
  rw [same.store.listeners_eq]
  rcases eq_none_or_eq_some_of_rel same.event with
    ⟨none, absent⟩ | ⟨event, other, present, some, events⟩
  · rw [none, absent]
    exact .nil
  · rw [present, some]
    dsimp only
    generalize (if first.linked = true then _ else _ : Nat) = ears
    induction ears with
    | zero => exact .nil
    | succ ears inductionHypothesis => exact .cons events inductionHypothesis

theorem foldl_overhear (events others : List Event) (same : List.Forall₂ Event.Alike events others)
    (clock : Clock) : ∀ {first second : Core}, first.Alike second →
      (events.foldl (fun core event => core.overhear event clock) first).Alike
        (others.foldl (fun core event => core.overhear event clock) second) := by
  induction same with
  | nil => exact id
  | cons alike _ inductionHypothesis =>
      intro first second cores
      exact inductionHypothesis (cores.outbound alike clock).1

theorem setStore (alike : first.Alike second) {store other : Store} (same : store.Alike other) :
    ({ first with shelf := first.shelf.setStore store } : Core).Alike
      { second with shelf := second.shelf.setStore other } := by
  obtain ⟨shelves, discreet⟩ := alike
  exact .intro (shelves.setStore same) discreet

theorem store? (alike : first.Alike second) (name : String) :
    Option.Rel Store.Alike (first.shelf.store? name) (second.shelf.store? name) ∧
      second.shelf.guard name = first.shelf.guard name := by
  obtain ⟨shelves, discreet⟩ := alike
  exact ⟨shelves.store? name, shelves.guard_eq name⟩

/-- An invalidation takes effect whatever the values of its event are. -/
theorem applyTo (alike : first.Alike second) (same : event.Alike other) (cache : String)
    (clock : Clock) : (first.applyTo cache .invalidated event clock).Alike
      (second.applyTo cache .invalidated other clock) := by
  obtain ⟨stores, guard_eq⟩ := alike.store? cache
  rcases eq_none_or_eq_some_of_rel stores with
    ⟨missing, absent⟩ | ⟨store, another, present, there, held⟩
  · rw [Core.applyTo_of_absent missing, Core.applyTo_of_absent absent]
    exact ⟨alike, rfl⟩
  · have effect := Guard.apply_alike held (first.shelf.guard cache) same clock.wall
    rcases eq_none_or_eq_some_of_rel effect with
      ⟨crashed, crashes⟩ | ⟨change, altered, changed, alters, changes⟩
    · rw [← guard_eq] at crashes
      rw [Core.applyTo_of_crash present crashed, Core.applyTo_of_crash there crashes]
      exact ⟨alike, rfl⟩
    · rw [← guard_eq] at alters
      rw [Core.applyTo_of_change present changed, Core.applyTo_of_change there alters]
      refine ⟨?_, rfl⟩
      have told := foldl_overhear _ _ (alike.heard_alike changes.toAlike) clock
        (alike.setStore changes.store)
      rw [changes.answer_eq]
      exact told.mark _

theorem invalidateAll (same : event.Alike other) (clock : Clock) (caches : List String) :
    ∀ {first second : Core}, first.Alike second →
      (first.invalidateAll caches event clock).Alike
        (second.invalidateAll caches other clock) := by
  induction caches with
  | nil =>
      intro first second alike
      exact ⟨alike, rfl⟩
  | cons cache rest inductionHypothesis =>
      intro first second alike
      have applied := alike.applyTo same cache clock
      rw [Core.invalidateAll_cons, Core.invalidateAll_cons]
      dsimp only
      rw [applied.crashed_eq]
      split
      · exact applied
      · exact inductionHypothesis applied.core

/-- A message has the same fate whatever its values are. -/
theorem accept (alike : first.Alike second) (same : event.Alike other) {config : CacheConfig}
    (discreet : config.policy = .invalidated) (clock : Clock) :
    (first.accept config event clock).Alike (second.accept config other clock) := by
  obtain ⟨recorded, news_eq⟩ := alike.record same config clock
  rw [Core.accept_eq_spread, Core.accept_eq_spread]
  dsimp only
  rw [news_eq]
  split
  · rw [Core.spread_eq_invalidateAll, Core.spread_eq_invalidateAll, discreet]
    have applied := recorded.applyTo same config.name clock
    dsimp only
    rw [applied.crashed_eq]
    split
    · exact applied
    · exact invalidateAll same clock _ applied.core
  · exact ⟨recorded.mark _, rfl⟩

theorem receive (alike : first.Alike second) {body another : List UInt8}
    (same : Wire.Alike body another) (clock : Clock) :
    (first.receive body clock).Alike (second.receive another clock) := by
  have received := alike.mark .received
  cases started : first.isStarted with
  | false =>
      rw [Core.receive_of_idle started, Core.receive_of_idle (alike.isStarted_eq.trans started)]
      exact ⟨alike, rfl⟩
  | true =>
      have startedToo : second.isStarted = true := alike.isStarted_eq.trans started
      rcases same.decode with ⟨_, _, unread, refused⟩ | ⟨event, other, read, again, events⟩
      · rw [Core.receive_of_undecodable started unread,
          Core.receive_of_undecodable startedToo refused]
        exact ⟨received.mark _, rfl⟩
      · have lookup : second.config.cache? other.cache = first.config.cache? event.cache := by
          rw [alike.config_eq, events.cache_eq]
        cases configured : first.config.cache? event.cache with
        | none =>
            rw [Core.receive_of_unconfigured started read configured,
              Core.receive_of_unconfigured startedToo again (lookup.trans configured)]
            exact ⟨received, rfl⟩
        | some config =>
            rw [Core.receive_eq_accept started read configured,
              Core.receive_eq_accept startedToo again (lookup.trans configured)]
            exact received.accept events (alike.discreet _ _ configured) clock

/-- An operation does the same to the keys whatever it writes. -/
theorem operate (alike : first.Alike second) {call another : StoreCall} (same : call.Alike another)
    (cache : String) (guarded : Bool) (clock : Clock) :
    Option.Rel Core.Operated.Alike (first.operate cache guarded call clock)
      (second.operate cache guarded another clock) := by
  obtain ⟨stores, guard_eq⟩ := alike.store? cache
  unfold Core.operate
  rw [guard_eq]
  refine rel_map stores fun store other held => ?_
  have performed := Guard.perform_alike held
    (if guarded then first.shelf.guard cache else .none) same clock.wall
  dsimp only
  generalize Guard.perform _ store call clock.wall = outcome at performed
  generalize Guard.perform _ other another clock.wall = result at performed
  cases performed with
  | failed stop => exact ⟨alike, .nil⟩
  | done changes => exact ⟨alike.setStore changes.store, alike.heard_alike changes⟩

end Core.Alike

/-! ## Nodes -/

/-- Two sendings of alike jobs that have come equally far, with the same message. -/
structure Sending.Alike (first second : Sending) : Prop where
  job : first.job.Alike second.job
  recovery_eq : second.recovery = first.recovery
  stage_eq : second.stage = first.stage

theorem Sending.ofJob_alike {job other : Job} (alike : job.Alike other) :
    (ofJob job).Alike (ofJob other) :=
  ⟨alike, rfl, rfl⟩

/-- Two nodes with invalidated caches only that differ at most in values. -/
inductive Node.Alike : Node → Node → Prop where
  | intro {node : Node} {core : Core} {producer : Crew Job Sending}
      {consumer : Crew (List UInt8) (List UInt8)} (cores : node.core.Alike core)
      (producers : node.producer.Alike Job.Alike Sending.Alike producer)
      (consumers : node.consumer.Alike Wire.Alike Wire.Alike consumer) :
      Alike node { node with core := core, producer := producer, consumer := consumer }

namespace Node.Alike

variable {first second : Node}

theorem core (alike : first.Alike second) : first.core.Alike second.core := by
  obtain ⟨cores, _, _⟩ := alike
  exact cores

theorem withCore (alike : first.Alike second) {core other : Core} (cores : core.Alike other) :
    Node.Alike { first with core := core } { second with core := other } := by
  obtain ⟨_, producers, consumers⟩ := alike
  exact .intro cores producers consumers

theorem withProducer (alike : first.Alike second) {producer other : Crew Job Sending}
    (producers : producer.Alike Job.Alike Sending.Alike other) :
    Node.Alike { first with producer := producer } { second with producer := other } := by
  obtain ⟨cores, _, consumers⟩ := alike
  exact .intro cores producers consumers

theorem withConsumer (alike : first.Alike second) {consumer other : Crew (List UInt8) (List UInt8)}
    (consumers : consumer.Alike Wire.Alike Wire.Alike other) :
    Node.Alike { first with consumer := consumer } { second with consumer := other } := by
  obtain ⟨cores, producers, _⟩ := alike
  exact .intro cores producers consumers

theorem producer (alike : first.Alike second) :
    first.producer.Alike Job.Alike Sending.Alike second.producer := by
  obtain ⟨_, producers, _⟩ := alike
  exact producers

theorem consumer (alike : first.Alike second) :
    first.consumer.Alike Wire.Alike Wire.Alike second.consumer := by
  obtain ⟨_, _, consumers⟩ := alike
  exact consumers

theorem channel_eq (alike : first.Alike second) : second.channel = first.channel := by
  cases alike
  rfl

theorem recoveries_eq (alike : first.Alike second) : second.recoveries = first.recoveries := by
  cases alike
  rfl

theorem pipeline_eq (alike : first.Alike second) : second.pipeline = first.pipeline := by
  cases alike
  rfl

theorem withChannel (alike : first.Alike second) (channel : Channel) :
    Node.Alike { first with channel := channel } { second with channel := channel } := by
  obtain ⟨cores, producers, consumers⟩ := alike
  exact .intro cores producers consumers

theorem withRecoveries (alike : first.Alike second) (recoveries : Recoveries) :
    Node.Alike { first with recoveries := recoveries }
      { second with recoveries := recoveries } := by
  obtain ⟨cores, producers, consumers⟩ := alike
  exact .intro cores producers consumers

theorem mark (alike : first.Alike second) (made : Mark) :
    (first.mark made).Alike (second.mark made) :=
  alike.withCore (alike.core.mark made)

theorem markAll (alike : first.Alike second) (marks : List Mark) :
    (first.markAll marks).Alike (second.markAll marks) :=
  alike.withCore (alike.core.markAll marks)

theorem log (alike : first.Alike second) (call : ChannelCall) :
    (first.log call).Alike (second.log call) := by
  unfold Node.log
  rw [alike.channel_eq]
  exact alike.withChannel _

/-! ### Listeners -/

theorem registerOn (alike : first.Alike second) (cache : String) :
    (first.registerOn cache).Alike (second.registerOn cache) := by
  obtain ⟨stores, _⟩ := alike.core.store? cache
  have registered_eq : second.isRegistered cache = first.isRegistered cache := by
    cases alike
    rfl
  unfold Node.registerOn
  rw [registered_eq]
  split
  · exact alike
  · rcases eq_none_or_eq_some_of_rel stores with
      ⟨none, absent⟩ | ⟨store, other, present, some, held⟩
    · simp only [none, absent]
      exact alike
    · simp only [present, some]
      obtain ⟨listened, id_eq⟩ := held.listen .bus
      rw [id_eq]
      have cores := alike.core.setStore listened
      obtain ⟨_, producers, consumers⟩ := alike
      exact .intro cores producers consumers

theorem foldl_registerOn (caches : List String) : ∀ {first second : Node}, first.Alike second →
    (caches.foldl Node.registerOn first).Alike (caches.foldl Node.registerOn second) := by
  induction caches with
  | nil => exact id
  | cons cache rest inductionHypothesis =>
      intro first second alike
      exact inductionHypothesis (alike.registerOn cache)

theorem register (alike : first.Alike second) :
    first.register.1.Alike second.register.1 := by
  unfold Node.register
  rw [alike.core.lifecycle_eq, alike.core.config_eq]
  split
  · exact alike
  · exact foldl_registerOn _ alike

theorem attach (alike : first.Alike second) (cache : String) :
    (((first.attach cache).map (·.1)).getD first).Alike
      (((second.attach cache).map (·.1)).getD second) := by
  obtain ⟨stores, _⟩ := alike.core.store? cache
  unfold Node.attach
  rcases eq_none_or_eq_some_of_rel stores with ⟨none, absent⟩ | ⟨store, other, present, some, held⟩
  · rw [none, absent]
    exact alike
  · rw [present, some]
    exact alike.withCore (alike.core.setStore (held.listen .bus).1)

theorem foldl_unregisterFrom (registrations : List Registration) :
    ∀ {first second : CacheShelf}, first.Alike second →
      (registrations.foldl Node.unregisterFrom first).Alike
        (registrations.foldl Node.unregisterFrom second) := by
  induction registrations with
  | nil => exact id
  | cons registration rest inductionHypothesis =>
      intro first second alike
      apply inductionHypothesis
      unfold Node.unregisterFrom
      rcases eq_none_or_eq_some_of_rel (alike.store? registration.cache) with
        ⟨none, absent⟩ | ⟨store, other, present, some, held⟩
      · simp only [none, absent]
        exact alike
      · simp only [present, some]
        exact alike.setStore (held.unlisten _)

theorem forget (alike : first.Alike second) : first.forget.Alike second.forget := by
  obtain ⟨⟨shelves, discreet⟩, producers, consumers⟩ := alike
  exact .intro (.intro (foldl_unregisterFrom _ shelves) discreet) producers consumers

/-! ### Starting and stopping -/

theorem closeChannel (alike : first.Alike second) (member : Member) (hub : Hub Member Member) :
    (first.closeChannel member hub).1.Alike (second.closeChannel member hub).1 ∧
      (second.closeChannel member hub).2 = (first.closeChannel member hub).2 := by
  have logged := alike.log .close
  unfold Node.closeChannel
  dsimp only
  rw [alike.channel_eq, logged.channel_eq]
  split
  · exact ⟨logged, rfl⟩
  · exact ⟨logged.withChannel _, rfl⟩

theorem withCrews (alike : first.Alike second) :
    Outcomes Node.Alike first.withCrews second.withCrews := by
  obtain ⟨cores, _, _⟩ := alike
  unfold Node.withCrews
  rw [cores.config_eq]
  cases producing : (Crew.make .producer first.core.config.producer :
      Except ConfigError (Crew Job Sending)) with
  | error error => exact .failed error
  | ok producer =>
      cases consuming : (Crew.make .consumer first.core.config.consumer :
          Except ConfigError (Crew (List UInt8) (List UInt8))) with
      | error error => exact .failed error
      | ok consumer => exact .done (.intro cores (.of_make producing) (.of_make consuming))

theorem activate (alike : first.Alike second) :
    Outcomes Node.Alike first.activate second.activate := by
  unfold Node.activate
  rw [alike.channel_eq]
  split
  · exact .failed _
  · cases first.channel.activate with
    | error error => exact .failed (CallFault.error error)
    | ok channel => exact .done (alike.withChannel channel)

theorem run (alike : first.Alike second) : first.run.Alike second.run := by
  have cores := alike.core.withLifecycle .started
  obtain ⟨_, producers, consumers⟩ := alike
  exact .intro cores producers consumers

theorem giveUp (alike : first.Alike second) (member : Member) (hub : Hub Member Member)
    (error : BusError) :
    (first.giveUp member hub error).1.Alike (second.giveUp member hub error).1 ∧
      (second.giveUp member hub error).2 = (first.giveUp member hub error).2 := by
  have closing := alike.closeChannel member hub
  unfold Node.giveUp
  generalize first.closeChannel member hub = one at closing
  generalize second.closeChannel member hub = another at closing
  obtain ⟨_, _, _⟩ := one
  obtain ⟨_, _, _⟩ := another
  obtain ⟨closed, same⟩ := closing
  cases same
  exact ⟨closed, rfl⟩

theorem join (alike : first.Alike second) (member : Member) (hub : Hub Member Member) :
    (first.join member hub).1.Alike (second.join member hub).1 ∧
      (second.join member hub).2 = (first.join member hub).2 := by
  have subscribe_eq : second.subscribe member hub = first.subscribe member hub := by
    unfold Node.subscribe
    rw [alike.channel_eq]
  have crews := alike.withCrews
  unfold Node.join
  rw [subscribe_eq]
  generalize first.withCrews = one at crews
  generalize second.withCrews = another at crews
  cases crews with
  | failed error => exact alike.giveUp member hub _
  | done crewed =>
      dsimp only
      cases first.subscribe member hub with
      | error fault =>
          cases fault with
          | crash => exact ⟨alike.log .subscribe, rfl⟩
          | error error => exact (alike.log .subscribe).giveUp member hub _
      | ok joined => exact ⟨(crewed.log .subscribe).run, rfl⟩

theorem start (alike : first.Alike second) (member : Member) (hub : Hub Member Member) :
    (first.start member hub).1.Alike (second.start member hub).1 ∧
      (second.start member hub).2 = (first.start member hub).2 := by
  have active := alike.activate
  unfold Node.start
  rw [alike.core.lifecycle_eq]
  cases first.core.lifecycle with
  | started => exact ⟨alike, rfl⟩
  | stopped => exact ⟨alike, rfl⟩
  | created =>
      generalize first.activate = one at active
      generalize second.activate = another at active
      cases active with
      | failed error => exact ⟨alike.log .activate, rfl⟩
      | done activated => exact (activated.log .activate).join member hub

theorem beginStop (alike : first.Alike second) :
    Outcomes Node.Alike first.beginStop second.beginStop := by
  have cores := alike.core.withLifecycle .stopped
  unfold Node.beginStop
  rw [alike.core.lifecycle_eq]
  cases first.core.lifecycle with
  | created => exact .failed _
  | stopped => exact .failed _
  | started =>
      obtain ⟨_, producers, consumers⟩ := alike
      exact .done (.intro cores producers consumers.close)

theorem closeProducer (alike : first.Alike second) :
    first.closeProducer.Alike second.closeProducer :=
  alike.withProducer alike.producer.close

theorem finishStop (alike : first.Alike second) (member : Member) (hub : Hub Member Member) :
    (first.finishStop member hub).1.Alike (second.finishStop member hub).1 ∧
      (second.finishStop member hub).2 = (first.finishStop member hub).2 := by
  have closing := alike.closeChannel member hub
  unfold Node.finishStop
  generalize first.closeChannel member hub = one at closing
  generalize second.closeChannel member hub = another at closing
  obtain ⟨_, _, crashed⟩ := one
  obtain ⟨_, _, _⟩ := another
  obtain ⟨closed, same⟩ := closing
  cases same
  refine ⟨?_, rfl⟩
  cases crashed with
  | true => exact closed
  | false => exact closed.forget

end Node.Alike
end CacheSync
