import CacheSync.Proofs.Node.Hearing
import CacheSync.Proofs.Node.Independent
import CacheSync.Proofs.Node.Replication
import CacheSync.Proofs.Timestamps.Removal

/-!
# The latest event wins

For a cache that compares times, a node applies an event of another node exactly if it is later
than everything it has sent or received of the same key.  `Deed` is what can happen to a core in
the meantime: events to be sent, messages, and removals of old records, each at a time of its own.
A removal may forget what happened before its bound, and then only events above the bound are
decided by all of the past; `Core.bounds` lists the bounds that were in force.
-/

namespace CacheSync

namespace Deed

/-- The event whose time a deed has recorded: one of the node itself, or one from another node. -/
def event? : Deed → Option Event
  | .send event _ => if event.origin.isRemote then none else some event
  | .receive body _ => (Wire.decode body).toOption
  | .cleanUp _ _ _ => none

def clock : Deed → Clock
  | .send _ clock => clock
  | .receive _ clock => clock
  | .cleanUp _ _ clock => clock

/-- The time that a deed offers for a key, if it does. -/
def offers (cache key : String) (deed : Deed) : List Int :=
  match deed.event? with
  | none => []
  | some event => if event.cache = cache ∧ event.key = .entry key then [event.micros] else []

end Deed

open TimestampStore (Tracks isLater)

namespace Core

/-- The bound of the removal that a deed is or brings about at once, if it does. -/
def boundsOf (core : Core) (cache : String) (comparison : Comparison) (deed : Deed) : List Int :=
  match deed with
  | .cleanUp name expiration clock =>
      if name = cache then [CacheRecords.cutoff expiration clock] else []
  | deed =>
      match deed.event? with
      | none => []
      | some event =>
          if event.cache = cache ∧ core.purges event deed.clock = true then
            [CacheRecords.cutoff comparison.expiration deed.clock]
          else []

/-- The bounds of all removals in the course of some deeds. -/
def bounds (core : Core) (cache : String) (comparison : Comparison) : List Deed → List Int
  | [] => []
  | deed :: rest =>
      core.boundsOf cache comparison deed ++ (core.undergo deed).bounds cache comparison rest

/-- The event of a message is applied to its cache, and invalidated in the aliases. -/
def Applies (core : Core) (config : CacheConfig) (body : List UInt8) (event : Event)
    (clock : Clock) : Prop :=
  core.receive body clock = ((core.mark .received).record config event clock).1.spread config
    event clock

/-! ## What is recorded -/

variable {core : Core} {cache key : String} {config : CacheConfig} {comparison : Comparison}
  {offers bounds : List Int} {event : Event} {clock : Clock}

/-- To record an event of another cache changes nothing that is recorded of this one. -/
theorem last?_record_of_ne (config : CacheConfig) (clock : Clock) (different : event.cache ≠ cache)
    (key : String) :
    (core.record config event clock).1.timestamps.last? cache key =
      core.timestamps.last? cache key := by
  unfold record
  cases config.comparison with
  | none => rfl
  | some comparison =>
      cases shape : event.key with
      | all =>
          dsimp only
          rw [TimestampStore.save_all _ shape]
      | entry one =>
          dsimp only
          rw [TimestampStore.save_entry _ shape]
          exact TimestampStore.last?_saveKey_of_ne _ _ _ _ _ _ _ _ different.symm

/-- To record an event offers its time for its key, and may bring about a removal. -/
theorem record_tracks {other : CacheConfig} (configured : core.config.cache? cache = some config)
    (compared : config.comparison = some comparison)
    (found : core.config.cache? event.cache = some other)
    (tracks : Tracks (core.timestamps.last? cache key) offers bounds) :
    Tracks ((core.record other event clock).1.timestamps.last? cache key)
      (offers ++ if event.cache = cache ∧ event.key = .entry key then [event.micros] else [])
      (bounds ++ if event.cache = cache ∧ core.purges event clock = true then
        [CacheRecords.cutoff comparison.expiration clock] else []) := by
  by_cases about : event.cache = cache
  · subst about
    have same : other = config := Option.some.inj (found.symm.trans configured)
    subst same
    unfold record purges
    simp only [configured, compared, true_and]
    cases shape : event.key with
    | all =>
        simp only [TimestampStore.save_all _ shape, reduceCtorEq, ↓reduceIte, List.append_nil,
          TimestampStore.FollowUp.isCleaned, Bool.false_eq_true]
        exact tracks
    | entry one =>
        have saved := Tracks.saveKey core.timestamps event.cache one key event.micros comparison
          clock tracks
        simp only [TimestampStore.save_entry _ shape, EntryKey.entry.injEq, eq_comm (a := one)]
        exact saved
  · simp only [about, false_and, ↓reduceIte, List.append_nil]
    rw [last?_record_of_ne other clock about]
    exact tracks

theorem undergo_frame (core : Core) (deed : Deed) : (core.undergo deed).frame = core.frame := by
  cases deed with
  | send event clock => exact (core.outbound_stands event clock).frame_eq
  | receive body clock => exact core.receive_frame body clock
  | cleanUp cache expiration clock => rfl

theorem undergoAll_frame (deeds : List Deed) :
    ∀ core : Core, (core.undergoAll deeds).frame = core.frame := by
  induction deeds with
  | nil =>
      intro core
      rfl
  | cons deed rest inductionHypothesis =>
      intro core
      exact (inductionHypothesis (core.undergo deed)).trans (core.undergo_frame deed)

/-- What a deed with an event leaves recorded is what recording the event does. -/
theorem timestamps_undergo {deed : Deed} {other : CacheConfig} (started : core.isStarted = true)
    (offered : deed.event? = some event) (found : core.config.cache? event.cache = some other) :
    (core.undergo deed).timestamps = (core.record other event deed.clock).1.timestamps := by
  cases deed with
  | send sent clock =>
      cases remote : sent.origin.isRemote with
      | true => simp [Deed.event?, remote] at offered
      | false =>
          simp only [Deed.event?, remote, Bool.false_eq_true, ↓reduceIte,
            Option.some.injEq] at offered
          subst offered
          exact timestamps_outbound started found remote
  | receive body clock =>
      have read : Wire.decode body = .ok event := by
        cases outcome : Wire.decode body with
        | error fault => simp [Deed.event?, outcome, Except.toOption] at offered
        | ok held => simpa [Deed.event?, outcome, Except.toOption] using offered
      have same : ((core.mark .received).record other event clock).1.timestamps =
          (core.record other event clock).1.timestamps := by
        unfold record
        cases other.comparison <;> rfl
      have received : core.undergo (.receive body clock) = _ :=
        congrArg Handled.core (receive_of_configured started read found)
      rw [received]
      dsimp only [Deed.clock]
      split
      · exact (spread_spares _ _ _ _).timestamps_eq.trans same
      · exact same
  | cleanUp name expiration clock => cases offered

/-- A deed without an event of a configured cache records nothing. -/
theorem timestamps_undergo_of_none {deed : Deed} (removesNothing : ∀ name expiration clock,
      deed ≠ .cleanUp name expiration clock)
    (unknown : ∀ event, deed.event? = some event → core.config.cache? event.cache = none) :
    (core.undergo deed).timestamps = core.timestamps := by
  cases deed with
  | send event clock =>
      cases origin : event.origin with
      | remoteNode => exact (core.overhear_spares clock origin).timestamps_eq
      | localNode =>
          have unknown := unknown event (by simp [Deed.event?, origin, Origin.isRemote])
          simp only [undergo, outbound, unknown]
          split <;> rfl
  | receive body clock =>
      exact core.receive_timestamps_of_unknown body clock
        fun event read => unknown event (by simp [Deed.event?, read, Except.toOption])
  | cleanUp name expiration clock => exact absurd rfl (removesNothing name expiration clock)

/-- A deed offers the time of its event, and may set a bound. -/
theorem undergo_tracks (started : core.isStarted = true)
    (configured : core.config.cache? cache = some config)
    (compared : config.comparison = some comparison)
    (tracks : Tracks (core.timestamps.last? cache key) offers bounds) (deed : Deed) :
    Tracks ((core.undergo deed).timestamps.last? cache key) (offers ++ deed.offers cache key)
      (bounds ++ core.boundsOf cache comparison deed) := by
  by_cases removal : ∃ name expiration clock, deed = .cleanUp name expiration clock
  · obtain ⟨name, expiration, clock, rfl⟩ := removal
    have left : (core.undergo (.cleanUp name expiration clock)).timestamps.last? cache key = _ :=
      TimestampStore.last?_finishCleanup core.timestamps name cache key expiration clock
    rw [left]
    simp only [Deed.offers, Deed.event?, boundsOf, List.append_nil]
    by_cases here : cache = name
    · subst here
      simp only [↓reduceIte]
      exact tracks.remove _
    · simp only [here, Ne.symm here, ↓reduceIte, List.append_nil]
      exact tracks
  · have others : core.boundsOf cache comparison deed =
        match deed.event? with
        | none => []
        | some event =>
            if event.cache = cache ∧ core.purges event deed.clock = true then
              [CacheRecords.cutoff comparison.expiration deed.clock]
            else [] := by
      cases deed with
      | send event clock => rfl
      | receive body clock => rfl
      | cleanUp name expiration clock => exact absurd ⟨name, expiration, clock, rfl⟩ removal
    have removesNothing : ∀ name expiration clock, deed ≠ .cleanUp name expiration clock :=
      fun name expiration clock same => removal ⟨name, expiration, clock, same⟩
    rw [others, Deed.offers]
    cases offered : deed.event? with
    | none =>
        rw [timestamps_undergo_of_none removesNothing fun event some => by
          rw [offered] at some; cases some]
        simpa only [List.append_nil] using tracks
    | some event =>
        cases found : core.config.cache? event.cache with
        | some other =>
            rw [timestamps_undergo started offered found]
            exact record_tracks configured compared found tracks
        | none =>
            have elsewhere : event.cache ≠ cache := by
              rintro rfl
              rw [configured] at found
              cases found
            rw [timestamps_undergo_of_none removesNothing fun other same => by
              rw [offered] at same
              injection same with same
              rw [← same, found]]
            simp only [elsewhere, false_and, ↓reduceIte, List.append_nil]
            exact tracks

/-- In the course of any deeds, what is recorded is the latest of what was offered, apart from what
a removal may have forgotten. -/
theorem undergoAll_tracks (deeds : List Deed) : ∀ {core : Core} {offers bounds : List Int},
    core.isStarted = true → core.config.cache? cache = some config →
    config.comparison = some comparison →
    Tracks (core.timestamps.last? cache key) offers bounds →
    Tracks ((core.undergoAll deeds).timestamps.last? cache key)
      (offers ++ deeds.flatMap (Deed.offers cache key))
      (bounds ++ core.bounds cache comparison deeds) := by
  induction deeds with
  | nil =>
      intro core offers bounds _ _ _ tracks
      simpa only [undergoAll, Core.bounds, List.foldl_nil, List.flatMap_nil, List.append_nil]
        using tracks
  | cons deed rest inductionHypothesis =>
      intro core offers bounds started configured compared tracks
      have frame := core.undergo_frame deed
      have stillStarted := (isStarted_of_frame frame).trans started
      have stillConfigured : (core.undergo deed).config.cache? cache = some config := by
        rw [config_of_frame frame, configured]
      have after := inductionHypothesis stillStarted stillConfigured compared
        (undergo_tracks started configured compared tracks deed)
      simpa only [undergoAll, Core.bounds, List.foldl_cons, List.flatMap_cons, List.append_assoc]
        using after

/-! ## What is applied -/

theorem record_news (clock : Clock) (compared : config.comparison = some comparison) :
    (core.record config event clock).2 =
      match event.key with
      | .all => true
      | .entry key => isLater (core.timestamps.last? event.cache key) event.micros := by
  simp only [record, compared]
  cases shape : event.key with
  | all => rw [TimestampStore.save_all _ shape]
  | entry key =>
      rw [TimestampStore.save_entry _ shape, TimestampStore.accepted_saveKey]
      rfl

/-- An event is applied exactly if it is news, for a stale one is counted and nothing else. -/
theorem applies_iff {body : List UInt8} (started : core.isStarted = true)
    (read : Wire.decode body = .ok event)
    (configured : core.config.cache? event.cache = some config) :
    core.Applies config body event clock ↔
      ((core.mark .received).record config event clock).2 = true := by
  rw [Applies, receive_of_configured started read configured]
  dsimp only
  constructor
  · intro same
    apply Decidable.byContradiction
    intro stale
    rw [if_neg stale] at same
    have counts := congrArg
      (fun handled : Handled => handled.core.meter.count (.stale config.name)) same
    have spared := (spread_spares ((core.mark .received).record config event clock).1 config event
      clock).count_eq (.stale config.name) rfl
    simp only [Core.mark, Meter.count_mark, ↓reduceIte] at counts spared
    omega
  · intro news
    rw [if_pos news]

/-- An event that is not applied leaves every cache as it was. -/
theorem shelf_of_not_applies {body : List UInt8} (started : core.isStarted = true)
    (read : Wire.decode body = .ok event)
    (configured : core.config.cache? event.cache = some config)
    (stale : ¬core.Applies config body event clock) :
    (core.receive body clock).core.shelf = core.shelf ∧
      (core.receive body clock).crashed = false := by
  rw [applies_iff started read configured] at stale
  rw [receive_of_configured started read configured]
  dsimp only
  rw [if_neg stale]
  exact ⟨(record_stands (core.mark .received) config event clock).shelf_eq, rfl⟩

/-- What an event that is applied makes of the caches, if none of them crashes. -/
theorem held_of_applies {body : List UInt8} (crashless : core.frame.Crashless)
    (applies : core.Applies config body event clock) :
    (core.receive body clock).crashed = false ∧
      (core.receive body clock).core.held = (core.frame.spread config event core.view).held := by
  have recorded := record_stands (core.mark .received) config event clock
  have frame : ((core.mark .received).record config event clock).1.frame = core.frame :=
    recorded.frame_eq
  have held : ((core.mark .received).record config event clock).1.held = core.held :=
    recorded.held_eq
  have shown := spread_shows (frame ▸ crashless) config event clock
  rw [frame] at shown
  rw [show core.receive body clock = _ from applies]
  refine ⟨shown.crashed_eq, ?_⟩
  funext cache key
  have same := congrFun (congrFun (congrArg View.held shown.view_eq) cache) key
  rw [Frame.held_spread] at same ⊢
  rw [show core.view.held = core.held from rfl, ← held]
  exact same

/-! ## The latest event wins -/

/-- How a core decides about a message, given the times offered for each key and the bounds of all
removals. -/
structure Decides (core : Core) (config : CacheConfig) (offered : String → List Int)
    (bounds : List Int) (body : List UInt8) (event : Event) (clock : Clock) : Prop where
  wildcard : event.key = .all → core.Applies config body event clock
  latest : ∀ key, event.key = .entry key → (∀ bound ∈ bounds, bound ≤ event.micros) →
    (core.Applies config body event clock ↔ ∀ time ∈ offered key, time < event.micros)
  stale : ¬core.Applies config body event clock →
    (core.receive body clock).core.shelf = core.shelf ∧ (core.receive body clock).crashed = false
  applied : core.frame.Crashless → core.Applies config body event clock →
    (core.receive body clock).crashed = false ∧
      (core.receive body clock).core.held = (core.frame.spread config event core.view).held

theorem decides_of_tracks {offered : String → List Int} {body : List UInt8}
    (started : core.isStarted = true) (configured : core.config.cache? event.cache = some config)
    (compared : config.comparison = some comparison)
    (tracks : ∀ key, Tracks (core.timestamps.last? event.cache key) (offered key) bounds)
    (read : Wire.decode body = .ok event) :
    core.Decides config offered bounds body event clock where
  wildcard all := by
    rw [applies_iff started read configured, record_news clock compared, all]
  latest key one above := by
    rw [applies_iff started read configured, record_news clock compared, one]
    exact (tracks key).isLater_iff above
  stale := shelf_of_not_applies started read configured
  applied := held_of_applies

/-- An event from another node that is above the bounds of all removals so far is applied to its
cache and every alias of it exactly if it is later than all that was sent or received of its key,
and otherwise no cache changes.  An event about every key is always applied.  Events of remote
origin that are to be sent count for nothing in this. -/
theorem decides_of_undergoAll (started : core.isStarted = true)
    (configured : core.config.cache? cache = some config)
    (compared : config.comparison = some comparison)
    (fresh : ∀ key, core.timestamps.last? cache key = none) (deeds : List Deed) :
    (∀ body event clock, Wire.decode body = .ok event → event.cache = cache →
      (core.undergoAll deeds).Decides config
        (fun key => deeds.flatMap (Deed.offers cache key)) (core.bounds cache comparison deeds)
        body event clock) ∧
    ∀ event clock, event.origin = .remoteNode →
      (Deed.send event clock).event? = none ∧
        ((core.undergoAll deeds).undergo (.send event clock)).timestamps =
          (core.undergoAll deeds).timestamps ∧
        ((core.undergoAll deeds).undergo (.send event clock)).shelf =
          (core.undergoAll deeds).shelf := by
  have frame := core.undergoAll_frame deeds
  refine ⟨?_, ?_⟩
  · rintro body event clock read rfl
    have stillStarted := (isStarted_of_frame frame).trans started
    have stillConfigured : (core.undergoAll deeds).config.cache? event.cache = some config := by
      rw [config_of_frame frame, configured]
    apply decides_of_tracks stillStarted stillConfigured compared ?_ read
    intro key
    have none : Tracks (core.timestamps.last? event.cache key) [] [] := by
      rw [fresh key]
      exact .nil
    simpa only [List.nil_append] using
      undergoAll_tracks deeds started configured compared none
  · intro event clock remote
    refine ⟨by simp [Deed.event?, remote, Origin.isRemote], ?_, ?_⟩
    · exact (overhear_spares _ clock remote).timestamps_eq
    · exact (outbound_stands _ event clock).shelf_eq

/-- An eviction by the node itself. -/
def evicting (time : Moment) : Event :=
  ⟨"users", .entry "ada", .evicted, time, .localNode, none, none⟩

/-- An eviction of five microseconds is to be sent, and what is older than four microseconds is
removed.  A message of four microseconds is stale then, and one of seven is applied. -/
theorem decides_of_undergoAll_sample :
    let deeds := [.send (evicting 5000) ⟨5000, 0⟩, .cleanUp "users" ⟨2000⟩ ⟨6000, 0⟩]
    let now := (sample true).undergoAll deeds
    ¬now.Applies (.sample true) (Wire.encode (evicting 4000) false) (evicting 4000).delivered
        ⟨8000, 0⟩ ∧
      now.Applies (.sample true) (Wire.encode (evicting 7000) false) (evicting 7000).delivered
        ⟨8000, 0⟩ := by
  intro deeds now
  have decided := (@decides_of_undergoAll (sample true) "users" (.sample true) .default rfl rfl rfl
    (fun _ => rfl) deeds).1
  have early := decided (Wire.encode (evicting 4000) false) (evicting 4000).delivered ⟨8000, 0⟩
    (Wire.decode_encode (by decide) nofun) rfl
  have late := decided (Wire.encode (evicting 7000) false) (evicting 7000).delivered ⟨8000, 0⟩
    (Wire.decode_encode (by decide) nofun) rfl
  constructor
  · rw [early.latest "ada" rfl (by decide +kernel)]
    decide +kernel
  · rw [late.latest "ada" rfl (by decide +kernel)]
    decide +kernel

end Core

end CacheSync
