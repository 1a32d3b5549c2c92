import CacheSync.Proofs.Timestamps.History

/-!
# Old records are removed in time

Where old records are removed on the thread that saves, a removal is never left running: a save
that leaves more records than expected removes the old ones, unless the last removal was too
recent, and a removal that is asked for is carried out.  `tended` follows in a run of deeds when
the records of a cache were last looked after, and `Tidy` says what holds of every store that a run
leaves behind.
-/

namespace CacheSync

namespace CacheRecords

theorem save_cases (records : CacheRecords) (key : String) (micros : Int) :
    (records.save key micros).1.lastCleanup = records.lastCleanup ∧
      (records.save key micros).1.cleaning = records.cleaning ∧
      (records.save key micros).1.latest.pairs =
        if records.isNews key micros = true then Table.put key micros records.latest.pairs
        else records.latest.pairs := by
  unfold save
  split
  · exact ⟨rfl, rfl, rfl⟩
  · exact ⟨rfl, rfl, rfl⟩

theorem removed_purge (records : CacheRecords) (expiration : Duration) (clock : Clock) :
    (records.purge expiration clock).2 =
      records.latest.pairs.countP (·.2 < cutoff expiration clock) := by
  have whole := records.latest.pairs.length_eq_countP_add_countP
    (cutoff expiration clock ≤ ·.2)
  have kept : (records.purge expiration clock).1.latest.size =
      records.latest.pairs.countP (cutoff expiration clock ≤ ·.2) :=
    List.countP_eq_length_filter.symm
  have below : (fun pair : String × Int => decide (pair.2 < cutoff expiration clock)) =
      fun pair => decide ¬ decide (cutoff expiration clock ≤ pair.2) = true := by
    funext pair
    simp
  have removed : (records.purge expiration clock).2 =
      records.latest.pairs.length - (records.purge expiration clock).1.latest.size := rfl
  rw [removed, kept, below]
  omega

end CacheRecords

namespace TimestampStore

/-! ## When records were looked after -/

/-- When the records of a cache were last looked after, that is since when there are any or when
old ones were last removed, once a deed is done. -/
def tendedBy (store : TimestampStore) (cache : String) (before : Option Moment) :
    Deed → Option Moment
  | .save event comparison clock =>
      if event.cache = cache ∧ event.key ≠ .all then
        if (store.save event comparison clock).followUp.isCleaned then some clock.steady
        else some (before.getD clock.steady)
      else before
  | .cleanUp name expiration clock =>
      if name = cache ∧ (store.cleanup? name expiration clock).isSome = true then
        some clock.steady
      else before
  | .finish name _ clock => if name = cache then before.map fun _ => clock.steady else before
  | .clear => none

/-- When the records of a cache were last looked after in the course of some deeds. -/
def tended (store : TimestampStore) (cache : String) (before : Option Moment) :
    List Deed → Option Moment
  | [] => before
  | deed :: rest =>
      (store.undergo deed).tended cache (store.tendedBy cache before deed) rest

/-- The records of a cache and a new one of a key, which replaces an earlier one if it is later. -/
def recording (store : TimestampStore) (cache key : String) (micros : Int) :
    List (String × Int) :=
  if store.isNews cache key micros = true then Table.put key micros (store.records cache)
  else store.records cache

/-- The table of a cache once an event is recorded. -/
def recorded (store : TimestampStore) (cache key : String) (micros : Int) (clock : Clock) :
    CacheRecords :=
  ((store.table cache clock).save key micros).1

/-- A deed does nothing to a cache. -/
def Deed.Spares (cache : String) : Deed → Prop
  | .save event _ _ => event.cache ≠ cache ∨ event.key = .all
  | .cleanUp name _ _ => name ≠ cache
  | .finish name _ _ => name ≠ cache
  | .clear => False

/-- Nothing is left to be removed on another thread, and every table knows when it was last looked
after. -/
structure Attended (store : TimestampStore) (settings : CleanupSettings)
    (tended : String → Option Moment) : Prop where
  foreground : settings.background = false
  settings_eq : store.settings = settings
  idle : ∀ cache records, store.tables.get? cache = some records → records.cleaning = false
  tended_eq : ∀ cache, (store.tables.get? cache).map (·.lastCleanup) = tended cache

variable {store : TimestampStore} {settings : CleanupSettings} {tended : String → Option Moment}
  {cache key : String}

theorem records_of_get? {records : CacheRecords} (held : store.tables.get? cache = some records) :
    store.records cache = records.latest.pairs := by
  unfold TimestampStore.records
  rw [held]

theorem pairs_recorded (store : TimestampStore) (cache key : String) (micros : Int)
    (clock : Clock) :
    (store.recorded cache key micros clock).latest.pairs = store.recording cache key micros := by
  have pairs : (store.table cache clock).latest.pairs = store.records cache := by
    unfold table records
    cases store.tables.get? cache with
    | none => rfl
    | some records => rfl
  rw [recorded, ((store.table cache clock).save_cases key micros).2.2, isNews_table, pairs]
  rfl

/-! ## What is done to the tables -/

theorem get?_finishCleanup (store : TimestampStore) (cache other : String) (expiration : Duration)
    (clock : Clock) :
    (store.finishCleanup cache expiration clock).store.tables.get? other =
      if other = cache then
        (store.tables.get? cache).map fun records => (records.purge expiration clock).1
      else store.tables.get? other := by
  unfold finishCleanup
  cases held : store.tables.get? cache with
  | none =>
      by_cases same : other = cache
      · rw [if_pos same, same, held]
        rfl
      · rw [if_neg same]
  | some records => simp

theorem settings_finishCleanup (store : TimestampStore) (cache : String) (expiration : Duration)
    (clock : Clock) :
    (store.finishCleanup cache expiration clock).store.settings = store.settings := by
  unfold finishCleanup
  split
  · rfl
  · rfl

/-- What a save leaves: the event is recorded, and old records are removed exactly if a removal is
due. -/
structure Upkept (store : TimestampStore) (cache key : String) (micros : Int)
    (comparison : Comparison) (clock : Clock) (saved : Saved) : Prop where
  isCleaned_eq : saved.followUp.isCleaned =
    (store.recorded cache key micros clock).cleanupDue comparison store.settings.interval clock
  settings_eq : saved.store.settings = store.settings
  get?_eq : ∀ other, saved.store.tables.get? other =
    if other = cache then
      some (if saved.followUp.isCleaned = true then
        ((store.recorded cache key micros clock).purge comparison.expiration clock).1
      else store.recorded cache key micros clock)
    else store.tables.get? other

namespace Attended

theorem table (attended : store.Attended settings tended) (cache : String) (clock : Clock) :
    (store.table cache clock).cleaning = false ∧
      (store.table cache clock).lastCleanup = (tended cache).getD clock.steady := by
  rw [← attended.tended_eq cache]
  unfold TimestampStore.table
  cases held : store.tables.get? cache with
  | none => exact ⟨rfl, rfl⟩
  | some records => exact ⟨attended.idle cache records held, rfl⟩

theorem recorded (attended : store.Attended settings tended) (cache key : String) (micros : Int)
    (clock : Clock) :
    (store.recorded cache key micros clock).cleaning = false ∧
      (store.recorded cache key micros clock).lastCleanup =
        (tended cache).getD clock.steady := by
  obtain ⟨lastCleanup, cleaning, _⟩ := (store.table cache clock).save_cases key micros
  obtain ⟨idle, last⟩ := attended.table cache clock
  exact ⟨cleaning.trans idle, lastCleanup.trans last⟩

theorem saveKey (attended : store.Attended settings tended) (cache key : String) (micros : Int)
    (comparison : Comparison) (clock : Clock) :
    Upkept store cache key micros comparison clock
      (store.saveKey cache key micros comparison clock) := by
  have idle := (attended.recorded cache key micros clock).1
  have foreground : store.settings.background = false := by
    rw [attended.settings_eq, attended.foreground]
  cases due : (store.recorded cache key micros clock).cleanupDue comparison
      store.settings.interval clock with
  | false =>
      have saved : store.saveKey cache key micros comparison clock =
          ⟨{ store with
              tables := store.tables.insert cache (store.recorded cache key micros clock) },
            ((store.table cache clock).save key micros).2, .none⟩ := by
        unfold TimestampStore.recorded at due ⊢
        simp only [TimestampStore.saveKey, due, Bool.false_eq_true, ↓reduceIte]
      rw [saved]
      refine ⟨due.symm, rfl, fun other => ?_⟩
      rw [Table.get?_insert]
      rfl
  | true =>
      have saved : store.saveKey cache key micros comparison clock =
          let cleanup := TimestampStore.finishCleanup { store with
            tables := store.tables.insert cache (store.recorded cache key micros clock) }
              cache comparison.expiration clock
          ⟨cleanup.store, ((store.table cache clock).save key micros).2,
            .cleaned cleanup.remaining⟩ := by
        unfold TimestampStore.recorded at due idle ⊢
        simp only [TimestampStore.saveKey, due, ↓reduceIte, startCleanup, idle, foreground,
          Bool.false_eq_true]
      rw [saved]
      refine ⟨due.symm, settings_finishCleanup _ _ _ _, fun other => ?_⟩
      rw [get?_finishCleanup]
      by_cases same : other = cache
      · rw [if_pos same, if_pos same, Table.get?_insert, if_pos rfl]
        rfl
      · rw [if_neg same, if_neg same, Table.get?_insert, if_neg same]

/-- A removal that is asked for is carried out if there is a table. -/
theorem cleanup?_eq (attended : store.Attended settings tended) (cache : String)
    (expiration : Duration) (clock : Clock) :
    store.cleanup? cache expiration clock =
      (store.tables.get? cache).map fun _ => store.finishCleanup cache expiration clock := by
  unfold cleanup?
  cases held : store.tables.get? cache with
  | none => rfl
  | some records =>
      have idle := attended.idle cache records held
      simp only [idle, Bool.false_eq_true, ↓reduceIte, Option.map_some]

theorem congr {account : String → Option Moment} (attended : store.Attended settings tended)
    (same : ∀ cache, tended cache = account cache) : store.Attended settings account :=
  funext same ▸ attended

theorem new (foreground : settings.background = false) :
    (TimestampStore.new settings).Attended settings fun _ => none where
  foreground := foreground
  settings_eq := rfl
  idle _ _ := nofun
  tended_eq _ := rfl

theorem finishCleanup (attended : store.Attended settings tended) (name : String)
    (expiration : Duration) (clock : Clock) :
    (store.finishCleanup name expiration clock).store.Attended settings fun cache =>
      if name = cache then (tended cache).map fun _ => clock.steady else tended cache where
  foreground := attended.foreground
  settings_eq := by rw [settings_finishCleanup, attended.settings_eq]
  idle cache records held := by
    rw [get?_finishCleanup] at held
    split at held
    · obtain ⟨_, _, rfl⟩ := Option.map_eq_some_iff.1 held
      rfl
    · exact attended.idle cache records held
  tended_eq cache := by
    rw [get?_finishCleanup, ← attended.tended_eq cache]
    by_cases same : name = cache
    · rw [if_pos same.symm, if_pos same, same, Option.map_map, Option.map_map]
      rfl
    · rw [if_neg (Ne.symm same), if_neg same]

theorem cleanUp (attended : store.Attended settings tended) (name : String)
    (expiration : Duration) (clock : Clock) :
    (store.undergo (.cleanUp name expiration clock)).Attended settings fun cache =>
      store.tendedBy cache (tended cache) (.cleanUp name expiration clock) := by
  have answer := attended.cleanup?_eq name expiration clock
  cases held : store.tables.get? name with
  | none =>
      rw [held, Option.map_none] at answer
      simpa [TimestampStore.undergo, tendedBy, answer] using attended
  | some records =>
      rw [held, Option.map_some] at answer
      simp only [TimestampStore.undergo, tendedBy, answer, Option.isSome_some, and_true]
      apply (attended.finishCleanup name expiration clock).congr
      intro cache
      by_cases same : name = cache
      · rw [if_pos same, if_pos same, ← same, ← attended.tended_eq name, held]
        rfl
      · rw [if_neg same, if_neg same]

theorem save (attended : store.Attended settings tended) (event : Event) (comparison : Comparison)
    (clock : Clock) :
    (store.undergo (.save event comparison clock)).Attended settings fun cache =>
      store.tendedBy cache (tended cache) (.save event comparison clock) := by
  cases about : event.key with
  | all => simpa [TimestampStore.undergo, tendedBy, store.save_all about, about] using attended
  | entry key =>
      have upkept := attended.saveKey event.cache key event.micros comparison clock
      obtain ⟨idle, last⟩ := attended.recorded event.cache key event.micros clock
      have saved := store.save_entry about comparison clock
      simp only [TimestampStore.undergo, tendedBy, saved, about]
      constructor
      case foreground => exact attended.foreground
      case settings_eq => rw [upkept.settings_eq, attended.settings_eq]
      case idle =>
        intro cache records held
        rw [upkept.get?_eq] at held
        split at held
        · rw [← Option.some.inj held]
          split
          · rfl
          · exact idle
        · exact attended.idle cache records held
      case tended_eq =>
        intro cache
        rw [upkept.get?_eq]
        by_cases same : cache = event.cache
        · simp only [same, ↓reduceIte, Option.map_some]
          split
          next => simp [CacheRecords.purge]
          next => simp [last]
        · simp only [same, Ne.symm same, ↓reduceIte, false_and]
          exact attended.tended_eq cache

/-- Every deed keeps the account of when the records were looked after. -/
theorem undergo (attended : store.Attended settings tended) (deed : Deed) :
    (store.undergo deed).Attended settings fun cache =>
      store.tendedBy cache (tended cache) deed := by
  cases deed with
  | save event comparison clock => exact attended.save event comparison clock
  | cleanUp name expiration clock => exact attended.cleanUp name expiration clock
  | finish name expiration clock => exact attended.finishCleanup name expiration clock
  | clear => exact ⟨attended.foreground, attended.settings_eq, fun _ _ => nofun, fun _ => rfl⟩

theorem undergoAll (attended : store.Attended settings tended) (deeds : List Deed) :
    (store.undergoAll deeds).Attended settings fun cache =>
      store.tended cache (tended cache) deeds := by
  induction deeds generalizing store tended with
  | nil => exact attended
  | cons deed rest inductionHypothesis => exact inductionHypothesis (attended.undergo deed)

end Attended

/-! ## What holds of every store -/

/-- How long the records of a cache were not looked after; those of a cache without any are looked
after from now on. -/
def neglect (tended : String → Option Moment) (cache : String) (clock : Clock) : Nat :=
  (clock.steady.since ((tended cache).getD clock.steady)).nanos

/-- A save of an event about a key removes old records exactly if it is due, and nothing else.  Of
more records than expected none is old then, unless the last removal is too recent. -/
structure SavesTidily (store : TimestampStore) (interval : Duration)
    (tended : String → Option Moment) (event : Event) (key : String) (comparison : Comparison)
    (clock : Clock) : Prop where
  due : (store.save event comparison clock).followUp.isCleaned = true ↔
    comparison.probableCount < (store.recording event.cache key event.micros).length ∧
      interval.nanos ≤ neglect tended event.cache clock
  left : (store.save event comparison clock).store.records event.cache =
    if (store.save event comparison clock).followUp.isCleaned = true then
      (store.recording event.cache key event.micros).filter
        (CacheRecords.cutoff comparison.expiration clock ≤ ·.2)
    else store.recording event.cache key event.micros
  bounded : comparison.probableCount <
      ((store.save event comparison clock).store.records event.cache).length →
    neglect tended event.cache clock < interval.nanos ∨
      ∀ record ∈ (store.save event comparison clock).store.records event.cache,
        CacheRecords.cutoff comparison.expiration clock ≤ record.2

/-- A removal is carried out unless there is no table, and removes the old records alone. -/
structure RemovesTidily (store : TimestampStore) (tended : String → Option Moment)
    (cache : String) (expiration : Duration) (clock : Clock) : Prop where
  refused : store.cleanup? cache expiration clock = none ↔ tended cache = none
  left : ∀ cleanup, store.cleanup? cache expiration clock = some cleanup →
    cleanup.store.records cache =
      (store.records cache).filter (CacheRecords.cutoff expiration clock ≤ ·.2)
  removed : ∀ cleanup, store.cleanup? cache expiration clock = some cleanup →
    cleanup.removed = (store.records cache).countP (·.2 < CacheRecords.cutoff expiration clock)

/-- Old records are removed when they should be, and no others: no removal is left running, and
what is done to one cache changes no record of another. -/
structure Tidy (store : TimestampStore) (interval : Duration)
    (tended : String → Option Moment) : Prop where
  idle : ∀ cache records, store.tables.get? cache = some records → records.cleaning = false
  saves : ∀ event key comparison clock, event.key = .entry key →
    store.SavesTidily interval tended event key comparison clock
  removes : ∀ cache expiration clock, store.RemovesTidily tended cache expiration clock
  apart : ∀ cache deed, deed.Spares cache → (store.undergo deed).records cache = store.records cache

namespace Attended

theorem saves (attended : store.Attended settings tended) {event : Event}
    (about : event.key = .entry key) (comparison : Comparison) (clock : Clock) :
    store.SavesTidily settings.interval tended event key comparison clock := by
  have upkept := attended.saveKey event.cache key event.micros comparison clock
  have last := (attended.recorded event.cache key event.micros clock).2
  have pairs := store.pairs_recorded event.cache key event.micros clock
  rw [← store.save_entry about] at upkept
  have due : (store.save event comparison clock).followUp.isCleaned = true ↔
      comparison.probableCount < (store.recording event.cache key event.micros).length ∧
        settings.interval.nanos ≤ neglect tended event.cache clock := by
    rw [upkept.isCleaned_eq, attended.settings_eq, CacheRecords.cleanupDue, Bool.and_eq_true,
      decide_eq_true_eq, decide_eq_true_eq, last, Table.size, pairs]
    rfl
  have left : (store.save event comparison clock).store.records event.cache =
      if (store.save event comparison clock).followUp.isCleaned = true then
        (store.recording event.cache key event.micros).filter
          (CacheRecords.cutoff comparison.expiration clock ≤ ·.2)
      else store.recording event.cache key event.micros := by
    have held := upkept.get?_eq event.cache
    rw [if_pos rfl] at held
    rw [records_of_get? held, ← pairs]
    split
    · rfl
    · rfl
  refine ⟨due, left, fun many => ?_⟩
  cases cleaned : (store.save event comparison clock).followUp.isCleaned with
  | true =>
      rw [cleaned, if_pos rfl] at left
      rw [left]
      exact Or.inr fun record member => of_decide_eq_true (List.mem_filter.1 member).2
  | false =>
      -- Nothing was removed, so what is left was too much before, and only the interval is missing.
      rw [cleaned, if_neg Bool.false_ne_true] at left
      rw [left] at many
      refine Or.inl (Nat.lt_of_not_le fun overdue => ?_)
      have wouldClean := due.2 ⟨many, overdue⟩
      rw [cleaned] at wouldClean
      cases wouldClean

theorem removes (attended : store.Attended settings tended) (cache : String) (expiration : Duration)
    (clock : Clock) : store.RemovesTidily tended cache expiration clock := by
  have answer := attended.cleanup?_eq cache expiration clock
  have done {cleanup : Cleanup} (found : store.cleanup? cache expiration clock = some cleanup) :
      ∃ records, store.tables.get? cache = some records ∧
        store.finishCleanup cache expiration clock = cleanup := by
    rw [answer] at found
    exact Option.map_eq_some_iff.1 found
  refine ⟨?_, fun cleanup found => ?_, fun cleanup found => ?_⟩
  · rw [answer, ← attended.tended_eq cache, Option.map_eq_none_iff, Option.map_eq_none_iff]
  · obtain ⟨records, held, rfl⟩ := done found
    have after := store.get?_finishCleanup cache cache expiration clock
    rw [if_pos rfl, held, Option.map_some] at after
    rw [records_of_get? after, records_of_get? held]
    rfl
  · obtain ⟨records, held, rfl⟩ := done found
    rw [records_of_get? held, ← records.removed_purge]
    unfold TimestampStore.finishCleanup
    rw [held]

theorem apart (attended : store.Attended settings tended) {deed : Deed}
    (spared : deed.Spares cache) : (store.undergo deed).records cache = store.records cache := by
  have finished (name : String) (expiration : Duration) (clock : Clock) (other : name ≠ cache) :
      (store.finishCleanup name expiration clock).store.tables.get? cache =
        store.tables.get? cache := by
    rw [get?_finishCleanup, if_neg (Ne.symm other)]
  have same : (store.undergo deed).tables.get? cache = store.tables.get? cache := by
    cases deed with
    | clear => cases spared
    | finish name expiration clock => exact finished name expiration clock spared
    | cleanUp name expiration clock =>
        simp only [TimestampStore.undergo, attended.cleanup?_eq]
        cases store.tables.get? name with
        | none => rfl
        | some records => exact finished name expiration clock spared
    | save event comparison clock =>
        simp only [TimestampStore.undergo]
        cases about : event.key with
        | all => rw [store.save_all about]
        | entry key =>
            have other : event.cache ≠ cache := by
              rcases spared with other | wildcard
              · exact other
              · cases about.symm.trans wildcard
            have upkept := attended.saveKey event.cache key event.micros comparison clock
            rw [store.save_entry about, upkept.get?_eq, if_neg (Ne.symm other)]
  unfold TimestampStore.records
  rw [same]

theorem tidy (attended : store.Attended settings tended) : store.Tidy settings.interval tended where
  idle := attended.idle
  saves _ _ comparison clock about := attended.saves about comparison clock
  removes := attended.removes
  apart _ _ := attended.apart

end Attended

/-- After any deeds, a store that removes old records on the thread of a save is tidy. -/
theorem tidy_of_undergoAll {settings : CleanupSettings} (foreground : settings.background = false)
    (deeds : List Deed) :
    ((new settings).undergoAll deeds).Tidy settings.interval fun cache =>
      (new settings).tended cache none deeds :=
  ((Attended.new foreground).undergoAll deeds).tidy

/-- Two records are expected and a third one makes a removal due, which takes two old ones. -/
theorem tidy_of_undergoAll_overfull :
    let settings : CleanupSettings := ⟨false, ⟨10⟩⟩
    let deeds : List Deed := [.saving "users" "ada" 1000, .saving "users" "bob" 2000]
    let store := (new settings).undergoAll deeds
    let event := Event.evicted "users" "eve" 9000
    settings.background = false ∧
      (store.save event ⟨2, ⟨5000⟩⟩ ⟨9000, 10⟩).store.records "users" = [("eve", 9)] ∧
      (store.save event ⟨2, ⟨5000⟩⟩ ⟨9000, 9⟩).store.records "users" =
        [("ada", 1), ("bob", 2), ("eve", 9)] := by
  intro settings deeds store event
  have foreground : settings.background = false := rfl
  have tidy := tidy_of_undergoAll foreground deeds
  obtain ⟨due, removed, -⟩ := tidy.saves event "eve" ⟨2, ⟨5000⟩⟩ ⟨9000, 10⟩ rfl
  obtain ⟨dueEarly, left, -⟩ := tidy.saves event "eve" ⟨2, ⟨5000⟩⟩ ⟨9000, 9⟩ rfl
  refine ⟨foreground, ?_, ?_⟩
  · rw [if_pos (due.2 (by decide +kernel))] at removed
    rw [show "users" = event.cache from rfl, removed]
    decide +kernel
  · rw [if_neg (mt dueEarly.1 (by decide +kernel))] at left
    rw [show "users" = event.cache from rfl, left]
    decide +kernel

end TimestampStore
end CacheSync
