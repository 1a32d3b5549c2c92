import CacheSync.Timestamps

/-!
# Saving the time of an event

A save accepts an event exactly if it is later than what is recorded for its key, and records it
then.  Whatever follows from a save, short of a removal of old records on the same thread, leaves
every recorded time as it is.
-/

namespace CacheSync

namespace CacheRecords

theorem get?_save (records : CacheRecords) (key other : String) (micros : Int) :
    (records.save key micros).1.latest.get? other =
      if other = key ∧ records.isNews key micros = true then some micros
      else records.latest.get? other := by
  unfold save
  split
  next news => simp [news]
  next stale => simp [stale]

theorem accepted_save (records : CacheRecords) (key : String) (micros : Int) :
    (records.save key micros).2 = records.isNews key micros := by
  unfold save
  split
  next news => exact news.symm
  next stale => simpa using stale

end CacheRecords

namespace TimestampStore

/-- Whether an event of one key is later than what is recorded for the key. -/
def isNews (store : TimestampStore) (cache key : String) (micros : Int) : Bool :=
  match store.last? cache key with
  | none => true
  | some recorded => recorded < micros

theorem isNews_table (store : TimestampStore) (cache key : String) (micros : Int)
    (clock : Clock) :
    (store.table cache clock).isNews key micros = store.isNews cache key micros := by
  unfold CacheRecords.isNews isNews table last?
  cases store.tables.get? cache with
  | none => rfl
  | some records => rfl

theorem get?_table (store : TimestampStore) (cache key : String) (clock : Clock) :
    (store.table cache clock).latest.get? key = store.last? cache key := by
  unfold table last?
  cases store.tables.get? cache with
  | none => rfl
  | some records => rfl

/-- Putting back a table of records changes what is recorded for its cache only. -/
theorem last?_insert (store : TimestampStore) (cache other key : String) (records : CacheRecords) :
    ({ store with tables := store.tables.insert cache records } : TimestampStore).last? other key =
      if other = cache then records.latest.get? key else store.last? other key := by
  unfold last?
  rw [Table.get?_insert]
  split <;> rfl

/-- Beginning a removal leaves every record, unless it is carried out at once. -/
theorem last?_startCleanup (store : TimestampStore) (cache other key : String)
    (records : CacheRecords) (expiration : Duration) (clock : Clock)
    (held : store.tables.get? cache = some records)
    (left : (store.startCleanup cache records expiration clock).2.isCleaned = false) :
    (store.startCleanup cache records expiration clock).1.last? other key =
      store.last? other key := by
  unfold startCleanup at left ⊢
  split
  · rfl
  next idle =>
    split
    · rw [last?_insert]
      split
      next same =>
        subst same
        simp [last?, held]
      next => rfl
    next foreground =>
      simp only [idle, foreground, ↓reduceIte, FollowUp.isCleaned, Bool.false_eq_true] at left
      cases left

theorem accepted_saveKey (store : TimestampStore) (cache key : String) (micros : Int)
    (comparison : Comparison) (clock : Clock) :
    (store.saveKey cache key micros comparison clock).accepted =
      store.isNews cache key micros := by
  unfold saveKey
  dsimp only
  split <;>
    exact (CacheRecords.accepted_save _ _ _).trans (isNews_table store cache key micros clock)

/-- The times recorded once an event is saved, before anything is removed. -/
theorem last?_insert_save (store : TimestampStore) (cache key : String) (micros : Int)
    (clock : Clock) (other otherKey : String) :
    ({ store with
        tables := store.tables.insert cache ((store.table cache clock).save key micros).1 } :
        TimestampStore).last? other otherKey =
      if other = cache ∧ otherKey = key ∧ store.isNews cache key micros = true then some micros
      else store.last? other otherKey := by
  rw [last?_insert, CacheRecords.get?_save, isNews_table, get?_table]
  by_cases same : other = cache
  · subst same
    simp
  · simp [same]

/-- The times recorded after a save that removed none. -/
theorem last?_saveKey (store : TimestampStore) (cache key : String) (micros : Int)
    (comparison : Comparison) (clock : Clock)
    (left : (store.saveKey cache key micros comparison clock).followUp.isCleaned = false)
    (other otherKey : String) :
    (store.saveKey cache key micros comparison clock).store.last? other otherKey =
      if other = cache ∧ otherKey = key ∧ store.isNews cache key micros = true then some micros
      else store.last? other otherKey := by
  have saved := store.last?_insert_save cache key micros clock other otherKey
  unfold saveKey at left ⊢
  dsimp only at left ⊢
  split
  next due =>
    rw [if_pos due] at left
    rw [last?_startCleanup _ _ _ _ _ _ _ (by simp) left]
    exact saved
  next => exact saved

/-! ## Events of any kind -/

theorem save_all (store : TimestampStore) {event : Event} (wildcard : event.key = .all)
    (comparison : Comparison) (clock : Clock) :
    store.save event comparison clock = ⟨store, true, .none⟩ := by
  simp [save, wildcard]

theorem save_entry (store : TimestampStore) {event : Event} {key : String}
    (one : event.key = .entry key) (comparison : Comparison) (clock : Clock) :
    store.save event comparison clock =
      store.saveKey event.cache key event.micros comparison clock := by
  simp [save, one]

end TimestampStore

end CacheSync
