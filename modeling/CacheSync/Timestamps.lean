import CacheSync.Config.Bus
import CacheSync.Metric.Meter
import CacheSync.Time.Clock

/-!
# Timestamp records

For a cache that compares timestamps, the time of the latest event of each key is recorded, and
an event is accepted only if its time is strictly greater.  A message that was overtaken by a
newer change therefore never undoes it.

Records are removed once they are older than an expiration.  A removal is due after a save that
leaves more records than expected, unless the last one was too recent, and at most one removal of
a cache runs at a time.
-/

namespace CacheSync

/-- The records of one cache. -/
structure CacheRecords where
  latest : Table String Int
  /-- When records were last removed, or the table was made. -/
  lastCleanup : Moment
  /-- Whether a removal is running. -/
  cleaning : Bool

namespace CacheRecords

def new (clock : Clock) : CacheRecords :=
  ⟨.empty, clock.steady, false⟩

/-- Whether an event of this time is news for a key. -/
def isNews (records : CacheRecords) (key : String) (micros : Int) : Bool :=
  match records.latest.get? key with
  | none => true
  | some recorded => recorded < micros

/-- Record the time of an event if it is news. -/
def save (records : CacheRecords) (key : String) (micros : Int) : CacheRecords × Bool :=
  if records.isNews key micros then
    ({ records with latest := records.latest.insert key micros }, true)
  else (records, false)

def cleanupDue (records : CacheRecords) (comparison : Comparison) (interval : Duration)
    (clock : Clock) : Bool :=
  comparison.probableCount < records.latest.size &&
    interval.nanos ≤ (clock.steady.since records.lastCleanup).nanos

/-- Records of earlier times than this are removed. -/
def cutoff (expiration : Duration) (clock : Clock) : Int :=
  Moment.clamp (clock.wall.toMicros - min (expiration.micros : Int) Word.greatest)

/-- Remove the records before the cutoff and end the running removal.  The answer is how many
were removed. -/
def purge (records : CacheRecords) (expiration : Duration) (clock : Clock) : CacheRecords × Nat :=
  let bound := cutoff expiration clock
  let kept := records.latest.filter fun _ micros => bound ≤ micros
  (⟨kept, clock.steady, false⟩, records.latest.size - kept.size)

end CacheRecords

/-- The records of all caches of a node. -/
structure TimestampStore where
  settings : CleanupSettings
  tables : Table String CacheRecords

namespace TimestampStore

def new (settings : CleanupSettings) : TimestampStore :=
  ⟨settings, .empty⟩

/-- The records of a cache, made now if there are none. -/
def table (store : TimestampStore) (cache : String) (clock : Clock) : CacheRecords :=
  (store.tables.get? cache).getD (.new clock)

def size (store : TimestampStore) (cache : String) : Nat :=
  match store.tables.get? cache with
  | none => 0
  | some records => records.latest.size

def last? (store : TimestampStore) (cache key : String) : Option Int :=
  (store.tables.get? cache).bind fun records => records.latest.get? key

def clear (store : TimestampStore) : TimestampStore :=
  { store with tables := .empty }

/-- What a removal leaves behind. -/
structure Cleanup where
  store : TimestampStore
  removed : Nat
  /-- How many records of the cache are left. -/
  remaining : Nat

def finishCleanup (store : TimestampStore) (cache : String) (expiration : Duration)
    (clock : Clock) : Cleanup :=
  match store.tables.get? cache with
  | none => ⟨store, 0, 0⟩
  | some records =>
      let (records, removed) := records.purge expiration clock
      ⟨{ store with tables := store.tables.insert cache records }, removed, records.latest.size⟩

/-- Remove old records of a cache now.  There is no answer if the cache has no table or a removal
is running. -/
def cleanup? (store : TimestampStore) (cache : String) (expiration : Duration) (clock : Clock) :
    Option Cleanup :=
  match store.tables.get? cache with
  | none => none
  | some records =>
      if records.cleaning then none else some (store.finishCleanup cache expiration clock)

/-- What follows from a save that made a removal due. -/
inductive FollowUp where
  | none
  /-- Records were removed at once; so many are left. -/
  | cleaned (remaining : Nat)
  /-- A thread of its own will remove records older than the expiration. -/
  | scheduled (cache : String) (expiration : Duration)

/-- Whether old records were removed at once. -/
def FollowUp.isCleaned : FollowUp → Bool
  | .cleaned _ => true
  | _ => false

/-- What a save leaves behind. -/
structure Saved where
  store : TimestampStore
  /-- Whether the event is news. -/
  accepted : Bool
  followUp : FollowUp

def startCleanup (store : TimestampStore) (cache : String) (records : CacheRecords)
    (expiration : Duration) (clock : Clock) : TimestampStore × FollowUp :=
  if records.cleaning then (store, .none)
  else if store.settings.background then
    ({ store with tables := store.tables.insert cache { records with cleaning := true } },
      .scheduled cache expiration)
  else
    let cleanup := store.finishCleanup cache expiration clock
    (cleanup.store, .cleaned cleanup.remaining)

def saveKey (store : TimestampStore) (cache key : String) (micros : Int) (comparison : Comparison)
    (clock : Clock) : Saved :=
  let (records, accepted) := (store.table cache clock).save key micros
  let saved : TimestampStore := { store with tables := store.tables.insert cache records }
  if records.cleanupDue comparison store.settings.interval clock then
    let (store, followUp) := saved.startCleanup cache records comparison.expiration clock
    ⟨store, accepted, followUp⟩
  else ⟨saved, accepted, .none⟩

/-- Record the time of an event.  An event about every entry is always accepted and recorded
nowhere. -/
def save (store : TimestampStore) (event : Event) (comparison : Comparison) (clock : Clock) :
    Saved :=
  match event.key with
  | .all => ⟨store, true, .none⟩
  | .entry key => store.saveKey event.cache key event.micros comparison clock

def reportCleanup (meter : Meter) (cache : String) (remaining : Nat) : Meter :=
  (meter.mark (.timestampsCleaned cache)).read (.timestampEntries cache) remaining

def reportSave (meter : Meter) (cache : String) : FollowUp → Meter
  | .cleaned remaining => reportCleanup meter cache remaining
  | _ => meter

/-! ## Deeds -/

/-- What is done with the records of a node. -/
inductive Deed where
  | save (event : Event) (comparison : Comparison) (clock : Clock)
  | cleanUp (cache : String) (expiration : Duration) (clock : Clock)
  /-- A thread of its own carries out the removal that a save has scheduled. -/
  | finish (cache : String) (expiration : Duration) (clock : Clock)
  | clear

def undergo (store : TimestampStore) : Deed → TimestampStore
  | .save event comparison clock => (store.save event comparison clock).store
  | .cleanUp cache expiration clock =>
      match store.cleanup? cache expiration clock with
      | none => store
      | some cleanup => cleanup.store
  | .finish cache expiration clock => (store.finishCleanup cache expiration clock).store
  | .clear => store.clear

def undergoAll (store : TimestampStore) (deeds : List Deed) : TimestampStore :=
  deeds.foldl undergo store

end TimestampStore
end CacheSync
