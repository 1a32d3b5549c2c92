import CacheSync.Cache.Guarded
import CacheSync.Config.Policy

/-!
# Applying events

A node follows a change made elsewhere by applying its event to its own cache.  Invalidation
drops the entry.  Replication installs the new value, but only where the old one is still held;
an entry that holds something else is dropped, so a wrong value never stays.  If replication
fails the entry is invalidated instead.
-/

namespace CacheSync

open Json (Value)

/-- What applying an event did. -/
inductive Outcome where
  /-- The cache was emptied. -/
  | cleared
  /-- The key was dropped. -/
  | evicted
  /-- The key was absent and took the new value. -/
  | inserted
  /-- The key held the old value and took the new one. -/
  | replaced
  /-- The key held something else and was dropped. -/
  | desynchronized
  /-- Replication failed and the key was dropped, or the cache emptied, instead. -/
  | downgraded
  /-- Nothing could be done. -/
  | failed
  deriving DecidableEq

namespace Outcome

def name : Outcome → String
  | .cleared => "Cleared"
  | .evicted => "Evicted"
  | .inserted => "Inserted"
  | .replaced => "Replaced"
  | .desynchronized => "Desynchronized"
  | .downgraded => "Downgraded"
  | .failed => "Failed"

end Outcome

namespace Guard

def invalidate (guard : Guard) (store : Store) (event : Event) (now : Moment) :
    Except Stop (Change Outcome) :=
  match event.key with
  | .all =>
      (guard.run store .clear fun store => store.clear .remoteNode now).map
        fun change => change.map fun _ => .cleared
  | .entry key =>
      (guard.run store .evict fun store => store.evict key .remoteNode now).map
        fun change => change.map fun _ => .evicted

/-- Take the incoming value if the current one is the expected one, and drop the entry
otherwise. -/
def takeIfExpected (expected : Option Value) : Remap :=
  fun current incoming =>
    match expected with
    | .some value => if current.same value then .some incoming else .none
    | .none => .none

/-- What a replication did, from whether the key was held before and whether it is now. -/
def replicationOutcome (before after : Bool) : Outcome :=
  if !before then .inserted
  else if after then .replaced
  else .desynchronized

/-- Install the new value of an event over its old one.  An event without a key or a new value is
an invalidation. -/
def replicate (guard : Guard) (store : Store) (event : Event) (now : Moment) :
    Except Stop (Change Outcome) :=
  match event.key, event.new with
  | .entry key, .some value =>
      (guard.run store .merge fun store =>
          store.merge key value (takeIfExpected event.old) .remoteNode now).map
        fun change =>
          change.map fun merged => replicationOutcome (store.get? key).isSome merged.isSome
  | _, _ => guard.invalidate store event now

/-- Apply an event by a policy.  Failures are part of the outcome; the thread still ends if the
cache crashes it, and then there is no outcome.  When replication has failed, the guard may be
another one. -/
def applyAcross (guard later : Guard) (policy : Policy) (store : Store) (event : Event)
    (now : Moment) : Option (Change Outcome) :=
  let settle : Except Stop (Change Outcome) → Option (Change Outcome)
    | .ok change => .some change
    | .error (.failed _) => .some ⟨store, .failed, .none⟩
    | .error .crashed => .none
  match policy with
  | .invalidated => settle (guard.invalidate store event now)
  | .replicated =>
      match guard.replicate store event now with
      | .error (.failed _) =>
          settle ((later.invalidate store event now).map
            fun change => change.map fun _ => .downgraded)
      | other => settle other

/-- Apply an event through a guard that stays as it is. -/
def apply (guard : Guard) : Policy → Store → Event → Moment → Option (Change Outcome) :=
  guard.applyAcross guard

end Guard
end CacheSync
