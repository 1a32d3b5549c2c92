import CacheSync.Cache.Guarded

/-!
# Calls of a store

The operations on a store, with their arguments, as data: what an application asks of one of its
caches.  `Store.perform` carries a call out, and `Guard.perform` does so unless the guard refuses
it.
-/

namespace CacheSync

open Json (Value)

/-- An operation on a store. -/
inductive StoreCall where
  | put (key : String) (value : Value) (origin : Origin)
  | putIfAbsent (key : String) (value : Value) (origin : Origin)
  | evict (key : String) (origin : Origin)
  | remove (key : String) (origin : Origin)
  | clear (origin : Origin)
  | merge (key : String) (value : Value) (remap : Remap) (origin : Origin)
  | computeIfAbsent (key : String) (compute : String → Value) (origin : Origin)
  | expire (key : String)

/-- The answer of an operation. -/
inductive StoreAnswer where
  | done
  /-- A value that was held before, or is held now. -/
  | value (found : Option Value)
  /-- The value held now, and how often it was computed. -/
  | computed (value : Value) (times : Nat)

namespace StoreCall

/-- The operation as guards know it; no guard stands before the running out of time. -/
def operation? : StoreCall → Option Operation
  | .put _ _ _ => some .put
  | .putIfAbsent _ _ _ => some .putIfAbsent
  | .evict _ _ => some .evict
  | .remove _ _ => some .remove
  | .clear _ => some .clear
  | .merge _ _ _ _ => some .merge
  | .computeIfAbsent _ _ _ => some .computeIfAbsent
  | .expire _ => none

/-- Where the change is made; time runs out on this node. -/
def origin : StoreCall → Origin
  | .put _ _ origin => origin
  | .putIfAbsent _ _ origin => origin
  | .evict _ origin => origin
  | .remove _ origin => origin
  | .clear origin => origin
  | .merge _ _ _ origin => origin
  | .computeIfAbsent _ _ origin => origin
  | .expire _ => .localNode

/-- The entries that a call is about. -/
def key : StoreCall → EntryKey
  | .put key _ _ => .entry key
  | .putIfAbsent key _ _ => .entry key
  | .evict key _ => .entry key
  | .remove key _ => .entry key
  | .clear _ => .all
  | .merge key _ _ _ => .entry key
  | .computeIfAbsent key _ _ => .entry key
  | .expire key => .entry key

end StoreCall

def Store.perform (store : Store) (call : StoreCall) (now : Moment) : Change StoreAnswer :=
  match call with
  | .put key value origin => (store.put key value origin now).map .value
  | .putIfAbsent key value origin => (store.putIfAbsent key value origin now).map .value
  | .evict key origin => (store.evict key origin now).map fun _ => .done
  | .remove key origin => (store.remove key origin now).map .value
  | .clear origin => (store.clear origin now).map fun _ => .done
  | .merge key value remap origin => (store.merge key value remap origin now).map .value
  | .computeIfAbsent key compute origin =>
      (store.computeIfAbsent key compute origin now).map fun value =>
        .computed value (if (store.get? key).isSome then 0 else 1)
  | .expire key => (store.expire key now).map .value

/-- Carry out a call unless it is refused. -/
def Guard.perform (guard : Guard) (store : Store) (call : StoreCall) (now : Moment) :
    Except Stop (Change StoreAnswer) :=
  match call.operation? with
  | .none => .ok (store.perform call now)
  | .some operation => guard.run store operation fun store => store.perform call now

/-! ## Journals -/

/-- A store, and what one of its listeners has received, the earliest first. -/
structure Journal where
  store : Store
  received : List Event

namespace Journal

/-- A call is made at a moment. -/
def enter (listener : Nat) (journal : Journal) (entry : StoreCall × Moment) : Journal :=
  let change := journal.store.perform entry.1 entry.2
  ⟨change.store, journal.received ++ change.received listener⟩

def enterAll (listener : Nat) (journal : Journal) (entries : List (StoreCall × Moment)) : Journal :=
  entries.foldl (enter listener) journal

end Journal
end CacheSync
