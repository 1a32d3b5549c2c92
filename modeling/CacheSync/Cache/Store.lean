import CacheSync.Event.Basic
import CacheSync.Table

/-!
# Stores

A store is one cache held in memory.  Every operation that changes it says so in an event, which
its listeners receive in the order they were registered in.  A clear is always announced, since
other nodes may hold entries that this one lacks; an operation that finds nothing to change is
not.
-/

namespace CacheSync

open Json (Value)

/-- Who is told of the changes of a store. -/
inductive Audience where
  /-- The bus of the node. -/
  | bus
  /-- Somebody else. -/
  | observer (label : String)
  deriving DecidableEq

structure Listener where
  id : Nat
  audience : Audience
  deriving DecidableEq

structure Store where
  name : String
  entries : Table String Value
  listeners : List Listener
  /-- The identifier of the next listener. -/
  nextListener : Nat

/-- What an operation leaves behind: the store, its answer, and the event of its change. -/
structure Change (α : Type) where
  store : Store
  answer : α
  event : Option Event

def Change.map {α β : Type} (change : Change α) (f : α → β) : Change β :=
  ⟨change.store, f change.answer, change.event⟩

/-- What the listeners receive of a change, in the order they were registered in. -/
def Change.deliveries {α : Type} (change : Change α) : List (Listener × Event) :=
  change.event.toList.flatMap fun event =>
    change.store.listeners.map fun listener => (listener, event)

/-- What one listener receives of a change. -/
def Change.received {α : Type} (change : Change α) (listener : Nat) : List Event :=
  (change.deliveries.filter (·.1.id = listener)).map (·.2)

/-- How a merge joins the current with the incoming value.  No value drops the entry. -/
abbrev Remap := Value → Value → Option Value

namespace Store

def ofName (name : String) : Store :=
  ⟨name, .empty, [], 1⟩

def get? (store : Store) (key : String) : Option Value :=
  store.entries.get? key

def size (store : Store) : Nat :=
  store.entries.size

def isEmpty (store : Store) : Bool :=
  store.entries.isEmpty

/-! ## Listeners -/

/-- Add a listener behind the others.  Identifiers are never used twice. -/
def listen (store : Store) (audience : Audience) : Store × Nat :=
  ({ store with
      listeners := store.listeners ++ [⟨store.nextListener, audience⟩]
      nextListener := store.nextListener + 1 },
    store.nextListener)

/-- Remove a listener; the answer says whether there was one. -/
def unlisten (store : Store) (id : Nat) : Store × Bool :=
  ({ store with listeners := store.listeners.filter (·.id != id) },
    store.listeners.any (·.id == id))

/-! ## Operations -/

def eventOf (store : Store) (key : String) (kind : EventKind) (now : Moment) (origin : Origin)
    (old new : Option Value) : Event :=
  ⟨store.name, .entry key, kind, now, origin, old, new⟩

def set (store : Store) (key : String) (value : Value) : Store :=
  { store with entries := store.entries.insert key value }

/-- Hold nothing under a key. -/
def unset (store : Store) (key : String) : Store :=
  { store with entries := store.entries.erase key }

/-- Store a value.  The answer is the value before. -/
def put (store : Store) (key : String) (value : Value) (origin : Origin) (now : Moment) :
    Change (Option Value) :=
  let old := store.get? key
  let kind := if old.isSome then EventKind.updated else .added
  ⟨store.set key value, old, some (store.eventOf key kind now origin old (some value))⟩

/-- Store a value unless the key has one, which is then the answer. -/
def putIfAbsent (store : Store) (key : String) (value : Value) (origin : Origin) (now : Moment) :
    Change (Option Value) :=
  match store.get? key with
  | some current => ⟨store, some current, none⟩
  | none =>
      ⟨store.set key value, none, some (store.eventOf key .added now origin none (some value))⟩

/-- Drop an entry with an event of the given kind.  The answer is the value dropped. -/
def dropAs (kind : EventKind) (store : Store) (key : String) (origin : Origin) (now : Moment) :
    Change (Option Value) :=
  match store.get? key with
  | none => ⟨store, none, none⟩
  | some old =>
      ⟨store.unset key, some old, some (store.eventOf key kind now origin (some old) none)⟩

def remove (store : Store) (key : String) (origin : Origin) (now : Moment) :
    Change (Option Value) :=
  store.dropAs .evicted key origin now

/-- Drop an entry without asking for its value. -/
def evict (store : Store) (key : String) (origin : Origin) (now : Moment) : Change Unit :=
  let change := store.remove key origin now
  ⟨change.store, (), change.event⟩

/-- Drop an entry as if its time had run out.  Time runs out on this node. -/
def expire (store : Store) (key : String) (now : Moment) : Change (Option Value) :=
  store.dropAs .expired key .localNode now

def clear (store : Store) (origin : Origin) (now : Moment) : Change Unit :=
  ⟨{ store with entries := .empty }, (),
    some ⟨store.name, .all, .evicted, now, origin, none, none⟩⟩

/-- Join a value with the entry of a key: an absent key takes the value as it is.  The answer is
the value held afterwards. -/
def merge (store : Store) (key : String) (value : Value) (remap : Remap) (origin : Origin)
    (now : Moment) : Change (Option Value) :=
  match store.get? key with
  | none =>
      ⟨store.set key value, some value,
        some (store.eventOf key .added now origin none (some value))⟩
  | some old =>
      match remap old value with
      | some next =>
          ⟨store.set key next, some next,
            some (store.eventOf key .updated now origin (some old) (some next))⟩
      | none =>
          ⟨store.unset key, none, some (store.eventOf key .evicted now origin (some old) none)⟩

/-- The value of a key, computed and stored first if there is none. -/
def computeIfAbsent (store : Store) (key : String) (compute : String → Value) (origin : Origin)
    (now : Moment) : Change Value :=
  match store.get? key with
  | some current => ⟨store, current, none⟩
  | none =>
      let value := compute key
      ⟨store.set key value, value, some (store.eventOf key .added now origin none (some value))⟩

end Store
end CacheSync
