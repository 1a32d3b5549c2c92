import CacheSync.Json.Value
import CacheSync.Time.Moment

/-!
# Events

An event describes one change of one cache.  It names the entry that changed, or every entry of
the cache, the values before and after where they are known, and where the change was made.
-/

namespace CacheSync

/-- What a change did to an entry. -/
inductive EventKind where
  | added
  | updated
  | evicted
  | expired
  deriving DecidableEq

namespace EventKind

def name : EventKind → String
  | .added => "ADDED"
  | .updated => "UPDATED"
  | .evicted => "EVICTED"
  | .expired => "EXPIRED"

def all : List EventKind :=
  [.added, .updated, .evicted, .expired]

def ofName? (name : String) : Option EventKind :=
  all.find? (·.name == name)

end EventKind

/-- The entries an event is about. -/
inductive EntryKey where
  /-- Every entry of the cache. -/
  | all
  /-- The entry of one key. -/
  | entry (key : String)
  deriving DecidableEq

namespace EntryKey

/-- The key as shown to a reader; a star stands for every entry. -/
def display : EntryKey → String
  | .all => "*"
  | .entry key => key

def isAll : EntryKey → Bool
  | .all => true
  | .entry _ => false

def ofOption : Option String → EntryKey
  | none => .all
  | some key => .entry key

def toOption : EntryKey → Option String
  | .all => none
  | .entry key => some key

end EntryKey

/-- Where a change was made. -/
inductive Origin where
  /-- On this node, by its own application. -/
  | localNode
  /-- On another node; this node only follows. -/
  | remoteNode
  deriving DecidableEq

namespace Origin

def isRemote : Origin → Bool
  | .localNode => false
  | .remoteNode => true

end Origin

/-- One change of one cache. -/
structure Event where
  cache : String
  key : EntryKey
  kind : EventKind
  time : Moment
  origin : Origin
  old : Option Json.Value
  new : Option Json.Value

namespace Event

def micros (event : Event) : Int :=
  event.time.toMicros

/-- The event without its values, as it is sent for a cache whose values never travel. -/
def withoutValues (event : Event) : Event :=
  { event with old := none, new := none }

def sameValue : Option Json.Value → Option Json.Value → Bool
  | none, none => true
  | some value, some other => value.same other
  | _, _ => false

/-- Equality of events in every field. -/
def same (event other : Event) : Bool :=
  event.cache == other.cache && event.key == other.key && event.kind == other.kind &&
    event.time == other.time && event.origin == other.origin &&
    sameValue event.old other.old && sameValue event.new other.new

/-! ## Events of the four kinds of change -/

def added (cache key : String) (new : Json.Value) (now : Moment) : Event :=
  ⟨cache, .entry key, .added, now, .localNode, none, some new⟩

def updated (cache key : String) (old new : Json.Value) (now : Moment) : Event :=
  ⟨cache, .entry key, .updated, now, .localNode, some old, some new⟩

def evicted (cache key : String) (now : Moment) : Event :=
  ⟨cache, .entry key, .evicted, now, .localNode, none, none⟩

def cleared (cache : String) (now : Moment) : Event :=
  ⟨cache, .all, .evicted, now, .localNode, none, none⟩

end Event
end CacheSync
