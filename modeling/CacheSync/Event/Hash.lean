import CacheSync.Event.Basic
import CacheSync.Text.Utf8

/-!
# Routing hash

Every node computes the same hash for an entry, so that all work on one entry takes one stripe.
It is the 64-bit FNV-1a hash of the cache name and the key, with an octet between them that ends
the name.  A wildcard has an octet of its own in place of a key.
-/

namespace CacheSync.Routing

def offsetBasis : UInt64 := 0xcbf29ce484222325

def prime : UInt64 := 0x100000001b3

/-- The octet between cache name and key. -/
def separator : UInt8 := 0x1f

/-- The octet that stands for every key.  It occurs in no text. -/
def wildcard : UInt8 := 0xff

/-- Take one octet into a hash. -/
def step (hash : UInt64) (octet : UInt8) : UInt64 :=
  (hash ^^^ octet.toUInt64) * prime

/-- The octets that the hash of an entry is taken over. -/
def keyOctets : EntryKey → List UInt8
  | .all => [wildcard]
  | .entry key => Utf8.octets key

def hash (cache : String) (key : EntryKey) : UInt64 :=
  (Utf8.octets cache ++ separator :: keyOctets key).foldl step offsetBasis

end CacheSync.Routing

namespace CacheSync.Event

def hash (event : Event) : UInt64 :=
  Routing.hash event.cache event.key

end CacheSync.Event
