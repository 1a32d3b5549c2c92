import CacheSync.Wire.Message

/-!
# Encoding events

The fields of a message in their order, the values left out where the event has none or where
they are not to be sent.
-/

namespace CacheSync.Wire

open Json

def optionalMember (field : Field) : Option Value → List (String × Tree)
  | none => []
  | some value => [(field.name, value.tree)]

def keyTree : EntryKey → Tree
  | .all => .null
  | .entry key => .text key

def memberList (event : Event) : List (String × Tree) :=
  [ (Field.version.name, Tree.ofNat version),
    (Field.cache.name, .text event.cache),
    (Field.key.name, keyTree event.key),
    (Field.kind.name, .text event.kind.name),
    (Field.micros.name, Tree.ofInt event.micros) ] ++
    optionalMember .old event.old ++ optionalMember .new event.new

/-- The message of an event, with its values if they are to be sent. -/
def encode (event : Event) (includeValues : Bool) : List UInt8 :=
  Printer.tree (.object (memberList (if includeValues then event else event.withoutValues)))

end CacheSync.Wire
