import CacheSync.Event.Hash
import CacheSync.Json.Printer
import CacheSync.Json.Reader

/-!
# Messages

A message is the JSON text of an event.  Its fields are a format version, the cache, the key, the
kind of change, the time in microseconds and, where they are sent, the two values.  A null key is
the wildcard.  The fields are declared here in the order they are written in.
-/

namespace CacheSync.Wire

def version : Nat := 1

/-- The fields of a message. -/
inductive Field where
  | version
  | cache
  | key
  | kind
  | micros
  | old
  | new
  deriving DecidableEq

namespace Field

def name : Field → String
  | .version => "v"
  | .cache => "cache"
  | .key => "key"
  | .kind => "type"
  | .micros => "time_us"
  | .old => "old"
  | .new => "new"

def all : List Field :=
  [.version, .cache, .key, .kind, .micros, .old, .new]

def ofName? (name : String) : Option Field :=
  all.find? (·.name == name)

/-- The fields that a message given as a row may end before. -/
def mayEndRow : Field → Bool
  | .old => true
  | .new => true
  | _ => false

end Field

/-- Why a message cannot be made or understood. -/
inductive CodecError where
  /-- The text is no message. -/
  | undecodable (fault : Json.Fault)
  | unsupportedVersion (found expected : Nat)
  | invalidTime (micros : Int)
  deriving DecidableEq

namespace CodecError

/-- The name of an error without its circumstances. -/
def kind : CodecError → String
  | .undecodable _ => "Decode"
  | .unsupportedVersion _ _ => "UnsupportedVersion"
  | .invalidTime _ => "InvalidTime"

def message : CodecError → String
  | .undecodable _ => "failed to decode event"
  | .unsupportedVersion found expected =>
      "unsupported wire version " ++ toString found ++ " (expected " ++ toString expected ++ ")"
  | .invalidTime micros => "event time " ++ String.ofList (Decimal.ofInt micros) ++ "us is out of range"

end CodecError
end CacheSync.Wire
