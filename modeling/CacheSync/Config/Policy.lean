import CacheSync.Event.Basic
import CacheSync.Text.Blank

/-!
# Propagation policies

A cache is kept coherent in one of two ways.  For an invalidated cache, other nodes drop what
changed and no value travels.  For a replicated cache they install the new value.
-/

namespace CacheSync

inductive Policy where
  /-- Other nodes drop the entry. -/
  | invalidated
  /-- Other nodes take over the new value. -/
  | replicated
  deriving DecidableEq

namespace Policy

def name : Policy → String
  | .invalidated => "invalidated"
  | .replicated => "replicated"

def includesValues : Policy → Bool
  | .invalidated => false
  | .replicated => true

/-- Whether a kind of change is sent.  An addition or an expiry makes no copy elsewhere wrong, so
an invalidated cache keeps it to itself. -/
def propagates : Policy → EventKind → Bool
  | .replicated, _ => true
  | .invalidated, .updated => true
  | .invalidated, .evicted => true
  | .invalidated, _ => false

def normalWord (text : String) : String :=
  Text.foldCase (Text.trim text)

def ofText (text : String) : Except String Policy :=
  let word := normalWord text
  if word = "invalidated" then .ok .invalidated
  else if word = "replicated" then .ok .replicated
  else .error ("unknown cache type `" ++ word ++ "`")

end Policy
end CacheSync
