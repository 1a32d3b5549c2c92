import CacheSync.Decimal.Binary64
import CacheSync.Table
import CacheSync.Word

/-!
# TOML values

A value of a TOML file.  A table remembers how it came to be, since that decides which later lines
of the file may add to it.  Dates and times are kept as their text.
-/

namespace CacheSync.Toml

/-- How a table came to be. -/
inductive Origin where
  /-- As the parent of a table with a header of its own. -/
  | implied
  /-- By dotted keys. -/
  | dotted
  /-- By a header. -/
  | header
  /-- Between braces. -/
  | inline
  deriving DecidableEq

/-- A value.  An array is `open` when its items are tables that headers add, so that a later
header may add one more. -/
inductive Value where
  | text (s : String)
  | integer (n : Int)
  | float (x : Binary64)
  | bool (b : Bool)
  | array (isOpen : Bool) (items : List Value)
  | table (origin : Origin) (members : List (String × Value))

/-- The members of a table, each under its name. -/
abbrev Members := List (String × Value)

def integer? (n : Int) : Option Value :=
  if Word.fits n then some (.integer n) else none

end CacheSync.Toml
