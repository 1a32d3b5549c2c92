import CacheSync.Decimal.Reader

/-!
# Log levels

How much is logged is set by the name of a level, in any case, or by its number.
-/

namespace CacheSync

inductive Level where
  | off
  | error
  | warn
  | info
  | debug
  | trace
  deriving DecidableEq

namespace Level

def all : List Level :=
  [.off, .error, .warn, .info, .debug, .trace]

def name : Level → String
  | .off => "off"
  | .error => "error"
  | .warn => "warn"
  | .info => "info"
  | .debug => "debug"
  | .trace => "trace"

/-- The level that a text names.  No text at all names errors. -/
def ofText? (text : String) : Option Level :=
  match (Decimal.countOf? text).bind (all[·]?) with
  | some level => some level
  | none =>
      if text = "" then some .error
      else all.find? fun level => Text.foldCase text == level.name

example : ofText? "Warn" = some .warn := by decide +kernel
example : ofText? "05" = some .trace := by decide +kernel
example : ofText? "6" = none := by decide +kernel

end Level
end CacheSync
