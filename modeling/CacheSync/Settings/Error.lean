import CacheSync.Config.Error

/-!
# Errors of loading

Settings cannot be loaded when a source cannot be read or holds a value of a wrong kind, when a
setting has a value without a meaning, or when the configuration they describe is inconsistent.
-/

namespace CacheSync

inductive LoadError where
  /-- A source cannot be read, or a value is of a wrong kind. -/
  | unreadable
  | unknownLevel
  | unnamedCache (index : Nat)
  | untypedCache (name : String)
  /-- The type of a cache names no policy. -/
  | unknownType (name reason : String)
  | unknownMode (side : Side) (mode : String)
  | bus (error : ConfigError)
  deriving DecidableEq

namespace LoadError

/-- The name of an error; that of an error inside it follows behind a point. -/
def kind : LoadError → String
  | .unreadable => "Build"
  | .bus error => "Bus." ++ error.kind
  | _ => "Invalid"

open ConfigError (quoted)

def invalid (key reason : String) : String :=
  "invalid configuration for " ++ quoted key ++ ": " ++ reason

def expectedLevels : String :=
  "expected one of \"off\", \"error\", \"warn\", \"info\", \"debug\", \"trace\", or a number 0-5"

def message : LoadError → String
  | .unreadable => "failed to build configuration"
  | .unknownLevel =>
      invalid "logging.level"
        ("failed to parse: error parsing level filter: " ++ expectedLevels)
  | .unnamedCache index =>
      invalid "caches.name" ("cache #" ++ toString index ++ " has no name")
  | .untypedCache name =>
      invalid "caches.type"
        ("cache " ++ quoted name ++ " must set " ++ quoted "invalidated" ++ " or " ++
          quoted "replicated")
  | .unknownType name reason =>
      invalid "caches.type" ("cache " ++ quoted name ++ ": " ++ reason)
  | .unknownMode side mode =>
      invalid (side.name ++ ".mode")
        ("unknown mode " ++ quoted mode ++ ", expected " ++ quoted "sync" ++ " or " ++
          quoted "striped")
  | .bus error => "invalid bus configuration: " ++ error.message

end LoadError
end CacheSync
