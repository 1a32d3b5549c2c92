import CacheSync.Config.Error
import CacheSync.Config.Policy

/-!
# The configuration of one cache

A cache is configured by its name, its policy, the aliases that are invalidated along with it,
and whether the times of events decide between conflicting changes.
-/

namespace CacheSync

/-- How timestamp records of a cache are kept. -/
structure Comparison where
  /-- The number of records above which old ones may be removed. -/
  probableCount : Nat
  /-- The age above which a record may be removed. -/
  expiration : Duration
  deriving DecidableEq

namespace Comparison

def default : Comparison where
  probableCount := 10000
  expiration := .ofSeconds 300

def check (cache : String) (comparison : Comparison) : Except ConfigError Unit :=
  if comparison.probableCount = 0 then .error (.invalidTimestamp cache .noElements)
  else if comparison.expiration.isZero then .error (.invalidTimestamp cache .noExpiration)
  else .ok ()

end Comparison

/-- The configuration of a cache as it is written down. -/
structure CacheDefinition where
  name : String
  policy : Policy
  aliases : List String
  comparison : Option Comparison

/-- The configuration of a cache. -/
structure CacheConfig where
  name : String
  policy : Policy
  aliases : List String
  comparison : Option Comparison
  deriving DecidableEq

namespace CacheConfig

def usesTimestamps (config : CacheConfig) : Bool :=
  config.comparison.isSome

end CacheConfig

namespace CacheDefinition

def aliasFlaw? (name : String) (before : List String) (aliasName : String) : Option AliasFlaw :=
  if aliasName = "" then some .empty
  else if aliasName = name then some .ownName
  else if aliasName ∈ before then some .repeated
  else none

def checkAliases (name : String) : (before aliases : List String) → Except ConfigError Unit
  | _, [] => .ok ()
  | before, aliasName :: rest =>
      match aliasFlaw? name before aliasName with
      | some flaw => .error (.invalidAlias name aliasName flaw)
      | none => checkAliases name (before ++ [aliasName]) rest

def checkComparison (name : String) : Option Comparison → Except ConfigError Unit
  | none => .ok ()
  | some comparison => comparison.check name

/-- Check a definition by itself.  Names and aliases count without the blanks around them. -/
def build (definition : CacheDefinition) : Except ConfigError CacheConfig := do
  let name := Text.trim definition.name
  let aliases := definition.aliases.map Text.trim
  if name = "" then .error .emptyCacheName
  else if definition.policy = .replicated ∧ definition.aliases ≠ [] then
    .error (.aliasOnReplicated name)
  else
    checkAliases name [] aliases
    checkComparison name definition.comparison
    .ok ⟨name, definition.policy, aliases, definition.comparison⟩

end CacheDefinition
end CacheSync
