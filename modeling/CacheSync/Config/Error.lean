import CacheSync.Side

/-!
# Configuration errors

Each error names what makes a configuration inconsistent.
-/

namespace CacheSync

/-- What is wrong with an alias. -/
inductive AliasFlaw where
  | empty
  | ownName
  | repeated
  | takenElsewhere
  | targetNotInvalidated
  deriving DecidableEq

namespace AliasFlaw

def reason : AliasFlaw → String
  | .empty => "alias must not be empty"
  | .ownName => "alias must differ from the cache name"
  | .repeated => "alias is listed twice"
  | .takenElsewhere => "alias is already declared by another cache"
  | .targetNotInvalidated => "aliased cache is configured and not invalidated"

end AliasFlaw

/-- What is wrong with the parameters of timestamp comparison. -/
inductive ComparisonFlaw where
  | noElements
  | noExpiration
  deriving DecidableEq

namespace ComparisonFlaw

def reason : ComparisonFlaw → String
  | .noElements => "probable element count must be positive"
  | .noExpiration => "expiration must be positive"

end ComparisonFlaw

/-- What is wrong with recovery settings. -/
inductive RecoveryFlaw where
  | noBackoff
  | maxBelowInitial
  | badMultiplier
  | badJitter
  | noWindow
  deriving DecidableEq

namespace RecoveryFlaw

def reason : RecoveryFlaw → String
  | .noBackoff => "initial backoff must be positive"
  | .maxBelowInitial => "max backoff must not be below the initial backoff"
  | .badMultiplier => "multiplier must be a finite number of at least 1"
  | .badJitter => "jitter must lie between 0 and 1"
  | .noWindow => "max recovery time must be positive"

end RecoveryFlaw

inductive ConfigError where
  | emptyCacheName
  | duplicateCache (name : String)
  | aliasOnReplicated (cache : String)
  | invalidAlias (cache aliasName : String) (flaw : AliasFlaw)
  | missingTimestamp (cache : String)
  | invalidTimestamp (cache : String) (flaw : ComparisonFlaw)
  | invalidStripes (side : Side) (stripes : Nat)
  | invalidCapacity (side : Side) (capacity : Nat)
  | invalidRecovery (flaw : RecoveryFlaw)
  | invalidWorkerThreshold
  | missingChannel
  | missingCacheManager
  deriving DecidableEq

namespace ConfigError

/-- The name of an error without its circumstances. -/
def kind : ConfigError → String
  | .emptyCacheName => "EmptyCacheName"
  | .duplicateCache _ => "DuplicateCache"
  | .aliasOnReplicated _ => "AliasOnReplicated"
  | .invalidAlias _ _ _ => "InvalidAlias"
  | .missingTimestamp _ => "MissingTimestamp"
  | .invalidTimestamp _ _ => "InvalidTimestamp"
  | .invalidStripes _ _ => "InvalidStripes"
  | .invalidCapacity _ _ => "InvalidCapacity"
  | .invalidRecovery _ => "InvalidRecovery"
  | .invalidWorkerThreshold => "InvalidWorkerThreshold"
  | .missingChannel => "MissingChannel"
  | .missingCacheManager => "MissingCacheManager"

def quoted (name : String) : String :=
  "`" ++ name ++ "`"

def message : ConfigError → String
  | .emptyCacheName => "cache name must not be empty"
  | .duplicateCache name => "cache " ++ quoted name ++ " is configured more than once"
  | .aliasOnReplicated cache => "replicated cache " ++ quoted cache ++ " cannot declare aliases"
  | .invalidAlias cache aliasName flaw =>
      "alias " ++ quoted aliasName ++ " of cache " ++ quoted cache ++ " is invalid: " ++ flaw.reason
  | .missingTimestamp cache =>
      "cache " ++ quoted cache ++ " enables timestamp comparison without its parameters"
  | .invalidTimestamp cache flaw =>
      "timestamp comparison of cache " ++ quoted cache ++ " is invalid: " ++ flaw.reason
  | .invalidStripes side stripes =>
      side.name ++ " stripe count " ++ toString stripes ++ " must be a positive power of two"
  | .invalidCapacity side capacity =>
      side.name ++ " ring capacity " ++ toString capacity ++ " must be a positive power of two"
  | .invalidRecovery flaw => "recovery settings are invalid: " ++ flaw.reason
  | .invalidWorkerThreshold => "broken worker threshold must be at least 1"
  | .missingChannel => "no message channel was provided"
  | .missingCacheManager => "no cache manager was provided"

end ConfigError
end CacheSync
