import CacheSync.Config.Cache
import CacheSync.Config.Dispatch
import CacheSync.Config.Recovery
import CacheSync.Table

/-!
# The configuration of a node

A node is configured by its caches, the dispatch of its two sides, and the settings of recovery,
timestamp records and health.  Rules that span several caches are checked here: names are
distinct, an alias is declared once, and an alias that names a configured cache names an
invalidated one.
-/

namespace CacheSync

/-- How timestamp records are removed. -/
structure CleanupSettings where
  /-- Whether records are removed by a thread of their own instead of the saving one. -/
  background : Bool
  /-- The least time between two removals. -/
  interval : Duration
  deriving DecidableEq

namespace CleanupSettings

def default : CleanupSettings where
  background := true
  interval := .ofSeconds 30

end CleanupSettings

/-- The configuration of a node as it is written down, its caches checked one by one. -/
structure BusDefinition where
  caches : List CacheConfig
  producer : Dispatch
  consumer : Dispatch
  recovery : RecoverySettings
  cleanup : CleanupSettings
  /-- The number of failures that breaks a side of the node. -/
  threshold : Nat

namespace BusDefinition

def default : BusDefinition where
  caches := []
  producer := .direct
  consumer := .direct
  recovery := .default
  cleanup := .default
  threshold := 1

end BusDefinition

/-- The configuration of a node. -/
structure BusConfig where
  caches : Table String CacheConfig
  aliasOwners : Table String CacheConfig
  producer : Dispatch
  consumer : Dispatch
  recovery : RecoverySettings
  cleanup : CleanupSettings
  threshold : Nat

namespace BusConfig

/-- The configuration of the cache called exactly so. -/
def cache? (config : BusConfig) (name : String) : Option CacheConfig :=
  config.caches.get? name

/-- The configuration of the cache that declares an alias. -/
def aliasOwner? (config : BusConfig) (aliasName : String) : Option CacheConfig :=
  config.aliasOwners.get? aliasName

def find? (config : BusConfig) (name : String) : Option CacheConfig :=
  (config.cache? name).or (config.aliasOwner? name)

def cachesByName (config : BusConfig) : List CacheConfig :=
  config.caches.values.mergeSort fun a b => decide (a.name ≤ b.name)

end BusConfig

namespace BusDefinition

def indexCaches (index : Table String CacheConfig) :
    List CacheConfig → Except ConfigError (Table String CacheConfig)
  | [] => .ok index
  | cache :: rest =>
      if index.contains cache.name then .error (.duplicateCache cache.name)
      else indexCaches (index.insert cache.name cache) rest

def targetAllowed (caches : Table String CacheConfig) (aliasName : String) : Bool :=
  match caches.get? aliasName with
  | none => true
  | some target => target.policy == .invalidated

def claimAliases (caches : Table String CacheConfig) (cache : CacheConfig)
    (owners : Table String CacheConfig) :
    List String → Except ConfigError (Table String CacheConfig)
  | [] => .ok owners
  | aliasName :: rest =>
      if owners.contains aliasName then .error (.invalidAlias cache.name aliasName .takenElsewhere)
      else if targetAllowed caches aliasName then
        claimAliases caches cache (owners.insert aliasName cache) rest
      else .error (.invalidAlias cache.name aliasName .targetNotInvalidated)

def indexAliases (caches owners : Table String CacheConfig) :
    List CacheConfig → Except ConfigError (Table String CacheConfig)
  | [] => .ok owners
  | cache :: rest => do
      let owners ← claimAliases caches cache owners cache.aliases
      indexAliases caches owners rest

def checkThreshold (threshold : Nat) : Except ConfigError Unit :=
  if threshold = 0 then .error .invalidWorkerThreshold else .ok ()

/-- The configuration without caches, unchecked. -/
def bare (definition : BusDefinition) : BusConfig where
  caches := .empty
  aliasOwners := .empty
  producer := definition.producer
  consumer := definition.consumer
  recovery := definition.recovery
  cleanup := definition.cleanup
  threshold := definition.threshold

def build (definition : BusDefinition) : Except ConfigError BusConfig := do
  definition.producer.check .producer
  definition.consumer.check .consumer
  definition.recovery.check
  checkThreshold definition.threshold
  let caches ← indexCaches .empty definition.caches
  let owners ← indexAliases caches .empty caches.values
  .ok { definition.bare with caches := caches, aliasOwners := owners }

end BusDefinition
end CacheSync
