import CacheSync.Config.Bus
import CacheSync.Health
import CacheSync.Json.Printer
import CacheSync.Metric.Meter
import CacheSync.Recovery.Ledger
import CacheSync.Settings.Basic

/-!
# Reports

What a node tells its operator about its configuration, its health and its counters, as JSON.
Durations are counted in nanoseconds and written as text, since they exceed what every reader of
JSON can count; values of entries are written as the text of their JSON.
-/

namespace CacheSync

open Json (Tree Value)

namespace Report

def optional {α : Type} (f : α → Tree) : Option α → Tree
  | none => .null
  | some a => f a

def texts (items : List String) : Tree :=
  .array (items.map .text)

def count (n : Nat) : Tree :=
  .text (toString n)

def numbers (members : List (String × Nat)) : Tree :=
  .object (members.map fun (name, n) => (name, .ofNat n))

def value (value : Value) : Tree :=
  .text value.toText

def factor (x : Binary64) : Tree :=
  .text (String.ofList (RecoverySettings.factorLayout.write x))

end Report

open Report

def Duration.report (d : Duration) : Tree :=
  count d.nanos

/-! ## Configuration -/

def Comparison.report (comparison : Comparison) : Tree :=
  .array [.ofNat comparison.probableCount, comparison.expiration.report]

def CacheConfig.report (config : CacheConfig) : Tree :=
  .object [("name", .text config.name), ("type", .text config.policy.name),
    ("aliases", texts config.aliases), ("uses_timestamp", .bool config.usesTimestamps),
    ("timestamp", optional Comparison.report config.comparison)]

def Dispatch.report : Dispatch → Tree
  | .direct => .text "sync"
  | .striped stripes capacity => .array [.ofNat stripes, .ofNat capacity]

def RecoverySettings.report (settings : RecoverySettings) : Tree :=
  .object [("initial_backoff", settings.initialBackoff.report),
    ("multiplier", factor settings.multiplier), ("max_backoff", settings.maxBackoff.report),
    ("max_recovery_time", settings.window.report), ("jitter", factor settings.jitter)]

def CleanupSettings.report (settings : CleanupSettings) : Tree :=
  .object [("async_cleanup", .bool settings.background),
    ("cleanup_interval", settings.interval.report)]

def BusConfig.report (config : BusConfig) : Tree :=
  .object [("caches", .array (config.cachesByName.map CacheConfig.report)),
    ("producer", config.producer.report), ("consumer", config.consumer.report),
    ("recovery", config.recovery.report), ("timestamp_store", config.cleanup.report),
    ("threshold", .ofNat config.threshold)]

def Settings.report (settings : Settings) : Tree :=
  .object [("level", .text settings.level.name), ("format", .text settings.format.name),
    ("bus", settings.bus.report)]

/-! ## Health -/

def HealthNote.report (note : HealthNote) : Tree :=
  .object [("severity", .text note.severity.name), ("message", .text note.message)]

def ComponentHealth.report (health : ComponentHealth) : Tree :=
  .object [("status", .text health.status.name),
    ("notes", .array (health.notes.map HealthNote.report))]

def NodeHealth.componentsReport (health : NodeHealth) : Tree :=
  .array (health.components.map fun (name, part) => .array [.text name, part.report])

/-! ## Recovery -/

def PerSide.report (counts : PerSide) : Tree :=
  .array [.ofNat counts.producer, .ofNat counts.consumer]

def Ledger.report (ledger : Ledger) : Tree :=
  .object [("recovering", ledger.recovering.report),
    ("unrecoverable", ledger.unrecoverable.report), ("interrupted", .ofNat ledger.interrupted),
    ("starvation", .bool ledger.starved)]

end CacheSync
