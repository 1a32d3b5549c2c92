import CacheSync.Settings.Setting

/-!
# Drafts

A draft holds the settings that were given, each of the kind it has to be of, before their
meaning is checked.  Settings that are not known are passed over.  Each record may be written as a
table or as the list of its fields in order.
-/

namespace CacheSync
namespace Draft

open Setting (optional? part?)

structure Logging where
  level : Option String
  json : Option Bool

namespace Logging

def empty : Logging :=
  ⟨none, none⟩

def ofSetting? (setting : Setting) : Option Logging := do
  let parts ← setting.record? ["level", "json"]
  some ⟨← optional? Setting.text? "level" parts, ← optional? Setting.bool? "json" parts⟩

end Logging

structure Comparison where
  probableCount : Option Nat
  expirationSeconds : Option Nat

def Comparison.ofSetting? (setting : Setting) : Option Comparison := do
  let parts ← setting.record? ["probable_element_count", "expiration_seconds"]
  some ⟨← optional? Setting.count? "probable_element_count" parts,
    ← optional? Setting.count? "expiration_seconds" parts⟩

structure Cache where
  name : Option String
  policy : Option String
  aliases : List String
  usesTimestamps : Bool
  comparison : Option Comparison

namespace Cache

def textsOf? (setting : Setting) : Option (List String) := do
  (← setting.list?).mapM Setting.text?

def ofSetting? (setting : Setting) : Option Cache := do
  let parts ← setting.record? ["name", "type", "aliases", "use_timestamp", "timestamp"]
  some ⟨← optional? Setting.text? "name" parts, ← optional? Setting.text? "type" parts,
    ← part? textsOf? [] "aliases" parts, ← part? Setting.bool? false "use_timestamp" parts,
    ← optional? Comparison.ofSetting? "timestamp" parts⟩

def listOf? (setting : Setting) : Option (List Cache) := do
  (← setting.list?).mapM ofSetting?

end Cache

structure Dispatch where
  mode : Option String
  stripes : Option Nat
  capacity : Option Nat

namespace Dispatch

def empty : Dispatch :=
  ⟨none, none, none⟩

def ofSetting? (setting : Setting) : Option Dispatch := do
  let parts ← setting.record? ["mode", "stripes", "capacity"]
  some ⟨← optional? Setting.text? "mode" parts, ← optional? Setting.count? "stripes" parts,
    ← optional? Setting.count? "capacity" parts⟩

end Dispatch

structure Recovery where
  initialBackoffMillis : Option Nat
  multiplier : Option Binary64
  maxBackoffMillis : Option Nat
  windowSeconds : Option Nat
  jitter : Option Binary64

namespace Recovery

def empty : Recovery :=
  ⟨none, none, none, none, none⟩

def ofSetting? (setting : Setting) : Option Recovery := do
  let parts ← setting.record?
    ["initial_backoff_ms", "multiplier", "max_backoff_ms", "max_recovery_seconds", "jitter"]
  some ⟨← optional? Setting.count? "initial_backoff_ms" parts,
    ← optional? Setting.float? "multiplier" parts,
    ← optional? Setting.count? "max_backoff_ms" parts,
    ← optional? Setting.count? "max_recovery_seconds" parts,
    ← optional? Setting.float? "jitter" parts⟩

end Recovery

structure Cleanup where
  background : Option Bool
  intervalSeconds : Option Nat

namespace Cleanup

def empty : Cleanup :=
  ⟨none, none⟩

def ofSetting? (setting : Setting) : Option Cleanup := do
  let parts ← setting.record? ["async_cleanup", "cleanup_interval_seconds"]
  some ⟨← optional? Setting.bool? "async_cleanup" parts,
    ← optional? Setting.count? "cleanup_interval_seconds" parts⟩

end Cleanup

structure Health where
  threshold : Option Nat

namespace Health

def empty : Health :=
  ⟨none⟩

def ofSetting? (setting : Setting) : Option Health := do
  let parts ← setting.record? ["broken_worker_threshold"]
  some ⟨← optional? Setting.count? "broken_worker_threshold" parts⟩

end Health
end Draft

/-- All settings that were given. -/
structure Draft where
  logging : Draft.Logging
  caches : List Draft.Cache
  producer : Draft.Dispatch
  consumer : Draft.Dispatch
  recovery : Draft.Recovery
  timestamps : Draft.Cleanup
  health : Draft.Health

open Draft Setting in
def Draft.ofSetting? (setting : Setting) : Option Draft := do
  let parts ← setting.record?
    ["logging", "caches", "producer", "consumer", "recovery", "timestamps", "health"]
  some ⟨← part? Logging.ofSetting? .empty "logging" parts,
    ← part? Cache.listOf? [] "caches" parts,
    ← part? Dispatch.ofSetting? .empty "producer" parts,
    ← part? Dispatch.ofSetting? .empty "consumer" parts,
    ← part? Recovery.ofSetting? .empty "recovery" parts,
    ← part? Cleanup.ofSetting? .empty "timestamps" parts,
    ← part? Health.ofSetting? .empty "health" parts⟩

end CacheSync
