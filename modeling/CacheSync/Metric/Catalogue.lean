/-!
# The catalogue of metrics

Every metric a node reports, with its identifier, its description, its kind and its unit.
-/

namespace CacheSync

/-- What a metric does with the numbers reported to it. -/
inductive MetricKind where
  /-- Adds them up. -/
  | counter
  /-- Shows the last one. -/
  | gauge
  /-- Keeps their distribution. -/
  | histogram
  deriving DecidableEq

namespace MetricKind

def name : MetricKind → String
  | .counter => "Counter"
  | .gauge => "Gauge"
  | .histogram => "Histogram"

def registryName : MetricKind → String
  | .counter => "counter"
  | .gauge => "gauge"
  | .histogram => "histogram"

end MetricKind

/-- What the numbers of a metric count. -/
inductive MetricUnit where
  | count
  | milliseconds
  deriving DecidableEq

namespace MetricUnit

def name : MetricUnit → String
  | .count => "count"
  | .milliseconds => "milliseconds"

end MetricUnit

/-- The metrics of a node. -/
inductive Metric where
  | eventsSent
  | eventsFiltered
  | eventsSuppressed
  | eventsReceived
  | eventsApplied
  | staleEvents
  | decodeErrors
  | applyFailures
  | produceErrors
  | produceLatency
  | droppedMessages
  | ringFull
  | ringReadCursor
  | ringWriteCursor
  | workerFailures
  | recoveryAttempts
  | recoveryFailures
  | timestampCleanups
  | timestampEntries
  deriving DecidableEq

namespace Metric

def all : List Metric :=
  [.eventsSent, .eventsFiltered, .eventsSuppressed, .eventsReceived, .eventsApplied, .staleEvents,
    .decodeErrors, .applyFailures, .produceErrors, .produceLatency, .droppedMessages, .ringFull,
    .ringReadCursor, .ringWriteCursor, .workerFailures, .recoveryAttempts, .recoveryFailures,
    .timestampCleanups, .timestampEntries]

def id : Metric → String
  | .eventsSent => "cachebus_events_sent_total"
  | .eventsFiltered => "cachebus_events_filtered_total"
  | .eventsSuppressed => "cachebus_events_suppressed_total"
  | .eventsReceived => "cachebus_events_received_total"
  | .eventsApplied => "cachebus_events_applied_total"
  | .staleEvents => "cachebus_events_stale_total"
  | .decodeErrors => "cachebus_decode_errors_total"
  | .applyFailures => "cachebus_apply_failures_total"
  | .produceErrors => "cachebus_produce_errors_total"
  | .produceLatency => "cachebus_produce_ms"
  | .droppedMessages => "cachebus_messages_dropped_total"
  | .ringFull => "cachebus_ring_full_total"
  | .ringReadCursor => "cachebus_ring_read_cursor"
  | .ringWriteCursor => "cachebus_ring_write_cursor"
  | .workerFailures => "cachebus_worker_failures_total"
  | .recoveryAttempts => "cachebus_recovery_attempts_total"
  | .recoveryFailures => "cachebus_recovery_failures_total"
  | .timestampCleanups => "cachebus_timestamp_cleanups_total"
  | .timestampEntries => "cachebus_timestamp_entries"

def description : Metric → String
  | .eventsSent => "Total number of events handed to the message channel."
  | .eventsFiltered => "Total number of local events not propagated for their cache type."
  | .eventsSuppressed => "Total number of remote-origin events kept from being re-sent."
  | .eventsReceived => "Total number of messages delivered by the message channel."
  | .eventsApplied => "Total number of remote events applied to a local cache."
  | .staleEvents => "Total number of remote events rejected by timestamp comparison."
  | .decodeErrors => "Total number of received messages that failed to deserialize."
  | .applyFailures => "Total number of remote events that could not be applied."
  | .produceErrors => "Total number of events the producer failed to send."
  | .produceLatency => "Latency of a single channel send in milliseconds."
  | .droppedMessages => "Total number of items dropped because the pipeline was closed."
  | .ringFull => "Total number of offers that found their ring buffer stripe full."
  | .ringReadCursor => "Read cursor of a ring buffer stripe."
  | .ringWriteCursor => "Write cursor of a ring buffer stripe."
  | .workerFailures => "Total number of stripe workers that terminated permanently."
  | .recoveryAttempts => "Total number of channel recovery attempts."
  | .recoveryFailures => "Total number of channel recoveries that gave up."
  | .timestampCleanups => "Total number of timestamp store cleanups."
  | .timestampEntries => "Current number of timestamp records of a cache."

def kind : Metric → MetricKind
  | .produceLatency => .histogram
  | .ringReadCursor => .gauge
  | .ringWriteCursor => .gauge
  | .timestampEntries => .gauge
  | _ => .counter

def unit : Metric → MetricUnit
  | .produceLatency => .milliseconds
  | _ => .count

end Metric
end CacheSync
