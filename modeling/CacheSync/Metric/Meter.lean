import CacheSync.Metric.Catalogue
import CacheSync.Side

/-!
# Meters

A meter keeps what a node has reported: one mark for every increment of a counter or record of a
histogram, and the readings of its gauges.  The count of a mark is how often it was made.
-/

namespace CacheSync

/-- One increment of a counter, or one record of a histogram, with its labels. -/
inductive Mark where
  | sent (cache : String)
  | filtered (cache : String)
  | suppressed (cache : String)
  | received
  | applied (cache : String)
  | stale (cache : String)
  | undecodable
  | applyFailed (cache : String)
  | produceFailed (cache : String)
  | produced
  | dropped (side : Side)
  | ringFull (side : Side)
  | workerFailed (side : Side)
  | recoveryAttempted (side : Side)
  | recoveryFailed (side : Side)
  | timestampsCleaned (cache : String)
  deriving DecidableEq

namespace Mark

def metric : Mark → Metric
  | .sent _ => .eventsSent
  | .filtered _ => .eventsFiltered
  | .suppressed _ => .eventsSuppressed
  | .received => .eventsReceived
  | .applied _ => .eventsApplied
  | .stale _ => .staleEvents
  | .undecodable => .decodeErrors
  | .applyFailed _ => .applyFailures
  | .produceFailed _ => .produceErrors
  | .produced => .produceLatency
  | .dropped _ => .droppedMessages
  | .ringFull _ => .ringFull
  | .workerFailed _ => .workerFailures
  | .recoveryAttempted _ => .recoveryAttempts
  | .recoveryFailed _ => .recoveryFailures
  | .timestampsCleaned _ => .timestampCleanups

def labels : Mark → List (String × String)
  | .sent cache => [("cache", cache)]
  | .filtered cache => [("cache", cache)]
  | .suppressed cache => [("cache", cache)]
  | .received => []
  | .applied cache => [("cache", cache)]
  | .stale cache => [("cache", cache)]
  | .undecodable => []
  | .applyFailed cache => [("cache", cache)]
  | .produceFailed cache => [("cache", cache)]
  | .produced => []
  | .dropped side => [("component", side.name)]
  | .ringFull side => [("component", side.name)]
  | .workerFailed side => [("role", side.name)]
  | .recoveryAttempted side => [("role", side.name)]
  | .recoveryFailed side => [("role", side.name)]
  | .timestampsCleaned cache => [("cache", cache)]

end Mark

/-- A gauge, with its labels. -/
inductive Gauge where
  | readCursor (side : Side) (stripe : Nat)
  | writeCursor (side : Side) (stripe : Nat)
  | timestampEntries (cache : String)
  deriving DecidableEq

namespace Gauge

def metric : Gauge → Metric
  | .readCursor _ _ => .ringReadCursor
  | .writeCursor _ _ => .ringWriteCursor
  | .timestampEntries _ => .timestampEntries

def labels : Gauge → List (String × String)
  | .readCursor side stripe => [("component", side.name), ("stripe", toString stripe)]
  | .writeCursor side stripe => [("component", side.name), ("stripe", toString stripe)]
  | .timestampEntries cache => [("cache", cache)]

end Gauge

def labelledName (metric : Metric) (labels : List (String × String)) : String :=
  if labels.isEmpty then metric.id
  else
    metric.id ++ "\x7b" ++
      String.intercalate "," (labels.map fun label => label.1 ++ "=" ++ label.2) ++ "\x7d"

/-- What has been reported, the latest first. -/
structure Meter where
  marks : List Mark
  readings : List (Gauge × Nat)

namespace Meter

def empty : Meter :=
  ⟨[], []⟩

def mark (meter : Meter) (mark : Mark) : Meter :=
  { meter with marks := mark :: meter.marks }

def markAll (meter : Meter) (marks : List Mark) : Meter :=
  { meter with marks := marks.reverse ++ meter.marks }

def read (meter : Meter) (gauge : Gauge) (value : Nat) : Meter :=
  { meter with readings := (gauge, value) :: meter.readings }

def count (meter : Meter) (mark : Mark) : Nat :=
  meter.marks.count mark

/-- The marks and readings made since an earlier state of the meter, the earliest first. -/
def since (meter earlier : Meter) : Meter where
  marks := (meter.marks.take (meter.marks.length - earlier.marks.length)).reverse
  readings := (meter.readings.take (meter.readings.length - earlier.readings.length)).reverse

/-! ## Totals -/

def totals (marks : List Mark) : List (String × Nat) :=
  let names := marks.map fun mark => labelledName mark.metric mark.labels
  names.eraseDups.map fun name => (name, names.count name)

/-- The last of the readings of each gauge, given from the earliest on. -/
def lastReadings (readings : List (Gauge × Nat)) : List (String × Nat) :=
  let latest := readings.reverse
  (latest.map (·.1)).eraseDups.map fun gauge =>
    (labelledName gauge.metric gauge.labels, (latest.lookup gauge).getD 0)

/-! ## Facts -/

@[simp]
theorem count_mark (meter : Meter) (made counted : Mark) :
    (meter.mark made).count counted = meter.count counted + if made = counted then 1 else 0 := by
  simp [mark, count, List.count_cons]

@[simp]
theorem count_read (meter : Meter) (gauge : Gauge) (value : Nat) (counted : Mark) :
    (meter.read gauge value).count counted = meter.count counted := rfl

end Meter
end CacheSync
