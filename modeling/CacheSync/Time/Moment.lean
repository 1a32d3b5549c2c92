import CacheSync.Time.Duration

/-!
# Moments

A moment is a count of nanoseconds since the beginning of 1970 in universal time.  Messages and
timestamp records carry whole microseconds, which a moment is cut to towards zero.
-/

namespace CacheSync

/-- Nanoseconds since the beginning of 1970. -/
abbrev Moment := Int

namespace Moment

/-- The nearest integer of a word. -/
def clamp (n : Int) : Int :=
  max Word.least (min Word.greatest n)

/-- The microseconds since 1970, cut towards zero. -/
def toMicros (moment : Moment) : Int :=
  clamp (Int.tdiv moment 1000)

/-- The first microsecond of the year -9999. -/
def earliestMicros : Int := -377705116800000000

/-- The last microsecond of the year 9999. -/
def latestMicros : Int := 253402300799999999

def ofMicros? (micros : Int) : Option Moment :=
  if earliestMicros ≤ micros ∧ micros ≤ latestMicros then some (micros * 1000) else none

def after (moment : Moment) (d : Duration) : Moment :=
  moment + d.nanos

/-- The time that has passed since an earlier moment. -/
def since (now earlier : Moment) : Duration :=
  ⟨(now - earlier).toNat⟩

end Moment
end CacheSync
