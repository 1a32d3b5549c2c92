import CacheSync.Time.Moment

/-!
# Clocks

A node reads two clocks.  The wall clock dates events; the steady clock measures how long things
take.  Both are readings in nanoseconds, and time passes for both alike.
-/

namespace CacheSync

/-- One reading of both clocks. -/
structure Clock where
  wall : Moment
  steady : Moment
  deriving DecidableEq

namespace Clock

def advance (clock : Clock) (nanos : Nat) : Clock :=
  ⟨clock.wall + nanos, clock.steady + nanos⟩

/-- The reading when the steady clock shows a moment, or this one if that has passed. -/
def advanceTo (clock : Clock) (steady : Moment) : Clock :=
  clock.advance (steady - clock.steady).toNat

/-- The moment on the steady clock a duration from now.  The seconds of a moment fit 64 bits; a
moment beyond is never reached. -/
def deadline? (clock : Clock) (d : Duration) : Option Moment :=
  let due := clock.steady.after d
  if due < (Word.greatest + 1) * Duration.nanosPerSecond then some due else none

end Clock
end CacheSync
