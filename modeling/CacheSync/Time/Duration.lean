import CacheSync.Decimal.Layout
import CacheSync.Word

/-!
# Durations

Lengths of time in whole nanoseconds, up to a largest one.  Scaling by a floating-point factor is
done exactly and rounded to the nearest nanosecond.
-/

namespace CacheSync

/-- A length of time. -/
structure Duration where
  nanos : Nat
  deriving DecidableEq

namespace Duration

def nanosPerSecond : Nat := 1000000000
def nanosPerMilli : Nat := 1000000
def nanosPerMicro : Nat := 1000

/-- The longest duration: the seconds of 64 bits and the last nanosecond of the next one. -/
def longest : Duration :=
  ⟨Word.bound * nanosPerSecond - 1⟩

def ofSeconds (n : Nat) : Duration :=
  ⟨n * nanosPerSecond⟩

def ofMillis (n : Nat) : Duration :=
  ⟨n * nanosPerMilli⟩

def isZero (d : Duration) : Bool :=
  d.nanos == 0

def micros (d : Duration) : Nat :=
  d.nanos / nanosPerMicro

def shorter (a b : Duration) : Duration :=
  ⟨min a.nanos b.nanos⟩

/-- The duration times a ratio, at most the longest one. -/
def scaleBy (d : Duration) (ratio : Binary64.Ratio) : Duration :=
  ⟨min longest.nanos ((Binary64.Ratio.ofNat d.nanos).mul ratio).round⟩

/-- The duration times a factor.  A product that is no duration counts as the longest one. -/
def scale (d : Duration) (factor : Binary64) : Duration :=
  if !factor.isFinite then longest
  else if factor.negative && !factor.isZero && !d.isZero then longest
  else d.scaleBy factor.toRatio

/-! ## Written durations -/

/-- Digits after a point, without the zeros at their end. -/
def fractionChars (digits : List Char) : List Char :=
  match (digits.reverse.dropWhile (· == '0')).reverse with
  | [] => []
  | kept => '.' :: kept

/-- A count of nanoseconds in a unit of `10 ^ places` nanoseconds. -/
def inUnit (nanos places : Nat) (unit : String) : String :=
  let digits := Decimal.digitChars (nanos % Nat.pow 10 places)
  let padded := List.replicate (places - digits.length) '0' ++ digits
  String.ofList (Decimal.digitChars (nanos / Nat.pow 10 places) ++
    fractionChars (if places = 0 then [] else padded)) ++ unit

def toText (d : Duration) : String :=
  if nanosPerSecond ≤ d.nanos then inUnit d.nanos 9 "s"
  else if nanosPerMilli ≤ d.nanos then inUnit d.nanos 6 "ms"
  else if nanosPerMicro ≤ d.nanos then inUnit d.nanos 3 "µs"
  else inUnit d.nanos 0 "ns"

example : (ofMillis 1500).toText = "1.5s" := by decide +kernel
example : (⟨20⟩ : Duration).toText = "20ns" := by decide +kernel

end Duration
end CacheSync
