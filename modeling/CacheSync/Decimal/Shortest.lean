import CacheSync.Decimal.Binary64

/-!
# Shortest decimal digits

A number is written with the fewest decimal digits that read back as the same number.  Around
the exact value lies the interval of reals that round to it.  The grid of one-digit decimals is
tried first, then that of two digits, and so on to seventeen; on each grid only the two
neighbours of the value can be the nearest hit.
-/

namespace CacheSync

/-- A decimal number `digits * 10 ^ power`. -/
structure DecimalDigits where
  digits : Nat
  power : Int

namespace DecimalDigits

/-- The same number without trailing zero digits.  `bound` limits how many are removed. -/
def strip : (bound : Nat) → DecimalDigits → DecimalDigits
  | 0, d => d
  | bound + 1, d =>
      if d.digits ≠ 0 ∧ d.digits % 10 = 0 then strip bound ⟨d.digits / 10, d.power + 1⟩ else d

end DecimalDigits

namespace Binary64

/-- Twice the distance between a finite positive number and its lower neighbour is a full unit
in the last place, except just above a power of two, where it is half of one. -/
def isBoundary (x : Binary64) : Bool :=
  x.fraction == 0 && 1 < x.exponentField

/-- The reals that round to a finite positive number, in quarters of its last place. -/
structure Interval where
  low : Nat
  exact : Nat
  high : Nat
  closed : Bool
  /-- The power of two that one quarter stands for. -/
  exponent : Int

/-- The interval of reals that round to `x`; its ends belong to it when the significand is even,
since a tie goes to the even neighbour. -/
def interval (x : Binary64) : Interval where
  low := 4 * x.significand - if x.isBoundary then 1 else 2
  exact := 4 * x.significand
  high := 4 * x.significand + 2
  closed := x.significand % 2 == 0
  exponent := x.exponent - 2

/-- The greatest power of ten that is at most the ratio, given as its exponent.  `bound` limits
the search below one. -/
def leadingPower (a : Ratio) (bound : Nat) : Int :=
  if a.den ≤ a.num then (Nat.toDigits 10 (a.num / a.den)).length - 1
  else search bound 1
where
  search : Nat → Nat → Int
    | 0, tried => -(tried : Int)
    | bound + 1, tried =>
        if a.den ≤ a.num * Nat.pow 10 tried then -(tried : Int) else search bound (tried + 1)

/-- The better of the value's two neighbours on the grid of multiples of `10 ^ power`, if one of
them lies in the interval.  Of two hits the nearer wins, and on a tie the even one. -/
def gridHit? (i : Interval) (power : Int) : Option Nat :=
  let quarters (n : Nat) : Ratio := (Ratio.ofNat n).scale 2 i.exponent
  let steps (n : Nat) : Ratio := (quarters n).scale 10 (-power)
  let value := steps i.exact
  let lower := value.num / value.den
  let upper := lower + 1
  let low := steps i.low
  let high := steps i.high
  let aboveLow := if i.closed then decide (low.num ≤ lower * low.den) else decide (low.num < lower * low.den)
  let belowHigh := if i.closed then decide (upper * high.den ≤ high.num) else decide (upper * high.den < high.num)
  let rest := 2 * (value.num % value.den)
  if aboveLow && belowHigh then
    if rest < value.den then some lower
    else if value.den < rest then some upper
    else some (lower + lower % 2)
  else if aboveLow then some lower
  else if belowHigh then some upper
  else none

/-- The first grid with a hit, from `places` digits on. -/
def searchGrids (i : Interval) (leading : Int) : (grids places : Nat) → Option DecimalDigits
  | 0, _ => none
  | grids + 1, places =>
      let power := leading - places + 1
      match gridHit? i power with
      | some digits => some ⟨digits, power⟩
      | none => searchGrids i leading grids (places + 1)

/-- The shortest decimal that reads back as a finite number's magnitude. -/
def shortest (x : Binary64) : DecimalDigits :=
  if x.isZero then ⟨0, 0⟩
  else
    let leading := leadingPower x.toRatio 330
    let found := (searchGrids x.interval leading 17 1).getD ⟨0, 0⟩
    found.strip 20

end Binary64
end CacheSync
