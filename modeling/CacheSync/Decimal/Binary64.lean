/-!
# Double-precision numbers

The 64-bit floating-point numbers, read off their bits.  A finite number is exactly
`significand * 2 ^ exponent` up to its sign, so all arithmetic here is done on natural numbers
and rounded once, to the nearest number and on a tie to the even significand.
-/

namespace CacheSync

/-- A double-precision number, given by its 64 bits. -/
structure Binary64 where
  bits : UInt64
  deriving DecidableEq

namespace Binary64

/-! ## Fields -/

def signBit : Nat := 9223372036854775808

/-- The value of the bit above the fraction: the leading bit of a significand that is not stored. -/
def hiddenBit : Nat := 4503599627370496

def negative (x : Binary64) : Bool :=
  decide (signBit ≤ x.bits.toNat)

/-- The bits without the sign.  They grow with the magnitude. -/
def magnitudeBits (x : Binary64) : Nat :=
  x.bits.toNat % signBit

def exponentField (x : Binary64) : Nat :=
  x.magnitudeBits / hiddenBit

def fraction (x : Binary64) : Nat :=
  x.bits.toNat % hiddenBit

/-- Neither an infinity nor a NaN. -/
def isFinite (x : Binary64) : Bool :=
  x.exponentField < 2047

def isNaN (x : Binary64) : Bool :=
  x.exponentField == 2047 && x.fraction != 0

def significand (x : Binary64) : Nat :=
  if x.exponentField = 0 then x.fraction else hiddenBit + x.fraction

def exponent (x : Binary64) : Int :=
  if x.exponentField = 0 then -1074 else (x.exponentField : Int) - 1075

def ofMagnitude (negative : Bool) (magnitude : Nat) : Binary64 :=
  ⟨UInt64.ofNat (magnitude + if negative then signBit else 0)⟩

def infinityBits : Nat :=
  2047 * hiddenBit

def infinity (negative : Bool) : Binary64 :=
  ofMagnitude negative infinityBits

def nan : Binary64 :=
  ofMagnitude false (infinityBits + hiddenBit / 2)

def zero (negative : Bool) : Binary64 :=
  ofMagnitude negative 0

def isZero (x : Binary64) : Bool :=
  x.magnitudeBits == 0

def neg (x : Binary64) : Binary64 :=
  ofMagnitude (!x.negative) x.magnitudeBits

/-! ## Magnitudes as ratios -/

/-- A non-negative rational number; the second part is positive. -/
structure Ratio where
  num : Nat
  den : Nat

namespace Ratio

def ofNat (n : Nat) : Ratio :=
  ⟨n, 1⟩

def mul (a b : Ratio) : Ratio :=
  ⟨a.num * b.num, a.den * b.den⟩

def div (a b : Ratio) : Ratio :=
  ⟨a.num * b.den, a.den * b.num⟩

def scale (a : Ratio) (base : Nat) : Int → Ratio
  | .ofNat n => ⟨a.num * Nat.pow base n, a.den⟩
  | .negSucc n => ⟨a.num, a.den * Nat.pow base (n + 1)⟩

/-- The quotient rounded to the nearest integer, a half going to the even neighbour. -/
def round (a : Ratio) : Nat :=
  let quotient := a.num / a.den
  let rest := a.num % a.den
  if 2 * rest < a.den then quotient
  else if a.den < 2 * rest then quotient + 1
  else quotient + quotient % 2

end Ratio

def toRatio (x : Binary64) : Ratio :=
  (Ratio.ofNat x.significand).scale 2 x.exponent

/-! ## Rounding -/

/-- The magnitude bits of the number nearest to a ratio.

The exponent is the one that gives the significand 53 bits, or the least exponent there is.  A
significand that rounds up to `2 ^ 53` carries into the exponent field by itself. -/
def roundBits (a : Ratio) : Nat :=
  if a.num = 0 then 0
  else
    let estimate : Int := max (-1074) ((Nat.log2 a.num : Int) - Nat.log2 a.den - 53)
    let wide := a.scale 2 (-estimate)
    let exponent := if wide.num / wide.den < 2 * hiddenBit then estimate else estimate + 1
    let significand := (a.scale 2 (-exponent)).round
    min infinityBits ((exponent + 1074).toNat * hiddenBit + significand)

/-- The number nearest to a ratio, an infinity beyond the largest finite number. -/
def ofRatio (negative : Bool) (a : Ratio) : Binary64 :=
  ofMagnitude negative (roundBits a)

def ofNat (n : Nat) : Binary64 :=
  ofRatio false (Ratio.ofNat n)

/-- The number nearest to an integer. -/
def ofInt (n : Int) : Binary64 :=
  ofRatio (n < 0) (Ratio.ofNat n.natAbs)

/-- The number nearest to `digits * 10 ^ power`.  Powers far outside the range are decided
without being computed. -/
def ofDecimal (negative : Bool) (digits : Nat) (power : Int) : Binary64 :=
  let size : Int := (Nat.log2 digits : Int) / 3 + 1
  if digits = 0 then zero negative
  else if 400 < power then infinity negative
  else if power + size < -400 then zero negative
  else ofRatio negative ((Ratio.ofNat digits).scale 10 power)

/-! ## Order -/

/-- The position of a number on the line of all numbers; the two zeros share theirs. -/
def rank (x : Binary64) : Int :=
  if x.negative then -(x.magnitudeBits : Int) else x.magnitudeBits

def le (x y : Binary64) : Bool :=
  !x.isNaN && !y.isNaN && x.rank ≤ y.rank

/-- Numerical equality: the two zeros are equal, a NaN equals nothing. -/
def same (x y : Binary64) : Bool :=
  !x.isNaN && !y.isNaN && x.rank == y.rank

end Binary64
end CacheSync
