import CacheSync.Json.Octet
import CacheSync.Json.Tree

/-!
# Reading JSON numbers

A number without fraction and exponent is an integer as long as it fits.  Any other number is
read in double precision: the leading digits that fit 64 bits make the significand, later digits
only move the exponent, and the rounded significand is then multiplied or divided by rounded
powers of ten.
-/

namespace CacheSync

namespace Binary64

def times (x y : Binary64) : Binary64 :=
  ofRatio false (x.toRatio.mul y.toRatio)

/-- The quotient of two finite non-negative numbers; the divisor is not zero. -/
def dividedBy (x y : Binary64) : Binary64 :=
  ofRatio false (x.toRatio.div y.toRatio)

/-- The number nearest to a power of ten. -/
def tenTo (n : Nat) : Binary64 :=
  ofNat (Nat.pow 10 n)

/-- The greatest power of ten that is finite. -/
def greatestTen : Nat := 308

/-- Divide by `10 ^ n`, by the greatest finite power of ten as often as it takes. -/
def overTenTo : (rounds : Nat) → Binary64 → (n : Nat) → Binary64
  | 0, x, n => x.dividedBy (tenTo n)
  | rounds + 1, x, n =>
      if x.isZero then x else overTenTo rounds (x.dividedBy (tenTo greatestTen)) (n - greatestTen)

/-- A significand times a power of ten, or nothing beyond the largest finite number. -/
def ofScaled? (significand : Nat) (power : Int) : Option Binary64 :=
  let x := ofNat significand
  match power with
  | .ofNat n =>
      if n ≤ greatestTen then
        let scaled := x.times (tenTo n)
        if scaled.isFinite then some scaled else none
      else if x.isZero then some x
      else none
  | .negSucc n => some (x.overTenTo (n / greatestTen) (n + 1))

end Binary64

namespace Json

open Octet

/-- Why a text cannot be read. -/
inductive Fault where
  /-- The text ends inside a value. -/
  | ended
  /-- The text is no JSON. -/
  | malformed
  /-- The text is JSON of a kind or range that is not asked for. -/
  | unsuitable
  deriving DecidableEq

namespace Number

/-- Significands stay below this bound. -/
def significandBound : Nat := Word.bound

/-- Append digits to a significand while it stays in bounds.  The second part counts the digits
taken. -/
def absorb (significand : Nat) : List UInt8 → Nat × Nat
  | [] => (significand, 0)
  | digit :: rest =>
      let next := significand * 10 + digitValue digit
      if next < significandBound then
        let (final, taken) := absorb next rest
        (final, taken + 1)
      else (significand, 0)

def ofParts (negative : Bool) (significand : Nat) (power : Int) : Except Fault Number :=
  match Binary64.ofScaled? significand power with
  | none => .error .malformed
  | some x =>
      let signed := if negative then x.neg else x
      if finite : signed.isFinite = true then .ok (.float signed finite) else .error .malformed

/-- An integer where it fits, the nearest floating-point number otherwise.  The integer zero has
no sign, so a negative zero is a floating-point number. -/
def ofSignificand (negative : Bool) (significand : Nat) : Except Fault Number :=
  let n : Int := if negative then -(significand : Int) else significand
  if negative && significand == 0 then ofParts true 0 0
  else if inRange : InIntegerRange n then .ok (.int n inRange)
  else ofParts negative significand 0

/-- Exponents beyond this bound are not computed. -/
def exponentBound : Nat := 2147483648

/-- The exponent part after its letter.  An exponent out of bounds is refused when it is positive
and the number is not zero, and makes the number a zero otherwise. -/
def readExponent (negative : Bool) (significand : Nat) (power : Int) (bytes : List UInt8) :
    Except Fault (Number × List UInt8) :=
  let (down, unsigned) :=
    match bytes with
    | b :: rest => if b = plus then (false, rest) else if b = minus then (true, rest) else (false, bytes)
    | [] => (false, bytes)
  match unsigned with
  | [] => .error .ended
  | b :: _ =>
      if isDigit b then
        let digits := unsigned.takeWhile isDigit
        let rest := unsigned.dropWhile isDigit
        let exponent := digits.foldl (fun n digit => n * 10 + digitValue digit) 0
        if exponent < exponentBound then do
          let number ← ofParts negative significand
            (if down then power - exponent else power + exponent)
          .ok (number, rest)
        else if significand ≠ 0 ∧ down = false then .error .malformed
        else do
          let number ← ofParts negative 0 0
          .ok (number, rest)
      else .error .malformed

def readFraction (negative : Bool) (significand : Nat) (power : Int) (bytes : List UInt8) :
    Except Fault (Number × List UInt8) :=
  let digits := bytes.takeWhile isDigit
  let rest := bytes.dropWhile isDigit
  if digits.isEmpty then
    if rest.isEmpty then .error .ended else .error .malformed
  else
    let (final, taken) := absorb significand digits
    let finalPower := power - taken
    match rest with
    | b :: after =>
        if isExponentLetter b then readExponent negative final finalPower after
        else do
          let number ← ofParts negative final finalPower
          .ok (number, rest)
    | [] => do
        let number ← ofParts negative final finalPower
        .ok (number, rest)

/-- What may follow the whole part of a number.  `dropped` counts the digits of the whole part
that the significand leaves out. -/
def readTail (negative : Bool) (significand dropped : Nat) (bytes : List UInt8) :
    Except Fault (Number × List UInt8) :=
  let plain : Except Fault (Number × List UInt8) := do
    let number ← if dropped = 0 then ofSignificand negative significand
      else ofParts negative significand dropped
    .ok (number, bytes)
  match bytes with
  | b :: rest =>
      if b = point then readFraction negative significand dropped rest
      else if isExponentLetter b then readExponent negative significand dropped rest
      else plain
  | [] => plain

/-- A number after its sign.  The whole part has no needless zero in front. -/
def read (negative : Bool) (bytes : List UInt8) : Except Fault (Number × List UInt8) :=
  match bytes with
  | [] => .error .ended
  | b :: rest =>
      if b = zero then
        match rest with
        | next :: _ => if isDigit next then .error .malformed else readTail negative 0 0 rest
        | [] => readTail negative 0 0 rest
      else if isDigit b then
        let digits := bytes.takeWhile isDigit
        let (significand, taken) := absorb 0 digits
        readTail negative significand (digits.length - taken) (bytes.dropWhile isDigit)
      else .error .malformed

/-! ## Numbers that are not kept -/

def skipExponent (bytes : List UInt8) : Except Fault (List UInt8) :=
  let unsigned :=
    match bytes with
    | b :: rest => if b = plus ∨ b = minus then rest else bytes
    | [] => bytes
  match unsigned with
  | b :: rest => if isDigit b then .ok (rest.dropWhile isDigit) else .error .malformed
  | [] => .error .malformed

def skipTail (bytes : List UInt8) : Except Fault (List UInt8) :=
  match bytes with
  | b :: rest =>
      if b = point then
        let digits := rest.takeWhile isDigit
        if digits.isEmpty then .error .malformed
        else
          match rest.dropWhile isDigit with
          | next :: after =>
              if isExponentLetter next then skipExponent after else .ok (next :: after)
          | [] => .ok []
      else if isExponentLetter b then skipExponent rest
      else .ok bytes
  | [] => .ok bytes

/-- Pass over a number after its sign.  Its size does not matter. -/
def skip (bytes : List UInt8) : Except Fault (List UInt8) :=
  match bytes with
  | [] => .error .malformed
  | b :: rest =>
      if b = zero then
        match rest with
        | next :: _ => if isDigit next then .error .malformed else skipTail rest
        | [] => skipTail rest
      else if isDigit b then skipTail (rest.dropWhile isDigit)
      else .error .malformed

end Number
end Json
end CacheSync
