import CacheSync.Toml.Calendar
import CacheSync.Toml.Text
import CacheSync.Toml.Value

/-!
# Numbers and words in TOML

A value that stands without quotes and brackets is one token: a truth value, a number, or a date
and time.  Underscores may stand between the digits of a number.
-/

namespace CacheSync.Toml.Scalar

open Decimal (digitsValue splitSign)

/-- Digits without the underscores between them.  `afterDigit` tells whether a digit comes right
before, since an underscore stands between two digits. -/
def ungroup (isDigit : Char → Bool) : (afterDigit : Bool) → List Char → Option (List Char)
  | afterDigit, [] => if afterDigit then some [] else none
  | afterDigit, c :: rest =>
      if c = '_' then if afterDigit then ungroup isDigit false rest else none
      else if isDigit c then (ungroup isDigit true rest).map (c :: ·)
      else none

/-- Decimal digits, at least one. -/
def digits? (chars : List Char) : Option (List Char) :=
  ungroup Char.isDigit false chars

/-- The digits in front of a point: no needless zero begins them. -/
def whole? (chars : List Char) : Option (List Char) :=
  if chars.head? = some '0' ∧ chars ≠ ['0'] then none else digits? chars

/-! ## Integers -/

def based? (base : Nat) (chars : List Char) : Option Int := do
  let allowed := fun c => (Text.hexValue? c).any (· < base)
  let digits ← ungroup allowed false chars
  some (digits.foldl (fun value c => base * value + (Text.hexValue? c).getD 0) 0 : Nat)

def decimal? (chars : List Char) : Option Int := do
  let (negative, magnitude) := splitSign chars
  let digits ← whole? magnitude
  let value : Int := digitsValue digits
  some (if negative then -value else value)

/-- An integer: in base sixteen, eight or two without a sign, or decimal. -/
def integerOf? : List Char → Option Int
  | '0' :: 'x' :: rest => based? 16 rest
  | '0' :: 'o' :: rest => based? 8 rest
  | '0' :: 'b' :: rest => based? 2 rest
  | chars => decimal? chars

/-! ## Floating-point numbers -/

def spanGrouped (chars : List Char) : List Char × List Char :=
  let grouped := fun c : Char => c.isDigit || c == '_'
  (chars.takeWhile grouped, chars.dropWhile grouped)

/-- The digits behind a point, if a point follows. -/
def fraction? : List Char → Option (List Char × List Char)
  | '.' :: rest => do
      let (grouped, rest) := spanGrouped rest
      let digits ← digits? grouped
      some (digits, rest)
  | rest => some ([], rest)

/-- The exponent behind its letter, if one follows. -/
def exponent? : List Char → Option Int
  | [] => some 0
  | c :: rest =>
      if c = 'e' ∨ c = 'E' then do
        let (negative, grouped) := splitSign rest
        let digits ← digits? grouped
        let value : Int := digitsValue digits
        some (if negative then -value else value)
      else none

/-- A number with digits on both sides of its point, an exponent or both.  It is refused when it
lies beyond the largest finite number. -/
def fractional? (negative : Bool) (chars : List Char) : Option Binary64 := do
  let (grouped, rest) := spanGrouped chars
  let whole ← whole? grouped
  let (fraction, rest) ← fraction? rest
  let exponent ← exponent? rest
  let x := Binary64.ofDecimal negative (digitsValue (whole ++ fraction))
    (exponent - fraction.length)
  if x.isFinite then some x else none

def floatOf? (chars : List Char) : Option Binary64 :=
  let (negative, magnitude) := splitSign chars
  if magnitude = "inf".toList then some (.infinity negative)
  else if magnitude = "nan".toList then some .nan
  else fractional? negative magnitude

/-! ## Tokens -/

def inToken (c : Char) : Bool :=
  c.isAlphanum || c == '_' || c == '+' || c == '-' || c == '.' || c == ':'

def ofToken? (token : List Char) : Option Value :=
  if token = "true".toList then some (.bool true)
  else if token = "false".toList then some (.bool false)
  else
    match integerOf? token with
    | some n => integer? n
    | none =>
        match floatOf? token with
        | some x => some (.float x)
        | none => (Calendar.ofToken? token).map .text

def timeFollows (token rest : List Char) : Bool :=
  (Calendar.date? token).any (·.2.isEmpty) && rest.head? == some ' ' &&
    (rest.drop 1).head?.any Char.isDigit

/-- A token and the value that it stands for.  One blank may stand between a date and a time. -/
def read? (chars : List Char) : Option (Value × List Char) := do
  let token := chars.takeWhile inToken
  let rest := chars.dropWhile inToken
  if timeFollows token rest then
    let value ← ofToken? (token ++ ' ' :: (rest.drop 1).takeWhile inToken)
    some (value, (rest.drop 1).dropWhile inToken)
  else
    let value ← ofToken? token
    some (value, rest)

example : integerOf? "-1_000".toList = some (-1000) := by decide +kernel
example : integerOf? "0xdead_BEEF".toList = some 0xdeadbeef := by decide +kernel
example : integerOf? "01".toList = none := by decide +kernel
example : floatOf? "6.626e-34".toList = some (.ofDecimal false 6626 (-37)) := by decide +kernel
example : (floatOf? "1.e5".toList).isNone = true := by decide +kernel

end CacheSync.Toml.Scalar
