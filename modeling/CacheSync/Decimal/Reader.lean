import CacheSync.Decimal.Layout
import CacheSync.Text.Blank
import CacheSync.Word

/-!
# Reading numbers

The text of a floating-point number in settings: a sign, digits with a point among them or at
either end, and an exponent; or one of the words for infinity and for no number, in any case.
-/

namespace CacheSync.Decimal

def digitsValue (digits : List Char) : Nat :=
  digits.foldl (fun value c => 10 * value + (c.toNat - '0'.toNat)) 0

def spanDigits (chars : List Char) : List Char × List Char :=
  (chars.takeWhile Char.isDigit, chars.dropWhile Char.isDigit)

/-- A sign at the front of a text, if there is one: whether it is a minus, and the rest. -/
def splitSign : List Char → Bool × List Char
  | '-' :: rest => (true, rest)
  | '+' :: rest => (false, rest)
  | rest => (false, rest)

def integerOf? (chars : List Char) : Option Int :=
  let (negative, digits) := splitSign chars
  if digits.isEmpty || !digits.all Char.isDigit then none
  else
    let value : Int := digitsValue digits
    some (if negative then -value else value)

def countOf? (text : String) : Option Nat :=
  let digits :=
    match text.toList with
    | '+' :: rest => rest
    | chars => chars
  let value := digitsValue digits
  if digits.isEmpty || !digits.all Char.isDigit || Word.bound ≤ value then none else some value

def exponentOf? : List Char → Option Int
  | [] => some 0
  | c :: rest => if c = 'e' ∨ c = 'E' then integerOf? rest else none

/-- The digits behind a point, if a point follows. -/
def spanFraction : List Char → List Char × List Char
  | '.' :: rest => spanDigits rest
  | rest => ([], rest)

/-- A number without its sign. -/
def magnitudeOf? (negative : Bool) (chars : List Char) : Option Binary64 :=
  let word := chars.map Text.foldChar
  if word = "inf".toList ∨ word = "infinity".toList then some (.infinity negative)
  else if word = "nan".toList then some .nan
  else
    let (whole, rest) := spanDigits chars
    let (fraction, rest) := spanFraction rest
    if whole.isEmpty && fraction.isEmpty then none
    else
      (exponentOf? rest).map fun exponent =>
        .ofDecimal negative (digitsValue (whole ++ fraction)) (exponent - fraction.length)

/-- The number that a text is, if it is one. -/
def ofText? (text : String) : Option Binary64 :=
  let (negative, chars) := splitSign text.toList
  magnitudeOf? negative chars

example : ofText? "2.50" = some (.ofDecimal false 25 (-1)) := by decide +kernel
example : ofText? "-inf" = some (.infinity true) := by decide +kernel
example : ofText? "." = none := by decide +kernel

end CacheSync.Decimal
