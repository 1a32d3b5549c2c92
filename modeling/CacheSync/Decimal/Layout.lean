import CacheSync.Decimal.Shortest

/-!
# Written numbers

How the digits of a number are laid out is the choice of the format that writes it.  A `Layout`
records that choice: which decimal exponents are written out with zeros, and how an exponent
is written otherwise.
-/

namespace CacheSync.Decimal

/-- A format's way to write a floating-point number. -/
structure Layout where
  /-- The least exponent of the leading digit that is written without an exponent part. -/
  least : Int
  /-- The greatest one. -/
  greatest : Int
  /-- Whether a positive exponent carries a plus sign. -/
  signedExponent : Bool

def digitChars (n : Nat) : List Char :=
  Nat.toDigits 10 n

def ofInt (n : Int) : List Char :=
  if n < 0 then '-' :: digitChars n.natAbs else digitChars n.natAbs

/-- Digits with the point `whole` places after the first digit; a missing part is a zero. -/
def positional (digits : List Char) (whole : Int) : List Char :=
  if whole ≤ 0 then
    ['0', '.'] ++ List.replicate (-whole).toNat '0' ++ digits
  else
    let count := whole.toNat
    let padded := digits ++ List.replicate (count - digits.length) '0'
    let tail := padded.drop count
    padded.take count ++ ['.'] ++ (if tail.isEmpty then ['0'] else tail)

def scientific (layout : Layout) (digits : List Char) (exponent : Int) : List Char :=
  let body :=
    match digits with
    | [] => ['0']
    | [single] => [single]
    | first :: rest => first :: '.' :: rest
  let sign := if layout.signedExponent && decide (0 ≤ exponent) then ['+'] else []
  body ++ ['e'] ++ sign ++ ofInt exponent

/-- Digits with the point `whole` places after the first digit, and no point behind a whole
number. -/
def unpointed (digits : List Char) (whole : Int) : List Char :=
  if digits.length ≤ whole then
    digits ++ List.replicate (whole - digits.length).toNat '0'
  else positional digits whole

/-- A sign, and either the word for a number that is not finite or the text made of the fewest
digits that read back as the number.  `body` takes the digits and the exponent of the first. -/
def signed (body : List Char → Int → List Char) (x : Binary64) : List Char :=
  let sign := if x.negative then ['-'] else []
  if x.isNaN then ['N', 'a', 'N']
  else if !x.isFinite then sign ++ ['i', 'n', 'f']
  else
    let found := x.shortest
    let digits := digitChars found.digits
    sign ++ body digits (found.power + digits.length - 1)

/-- A floating-point number with the fewest digits that read back as the same number. -/
def Layout.write (layout : Layout) : Binary64 → List Char :=
  signed fun digits exponent =>
    if layout.least ≤ exponent ∧ exponent ≤ layout.greatest then
      positional digits (exponent + 1)
    else scientific layout digits exponent

/-- A floating-point number without an exponent part; a whole number looks like an integer. -/
def plain : Binary64 → List Char :=
  signed fun digits exponent => unpointed digits (exponent + 1)

example : plain (.ofDecimal false 25 (-1)) = "2.5".toList := by decide +kernel
example : plain (.ofNat 1000) = "1000".toList := by decide +kernel
example : plain (.zero true) = "-0".toList := by decide +kernel

end CacheSync.Decimal
