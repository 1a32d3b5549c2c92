import CacheSync.Text.Utf8

/-!
# The octets of JSON

Names for the octets that structure a JSON text, and the classes of octets that its reader tells
apart.
-/

namespace CacheSync.Json.Octet

def quote : UInt8 := 0x22
def plus : UInt8 := 0x2B
def comma : UInt8 := 0x2C
def minus : UInt8 := 0x2D
def point : UInt8 := 0x2E
def slash : UInt8 := 0x2F
def zero : UInt8 := 0x30
def colon : UInt8 := 0x3A
def openBracket : UInt8 := 0x5B
def backslash : UInt8 := 0x5C
def closeBracket : UInt8 := 0x5D
def openBrace : UInt8 := 0x7B
def closeBrace : UInt8 := 0x7D

/-- Space, tab, line feed and carriage return may stand between the parts of a text. -/
def isBlank (b : UInt8) : Bool :=
  b == 0x20 || b == 0x09 || b == 0x0A || b == 0x0D

def isDigit (b : UInt8) : Bool :=
  0x30 ≤ b && b ≤ 0x39

def isExponentLetter (b : UInt8) : Bool :=
  b == 0x65 || b == 0x45

/-- The octets that may not stand in a string as they are. -/
def isControl (b : UInt8) : Bool :=
  b < 0x20

def digitValue (b : UInt8) : Nat :=
  b.toNat - 0x30

def hexValue? (b : UInt8) : Option Nat :=
  if isDigit b then some (b.toNat - 0x30)
  else if 0x61 ≤ b && b ≤ 0x66 then some (b.toNat - 0x61 + 10)
  else if 0x41 ≤ b && b ≤ 0x46 then some (b.toNat - 0x41 + 10)
  else none

def hexDigit (n : Nat) : UInt8 :=
  if n < 10 then UInt8.ofNat (0x30 + n) else UInt8.ofNat (0x61 + (n - 10))

/-- The octets that pairs of hexadecimal digits stand for, up to the first that is none. -/
def ofHex : List UInt8 → List UInt8
  | high :: low :: rest =>
      match hexValue? high, hexValue? low with
      | some a, some b => UInt8.ofNat (16 * a + b) :: ofHex rest
      | _, _ => []
  | _ => []

def skipBlanks (bytes : List UInt8) : List UInt8 :=
  bytes.dropWhile isBlank

end CacheSync.Json.Octet
