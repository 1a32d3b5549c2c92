import CacheSync.Decimal.Layout
import CacheSync.Json.Octet
import CacheSync.Json.Value

/-!
# Writing JSON

The compact text of a tree: no blanks, members in the order of the tree, and in strings only what
must be escaped is escaped.  Escaping acts on octets, because every escaped character is a single
octet and no octet of a longer character is one of them.
-/

namespace CacheSync.Json

open Octet

/-- JSON numbers are written without an exponent part from `0.00001` to below `1e+16`. -/
def numberLayout : Decimal.Layout where
  least := -5
  greatest := 15
  signedExponent := true

def asciiOctets (chars : List Char) : List UInt8 :=
  chars.map fun c => UInt8.ofNat c.toNat

namespace Printer

def escapeOctet (b : UInt8) : List UInt8 :=
  if b = quote then [backslash, quote]
  else if b = backslash then [backslash, backslash]
  else if b = 0x08 then [backslash, 0x62]
  else if b = 0x09 then [backslash, 0x74]
  else if b = 0x0A then [backslash, 0x6E]
  else if b = 0x0C then [backslash, 0x66]
  else if b = 0x0D then [backslash, 0x72]
  else if isControl b then
    [backslash, 0x75, zero, zero, hexDigit (b.toNat / 16), hexDigit (b.toNat % 16)]
  else [b]

def text (s : String) : List UInt8 :=
  quote :: ((Utf8.octets s).flatMap escapeOctet ++ [quote])

def number : Number → List UInt8
  | .int n _ => asciiOctets (Decimal.ofInt n)
  | .float x _ => asciiOctets (numberLayout.write x)

def joined : List (List UInt8) → List UInt8
  | [] => []
  | [part] => part
  | part :: rest => part ++ comma :: joined rest

def member (name : String) (value : List UInt8) : List UInt8 :=
  text name ++ colon :: value

mutual

def tree : Tree → List UInt8
  | .null => Utf8.octets "null"
  | .bool b => Utf8.octets (if b then "true" else "false")
  | .number n => number n
  | .text s => text s
  | .array items => openBracket :: (joined (itemTexts items) ++ [closeBracket])
  | .object members => openBrace :: (joined (memberTexts members) ++ [closeBrace])
termination_by structural tree => tree

def itemTexts : List Tree → List (List UInt8)
  | [] => []
  | item :: rest => tree item :: itemTexts rest
termination_by structural items => items

def memberTexts : List (String × Tree) → List (List UInt8)
  | [] => []
  | first :: rest => memberText first :: memberTexts rest
termination_by structural members => members

def memberText : String × Tree → List UInt8
  | (name, value) => member name (tree value)
termination_by structural member => member

end

end Printer

def Value.toText (value : Value) : String :=
  (Utf8.ofOctets? (Printer.tree value.tree)).getD ""

end CacheSync.Json
