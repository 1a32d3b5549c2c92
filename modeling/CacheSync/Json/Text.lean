import CacheSync.Json.Number

/-!
# Reading JSON strings

A string that is kept must be UTF-8 with its surrogate escapes in pairs.  A string that is passed
over is only followed to its end, escape by escape.
-/

namespace CacheSync.Json.Text

open Octet

def readHex (bytes : List UInt8) : Except Fault (Nat × List UInt8) :=
  match bytes with
  | a :: b :: c :: d :: rest =>
      match hexValue? a, hexValue? b, hexValue? c, hexValue? d with
      | some w, some x, some y, some z => .ok (((w * 16 + x) * 16 + y) * 16 + z, rest)
      | _, _, _, _ => .error .malformed
  | _ => .error .ended

def codePoint (n : Nat) : List UInt8 :=
  Utf8.octets (String.singleton (Char.ofNat n))

def isLeadingSurrogate (n : Nat) : Bool :=
  0xD800 ≤ n && n ≤ 0xDBFF

def isTrailingSurrogate (n : Nat) : Bool :=
  0xDC00 ≤ n && n ≤ 0xDFFF

def expect (wanted : UInt8) (bytes : List UInt8) : Except Fault (List UInt8) :=
  match bytes with
  | [] => .error .ended
  | b :: rest => if b = wanted then .ok rest else .error .malformed

/-- A code point in hexadecimal digits.  A leading surrogate must be followed by the escape of a
trailing one. -/
def readUnicode (bytes : List UInt8) : Except Fault (List UInt8 × List UInt8) := do
  let (first, rest) ← readHex bytes
  if isTrailingSurrogate first then .error .malformed
  else if isLeadingSurrogate first then
    let rest ← expect backslash rest
    let rest ← expect 0x75 rest
    let (second, rest) ← readHex rest
    if isTrailingSurrogate second then
      .ok (codePoint ((first - 0xD800) * 0x400 + (second - 0xDC00) + 0x10000), rest)
    else .error .malformed
  else .ok (codePoint first, rest)

def shortEscape? (b : UInt8) : Option UInt8 :=
  if b = quote then some quote
  else if b = backslash then some backslash
  else if b = slash then some slash
  else if b = 0x62 then some 0x08
  else if b = 0x66 then some 0x0C
  else if b = 0x6E then some 0x0A
  else if b = 0x72 then some 0x0D
  else if b = 0x74 then some 0x09
  else none

def readEscape (bytes : List UInt8) : Except Fault (List UInt8 × List UInt8) :=
  match bytes with
  | [] => .error .ended
  | b :: rest =>
      if b = 0x75 then readUnicode rest
      else
        match shortEscape? b with
        | some meant => .ok ([meant], rest)
        | none => .error .malformed

/-- The octets of a string up to its closing quote.  `bound` is at least the number of octets
left, and `found` holds what is read so far, last octet first. -/
def readOctets : (bound : Nat) → (found bytes : List UInt8) → Except Fault (List UInt8 × List UInt8)
  | 0, _, _ => .error .ended
  | bound + 1, found, bytes =>
      match bytes with
      | [] => .error .ended
      | b :: rest =>
          if b = quote then .ok (found.reverse, rest)
          else if b = backslash then
            match readEscape rest with
            | .error fault => .error fault
            | .ok (meant, rest) => readOctets bound (meant.reverse ++ found) rest
          else if isControl b then .error .malformed
          else readOctets bound (b :: found) rest

def read (bytes : List UInt8) : Except Fault (String × List UInt8) := do
  let (octets, rest) ← readOctets (bytes.length + 1) [] bytes
  match Utf8.ofOctets? octets with
  | some s => .ok (s, rest)
  | none => .error .malformed

def skipEscape (bytes : List UInt8) : Except Fault (List UInt8) :=
  match bytes with
  | [] => .error .ended
  | b :: rest =>
      if b = 0x75 then (readHex rest).map (·.2)
      else if (shortEscape? b).isSome then .ok rest
      else .error .malformed

def skipOctets : (bound : Nat) → List UInt8 → Except Fault (List UInt8)
  | 0, _ => .error .ended
  | bound + 1, bytes =>
      match bytes with
      | [] => .error .ended
      | b :: rest =>
          if b = quote then .ok rest
          else if b = backslash then
            match skipEscape rest with
            | .error fault => .error fault
            | .ok rest => skipOctets bound rest
          else if isControl b then .error .malformed
          else skipOctets bound rest

def skip (bytes : List UInt8) : Except Fault (List UInt8) :=
  skipOctets (bytes.length + 1) bytes

end CacheSync.Json.Text
