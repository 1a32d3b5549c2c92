/-!
# Text as octets

A message travels as octets, and the routing hash of an entry is taken over them.  `octets` is
the UTF-8 form of a text and `ofOctets?` reads one back, refusing every list that is not UTF-8.
`display` shows any octets to a reader.
-/

namespace CacheSync.Utf8

def octets (text : String) : List UInt8 :=
  text.toByteArray.data.toList

/-- The text that a list of octets is the UTF-8 form of, if there is one. -/
def ofOctets? (bytes : List UInt8) : Option String :=
  String.fromUTF8? ⟨bytes.toArray⟩

@[simp]
theorem ofOctets?_octets (text : String) :
    ofOctets? (octets text) = some text := by
  simp [ofOctets?, octets, String.fromUTF8?, String.fromUTF8, text.isValidUTF8]

/-! ## Octets that are no text -/

/-- The character that is shown in place of octets that are no character. -/
def replacement : String := "\ufffd"

/-- How many octets follow the first octet of a character, and the least and greatest second
octet; nothing for an octet beyond ASCII that begins no character. -/
def tailOf? (first : UInt8) : Option (Nat × UInt8 × UInt8) :=
  if first < 0xC2 then none
  else if first < 0xE0 then some (1, 0x80, 0xBF)
  else if first < 0xF0 then
    some (2, if first = 0xE0 then 0xA0 else 0x80, if first = 0xED then 0x9F else 0xBF)
  else if first < 0xF5 then
    some (3, if first = 0xF0 then 0x90 else 0x80, if first = 0xF4 then 0x8F else 0xBF)
  else none

/-- The octets that may stand behind the first octet of a character, at most `count` of them.  The
first of them lies between `low` and `high`. -/
def takeTail : (count : Nat) → (low high : UInt8) → List UInt8 → List UInt8
  | 0, _, _, _ => []
  | _ + 1, _, _, [] => []
  | count + 1, low, high, b :: rest =>
      if low ≤ b ∧ b ≤ high then b :: takeTail count 0x80 0xBF rest else []

/-- The octets behind the first one that belong to the same character, or to its broken
beginning. -/
def tailIn (first : UInt8) (rest : List UInt8) : List UInt8 :=
  match tailOf? first with
  | none => []
  | some (count, low, high) => takeTail count low high rest

/-- Octets as text, with one replacement for each broken beginning of a character and for each
octet that begins none.  `bound` is at least the number of octets. -/
def displayWithin : (bound : Nat) → List UInt8 → String
  | 0, _ => ""
  | _ + 1, [] => ""
  | bound + 1, first :: rest =>
      let tail := tailIn first rest
      (ofOctets? (first :: tail)).getD replacement ++ displayWithin bound (rest.drop tail.length)

/-- Octets as text: the text they are the UTF-8 form of, if there is one. -/
def display (bytes : List UInt8) : String :=
  (ofOctets? bytes).getD (displayWithin bytes.length bytes)

example : display [0x61, 0xE2, 0x82, 0x62, 0xFF, 0xC3, 0xA9] = "a\ufffdb\ufffdé" := by
  decide +kernel

end CacheSync.Utf8
