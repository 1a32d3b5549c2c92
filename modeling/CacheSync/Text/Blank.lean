/-!
# Blank characters

Names and words taken from settings are compared after their surrounding white space is cut off.
White space is the Unicode property of that name; letters are folded in ASCII alone.
-/

namespace CacheSync.Text

/-- The ranges of the Unicode property `White_Space`, as first and last code point. -/
def blankRanges : List (Nat × Nat) :=
  [(0x9, 0xD), (0x20, 0x20), (0x85, 0x85), (0xA0, 0xA0), (0x1680, 0x1680), (0x2000, 0x200A),
    (0x2028, 0x2029), (0x202F, 0x202F), (0x205F, 0x205F), (0x3000, 0x3000)]

/-- Whether a character has the Unicode property `White_Space`. -/
def isBlank (c : Char) : Bool :=
  blankRanges.any fun range => range.1 ≤ c.toNat && c.toNat ≤ range.2

def trimFront (chars : List Char) : List Char :=
  chars.dropWhile isBlank

/-- The text without the blank characters at its two ends. -/
def trim (text : String) : String :=
  String.ofList (trimFront (trimFront text.toList).reverse).reverse

def foldChar (c : Char) : Char :=
  if 'A' ≤ c ∧ c ≤ 'Z' then Char.ofNat (c.toNat + 32) else c

def foldCase (text : String) : String :=
  String.ofList (text.toList.map foldChar)

end CacheSync.Text
