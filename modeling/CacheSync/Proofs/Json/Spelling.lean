import CacheSync.Proofs.Json.Scalars

/-!
# Spellings of JSON

A `Spelling` is the syntax tree of a JSON text: it keeps the white space, the escapes of the strings
and the digits of the numbers, so that every text of the grammar is the text of a spelling.  What it
says is a `Tree`, unless a string of it is no Unicode text or a number of it is out of range.
-/

namespace CacheSync.Json

open Octet

/-- White space between the parts of a text. -/
structure Blanks where
  octets : List UInt8
  blank : ∀ b ∈ octets, isBlank b = true

namespace Blanks

def none : Blanks :=
  ⟨[], by simp⟩

end Blanks

/-! ## Strings -/

/-- The code unit of four hexadecimal digits. -/
def unit? (a b c d : UInt8) : Option Nat := do
  let w ← hexValue? a
  let x ← hexValue? b
  let y ← hexValue? c
  let z ← hexValue? d
  some (((w * 16 + x) * 16 + y) * 16 + z)

/-- A character of a string, as it is spelled. -/
inductive Piece where
  | plain (b : UInt8) (plain : b ≠ quote ∧ b ≠ backslash ∧ isControl b = false)
  /-- A backslash and one more octet, which stands for an octet. -/
  | short (b meant : UInt8) (escapes : Text.shortEscape? b = some meant)
  /-- A code unit in four hexadecimal digits. -/
  | unicode (a b c d : UInt8) (unit : Nat) (digits : unit? a b c d = some unit)

namespace Piece

def octets : Piece → List UInt8
  | .plain b _ => [b]
  | .short b _ _ => [backslash, b]
  | .unicode a b c d _ _ => [backslash, 0x75, a, b, c, d]

end Piece

/-- A string between its quotes, as it is spelled. -/
abbrev Pieces : Type :=
  List Piece

namespace Pieces

def octets (pieces : Pieces) : List UInt8 :=
  pieces.flatMap Piece.octets

/-- The octets that a string stands for, if its surrogates come in pairs.  A leading surrogate may
stand in front of it. -/
def meantAfter? : (leading : Option Nat) → Pieces → Option (List UInt8)
  | none, [] => some []
  | none, .plain b _ :: rest => (meantAfter? none rest).map (b :: ·)
  | none, .short _ meant _ :: rest => (meantAfter? none rest).map (meant :: ·)
  | none, .unicode _ _ _ _ unit _ :: rest =>
      if Text.isTrailingSurrogate unit then none
      else if Text.isLeadingSurrogate unit then meantAfter? (some unit) rest
      else (meantAfter? none rest).map (Text.codePoint unit ++ ·)
  | some first, .unicode _ _ _ _ second _ :: rest =>
      if Text.isTrailingSurrogate second then
        (meantAfter? none rest).map
          (Text.codePoint ((first - 0xD800) * 0x400 + (second - 0xDC00) + 0x10000) ++ ·)
      else none
  | some _, _ => none

/-- The text that a string spells, if it is one. -/
def text? (pieces : Pieces) : Option String :=
  (meantAfter? none pieces).bind Utf8.ofOctets?

/-- Octets that need no escape, as they are. -/
def plain (octets : List UInt8)
    (plain : ∀ b ∈ octets, b ≠ quote ∧ b ≠ backslash ∧ isControl b = false) : Pieces :=
  octets.pmap Piece.plain plain

theorem meantAfter?_plain (octets : List UInt8)
    (plain : ∀ b ∈ octets, b ≠ quote ∧ b ≠ backslash ∧ isControl b = false) :
    meantAfter? none (Pieces.plain octets plain) = some octets := by
  induction octets with
  | nil => rfl
  | cons b octets inductionHypothesis =>
      have rest := inductionHypothesis fun other present =>
        plain other (List.mem_cons_of_mem _ present)
      simp only [Pieces.plain] at rest
      simp only [Pieces.plain, List.pmap, meantAfter?, rest, Option.map_some]

/-- A text that needs no escape is spelled as it is. -/
theorem text?_plain (text : String)
    (plain : ∀ b ∈ Utf8.octets text, b ≠ quote ∧ b ≠ backslash ∧ isControl b = false) :
    (Pieces.plain (Utf8.octets text) plain).text? = some text := by
  simp only [text?, meantAfter?_plain, Option.bind_some, Utf8.ofOctets?_octets]

end Pieces

/-! ## Numbers -/

/-- One digit or more. -/
structure Digits where
  first : UInt8
  rest : List UInt8
  digits : ∀ b ∈ first :: rest, isDigit b = true

namespace Digits

def octets (digits : Digits) : List UInt8 :=
  digits.first :: digits.rest

end Digits

/-- The exponent of a number, as it is spelled. -/
structure Exponent where
  letter : UInt8
  isLetter : isExponentLetter letter = true
  /-- The sign, if there is one: whether it is a minus. -/
  sign : Option Bool
  digits : Digits

namespace Exponent

def signOctets (exponent : Exponent) : List UInt8 :=
  match exponent.sign with
  | none => []
  | some true => [minus]
  | some false => [plus]

def octets (exponent : Exponent) : List UInt8 :=
  exponent.letter :: (exponent.signOctets ++ exponent.digits.octets)

def size (exponent : Exponent) : Nat :=
  Number.valueAfter 0 exponent.digits.octets

/-- The number of a significand with this exponent, if it is in range. -/
def number? (exponent : Exponent) (negative : Bool) (significand : Nat) (power : Int) :
    Option Number :=
  let down := exponent.sign.getD false
  if exponent.size < Number.exponentBound then
    (Number.ofParts negative significand
      (if down then power - exponent.size else power + exponent.size)).toOption
  else if significand ≠ 0 ∧ down = false then none
  else (Number.ofParts negative 0 0).toOption

end Exponent

/-- A number, as it is spelled. -/
structure Numeral where
  negative : Bool
  whole : Digits
  noLeadingZero : whole.first = zero → whole.rest = []
  fraction : Option Digits
  exponent : Option Exponent

namespace Numeral

/-- The octets behind the whole part. -/
def tail (numeral : Numeral) : List UInt8 :=
  (match numeral.fraction with
    | none => []
    | some digits => point :: digits.octets) ++
  (match numeral.exponent with
    | none => []
    | some exponent => exponent.octets)

/-- The octets behind the sign. -/
def unsigned (numeral : Numeral) : List UInt8 :=
  numeral.whole.octets ++ numeral.tail

def octets (numeral : Numeral) : List UInt8 :=
  (if numeral.negative then [minus] else []) ++ numeral.unsigned

/-- The number that a significand and what is spelled behind the whole part make, if it is in
range. -/
def finish? (numeral : Numeral) (significand dropped : Nat) : Option Number :=
  match numeral.fraction, numeral.exponent with
  | none, none =>
      if dropped = 0 then (Number.ofSignificand numeral.negative significand).toOption
      else (Number.ofParts numeral.negative significand dropped).toOption
  | none, some exponent => exponent.number? numeral.negative significand dropped
  | some digits, none =>
      let (final, taken) := Number.absorb significand digits.octets
      (Number.ofParts numeral.negative final ((dropped : Int) - taken)).toOption
  | some digits, some exponent =>
      let (final, taken) := Number.absorb significand digits.octets
      exponent.number? numeral.negative final ((dropped : Int) - taken)

/-- The number that is spelled, if it is in range. -/
def number? (numeral : Numeral) : Option Number :=
  let (significand, taken) := Number.absorb 0 numeral.whole.octets
  numeral.finish? significand (numeral.whole.octets.length - taken)

end Numeral

/-! ## Values -/

/-- An item of an array, with the white space around it. -/
structure Item (α : Type) where
  before : Blanks
  value : α
  after : Blanks

/-- A member of an object, with the white space around its name and its value. -/
structure Member (α : Type) where
  before : Blanks
  name : Pieces
  named : Blanks
  between : Blanks
  value : α
  after : Blanks

/-- A value, as it is spelled.  The last white space of an array or an object stands before its
closing bracket. -/
inductive Spelling where
  | null
  | bool (b : Bool)
  | number (numeral : Numeral)
  | text (pieces : Pieces)
  | array (items : List (Item Spelling)) (last : Blanks)
  | object (members : List (Member Spelling)) (last : Blanks)

namespace Spelling

mutual

def octets : Spelling → List UInt8
  | .null => Reader.letterN :: Reader.nullTail
  | .bool true => Reader.letterT :: Reader.trueTail
  | .bool false => Reader.letterF :: Reader.falseTail
  | .number numeral => numeral.octets
  | .text pieces => quote :: (pieces.octets ++ [quote])
  | .array items last => openBracket :: (itemsOctets true items ++ (last.octets ++ [closeBracket]))
  | .object members last =>
      openBrace :: (membersOctets true members ++ (last.octets ++ [closeBrace]))
termination_by structural spelling => spelling

/-- The items of an array, with commas between them. -/
def itemsOctets : (first : Bool) → List (Item Spelling) → List UInt8
  | _, [] => []
  | first, item :: rest =>
      (if first then [] else [comma]) ++ (itemOctets item ++ itemsOctets false rest)
termination_by structural _ items => items

def itemOctets : Item Spelling → List UInt8
  | ⟨before, value, after⟩ => before.octets ++ (octets value ++ after.octets)
termination_by structural item => item

/-- The members of an object, with commas between them. -/
def membersOctets : (first : Bool) → List (Member Spelling) → List UInt8
  | _, [] => []
  | first, member :: rest =>
      (if first then [] else [comma]) ++ (memberOctets member ++ membersOctets false rest)
termination_by structural _ members => members

def memberOctets : Member Spelling → List UInt8
  | ⟨before, name, named, between, value, after⟩ =>
      before.octets ++ quote :: (name.octets ++ quote :: (named.octets ++
        colon :: (between.octets ++ (octets value ++ after.octets))))
termination_by structural member => member

end

mutual

/-- What is spelled, if every string of it is a text and every number of it in range. -/
def tree? : Spelling → Option Tree
  | .null => some .null
  | .bool b => some (.bool b)
  | .number numeral => numeral.number?.map .number
  | .text pieces => pieces.text?.map .text
  | .array items _ => (itemTrees? items).map .array
  | .object members _ => (memberTrees? members).map .object
termination_by structural spelling => spelling

def itemTrees? : List (Item Spelling) → Option (List Tree)
  | [] => some []
  | item :: rest => (itemTree? item).bind fun head => (itemTrees? rest).map (head :: ·)
termination_by structural items => items

def itemTree? : Item Spelling → Option Tree
  | ⟨_, value, _⟩ => tree? value
termination_by structural item => item

def memberTrees? : List (Member Spelling) → Option (List (String × Tree))
  | [] => some []
  | member :: rest => (memberTree? member).bind fun head => (memberTrees? rest).map (head :: ·)
termination_by structural members => members

def memberTree? : Member Spelling → Option (String × Tree)
  | ⟨_, name, _, _, value, _⟩ => name.text?.bind fun name => (tree? value).map (name, ·)
termination_by structural member => member

end

end Spelling

end CacheSync.Json
