import CacheSync.Proofs.Json.Spelling

/-!
# Strings and numbers as they are spelled

What is read from a spelled string or number is what it says, and the text behind it is left alone.
If it says nothing, reading fails.  Passing over a string or a number succeeds in either case.
-/

namespace CacheSync.Json

open Octet

/-- A reader finds this and leaves that text, or it fails if there is nothing to be found. -/
def Reads {α : Type} (result : Except Fault (α × List UInt8)) (found : Option α)
    (rest : List UInt8) : Prop :=
  match found with
  | some a => result = .ok (a, rest)
  | none => ∃ fault, result = .error fault

namespace Reads

variable {α β : Type} {result : Except Fault (α × List UInt8)} {found : Option α}
  {rest after : List UInt8}

theorem error (fault : Fault) (rest : List UInt8) :
    Reads (.error fault : Except Fault (α × List UInt8)) none rest :=
  ⟨fault, rfl⟩

theorem bind (reads : Reads result found rest)
    {next : α × List UInt8 → Except Fault (β × List UInt8)} {more : α → Option β}
    (goesOn : ∀ a, found = some a → Reads (next (a, rest)) (more a) after) :
    Reads (result.bind next) (found.bind more) after := by
  cases found with
  | none =>
      obtain ⟨fault, rfl⟩ := reads
      exact error fault after
  | some a =>
      obtain rfl : result = .ok (a, rest) := reads
      exact goesOn a rfl

theorem map (reads : Reads result found rest) (change : α → β) :
    Reads (result.map fun read => (change read.1, read.2)) (found.map change) rest := by
  cases found with
  | none =>
      obtain ⟨fault, rfl⟩ := reads
      exact error fault rest
  | some a =>
      obtain rfl : result = .ok (a, rest) := reads
      rfl

theorem of_except (result : Except Fault α) (rest : List UInt8) :
    Reads (do let a ← result; .ok (a, rest)) result.toOption rest := by
  cases result with
  | error fault => exact error fault rest
  | ok a => rfl

end Reads

/-! ## Strings -/

namespace Text

theorem readHex_unit {a b c d : UInt8} {unit : Nat} (digits : unit? a b c d = some unit)
    (rest : List UInt8) : readHex (a :: b :: c :: d :: rest) = .ok (unit, rest) := by
  obtain ⟨w, first, digits⟩ := Option.bind_eq_some_iff.1 digits
  obtain ⟨x, second, digits⟩ := Option.bind_eq_some_iff.1 digits
  obtain ⟨y, third, digits⟩ := Option.bind_eq_some_iff.1 digits
  obtain ⟨z, fourth, digits⟩ := Option.bind_eq_some_iff.1 digits
  obtain rfl := Option.some.inj digits
  simp only [readHex, first, second, third, fourth]

theorem ne_of_shortEscape? {b meant : UInt8} (escapes : shortEscape? b = some meant) :
    b ≠ 0x75 := by
  rintro rfl
  cases escapes

theorem readOctets_plain {b : UInt8}
    (plain : b ≠ quote ∧ b ≠ backslash ∧ isControl b = false) (bound : Nat)
    (found rest : List UInt8) :
    readOctets (bound + 1) found (b :: rest) = readOctets bound (b :: found) rest := by
  obtain ⟨notQuote, notBackslash, notControl⟩ := plain
  simp only [readOctets, notQuote, notBackslash, notControl, ↓reduceIte, Bool.false_eq_true]

theorem readOctets_escape {octets meant after : List UInt8}
    (escape : readEscape octets = .ok (meant, after)) (bound : Nat) (found : List UInt8) :
    readOctets (bound + 1) found (backslash :: octets) =
      readOctets bound (meant.reverse ++ found) after := by
  simp only [readOctets, show backslash ≠ quote by decide, ↓reduceIte, escape]

theorem readOctets_escape_of_error {octets : List UInt8} {fault : Fault}
    (escape : readEscape octets = .error fault) (bound : Nat) (found : List UInt8) :
    readOctets (bound + 1) found (backslash :: octets) = .error fault := by
  simp only [readOctets, show backslash ≠ quote by decide, ↓reduceIte, escape]

theorem readEscape_short {b meant : UInt8} (escapes : shortEscape? b = some meant)
    (rest : List UInt8) : readEscape (b :: rest) = .ok ([meant], rest) := by
  simp only [readEscape, ne_of_shortEscape? escapes, ↓reduceIte, escapes]

theorem readEscape_unicode (octets : List UInt8) :
    readEscape (0x75 :: octets) = readUnicode octets := by
  simp only [readEscape, ↓reduceIte]

/-- A leading surrogate asks for the escape of a trailing one. -/
theorem readEscape_leading {a b c d : UInt8} {first : Nat} (digits : unit? a b c d = some first)
    (notTrailing : isTrailingSurrogate first = false) (leading : isLeadingSurrogate first = true)
    (octets : List UInt8) :
    readEscape (0x75 :: a :: b :: c :: d :: octets) =
      (expect backslash octets).bind fun octets =>
        (expect 0x75 octets).bind fun octets =>
          (readHex octets).bind fun found =>
            if isTrailingSurrogate found.1 then
              .ok (codePoint ((first - 0xD800) * 0x400 + (found.1 - 0xDC00) + 0x10000), found.2)
            else .error .malformed := by
  simp only [readEscape_unicode, readUnicode, readHex_unit digits, bind, Except.bind, notTrailing,
    leading, Bool.false_eq_true, ↓reduceIte]

/-- A string is read up to its closing quote, whatever was found before it. -/
def Finds (pieces : Pieces) (rest : List UInt8) : Prop :=
  ∀ (bound : Nat) (found : List UInt8), pieces.octets.length < bound →
    Reads (readOctets bound found (pieces.octets ++ quote :: rest))
      ((Pieces.meantAfter? none pieces).map (found.reverse ++ ·)) rest

/-- The same of a string with a leading surrogate in front of it. -/
def FindsBehind (pieces : Pieces) (rest : List UInt8) : Prop :=
  ∀ (a b c d : UInt8) (first : Nat), unit? a b c d = some first →
    isTrailingSurrogate first = false → isLeadingSurrogate first = true →
      ∀ (bound : Nat) (found : List UInt8), pieces.octets.length < bound →
        Reads
          (readOctets (bound + 1) found
            (backslash :: 0x75 :: a :: b :: c :: d :: (pieces.octets ++ quote :: rest)))
          ((Pieces.meantAfter? (some first) pieces).map (found.reverse ++ ·)) rest

/-- What is found goes on with what a piece stands for. -/
theorem Reads.found_append {result : Except Fault (List UInt8 × List UInt8)}
    {meant : Option (List UInt8)} {found piece rest : List UInt8}
    (reads : Reads result (meant.map ((piece.reverse ++ found).reverse ++ ·)) rest) :
    Reads result ((meant.map (piece ++ ·)).map (found.reverse ++ ·)) rest := by
  cases meant with
  | none => exact reads
  | some octets => simpa using reads

theorem findsBehind_nil (rest : List UInt8) : FindsBehind [] rest := by
  intro a b c d first digits notTrailing leading bound found _
  have escape : readEscape (0x75 :: a :: b :: c :: d :: quote :: rest) = .error .malformed := by
    rw [readEscape_leading digits notTrailing leading]
    rfl
  simp only [Pieces.octets, List.flatMap_nil, List.nil_append, readOctets_escape_of_error escape]
  exact .error _ rest

theorem finds_nil (rest : List UInt8) : Finds [] rest := by
  intro bound found enough
  obtain ⟨less, rfl⟩ := Nat.exists_eq_add_one_of_ne_zero (Nat.ne_zero_of_lt enough)
  simp [Pieces.octets, readOctets, Pieces.meantAfter?, Reads]

theorem findsBehind_cons (piece : Piece) {pieces : Pieces} {rest : List UInt8}
    (finds : Finds pieces rest) : FindsBehind (piece :: pieces) rest := by
  intro a b c d first digits notTrailing leading bound found enough
  have escape := readEscape_leading digits notTrailing leading
    (piece.octets ++ (pieces.octets ++ quote :: rest))
  have shape : Pieces.octets (piece :: pieces) ++ quote :: rest =
      piece.octets ++ (pieces.octets ++ quote :: rest) := by
    simp only [Pieces.octets, List.flatMap_cons, List.append_assoc]
  have shorter : piece.octets.length + pieces.octets.length < bound := by
    simpa only [Pieces.octets, List.flatMap_cons, List.length_append] using enough
  rw [shape]
  cases piece with
  | plain e plain =>
      simp only [Piece.octets, List.singleton_append, expect, plain.2.1, ↓reduceIte,
        Except.bind] at escape ⊢
      rw [readOctets_escape_of_error escape]
      exact .error _ rest
  | short e meant escapes =>
      simp only [Piece.octets, List.cons_append, List.nil_append, expect,
        ne_of_shortEscape? escapes, ↓reduceIte, Except.bind] at escape ⊢
      rw [readOctets_escape_of_error escape]
      exact .error _ rest
  | unicode e f g h second more =>
      simp only [Piece.octets, List.cons_append, List.nil_append, expect, readHex_unit more,
        ↓reduceIte, Except.bind] at escape ⊢
      cases trailing : isTrailingSurrogate second with
      | false =>
          simp only [trailing, Bool.false_eq_true, ↓reduceIte] at escape
          rw [readOctets_escape_of_error escape]
          simp only [Pieces.meantAfter?, trailing, Bool.false_eq_true, ↓reduceIte]
          exact .error _ rest
      | true =>
          simp only [trailing, ↓reduceIte] at escape
          rw [readOctets_escape escape]
          simp only [Pieces.meantAfter?, trailing, ↓reduceIte]
          exact Reads.found_append (finds bound _ (by omega))

theorem finds_cons (piece : Piece) {pieces : Pieces} {rest : List UInt8}
    (finds : Finds pieces rest) (behind : FindsBehind pieces rest) :
    Finds (piece :: pieces) rest := by
  intro bound found enough
  obtain ⟨less, rfl⟩ := Nat.exists_eq_add_one_of_ne_zero (Nat.ne_zero_of_lt enough)
  have shape : Pieces.octets (piece :: pieces) ++ quote :: rest =
      piece.octets ++ (pieces.octets ++ quote :: rest) := by
    simp only [Pieces.octets, List.flatMap_cons, List.append_assoc]
  have shorter : piece.octets.length + pieces.octets.length < less + 1 := by
    simpa only [Pieces.octets, List.flatMap_cons, List.length_append] using enough
  rw [shape]
  cases piece with
  | plain b plain =>
      simp only [Piece.octets, List.length_singleton] at shorter
      rw [Piece.octets, List.singleton_append, readOctets_plain plain]
      exact @Reads.found_append _ _ found [b] rest (finds less _ (by omega))
  | short b meant escapes =>
      simp only [Piece.octets, List.length_cons] at shorter
      rw [Piece.octets, List.cons_append, List.singleton_append,
        readOctets_escape (readEscape_short escapes _)]
      exact @Reads.found_append _ _ found [meant] rest (finds less _ (by omega))
  | unicode a b c d unit digits =>
      simp only [Piece.octets, List.length_cons] at shorter
      simp only [Piece.octets, List.cons_append, List.nil_append, Pieces.meantAfter?]
      cases trailing : isTrailingSurrogate unit with
      | true =>
          have escape : readEscape (0x75 :: a :: b :: c :: d :: (pieces.octets ++ quote :: rest)) =
              .error .malformed := by
            simp only [readEscape_unicode, readUnicode, readHex_unit digits, bind, Except.bind,
              trailing, ↓reduceIte]
          rw [readOctets_escape_of_error escape]
          exact .error _ rest
      | false =>
          cases leading : isLeadingSurrogate unit with
          | true =>
              exact behind a b c d unit digits trailing leading less found (by omega)
          | false =>
              have escape :
                  readEscape (0x75 :: a :: b :: c :: d :: (pieces.octets ++ quote :: rest)) =
                    .ok (codePoint unit, pieces.octets ++ quote :: rest) := by
                simp only [readEscape_unicode, readUnicode, readHex_unit digits, bind, Except.bind,
                  trailing, leading, ↓reduceIte, Bool.false_eq_true]
              rw [readOctets_escape escape]
              exact Reads.found_append (finds less _ (by omega))

theorem finds (pieces : Pieces) (rest : List UInt8) :
    Finds pieces rest ∧ FindsBehind pieces rest := by
  induction pieces with
  | nil => exact ⟨finds_nil rest, findsBehind_nil rest⟩
  | cons piece pieces inductionHypothesis =>
      obtain ⟨finds, behind⟩ := inductionHypothesis
      exact ⟨finds_cons piece finds behind, findsBehind_cons piece finds⟩

theorem read_reads (pieces : Pieces) (rest : List UInt8) :
    Reads (read (pieces.octets ++ quote :: rest)) pieces.text? rest := by
  have enough : pieces.octets.length < (pieces.octets ++ quote :: rest).length + 1 := by
    simp only [List.length_append, List.length_cons]
    omega
  have reads := (finds pieces rest).1 _ [] enough
  simp only [List.reverse_nil, List.nil_append, Option.map_id'] at reads
  refine reads.bind fun octets meant => ?_
  dsimp only
  cases spelled : Utf8.ofOctets? octets with
  | none => exact .error _ rest
  | some text => rfl

theorem skipEscape_short {b meant : UInt8} (escapes : shortEscape? b = some meant)
    (rest : List UInt8) : skipEscape (b :: rest) = .ok rest := by
  simp only [skipEscape, ne_of_shortEscape? escapes, ↓reduceIte, escapes, Option.isSome_some]

theorem skipOctets_eq (pieces : Pieces) (rest : List UInt8) :
    ∀ bound, pieces.octets.length < bound →
      skipOctets bound (pieces.octets ++ quote :: rest) = .ok rest := by
  induction pieces with
  | nil =>
      intro bound enough
      obtain ⟨less, rfl⟩ := Nat.exists_eq_add_one_of_ne_zero (Nat.ne_zero_of_lt enough)
      simp [Pieces.octets, skipOctets]
  | cons piece pieces inductionHypothesis =>
      intro bound enough
      obtain ⟨less, rfl⟩ := Nat.exists_eq_add_one_of_ne_zero (Nat.ne_zero_of_lt enough)
      have tail := inductionHypothesis less
      simp only [Pieces.octets, List.flatMap_cons, List.length_append] at enough tail ⊢
      cases piece with
      | plain b plain =>
          obtain ⟨notQuote, notBackslash, notControl⟩ := plain
          simp only [Piece.octets, List.length_singleton] at enough
          simp only [Piece.octets, List.cons_append, List.nil_append, skipOctets, notQuote,
            notBackslash, notControl, ↓reduceIte, Bool.false_eq_true]
          exact tail (by omega)
      | short b meant escapes =>
          simp only [Piece.octets, List.length_cons] at enough
          simp only [Piece.octets, List.cons_append, List.nil_append, skipOctets,
            show backslash ≠ quote by decide, ↓reduceIte, skipEscape_short escapes]
          exact tail (by omega)
      | unicode a b c d unit digits =>
          simp only [Piece.octets, List.length_cons] at enough
          simp only [Piece.octets, List.cons_append, List.nil_append, skipOctets,
            show backslash ≠ quote by decide, ↓reduceIte, skipEscape, readHex_unit digits,
            Except.map]
          exact tail (by omega)

theorem skip_eq (pieces : Pieces) (rest : List UInt8) :
    skip (pieces.octets ++ quote :: rest) = .ok rest := by
  refine skipOctets_eq pieces rest _ ?_
  simp only [List.length_append, List.length_cons]
  omega

end Text

/-! ## Numbers -/

/-- Whether a text cannot go on with a number that stands before it. -/
def isDetached : List UInt8 → Bool
  | [] => true
  | b :: _ => !isDigit b && b != point && !isExponentLetter b

theorem not_isDigit_of_isDetached {rest : List UInt8} (detached : isDetached rest = true) :
    ∀ b ∈ rest.head?, isDigit b = false := by
  intro b head
  cases rest with
  | nil => cases head
  | cons c after =>
      obtain rfl : c = b := Option.some.inj head
      simp only [isDetached, Bool.and_eq_true, Bool.not_eq_true'] at detached
      exact detached.1.1

namespace Digits

variable {rest : List UInt8}

/-- The digits are all that is taken where no digit follows. -/
theorem takeWhile_eq (digits : Digits) (stop : ∀ b ∈ rest.head?, isDigit b = false) :
    (digits.octets ++ rest).takeWhile isDigit = digits.octets ∧
      (digits.octets ++ rest).dropWhile isDigit = rest := by
  have stops : rest.takeWhile isDigit = [] ∧ rest.dropWhile isDigit = rest := by
    cases rest with
    | nil => exact ⟨rfl, rfl⟩
    | cons b after => simp [stop b rfl]
  have all : ∀ b ∈ digits.octets, isDigit b = true := digits.digits
  rw [List.takeWhile_append_of_pos all, List.dropWhile_append_of_pos all, stops.1, stops.2]
  exact ⟨List.append_nil _, rfl⟩

theorem isDigit_first (digits : Digits) : isDigit digits.first = true :=
  digits.digits digits.first List.mem_cons_self

theorem ne_of_isDigit {b c : UInt8} (digit : isDigit b = true) (other : isDigit c = false) :
    b ≠ c := by
  rintro rfl
  rw [other] at digit
  cases digit

end Digits

namespace Number

variable {rest : List UInt8}

theorem reads_sized (negative down : Bool) (significand size : Nat) (power : Int)
    (rest : List UInt8) :
    Reads
      (if size < exponentBound then do
          let number ← ofParts negative significand (if down then power - size else power + size)
          .ok (number, rest)
        else if significand ≠ 0 ∧ down = false then .error .malformed
        else do
          let number ← ofParts negative 0 0
          .ok (number, rest))
      (if size < exponentBound then
          (ofParts negative significand (if down then power - size else power + size)).toOption
        else if significand ≠ 0 ∧ down = false then none
        else (ofParts negative 0 0).toOption) rest := by
  split
  · exact .of_except _ rest
  · split
    · exact .error _ rest
    · exact .of_except _ rest

theorem readExponent_reads (exponent : Exponent) (detached : isDetached rest = true)
    (negative : Bool) (significand : Nat) (power : Int) :
    Reads
      (readExponent negative significand power
        (exponent.signOctets ++ (exponent.digits.octets ++ rest)))
      (exponent.number? negative significand power) rest := by
  obtain ⟨letter, isLetter, sign, digits⟩ := exponent
  obtain ⟨taken, dropped⟩ := digits.takeWhile_eq (not_isDigit_of_isDetached detached)
  have digit := digits.isDigit_first
  have notPlus : digits.first ≠ plus := Digits.ne_of_isDigit digit (by decide)
  have notMinus : digits.first ≠ minus := Digits.ne_of_isDigit digit (by decide)
  simp only [Digits.octets, List.cons_append] at taken dropped ⊢
  have sized (down : Bool) := reads_sized negative down significand
    (valueAfter 0 (digits.first :: digits.rest)) power rest
  rcases sign with _ | _ | _
  all_goals
    simp only [Exponent.signOctets, readExponent, List.nil_append, List.singleton_append, notPlus,
      notMinus, show minus ≠ plus by decide, ↓reduceIte, digit, taken, dropped, Exponent.number?,
      Exponent.size, valueAfter, Digits.octets, Option.getD_none, Option.getD_some] at sized ⊢
  · simpa only [and_true] using sized false
  · simpa only [and_true] using sized false
  · exact sized true

theorem skipExponent_eq (exponent : Exponent) (detached : isDetached rest = true) :
    skipExponent (exponent.signOctets ++ (exponent.digits.octets ++ rest)) = .ok rest := by
  obtain ⟨letter, isLetter, sign, digits⟩ := exponent
  obtain ⟨_, dropped⟩ := digits.takeWhile_eq (not_isDigit_of_isDetached detached)
  have digit := digits.isDigit_first
  have notPlus : digits.first ≠ plus := Digits.ne_of_isDigit digit (by decide)
  have notMinus : digits.first ≠ minus := Digits.ne_of_isDigit digit (by decide)
  have dropped : (digits.rest ++ rest).dropWhile isDigit = rest := by
    simpa only [Digits.octets, List.cons_append, List.dropWhile_cons, digit, ↓reduceIte]
      using dropped
  rcases sign with _ | _ | _
  all_goals
    simp only [Exponent.signOctets, skipExponent, Digits.octets, List.nil_append, List.cons_append,
      notPlus, notMinus, or_self, or_true, true_or, ↓reduceIte, digit, dropped]

/-- A letter of an exponent is neither a digit nor the point. -/
theorem facts_of_letter {b : UInt8} (letter : isExponentLetter b = true) :
    isDigit b = false ∧ b ≠ point := by
  have cases : b = 0x65 ∨ b = 0x45 := by simpa [isExponentLetter] using letter
  rcases cases with rfl | rfl <;> decide

theorem facts_of_detached {b : UInt8} {after : List UInt8}
    (detached : isDetached (b :: after) = true) :
    b ≠ point ∧ isExponentLetter b = false := by
  simp only [isDetached, Bool.and_eq_true, Bool.not_eq_true', bne_iff_ne] at detached
  exact ⟨detached.1.2, detached.2⟩

theorem exponent_stops (exponent : Exponent) (rest : List UInt8) :
    ∀ b ∈ (exponent.octets ++ rest).head?, isDigit b = false := by
  intro b head
  obtain rfl : exponent.letter = b := Option.some.inj head
  exact (facts_of_letter exponent.isLetter).1

/-- No digit follows the whole part. -/
theorem tail_stops (numeral : Numeral) (detached : isDetached rest = true) :
    ∀ b ∈ (numeral.tail ++ rest).head?, isDigit b = false := by
  intro b head
  obtain ⟨negative, whole, noLeadingZero, fraction, exponent⟩ := numeral
  cases fraction with
  | some digits =>
      obtain rfl : point = b := Option.some.inj head
      decide
  | none =>
      cases exponent with
      | some exponent => exact exponent_stops exponent rest b head
      | none => exact not_isDigit_of_isDetached detached b head

/-- A fraction without an exponent. -/
theorem readFraction_plain (digits : Digits) (detached : isDetached rest = true)
    (negative : Bool) (significand : Nat) (power : Int) :
    Reads (readFraction negative significand power (digits.octets ++ rest))
      (ofParts negative (absorb significand digits.octets).1
        (power - (absorb significand digits.octets).2)).toOption rest := by
  obtain ⟨taken, dropped⟩ := digits.takeWhile_eq (not_isDigit_of_isDetached detached)
  have present : digits.octets.isEmpty = false := rfl
  simp only [readFraction, taken, dropped, present, Bool.false_eq_true, ↓reduceIte]
  cases rest with
  | nil => exact .of_except _ []
  | cons b after =>
      simp only [(facts_of_detached detached).2, Bool.false_eq_true, ↓reduceIte]
      exact .of_except _ (b :: after)

/-- A fraction with an exponent. -/
theorem readFraction_exponent (digits : Digits) (exponent : Exponent)
    (detached : isDetached rest = true) (negative : Bool) (significand : Nat) (power : Int) :
    Reads (readFraction negative significand power (digits.octets ++ (exponent.octets ++ rest)))
      (exponent.number? negative (absorb significand digits.octets).1
        (power - (absorb significand digits.octets).2)) rest := by
  obtain ⟨taken, dropped⟩ := digits.takeWhile_eq (exponent_stops exponent rest)
  have present : digits.octets.isEmpty = false := rfl
  simp only [readFraction, taken, dropped, present, Bool.false_eq_true, ↓reduceIte]
  simp only [Exponent.octets, List.cons_append, List.append_assoc, exponent.isLetter, ↓reduceIte]
  exact readExponent_reads exponent detached negative _ _

/-- What may follow the whole part, and then a text that does not go on with the number. -/
theorem readTail_reads (numeral : Numeral) (detached : isDetached rest = true)
    (significand dropped : Nat) :
    Reads (readTail numeral.negative significand dropped (numeral.tail ++ rest))
      (numeral.finish? significand dropped) rest := by
  obtain ⟨negative, whole, noLeadingZero, fraction, exponent⟩ := numeral
  cases fraction with
  | none =>
      cases exponent with
      | none =>
          simp only [Numeral.tail, Numeral.finish?, List.nil_append, readTail]
          have plain : Reads
              (if dropped = 0 then do
                let number ← ofSignificand negative significand
                .ok (number, rest)
              else do
                let number ← ofParts negative significand dropped
                .ok (number, rest))
              (if dropped = 0 then (ofSignificand negative significand).toOption
                else (ofParts negative significand dropped).toOption) rest := by
            split
            · exact .of_except _ rest
            · exact .of_except _ rest
          cases rest with
          | nil => exact plain
          | cons b after =>
              obtain ⟨notPoint, notLetter⟩ := facts_of_detached detached
              simp only [notPoint, notLetter, Bool.false_eq_true, ↓reduceIte]
              exact plain
      | some exponent =>
          simp only [Numeral.tail, Numeral.finish?, List.nil_append, Exponent.octets,
            List.cons_append, List.append_assoc, readTail, (facts_of_letter exponent.isLetter).2,
            exponent.isLetter, ↓reduceIte]
          exact readExponent_reads exponent detached negative significand dropped
  | some digits =>
      cases exponent with
      | none =>
          simp only [Numeral.tail, Numeral.finish?, List.append_nil, List.cons_append, readTail,
            ↓reduceIte]
          exact readFraction_plain digits detached negative significand dropped
      | some exponent =>
          simp only [Numeral.tail, Numeral.finish?, List.cons_append, List.append_assoc, readTail,
            ↓reduceIte]
          exact readFraction_exponent digits exponent detached negative significand dropped

theorem read_reads (numeral : Numeral) (detached : isDetached rest = true) :
    Reads (read numeral.negative (numeral.unsigned ++ rest)) numeral.number? rest := by
  have stop := tail_stops numeral detached
  obtain ⟨taken, dropped⟩ := numeral.whole.takeWhile_eq stop
  have digit := numeral.whole.isDigit_first
  rw [Numeral.unsigned, List.append_assoc]
  by_cases leading : numeral.whole.first = zero
  · have alone := numeral.noLeadingZero leading
    have whole_eq : numeral.whole.octets = [zero] := by
      rw [Digits.octets, leading, alone]
    have absorbed : absorb 0 [zero] = (0, 1) := by decide
    have tail := readTail_reads numeral detached 0 0
    simp only [Numeral.number?, whole_eq, absorbed, List.length_singleton, Nat.sub_self,
      List.singleton_append, read, ↓reduceIte]
    cases behind : numeral.tail ++ rest with
    | nil =>
        rw [behind] at tail
        exact tail
    | cons b after =>
        rw [behind] at tail stop
        simp only [stop b rfl, Bool.false_eq_true, ↓reduceIte]
        exact tail
  · have tail := readTail_reads numeral detached (absorb 0 numeral.whole.octets).1
      (numeral.whole.octets.length - (absorb 0 numeral.whole.octets).2)
    simp only [Digits.octets, List.cons_append] at taken dropped tail
    simp only [Numeral.number?, Digits.octets, List.cons_append, read, leading, ↓reduceIte, digit,
      taken, dropped]
    exact tail

theorem skipTail_eq (numeral : Numeral) (detached : isDetached rest = true) :
    skipTail (numeral.tail ++ rest) = .ok rest := by
  obtain ⟨negative, whole, noLeadingZero, fraction, exponent⟩ := numeral
  cases fraction with
  | none =>
      cases exponent with
      | none =>
          simp only [Numeral.tail, List.nil_append, skipTail]
          cases rest with
          | nil => rfl
          | cons b after =>
              obtain ⟨notPoint, notLetter⟩ := facts_of_detached detached
              simp only [notPoint, notLetter, Bool.false_eq_true, ↓reduceIte]
      | some exponent =>
          simp only [Numeral.tail, List.nil_append, Exponent.octets, List.cons_append,
            List.append_assoc, skipTail, (facts_of_letter exponent.isLetter).2, exponent.isLetter,
            ↓reduceIte]
          exact skipExponent_eq exponent detached
  | some digits =>
      have present : digits.octets.isEmpty = false := rfl
      cases exponent with
      | none =>
          obtain ⟨taken, dropped⟩ := digits.takeWhile_eq (not_isDigit_of_isDetached detached)
          simp only [Numeral.tail, List.append_nil, List.cons_append, skipTail, ↓reduceIte, taken,
            dropped, present, Bool.false_eq_true]
          cases rest with
          | nil => rfl
          | cons b after =>
              simp only [(facts_of_detached detached).2, Bool.false_eq_true, ↓reduceIte]
      | some exponent =>
          obtain ⟨taken, dropped⟩ := digits.takeWhile_eq (exponent_stops exponent rest)
          simp only [Numeral.tail, List.cons_append, List.append_assoc, skipTail, ↓reduceIte,
            taken, dropped, present, Bool.false_eq_true]
          simp only [Exponent.octets, List.cons_append, List.append_assoc, exponent.isLetter,
            ↓reduceIte]
          exact skipExponent_eq exponent detached

theorem skip_eq (numeral : Numeral) (detached : isDetached rest = true) :
    skip (numeral.unsigned ++ rest) = .ok rest := by
  have stop := tail_stops numeral detached
  obtain ⟨_, dropped⟩ := numeral.whole.takeWhile_eq stop
  have digit := numeral.whole.isDigit_first
  have tail := skipTail_eq numeral detached
  rw [Numeral.unsigned, List.append_assoc]
  by_cases leading : numeral.whole.first = zero
  · have alone := numeral.noLeadingZero leading
    simp only [Digits.octets, leading, alone, List.singleton_append, skip, ↓reduceIte]
    cases behind : numeral.tail ++ rest with
    | nil =>
        rw [behind] at tail
        exact tail
    | cons b after =>
        rw [behind] at tail stop
        simp only [stop b rfl, Bool.false_eq_true, ↓reduceIte]
        exact tail
  · simp only [Digits.octets, List.cons_append, List.dropWhile_cons, digit, ↓reduceIte]
      at dropped
    simp only [Digits.octets, List.cons_append, skip, leading, ↓reduceIte, digit, dropped]
    exact tail

end Number

end CacheSync.Json
