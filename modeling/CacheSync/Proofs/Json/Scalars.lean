import CacheSync.Json.Printer
import CacheSync.Json.Reader
import Mathlib.Tactic.SplitIfs

/-!
# Scalars read back

What the printer writes for a string or for an integer is what the reader reads: `Text.read_text`
and `Number.read_digits`.  Both hold with any text behind, as long as that text does not go on with
the number.
-/

namespace CacheSync.Json

open Octet

/-! ## Strings -/

namespace Text

theorem hexValue?_hexDigit :
    ∀ n < 16, hexValue? (hexDigit n) = some n := by
  decide

theorem codePoint_of_lt :
    ∀ n < 32, codePoint n = [UInt8.ofNat n] := by
  decide

theorem notSurrogate_of_lt :
    ∀ n < 32, isTrailingSurrogate n = false ∧ isLeadingSurrogate n = false := by
  decide

theorem isControl_iff {b : UInt8} : isControl b = true ↔ b.toNat < 32 := by
  simp only [isControl, decide_eq_true_eq, UInt8.lt_iff_toNat_lt]
  rfl

theorem readHex_control {b : UInt8} (control : isControl b = true) (rest : List UInt8) :
    readHex (zero :: zero :: hexDigit (b.toNat / 16) :: hexDigit (b.toNat % 16) :: rest) =
      .ok (b.toNat, rest) := by
  have small : b.toNat < 32 := isControl_iff.1 control
  have zeroValue : hexValue? zero = some 0 := by decide
  have high := hexValue?_hexDigit (b.toNat / 16) (by omega)
  have low := hexValue?_hexDigit (b.toNat % 16) (by omega)
  have value : ((0 * 16 + 0) * 16 + b.toNat / 16) * 16 + b.toNat % 16 = b.toNat := by omega
  simp only [readHex, zeroValue, high, low, value]

theorem readEscape_control {b : UInt8} (control : isControl b = true) (rest : List UInt8) :
    readEscape
        (0x75 :: zero :: zero :: hexDigit (b.toNat / 16) :: hexDigit (b.toNat % 16) :: rest) =
      .ok ([b], rest) := by
  have small : b.toNat < 32 := isControl_iff.1 control
  obtain ⟨notTrailing, notLeading⟩ := notSurrogate_of_lt b.toNat small
  have point : codePoint b.toNat = [b] := by
    rw [codePoint_of_lt b.toNat small, UInt8.ofNat_toNat]
  simp only [readEscape, ↓reduceIte, readUnicode, readHex_control control, bind, Except.bind,
    notTrailing, notLeading, point, Bool.false_eq_true]

theorem readOctets_escapeOctet (bound : Nat) (found : List UInt8) (b : UInt8)
    (rest : List UInt8) :
    readOctets (bound + 1) found (Printer.escapeOctet b ++ rest) =
      readOctets bound (b :: found) rest := by
  have backslashQuote : backslash ≠ quote := by decide
  unfold Printer.escapeOctet
  split_ifs with isQuote isBackslash is8 is9 isA isC isD control
  · subst isQuote
    simp [readOctets, backslashQuote, readEscape, shortEscape?, show quote ≠ 0x75 by decide]
  · subst isBackslash
    simp [readOctets, backslashQuote, readEscape, shortEscape?, show backslash ≠ 0x75 by decide]
  · subst is8
    rfl
  · subst is9
    rfl
  · subst isA
    rfl
  · subst isC
    rfl
  · subst isD
    rfl
  · rw [List.cons_append, readOctets]
    simp only [backslashQuote, ↓reduceIte, List.cons_append, List.nil_append,
      readEscape_control control, List.reverse_cons, List.reverse_nil]
  · rw [List.cons_append, readOctets]
    simp only [isQuote, isBackslash, control, ↓reduceIte, List.nil_append, Bool.false_eq_true]

theorem readOctets_escaped (octets : List UInt8) :
    ∀ (bound : Nat) (found rest : List UInt8), octets.length < bound →
      readOctets bound found (octets.flatMap Printer.escapeOctet ++ quote :: rest) =
        .ok (found.reverse ++ octets, rest) := by
  induction octets with
  | nil =>
      intro bound found rest enough
      obtain ⟨less, rfl⟩ := Nat.exists_eq_add_one_of_ne_zero (Nat.ne_zero_of_lt enough)
      simp [readOctets]
  | cons b octets inductionHypothesis =>
      intro bound found rest enough
      obtain ⟨less, rfl⟩ := Nat.exists_eq_add_one_of_ne_zero (Nat.ne_zero_of_lt enough)
      rw [List.flatMap_cons, List.append_assoc, readOctets_escapeOctet,
        inductionHypothesis less (b :: found) rest (by simpa using enough)]
      simp

theorem length_le_escaped (octets : List UInt8) :
    octets.length ≤ (octets.flatMap Printer.escapeOctet).length := by
  induction octets with
  | nil => simp
  | cons b octets inductionHypothesis =>
      have positive : 1 ≤ (Printer.escapeOctet b).length := by
        unfold Printer.escapeOctet
        split_ifs <;> simp
      simp only [List.length_cons, List.flatMap_cons, List.length_append]
      omega

theorem read_escaped (text : String) (rest : List UInt8) :
    read ((Utf8.octets text).flatMap Printer.escapeOctet ++ quote :: rest) =
      .ok (text, rest) := by
  have enough : (Utf8.octets text).length <
      ((Utf8.octets text).flatMap Printer.escapeOctet ++ quote :: rest).length + 1 := by
    have := length_le_escaped (Utf8.octets text)
    simp only [List.length_append, List.length_cons]
    omega
  simp only [read, readOctets_escaped _ _ [] rest enough, bind, Except.bind, List.reverse_nil,
    List.nil_append, Utf8.ofOctets?_octets]

end Text

/-! ## Integers -/

/-- Whether a text cannot go on with what stands before it: it is over, or begins with the octet
that follows a value in an array, an object or a message. -/
def endsPart : List UInt8 → Bool
  | [] => true
  | b :: _ => b == comma || b == closeBracket || b == closeBrace

theorem endsPart_cases {rest : List UInt8} (ends : endsPart rest = true) :
    rest = [] ∨ ∃ b after, rest = b :: after ∧ (b = comma ∨ b = closeBracket ∨ b = closeBrace) := by
  cases rest with
  | nil => exact Or.inl rfl
  | cons b after =>
      refine Or.inr ⟨b, after, rfl, ?_⟩
      simpa [endsPart, or_assoc] using ends

namespace Number

/-- The octets of the decimal digits of a number. -/
def digitOctets (n : Nat) : List UInt8 :=
  asciiOctets (Decimal.digitChars n)

theorem digit_facts :
    ∀ d < 10, isDigit (UInt8.ofNat (Nat.digitChar d).toNat) = true ∧
      digitValue (UInt8.ofNat (Nat.digitChar d).toNat) = d := by
  decide

theorem digitOctets_of_lt {n : Nat} (small : n < 10) :
    digitOctets n = [UInt8.ofNat (Nat.digitChar n).toNat] := by
  simp [digitOctets, asciiOctets, Decimal.digitChars, Nat.toDigits_of_lt_base small]

theorem digitOctets_of_le {n : Nat} (large : 10 ≤ n) :
    digitOctets n = digitOctets (n / 10) ++ [UInt8.ofNat (Nat.digitChar (n % 10)).toNat] := by
  simp [digitOctets, asciiOctets, Decimal.digitChars, Nat.toDigits_of_base_le (by omega) large]

theorem isDigit_of_mem_digitOctets (n : Nat) :
    ∀ b ∈ digitOctets n, isDigit b = true := by
  induction n using Nat.strongRecOn with
  | ind n inductionHypothesis =>
      intro b member
      by_cases small : n < 10
      · rw [digitOctets_of_lt small, List.mem_singleton] at member
        exact member ▸ (digit_facts n small).1
      · rw [digitOctets_of_le (by omega), List.mem_append, List.mem_singleton] at member
        rcases member with early | last
        · exact inductionHypothesis (n / 10) (by omega) b early
        · exact last ▸ (digit_facts (n % 10) (by omega)).1

/-- The value that digits stand for behind a value read so far. -/
def valueAfter (start : Nat) (digits : List UInt8) : Nat :=
  digits.foldl (fun n digit => n * 10 + digitValue digit) start

theorem valueAfter_digitOctets (n : Nat) :
    valueAfter 0 (digitOctets n) = n := by
  induction n using Nat.strongRecOn with
  | ind n inductionHypothesis =>
      by_cases small : n < 10
      · simp [digitOctets_of_lt small, valueAfter, (digit_facts n small).2]
      · have before := inductionHypothesis (n / 10) (by omega)
        have last := (digit_facts (n % 10) (by omega)).2
        simp only [valueAfter] at before
        rw [digitOctets_of_le (by omega), valueAfter, List.foldl_append, before]
        simp only [List.foldl_cons, List.foldl_nil, last]
        omega

theorem le_valueAfter (digits : List UInt8) :
    ∀ start : Nat, start ≤ valueAfter start digits := by
  induction digits with
  | nil =>
      intro start
      exact Nat.le_refl start
  | cons digit rest inductionHypothesis =>
      intro start
      have later := inductionHypothesis (start * 10 + digitValue digit)
      have step : start ≤ start * 10 + digitValue digit := by omega
      exact Nat.le_trans step later

/-- All digits are taken while their value stays in bounds. -/
theorem absorb_of_lt (digits : List UInt8) :
    ∀ start : Nat, valueAfter start digits < significandBound →
      absorb start digits = (valueAfter start digits, digits.length) := by
  induction digits with
  | nil =>
      intro start _
      rfl
  | cons digit rest inductionHypothesis =>
      intro start bounded
      have next : start * 10 + digitValue digit < significandBound :=
        Nat.lt_of_le_of_lt (le_valueAfter rest _) bounded
      have tail := inductionHypothesis (start * 10 + digitValue digit) bounded
      simp only [absorb, next, ↓reduceIte, tail, List.length_cons]
      rfl

theorem digitOctets_ne_nil (n : Nat) : digitOctets n ≠ [] := by
  simp [digitOctets, asciiOctets, Decimal.digitChars, Nat.toDigits_ne_nil]

theorem digitOctets_eq_zero_cons {n : Nat} {rest : List UInt8}
    (shape : digitOctets n = zero :: rest) : n = 0 ∧ rest = [] := by
  have value : ∀ d < 10, UInt8.ofNat (Nat.digitChar d).toNat = zero → d = 0 := by decide
  induction n using Nat.strongRecOn generalizing rest with
  | ind n inductionHypothesis =>
      by_cases small : n < 10
      · rw [digitOctets_of_lt small] at shape
        injection shape with head tail
        exact ⟨value n small head, tail.symm⟩
      · rw [digitOctets_of_le (by omega)] at shape
        cases before : digitOctets (n / 10) with
        | nil => exact absurd before (digitOctets_ne_nil _)
        | cons first middle =>
            rw [before, List.cons_append] at shape
            injection shape with head tail
            subst head
            have impossible := inductionHypothesis (n / 10) (by omega) before
            omega

theorem not_isDigit_of_endsPart {b : UInt8} {rest : List UInt8}
    (ends : endsPart (b :: rest) = true) : isDigit b = false := by
  rcases endsPart_cases ends with empty | ⟨c, after, shape, kind⟩
  · cases empty
  · injection shape with head _
    subst head
    rcases kind with rfl | rfl | rfl <;> decide

theorem takeWhile_digits {digits rest : List UInt8} (all : ∀ b ∈ digits, isDigit b = true)
    (ends : endsPart rest = true) :
    (digits ++ rest).takeWhile isDigit = digits ∧ (digits ++ rest).dropWhile isDigit = rest := by
  have stop : rest.takeWhile isDigit = [] ∧ rest.dropWhile isDigit = rest := by
    cases rest with
    | nil => exact ⟨rfl, rfl⟩
    | cons b after => simp [not_isDigit_of_endsPart ends]
  rw [List.takeWhile_append_of_pos all, List.dropWhile_append_of_pos all, stop.1, stop.2]
  simp

/-- A significand with nothing behind it that belongs to the number. -/
theorem readTail_of_endsPart {rest : List UInt8} (ends : endsPart rest = true)
    (negative : Bool) (significand : Nat) :
    readTail negative significand 0 rest =
      (ofSignificand negative significand).map fun number => (number, rest) := by
  unfold readTail
  rcases endsPart_cases ends with rfl | ⟨b, after, rfl, kind⟩
  · cases ofSignificand negative significand <;> rfl
  · have notPoint : b ≠ point := by rcases kind with rfl | rfl | rfl <;> decide
    have notLetter : isExponentLetter b = false := by rcases kind with rfl | rfl | rfl <;> decide
    simp only [notPoint, notLetter, ↓reduceIte, Bool.false_eq_true]
    cases ofSignificand negative significand <;> rfl

theorem read_digitOctets {n : Nat} (bounded : n < significandBound) {rest : List UInt8}
    (ends : endsPart rest = true) (negative : Bool) :
    read negative (digitOctets n ++ rest) =
      (ofSignificand negative n).map fun number => (number, rest) := by
  have all := isDigit_of_mem_digitOctets n
  obtain ⟨taken, dropped⟩ := takeWhile_digits all ends
  have value := valueAfter_digitOctets n
  have absorbed := absorb_of_lt (digitOctets n) 0 (by rwa [value])
  cases shape : digitOctets n with
  | nil => exact absurd shape (digitOctets_ne_nil n)
  | cons first others =>
      have firstDigit : isDigit first = true := all first (by simp [shape])
      rw [shape, List.cons_append] at taken dropped
      rw [shape] at absorbed value
      rw [List.cons_append, read.eq_def]
      dsimp only
      by_cases leading : first = zero
      · subst leading
        obtain ⟨rfl, rfl⟩ := digitOctets_eq_zero_cons shape
        simp only [↓reduceIte, List.nil_append]
        cases rest with
        | nil => exact readTail_of_endsPart ends negative 0
        | cons next after =>
            simp only [not_isDigit_of_endsPart ends, Bool.false_eq_true, ↓reduceIte]
            exact readTail_of_endsPart ends negative 0
      · simp only [leading, ↓reduceIte, firstDigit, taken, dropped, absorbed, value, Nat.sub_self]
        exact readTail_of_endsPart ends negative n

theorem ofSignificand_natAbs {n : Int} (inRange : InIntegerRange n) :
    ofSignificand (decide (n < 0)) n.natAbs = .ok (.int n inRange) := by
  have signed : (if decide (n < 0) = true then -(n.natAbs : Int) else (n.natAbs : Int)) = n := by
    by_cases negative : n < 0
    · simp only [negative, decide_true, ↓reduceIte]
      omega
    · simp only [negative, decide_false, Bool.false_eq_true, ↓reduceIte]
      omega
  have notMinusZero : (decide (n < 0) && n.natAbs == 0) = false := by
    by_cases negative : n < 0
    · have positive : n.natAbs ≠ 0 := by omega
      simp [positive]
    · simp [negative]
  simp only [ofSignificand, notMinusZero, Bool.false_eq_true, ↓reduceIte, signed, inRange,
    ↓reduceDIte]

theorem natAbs_lt_significandBound {n : Int} (inRange : InIntegerRange n) :
    n.natAbs < significandBound := by
  obtain ⟨low, high⟩ := inRange
  simp only [Word.least, Word.bound, significandBound] at *
  omega

theorem read_natAbs {n : Int} (inRange : InIntegerRange n) {rest : List UInt8}
    (ends : endsPart rest = true) :
    read (decide (n < 0)) (digitOctets n.natAbs ++ rest) = .ok (.int n inRange, rest) := by
  rw [read_digitOctets (natAbs_lt_significandBound inRange) ends, ofSignificand_natAbs inRange]
  rfl

/-- A written integer: a minus sign if it is negative, and its digits. -/
theorem number_int (n : Int) (inRange : InIntegerRange n) :
    Printer.number (.int n inRange) =
      if n < 0 then minus :: digitOctets n.natAbs else digitOctets n.natAbs := by
  simp only [Printer.number, Decimal.ofInt]
  split <;> rfl

end Number

end CacheSync.Json
