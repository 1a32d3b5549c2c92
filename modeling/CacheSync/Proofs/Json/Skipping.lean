import CacheSync.Proofs.Json.Literals
import CacheSync.Proofs.Json.Trees

/-!
# Passing over values

A value that nobody asks for is passed over, however deep it nests and whatever its strings and
numbers say: `Reader.skip_eq`.  The reader keeps a stack of the brackets that are open, so the
lemmas say how it goes on behind a value inside any stack.
-/

namespace CacheSync.Json

open Octet

/-! ## The first octet of a value -/

namespace Blanks

theorem skip_append (blanks : Blanks) (rest : List UInt8) :
    skipBlanks (blanks.octets ++ rest) = skipBlanks rest :=
  List.dropWhile_append_of_pos blanks.blank

end Blanks

theorem not_isBlank_of_isDigit {b : UInt8} (digit : isDigit b = true) : isBlank b = false := by
  cases blank : isBlank b with
  | false => rfl
  | true =>
      simp only [isBlank, Bool.or_eq_true, beq_iff_eq] at blank
      rcases blank with ((rfl | rfl) | rfl) | rfl <;> exact absurd digit (by decide)

namespace Numeral

theorem octets_eq_cons (numeral : Numeral) :
    ∃ b rest, numeral.octets = b :: rest ∧ (b = minus ∨ isDigit b = true) := by
  obtain ⟨negative, whole, noLeadingZero, fraction, exponent⟩ := numeral
  cases negative with
  | true => exact ⟨minus, _, rfl, Or.inl rfl⟩
  | false => exact ⟨whole.first, _, rfl, Or.inr whole.isDigit_first⟩

end Numeral

/-- The first octet of a value tells its kind. -/
structure Leads (b : UInt8) (value : Spelling) : Prop where
  notBlank : isBlank b = false
  notBracket : b ≠ closeBracket
  null : b = Reader.letterN ↔ value = .null
  text : b = quote ↔ ∃ pieces, value = .text pieces
  object : b = openBrace ↔ ∃ members last, value = .object members last
  number : b = minus ∨ isDigit b = true ↔ ∃ numeral, value = .number numeral

namespace Spelling

theorem leads (value : Spelling) : ∃ b tail, value.octets = b :: tail ∧ Leads b value := by
  cases value with
  | number numeral =>
      obtain ⟨b, tail, shape, sign⟩ := numeral.octets_eq_cons
      have other {c : UInt8} (notMinus : minus ≠ c) (notDigit : isDigit c = false) : b ≠ c := by
        rcases sign with rfl | digit
        · exact notMinus
        · exact Digits.ne_of_isDigit digit notDigit
      have notBlank : isBlank b = false := by
        rcases sign with rfl | digit
        · decide
        · exact not_isBlank_of_isDigit digit
      exact ⟨b, tail, shape, notBlank, other (by decide) (by decide),
        iff_of_false (other (by decide) (by decide)) (by simp),
        iff_of_false (other (by decide) (by decide)) (by simp),
        iff_of_false (other (by decide) (by decide)) (by simp), iff_of_true sign ⟨numeral, rfl⟩⟩
  | bool b =>
      cases b <;> exact ⟨_, _, rfl, by decide, by decide,
        iff_of_false (by decide) (by simp), iff_of_false (by decide) (by simp),
        iff_of_false (by decide) (by simp), iff_of_false (by decide) (by simp)⟩
  | null =>
      exact ⟨_, _, rfl, by decide, by decide, iff_of_true rfl rfl,
        iff_of_false (by decide) (by simp), iff_of_false (by decide) (by simp),
        iff_of_false (by decide) (by simp)⟩
  | text pieces =>
      exact ⟨_, _, rfl, by decide, by decide, iff_of_false (by decide) (by simp),
        iff_of_true rfl ⟨pieces, rfl⟩, iff_of_false (by decide) (by simp),
        iff_of_false (by decide) (by simp)⟩
  | array items last =>
      exact ⟨_, _, rfl, by decide, by decide, iff_of_false (by decide) (by simp),
        iff_of_false (by decide) (by simp), iff_of_false (by decide) (by simp),
        iff_of_false (by decide) (by simp)⟩
  | object members last =>
      exact ⟨_, _, rfl, by decide, by decide, iff_of_false (by decide) (by simp),
        iff_of_false (by decide) (by simp), iff_of_true rfl ⟨members, last, rfl⟩,
        iff_of_false (by decide) (by simp)⟩

end Spelling

namespace Reader

theorem word_eq (wanted rest : List UInt8) : word wanted (wanted ++ rest) = .ok rest := by
  induction wanted with
  | nil => rfl
  | cons b wanted inductionHypothesis =>
      simp only [List.cons_append, word, ↓reduceIte, inductionHypothesis]

end Reader

/-! ## Scalars -/

namespace Spelling

/-- Whether a value is neither an array nor an object. -/
def isScalar : Spelling → Bool
  | .array _ _ => false
  | .object _ _ => false
  | _ => true

/-- What holds of scalars, and of arrays and objects if it holds of their parts. -/
structure Inherited (ensured : Spelling → Prop) : Prop where
  scalar : ∀ spelling, spelling.isScalar = true → ensured spelling
  array : ∀ items last, (∀ item ∈ items, ensured item.value) → ensured (.array items last)
  object : ∀ members last, (∀ member ∈ members, ensured member.value) →
    ensured (.object members last)

namespace Inherited

variable {ensured : Spelling → Prop}

mutual

theorem apply (inherited : Inherited ensured) : (spelling : Spelling) → ensured spelling
  | .null => inherited.scalar _ rfl
  | .bool _ => inherited.scalar _ rfl
  | .number _ => inherited.scalar _ rfl
  | .text _ => inherited.scalar _ rfl
  | .array items last => inherited.array items last (inherited.items items)
  | .object members last => inherited.object members last (inherited.members members)
termination_by structural spelling => spelling

theorem items (inherited : Inherited ensured) : (items : List (Item Spelling)) →
    ∀ item ∈ items, ensured item.value
  | [] => by simp
  | first :: rest => by
      intro item present
      rcases List.mem_cons.1 present with same | later
      · rw [same]
        exact inherited.item first
      · exact inherited.items rest item later
termination_by structural items => items

theorem item (inherited : Inherited ensured) : (item : Item Spelling) → ensured item.value
  | ⟨_, value, _⟩ => inherited.apply value
termination_by structural item => item

theorem members (inherited : Inherited ensured) : (members : List (Member Spelling)) →
    ∀ member ∈ members, ensured member.value
  | [] => by simp
  | first :: rest => by
      intro member present
      rcases List.mem_cons.1 present with same | later
      · rw [same]
        exact inherited.member first
      · exact inherited.members rest member later
termination_by structural members => members

theorem member (inherited : Inherited ensured) : (member : Member Spelling) →
    ensured member.value
  | ⟨_, _, _, _, value, _⟩ => inherited.apply value
termination_by structural member => member

end

end Inherited

end Spelling

namespace Reader

/-- A scalar that begins with an octet: it is passed over, and read as what it says. -/
structure ReadsScalar (spelling : Spelling) (b : UInt8) (tail : List UInt8) : Prop where
  octets_eq : spelling.octets = b :: tail
  notOpenBracket : b ≠ openBracket
  notOpenBrace : b ≠ openBrace
  skips : ∀ rest, isDetached rest = true → skipScalar b (tail ++ rest) = .ok rest
  reads : ∀ rest, isDetached rest = true → Reads (scalar b (tail ++ rest)) spelling.tree? rest

theorem readsScalar_null : ReadsScalar .null letterN nullTail where
  octets_eq := rfl
  notOpenBracket := by decide
  notOpenBrace := by decide
  skips rest _ := by simp only [skipScalar, ↓reduceIte, word_eq]
  reads rest _ := by
    simp only [scalar, ↓reduceIte, word_eq]
    rfl

theorem readsScalar_true : ReadsScalar (.bool true) letterT trueTail where
  octets_eq := rfl
  notOpenBracket := by decide
  notOpenBrace := by decide
  skips rest _ := by
    simp only [skipScalar, show letterT ≠ letterN by decide, ↓reduceIte, word_eq]
  reads rest _ := by
    simp only [scalar, show letterT ≠ letterN by decide, ↓reduceIte, word_eq]
    rfl

theorem readsScalar_false : ReadsScalar (.bool false) letterF falseTail where
  octets_eq := rfl
  notOpenBracket := by decide
  notOpenBrace := by decide
  skips rest _ := by
    simp only [skipScalar, show letterF ≠ letterN by decide, show letterF ≠ letterT by decide,
      ↓reduceIte, word_eq]
  reads rest _ := by
    simp only [scalar, show letterF ≠ letterN by decide, show letterF ≠ letterT by decide,
      ↓reduceIte, word_eq]
    rfl

theorem readsScalar_text (pieces : Pieces) :
    ReadsScalar (.text pieces) quote (pieces.octets ++ [quote]) where
  octets_eq := rfl
  notOpenBracket := by decide
  notOpenBrace := by decide
  skips rest _ := by
    simp only [skipScalar, show quote ≠ letterN by decide, show quote ≠ letterT by decide,
      show quote ≠ letterF by decide, show quote ≠ minus by decide,
      show isDigit quote = false by decide, Bool.false_eq_true, ↓reduceIte, List.append_assoc,
      List.singleton_append, Text.skip_eq]
  reads rest _ := by
    have reads := (Text.read_reads pieces rest).map Tree.text
    simp only [scalar, show quote ≠ letterN by decide, show quote ≠ letterT by decide,
      show quote ≠ letterF by decide, show quote ≠ minus by decide,
      show isDigit quote = false by decide, Bool.false_eq_true, ↓reduceIte, List.append_assoc,
      List.singleton_append]
    exact reads

theorem readsScalar_number (numeral : Numeral) :
    ∃ b tail, ReadsScalar (.number numeral) b tail := by
  have skips (rest : List UInt8) (detached : isDetached rest = true) :=
    Number.skip_eq numeral detached
  have reads (rest : List UInt8) (detached : isDetached rest = true) :=
    (Number.read_reads numeral detached).map Tree.number
  cases negative : numeral.negative with
  | true =>
      simp only [negative] at reads
      refine ⟨minus, numeral.unsigned, ?_, by decide, by decide, fun rest detached => ?_,
        fun rest detached => ?_⟩
      · simp only [Spelling.octets, Numeral.octets, negative, ↓reduceIte, List.singleton_append]
      · simp only [skipScalar, show minus ≠ letterN by decide, show minus ≠ letterT by decide,
          show minus ≠ letterF by decide, ↓reduceIte, skips rest detached]
      · simp only [scalar, show minus ≠ letterN by decide, show minus ≠ letterT by decide,
          show minus ≠ letterF by decide, ↓reduceIte]
        exact reads rest detached
  | false =>
      simp only [negative] at reads
      have digit := numeral.whole.isDigit_first
      have notN : numeral.whole.first ≠ letterN := Digits.ne_of_isDigit digit (by decide)
      have notT : numeral.whole.first ≠ letterT := Digits.ne_of_isDigit digit (by decide)
      have notF : numeral.whole.first ≠ letterF := Digits.ne_of_isDigit digit (by decide)
      have notMinus : numeral.whole.first ≠ minus := Digits.ne_of_isDigit digit (by decide)
      refine ⟨numeral.whole.first, numeral.whole.rest ++ numeral.tail, ?_,
        Digits.ne_of_isDigit digit (by decide), Digits.ne_of_isDigit digit (by decide),
        fun rest detached => ?_, fun rest detached => ?_⟩
      · simp only [Spelling.octets, Numeral.octets, negative, Bool.false_eq_true, ↓reduceIte,
          List.nil_append]
        rfl
      · simp only [skipScalar, notN, notT, notF, notMinus, digit, ↓reduceIte]
        exact skips rest detached
      · simp only [scalar, notN, notT, notF, notMinus, digit, ↓reduceIte]
        exact reads rest detached

theorem exists_readsScalar {spelling : Spelling} (scalar : spelling.isScalar = true) :
    ∃ b tail, ReadsScalar spelling b tail := by
  cases spelling with
  | null => exact ⟨_, _, readsScalar_null⟩
  | bool b =>
      cases b with
      | true => exact ⟨_, _, readsScalar_true⟩
      | false => exact ⟨_, _, readsScalar_false⟩
  | number numeral => exact readsScalar_number numeral
  | text pieces => exact ⟨_, _, readsScalar_text pieces⟩
  | array items last => cases scalar
  | object members last => cases scalar

end Reader

/-! ## Detached text -/

theorem isDetached_blanks (blanks : Blanks) {rest : List UInt8}
    (detached : isDetached rest = true) :
    isDetached (blanks.octets ++ rest) = true := by
  obtain ⟨octets, blank⟩ := blanks
  cases octets with
  | nil => exact detached
  | cons b others =>
      have first := blank b List.mem_cons_self
      simp only [isBlank, Bool.or_eq_true, beq_iff_eq] at first
      rcases first with ((rfl | rfl) | rfl) | rfl <;> rfl

namespace Spelling

theorem isDetached_items (items : List (Item Spelling)) (last : Blanks) (rest : List UInt8) :
    isDetached (itemsOctets false items ++ (last.octets ++ closeBracket :: rest)) = true := by
  cases items with
  | nil => exact isDetached_blanks last rfl
  | cons item others => simp only [itemsOctets]; rfl

theorem isDetached_members (members : List (Member Spelling)) (last : Blanks)
    (rest : List UInt8) :
    isDetached (membersOctets false members ++ (last.octets ++ closeBrace :: rest)) = true := by
  cases members with
  | nil => exact isDetached_blanks last rfl
  | cons member others => simp only [membersOctets]; rfl

end Spelling

/-! ## Inside a stack of enclosures -/

namespace Reader

theorem afterColon_eq (blanks : Blanks) (rest : List UInt8) :
    afterColon (blanks.octets ++ colon :: rest) = .ok rest := by
  simp only [afterColon, Blanks.skip_append, skipBlanks_cons (b := colon) (by decide), ↓reduceIte]

theorem skipName_eq (name : Pieces) (named : Blanks) (rest : List UInt8) :
    skipName (quote :: (name.octets ++ quote :: (named.octets ++ colon :: rest))) = .ok rest := by
  simp only [skipName, skipBlanks_cons (b := quote) (by decide), ↓reduceIte, Text.skip_eq,
    afterColon_eq]

/-- The steps that are enough for what is awaited. -/
def budget : Awaited → List UInt8 → Nat
  | .value, bytes => 2 * bytes.length + 1
  | .close _, bytes => 2 * bytes.length + 2

/-- What the reader answers, with enough steps. -/
def Skips (awaited : Awaited) (stack : List Enclosure) (bytes : List UInt8)
    (result : Except Fault (List UInt8)) : Prop :=
  ∀ bound, budget awaited bytes ≤ bound → skipWithin bound awaited stack bytes = result

/-- The bracket that ends an enclosure. -/
def Enclosure.closing : Enclosure → UInt8
  | .array => closeBracket
  | .object => closeBrace

variable {inside : Enclosure} {stack : List Enclosure} {result : Except Fault (List UInt8)}

theorem skips_outside (rest : List UInt8) (afterPart : Bool) :
    Skips (.close afterPart) [] rest (.ok rest) := by
  intro bound enough
  obtain ⟨bound, rfl⟩ : ∃ n, bound = n + 1 := ⟨bound - 1, by simp only [budget] at enough; omega⟩
  rfl

/-- Behind a value the reader is done, or goes on in the enclosure around it. -/
theorem Skips.leave {rest : List UInt8} (behind : Skips (.close true) stack rest result)
    (bound : Nat) (enough : 2 * rest.length + 2 ≤ bound) :
    (if stack.isEmpty then .ok rest else skipWithin bound (.close true) stack rest) = result := by
  cases stack with
  | nil =>
      obtain ⟨bound, rfl⟩ : ∃ n, bound = n + 1 := ⟨bound - 1, by omega⟩
      exact behind (bound + 1) enough
  | cons inside stack => exact behind bound enough

/-- White space in front that the next step passes over changes nothing. -/
theorem Skips.blanks {awaited : Awaited} {bytes : List UInt8}
    (skips : Skips awaited stack bytes result) (blanks : Blanks)
    (same : ∀ bound, skipWithin (bound + 1) awaited stack (blanks.octets ++ bytes) =
      skipWithin (bound + 1) awaited stack bytes) :
    Skips awaited stack (blanks.octets ++ bytes) result := by
  intro bound enough
  have fewer : budget awaited bytes ≤ bound ∧ 0 < bound := by
    cases awaited <;> simp only [budget, List.length_append] at enough ⊢ <;> omega
  obtain ⟨bound, rfl⟩ : ∃ n, bound = n + 1 := ⟨bound - 1, by omega⟩
  rw [same, skips _ fewer.1]

theorem skips_value_blanks (blanks : Blanks) {bytes : List UInt8}
    (skips : Skips .value stack bytes result) :
    Skips .value stack (blanks.octets ++ bytes) result :=
  skips.blanks blanks fun bound => by simp only [skipWithin, Blanks.skip_append]

theorem skips_close_blanks (blanks : Blanks) {bytes : List UInt8} {afterPart : Bool}
    (skips : Skips (.close afterPart) (inside :: stack) bytes result) :
    Skips (.close afterPart) (inside :: stack) (blanks.octets ++ bytes) result :=
  skips.blanks blanks fun bound => by simp only [skipWithin, Blanks.skip_append]

theorem skips_closing {rest : List UInt8} (afterPart : Bool)
    (behind : Skips (.close true) stack rest result) :
    Skips (.close afterPart) (inside :: stack) (inside.closing :: rest) result := by
  intro bound enough
  simp only [budget, List.length_cons] at enough
  obtain ⟨bound, rfl⟩ : ∃ n, bound = n + 1 := ⟨bound - 1, by omega⟩
  rw [← behind.leave bound (by omega)]
  cases inside <;> rfl

/-- The first part of an enclosure follows its opening bracket at once. -/
theorem skips_firstPart {b : UInt8} {tail after : List UInt8} (notBlank : isBlank b = false)
    (part : b ≠ inside.closing) (enters : enterPart inside (b :: tail) = .ok after)
    (shorter : after.length ≤ tail.length + 1)
    (skips : Skips .value (inside :: stack) after result) :
    Skips (.close false) (inside :: stack) (b :: tail) result := by
  intro bound enough
  simp only [budget, List.length_cons] at enough
  obtain ⟨bound, rfl⟩ : ∃ n, bound = n + 1 := ⟨bound - 1, by omega⟩
  have notClosing : (b == inside.closing) = false := beq_false_of_ne part
  rw [← skips bound (by simp only [budget]; omega)]
  cases inside <;> simp only [Enclosure.closing] at notClosing <;>
    simp only [skipWithin, skipBlanks_cons notBlank, notClosing, Bool.false_eq_true, ↓reduceIte,
      enters]

/-- Every other part follows a comma. -/
theorem skips_nextPart {tail after : List UInt8} (enters : enterPart inside tail = .ok after)
    (shorter : after.length ≤ tail.length)
    (skips : Skips .value (inside :: stack) after result) :
    Skips (.close true) (inside :: stack) (comma :: tail) result := by
  intro bound enough
  simp only [budget, List.length_cons] at enough
  obtain ⟨bound, rfl⟩ : ∃ n, bound = n + 1 := ⟨bound - 1, by omega⟩
  have notClosing : (comma == inside.closing) = false := by cases inside <;> decide
  rw [← skips bound (by simp only [budget]; omega)]
  cases inside <;> simp only [Enclosure.closing] at notClosing <;>
    simp only [skipWithin, skipBlanks_cons (b := comma) (by decide), notClosing,
      Bool.false_eq_true, ↓reduceIte, enters]

/-! ## Every value -/

/-- A value is passed over inside every stack: what the reader answers behind it, it answers in
front of it. -/
def Skippable (spelling : Spelling) : Prop :=
  ∀ ⦃stack rest result⦄, isDetached rest = true → Skips (.close true) stack rest result →
    Skips .value stack (spelling.octets ++ rest) result

theorem skippable_scalar {spelling : Spelling} (scalar : spelling.isScalar = true) :
    Skippable spelling := by
  intro stack rest result detached behind bound enough
  obtain ⟨b, tail, readsScalar⟩ := exists_readsScalar scalar
  obtain ⟨c, _, shape, leads⟩ := spelling.leads
  obtain rfl : b = c := by
    rw [readsScalar.octets_eq] at shape
    exact (List.cons.inj shape).1
  simp only [readsScalar.octets_eq, budget, List.cons_append, List.length_cons,
    List.length_append] at enough
  obtain ⟨bound, rfl⟩ : ∃ n, bound = n + 1 := ⟨bound - 1, by omega⟩
  rw [readsScalar.octets_eq, ← behind.leave bound (by omega)]
  simp only [List.cons_append, skipWithin, skipBlanks_cons leads.notBlank,
    readsScalar.notOpenBracket, readsScalar.notOpenBrace, ↓reduceIte,
    readsScalar.skips rest detached]

theorem skips_items {items : List (Item Spelling)} {rest : List UInt8} (last : Blanks)
    (skippable : ∀ item ∈ items, Skippable item.value)
    (behind : Skips (.close true) stack rest result) :
    ∀ first, Skips (.close !first) (.array :: stack)
      (Spelling.itemsOctets first items ++ (last.octets ++ closeBracket :: rest)) result := by
  induction items with
  | nil =>
      intro first
      exact skips_close_blanks last (skips_closing (!first) behind)
  | cons item items inductionHypothesis =>
      obtain ⟨before, value, after⟩ := item
      have next := inductionHypothesis
        (fun other present => skippable other (List.mem_cons_of_mem _ present)) false
      have part := skippable ⟨before, value, after⟩ List.mem_cons_self
        (isDetached_blanks after (Spelling.isDetached_items items last rest))
        (skips_close_blanks after next)
      intro first
      cases first with
      | true =>
          obtain ⟨b, tail, shape, leads⟩ := value.leads
          simp only [shape, List.cons_append] at part
          simp only [Spelling.itemsOctets, Spelling.itemOctets, shape, ↓reduceIte,
            List.nil_append, List.append_assoc, List.cons_append]
          exact skips_close_blanks before
            (skips_firstPart leads.notBlank leads.notBracket rfl (Nat.le_refl _) part)
      | false =>
          simp only [Spelling.itemsOctets, Spelling.itemOctets, Bool.false_eq_true, ↓reduceIte,
            List.append_assoc, List.cons_append, List.nil_append]
          exact skips_nextPart rfl (Nat.le_refl _) (skips_value_blanks before part)

theorem skips_members {members : List (Member Spelling)} {rest : List UInt8} (last : Blanks)
    (skippable : ∀ member ∈ members, Skippable member.value)
    (behind : Skips (.close true) stack rest result) :
    ∀ first, Skips (.close !first) (.object :: stack)
      (Spelling.membersOctets first members ++ (last.octets ++ closeBrace :: rest)) result := by
  induction members with
  | nil =>
      intro first
      exact skips_close_blanks last (skips_closing (!first) behind)
  | cons member members inductionHypothesis =>
      obtain ⟨before, name, named, between, value, after⟩ := member
      have next := inductionHypothesis
        (fun other present => skippable other (List.mem_cons_of_mem _ present)) false
      have part := skips_value_blanks between (skippable _ List.mem_cons_self
        (isDetached_blanks after (Spelling.isDetached_members members last rest))
        (skips_close_blanks after next))
      have enters := skipName_eq name named (between.octets ++ (value.octets ++ (after.octets ++
        (Spelling.membersOctets false members ++ (last.octets ++ closeBrace :: rest)))))
      intro first
      cases first with
      | true =>
          simp only [Spelling.membersOctets, Spelling.memberOctets, ↓reduceIte,
            List.nil_append, List.append_assoc, List.cons_append]
          refine skips_close_blanks before
            (skips_firstPart (by decide) (by decide) enters ?_ part)
          simp only [List.length_append, List.length_cons]
          omega
      | false =>
          simp only [Spelling.membersOctets, Spelling.memberOctets, Bool.false_eq_true,
            ↓reduceIte, List.append_assoc, List.cons_append, List.nil_append]
          refine skips_nextPart ?_ ?_ part
          · simp only [enterPart, skipName, Blanks.skip_append] at enters ⊢
            exact enters
          · simp only [List.length_append, List.length_cons]
            omega

theorem skippable_array {items : List (Item Spelling)} (last : Blanks)
    (skippable : ∀ item ∈ items, Skippable item.value) : Skippable (.array items last) := by
  intro stack rest result _ behind bound enough
  simp only [budget, Spelling.octets, List.cons_append, List.length_cons] at enough
  obtain ⟨bound, rfl⟩ : ∃ n, bound = n + 1 := ⟨bound - 1, by omega⟩
  have within := skips_items last skippable behind true bound
    (by simp only [budget, List.length_append, List.length_cons] at enough ⊢; omega)
  simp only [Spelling.octets, List.cons_append, List.append_assoc, List.nil_append, skipWithin,
    skipBlanks_cons (b := openBracket) (by decide), ↓reduceIte]
  exact within

theorem skippable_object {members : List (Member Spelling)} (last : Blanks)
    (skippable : ∀ member ∈ members, Skippable member.value) :
    Skippable (.object members last) := by
  intro stack rest result _ behind bound enough
  simp only [budget, Spelling.octets, List.cons_append, List.length_cons] at enough
  obtain ⟨bound, rfl⟩ : ∃ n, bound = n + 1 := ⟨bound - 1, by omega⟩
  have within := skips_members last skippable behind true bound
    (by simp only [budget, List.length_append, List.length_cons] at enough ⊢; omega)
  simp only [Spelling.octets, List.cons_append, List.append_assoc, List.nil_append, skipWithin,
    skipBlanks_cons (b := openBrace) (by decide), show openBrace ≠ openBracket by decide,
    ↓reduceIte]
  exact within

theorem skippable (spelling : Spelling) : Skippable spelling :=
  (Spelling.Inherited.mk (fun _ scalar => skippable_scalar scalar)
    (fun _ last skippable => skippable_array last skippable)
    fun _ last skippable => skippable_object last skippable).apply spelling

/-- Every value is passed over, with the white space in front of it. -/
theorem skip_eq (between : Blanks) (spelling : Spelling) {rest : List UInt8}
    (detached : isDetached rest = true) :
    skip (between.octets ++ (spelling.octets ++ rest)) = .ok rest := by
  refine skips_value_blanks between (skippable spelling detached (skips_outside rest true)) _ ?_
  simp only [budget]
  omega

end Reader

end CacheSync.Json
