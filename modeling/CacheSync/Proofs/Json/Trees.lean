import CacheSync.Proofs.Json.Portable
import CacheSync.Proofs.Json.Scalars

/-!
# Trees read back

A tree whose numbers are integers is read back from its compact text, as long as the reader allows
its nesting: `Reader.readable`.  Arrays and objects are read part by part, so the lemmas about them
ask only that each of their parts is readable.
-/

namespace CacheSync.Json

open Octet

namespace Printer

theorem joined_cons (part : List UInt8) (parts : List (List UInt8)) :
    joined (part :: parts) = part ++ parts.flatMap (comma :: ·) := by
  induction parts generalizing part with
  | nil => simp [joined]
  | cons next rest inductionHypothesis =>
      rw [joined, inductionHypothesis next]
      · simp
      · simp

theorem itemTexts_eq_map (items : List Tree) : itemTexts items = items.map tree := by
  induction items with
  | nil => rfl
  | cons item rest inductionHypothesis => simp [itemTexts, inductionHypothesis]

theorem memberTexts_eq_map (members : List (String × Tree)) :
    memberTexts members = members.map memberText := by
  induction members with
  | nil => rfl
  | cons member rest inductionHypothesis => simp [memberTexts, inductionHypothesis]

theorem memberText_eq (name : String) (value : Tree) :
    memberText (name, value) =
      quote :: ((Utf8.octets name).flatMap escapeOctet ++ quote :: colon :: tree value) := by
  simp [memberText, member, text]

/-- A value begins with an octet that is neither a blank nor a closing bracket, and that is an `n`
only if the value is null. -/
theorem tree_eq_cons (found : Tree) (integral : found.isIntegral = true) :
    ∃ b rest, tree found = b :: rest ∧ isBlank b = false ∧ b ≠ closeBracket ∧
      (b = Reader.letterN → found = .null) := by
  cases found with
  | null => exact ⟨_, _, rfl, by decide, by decide, fun _ => rfl⟩
  | bool b => cases b <;> exact ⟨_, _, rfl, by decide, by decide, fun isN => absurd isN (by decide)⟩
  | text s => exact ⟨_, _, rfl, by decide, by decide, fun isN => absurd isN (by decide)⟩
  | array items => exact ⟨_, _, rfl, by decide, by decide, fun isN => absurd isN (by decide)⟩
  | object members => exact ⟨_, _, rfl, by decide, by decide, fun isN => absurd isN (by decide)⟩
  | number n =>
      cases n with
      | float x finite => simp [Tree.isIntegral, Number.isInteger] at integral
      | int n inRange =>
          simp only [tree, Number.number_int]
          split
          · exact ⟨_, _, rfl, by decide, by decide, fun isN => absurd isN (by decide)⟩
          · cases digits : Number.digitOctets n.natAbs with
            | nil => exact absurd digits (Number.digitOctets_ne_nil _)
            | cons first others =>
                have digit : isDigit first = true :=
                  Number.isDigit_of_mem_digitOctets n.natAbs first (by simp [digits])
                refine ⟨first, others, rfl, ?_, ?_, ?_⟩
                · cases blank : isBlank first with
                  | false => rfl
                  | true =>
                      simp only [isBlank, Bool.or_eq_true, beq_iff_eq] at blank
                      rcases blank with ((rfl | rfl) | rfl) | rfl <;> exact absurd digit (by decide)
                · rintro rfl
                  exact absurd digit (by decide)
                · rintro rfl
                  exact absurd digit (by decide)

end Printer

namespace Reader

open Printer

theorem skipBlanks_cons {b : UInt8} (notBlank : isBlank b = false) (rest : List UInt8) :
    skipBlanks (b :: rest) = b :: rest := by
  simp [skipBlanks, notBlank]

/-- A tree is readable at a depth if it is read back from its text, whatever stands behind. -/
def Readable (depth : Nat) (found : Tree) : Prop :=
  ∀ rest, endsPart rest = true → value depth (tree found ++ rest) = .ok (found, rest)

/-! ## Scalars -/

theorem value_eq_scalar {b : UInt8} (notBlank : isBlank b = false) (notBracket : b ≠ openBracket)
    (notBrace : b ≠ openBrace) (depth : Nat) (rest : List UInt8) :
    value depth (b :: rest) = scalar b rest := by
  cases depth with
  | zero => simp only [value, skipBlanks_cons notBlank]
  | succ depth =>
      simp only [value, skipBlanks_cons notBlank, notBracket, notBrace, ↓reduceIte]

theorem readable_null (depth : Nat) : Readable depth .null := by
  intro rest _
  have shape : tree .null ++ rest = 0x6E :: 0x75 :: 0x6C :: 0x6C :: rest := rfl
  rw [shape, value_eq_scalar (by decide) (by decide) (by decide)]
  rfl

theorem readable_bool (depth : Nat) (b : Bool) : Readable depth (.bool b) := by
  intro rest _
  cases b with
  | true =>
      have shape : tree (.bool true) ++ rest = 0x74 :: 0x72 :: 0x75 :: 0x65 :: rest := rfl
      rw [shape, value_eq_scalar (by decide) (by decide) (by decide)]
      rfl
  | false =>
      have shape : tree (.bool false) ++ rest = 0x66 :: 0x61 :: 0x6C :: 0x73 :: 0x65 :: rest := rfl
      rw [shape, value_eq_scalar (by decide) (by decide) (by decide)]
      rfl

theorem readable_text (depth : Nat) (s : String) : Readable depth (.text s) := by
  intro rest _
  have shape : tree (.text s) ++ rest =
      quote :: ((Utf8.octets s).flatMap escapeOctet ++ quote :: rest) := by
    simp [tree, text]
  rw [shape, value_eq_scalar (by decide) (by decide) (by decide)]
  simp [scalar, Text.read_escaped, show quote ≠ letterN by decide, show quote ≠ letterT by decide,
    show quote ≠ letterF by decide, show quote ≠ minus by decide,
    show isDigit quote = false by decide, bind, Except.bind]

theorem scalar_of_isDigit {b : UInt8} (digit : isDigit b = true) (rest : List UInt8) :
    scalar b rest =
      (Number.read false (b :: rest)).map fun found => (Tree.number found.1, found.2) := by
  have notN : b ≠ letterN := by rintro rfl; exact absurd digit (by decide)
  have notT : b ≠ letterT := by rintro rfl; exact absurd digit (by decide)
  have notF : b ≠ letterF := by rintro rfl; exact absurd digit (by decide)
  have notMinus : b ≠ minus := by rintro rfl; exact absurd digit (by decide)
  simp only [scalar, notN, notT, notF, notMinus, ↓reduceIte, digit]
  cases Number.read false (b :: rest) <;> rfl

theorem readable_int (depth : Nat) (n : Int) (inRange : InIntegerRange n) :
    Readable depth (.number (.int n inRange)) := by
  intro rest ends
  have read := Number.read_natAbs inRange ends
  simp only [tree, Number.number_int]
  by_cases negative : n < 0
  · simp only [negative, decide_true] at read
    simp only [negative, ↓reduceIte, List.cons_append]
    rw [value_eq_scalar (by decide) (by decide) (by decide)]
    simp [scalar, read, show minus ≠ letterN by decide, show minus ≠ letterT by decide,
      show minus ≠ letterF by decide, bind, Except.bind]
  · simp only [negative, decide_false] at read
    simp only [negative, ↓reduceIte]
    cases digits : Number.digitOctets n.natAbs with
    | nil => exact absurd digits (Number.digitOctets_ne_nil _)
    | cons first others =>
        have digit : isDigit first = true :=
          Number.isDigit_of_mem_digitOctets n.natAbs first (by simp [digits])
        have notBlank : isBlank first = false := by
          obtain ⟨b, after, shape, notBlank, _⟩ :=
            tree_eq_cons (.number (.int n inRange)) rfl
          simp only [tree, Number.number_int, negative, ↓reduceIte, digits] at shape
          injection shape with head _
          exact head ▸ notBlank
        have notBracket : first ≠ openBracket := by rintro rfl; exact absurd digit (by decide)
        have notBrace : first ≠ openBrace := by rintro rfl; exact absurd digit (by decide)
        rw [digits, List.cons_append] at read
        rw [List.cons_append, value_eq_scalar notBlank notBracket notBrace,
          scalar_of_isDigit digit, read]
        rfl

/-! ## Arrays -/

theorem endsPart_items (items : List Tree) (rest : List UInt8) :
    endsPart ((items.flatMap fun item => comma :: tree item) ++ closeBracket :: rest) = true := by
  cases items <;> rfl

theorem items_behind {depth : Nat} (found : List Tree) :
    ∀ (bound : Nat) (rest : List UInt8),
      (∀ item ∈ found, item.isIntegral = true ∧ Readable depth item) →
      found.length < bound →
      items (value depth) bound false
          ((found.flatMap fun item => comma :: tree item) ++ closeBracket :: rest) =
        .ok (found, rest) := by
  induction found with
  | nil =>
      intro bound rest _ enough
      obtain ⟨less, rfl⟩ := Nat.exists_eq_add_one_of_ne_zero (Nat.ne_zero_of_lt enough)
      rfl
  | cons item others inductionHypothesis =>
      intro bound rest readable enough
      obtain ⟨less, rfl⟩ := Nat.exists_eq_add_one_of_ne_zero (Nat.ne_zero_of_lt enough)
      obtain ⟨integral, readItem⟩ := readable item (by simp)
      obtain ⟨b, after, shape, notBlank, notBracket, _⟩ := tree_eq_cons item integral
      have tail := inductionHypothesis less rest
        (fun other member => readable other (List.mem_cons_of_mem item member))
        (by simpa using enough)
      have head := readItem _ (endsPart_items others rest)
      rw [shape, List.cons_append] at head
      rw [List.flatMap_cons, List.append_assoc, List.cons_append, shape, items]
      simp only [nextItem, skipBlanks_cons (b := comma) (by decide), ↓reduceIte,
        show comma ≠ closeBracket by decide, Bool.false_eq_true, List.cons_append,
        skipBlanks_cons notBlank, notBracket, bind, Except.bind, head, tail]

theorem items_joined {depth : Nat} {found : List Tree} {bound : Nat} (rest : List UInt8)
    (readable : ∀ item ∈ found, item.isIntegral = true ∧ Readable depth item)
    (enough : found.length < bound) :
    items (value depth) bound true (joined (itemTexts found) ++ closeBracket :: rest) =
      .ok (found, rest) := by
  obtain ⟨less, rfl⟩ := Nat.exists_eq_add_one_of_ne_zero (Nat.ne_zero_of_lt enough)
  rw [itemTexts_eq_map]
  cases found with
  | nil => rfl
  | cons item others =>
      obtain ⟨integral, readItem⟩ := readable item (by simp)
      obtain ⟨b, after, shape, notBlank, notBracket, _⟩ := tree_eq_cons item integral
      have tail := items_behind others less rest
        (fun other member => readable other (List.mem_cons_of_mem item member))
        (by simpa using enough)
      have head := readItem _ (endsPart_items others rest)
      rw [shape, List.cons_append] at head
      rw [List.map_cons, joined_cons, List.flatMap_map, List.append_assoc, shape, List.cons_append,
        items]
      simp only [nextItem, skipBlanks_cons notBlank, notBracket, ↓reduceIte, bind, Except.bind,
        head, tail]

theorem length_le_joined (parts : List (List UInt8)) :
    parts.length ≤ (joined parts).length + 1 := by
  cases parts with
  | nil => simp
  | cons part rest =>
      have commas : rest.length ≤ (rest.flatMap (comma :: ·)).length := by
        induction rest with
        | nil => simp
        | cons next others inductionHypothesis =>
            simp only [List.length_cons, List.flatMap_cons, List.length_append]
            omega
      rw [joined_cons]
      simp only [List.length_cons, List.length_append]
      omega

theorem readable_array {depth : Nat} {found : List Tree}
    (readable : ∀ item ∈ found, item.isIntegral = true ∧ Readable depth item) :
    Readable (depth + 1) (.array found) := by
  intro rest _
  have shape : tree (.array found) ++ rest =
      openBracket :: (joined (itemTexts found) ++ closeBracket :: rest) := by
    simp [tree]
  have enough : found.length < (joined (itemTexts found) ++ closeBracket :: rest).length + 1 := by
    have := length_le_joined (itemTexts found)
    rw [itemTexts_eq_map, List.length_map] at this
    simp only [itemTexts_eq_map, List.length_append, List.length_cons]
    omega
  rw [shape, value]
  simp only [skipBlanks_cons (b := openBracket) (by decide), ↓reduceIte,
    items_joined rest readable enough, bind, Except.bind]

/-! ## Objects -/

theorem endsPart_members (members : List (String × Tree)) (rest : List UInt8) :
    endsPart ((members.flatMap fun member => comma :: memberText member) ++ closeBrace :: rest) =
      true := by
  cases members <;> rfl

theorem members_behind {depth : Nat} (found : List (String × Tree)) :
    ∀ (bound : Nat) (rest : List UInt8),
      (∀ member ∈ found, Readable depth member.2) →
      found.length < bound →
      members (value depth) bound false
          ((found.flatMap fun member => comma :: memberText member) ++ closeBrace :: rest) =
        .ok (found, rest) := by
  induction found with
  | nil =>
      intro bound rest _ enough
      obtain ⟨less, rfl⟩ := Nat.exists_eq_add_one_of_ne_zero (Nat.ne_zero_of_lt enough)
      rfl
  | cons member others inductionHypothesis =>
      intro bound rest readable enough
      obtain ⟨less, rfl⟩ := Nat.exists_eq_add_one_of_ne_zero (Nat.ne_zero_of_lt enough)
      obtain ⟨name, found⟩ := member
      have tail := inductionHypothesis less rest
        (fun other present => readable other (List.mem_cons_of_mem _ present))
        (by simpa using enough)
      have head := readable (name, found) (by simp) _ (endsPart_members others rest)
      simp only [List.flatMap_cons, memberText_eq, List.append_assoc, List.cons_append, members,
        nextName, skipBlanks_cons (b := comma) (by decide),
        skipBlanks_cons (b := quote) (by decide), skipBlanks_cons (b := colon) (by decide),
        show comma ≠ closeBrace by decide, ↓reduceIte, Bool.false_eq_true, bind, Except.bind,
        Text.read_escaped, afterColon]
      dsimp only at head
      simp only [head, tail]

theorem members_joined {depth : Nat} {found : List (String × Tree)} {bound : Nat}
    (rest : List UInt8) (readable : ∀ member ∈ found, Readable depth member.2)
    (enough : found.length < bound) :
    members (value depth) bound true (joined (memberTexts found) ++ closeBrace :: rest) =
      .ok (found, rest) := by
  obtain ⟨less, rfl⟩ := Nat.exists_eq_add_one_of_ne_zero (Nat.ne_zero_of_lt enough)
  rw [memberTexts_eq_map]
  cases found with
  | nil => rfl
  | cons member others =>
      obtain ⟨name, found⟩ := member
      have tail := members_behind others less rest
        (fun other present => readable other (List.mem_cons_of_mem _ present))
        (by simpa using enough)
      have head := readable (name, found) (by simp) _ (endsPart_members others rest)
      simp only [List.map_cons, joined_cons, List.flatMap_map, List.append_assoc,
        memberText_eq name found, List.cons_append, members, nextName,
        skipBlanks_cons (b := quote) (by decide), skipBlanks_cons (b := colon) (by decide),
        show quote ≠ closeBrace by decide, ↓reduceIte, bind, Except.bind, Text.read_escaped,
        afterColon, head, tail]

theorem readable_object {depth : Nat} {found : List (String × Tree)}
    (readable : ∀ member ∈ found, Readable depth member.2) :
    Readable (depth + 1) (.object found) := by
  intro rest _
  have shape : tree (.object found) ++ rest =
      openBrace :: (joined (memberTexts found) ++ closeBrace :: rest) := by
    simp [tree]
  have enough : found.length < (joined (memberTexts found) ++ closeBrace :: rest).length + 1 := by
    have := length_le_joined (memberTexts found)
    rw [memberTexts_eq_map, List.length_map] at this
    simp only [memberTexts_eq_map, List.length_append, List.length_cons]
    omega
  rw [shape, value]
  simp only [skipBlanks_cons (b := openBrace) (by decide), ↓reduceIte,
    show openBrace ≠ openBracket by decide, members_joined rest readable enough, bind,
    Except.bind]

/-! ## All trees -/

mutual

/-- A tree of integers is read back at every depth that allows its nesting. -/
theorem readable : (found : Tree) → found.isIntegral = true → ∀ {depth : Nat},
    found.depth ≤ depth → Readable depth found
  | .null, _, depth, _ => readable_null depth
  | .bool b, _, depth, _ => readable_bool depth b
  | .text s, _, depth, _ => readable_text depth s
  | .number (.int n inRange), _, depth, _ => readable_int depth n inRange
  | .array items, integral, 0, shallow => by simp [Tree.depth] at shallow
  | .array items, integral, depth + 1, shallow =>
      readable_array (readableItems items integral (Nat.le_of_succ_le_succ shallow))
  | .object members, integral, 0, shallow => by simp [Tree.depth] at shallow
  | .object members, integral, depth + 1, shallow =>
      readable_object (readableMembers members integral (Nat.le_of_succ_le_succ shallow))
termination_by structural found => found

theorem readableItems : (found : List Tree) → Tree.isIntegralItems found = true →
    ∀ {depth : Nat}, Tree.depthItems found ≤ depth →
      ∀ item ∈ found, item.isIntegral = true ∧ Readable depth item
  | [], _, _, _ => by simp
  | first :: rest, integral, depth, shallow => by
      simp only [Tree.isIntegralItems, Bool.and_eq_true] at integral
      simp only [Tree.depthItems, Nat.max_le] at shallow
      intro item member
      rcases List.mem_cons.1 member with same | later
      · rw [same]
        exact ⟨integral.1, readable first integral.1 shallow.1⟩
      · exact readableItems rest integral.2 shallow.2 item later
termination_by structural found => found

theorem readableMembers : (found : List (String × Tree)) → Tree.isIntegralMembers found = true →
    ∀ {depth : Nat}, Tree.depthMembers found ≤ depth →
      ∀ member ∈ found, Readable depth member.2
  | [], _, _, _ => by simp
  | first :: rest, integral, depth, shallow => by
      simp only [Tree.isIntegralMembers, Bool.and_eq_true] at integral
      simp only [Tree.depthMembers, Nat.max_le] at shallow
      intro member present
      rcases List.mem_cons.1 present with same | later
      · rw [same]
        exact readableMember first integral.1 shallow.1
      · exact readableMembers rest integral.2 shallow.2 member later
termination_by structural found => found

theorem readableMember : (found : String × Tree) → Tree.isIntegralMember found = true →
    ∀ {depth : Nat}, Tree.depthMember found ≤ depth → Readable depth found.2
  | (_, value), integral, _, shallow => readable value integral shallow
termination_by structural found => found

end

end Reader

end CacheSync.Json
