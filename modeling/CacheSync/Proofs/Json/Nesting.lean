import CacheSync.Json.Reader
import CacheSync.Json.Value

/-!
# How deep a value may nest

The reader is given a limit, and whatever it reads nests no deeper: `Reader.depth_le_of_value`.  A
higher limit changes nothing about a text that is read already: `Reader.value_mono`.  So a text that
is read at some limit is read at a lower one exactly if its tree nests no deeper than that.
-/

namespace CacheSync

/-! ## Steps that succeed -/

section Steps

variable {fault α β : Type} {step : Except fault α}

theorem exists_of_bind_eq_ok {next : α → Except fault β} {last : β}
    (done : step >>= next = .ok last) :
    ∃ middle, step = .ok middle ∧ next middle = .ok last := by
  cases step with
  | error fault => cases done
  | ok middle => exact ⟨middle, rfl, done⟩

theorem exists_of_map_eq_ok {finish : α → β} {last : β} (done : step.map finish = .ok last) :
    ∃ middle, step = .ok middle ∧ finish middle = last := by
  cases step with
  | error fault => cases done
  | ok middle =>
      injection done with same
      exact ⟨middle, rfl, same⟩

end Steps

namespace Json

/-! ## Canonical trees -/

namespace Tree

theorem depthMembers_addMember_le (name : String) (value : Tree)
    (members : List (String × Tree)) :
    depthMembers (addMember name value members) ≤ max value.depth (depthMembers members) := by
  induction members with
  | nil => simp [addMember, depthMembers, depthMember]
  | cons member rest inductionHypothesis =>
      obtain ⟨other, kept⟩ := member
      unfold addMember
      split
      · simp [depthMembers, depthMember]
      · split
        · exact Nat.le_max_right _ _
        · simp only [depthMembers, depthMember]
          omega

mutual

theorem depth_canonical_le : (tree : Tree) → tree.canonical.depth ≤ tree.depth
  | .null => Nat.le_refl _
  | .bool _ => Nat.le_refl _
  | .number _ => Nat.le_refl _
  | .text _ => Nat.le_refl _
  | .array items => Nat.succ_le_succ (depthItems_canonicalItems_le items)
  | .object members => Nat.succ_le_succ (depthMembers_canonicalMembers_le members)
termination_by structural tree => tree

theorem depthItems_canonicalItems_le : (items : List Tree) →
    depthItems (canonicalItems items) ≤ depthItems items
  | [] => Nat.le_refl _
  | item :: rest => by
      have first := depth_canonical_le item
      have others := depthItems_canonicalItems_le rest
      simp only [canonicalItems, depthItems]
      omega
termination_by structural items => items

theorem depthMembers_canonicalMembers_le : (members : List (String × Tree)) →
    depthMembers (canonicalMembers members) ≤ depthMembers members
  | [] => Nat.le_refl _
  | member :: rest => by
      have first := depth_canonicalMember_le member
      have others := depthMembers_canonicalMembers_le rest
      have added := depthMembers_addMember_le (canonicalMember member).1
        (canonicalMember member).2 (canonicalMembers rest)
      simp only [canonicalMembers, depthMembers]
      omega
termination_by structural members => members

theorem depth_canonicalMember_le : (member : String × Tree) →
    (canonicalMember member).2.depth ≤ depthMember member
  | (_, value) => depth_canonical_le value
termination_by structural member => member

end

theorem eq_null_of_canonical {tree : Tree} (isNull : tree.canonical = .null) : tree = .null := by
  cases tree with
  | null => rfl
  | bool b => cases isNull
  | number n => cases isNull
  | text s => cases isNull
  | array items => cases isNull
  | object members => cases isNull

theorem depthItems_le {limit : Nat} {items : List Tree}
    (shallow : ∀ item ∈ items, item.depth ≤ limit) : depthItems items ≤ limit := by
  induction items with
  | nil => exact Nat.zero_le limit
  | cons item rest inductionHypothesis =>
      have first := shallow item List.mem_cons_self
      have others := inductionHypothesis fun other member =>
        shallow other (List.mem_cons_of_mem item member)
      exact Nat.max_le.2 ⟨first, others⟩

theorem depthMembers_le {limit : Nat} {members : List (String × Tree)}
    (shallow : ∀ member ∈ members, member.2.depth ≤ limit) : depthMembers members ≤ limit := by
  induction members with
  | nil => exact Nat.zero_le limit
  | cons member rest inductionHypothesis =>
      obtain ⟨name, value⟩ := member
      have first := shallow (name, value) List.mem_cons_self
      have others := inductionHypothesis fun other present =>
        shallow other (List.mem_cons_of_mem (name, value) present)
      exact Nat.max_le.2 ⟨first, others⟩

end Tree

namespace Reader

open Octet

/-! ## Sequences -/

section Sequences

variable {item other : List UInt8 → Except Fault (Tree × List UInt8)} {bound : Nat} {first : Bool}
  {bytes rest : List UInt8}

/-- The items of an array that was read: none, or one and those behind it. -/
theorem of_items {found : List Tree}
    (read : items item (bound + 1) first bytes = .ok (found, rest)) :
    (nextItem first bytes = .ok (.closed rest) ∧ found = []) ∨
      ∃ start head middle tail, nextItem first bytes = .ok (.part start) ∧
        item start = .ok (head, middle) ∧ items item bound false middle = .ok (tail, rest) ∧
          found = head :: tail := by
  obtain ⟨next, stands, read⟩ := exists_of_bind_eq_ok read
  cases next with
  | closed behind =>
      injection read with same
      obtain ⟨rfl, rfl⟩ := Prod.mk.inj same
      exact Or.inl ⟨stands, rfl⟩
  | part start =>
      obtain ⟨⟨head, middle⟩, one, read⟩ := exists_of_bind_eq_ok read
      obtain ⟨⟨tail, behind⟩, others, read⟩ := exists_of_bind_eq_ok read
      injection read with same
      obtain ⟨rfl, rfl⟩ := Prod.mk.inj same
      exact Or.inr ⟨start, head, middle, tail, stands, one, others, rfl⟩

theorem of_members {found : List (String × Tree)}
    (read : members item (bound + 1) first bytes = .ok (found, rest)) :
    (nextName first bytes = .ok (.closed rest) ∧ found = []) ∨
      ∃ start name named start' head middle tail, nextName first bytes = .ok (.part start) ∧
        Text.read start = .ok (name, named) ∧ afterColon named = .ok start' ∧
          item start' = .ok (head, middle) ∧ members item bound false middle = .ok (tail, rest) ∧
            found = (name, head) :: tail := by
  obtain ⟨next, stands, read⟩ := exists_of_bind_eq_ok read
  cases next with
  | closed behind =>
      injection read with same
      obtain ⟨rfl, rfl⟩ := Prod.mk.inj same
      exact Or.inl ⟨stands, rfl⟩
  | part start =>
      obtain ⟨⟨name, named⟩, title, read⟩ := exists_of_bind_eq_ok read
      obtain ⟨start', colon, read⟩ := exists_of_bind_eq_ok read
      obtain ⟨⟨head, middle⟩, one, read⟩ := exists_of_bind_eq_ok read
      obtain ⟨⟨tail, behind⟩, others, read⟩ := exists_of_bind_eq_ok read
      injection read with same
      obtain ⟨rfl, rfl⟩ := Prod.mk.inj same
      exact Or.inr ⟨start, name, named, start', head, middle, tail, stands, title, colon, one,
        others, rfl⟩

/-- What the reader of one item ensures holds of all items. -/
theorem forall_of_items {ensured : Tree → Prop}
    (sound : ∀ {bytes tree rest}, item bytes = .ok (tree, rest) → ensured tree)
    {found : List Tree} (read : items item bound first bytes = .ok (found, rest)) :
    ∀ tree ∈ found, ensured tree := by
  induction bound generalizing first bytes found with
  | zero => cases read
  | succ bound inductionHypothesis =>
      rcases of_items read with ⟨_, rfl⟩ | ⟨start, head, middle, tail, _, one, others, rfl⟩
      · intro tree member
        cases member
      · intro tree member
        rcases List.mem_cons.1 member with rfl | later
        · exact sound one
        · exact inductionHypothesis others tree later

theorem forall_of_members {ensured : Tree → Prop}
    (sound : ∀ {bytes tree rest}, item bytes = .ok (tree, rest) → ensured tree)
    {found : List (String × Tree)} (read : members item bound first bytes = .ok (found, rest)) :
    ∀ member ∈ found, ensured member.2 := by
  induction bound generalizing first bytes found with
  | zero => cases read
  | succ bound inductionHypothesis =>
      rcases of_members read with ⟨_, rfl⟩ | ⟨_, name, _, _, head, _, tail, _, _, _, one, others, rfl⟩
      · intro member present
        cases present
      · intro member present
        rcases List.mem_cons.1 present with rfl | later
        · exact sound one
        · exact inductionHypothesis others member later

/-- A reader of items that reads more reads all arrays that were read before. -/
theorem items_mono
    (more : ∀ {bytes : List UInt8} {found : Tree × List UInt8},
      item bytes = .ok found → other bytes = .ok found)
    {found : List Tree} (read : items item bound first bytes = .ok (found, rest)) :
    items other bound first bytes = .ok (found, rest) := by
  induction bound generalizing first bytes found with
  | zero => cases read
  | succ bound inductionHypothesis =>
      rcases of_items read with ⟨stands, rfl⟩ | ⟨start, head, middle, tail, stands, one, others, rfl⟩
      · simp only [items, stands, bind, Except.bind]
      · have tailRead := inductionHypothesis others
        simp only [items, stands, more one, tailRead, bind, Except.bind]

theorem members_mono
    (more : ∀ {bytes : List UInt8} {found : Tree × List UInt8},
      item bytes = .ok found → other bytes = .ok found)
    {found : List (String × Tree)} (read : members item bound first bytes = .ok (found, rest)) :
    members other bound first bytes = .ok (found, rest) := by
  induction bound generalizing first bytes found with
  | zero => cases read
  | succ bound inductionHypothesis =>
      rcases of_members read with
        ⟨stands, rfl⟩ | ⟨_, _, _, _, _, _, _, stands, title, colon, one, others, rfl⟩
      · simp only [members, stands, bind, Except.bind]
      · have tailRead := inductionHypothesis others
        simp only [members, stands, title, colon, more one, tailRead, bind, Except.bind]

end Sequences

/-! ## Values -/

/-- A scalar nests nothing, and it is null only behind the letter of null. -/
theorem of_scalar {b : UInt8} {bytes rest : List UInt8} {tree : Tree}
    (read : scalar b bytes = .ok (tree, rest)) :
    tree.depth = 0 ∧ (tree = .null → b = letterN) := by
  unfold scalar at read
  split at read
  next isN =>
    obtain ⟨_, _, read⟩ := exists_of_bind_eq_ok read
    cases read
    exact ⟨rfl, fun _ => isN⟩
  split at read
  · obtain ⟨_, _, read⟩ := exists_of_bind_eq_ok read
    cases read
    exact ⟨rfl, fun isNull => by cases isNull⟩
  split at read
  · obtain ⟨_, _, read⟩ := exists_of_bind_eq_ok read
    cases read
    exact ⟨rfl, fun isNull => by cases isNull⟩
  split at read
  · obtain ⟨_, _, read⟩ := exists_of_bind_eq_ok read
    cases read
    exact ⟨rfl, fun isNull => by cases isNull⟩
  split at read
  · obtain ⟨_, _, read⟩ := exists_of_bind_eq_ok read
    cases read
    exact ⟨rfl, fun isNull => by cases isNull⟩
  split at read
  · obtain ⟨_, _, read⟩ := exists_of_bind_eq_ok read
    cases read
    exact ⟨rfl, fun isNull => by cases isNull⟩
  · cases read

/-- A value that was read: a scalar or, where the limit allows it, an array or an object. -/
theorem of_value {depth : Nat} {bytes rest : List UInt8} {tree : Tree}
    (read : value depth bytes = .ok (tree, rest)) :
    ∃ b after, skipBlanks bytes = b :: after ∧
      (scalar b after = .ok (tree, rest) ∨
        ∃ less, depth = less + 1 ∧
          ((b = openBracket ∧ ∃ found, tree = .array found ∧
              items (value less) (after.length + 1) true after = .ok (found, rest)) ∨
            (b = openBrace ∧ ∃ found, tree = .object found ∧
              members (value less) (after.length + 1) true after = .ok (found, rest)))) := by
  cases depth with
  | zero =>
      simp only [value] at read
      cases shape : skipBlanks bytes with
      | nil =>
          rw [shape] at read
          cases read
      | cons b after =>
          rw [shape] at read
          exact ⟨b, after, rfl, Or.inl read⟩
  | succ less =>
      simp only [value] at read
      cases shape : skipBlanks bytes with
      | nil =>
          rw [shape] at read
          cases read
      | cons b after =>
          rw [shape] at read
          dsimp only at read
          refine ⟨b, after, rfl, ?_⟩
          split at read
          next bracket =>
            obtain ⟨⟨found, behind⟩, sequence, read⟩ := exists_of_bind_eq_ok read
            cases read
            exact Or.inr ⟨less, rfl, Or.inl ⟨bracket, found, rfl, sequence⟩⟩
          next =>
            split at read
            next brace =>
              obtain ⟨⟨found, behind⟩, sequence, read⟩ := exists_of_bind_eq_ok read
              cases read
              exact Or.inr ⟨less, rfl, Or.inr ⟨brace, found, rfl, sequence⟩⟩
            next => exact Or.inl read

/-- Nothing that is read nests deeper than the limit. -/
theorem depth_le_of_value {depth : Nat} {bytes rest : List UInt8} {tree : Tree}
    (read : value depth bytes = .ok (tree, rest)) : tree.depth ≤ depth := by
  induction depth using Nat.strongRecOn generalizing bytes rest tree with
  | ind depth inductionHypothesis =>
      obtain ⟨b, after, _, single | ⟨less, rfl, sequence⟩⟩ := of_value read
      · rw [(of_scalar single).1]
        exact Nat.zero_le depth
      · have shallow : ∀ {bytes rest tree}, value less bytes = .ok (tree, rest) →
            tree.depth ≤ less :=
          fun read => inductionHypothesis less (Nat.lt_succ_self less) read
        rcases sequence with ⟨_, found, rfl, parts⟩ | ⟨_, found, rfl, parts⟩
        · exact Nat.succ_le_succ (Tree.depthItems_le (forall_of_items shallow parts))
        · exact Nat.succ_le_succ (Tree.depthMembers_le (forall_of_members shallow parts))

/-- A value that begins with another letter than null is not null. -/
theorem ne_null_of_value {depth : Nat} {b : UInt8} {bytes after rest : List UInt8} {tree : Tree}
    (shape : skipBlanks bytes = b :: after) (notN : b ≠ letterN)
    (read : value depth bytes = .ok (tree, rest)) : tree ≠ .null := by
  rintro rfl
  obtain ⟨b', after', shape', single | ⟨_, _, ⟨_, _, array, _⟩ | ⟨_, _, object, _⟩⟩⟩ :=
    of_value read
  · obtain ⟨rfl, rfl⟩ := List.cons.inj (shape.symm.trans shape')
    exact notN ((of_scalar single).2 rfl)
  · cases array
  · cases object

/-- What is read at a limit is read at every higher one. -/
theorem value_mono {depth deeper : Nat} (le : depth ≤ deeper) {bytes : List UInt8}
    {found : Tree × List UInt8} (read : value depth bytes = .ok found) :
    value deeper bytes = .ok found := by
  induction deeper generalizing depth bytes found with
  | zero =>
      obtain rfl := Nat.le_zero.1 le
      exact read
  | succ deeper inductionHypothesis =>
      obtain ⟨tree, rest⟩ := found
      obtain ⟨b, after, shape, single | ⟨less, rfl, sequence⟩⟩ := of_value read
      · have notBracket : b ≠ openBracket := by
          rintro rfl
          cases single
        have notBrace : b ≠ openBrace := by
          rintro rfl
          cases single
        simp only [value, shape, notBracket, notBrace, ↓reduceIte, single]
      · have more : ∀ {bytes : List UInt8} {found : Tree × List UInt8},
            value less bytes = .ok found → value deeper bytes = .ok found :=
          fun read => inductionHypothesis (Nat.le_of_succ_le_succ le) read
        rcases sequence with ⟨rfl, _, rfl, parts⟩ | ⟨rfl, _, rfl, parts⟩
        · have further := items_mono more parts
          simp only [value, shape, ↓reduceIte, further, bind, Except.bind]
        · have further := members_mono more parts
          simp only [value, shape, show openBrace ≠ openBracket by decide, ↓reduceIte, further,
            bind, Except.bind]

end Reader

end Json

end CacheSync
