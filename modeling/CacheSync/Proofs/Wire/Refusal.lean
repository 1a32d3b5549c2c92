import CacheSync.Proofs.Wire.Arrival

/-!
# What does not arrive

The writer follows a value to any depth, the reader only to `valueDepth`.  A message is therefore
read exactly if it carries no value that nests deeper: `Wire.decodes_iff_isShallow`.
-/

namespace CacheSync

open Json

namespace Event

theorem isIntegral_iff {event : Event} :
    event.isIntegral = true ↔
      (∀ value ∈ event.old, value.tree.isIntegral = true) ∧
        ∀ value ∈ event.new, value.tree.isIntegral = true := by
  simp [isIntegral, Option.all_eq_true]

theorem isShallow_eq_false_iff {event : Event} :
    event.isShallow = false ↔
      (∃ value ∈ event.old, Wire.valueDepth < value.depth) ∨
        ∃ value ∈ event.new, Wire.valueDepth < value.depth := by
  rw [isShallow, Bool.and_eq_false_iff]
  simp [Option.all_eq_false]

end Event

namespace Wire

open Json.Octet Json.Printer

/-! ## Fields -/

/-- A value that nests too deep is written as any other and read at no limit below its depth. -/
theorem readValue_of_deep {value : Value} (integral : value.tree.isIntegral = true)
    (deep : valueDepth < value.depth) {rest : List UInt8} (ends : endsPart rest = true) :
    ∃ fault, readValue (tree value.tree ++ rest) = .error fault := by
  obtain ⟨b, after, shape, notBlank, _, onlyNull⟩ := tree_eq_cons value.tree integral
  have notN : b ≠ Reader.letterN := by
    intro isN
    have isNull := onlyNull isN
    simp [Value.depth, isNull, Tree.depth] at deep
  have whole : Reader.value value.depth (tree value.tree ++ rest) = .ok (value.tree, rest) :=
    Reader.readable value.tree integral (Nat.le_refl _) rest ends
  cases read : Reader.value valueDepth (tree value.tree ++ rest) with
  | error fault =>
      rw [shape, List.cons_append] at read ⊢
      exact ⟨fault, by simp only [readValue, Reader.skipBlanks_cons notBlank, notN, ↓reduceIte,
        read, Except.map]⟩
  | ok found =>
      -- Reading on with a higher limit would read the same, but it reads the whole value.
      have further := Reader.value_mono (Nat.le_of_lt deep) read
      obtain rfl : (value.tree, rest) = found := Except.ok.inj (whole.symm.trans further)
      exact absurd (Reader.depth_le_of_value read) (Nat.not_le_of_lt deep)

/-! ## Members -/

theorem readMembers_of_error {bound : Nat} {draft : Draft} {field : Field} {value : Tree}
    {rest : List UInt8} {fault : Fault} (fresh : draft.has field = false)
    (read : readField draft field (tree value ++ rest) = .error fault) :
    ∃ fault, readMembers bound false draft
      (comma :: (memberText (field.name, value) ++ rest)) = .error fault := by
  cases bound with
  | zero => exact ⟨_, rfl⟩
  | succ bound =>
      rw [readMembers_behind_eq bound value rest fresh, read]
      exact ⟨fault, rfl⟩

theorem readMembers_of_deep {bound : Nat} {draft : Draft} {field : Field} {value : Value}
    (isValue : field = .old ∨ field = .new) (rest : List UInt8)
    (integral : value.tree.isIntegral = true) (deep : valueDepth < value.depth)
    (fresh : draft.has field = false) (members : List (String × Tree)) :
    ∃ fault, readMembers bound false draft
      (behind ((field.name, value.tree) :: members) ++ closeBrace :: rest) = .error fault := by
  obtain ⟨fault, refused⟩ := readValue_of_deep integral deep (endsPart_behind members rest)
  have read : readField draft field (tree value.tree ++ (behind members ++ closeBrace :: rest)) =
      .error fault := by
    rcases isValue with rfl | rfl <;> simp only [readField, refused, Except.map]
  rw [behind_cons]
  exact readMembers_of_error fresh read

/-- The values of an event are not read through if one of them nests too deep, be it the second
one. -/
theorem readMembers_values_of_deep {event : Event} (integral : event.isIntegral = true)
    (deep : event.isShallow = false) {bound : Nat} {draft : Draft} (rest : List UInt8)
    (freshOld : draft.old = none) (freshNew : draft.new = none) :
    ∃ fault, readMembers bound false draft
      (behind (optionalMember .old event.old ++ optionalMember .new event.new) ++
        closeBrace :: rest) = .error fault := by
  obtain ⟨integralOld, integralNew⟩ := Event.isIntegral_iff.1 integral
  rcases Event.isShallow_eq_false_iff.1 deep with ⟨old, heldOld, oldDeep⟩ | ⟨new, heldNew, newDeep⟩
  · rw [show event.old = some old from heldOld]
    exact readMembers_of_deep (Or.inl rfl) rest (integralOld old heldOld) oldDeep
      (by simp [Draft.has, freshOld]) (optionalMember .new event.new)
  · have newRefused : ∀ {bound : Nat} {draft : Draft}, draft.new = none →
        ∃ fault, readMembers bound false draft
          (behind (optionalMember .new event.new) ++ closeBrace :: rest) = .error fault := by
      intro bound draft fresh
      rw [show event.new = some new from heldNew]
      exact readMembers_of_deep (Or.inr rfl) rest (integralNew new heldNew) newDeep
        (by simp [Draft.has, fresh]) []
    cases heldOld : event.old with
    | none => exact newRefused freshNew
    | some old =>
        have oldIntegral := integralOld old heldOld
        have fresh : draft.has .old = false := by simp [Draft.has, freshOld]
        by_cases oldDeep : valueDepth < old.depth
        · exact readMembers_of_deep (Or.inl rfl) rest oldIntegral oldDeep fresh
            (optionalMember .new event.new)
        · have portable := Value.isPortable_iff.2 ⟨oldIntegral, Nat.le_of_not_lt oldDeep⟩
          have read := readField_old draft portable
            (endsPart_behind (optionalMember .new event.new) rest)
          cases bound with
          | zero => exact ⟨_, rfl⟩
          | succ bound =>
              rw [optionalMember, List.singleton_append, behind_cons, readMembers_behind fresh read]
              exact newRefused freshNew

/-! ## Messages -/

theorem decode_of_deep {event : Event} (dated : event.time.InCalendar)
    (integral : event.isIntegral = true) (deep : event.isShallow = false) :
    ∃ fault, decode (encode event true) = .error (.undecodable fault) := by
  have enough := length_lt_joined event
  rw [length_memberList] at enough
  obtain ⟨less, bound⟩ := Nat.exists_eq_add_of_le' (Nat.le_of_add_left_le (Nat.le_of_lt enough))
  obtain ⟨fault, refused⟩ : ∃ fault, readMembers (less + 5) true .empty
      (joined (memberTexts (memberList event)) ++ [closeBrace]) = .error fault := by
    rw [readMembers_heading dated less []]
    exact readMembers_values_of_deep integral deep [] rfl rfl
  refine ⟨fault, ?_⟩
  simp only [encode, ↓reduceIte, decode, readDocument, readMessage, tree,
    Reader.skipBlanks_cons (b := openBrace) (by decide), bound, refused, bind, Except.bind]

/-- The message of an event is always written.  It is read exactly if the values it carries nest no
deeper than the reader follows. -/
theorem decodes_iff_isShallow {event : Event} (dated : event.time.InCalendar)
    (integral : event.isIntegral = true) (includeValues : Bool) :
    ∃ body,
      Codec.plain.encode event includeValues = .ok body ∧
        ((∃ received, decode body = .ok received) ↔
          (includeValues = true → event.isShallow = true)) := by
  refine ⟨_, rfl, ?_, ?_⟩
  · rintro ⟨received, read⟩ rfl
    cases shallow : event.isShallow with
    | true => rfl
    | false =>
        obtain ⟨fault, refused⟩ := decode_of_deep dated integral shallow
        rw [refused] at read
        cases read
  · intro shallow
    have portable : includeValues = true → event.isPortable = true :=
      fun carried => Event.isPortable_iff.2 ⟨integral, shallow carried⟩
    exact ⟨_, decode_encode dated portable⟩

/-- Arrays inside each other, the innermost of them empty. -/
def nestedArrays : Nat → Tree
  | 0 => .array []
  | less + 1 => .array [nestedArrays less]

/-- An entry is added whose value nests one deeper than the reader follows. -/
def deepSample : Event where
  cache := "users"
  key := .entry "k"
  kind := .added
  time := 0
  origin := .localNode
  old := none
  new := some (Value.ofTree (nestedArrays valueDepth))

theorem decodes_iff_isShallow_deep :
    deepSample.time.InCalendar ∧ deepSample.isIntegral = true ∧
      ∃ body,
        Codec.plain.encode deepSample true = .ok body ∧
          ((∃ received, decode body = .ok received) ↔
            (true = true → deepSample.isShallow = true)) :=
  have dated : deepSample.time.InCalendar := by decide
  have integral : deepSample.isIntegral = true := by decide +kernel
  ⟨dated, integral, decodes_iff_isShallow dated integral true⟩

/-- A node can write what no node reads. -/
theorem not_decodes_deep :
    ¬ ∀ (event : Event) (includeValues : Bool) (body : List UInt8),
      event.time.InCalendar → event.isIntegral = true →
        Codec.plain.encode event includeValues = .ok body →
          ∃ received, decode body = .ok received := by
  intro always
  have integral : deepSample.isIntegral = true := by decide +kernel
  have deep : deepSample.isShallow = false := by decide +kernel
  obtain ⟨received, read⟩ := always deepSample true _ (by decide) integral rfl
  obtain ⟨fault, refused⟩ := decode_of_deep (by decide) integral deep
  rw [refused] at read
  cases read

end Wire

end CacheSync
