import CacheSync.Proofs.Json.Trees
import CacheSync.Proofs.Time.Calendar
import CacheSync.Wire.Encode

/-!
# What a message brings across

The message of an event is read back as `Event.delivered`: the same change, made elsewhere, its
time cut to microseconds, and its values as they were, except that a JSON null arrives as no value.
The main statement, `decode_encode`, holds for all texts, keys and kinds, and for all portable
values; the message is read member by member, in the order it was written in.
-/

namespace CacheSync

open Json

/-- A value as it arrives: a written null says that there is none. -/
def Json.Value.delivered? (value : Value) : Option Value :=
  if value.isNull then none else some value

namespace Event

/-- Whether the values of an event can be sent and read back. -/
def isPortable (event : Event) : Bool :=
  event.old.all Value.isPortable && event.new.all Value.isPortable

/-- An event as another node reads it. -/
def delivered (event : Event) : Event :=
  { event with
    time := event.micros * 1000
    origin := .remoteNode
    old := event.old.bind Value.delivered?
    new := event.new.bind Value.delivered? }

@[simp]
theorem cache_delivered (event : Event) : event.delivered.cache = event.cache := rfl

@[simp]
theorem key_delivered (event : Event) : event.delivered.key = event.key := rfl

theorem micros_delivered {event : Event} (dated : event.time.InCalendar) :
    event.delivered.micros = event.micros :=
  Moment.toMicros_of_whole (Moment.toMicros_mem dated).1 (Moment.toMicros_mem dated).2

/-- The new value of an event arrives, or none. -/
theorem new_delivered (event : Event) :
    event.delivered.new = none ∨ event.delivered.new = event.new := by
  cases held : event.new with
  | none => exact Or.inl (by simp [delivered, held])
  | some value =>
      by_cases isNull : value.isNull = true
      · exact Or.inl (by simp [delivered, held, Json.Value.delivered?, isNull])
      · exact Or.inr (by simp [delivered, held, Json.Value.delivered?, isNull])

/-- Whether no value of an event is a JSON null. -/
def isNullFree (event : Event) : Bool :=
  event.old.all (fun value => !value.isNull) && event.new.all fun value => !value.isNull

theorem bind_delivered? {held : Option Value}
    (nullFree : held.all (fun value => !value.isNull) = true) :
    held.bind Value.delivered? = held := by
  cases held with
  | none => rfl
  | some value =>
      have present : value.isNull = false := by simpa using nullFree
      simp [Value.delivered?, present]

/-- Values that are not null arrive as they were sent. -/
theorem delivered_of_isNullFree {event : Event} (nullFree : event.isNullFree = true) :
    event.delivered.old = event.old ∧ event.delivered.new = event.new := by
  obtain ⟨old, new⟩ := Bool.and_eq_true_iff.1 nullFree
  exact ⟨bind_delivered? old, bind_delivered? new⟩

theorem isPortable_withoutValues (event : Event) : event.withoutValues.isPortable = true := rfl

end Event

namespace Wire

open Json.Octet Json.Printer

/-! ## Values of fields -/

theorem tree_isNull {value : Value} (isNull : value.tree = .null) : value.isNull = true := by
  simp [Value.isNull, isNull]

theorem isNull_tree {value : Value} (isNull : value.isNull = true) : value.tree = .null := by
  unfold Value.isNull at isNull
  split at isNull
  · assumption
  · cases isNull

theorem readValue_tree {value : Value} (portable : value.isPortable = true) {rest : List UInt8}
    (ends : endsPart rest = true) :
    readValue (tree value.tree ++ rest) = .ok (value.delivered?, rest) := by
  obtain ⟨integral, shallow⟩ := Value.isPortable_iff.1 portable
  obtain ⟨b, after, shape, notBlank, _, onlyNull⟩ := tree_eq_cons value.tree integral
  have read := Reader.readable value.tree integral shallow rest ends
  by_cases isNull : value.isNull = true
  · have nullTree := isNull_tree isNull
    rw [nullTree]
    simp only [Value.delivered?, isNull, ↓reduceIte]
    rfl
  · have notN : b ≠ Reader.letterN := fun isN => isNull (tree_isNull (onlyNull isN))
    rw [shape, List.cons_append] at read ⊢
    simp only [readValue, Reader.skipBlanks_cons notBlank, notN, ↓reduceIte, read, Except.map,
      Value.ofTree_tree, Value.delivered?, isNull, Bool.false_eq_true]

theorem readText_text (text : String) (rest : List UInt8) :
    readText (tree (.text text) ++ rest) = .ok (text, rest) := by
  simp [readText, tree, Printer.text, Reader.skipBlanks_cons (b := quote) (by decide),
    Text.read_escaped]

theorem readKey_keyTree (key : EntryKey) (rest : List UInt8) :
    readKey (tree (keyTree key) ++ rest) = .ok (key, rest) := by
  cases key with
  | all => rfl
  | entry key =>
      have read := readText_text key rest
      simp only [tree, Printer.text, List.cons_append] at read
      simp only [readKey, keyTree, tree, Printer.text, List.cons_append,
        Reader.skipBlanks_cons (b := quote) (by decide), show quote ≠ Reader.letterN by decide,
        ↓reduceIte, read, Except.map]

theorem ofName?_name (kind : EventKind) : EventKind.ofName? kind.name = some kind := by
  cases kind <;> decide

theorem readKind_name (kind : EventKind) (rest : List UInt8) :
    readKind (tree (.text kind.name) ++ rest) = .ok (kind, rest) := by
  have read := readText_text kind.name rest
  simp only [tree, Printer.text, List.cons_append] at read
  simp only [readKind, tree, Printer.text, List.cons_append,
    Reader.skipBlanks_cons (b := quote) (by decide), show quote ≠ openBrace by decide, ↓reduceIte,
    readKindName, read, bind, Except.bind, ofName?_name]

theorem readInteger_ofInt {n least greatest : Int} (inRange : InIntegerRange n) (low : least ≤ n)
    (high : n ≤ greatest) {rest : List UInt8} (ends : endsPart rest = true) :
    readInteger least greatest (tree (.ofInt n) ++ rest) = .ok (n, rest) := by
  have read := Number.read_natAbs inRange ends
  have written : tree (.ofInt n) = Printer.number (.int n inRange) := by
    simp [Tree.ofInt, inRange, tree]
  rw [written]
  obtain ⟨b, after, shape, notBlank, _, _⟩ :=
    tree_eq_cons (.number (.int n inRange)) rfl
  simp only [tree] at shape
  rw [shape, List.cons_append, readInteger]
  rw [Number.number_int] at shape
  by_cases negative : n < 0
  · simp only [negative, ↓reduceIte] at shape
    injection shape with head tail
    subst head tail
    simp only [negative, decide_true] at read
    simp only [Reader.skipBlanks_cons notBlank, ↓reduceIte, read, Except.bind, low, high, and_self]
  · simp only [negative, ↓reduceIte] at shape
    have digit : isDigit b = true :=
      Number.isDigit_of_mem_digitOctets n.natAbs b (by simp [shape])
    have notMinus : b ≠ minus := by rintro rfl; exact absurd digit (by decide)
    simp only [negative, decide_false, shape, List.cons_append] at read
    simp only [Reader.skipBlanks_cons notBlank, notMinus, ↓reduceIte, digit, read, Except.bind, low,
      high, and_self]

/-! ## Fields of a draft -/

theorem readField_version (draft : Draft) {rest : List UInt8} (ends : endsPart rest = true) :
    readField draft .version (tree (.ofNat version) ++ rest) =
      .ok ({ draft with version := some version }, rest) := by
  have read := readInteger_ofInt (n := (version : Int)) (by decide) (by decide : (0 : Int) ≤ _)
    (by decide : _ ≤ (65535 : Int)) ends
  simp only [readField, Tree.ofNat, read, Except.map, Int.toNat_natCast]

theorem readField_cache (draft : Draft) (cache : String) (rest : List UInt8) :
    readField draft .cache (tree (.text cache) ++ rest) =
      .ok ({ draft with cache := some cache }, rest) := by
  simp only [readField, readText_text, Except.map]

theorem readField_key (draft : Draft) (key : EntryKey) (rest : List UInt8) :
    readField draft .key (tree (keyTree key) ++ rest) =
      .ok ({ draft with key := some key }, rest) := by
  simp only [readField, readKey_keyTree, Except.map]

theorem readField_kind (draft : Draft) (kind : EventKind) (rest : List UInt8) :
    readField draft .kind (tree (.text kind.name) ++ rest) =
      .ok ({ draft with kind := some kind }, rest) := by
  simp only [readField, readKind_name, Except.map]

theorem readField_micros (draft : Draft) {micros : Int} (inRange : InIntegerRange micros)
    (low : Word.least ≤ micros) (high : micros ≤ Word.greatest) {rest : List UInt8}
    (ends : endsPart rest = true) :
    readField draft .micros (tree (.ofInt micros) ++ rest) =
      .ok ({ draft with micros := some micros }, rest) := by
  simp only [readField, readInteger_ofInt inRange low high ends, Except.map]

theorem readField_old (draft : Draft) {value : Value} (portable : value.isPortable = true)
    {rest : List UInt8} (ends : endsPart rest = true) :
    readField draft .old (tree value.tree ++ rest) =
      .ok ({ draft with old := some value.delivered? }, rest) := by
  simp only [readField, readValue_tree portable ends, Except.map]

theorem readField_new (draft : Draft) {value : Value} (portable : value.isPortable = true)
    {rest : List UInt8} (ends : endsPart rest = true) :
    readField draft .new (tree value.tree ++ rest) =
      .ok ({ draft with new := some value.delivered? }, rest) := by
  simp only [readField, readValue_tree portable ends, Except.map]

/-! ## Members -/

theorem Field.ofName?_name (field : Field) : Field.ofName? field.name = some field := by
  cases field <;> decide

/-- A member behind others is read as its field, and the members behind it follow. -/
theorem readMembers_behind_eq (bound : Nat) {draft : Draft} {field : Field} (value : Tree)
    (rest : List UInt8) (fresh : draft.has field = false) :
    readMembers (bound + 1) false draft (comma :: (memberText (field.name, value) ++ rest)) =
      (readField draft field (tree value ++ rest)).bind fun found =>
        readMembers bound false found.1 found.2 := by
  simp only [memberText_eq, List.cons_append, List.append_assoc, readMembers, Reader.nextName,
    Reader.skipBlanks_cons (b := comma) (by decide), Reader.skipBlanks_cons (b := quote) (by decide),
    Reader.skipBlanks_cons (b := colon) (by decide), show comma ≠ closeBrace by decide, ↓reduceIte,
    Bool.false_eq_true, bind, Except.bind, Text.read_escaped, readMember, Field.ofName?_name, fresh,
    Reader.afterColon]

theorem readMembers_behind {bound : Nat} {draft filled : Draft} {field : Field} {value : Tree}
    {rest : List UInt8} (fresh : draft.has field = false)
    (read : readField draft field (tree value ++ rest) = .ok (filled, rest)) :
    readMembers (bound + 1) false draft (comma :: (memberText (field.name, value) ++ rest)) =
      readMembers bound false filled rest := by
  rw [readMembers_behind_eq bound value rest fresh, read]
  rfl

theorem readMembers_first {bound : Nat} {draft filled : Draft} {field : Field} {value : Tree}
    {rest : List UInt8} (fresh : draft.has field = false)
    (read : readField draft field (tree value ++ rest) = .ok (filled, rest)) :
    readMembers (bound + 1) true draft (memberText (field.name, value) ++ rest) =
      readMembers bound false filled rest := by
  simp only [memberText_eq, List.cons_append, List.append_assoc, readMembers, Reader.nextName,
    Reader.skipBlanks_cons (b := quote) (by decide), Reader.skipBlanks_cons (b := colon) (by decide),
    show quote ≠ closeBrace by decide, ↓reduceIte, Bool.false_eq_true, bind, Except.bind,
    Text.read_escaped, readMember, Field.ofName?_name, fresh, Reader.afterColon, read]

/-- Members behind others, each with its comma. -/
def behind (members : List (String × Tree)) : List UInt8 :=
  members.flatMap fun member => comma :: memberText member

theorem behind_cons (member : String × Tree) (members : List (String × Tree))
    (rest : List UInt8) :
    behind (member :: members) ++ rest =
      comma :: (memberText member ++ (behind members ++ rest)) := by
  simp [behind]

theorem endsPart_behind (members : List (String × Tree)) (rest : List UInt8) :
    endsPart (behind members ++ closeBrace :: rest) = true := by
  cases members <;> rfl

theorem readMembers_new {bound : Nat} {draft : Draft} {new : Option Value} (rest : List UInt8)
    (portable : new.all Value.isPortable = true) (fresh : draft.new = none)
    (enough : (optionalMember .new new).length < bound) :
    readMembers bound false draft (behind (optionalMember .new new) ++ closeBrace :: rest) =
      .ok ({ draft with new := new.map Value.delivered? }, rest) := by
  obtain ⟨less, rfl⟩ := Nat.exists_eq_add_one_of_ne_zero (Nat.ne_zero_of_lt enough)
  cases new with
  | none =>
      cases draft
      simp only at fresh
      subst fresh
      rfl
  | some value =>
      obtain ⟨least, rfl⟩ := Nat.exists_eq_add_one_of_ne_zero
        (Nat.ne_zero_of_lt (Nat.lt_of_succ_lt_succ enough))
      have read := readField_new draft portable (endsPart_behind [] rest)
      rw [optionalMember, behind_cons, readMembers_behind (by simp [Draft.has, fresh]) read]
      rfl

theorem readMembers_old {bound : Nat} {draft : Draft} {old new : Option Value} (rest : List UInt8)
    (portableOld : old.all Value.isPortable = true) (portableNew : new.all Value.isPortable = true)
    (freshOld : draft.old = none) (freshNew : draft.new = none)
    (enough : (optionalMember .old old ++ optionalMember .new new).length < bound) :
    readMembers bound false draft
        (behind (optionalMember .old old ++ optionalMember .new new) ++ closeBrace :: rest) =
      .ok ({ draft with
        old := old.map Value.delivered?
        new := new.map Value.delivered? }, rest) := by
  cases old with
  | none =>
      have read := readMembers_new rest portableNew freshNew enough
      cases draft
      simp only at freshOld
      subst freshOld
      exact read
  | some value =>
      obtain ⟨less, rfl⟩ := Nat.exists_eq_add_one_of_ne_zero (Nat.ne_zero_of_lt enough)
      have read := readField_old draft portableOld (endsPart_behind (optionalMember .new new) rest)
      rw [optionalMember, List.singleton_append, behind_cons,
        readMembers_behind (by simp [Draft.has, freshOld]) read]
      exact readMembers_new rest portableNew freshNew (by simpa [optionalMember] using enough)

/-! ## Messages -/

/-- The message that an event is written as. -/
def messageOf (event : Event) : Message where
  version := version
  cache := event.cache
  key := event.key
  kind := event.kind
  micros := event.micros
  old := event.old.bind Value.delivered?
  new := event.new.bind Value.delivered?

theorem join_map_delivered? (value : Option Value) :
    (value.map Value.delivered?).join = value.bind Value.delivered? := by
  cases value <;> rfl

theorem micros_inRange {event : Event} (dated : event.time.InCalendar) :
    InIntegerRange event.micros ∧ Word.least ≤ event.micros ∧ event.micros ≤ Word.greatest := by
  have range := Moment.toMicros_mem dated
  simp only [Event.micros, InIntegerRange, Word.least, Word.bound, Word.greatest,
    Moment.earliestMicros, Moment.latestMicros] at *
  omega

/-- Five members are always there; those of the values follow. -/
theorem readMembers_heading {event : Event} (dated : event.time.InCalendar) (bound : Nat)
    (rest : List UInt8) :
    readMembers (bound + 5) true .empty
        (joined (memberTexts (memberList event)) ++ closeBrace :: rest) =
      readMembers bound false
        ⟨some version, some event.cache, some event.key, some event.kind, some event.micros, none,
          none⟩
        (behind (optionalMember .old event.old ++ optionalMember .new event.new) ++
          closeBrace :: rest) := by
  obtain ⟨inRange, low, high⟩ := micros_inRange dated
  have texts : joined (memberTexts (memberList event)) ++ closeBrace :: rest =
      memberText (Field.version.name, .ofNat version) ++
        (behind ((memberList event).tail) ++ closeBrace :: rest) := by
    simp only [memberTexts_eq_map, memberList, List.cons_append, List.map_cons, joined_cons,
      List.append_assoc, List.tail_cons, behind, List.flatMap_cons, List.flatMap_map]
  rw [texts, readMembers_first rfl (readField_version _ (endsPart_behind _ rest))]
  simp only [memberList, List.cons_append, List.tail_cons, List.nil_append, behind_cons]
  rw [readMembers_behind rfl (readField_cache _ _ _),
    readMembers_behind rfl (readField_key _ _ _),
    readMembers_behind rfl (readField_kind _ _ _),
    readMembers_behind rfl (readField_micros _ inRange low high (endsPart_behind _ rest))]
  rfl

theorem length_memberList (event : Event) :
    (memberList event).length =
      (optionalMember .old event.old ++ optionalMember .new event.new).length + 5 := by
  simp only [memberList, List.length_append, List.length_cons, List.length_nil]
  omega

theorem readMembers_memberList {event : Event} (portable : event.isPortable = true)
    (dated : event.time.InCalendar) {bound : Nat} (rest : List UInt8)
    (enough : (memberList event).length < bound) :
    readMembers bound true .empty (joined (memberTexts (memberList event)) ++ closeBrace :: rest) =
      .ok (⟨some version, some event.cache, some event.key, some event.kind, some event.micros,
        event.old.map Value.delivered?, event.new.map Value.delivered?⟩, rest) := by
  obtain ⟨portableOld, portableNew⟩ : event.old.all Value.isPortable = true ∧
      event.new.all Value.isPortable = true := by
    simpa [Event.isPortable] using portable
  rw [length_memberList] at enough
  obtain ⟨less, rfl⟩ := Nat.exists_eq_add_of_le' (Nat.le_of_add_left_le (Nat.le_of_lt enough))
  rw [readMembers_heading dated less rest]
  exact readMembers_old rest portableOld portableNew rfl rfl (Nat.lt_of_add_lt_add_right enough)

theorem length_lt_joined (event : Event) :
    (memberList event).length <
      (joined (memberTexts (memberList event)) ++ [closeBrace]).length + 1 := by
  have := Reader.length_le_joined (memberTexts (memberList event))
  rw [memberTexts_eq_map, List.length_map] at this
  simp only [memberTexts_eq_map, List.length_append, List.length_cons, List.length_nil]
  omega

theorem readDocument_memberList {event : Event} (portable : event.isPortable = true)
    (dated : event.time.InCalendar) :
    readDocument (tree (.object (memberList event))) = .ok (messageOf event) := by
  have members := readMembers_memberList portable dated [] (length_lt_joined event)
  simp only [readDocument, readMessage, tree, Reader.skipBlanks_cons (b := openBrace) (by decide),
    ↓reduceIte, members, bind, Except.bind, Draft.finish, join_map_delivered?]
  rfl

/-- The message of an event is read back as the same change, made elsewhere. -/
theorem decode_encode {event : Event} (dated : event.time.InCalendar) {includeValues : Bool}
    (portable : includeValues = true → event.isPortable = true) :
    decode (encode event includeValues) =
      .ok (if includeValues then event else event.withoutValues).delivered := by
  have read : ∀ sent : Event, sent.isPortable = true → sent.time.InCalendar →
      decode (tree (.object (memberList sent))) = .ok sent.delivered := by
    intro sent portable dated
    simp only [decode, readDocument_memberList portable dated, Message.toEvent, messageOf,
      ne_eq, not_true_eq_false, ↓reduceIte, Event.micros, Moment.ofMicros?_toMicros dated]
    rfl
  cases includeValues with
  | true => exact read event (portable rfl) dated
  | false => exact read event.withoutValues event.isPortable_withoutValues dated

end Wire

end CacheSync
