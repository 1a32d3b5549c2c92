import CacheSync.Proofs.Json.Keeping
import CacheSync.Proofs.Wire.RoundTrip

/-!
# Fields as they are spelled

What the value of a field says, `Field.content?`, is a partial function of its tree.  A field is
read as that, whatever its spelling, and no value is read that says nothing: `readField_reads`.
-/

namespace CacheSync.Wire

open Json Json.Octet

/-! ## What a value says -/

namespace Field

/-- What the value of a field stands for. -/
def Content : Field → Type
  | .version => Nat
  | .cache => String
  | .key => EntryKey
  | .kind => EventKind
  | .micros => Int
  | .old => Option Value
  | .new => Option Value

def integer? (least greatest : Int) : Tree → Option Int
  | .number (.int n _) => if least ≤ n ∧ n ≤ greatest then some n else none
  | _ => none

def text? : Tree → Option String
  | .text text => some text
  | _ => none

def key? : Tree → Option EntryKey
  | .null => some .all
  | .text text => some (.entry text)
  | _ => none

/-- A kind is spelled by its name, or by an object whose only member has that name and is null. -/
def kind? : Tree → Option EventKind
  | .text name => EventKind.ofName? name
  | .object [(name, .null)] => EventKind.ofName? name
  | _ => none

def value? : Tree → Option (Option Value)
  | .null => some none
  | tree => if tree.depth ≤ valueDepth then some (some (Value.ofTree tree)) else none

/-- What a tree says as the value of a field, if the field accepts it. -/
def ofTree? : (field : Field) → Tree → Option field.Content
  | .version, tree => (integer? 0 65535 tree).map Int.toNat
  | .cache, tree => text? tree
  | .key, tree => key? tree
  | .kind, tree => kind? tree
  | .micros, tree => integer? Word.least Word.greatest tree
  | .old, tree => value? tree
  | .new, tree => value? tree

/-- What a spelled value says as the value of a field, if the field accepts it. -/
def content? (field : Field) (value : Spelling) : Option field.Content :=
  value.tree?.bind field.ofTree?

/-- What stands for a field that is not there, if it may be absent. -/
def absent? : (field : Field) → Option field.Content
  | .key => some EntryKey.all
  | .old => some (none : Option Value)
  | .new => some (none : Option Value)
  | _ => none

end Field

namespace Draft

def get (draft : Draft) : (field : Field) → Option field.Content
  | .version => draft.version
  | .cache => draft.cache
  | .key => draft.key
  | .kind => draft.kind
  | .micros => draft.micros
  | .old => draft.old
  | .new => draft.new

def set (draft : Draft) : (field : Field) → field.Content → Draft
  | .version, version => { draft with version := some version }
  | .cache, cache => { draft with cache := some cache }
  | .key, key => { draft with key := some key }
  | .kind, kind => { draft with kind := some kind }
  | .micros, micros => { draft with micros := some micros }
  | .old, old => { draft with old := some old }
  | .new, new => { draft with new := some new }

@[simp]
theorem get_set (draft : Draft) (field : Field) (content : field.Content) :
    (draft.set field content).get field = some content := by
  cases field <;> rfl

theorem get_set_of_ne (draft : Draft) {field other : Field} (content : field.Content)
    (different : other ≠ field) : (draft.set field content).get other = draft.get other := by
  cases field <;> cases other <;> first | rfl | exact absurd rfl different

theorem get_empty (field : Field) : empty.get field = none := by
  cases field <;> rfl

theorem has_eq (draft : Draft) (field : Field) : draft.has field = (draft.get field).isSome := by
  cases field <;> rfl

end Draft

def Message.get (message : Message) : (field : Field) → field.Content
  | .version => message.version
  | .cache => message.cache
  | .key => message.key
  | .kind => message.kind
  | .micros => message.micros
  | .old => message.old
  | .new => message.new

/-- A draft makes a message if each field has what the message has, or is absent and may be so. -/
theorem Draft.finish_eq {draft : Draft} {message : Message}
    (filled : ∀ field, (draft.get field).or field.absent? = some (message.get field)) :
    draft.finish = .ok message := by
  obtain ⟨version, cache, key, kind, micros, old, new⟩ := message
  have noted (field : Field) (required : field.absent? = none) :
      draft.get field = some (Message.get ⟨version, cache, key, kind, micros, old, new⟩ field) := by
    rw [← filled field, required, Option.or_none]
  have readVersion : draft.version = some version := noted .version rfl
  have readCache : draft.cache = some cache := noted .cache rfl
  have readKind : draft.kind = some kind := noted .kind rfl
  have readMicros : draft.micros = some micros := noted .micros rfl
  have readKey : draft.key.getD .all = key := by
    have given : draft.key.or (some .all) = some key := filled .key
    cases held : draft.key <;> simpa [held] using given
  have readOld : draft.old.join = old := by
    have given : draft.old.or (some none) = some old := filled .old
    cases held : draft.old <;> simpa [held] using given
  have readNew : draft.new.join = new := by
    have given : draft.new.or (some none) = some new := filled .new
    cases held : draft.new <;> simpa [held] using given
  simp only [Draft.finish, readVersion, readCache, readKind, readMicros, readKey, readOld, readNew]

/-! ## Reading a value -/

variable {rest : List UInt8}

/-- A number that is checked once it is read: no float passes, and an integer if it is in range. -/
theorem reads_checked {least greatest : Int} {read : Except Fault (Number × List UInt8)}
    {found : Option Number} {check : Number × List UInt8 → Except Fault (Int × List UInt8)}
    (reads : Reads read found rest)
    (float : ∀ x finite, check (.float x finite, rest) = .error .unsuitable)
    (int : ∀ n inRange, check (.int n inRange, rest) =
      if least ≤ n ∧ n ≤ greatest then .ok (n, rest) else .error .unsuitable) :
    Reads (read.bind check)
      (found.bind fun number => Field.integer? least greatest (.number number)) rest := by
  refine reads.bind fun number _ => ?_
  cases number with
  | float x finite =>
      rw [float]
      exact Reads.error .unsuitable rest
  | int n inRange =>
      rw [int]
      simp only [Field.integer?]
      split
      · rfl
      · exact Reads.error .unsuitable rest

theorem readInteger_number (least greatest : Int) (numeral : Numeral)
    (detached : isDetached rest = true) :
    Reads (readInteger least greatest (numeral.octets ++ rest))
      (numeral.number?.bind fun number => Field.integer? least greatest (.number number)) rest := by
  have read := Number.read_reads numeral detached
  cases negative : numeral.negative with
  | true =>
      rw [negative] at read
      simp only [Numeral.octets, negative, ↓reduceIte, List.cons_append, List.nil_append,
        readInteger, Reader.skipBlanks_cons (b := minus) (by decide)]
      exact reads_checked read (fun _ _ => rfl) fun _ _ => rfl
  | false =>
      rw [negative] at read
      have digit := numeral.whole.isDigit_first
      have notMinus : numeral.whole.first ≠ minus := Digits.ne_of_isDigit digit (by decide)
      have shape : numeral.octets ++ rest =
          numeral.whole.first :: (numeral.whole.rest ++ numeral.tail ++ rest) := by
        simp only [Numeral.octets, negative, Bool.false_eq_true, ↓reduceIte, List.nil_append]
        rfl
      simp only [shape, readInteger, Reader.skipBlanks_cons (not_isBlank_of_isDigit digit),
        notMinus, digit, ↓reduceIte]
      exact reads_checked read (fun _ _ => rfl) fun _ _ => rfl

theorem readInteger_reads (least greatest : Int) (value : Spelling)
    (detached : isDetached rest = true) :
    Reads (readInteger least greatest (value.octets ++ rest))
      (value.tree?.bind (Field.integer? least greatest)) rest := by
  obtain ⟨b, tail, shape, leads⟩ := value.leads
  by_cases sign : b = minus ∨ isDigit b = true
  · obtain ⟨numeral, rfl⟩ := leads.number.1 sign
    simp only [Spelling.octets, Spelling.tree?, Option.bind_map]
    exact readInteger_number least greatest numeral detached
  · have said : value.tree?.bind (Field.integer? least greatest) = none := by
      cases value with
      | number numeral => exact absurd (leads.number.2 ⟨numeral, rfl⟩) sign
      | _ => simp [Spelling.tree?, Field.integer?, Option.bind_map, Function.comp_def]
    rw [not_or] at sign
    rw [said, shape]
    simp only [List.cons_append, readInteger, Reader.skipBlanks_cons leads.notBlank, sign,
      ↓reduceIte]
    exact Reads.error _ rest

theorem readText_pieces (pieces : Pieces) :
    Reads (readText (quote :: (pieces.octets ++ quote :: rest))) pieces.text? rest := by
  simp only [readText, Reader.skipBlanks_cons (b := quote) (by decide), ↓reduceIte]
  exact Text.read_reads pieces rest

theorem readText_reads (value : Spelling) (rest : List UInt8) :
    Reads (readText (value.octets ++ rest)) (value.tree?.bind Field.text?) rest := by
  obtain ⟨b, tail, shape, leads⟩ := value.leads
  by_cases isQuote : b = quote
  · obtain ⟨pieces, rfl⟩ := leads.text.1 isQuote
    have said : (Spelling.text pieces).tree?.bind Field.text? = pieces.text? := by
      simp only [Spelling.tree?]
      cases pieces.text? <;> rfl
    rw [said]
    simp only [Spelling.octets, List.cons_append, List.append_assoc, List.nil_append]
    exact readText_pieces pieces
  · have said : value.tree?.bind Field.text? = none := by
      cases value with
      | text pieces => exact absurd (leads.text.2 ⟨pieces, rfl⟩) isQuote
      | _ => simp [Spelling.tree?, Field.text?, Option.bind_map, Function.comp_def]
    rw [said, shape]
    simp only [List.cons_append, readText, Reader.skipBlanks_cons leads.notBlank, isQuote,
      ↓reduceIte]
    exact Reads.error _ rest

theorem readKey_reads (value : Spelling) :
    Reads (readKey (value.octets ++ rest)) (value.tree?.bind Field.key?) rest := by
  obtain ⟨b, tail, shape, leads⟩ := value.leads
  by_cases isN : b = Reader.letterN
  · obtain rfl := leads.null.1 isN
    simp only [Spelling.octets, List.cons_append, readKey,
      Reader.skipBlanks_cons (b := Reader.letterN) (by decide), ↓reduceIte, Reader.word_eq]
    rfl
  · have read := (readText_reads value rest).map EntryKey.entry
    have said : value.tree?.bind Field.key? = (value.tree?.bind Field.text?).map .entry := by
      cases value with
      | null => exact absurd (leads.null.2 rfl) isN
      | text pieces =>
          simp only [Spelling.tree?]
          cases pieces.text? <;> rfl
      | _ => simp [Spelling.tree?, Field.text?, Field.key?, Option.bind_map, Function.comp_def]
    rw [shape] at read ⊢
    rw [said]
    simp only [List.cons_append, readKey, Reader.skipBlanks_cons leads.notBlank, isN, ↓reduceIte]
    exact read

theorem ne_null_of_tree? {value : Spelling} (present : value ≠ .null) {tree : Tree}
    (said : value.tree? = some tree) : tree ≠ .null := by
  rintro rfl
  cases value with
  | null => exact present rfl
  | _ => simp [Spelling.tree?] at said

theorem value?_of_ne {tree : Tree} (present : tree ≠ .null) :
    Field.value? tree =
      if tree.depth ≤ valueDepth then some (some (Value.ofTree tree)) else none := by
  cases tree with
  | null => exact absurd rfl present
  | _ => rfl

theorem readValue_reads (value : Spelling) (detached : isDetached rest = true) :
    Reads (readValue (value.octets ++ rest)) (value.tree?.bind Field.value?) rest := by
  obtain ⟨b, tail, shape, leads⟩ := value.leads
  by_cases isN : b = Reader.letterN
  · obtain rfl := leads.null.1 isN
    simp only [Spelling.octets, List.cons_append, readValue,
      Reader.skipBlanks_cons (b := Reader.letterN) (by decide), ↓reduceIte, Reader.word_eq]
    rfl
  · have read := (Reader.value_reads .none value valueDepth detached).map
      fun tree => some (Value.ofTree tree)
    have said : value.tree?.bind Field.value? =
        (value.within? valueDepth).map fun tree => some (Value.ofTree tree) := by
      have present : value ≠ .null := fun isNull => isN (leads.null.2 isNull)
      cases told : value.tree? with
      | none => simp [Spelling.within?, told]
      | some tree =>
          rw [Option.bind_some, value?_of_ne (ne_null_of_tree? present told)]
          by_cases shallow : tree.depth ≤ valueDepth <;>
            simp [Spelling.within?, told, Option.filter, shallow]
    rw [shape] at read ⊢
    rw [said]
    simp only [List.cons_append, readValue, Reader.skipBlanks_cons leads.notBlank, isN, ↓reduceIte]
    exact read

/-! ## Reading a kind -/

theorem readKindName_text (name : Pieces) :
    Reads (readKindName (quote :: (name.octets ++ quote :: rest)))
      (name.text?.bind EventKind.ofName?) rest := by
  refine (readText_pieces name).bind fun name _ => ?_
  cases known : EventKind.ofName? name with
  | none =>
      simp only [known]
      exact Reads.error .unsuitable rest
  | some kind =>
      simp only [known]
      rfl

theorem readKindName_blanks (blanks : Blanks) (bytes : List UInt8) :
    readKindName (blanks.octets ++ bytes) = readKindName bytes := by
  simp only [readKindName, readText, Blanks.skip_append]

theorem readNull_null (between : Blanks) :
    readNull (between.octets ++ (Spelling.null.octets ++ rest)) = .ok rest := by
  simp only [readNull, Blanks.skip_append, Spelling.octets, List.cons_append,
    Reader.skipBlanks_cons (b := Reader.letterN) (by decide), ↓reduceIte, Reader.word_eq]

theorem readNull_of_ne (between : Blanks) {value : Spelling} (present : value ≠ .null)
    (rest : List UInt8) :
    ∃ fault, readNull (between.octets ++ (value.octets ++ rest)) = .error fault := by
  obtain ⟨b, tail, shape, leads⟩ := value.leads
  have notN : b ≠ Reader.letterN := fun isN => present (leads.null.1 isN)
  simp only [readNull, Blanks.skip_append, shape, List.cons_append,
    Reader.skipBlanks_cons leads.notBlank, notN, ↓reduceIte]
  exact ⟨_, rfl⟩

/-- Whether a member is the only one and null, as the object of a kind has it. -/
def isLoneNull (member : Json.Member Spelling) (others : List (Json.Member Spelling)) : Bool :=
  match member.value, others with
  | .null, [] => true
  | _, _ => false

theorem isLoneNull_of_ne {member : Json.Member Spelling} (present : member.value ≠ .null)
    (others : List (Json.Member Spelling)) : isLoneNull member others = false := by
  unfold isLoneNull
  split
  next isNull => exact absurd isNull present
  next => rfl

theorem isLoneNull_cons (member other : Json.Member Spelling)
    (others : List (Json.Member Spelling)) :
    isLoneNull member (other :: others) = false := by
  unfold isLoneNull
  split
  next none => cases none
  next => rfl

theorem kind?_single {name : String} {tree : Tree} (present : tree ≠ .null) :
    Field.kind? (.object [(name, tree)]) = none := by
  cases tree with
  | null => exact absurd rfl present
  | _ => rfl

/-- What an object says as a kind. -/
theorem kind?_object (member : Json.Member Spelling) (others : List (Json.Member Spelling))
    (last : Blanks) :
    (Spelling.object (member :: others) last).tree?.bind Field.kind? =
      (member.name.text?.bind EventKind.ofName?).bind fun kind =>
        if isLoneNull member others then some kind else none := by
  obtain ⟨before, name, named, between, value, after⟩ := member
  simp only [Spelling.tree?, Spelling.memberTrees?, Spelling.memberTree?]
  cases name.text? with
  | none => rfl
  | some name =>
      cases others with
      | nil =>
          by_cases isNull : value = .null
          · subst isNull
            cases known : EventKind.ofName? name <;>
              simp [Spelling.tree?, Spelling.memberTrees?, Field.kind?, known, isLoneNull]
          · rw [isLoneNull_of_ne (by exact isNull)]
            cases told : value.tree? with
            | none => simp
            | some tree =>
                simp [Spelling.memberTrees?, kind?_single (ne_null_of_tree? isNull told)]
      | cons other others =>
          rw [isLoneNull_cons]
          cases value.tree? with
          | none => simp
          | some tree =>
              simp only [Spelling.memberTrees?]
              cases Spelling.memberTree? other with
              | none => simp
              | some next => cases Spelling.memberTrees? others <;> simp [Field.kind?]

theorem readKind_object (members : List (Json.Member Spelling)) (last : Blanks) :
    Reads (readKind ((Spelling.object members last).octets ++ rest))
      ((Spelling.object members last).tree?.bind Field.kind?) rest := by
  simp only [Spelling.octets, List.cons_append, List.append_assoc, List.nil_append, readKind,
    Reader.skipBlanks_cons (b := openBrace) (by decide), ↓reduceIte]
  cases members with
  | nil =>
      simp only [Spelling.membersOctets, List.nil_append, readKindName_blanks]
      exact Reads.error _ rest
  | cons member others =>
      rw [kind?_object]
      obtain ⟨before, name, named, between, value, after⟩ := member
      simp only [Spelling.membersOctets, Spelling.memberOctets, ↓reduceIte, List.nil_append,
        List.append_assoc, List.cons_append, readKindName_blanks]
      refine (readKindName_text name).bind fun kind _ => ?_
      simp only [Reader.afterColon_eq, bind, Except.bind]
      by_cases isNull : value = .null
      · subst isNull
        rw [readNull_null]
        cases others with
        | nil =>
            simp only [Spelling.membersOctets, List.nil_append, readCloseBrace,
              Blanks.skip_append, Reader.skipBlanks_cons (b := closeBrace) (by decide), ↓reduceIte]
            rfl
        | cons other others =>
            rw [isLoneNull_cons]
            simp only [Spelling.membersOctets, Bool.false_eq_true, ↓reduceIte, List.cons_append,
              readCloseBrace, Blanks.skip_append, Reader.skipBlanks_cons (b := comma) (by decide),
              show comma ≠ closeBrace by decide]
            exact Reads.error _ rest
      · rw [isLoneNull_of_ne (by exact isNull)]
        obtain ⟨fault, failed⟩ := readNull_of_ne between isNull (after.octets ++
          (Spelling.membersOctets false others ++ (last.octets ++ closeBrace :: rest)))
        rw [failed]
        exact Reads.error fault rest

theorem readKind_reads (value : Spelling) :
    Reads (readKind (value.octets ++ rest)) (value.tree?.bind Field.kind?) rest := by
  obtain ⟨b, tail, shape, leads⟩ := value.leads
  by_cases isBrace : b = openBrace
  · obtain ⟨members, last, rfl⟩ := leads.object.1 isBrace
    exact readKind_object members last
  · by_cases isQuote : b = quote
    · obtain ⟨pieces, rfl⟩ := leads.text.1 isQuote
      have said : (Spelling.text pieces).tree?.bind Field.kind? =
          pieces.text?.bind EventKind.ofName? := by
        simp only [Spelling.tree?]
        cases pieces.text? <;> rfl
      rw [said]
      simp only [Spelling.octets, List.cons_append, List.append_assoc, List.nil_append, readKind,
        Reader.skipBlanks_cons (b := quote) (by decide), show quote ≠ openBrace by decide,
        ↓reduceIte]
      exact readKindName_text pieces
    · have said : value.tree?.bind Field.kind? = none := by
        cases value with
        | text pieces => exact absurd (leads.text.2 ⟨pieces, rfl⟩) isQuote
        | object members last => exact absurd (leads.object.2 ⟨members, last, rfl⟩) isBrace
        | _ => simp [Spelling.tree?, Field.kind?, Option.bind_map, Function.comp_def]
      rw [said, shape]
      simp only [List.cons_append, readKind, Reader.skipBlanks_cons leads.notBlank, isBrace,
        isQuote, ↓reduceIte]
      exact Reads.error _ rest

/-! ## Reading a field -/

theorem readField_blanks (draft : Draft) (field : Field) (blanks : Blanks) (bytes : List UInt8) :
    readField draft field (blanks.octets ++ bytes) = readField draft field bytes := by
  cases field <;> simp only [readField, readInteger, readText, readKey, readKind, readValue,
    Blanks.skip_append]

/-- The value of a field is read as what it says. -/
theorem readField_reads (draft : Draft) (field : Field) (between : Blanks) (value : Spelling)
    (detached : isDetached rest = true) :
    Reads (readField draft field (between.octets ++ (value.octets ++ rest)))
      ((field.content? value).map (draft.set field)) rest := by
  rw [readField_blanks]
  cases field with
  | version =>
      have read := (readInteger_reads 0 65535 value detached).map
        fun n => draft.set .version n.toNat
      have said : (Field.version.content? value).map (draft.set .version) =
          (value.tree?.bind (Field.integer? 0 65535)).map fun n => draft.set .version n.toNat := by
        simp only [Field.content?]
        cases value.tree? with
        | none => rfl
        | some tree =>
            simp only [Option.bind_some, Field.ofTree?]
            cases Field.integer? 0 65535 tree <;> rfl
      rw [said]
      exact read
  | cache => exact (readText_reads value rest).map (draft.set .cache)
  | key => exact (readKey_reads value).map (draft.set .key)
  | kind => exact (readKind_reads value).map (draft.set .kind)
  | micros =>
      exact (readInteger_reads Word.least Word.greatest value detached).map (draft.set .micros)
  | old => exact (readValue_reads value detached).map (draft.set .old)
  | new => exact (readValue_reads value detached).map (draft.set .new)

end CacheSync.Wire
