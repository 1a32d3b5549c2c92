import CacheSync.Proofs.Wire.Fields

/-!
# What a reader puts up with

The members of a message may stand in any order, with any white space and among members that no
field has, whatever their values are.  The reader finds what the fields say and nothing else:
`decode_tolerates`.  It puts up with no second member of a field, and with no name that is not a
text.
-/

namespace CacheSync

open Json

/-- The field that a member is of, if its name is the name of one. -/
def Json.Member.field? (member : Json.Member Spelling) : Option Wire.Field :=
  member.name.text?.bind Wire.Field.ofName?

namespace Wire

open Json.Octet

/-! ## What is taken from the members -/

namespace Draft

/-- A draft with what a value says as the value of a field, if the field is not there yet. -/
def take? (draft : Draft) (field : Field) (value : Spelling) : Option Draft :=
  if draft.has field then none else (field.content? value).map (draft.set field)

/-- A draft behind a member of some name. -/
def behind? (draft : Draft) (name : String) (value : Spelling) : Option Draft :=
  match Field.ofName? name with
  | none => some draft
  | some field => draft.take? field value

/-- A draft with what its members say, in their order. -/
def takeAll? : Draft → List (Json.Member Spelling) → Option Draft
  | draft, [] => some draft
  | draft, member :: others =>
      member.name.text?.bind fun name => (draft.behind? name member.value).bind (takeAll? · others)

end Draft

section Reading

variable {rest : List UInt8}

/-- What follows the name of a member is read as its field, or passed over. -/
theorem readMember_reads (draft : Draft) (name : String) (member : Json.Member Spelling)
    (detached : isDetached rest = true) :
    Reads (readMember draft name (Reader.behindName member rest))
      (draft.behind? name member.value) (member.after.octets ++ rest) := by
  have detachedAfter := isDetached_blanks member.after detached
  unfold readMember Draft.behind?
  simp only [Reader.behindName, Reader.afterColon_eq, bind, Except.bind]
  cases Field.ofName? name with
  | none =>
      simp only [Reader.skip_eq member.between member.value detachedAfter]
      rfl
  | some field =>
      simp only [Draft.take?]
      split
      · exact Reads.error .unsuitable _
      · exact readField_reads draft field member.between member.value detachedAfter

theorem readMembers_blanks (blanks : Blanks) (bound : Nat) (first : Bool) (draft : Draft)
    (bytes : List UInt8) :
    readMembers bound first draft (blanks.octets ++ bytes) =
      readMembers bound first draft bytes := by
  cases bound with
  | zero => rfl
  | succ bound => simp only [readMembers, Reader.nextName_blanks]

theorem readMembers_reads (members : List (Json.Member Spelling)) (last : Blanks) :
    ∀ {bound : Nat}, members.length < bound → ∀ first draft,
      Reads (readMembers bound first draft
        (Spelling.membersOctets first members ++ (last.octets ++ closeBrace :: rest)))
        (draft.takeAll? members) rest := by
  induction members with
  | nil =>
      intro bound enough first draft
      obtain ⟨bound, rfl⟩ : ∃ n, bound = n + 1 := ⟨bound - 1, by omega⟩
      simp only [readMembers, Spelling.membersOctets, List.nil_append, Reader.nextName_last]
      rfl
  | cons member others inductionHypothesis =>
      intro bound enough first draft
      obtain ⟨bound, rfl⟩ : ∃ n, bound = n + 1 := ⟨bound - 1, by omega⟩
      simp only [readMembers, Reader.nextName_cons]
      refine (Text.read_reads member.name _).bind fun name _ => ?_
      refine (readMember_reads draft name member
        (Spelling.isDetached_members others last rest)).bind fun taken _ => ?_
      rw [readMembers_blanks]
      exact inductionHypothesis (by simpa using enough) false taken

end Reading

/-! ## Whole messages -/

/-- The text of an object with these members and white space around it. -/
def body (lead : Blanks) (members : List (Json.Member Spelling)) (last trail : Blanks) :
    List UInt8 :=
  lead.octets ++ ((Spelling.object members last).octets ++ trail.octets)

/-- The message that the members of an object make, if they make one. -/
def message? (members : List (Json.Member Spelling)) : Option Message :=
  (Draft.empty.takeAll? members).bind fun draft => draft.finish.toOption

theorem readMessage_reads (lead : Blanks) (members : List (Json.Member Spelling))
    (last trail : Blanks) :
    Reads (readMessage (body lead members last trail)) (message? members) trail.octets := by
  have enough := Reader.length_le_membersOctets members true
  simp only [readMessage, body, Spelling.octets, List.cons_append, List.append_assoc,
    List.nil_append, Blanks.skip_append, Reader.skipBlanks_cons (b := openBrace) (by decide),
    ↓reduceIte]
  refine (readMembers_reads members last (by
    simp only [List.length_append, List.length_cons]
    omega) true .empty).bind fun draft _ => ?_
  exact Reads.of_except draft.finish trail.octets

theorem skipBlanks_blanks (blanks : Blanks) : skipBlanks blanks.octets = [] := by
  have skipped := blanks.skip_append []
  rwa [List.append_nil] at skipped

theorem decode_of_message? {members : List (Json.Member Spelling)} {message : Message}
    (made : message? members = some message) (lead last trail : Blanks) :
    decode (body lead members last trail) = message.toEvent := by
  have read := readMessage_reads lead members last trail
  rw [made] at read
  have document : readDocument (body lead members last trail) = .ok message := by
    obtain read : readMessage (body lead members last trail) = .ok (message, trail.octets) := read
    simp only [readDocument, read, bind, Except.bind, skipBlanks_blanks, List.isEmpty_nil,
      ↓reduceIte]
  simp only [decode, document]

theorem decode_of_no_message? {members : List (Json.Member Spelling)}
    (made : message? members = none) (lead last trail : Blanks) :
    ∃ fault, decode (body lead members last trail) = .error (.undecodable fault) := by
  have read := readMessage_reads lead members last trail
  rw [made] at read
  obtain ⟨fault, failed⟩ := read
  exact ⟨fault, by simp only [decode, readDocument, failed, bind, Except.bind]⟩

/-! ## What the members say -/

/-- The first member of a field. -/
def memberOf? (members : List (Json.Member Spelling)) (field : Field) :
    Option (Json.Member Spelling) :=
  members.find? fun member => member.field? == some field

/-- What the members say of a field: what its member says, or what stands for its absence. -/
def said? (members : List (Json.Member Spelling)) (field : Field) : Option field.Content :=
  match memberOf? members field with
  | some member => field.content? member.value
  | none => field.absent?

/-- No field has two members. -/
def Single (members : List (Json.Member Spelling)) : Prop :=
  (members.filterMap Json.Member.field?).Nodup

instance (members : List (Json.Member Spelling)) : Decidable (Single members) :=
  inferInstanceAs (Decidable (List.Nodup _))

/-- The members spell a message: their names are texts, no field is there twice, and each field
says what the message has, or is absent and may be so. -/
structure Spells (members : List (Json.Member Spelling)) (message : Message) : Prop where
  named : ∀ member ∈ members, member.name.text?.isSome = true
  single : Single members
  told : ∀ field, said? members field = some (message.get field)

theorem memberOf?_cons (member : Json.Member Spelling) (others : List (Json.Member Spelling))
    (field : Field) :
    memberOf? (member :: others) field =
      if member.field? = some field then some member else memberOf? others field := by
  by_cases own : member.field? = some field <;> simp [memberOf?, own]

theorem memberOf?_eq_none {members : List (Json.Member Spelling)} {field : Field}
    (absent : field ∉ members.filterMap Json.Member.field?) : memberOf? members field = none := by
  refine List.find?_eq_none.2 fun member present own => absent ?_
  exact List.mem_filterMap.2 ⟨member, present, by simpa using own⟩

theorem memberOf?_of_mem {members : List (Json.Member Spelling)} (single : Single members)
    {member : Json.Member Spelling} (present : member ∈ members) {field : Field}
    (own : member.field? = some field) : memberOf? members field = some member := by
  induction members with
  | nil => cases present
  | cons first others inductionHypothesis =>
      rw [memberOf?_cons]
      rcases List.mem_cons.1 present with same | later
      · rw [← same, own, if_pos rfl]
      · have later' : field ∈ others.filterMap Json.Member.field? :=
          List.mem_filterMap.2 ⟨member, later, own⟩
        cases ofFirst : first.field? with
        | none =>
            rw [Single, List.filterMap_cons_none ofFirst] at single
            rw [if_neg (by simp)]
            exact inductionHypothesis single later
        | some other =>
            rw [Single, List.filterMap_cons_some ofFirst] at single
            obtain ⟨last, singleOthers⟩ := List.nodup_cons.1 single
            have different : some other ≠ some field := fun equal =>
              last (Option.some.inj equal ▸ later')
            rw [if_neg different]
            exact inductionHypothesis singleOthers later

namespace Draft

/-- What a draft that takes all members has of a field: what the member of the field says, or what
it had. -/
def saidBehind? (draft : Draft) (members : List (Json.Member Spelling)) (field : Field) :
    Option field.Content :=
  match memberOf? members field with
  | some member => field.content? member.value
  | none => draft.get field

section Own

variable {draft : Draft} {member : Json.Member Spelling} {others : List (Json.Member Spelling)}
  {field : Field} {content : field.Content}

/-- A member of no field changes nothing. -/
theorem takeAll?_other (named : member.name.text?.isSome = true) (other : member.field? = none) :
    draft.takeAll? (member :: others) = draft.takeAll? others := by
  obtain ⟨name, spelled⟩ := Option.isSome_iff_exists.1 named
  have unknown : Field.ofName? name = none := by
    simpa only [Json.Member.field?, spelled, Option.bind_some] using other
  simp only [takeAll?, spelled, Option.bind_some, behind?, unknown]

theorem takeAll?_own (own : member.field? = some field) (absent : draft.get field = none)
    (told : field.content? member.value = some content) :
    draft.takeAll? (member :: others) = (draft.set field content).takeAll? others := by
  obtain ⟨name, spelled, known⟩ := Option.bind_eq_some_iff.1 own
  have notYet : draft.has field = false := by
    rw [has_eq, absent]
    rfl
  simp only [takeAll?, spelled, Option.bind_some, behind?, known, take?, notYet,
    Bool.false_eq_true, ↓reduceIte, told, Option.map_some]

theorem saidBehind?_other (other : member.field? = none) (field : Field) :
    draft.saidBehind? (member :: others) field = draft.saidBehind? others field := by
  simp [saidBehind?, memberOf?_cons, other]

/-- What the member of a field says may as well be in the draft already. -/
theorem saidBehind?_own (own : member.field? = some field)
    (told : field.content? member.value = some content)
    (last : field ∉ others.filterMap Json.Member.field?) (other : Field) :
    draft.saidBehind? (member :: others) other =
      (draft.set field content).saidBehind? others other := by
  by_cases same : other = field
  · subst same
    simp only [saidBehind?, memberOf?_cons, own, ↓reduceIte, memberOf?_eq_none last, get_set, told]
  · have different : some field ≠ some other := fun equal => same (Option.some.inj equal).symm
    simp only [saidBehind?, memberOf?_cons, own, different, ↓reduceIte,
      get_set_of_ne draft content same]

end Own

/-- Members of fields that are not there yet are taken one by one. -/
theorem exists_takeAll? {draft : Draft} {members : List (Json.Member Spelling)}
    (named : ∀ member ∈ members, member.name.text?.isSome = true) (single : Single members)
    (fresh : ∀ field ∈ members.filterMap Json.Member.field?, draft.get field = none)
    (accepted : ∀ member ∈ members, ∀ field, member.field? = some field →
      (field.content? member.value).isSome = true) :
    ∃ final, draft.takeAll? members = some final ∧
      ∀ field, final.get field = draft.saidBehind? members field := by
  induction members generalizing draft with
  | nil => exact ⟨draft, rfl, fun field => rfl⟩
  | cons member others inductionHypothesis =>
      have namedOthers : ∀ other ∈ others, other.name.text?.isSome = true :=
        fun other present => named other (List.mem_cons_of_mem _ present)
      have acceptedOthers := fun other present =>
        accepted other (List.mem_cons_of_mem member present)
      cases own : member.field? with
      | none =>
          rw [Single, List.filterMap_cons_none own] at single
          rw [List.filterMap_cons_none own] at fresh
          obtain ⟨final, taken, gets⟩ :=
            inductionHypothesis namedOthers single fresh acceptedOthers
          refine ⟨final, ?_, fun field => ?_⟩
          · rw [takeAll?_other (named member List.mem_cons_self) own, taken]
          · rw [gets field, saidBehind?_other own]
      | some field =>
          rw [Single, List.filterMap_cons_some own] at single
          rw [List.filterMap_cons_some own] at fresh
          obtain ⟨last, singleOthers⟩ := List.nodup_cons.1 single
          obtain ⟨content, told⟩ := Option.isSome_iff_exists.1
            (accepted member List.mem_cons_self field own)
          have freshOthers : ∀ other ∈ others.filterMap Json.Member.field?,
              (draft.set field content).get other = none := by
            intro other present
            have different : other ≠ field := fun same => last (same ▸ present)
            rw [get_set_of_ne draft content different]
            exact fresh other (List.mem_cons_of_mem _ present)
          obtain ⟨final, taken, gets⟩ :=
            inductionHypothesis namedOthers singleOthers freshOthers acceptedOthers
          refine ⟨final, ?_, fun other => ?_⟩
          · rw [takeAll?_own own (fresh field List.mem_cons_self) told, taken]
          · rw [gets other, saidBehind?_own own told last]

end Draft

theorem Spells.message?_eq {members : List (Json.Member Spelling)} {message : Message}
    (spells : Spells members message) : message? members = some message := by
  have accepted : ∀ member ∈ members, ∀ field, member.field? = some field →
      (field.content? member.value).isSome = true := by
    intro member present field own
    have told := spells.told field
    simp only [said?, memberOf?_of_mem spells.single present own] at told
    rw [told]
    rfl
  obtain ⟨final, taken, gets⟩ := Draft.exists_takeAll? spells.named spells.single
    (fun field _ => Draft.get_empty field) accepted
  have finished : final.finish = .ok message := by
    refine Draft.finish_eq fun field => ?_
    have told := spells.told field
    rw [gets field, Draft.saidBehind?]
    cases present : memberOf? members field with
    | none =>
        simp only [said?, present] at told
        simpa only [Draft.get_empty, Option.none_or] using told
    | some member =>
        simp only [said?, present] at told
        simp only [told, Option.some_or]
  simp only [message?, taken, Option.bind_some, finished, Except.toOption]

/-! ## What is not put up with -/

namespace Draft

/-- Members that are all taken have texts as names. -/
theorem named_of_takeAll? {draft final : Draft} {members : List (Json.Member Spelling)}
    (taken : draft.takeAll? members = some final) :
    ∀ member ∈ members, member.name.text?.isSome = true := by
  induction members generalizing draft with
  | nil => simp
  | cons first others inductionHypothesis =>
      obtain ⟨name, spelled, taken⟩ := Option.bind_eq_some_iff.1 taken
      obtain ⟨next, _, taken⟩ := Option.bind_eq_some_iff.1 taken
      intro member present
      rcases List.mem_cons.1 present with rfl | later
      · rw [spelled]
        rfl
      · exact inductionHypothesis taken member later

theorem get_of_take? {draft taken : Draft} {field : Field} {value : Spelling}
    (takes : draft.take? field value = some taken) :
    draft.get field = none ∧ ∃ content, taken = draft.set field content := by
  unfold take? at takes
  split at takes
  next => cases takes
  next absent =>
    obtain ⟨content, _, rfl⟩ := Option.map_eq_some_iff.1 takes
    refine ⟨?_, content, rfl⟩
    rw [has_eq] at absent
    simpa using absent

/-- Members that are all taken are of fields that were not there, each of another. -/
theorem single_of_takeAll? {draft final : Draft} {members : List (Json.Member Spelling)}
    (taken : draft.takeAll? members = some final) :
    Single members ∧ ∀ field ∈ members.filterMap Json.Member.field?, draft.get field = none := by
  induction members generalizing draft with
  | nil => exact ⟨List.nodup_nil, by simp⟩
  | cons member others inductionHypothesis =>
      obtain ⟨name, spelled, taken⟩ := Option.bind_eq_some_iff.1 taken
      obtain ⟨next, own, taken⟩ := Option.bind_eq_some_iff.1 taken
      obtain ⟨singleOthers, freshOthers⟩ := inductionHypothesis taken
      have isOf : member.field? = Field.ofName? name := by
        simp only [Json.Member.field?, spelled, Option.bind_some]
      unfold behind? at own
      split at own
      next known =>
        obtain rfl := Option.some.inj own
        rw [known] at isOf
        rw [Single, List.filterMap_cons_none isOf]
        exact ⟨singleOthers, freshOthers⟩
      next field known =>
        rw [known] at isOf
        obtain ⟨absent, content, rfl⟩ := get_of_take? own
        rw [Single, List.filterMap_cons_some isOf]
        refine ⟨List.nodup_cons.2 ⟨fun again => ?_, singleOthers⟩, ?_⟩
        · have fresh := freshOthers field again
          rw [get_set] at fresh
          cases fresh
        · intro other present
          rcases List.mem_cons.1 present with rfl | later
          · exact absent
          · have fresh := freshOthers other later
            by_cases same : other = field
            · rw [same, get_set] at fresh
              cases fresh
            · rwa [get_set_of_ne draft content same] at fresh

end Draft

theorem message?_of_twice {members : List (Json.Member Spelling)} (twice : ¬ Single members) :
    message? members = none := by
  cases made : message? members with
  | none => rfl
  | some message =>
      obtain ⟨final, taken, _⟩ := Option.bind_eq_some_iff.1 made
      exact absurd (Draft.single_of_takeAll? taken).1 twice

theorem message?_of_unnamed {members : List (Json.Member Spelling)}
    (unnamed : ∃ member ∈ members, member.name.text? = none) : message? members = none := by
  obtain ⟨member, present, noText⟩ := unnamed
  cases made : message? members with
  | none => rfl
  | some message =>
      obtain ⟨final, taken, _⟩ := Option.bind_eq_some_iff.1 made
      have named := Draft.named_of_takeAll? taken member present
      rw [noText] at named
      cases named

/-! ## The order of the fields -/

/-- The members of fields alone, in the order that messages are written in. -/
def inOrder (members : List (Json.Member Spelling)) : List (Json.Member Spelling) :=
  Field.all.filterMap (memberOf? members)

theorem field?_of_memberOf? {members : List (Json.Member Spelling)} {field : Field}
    {member : Json.Member Spelling} (present : memberOf? members field = some member) :
    member.field? = some field := by
  simpa using List.find?_some present

theorem memberOf?_filterMap (members : List (Json.Member Spelling)) (fields : List Field)
    (field : Field) :
    memberOf? (fields.filterMap (memberOf? members)) field =
      if field ∈ fields then memberOf? members field else none := by
  induction fields with
  | nil => rfl
  | cons first others inductionHypothesis =>
      cases present : memberOf? members first with
      | none =>
          rw [List.filterMap_cons_none present, inductionHypothesis]
          by_cases same : field = first
          · simp [same, present]
          · simp [same]
      | some member =>
          rw [List.filterMap_cons_some present, memberOf?_cons, field?_of_memberOf? present,
            inductionHypothesis]
          by_cases same : field = first
          · simp [same, present]
          · simp [same, Ne.symm same]

theorem memberOf?_inOrder (members : List (Json.Member Spelling)) (field : Field) :
    memberOf? (inOrder members) field = memberOf? members field := by
  rw [inOrder, memberOf?_filterMap, if_pos (by cases field <;> decide)]

theorem said?_inOrder (members : List (Json.Member Spelling)) (field : Field) :
    said? (inOrder members) field = said? members field := by
  simp only [said?, memberOf?_inOrder]

theorem single_inOrder (members : List (Json.Member Spelling)) : Single (inOrder members) := by
  have different : Field.all.Pairwise (· ≠ ·) := by decide
  rw [Single, inOrder, List.filterMap_filterMap]
  refine List.Pairwise.filterMap _ (fun first second apart field ofFirst other ofSecond => ?_)
    different
  obtain ⟨member, present, own⟩ := Option.bind_eq_some_iff.1 ofFirst
  obtain ⟨next, nextPresent, nextOwn⟩ := Option.bind_eq_some_iff.1 ofSecond
  obtain rfl := Option.some.inj ((field?_of_memberOf? present).symm.trans own)
  obtain rfl := Option.some.inj ((field?_of_memberOf? nextPresent).symm.trans nextOwn)
  exact apart

theorem Spells.inOrder {members : List (Json.Member Spelling)} {message : Message}
    (spells : Spells members message) : Spells (inOrder members) message where
  named member present := by
    obtain ⟨field, _, found⟩ := List.mem_filterMap.1 present
    exact spells.named member (List.mem_of_find?_eq_some found)
  single := single_inOrder members
  told field := (said?_inOrder members field).trans (spells.told field)

/-! ## Tolerance -/

/-- The event of a message, by its version first and its time next. -/
theorem toEvent_eq (message : Message) :
    message.toEvent =
      if message.version ≠ version then
        .error (.unsupportedVersion message.version version)
      else if Moment.earliestMicros ≤ message.micros ∧ message.micros ≤ Moment.latestMicros then
        .ok ⟨message.cache, message.key, message.kind, message.micros * 1000, .remoteNode,
          message.old, message.new⟩
      else .error (.invalidTime message.micros) := by
  unfold Message.toEvent Moment.ofMicros?
  by_cases inYears : Moment.earliestMicros ≤ message.micros ∧
      message.micros ≤ Moment.latestMicros <;> simp [inYears]

/-- Members that spell a message are read as it, whatever their order, the white space and the
other members, and so are the members of its fields alone in the order they are written in.  No
text with two members of a field is read, and none with a member whose name is no text. -/
theorem decode_tolerates (members : List (Json.Member Spelling)) (lead last trail : Blanks) :
    (∀ message, Spells members message →
      (decode (body lead members last trail) =
        if message.version ≠ version then
          .error (.unsupportedVersion message.version version)
        else if Moment.earliestMicros ≤ message.micros ∧ message.micros ≤ Moment.latestMicros then
          .ok ⟨message.cache, message.key, message.kind, message.micros * 1000, .remoteNode,
            message.old, message.new⟩
        else .error (.invalidTime message.micros)) ∧
      ∀ lead' last' trail', decode (body lead' (inOrder members) last' trail') =
        decode (body lead members last trail)) ∧
    (¬ Single members →
      ∃ fault, decode (body lead members last trail) = .error (.undecodable fault)) ∧
    ((∃ member ∈ members, member.name.text? = none) →
      ∃ fault, decode (body lead members last trail) = .error (.undecodable fault)) := by
  refine ⟨fun message spells => ?_,
    fun twice => decode_of_no_message? (message?_of_twice twice) lead last trail,
    fun unnamed => decode_of_no_message? (message?_of_unnamed unnamed) lead last trail⟩
  have read := decode_of_message? spells.message?_eq lead last trail
  refine ⟨read.trans (toEvent_eq message), fun lead' last' trail' => ?_⟩
  rw [read, decode_of_message? spells.inOrder.message?_eq]

/-! ## Samples -/

theorem plain_name (field : Field) :
    ∀ b ∈ Utf8.octets field.name, b ≠ quote ∧ b ≠ backslash ∧ isControl b = false := by
  cases field <;> decide +kernel

/-- The member of a field without white space, its name as it is. -/
def fieldMember (field : Field) (value : Spelling) : Json.Member Spelling :=
  ⟨.none, Pieces.plain (Utf8.octets field.name) (plain_name field), .none, .none, value, .none⟩

theorem field?_fieldMember (field : Field) (value : Spelling) :
    (fieldMember field value).field? = some field := by
  simp only [Json.Member.field?, fieldMember, Pieces.text?_plain, Option.bind_some,
    Field.ofName?_name]

theorem value_fieldMember (field : Field) (value : Spelling) :
    (fieldMember field value).value = value := rfl

theorem content?_plain (field : Field) (text : String)
    (plain : ∀ b ∈ Utf8.octets text, b ≠ quote ∧ b ≠ backslash ∧ isControl b = false) :
    field.content? (.text (Pieces.plain (Utf8.octets text) plain)) =
      field.ofTree? (.text text) := by
  simp only [Field.content?, Spelling.tree?, Pieces.text?_plain, Option.map_some,
    Option.bind_some]

def digit (b : UInt8) (digit : isDigit b = true) : Spelling :=
  .number ⟨false, ⟨b, [], by simpa using digit⟩, fun _ => rfl, none, none⟩

/-- A surrogate without its other half. -/
def unpaired : Pieces :=
  [.unicode 0x64 0x38 0x30 0x30 0xD800 (by decide)]

/-- A member of no field, whose name is an unpaired surrogate. -/
def misnamedMember : Json.Member Spelling :=
  ⟨.none, unpaired, .none, .none, digit 0x30 (by decide), .none⟩

/-- Brackets inside each other. -/
def nested : Nat → Spelling
  | 0 => .array [] .none
  | depth + 1 => .array [⟨.none, nested depth, .none⟩] .none

/-- A member of no field, deep and with a string that is no text. -/
def otherMember : Json.Member Spelling :=
  ⟨.none, Pieces.plain (Utf8.octets "x") (by decide +kernel), .none, .none,
    .array [⟨.none, nested 200, .none⟩, ⟨.none, .text unpaired, .none⟩] .none, .none⟩

/-- The version under a name with an escape. -/
def escapedMember : Json.Member Spelling :=
  ⟨.none, [.unicode 0x30 0x30 0x37 0x36 0x76 (by decide)], .none, .none, digit 0x31 (by decide),
    .none⟩

/-- The members of a message in an order of their own, twice with a member of no field. -/
def shuffledMembers : List (Json.Member Spelling) :=
  [ fieldMember .new (.array [⟨.none, digit 0x31 (by decide), .none⟩] .none),
    otherMember,
    fieldMember .micros (digit 0x30 (by decide)),
    fieldMember .kind (.text (Pieces.plain (Utf8.octets "ADDED") (by decide +kernel))),
    otherMember,
    escapedMember,
    fieldMember .cache (.text (Pieces.plain (Utf8.octets "users") (by decide +kernel))) ]

def shuffledMessage : Message :=
  ⟨1, "users", .all, .added, 0, none,
    some (Value.ofTree (.array [.number (.int 1 (by decide))]))⟩

theorem spells_shuffled : Spells shuffledMembers shuffledMessage where
  named := by decide +kernel
  single := by decide +kernel
  told field := by
    have escaped : escapedMember.field? = some .version := by decide +kernel
    have other : otherMember.field? = none := by decide +kernel
    cases field <;>
      simp only [said?, shuffledMembers, memberOf?_cons, field?_fieldMember, escaped, other,
        value_fieldMember, content?_plain, reduceCtorEq, Option.some.injEq, ↓reduceIte]
    all_goals rfl

theorem decode_tolerates_shuffled :
    Spells shuffledMembers shuffledMessage ∧
      decode (body .none shuffledMembers .none .none) =
        .ok ⟨"users", .all, .added, 0, .remoteNode, none, shuffledMessage.new⟩ ∧
      decode (body .none (inOrder shuffledMembers) .none .none) =
        decode (body .none shuffledMembers .none .none) ∧
      ¬ Single (escapedMember :: shuffledMembers) ∧
      (∃ fault, decode (body .none (escapedMember :: shuffledMembers) .none .none) =
        .error (.undecodable fault)) ∧
      misnamedMember.name.text? = none ∧
      ∃ fault, decode (body .none (misnamedMember :: shuffledMembers) .none .none) =
        .error (.undecodable fault) := by
  obtain ⟨read, ordered⟩ :=
    (decode_tolerates shuffledMembers .none .none .none).1 shuffledMessage spells_shuffled
  have twice : ¬ Single (escapedMember :: shuffledMembers) := by decide +kernel
  have misnamed : misnamedMember.name.text? = none := by decide +kernel
  exact ⟨spells_shuffled, read, ordered .none .none .none, twice,
    (decode_tolerates (escapedMember :: shuffledMembers) .none .none .none).2.1 twice, misnamed,
    (decode_tolerates (misnamedMember :: shuffledMembers) .none .none .none).2.2
      ⟨misnamedMember, List.mem_cons_self, misnamed⟩⟩

/-! ## A name that is no text -/

/-- A member whose name is no text, and then a message with nothing wrong. -/
def misnamedMembers : List (Json.Member Spelling) :=
  [ misnamedMember,
    fieldMember .version (digit 0x31 (by decide)),
    fieldMember .cache (.text (Pieces.plain (Utf8.octets "users") (by decide +kernel))),
    fieldMember .key (.text (Pieces.plain (Utf8.octets "k") (by decide +kernel))),
    fieldMember .kind (.text (Pieces.plain (Utf8.octets "ADDED") (by decide +kernel))),
    fieldMember .micros (digit 0x30 (by decide)) ]

def misnamedMessage : Message :=
  ⟨1, "users", .entry "k", .added, 0, none, none⟩

/-- The name of a member is read even if nobody asks for the member. -/
theorem decode_misnamed :
    body .none misnamedMembers .none .none = Utf8.octets
        ("\x7b\"\\ud800\":0,\"v\":1,\"cache\":\"users\",\"key\":\"k\",\"type\":\"ADDED\"," ++
          "\"time_us\":0\x7d") ∧
      Single misnamedMembers ∧
      (∀ field, said? misnamedMembers field = some (misnamedMessage.get field)) ∧
      decode (body .none (inOrder misnamedMembers) .none .none) =
        .ok ⟨"users", .entry "k", .added, 0, .remoteNode, none, none⟩ ∧
      ∃ fault, decode (body .none misnamedMembers .none .none) = .error (.undecodable fault) := by
  have told (field : Field) : said? misnamedMembers field = some (misnamedMessage.get field) := by
    have other : misnamedMember.field? = none := rfl
    cases field <;>
      simp only [said?, misnamedMembers, memberOf?_cons, field?_fieldMember, other,
        value_fieldMember, content?_plain, reduceCtorEq, Option.some.injEq, ↓reduceIte]
    all_goals rfl
  have ordered : Spells (inOrder misnamedMembers) misnamedMessage :=
    ⟨by decide +kernel, single_inOrder _, fun field => (said?_inOrder _ field).trans (told field)⟩
  refine ⟨by decide +kernel, by decide +kernel, told, ?_, ?_⟩
  · exact decode_of_message? ordered.message?_eq .none .none .none
  · exact decode_of_no_message?
      (message?_of_unnamed ⟨_, List.mem_cons_self, by decide +kernel⟩) .none .none .none

end Wire

end CacheSync
