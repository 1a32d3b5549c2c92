import CacheSync.Node.Core
import CacheSync.Proofs.Json.Nesting
import CacheSync.Proofs.Wire.RoundTrip
import Mathlib.Data.List.DropRight

/-!
# What arrives

A body that is read may be spelled in any way: its members in any order, its names escaped, its
fields in a row.  The event it is read as does not show it.  Every such event was made elsewhere, at
a whole microsecond of the calendar, and its values are not null and nest no deeper than a message
may (`Event.Arrived`).  An event of this kind is delivered as it is, so its own message is a normal
form of the body.  An event that was made here arrives with its time cut and its nulls left out
(`Carried`).
-/

namespace CacheSync

open Json

namespace Json.Value

/-- What holds of every value that was read from a message. -/
structure Arrived (value : Value) : Prop where
  present : value.isNull = false
  shallow : value.depth ≤ Wire.valueDepth

theorem isNull_ofTree {tree : Tree} (present : tree ≠ .null) :
    (ofTree tree).isNull = false := by
  cases isNull : (ofTree tree).isNull with
  | false => rfl
  | true => exact absurd (Tree.eq_null_of_canonical (Wire.isNull_tree isNull)) present

end Json.Value

namespace Event

/-- Whether every number in the values of an event is an integer. -/
def isIntegral (event : Event) : Bool :=
  event.old.all (·.tree.isIntegral) && event.new.all (·.tree.isIntegral)

/-- Whether the values of an event nest no deeper than a message may. -/
def isShallow (event : Event) : Bool :=
  event.old.all (decide <| ·.depth ≤ Wire.valueDepth) &&
    event.new.all (decide <| ·.depth ≤ Wire.valueDepth)

theorem isPortable_iff {event : Event} :
    event.isPortable = true ↔ event.isIntegral = true ∧ event.isShallow = true := by
  obtain ⟨cache, key, kind, time, origin, old, new⟩ := event
  cases old <;> cases new <;>
    simp [isPortable, isIntegral, isShallow, Value.isPortable, and_left_comm, and_assoc]

/-- What holds of every event that was read from a message. -/
structure Arrived (event : Event) : Prop where
  remote : event.origin = .remoteNode
  whole : ∃ micros, Moment.earliestMicros ≤ micros ∧ micros ≤ Moment.latestMicros ∧
    event.time = micros * 1000
  old : ∀ value ∈ event.old, value.Arrived
  new : ∀ value ∈ event.new, value.Arrived

namespace Arrived

variable {event : Event}

theorem inCalendar (arrived : event.Arrived) : event.time.InCalendar := by
  obtain ⟨micros, low, high, time⟩ := arrived.whole
  rw [time]
  exact Moment.inCalendar_of_whole low high

theorem isShallow (arrived : event.Arrived) : event.isShallow = true := by
  have oldShallow : event.old.all (decide <| ·.depth ≤ Wire.valueDepth) = true :=
    (Option.all_eq_true _ _).2 fun value held => decide_eq_true (arrived.old value held).shallow
  have newShallow : event.new.all (decide <| ·.depth ≤ Wire.valueDepth) = true :=
    (Option.all_eq_true _ _).2 fun value held => decide_eq_true (arrived.new value held).shallow
  exact Bool.and_eq_true_iff.2 ⟨oldShallow, newShallow⟩

theorem bind_delivered? {held : Option Value} (arrived : ∀ value ∈ held, value.Arrived) :
    held.bind Value.delivered? = held := by
  have nullFree : held.all (fun value => !value.isNull) = true :=
    (Option.all_eq_true _ _).2 fun value present => by rw [(arrived value present).present]; rfl
  exact Event.bind_delivered? nullFree

/-- An event that has arrived once arrives again as it is. -/
theorem delivered (arrived : event.Arrived) : event.delivered = event := by
  obtain ⟨micros, low, high, time⟩ := arrived.whole
  have sameTime : event.micros * 1000 = event.time := by
    rw [Event.micros, time, Moment.toMicros_of_whole low high]
  have sameOld := bind_delivered? arrived.old
  have sameNew := bind_delivered? arrived.new
  obtain ⟨cache, key, kind, eventTime, origin, old, new⟩ := event
  obtain rfl : origin = .remoteNode := arrived.remote
  simp only [Event.delivered, sameTime, sameOld, sameNew]

end Arrived

end Event

namespace Wire

/-! ## Values of fields -/

theorem arrived_of_readValue {bytes rest : List UInt8} {found : Option Value}
    (read : readValue bytes = .ok (found, rest)) : ∀ value ∈ found, value.Arrived := by
  unfold readValue at read
  split at read
  next => cases read
  next b after shape =>
    split at read
    next =>
      obtain ⟨_, _, same⟩ := exists_of_map_eq_ok read
      cases same
      intro value member
      cases member
    next notN =>
      obtain ⟨⟨tree, behind⟩, readTree, same⟩ := exists_of_map_eq_ok read
      cases same
      intro value member
      cases member
      have notBlank : Octet.skipBlanks (b :: after) = b :: after := by
        rw [← shape]
        exact List.dropWhile_idempotent _ _
      have present : tree ≠ .null := Reader.ne_null_of_value notBlank notN readTree
      exact
        { present := Value.isNull_ofTree present
          shallow := Nat.le_trans tree.depth_canonical_le (Reader.depth_le_of_value readTree) }

/-! ## Drafts -/

namespace Draft

/-- Every value of a draft was read from a message. -/
structure Arriving (draft : Draft) : Prop where
  old : ∀ value ∈ draft.old.join, value.Arrived
  new : ∀ value ∈ draft.new.join, value.Arrived

theorem arriving_empty : empty.Arriving :=
  ⟨fun _ member => (by cases member), fun _ member => (by cases member)⟩

namespace Arriving

variable {draft filled : Draft} {bytes rest : List UInt8}

theorem readField (arriving : draft.Arriving) {field : Field}
    (read : Wire.readField draft field bytes = .ok (filled, rest)) : filled.Arriving := by
  obtain ⟨oldArrived, newArrived⟩ := arriving
  cases field with
  | version | cache | key | kind | micros =>
      obtain ⟨_, _, same⟩ := exists_of_map_eq_ok read
      cases same
      exact ⟨oldArrived, newArrived⟩
  | old =>
      obtain ⟨_, value, same⟩ := exists_of_map_eq_ok read
      cases same
      exact ⟨arrived_of_readValue value, newArrived⟩
  | new =>
      obtain ⟨_, value, same⟩ := exists_of_map_eq_ok read
      cases same
      exact ⟨oldArrived, arrived_of_readValue value⟩

theorem readMember (arriving : draft.Arriving) {name : String}
    (read : Wire.readMember draft name bytes = .ok (filled, rest)) : filled.Arriving := by
  unfold Wire.readMember at read
  split at read
  next =>
    obtain ⟨_, _, read⟩ := exists_of_bind_eq_ok read
    obtain ⟨_, _, read⟩ := exists_of_bind_eq_ok read
    cases read
    exact arriving
  next =>
    split at read
    next => cases read
    next =>
      obtain ⟨_, _, read⟩ := exists_of_bind_eq_ok read
      exact arriving.readField read

/-- Members come in any order, known or not; every one of them keeps the draft as it should be. -/
theorem readMembers (arriving : draft.Arriving) {bound : Nat} {first : Bool}
    (read : Wire.readMembers bound first draft bytes = .ok (filled, rest)) : filled.Arriving := by
  induction bound generalizing first draft bytes with
  | zero => cases read
  | succ bound inductionHypothesis =>
      obtain ⟨next, _, read⟩ := exists_of_bind_eq_ok read
      cases next with
      | closed behind =>
          cases read
          exact arriving
      | part start =>
          obtain ⟨_, _, read⟩ := exists_of_bind_eq_ok read
          obtain ⟨_, member, read⟩ := exists_of_bind_eq_ok read
          exact inductionHypothesis (arriving.readMember member) read

theorem readRow (arriving : draft.Arriving) {fields : List Field} {first : Bool}
    (read : Wire.readRow fields first draft bytes = .ok (filled, rest)) : filled.Arriving := by
  induction fields generalizing first draft bytes with
  | nil =>
      obtain ⟨_, _, same⟩ := exists_of_map_eq_ok read
      cases same
      exact arriving
  | cons field fields inductionHypothesis =>
      obtain ⟨next, _, read⟩ := exists_of_bind_eq_ok read
      cases next with
      | closed behind =>
          dsimp only at read
          split at read
          · cases read
            exact arriving
          · cases read
      | part start =>
          obtain ⟨_, one, read⟩ := exists_of_bind_eq_ok read
          exact inductionHypothesis (arriving.readField one) read

end Arriving

end Draft

/-! ## Messages -/

/-- A message is a finished draft, in an object as in a row. -/
theorem exists_draft_of_readMessage {bytes rest : List UInt8} {message : Message}
    (read : readMessage bytes = .ok (message, rest)) :
    ∃ draft : Draft, draft.Arriving ∧ draft.finish = .ok message := by
  unfold readMessage at read
  split at read
  next => cases read
  next =>
    split at read
    next =>
      obtain ⟨⟨draft, _⟩, members, read⟩ := exists_of_bind_eq_ok read
      obtain ⟨_, finished, read⟩ := exists_of_bind_eq_ok read
      cases read
      exact ⟨draft, Draft.arriving_empty.readMembers members, finished⟩
    next =>
      split at read
      next =>
        obtain ⟨⟨draft, _⟩, row, read⟩ := exists_of_bind_eq_ok read
        obtain ⟨_, finished, read⟩ := exists_of_bind_eq_ok read
        cases read
        exact ⟨draft, Draft.arriving_empty.readRow row, finished⟩
      next => cases read

theorem exists_draft_of_readDocument {bytes : List UInt8} {message : Message}
    (read : readDocument bytes = .ok message) :
    ∃ draft : Draft, draft.Arriving ∧ draft.finish = .ok message := by
  obtain ⟨⟨found, rest⟩, readFound, nothingBehind⟩ := exists_of_bind_eq_ok read
  dsimp only at nothingBehind
  split at nothingBehind
  · cases nothingBehind
    exact exists_draft_of_readMessage readFound
  · cases nothingBehind

theorem values_of_finish {draft : Draft} {message : Message}
    (finished : draft.finish = .ok message) :
    message.old = draft.old.join ∧ message.new = draft.new.join := by
  unfold Draft.finish at finished
  split at finished
  next =>
    cases finished
    exact ⟨rfl, rfl⟩
  next => cases finished

/-- The event of a message has its values, and a time that the message could say. -/
theorem of_toEvent {message : Message} {event : Event} (made : message.toEvent = .ok event) :
    event.origin = .remoteNode ∧ Moment.ofMicros? message.micros = some event.time ∧
      event.old = message.old ∧ event.new = message.new := by
  unfold Message.toEvent at made
  split at made
  next => cases made
  next =>
    split at made
    next => cases made
    next time timed =>
      cases made
      exact ⟨rfl, timed, rfl, rfl⟩

theorem arrived_of_decode {body : List UInt8} {event : Event} (read : decode body = .ok event) :
    event.Arrived := by
  unfold decode at read
  split at read
  next => cases read
  next message document =>
    obtain ⟨draft, arriving, finished⟩ := exists_draft_of_readDocument document
    obtain ⟨oldHeld, newHeld⟩ := values_of_finish finished
    obtain ⟨remote, timed, oldKept, newKept⟩ := of_toEvent read
    refine ⟨remote, Moment.whole_of_ofMicros? timed, ?_, ?_⟩
    · rw [oldKept, oldHeld]
      exact arriving.old
    · rw [newKept, newHeld]
      exact arriving.new

/-! ## Sent and received -/

theorem bind_delivered?_eq_filter (held : Option Value) :
    held.bind Value.delivered? = held.filter fun value => !value.isNull := by
  cases held with
  | none => rfl
  | some value => cases isNull : value.isNull <;> simp [Value.delivered?, Option.filter, isNull]

/-- What of an event is read again from its message. -/
structure Carried (sent : Event) (includeValues : Bool) (received : Event) : Prop where
  cache : received.cache = sent.cache
  key : received.key = sent.key
  kind : received.kind = sent.kind
  hash : received.hash = sent.hash
  origin : received.origin = .remoteNode
  /-- Cut towards zero, also before 1970. -/
  time : received.time = Int.tdiv sent.time 1000 * 1000
  old : received.old =
    if includeValues then sent.old.filter fun value => !value.isNull else none
  new : received.new =
    if includeValues then sent.new.filter fun value => !value.isNull else none

/-- An event of the calendar is written, with or without its values, and its message is read as the
same change.  Only the values that are sent have to be portable. -/
theorem carried_of_portable {event : Event} (dated : event.time.InCalendar) {includeValues : Bool}
    (portable : includeValues = true → event.isPortable = true) :
    ∃ body received,
      Codec.plain.encode event includeValues = .ok body ∧ decode body = .ok received ∧
        Carried event includeValues received := by
  have cut : event.micros = Int.tdiv event.time 1000 := Moment.toMicros_eq_tdiv dated
  refine ⟨_, _, rfl, decode_encode dated portable, ?_⟩
  cases includeValues with
  | true =>
      have oldCarried := bind_delivered?_eq_filter event.old
      have newCarried := bind_delivered?_eq_filter event.new
      exact ⟨rfl, rfl, rfl, rfl, rfl, congrArg (· * 1000) cut, oldCarried, newCarried⟩
  | false => exact ⟨rfl, rfl, rfl, rfl, rfl, congrArg (· * 1000) cut, rfl, rfl⟩

/-- A change of every entry, shortly before 1970.  One of its values is null. -/
def earlySample : Event where
  cache := "größe"
  key := .all
  kind := .updated
  time := -1500
  origin := .localNode
  old := some (Value.ofTree (.array [.null, .object [("ü", .ofInt (-7))]]))
  new := some Value.null

theorem carried_of_portable_early :
    earlySample.time.InCalendar ∧ earlySample.isPortable = true ∧
      ∃ body received,
        Codec.plain.encode earlySample true = .ok body ∧ decode body = .ok received ∧
          Carried earlySample true received :=
  have dated : earlySample.time.InCalendar := by decide
  have portable : earlySample.isPortable = true := by decide
  ⟨dated, portable, carried_of_portable dated fun _ => portable⟩

/-! ## Normal forms -/

/-- Whatever body an event was read from, its own message is read as that event again, and is the
message of what is read from it. -/
theorem encode_normal_of_decode {body : List UInt8} {event : Event}
    (read : decode body = .ok event) (integral : event.isIntegral = true) :
    ∃ normal,
      Codec.plain.encode event true = .ok normal ∧ decode normal = .ok event ∧
        (decode normal >>= fun again => Codec.plain.encode again true) = .ok normal := by
  have arrived := arrived_of_decode read
  have portable : event.isPortable = true := Event.isPortable_iff.2 ⟨integral, arrived.isShallow⟩
  have readAgain : decode (encode event true) = .ok event := by
    rw [decode_encode arrived.inCalendar fun _ => portable]
    exact congrArg Except.ok arrived.delivered
  refine ⟨encode event true, rfl, readAgain, ?_⟩
  rw [readAgain]
  rfl

/-- A body in an order of its own, with an escaped name, an unknown member and no key. -/
def spelledSample : List UInt8 :=
  Utf8.octets
    "\x7b\"time_us\" : -1,\"ty\\u0070e\":\"EXPIRED\",\"x\":[1.5,\x7b\x7d],\"v\":1,\n\"new\":null,
    \"old\":\x7b\"b\":1,\"a\":[null],\"b\":2\x7d,\"cache\":\"users\"\x7d "

theorem encode_normal_of_decode_spelled :
    ∃ event, decode spelledSample = .ok event ∧ event.isIntegral = true ∧
      ∃ normal,
        Codec.plain.encode event true = .ok normal ∧ decode normal = .ok event ∧
          (decode normal >>= fun again => Codec.plain.encode again true) = .ok normal := by
  have reads : (decode spelledSample).toOption.any Event.isIntegral = true := by decide +kernel
  cases read : decode spelledSample with
  | error fault =>
      rw [read] at reads
      cases reads
  | ok event =>
      rw [read] at reads
      exact ⟨event, rfl, reads, encode_normal_of_decode read reads⟩

end Wire

end CacheSync
