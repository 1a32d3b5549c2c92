import CacheSync.Wire.Message

/-!
# Decoding messages

A message is read in one pass.  Its members may come in any order, each known field once; members
of other names are passed over.  The fields may also stand in a row, an array in the order of
`Field.all`.  The version is looked at before the time.
-/

namespace CacheSync.Wire

open Json Json.Octet

/-- How many arrays and objects may nest inside a value of a message. -/
def valueDepth : Nat := 126

/-- The fields read so far. -/
structure Draft where
  version : Option Nat
  cache : Option String
  key : Option EntryKey
  kind : Option EventKind
  micros : Option Int
  old : Option (Option Value)
  new : Option (Option Value)

namespace Draft

def empty : Draft :=
  ⟨none, none, none, none, none, none, none⟩

def has (draft : Draft) : Field → Bool
  | .version => draft.version.isSome
  | .cache => draft.cache.isSome
  | .key => draft.key.isSome
  | .kind => draft.kind.isSome
  | .micros => draft.micros.isSome
  | .old => draft.old.isSome
  | .new => draft.new.isSome

end Draft

/-! ## Field values -/

def readInteger (least greatest : Int) (bytes : List UInt8) :
    Except Fault (Int × List UInt8) :=
  let checked : Number × List UInt8 → Except Fault (Int × List UInt8)
    | (.int n _, rest) => if least ≤ n ∧ n ≤ greatest then .ok (n, rest) else .error .unsuitable
    | (.float _ _, _) => .error .unsuitable
  match skipBlanks bytes with
  | [] => .error .ended
  | b :: rest =>
      if b = minus then (Number.read true rest).bind checked
      else if isDigit b then (Number.read false (b :: rest)).bind checked
      else .error (Reader.mismatch (b :: rest))

def readText (bytes : List UInt8) : Except Fault (String × List UInt8) :=
  match skipBlanks bytes with
  | [] => .error .ended
  | b :: rest => if b = quote then Text.read rest else .error (Reader.mismatch (b :: rest))

def readKey (bytes : List UInt8) : Except Fault (EntryKey × List UInt8) :=
  match skipBlanks bytes with
  | [] => .error .ended
  | b :: rest =>
      if b = Reader.letterN then (Reader.word Reader.nullTail rest).map fun rest => (.all, rest)
      else (readText (b :: rest)).map fun found => (.entry found.1, found.2)

/-- A value, or null for none. -/
def readValue (bytes : List UInt8) : Except Fault (Option Value × List UInt8) :=
  match skipBlanks bytes with
  | [] => .error .ended
  | b :: rest =>
      if b = Reader.letterN then (Reader.word Reader.nullTail rest).map fun rest => (none, rest)
      else
        (Reader.value valueDepth (b :: rest)).map fun found =>
          (some (Value.ofTree found.1), found.2)

def readKindName (bytes : List UInt8) : Except Fault (EventKind × List UInt8) := do
  let (name, rest) ← readText bytes
  match EventKind.ofName? name with
  | some kind => .ok (kind, rest)
  | none => .error .unsuitable

def readNull (bytes : List UInt8) : Except Fault (List UInt8) :=
  match skipBlanks bytes with
  | [] => .error .ended
  | b :: rest =>
      if b = Reader.letterN then Reader.word Reader.nullTail rest
      else .error (Reader.mismatch (b :: rest))

/-- The closing brace behind the only member of an object. -/
def readCloseBrace (bytes : List UInt8) : Except Fault (List UInt8) :=
  match skipBlanks bytes with
  | [] => .error .ended
  | b :: rest => if b = closeBrace then .ok rest else .error .malformed

/-- A kind of change: its name, or an object whose only member has that name and is null. -/
def readKind (bytes : List UInt8) : Except Fault (EventKind × List UInt8) :=
  match skipBlanks bytes with
  | [] => .error .ended
  | b :: rest =>
      if b = openBrace then do
        let (kind, rest) ← readKindName rest
        let rest ← Reader.afterColon rest
        let rest ← readNull rest
        let rest ← readCloseBrace rest
        .ok (kind, rest)
      else if b = quote then readKindName (b :: rest)
      else .error .malformed

def readField (draft : Draft) (field : Field) (bytes : List UInt8) :
    Except Fault (Draft × List UInt8) :=
  match field with
  | .version =>
      (readInteger 0 65535 bytes).map fun found =>
        ({ draft with version := some found.1.toNat }, found.2)
  | .cache => (readText bytes).map fun found => ({ draft with cache := some found.1 }, found.2)
  | .key => (readKey bytes).map fun found => ({ draft with key := some found.1 }, found.2)
  | .kind => (readKind bytes).map fun found => ({ draft with kind := some found.1 }, found.2)
  | .micros =>
      (readInteger Word.least Word.greatest bytes).map fun found =>
        ({ draft with micros := some found.1 }, found.2)
  | .old => (readValue bytes).map fun found => ({ draft with old := some found.1 }, found.2)
  | .new => (readValue bytes).map fun found => ({ draft with new := some found.1 }, found.2)

/-! ## Whole messages -/

def readMember (draft : Draft) (name : String) (bytes : List UInt8) :
    Except Fault (Draft × List UInt8) :=
  match Field.ofName? name with
  | none => do
      let rest ← Reader.afterColon bytes
      let rest ← Reader.skip rest
      .ok (draft, rest)
  | some field =>
      if draft.has field then .error .unsuitable
      else do
        let rest ← Reader.afterColon bytes
        readField draft field rest

/-- The members after the opening brace.  `bound` is at least the number of octets left. -/
def readMembers : (bound : Nat) → (first : Bool) → Draft → List UInt8 →
    Except Fault (Draft × List UInt8)
  | 0, _, _, _ => .error .ended
  | bound + 1, first, draft, bytes => do
      match ← Reader.nextName first bytes with
      | .closed rest => .ok (draft, rest)
      | .part bytes =>
          let (name, rest) ← Text.read bytes
          let (draft, rest) ← readMember draft name rest
          readMembers bound false draft rest

def readCloseBracket (bytes : List UInt8) : Except Fault (List UInt8) :=
  match skipBlanks bytes with
  | [] => .error .ended
  | b :: rest => if b = closeBracket then .ok rest else .error .malformed

def readRow : List Field → (first : Bool) → Draft → List UInt8 →
    Except Fault (Draft × List UInt8)
  | [], _, draft, bytes => (readCloseBracket bytes).map fun rest => (draft, rest)
  | field :: fields, first, draft, bytes => do
      match ← Reader.nextItem first bytes with
      | .closed rest => if field.mayEndRow then .ok (draft, rest) else .error .unsuitable
      | .part bytes =>
          let (draft, rest) ← readField draft field bytes
          readRow fields false draft rest

/-- A message with every field it must have. -/
structure Message where
  version : Nat
  cache : String
  key : EntryKey
  kind : EventKind
  micros : Int
  old : Option Value
  new : Option Value

/-- The message of a draft.  An absent key is the wildcard, an absent value is none; no other
field may be absent. -/
def Draft.finish (draft : Draft) : Except Fault Message :=
  match draft.version, draft.cache, draft.kind, draft.micros with
  | some version, some cache, some kind, some micros =>
      .ok ⟨version, cache, draft.key.getD .all, kind, micros, draft.old.join, draft.new.join⟩
  | _, _, _, _ => .error .unsuitable

def readMessage (bytes : List UInt8) : Except Fault (Message × List UInt8) :=
  match skipBlanks bytes with
  | [] => .error .ended
  | b :: rest =>
      if b = openBrace then do
        let (draft, rest) ← readMembers (rest.length + 1) true .empty rest
        let message ← draft.finish
        .ok (message, rest)
      else if b = openBracket then do
        let (draft, rest) ← readRow Field.all true .empty rest
        let message ← draft.finish
        .ok (message, rest)
      else .error (Reader.mismatch (b :: rest))

def readDocument (bytes : List UInt8) : Except Fault Message := do
  let (message, rest) ← readMessage bytes
  if (skipBlanks rest).isEmpty then .ok message else .error .malformed

/-- The event of a message.  Whoever receives it follows a change made elsewhere. -/
def Message.toEvent (message : Message) : Except CodecError Event :=
  if message.version ≠ Wire.version then
    .error (.unsupportedVersion message.version Wire.version)
  else
    match Moment.ofMicros? message.micros with
    | none => .error (.invalidTime message.micros)
    | some time =>
        .ok ⟨message.cache, message.key, message.kind, time, .remoteNode, message.old, message.new⟩

/-- The event that a body is the message of. -/
def decode (body : List UInt8) : Except CodecError Event :=
  match readDocument body with
  | .error fault => .error (.undecodable fault)
  | .ok message => message.toEvent

end CacheSync.Wire
