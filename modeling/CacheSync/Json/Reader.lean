import CacheSync.Json.Text

/-!
# Reading JSON

A text is read octet by octet and the first fault met is the answer.  `Reader.value` reads a
value that is kept, with a limit on its nesting; `Reader.skip` passes over a value of any nesting
and looks at its grammar only.
-/

namespace CacheSync.Json.Reader

open Octet

def word : (wanted bytes : List UInt8) → Except Fault (List UInt8)
  | [], bytes => .ok bytes
  | _ :: _, [] => .error .ended
  | w :: wanted, b :: rest => if b = w then word wanted rest else .error .malformed

/-- The letters after the first of `null`, `true` and `false`. -/
def nullTail : List UInt8 := [0x75, 0x6C, 0x6C]
def trueTail : List UInt8 := [0x72, 0x75, 0x65]
def falseTail : List UInt8 := [0x61, 0x6C, 0x73, 0x65]

def letterN : UInt8 := 0x6E
def letterT : UInt8 := 0x74
def letterF : UInt8 := 0x66

def afterColon (bytes : List UInt8) : Except Fault (List UInt8) :=
  match skipBlanks bytes with
  | [] => .error .ended
  | b :: rest => if b = colon then .ok rest else .error .malformed

/-! ## Sequences of members and items -/

/-- Where the reader of an array or object stands at its next part. -/
inductive Next where
  /-- The closing bracket was met; the text behind it follows. -/
  | closed (rest : List UInt8)
  /-- A part begins here, blanks skipped. -/
  | part (bytes : List UInt8)

/-- Go on to the next item of an array: a comma stands between two items, none stands before the
first or behind the last. -/
def nextItem (first : Bool) (bytes : List UInt8) : Except Fault Next :=
  match skipBlanks bytes with
  | [] => .error .ended
  | b :: rest =>
      if b = closeBracket then .ok (.closed rest)
      else if first then .ok (.part (b :: rest))
      else if b = comma then
        match skipBlanks rest with
        | [] => .error .ended
        | c :: after => if c = closeBracket then .error .malformed else .ok (.part (c :: after))
      else .error .malformed

/-- Go on to the next name of an object; the text returned begins after its opening quote. -/
def nextName (first : Bool) (bytes : List UInt8) : Except Fault Next :=
  match skipBlanks bytes with
  | [] => .error .ended
  | b :: rest =>
      if b = closeBrace then .ok (.closed rest)
      else if first then
        if b = quote then .ok (.part rest) else .error .malformed
      else if b = comma then
        match skipBlanks rest with
        | [] => .error .ended
        | c :: after => if c = quote then .ok (.part after) else .error .malformed
      else .error .malformed

/-- The items of an array after its opening bracket.  `item` reads one of them, and `bound` is at
least the number of octets left. -/
def items (item : List UInt8 → Except Fault (Tree × List UInt8)) :
    (bound : Nat) → (first : Bool) → List UInt8 → Except Fault (List Tree × List UInt8)
  | 0, _, _ => .error .ended
  | bound + 1, first, bytes => do
      match ← nextItem first bytes with
      | .closed rest => .ok ([], rest)
      | .part bytes =>
          let (head, rest) ← item bytes
          let (tail, rest) ← items item bound false rest
          .ok (head :: tail, rest)

def members (item : List UInt8 → Except Fault (Tree × List UInt8)) :
    (bound : Nat) → (first : Bool) → List UInt8 → Except Fault (List (String × Tree) × List UInt8)
  | 0, _, _ => .error .ended
  | bound + 1, first, bytes => do
      match ← nextName first bytes with
      | .closed rest => .ok ([], rest)
      | .part bytes =>
          let (name, rest) ← Text.read bytes
          let rest ← afterColon rest
          let (value, rest) ← item rest
          let (tail, rest) ← members item bound false rest
          .ok ((name, value) :: tail, rest)

/-! ## Values -/

/-- A value that nests no array or object: what begins with `b` and goes on with `rest`. -/
def scalar (b : UInt8) (rest : List UInt8) : Except Fault (Tree × List UInt8) :=
  if b = letterN then do .ok (.null, ← word nullTail rest)
  else if b = letterT then do .ok (.bool true, ← word trueTail rest)
  else if b = letterF then do .ok (.bool false, ← word falseTail rest)
  else if b = minus then do
    let (n, rest) ← Number.read true rest
    .ok (.number n, rest)
  else if isDigit b then do
    let (n, rest) ← Number.read false (b :: rest)
    .ok (.number n, rest)
  else if b = quote then do
    let (s, rest) ← Text.read rest
    .ok (.text s, rest)
  else .error .malformed

/-- A value.  `depth` arrays and objects may stand inside each other. -/
def value : (depth : Nat) → List UInt8 → Except Fault (Tree × List UInt8)
  | 0, bytes =>
      match skipBlanks bytes with
      | [] => .error .ended
      | b :: rest => scalar b rest
  | depth + 1, bytes =>
      match skipBlanks bytes with
      | [] => .error .ended
      | b :: rest =>
          if b = openBracket then do
            let (found, rest) ← items (value depth) (rest.length + 1) true rest
            .ok (.array found, rest)
          else if b = openBrace then do
            let (found, rest) ← members (value depth) (rest.length + 1) true rest
            .ok (.object found, rest)
          else scalar b rest

def document (depth : Nat) (bytes : List UInt8) : Except Fault Tree := do
  let (tree, rest) ← value depth bytes
  if (skipBlanks rest).isEmpty then .ok tree else .error .malformed

/-! ## Values that are not kept -/

/-- What encloses the place a reader stands at. -/
inductive Enclosure where
  | array
  | object
  deriving DecidableEq

/-- What the reader of an unkept value waits for. -/
inductive Awaited where
  /-- A value. -/
  | value
  /-- A closing bracket, or a part; after a part, a comma comes before the next one. -/
  | close (afterPart : Bool)

def skipName (bytes : List UInt8) : Except Fault (List UInt8) :=
  match skipBlanks bytes with
  | [] => .error .ended
  | b :: rest =>
      if b = quote then
        match Text.skip rest with
        | .error fault => .error fault
        | .ok rest => afterColon rest
      else .error .malformed

/-- A scalar that begins with `b`, passed over. -/
def skipScalar (b : UInt8) (rest : List UInt8) : Except Fault (List UInt8) :=
  if b = letterN then word nullTail rest
  else if b = letterT then word trueTail rest
  else if b = letterF then word falseTail rest
  else if b = minus then Number.skip rest
  else if isDigit b then Number.skip (b :: rest)
  else if b = quote then Text.skip rest
  else .error .malformed

def enterPart (inside : Enclosure) (bytes : List UInt8) : Except Fault (List UInt8) :=
  match inside with
  | .array => .ok bytes
  | .object => skipName bytes

/-- Pass over a value inside a stack of enclosures, to the end of the outermost one.  `bound` is
more than twice the number of octets left. -/
def skipWithin : (bound : Nat) → Awaited → List Enclosure → List UInt8 → Except Fault (List UInt8)
  | 0, _, _, _ => .error .ended
  | bound + 1, .value, stack, bytes =>
      match skipBlanks bytes with
      | [] => .error .ended
      | b :: rest =>
          if b = openBracket then skipWithin bound (.close false) (.array :: stack) rest
          else if b = openBrace then skipWithin bound (.close false) (.object :: stack) rest
          else
            match skipScalar b rest with
            | .error fault => .error fault
            | .ok rest =>
                if stack.isEmpty then .ok rest else skipWithin bound (.close true) stack rest
  | _ + 1, .close _, [], bytes => .ok bytes
  | bound + 1, .close afterPart, inside :: stack, bytes =>
      match skipBlanks bytes with
      | [] => .error .ended
      | b :: rest =>
          let closes : Bool :=
            match inside with
            | .array => b == closeBracket
            | .object => b == closeBrace
          if closes then
            if stack.isEmpty then .ok rest else skipWithin bound (.close true) stack rest
          else if afterPart then
            if b = comma then
              match enterPart inside rest with
              | .error fault => .error fault
              | .ok rest => skipWithin bound .value (inside :: stack) rest
            else .error .malformed
          else
            match enterPart inside (b :: rest) with
            | .error fault => .error fault
            | .ok rest => skipWithin bound .value (inside :: stack) rest

def skip (bytes : List UInt8) : Except Fault (List UInt8) :=
  skipWithin (2 * bytes.length + 2) .value [] bytes

/-! ## Values of a wrong kind -/

/-- The fault of a value that is not of the kind asked for.  A scalar is read first, since a fault
inside it comes before its kind. -/
def mismatch (bytes : List UInt8) : Fault :=
  match skipBlanks bytes with
  | [] => .ended
  | b :: rest =>
      if b = openBracket ∨ b = openBrace then .unsuitable
      else
        match scalar b rest with
        | .error fault => fault
        | .ok _ => .unsuitable

end CacheSync.Json.Reader
