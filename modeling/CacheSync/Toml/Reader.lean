import CacheSync.Toml.Document
import CacheSync.Toml.Scalar

/-!
# Reading TOML

A file is read line by line.  Arrays and inline tables may reach over several lines and nest up to
a limit.  `readDocument?` gives the members of the table that a file describes, or nothing for a
text that is no TOML.
-/

namespace CacheSync.Toml

namespace Reader

/-! ## Keys -/

/-- The characters of a name without quotes. -/
def isBare (c : Char) : Bool :=
  c.isAlphanum || c == '_' || c == '-'

def name? (chars : List Char) : Option (String × List Char) :=
  let bare := chars.takeWhile isBare
  if bare.isEmpty then Text.readLine? chars
  else some (String.ofList bare, chars.dropWhile isBare)

/-- The names behind the first one of a key, each after a dot.  `bound` is more than the number of
characters left. -/
def moreNames? : (bound : Nat) → List Char → Option (List String × List Char)
  | 0, _ => none
  | bound + 1, chars =>
      match skipBlanks chars with
      | '.' :: rest => do
          let (name, rest) ← name? (skipBlanks rest)
          let (names, rest) ← moreNames? bound rest
          some (name :: names, rest)
      | rest => some ([], rest)

def key? (chars : List Char) : Option (Key × List Char) := do
  let (first, rest) ← name? (skipBlanks chars)
  let (names, rest) ← moreNames? (rest.length + 1) rest
  some (.ofNames first names, rest)

/-! ## Values -/

/-- Where the reader of an array or inline table stands at its next part. -/
inductive Next where
  | closed (rest : List Char)
  | part (chars : List Char)

/-- Go on to the next part before a closing bracket.  A comma stands between two parts, and may
stand behind the last. -/
def next? (close : Char) (first : Bool) (chars : List Char) : Option Next := do
  match ← skipLines false chars with
  | [] => none
  | c :: rest =>
      if c = close then some (.closed rest)
      else if first then some (.part (c :: rest))
      else if c = ',' then
        match ← skipLines false rest with
        | [] => none
        | d :: after => if d = close then some (.closed after) else some (.part (d :: after))
      else none

def items? (value : List Char → Option (Value × List Char)) :
    (bound : Nat) → (first : Bool) → List Char → Option (List Value × List Char)
  | 0, _, _ => none
  | bound + 1, first, chars => do
      match ← next? ']' first chars with
      | .closed rest => some ([], rest)
      | .part chars =>
          let (head, rest) ← value chars
          let (tail, rest) ← items? value bound false rest
          some (head :: tail, rest)

def assignment? (value : List Char → Option (Value × List Char)) (chars : List Char) :
    Option (Key × Value × List Char) := do
  let (key, rest) ← key? chars
  match rest with
  | '=' :: rest =>
      let (found, rest) ← value (skipBlanks rest)
      some (key, found, rest)
  | _ => none

/-- The members of an inline table after its opening brace, behind those that are there. -/
def members? (value : List Char → Option (Value × List Char)) :
    (bound : Nat) → (first : Bool) → Members → List Char → Option (Members × List Char)
  | 0, _, _, _ => none
  | bound + 1, first, members, chars => do
      match ← next? '}' first chars with
      | .closed rest => some (members, rest)
      | .part chars =>
          let (key, found, rest) ← assignment? value chars
          let (_, members) ← addEntry key found .inline members
          members? value bound false members rest

/-- A value that nests no other. -/
def scalar? (chars : List Char) : Option (Value × List Char) :=
  match chars with
  | [] => none
  | c :: _ =>
      if c = '"' ∨ c = '\x27' then (Text.read? chars).map fun (s, rest) => (.text s, rest)
      else Scalar.read? chars

/-- A value.  `depth` arrays and inline tables may stand inside each other. -/
def value? : (depth : Nat) → List Char → Option (Value × List Char)
  | 0, chars =>
      match chars with
      | '[' :: _ => none
      | '{' :: _ => none
      | _ => scalar? chars
  | depth + 1, chars =>
      match chars with
      | '[' :: rest => do
          let (found, rest) ← items? (value? depth) (rest.length + 1) true rest
          some (.array false found, rest)
      | '{' :: rest => do
          let (found, rest) ← members? (value? depth) (rest.length + 1) true [] rest
          some (.table .inline found, rest)
      | _ => scalar? chars

/-! ## Lines -/

/-- How deep arrays and inline tables may nest. -/
def nesting : Nat := 80

def header? (closing : List Char) (chars : List Char) : Option (Key × List Char) := do
  let (key, rest) ← key? chars
  if closing.isPrefixOf rest then some (key, rest.drop closing.length) else none

def statement? (chars : List Char) : Option (Statement × List Char) :=
  match chars with
  | '[' :: '[' :: rest => (header? [']', ']'] rest).map fun (key, rest) => (.item key, rest)
  | '[' :: rest => (header? [']'] rest).map fun (key, rest) => (.table key, rest)
  | _ => (assignment? (value? nesting) chars).map fun (key, value, rest) => (.entry key value, rest)

/-- Whether a line ends here, but for blanks and a comment. -/
def endsLine (chars : List Char) : Bool :=
  match skipBlanks chars with
  | [] => true
  | c :: rest => c == '#' || (afterLineEnd (c :: rest)).isSome

def statements? : (bound : Nat) → Document → List Char → Option Document
  | 0, _, _ => none
  | bound + 1, document, chars => do
      match ← skipLines false chars with
      | [] => some document
      | chars =>
          let (statement, rest) ← statement? chars
          let document ← document.add statement
          if endsLine rest then statements? bound document rest else none

/-- The text without a byte order mark in front. -/
def withoutMark : List Char → List Char
  | '\ufeff' :: rest => rest
  | chars => chars

end Reader

def readDocument? (text : String) : Option Members :=
  let chars := Reader.withoutMark text.toList
  (Reader.statements? (chars.length + 1) .empty chars).map (·.members)

end CacheSync.Toml
