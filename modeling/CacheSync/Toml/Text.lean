/-!
# Texts in TOML

Strings come in four forms: between double quotes, where a backslash begins an escape, or between
single quotes, where every character stands for itself; and either on one line or, between tripled
quotes, on many.  A reader takes the characters that are left and returns what it found with the
characters behind it.
-/

namespace CacheSync.Toml

def isBlank (c : Char) : Bool :=
  c == ' ' || c == '\t'

/-- Control characters other than the tab stand nowhere in a file but in line ends. -/
def isControl (c : Char) : Bool :=
  (c.toNat < 0x20 && c != '\t') || c.toNat == 0x7F

/-- What follows a line end, if one comes first. -/
def afterLineEnd : List Char → Option (List Char)
  | '\n' :: rest => some rest
  | '\r' :: '\n' :: rest => some rest
  | _ => none

def skipBlanks (chars : List Char) : List Char :=
  chars.dropWhile isBlank

/-- Skip blanks, line ends and comments.  A comment reaches to the end of its line. -/
def skipLines : (inComment : Bool) → List Char → Option (List Char)
  | _, [] => some []
  | inComment, c :: rest =>
      if c = '\n' then skipLines false rest
      else if c = '\r' then if rest.head? = some '\n' then skipLines false rest else none
      else if inComment then if isControl c then none else skipLines true rest
      else if isBlank c then skipLines false rest
      else if c = '#' then skipLines true rest
      else some (c :: rest)

namespace Text

/-! ## Escapes -/

def hexValue? (c : Char) : Option Nat :=
  if '0' ≤ c ∧ c ≤ '9' then some (c.toNat - '0'.toNat)
  else if 'a' ≤ c ∧ c ≤ 'f' then some (c.toNat - 'a'.toNat + 10)
  else if 'A' ≤ c ∧ c ≤ 'F' then some (c.toNat - 'A'.toNat + 10)
  else none

/-- A number of hexadecimal digits behind those that make up `value`. -/
def readHex : (count value : Nat) → List Char → Option (Nat × List Char)
  | 0, value, rest => some (value, rest)
  | _ + 1, _, [] => none
  | count + 1, value, c :: rest => do
      let digit ← hexValue? c
      readHex count (16 * value + digit) rest

def codePoint? (n : Nat) : Option Char :=
  if n.isValidChar then some (Char.ofNat n) else none

def readCodePoint (count : Nat) (chars : List Char) : Option (Char × List Char) := do
  let (n, rest) ← readHex count 0 chars
  let c ← codePoint? n
  some (c, rest)

def shortEscape? (c : Char) : Option Char :=
  if c = 'b' then some '\x08'
  else if c = 't' then some '\t'
  else if c = 'n' then some '\n'
  else if c = 'f' then some '\x0c'
  else if c = 'r' then some '\r'
  else if c = 'e' then some '\x1b'
  else if c = '"' ∨ c = '\\' then some c
  else none

def readEscape : List Char → Option (Char × List Char)
  | [] => none
  | c :: rest =>
      if c = 'x' then readCodePoint 2 rest
      else if c = 'u' then readCodePoint 4 rest
      else if c = 'U' then readCodePoint 8 rest
      else (shortEscape? c).map (·, rest)

/-! ## Strings on one line -/

/-- The characters up to the closing double quote.  `bound` is more than the number of characters
left, and `found` holds what is read so far, last character first. -/
def readBasic : (bound : Nat) → (found chars : List Char) → Option (String × List Char)
  | 0, _, _ => none
  | _ + 1, _, [] => none
  | bound + 1, found, c :: rest =>
      if c = '"' then some (String.ofList found.reverse, rest)
      else if c = '\\' then
        match readEscape rest with
        | none => none
        | some (meant, rest) => readBasic bound (meant :: found) rest
      else if isControl c then none
      else readBasic bound (c :: found) rest

def readLiteral (chars : List Char) : Option (String × List Char) :=
  let body := chars.takeWhile (· != '\x27')
  match chars.dropWhile (· != '\x27') with
  | [] => none
  | _ :: rest => if body.any isControl then none else some (String.ofList body, rest)

/-! ## Strings on many lines -/

/-- What a run of quotes inside a string on many lines means. -/
inductive QuoteRun where
  /-- The quotes are characters of the string. -/
  | content
  /-- Three of the quotes close the string, and the others are its last characters. -/
  | closing (last : Nat)
  /-- There are too many quotes. -/
  | refused

def QuoteRun.ofLength (n : Nat) : QuoteRun :=
  if n < 3 then .content
  else if n ≤ 5 then .closing (n - 3)
  else .refused

def skipBreaks : List Char → List Char
  | [] => []
  | c :: rest =>
      if isBlank c || c == '\n' || (c == '\r' && rest.head? == some '\n') then skipBreaks rest
      else c :: rest

/-- A line break that is escaped by the backslash before it vanishes with the blanks and line
breaks behind it. -/
def afterEscapedBreak (chars : List Char) : Option (List Char) :=
  (afterLineEnd (skipBlanks chars)).map skipBreaks

/-- The characters up to the closing quotes.  `escapes` tells whether a backslash begins an
escape, and every line end counts as a line feed. -/
def readLines (quote : Char) (escapes : Bool) :
    (bound : Nat) → (found chars : List Char) → Option (String × List Char)
  | 0, _, _ => none
  | _ + 1, _, [] => none
  | bound + 1, found, c :: rest =>
      if c = quote then
        let run := (c :: rest).takeWhile (· == quote)
        let behind := (c :: rest).dropWhile (· == quote)
        match QuoteRun.ofLength run.length with
        | .content => readLines quote escapes bound (run ++ found) behind
        | .closing last => some (String.ofList (List.replicate last quote ++ found).reverse, behind)
        | .refused => none
      else if escapes && c == '\\' then
        match afterEscapedBreak rest with
        | some rest => readLines quote escapes bound found rest
        | none =>
            match readEscape rest with
            | none => none
            | some (meant, rest) => readLines quote escapes bound (meant :: found) rest
      else
        match afterLineEnd (c :: rest) with
        | some rest => readLines quote escapes bound ('\n' :: found) rest
        | none => if isControl c then none else readLines quote escapes bound (c :: found) rest

/-- A string on many lines after its opening quotes.  A line end right behind them is no part of
the string. -/
def readBlock (quote : Char) (escapes : Bool) (chars : List Char) : Option (String × List Char) :=
  let body := (afterLineEnd chars).getD chars
  readLines quote escapes (body.length + 1) [] body

/-! ## Strings of any form -/

/-- A string on one line, if the text begins with one. -/
def readLine? (chars : List Char) : Option (String × List Char) :=
  match chars with
  | '"' :: rest => readBasic (rest.length + 1) [] rest
  | '\x27' :: rest => readLiteral rest
  | _ => none

/-- A string, if the text begins with one. -/
def read? (chars : List Char) : Option (String × List Char) :=
  match chars with
  | '"' :: '"' :: '"' :: rest => readBlock '"' true rest
  | '\x27' :: '\x27' :: '\x27' :: rest => readBlock '\x27' false rest
  | _ => readLine? chars

example : read? "\"a\\u0062\" ".toList = some ("ab", [' ']) := by decide +kernel
example : read? "'''\r\na''b'''''".toList = some ("a''b''", []) := by decide +kernel

end Text
end CacheSync.Toml
