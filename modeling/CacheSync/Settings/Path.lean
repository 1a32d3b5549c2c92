import CacheSync.Settings.Setting

/-!
# Paths to settings

A path names a setting inside a table of settings: a name, then names behind points and positions
between brackets.  Setting a table adds its members to those that are there, one by one; any other
setting replaces what was there.
-/

namespace CacheSync

/-- A step of a path. -/
inductive Setting.Step where
  | name (s : String)
  /-- A position in a list; a negative one counts from the end. -/
  | position (n : Int)

structure Setting.Path where
  root : String
  steps : List Setting.Step

namespace Setting

/-! ## Written paths -/

namespace Path

def isNameChar (c : Char) : Bool :=
  c.isAlphanum || c == '_' || c == '-'

def name? (chars : List Char) : Option (String × List Char) :=
  let found := chars.takeWhile isNameChar
  if found.isEmpty then none else some (String.ofList found, chars.dropWhile isNameChar)

def skipBlanks (chars : List Char) : List Char :=
  chars.dropWhile fun c => c == ' ' || c == '\t'

/-- A position up to its closing bracket; it fits 64 bits. -/
def position? (chars : List Char) : Option (Int × List Char) :=
  let (negative, rest) :=
    match skipBlanks chars with
    | '-' :: rest => (true, rest)
    | rest => (false, rest)
  let (digits, rest) := Decimal.spanDigits rest
  let value : Int := Decimal.digitsValue digits
  let n := if negative then -value else value
  match digits, skipBlanks rest with
  | _ :: _, ']' :: rest =>
      if Word.fits n then some (n, rest) else none
  | _, _ => none

/-- Steps up to the end of a text.  `bound` is more than the number of characters left. -/
def steps? : (bound : Nat) → List Char → Option (List Step)
  | 0, _ => none
  | _ + 1, [] => some []
  | bound + 1, '.' :: rest => do
      let (name, rest) ← name? rest
      let steps ← steps? bound rest
      some (.name name :: steps)
  | bound + 1, '[' :: rest => do
      let (n, rest) ← position? rest
      let steps ← steps? bound rest
      some (.position n :: steps)
  | _ + 1, _ => none

/-- The path that a text describes, if it describes one. -/
def parse? (text : String) : Option Path := do
  let (root, rest) ← name? text.toList
  let steps ← steps? (rest.length + 1) rest
  some ⟨root, steps⟩

/-- The path that a text describes.  A text that describes none is a name by itself. -/
def ofText (text : String) : Path :=
  (parse? text).getD ⟨text, []⟩

end Path

/-! ## Changes -/

/-- The members of a table; there are none in anything else. -/
def members : Setting → List (String × Setting)
  | .table members => members
  | _ => []

/-- The items of a list; there are none in anything else. -/
def items : Setting → List Setting
  | .list items => items
  | _ => []

mutual

/-- Put a setting in the place of another: a table adds its members to those of the other. -/
def replace : (new old : Setting) → Setting
  | .table added, old => .table (addMembers added old.members)
  | .unset, _ => .unset
  | .bool b, _ => .bool b
  | .integer n, _ => .integer n
  | .float x, _ => .float x
  | .text s, _ => .text s
  | .list items, _ => .list items
  termination_by structural new => new

def addMembers : (added members : List (String × Setting)) → List (String × Setting)
  | [], members => members
  | (name, new) :: added, members =>
      let old := (Table.lookup name members).getD .unset
      addMembers added (Table.put name (replace new old) members)
  termination_by structural added => added

end

/-- Make room in a list for a position: the list, lengthened if needed, and where the position
is. -/
def reach (n : Int) (items : List Setting) : List Setting × Nat :=
  if 0 ≤ n then (items ++ List.replicate (n.toNat + 1 - items.length) .unset, n.toNat)
  else if n.natAbs ≤ items.length then (items, items.length - n.natAbs)
  else (List.replicate (n.natAbs - items.length) .unset ++ items, 0)

/-- Change the setting that steps lead to.  What is no table or list where the path needs one is
replaced by one. -/
def changeAt (change : Setting → Setting) : List Step → Setting → Setting
  | [], setting => change setting
  | .name name :: steps, setting =>
      let old := (Table.lookup name setting.members).getD .unset
      .table (Table.put name (changeAt change steps old) setting.members)
  | .position n :: steps, setting =>
      let (items, index) := reach n setting.items
      .list (items.modify index (changeAt change steps))

def set (path : Path) (new base : Setting) : Setting :=
  changeAt (replace new) (.name path.root :: path.steps) base

def overlay (base : Setting) (layer : List (String × Setting)) : Setting :=
  layer.foldl (fun base (name, new) => set (.ofText name) new base) base

end Setting
end CacheSync
