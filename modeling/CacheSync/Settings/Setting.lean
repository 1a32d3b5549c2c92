import CacheSync.Decimal.Reader
import CacheSync.Toml.Value

/-!
# Settings as they are written

A setting comes from a file, where it has a type, or from the environment, where it is text.  What
it means depends on what is asked for: a number may be given as text, a truth value as a number,
and so on.  A conversion that makes no sense fails.
-/

namespace CacheSync

inductive Setting where
  /-- A place in a list that nothing has been put into. -/
  | unset
  | bool (b : Bool)
  | integer (n : Int)
  | float (x : Binary64)
  | text (s : String)
  | list (items : List Setting)
  | table (members : List (String × Setting))

namespace Setting

/-! ## Settings of a file -/

mutual

def ofToml : Toml.Value → Setting
  | .text s => .text s
  | .integer n => .integer n
  | .float x => .float x
  | .bool b => .bool b
  | .array _ items => .list (ofItems items)
  | .table _ members => .table (ofMembers members)
  termination_by structural value => value

def ofItems : List Toml.Value → List Setting
  | [] => []
  | head :: tail => ofToml head :: ofItems tail
  termination_by structural items => items

def ofMembers : List (String × Toml.Value) → List (String × Setting)
  | [] => []
  | (name, value) :: tail => (name, ofToml value) :: ofMembers tail
  termination_by structural members => members

end

/-! ## Conversions -/

def trueWords : List String := ["true", "on", "yes"]
def falseWords : List String := ["false", "off", "no"]

def truthOf? (s : String) : Option Bool :=
  let word := Text.foldCase s
  if trueWords.contains word then some true
  else if falseWords.contains word then some false
  else none

def text? : Setting → Option String
  | .text s => some s
  | .bool b => some (if b then "true" else "false")
  | .integer n => some (toString n)
  | .float x => some (String.ofList (Decimal.plain x))
  | _ => none

/-- A truth value.  A number is true unless it is zero. -/
def bool? : Setting → Option Bool
  | .bool b => some b
  | .integer n => some (n ≠ 0)
  | .float x => some (!x.isZero)
  | .text s =>
      if s = "1" then some true
      else if s = "0" then some false
      else truthOf? s
  | _ => none

/-- The count nearest to a floating-point number; a half goes up, and what lies out of range goes
to its end. -/
def countOfFloat (x : Binary64) : Nat :=
  if x.isNaN || x.negative then 0
  else if !x.isFinite then Word.bound - 1
  else
    let ratio := x.toRatio
    min (Word.bound - 1) ((2 * ratio.num + ratio.den) / (2 * ratio.den))

def count? : Setting → Option Nat
  | .integer n => if n < 0 then none else some n.toNat
  | .bool b => some b.toNat
  | .float x => some (countOfFloat x)
  | .text s =>
      match truthOf? s with
      | some b => some b.toNat
      | none => Decimal.countOf? s
  | _ => none

def float? : Setting → Option Binary64
  | .float x => some x
  | .integer n => some (.ofInt n)
  | .bool b => some (.ofNat b.toNat)
  | .text s =>
      match truthOf? s with
      | some b => some (.ofNat b.toNat)
      | none => Decimal.ofText? s
  | _ => none

def list? : Setting → Option (List Setting)
  | .list items => some items
  | _ => none

/-! ## Records -/

/-- The parts of a record: from a table under their names, or from a list in the order of the
record's fields. -/
def record? (fields : List String) : Setting → Option (List (String × Setting))
  | .table members => some members
  | .list items => some (fields.zip items)
  | _ => none

def optional? {α : Type} (read : Setting → Option α) (name : String)
    (parts : List (String × Setting)) : Option (Option α) :=
  match Table.lookup name parts with
  | none => some none
  | some .unset => some none
  | some setting => (read setting).map some

def part? {α : Type} (read : Setting → Option α) (default : α) (name : String)
    (parts : List (String × Setting)) : Option α :=
  match Table.lookup name parts with
  | none => some default
  | some setting => read setting

end Setting
end CacheSync
