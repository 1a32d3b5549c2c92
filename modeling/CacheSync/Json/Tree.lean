import CacheSync.Decimal.Binary64
import CacheSync.Word

/-!
# JSON trees

A `Tree` is what a JSON text says, with the members of an object in the order of the text.  Whole
numbers of the range `[-2 ^ 63, 2 ^ 64)` are integers, every other number is a finite
double-precision number, and the two kinds are never equal.
-/

namespace CacheSync.Json

/-- The whole numbers that are kept exactly. -/
def InIntegerRange (n : Int) : Prop :=
  Word.least ≤ n ∧ n < Word.bound

instance (n : Int) : Decidable (InIntegerRange n) :=
  inferInstanceAs (Decidable (_ ∧ _))

/-- A JSON number. -/
inductive Number where
  | int (n : Int) (inRange : InIntegerRange n)
  | float (x : Binary64) (finite : x.isFinite = true)
  deriving DecidableEq

namespace Number

/-- Equality of numbers: integers by value, floating-point numbers numerically, so that the two
zeros are equal. -/
def same : Number → Number → Bool
  | .int m _, .int n _ => m == n
  | .float x _, .float y _ => x.same y
  | _, _ => false

end Number

/-- A JSON text, read. -/
inductive Tree where
  | null
  | bool (b : Bool)
  | number (n : Number)
  | text (s : String)
  | array (items : List Tree)
  | object (members : List (String × Tree))
  deriving Inhabited

namespace Tree

/-- The integer `n` as a tree, or the nearest floating-point number outside the exact range. -/
def ofInt (n : Int) : Tree :=
  if inRange : InIntegerRange n then .number (.int n inRange)
  else
    let x := Binary64.ofInt n
    if finite : x.isFinite = true then .number (.float x finite) else .null

def ofNat (n : Nat) : Tree :=
  ofInt n

/-! ## Nesting -/

mutual

/-- How many arrays and objects stand inside each other at the deepest place. -/
def depth : Tree → Nat
  | .null => 0
  | .bool _ => 0
  | .number _ => 0
  | .text _ => 0
  | .array items => depthItems items + 1
  | .object members => depthMembers members + 1
termination_by structural tree => tree

def depthItems : List Tree → Nat
  | [] => 0
  | item :: rest => max (depth item) (depthItems rest)
termination_by structural items => items

def depthMembers : List (String × Tree) → Nat
  | [] => 0
  | member :: rest => max (depthMember member) (depthMembers rest)
termination_by structural members => members

def depthMember : String × Tree → Nat
  | (_, value) => depth value
termination_by structural member => member

end

/-! ## Equality -/

mutual

/-- Equality of trees whose objects list their members in one order. -/
def same : Tree → Tree → Bool
  | .null, .null => true
  | .bool a, .bool b => a == b
  | .number m, .number n => m.same n
  | .text a, .text b => a == b
  | .array items, .array others => sameItems items others
  | .object members, .object others => sameMembers members others
  | _, _ => false
termination_by structural tree => tree

def sameItems : List Tree → List Tree → Bool
  | [], [] => true
  | item :: rest, other :: others => same item other && sameItems rest others
  | _, _ => false
termination_by structural items => items

def sameMembers : List (String × Tree) → List (String × Tree) → Bool
  | [], [] => true
  | member :: rest, other :: others => sameMember member other && sameMembers rest others
  | _, _ => false
termination_by structural members => members

def sameMember : String × Tree → String × Tree → Bool
  | (name, value), (other, otherValue) => name == other && same value otherValue
termination_by structural member => member

end

/-! ## Members of an object -/

/-- The member of a name, if the tree is an object that has one. -/
def member? : Tree → String → Option Tree
  | .object members, name => (members.find? (·.1 == name)).map (·.2)
  | _, _ => none

end Tree
end CacheSync.Json
