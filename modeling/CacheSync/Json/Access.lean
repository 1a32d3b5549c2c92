import CacheSync.Json.Value

/-!
# Access to trees

Ways to take out of a tree what is expected there.  A member that is missing or of another kind is
answered by none, or by an empty text, list or object.
-/

namespace CacheSync.Json.Tree

/-! ## Kinds -/

def text? : Tree → Option String
  | .text s => some s
  | _ => none

def int? : Tree → Option Int
  | .number (.int n _) => some n
  | _ => none

def nat? (tree : Tree) : Option Nat :=
  tree.int?.map Int.toNat

def bool? : Tree → Option Bool
  | .bool b => some b
  | _ => none

def items : Tree → List Tree
  | .array items => items
  | _ => []

def members : Tree → List (String × Tree)
  | .object members => members
  | _ => []

/-! ## Members -/

/-- A member that is there and is not null. -/
def given? (tree : Tree) (name : String) : Option Tree :=
  match tree.member? name with
  | some .null => none
  | found => found

def textAt? (tree : Tree) (name : String) : Option String :=
  (tree.member? name).bind text?

def textAt (tree : Tree) (name : String) : String :=
  (tree.textAt? name).getD ""

def natAt? (tree : Tree) (name : String) : Option Nat :=
  (tree.member? name).bind nat?

def boolAt (tree : Tree) (name : String) (otherwise : Bool) : Bool :=
  ((tree.member? name).bind bool?).getD otherwise

def itemsAt (tree : Tree) (name : String) : List Tree :=
  ((tree.member? name).map items).getD []

def textsAt (tree : Tree) (name : String) : List String :=
  (tree.itemsAt name).filterMap text?

def objectAt (tree : Tree) (name : String) : Tree :=
  (tree.given? name).getD (.object [])

/-- The value of a member, if it is there. -/
def valueAt? (tree : Tree) (name : String) : Option Value :=
  (tree.member? name).map Value.ofTree

/-- The value of a member; a missing one is the JSON null. -/
def valueAt (tree : Tree) (name : String) : Value :=
  (tree.valueAt? name).getD .null

/-! ## Members at any depth -/

mutual

/-- The texts of all members of some names, at any depth, each with its name. -/
def textsNamed (names : List String) : Tree → List (String × String)
  | .array items => textsNamedItems names items
  | .object members => textsNamedMembers names members
  | _ => []
termination_by structural tree => tree

def textsNamedItems (names : List String) : List Tree → List (String × String)
  | [] => []
  | item :: rest => textsNamed names item ++ textsNamedItems names rest
termination_by structural items => items

def textsNamedMembers (names : List String) : List (String × Tree) → List (String × String)
  | [] => []
  | member :: rest => textsNamedMember names member ++ textsNamedMembers names rest
termination_by structural members => members

def textsNamedMember (names : List String) : String × Tree → List (String × String)
  | (name, value) =>
      let own :=
        if name ∈ names then value.text?.toList.map fun text => (name, text) else []
      own ++ textsNamed names value
termination_by structural member => member

end

end CacheSync.Json.Tree
