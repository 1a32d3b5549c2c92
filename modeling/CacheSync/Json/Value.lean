import CacheSync.Json.Tree

/-!
# JSON values

A `Value` is a JSON tree in canonical form: every object lists its members by name in strictly
increasing order of code points.  Two values say the same thing exactly when their trees agree,
so a value is what a cache stores and what two nodes compare.

`Value.ofTree` sorts the members of every object and keeps the last of several members of one
name.  It leaves a canonical tree as it is.
-/

namespace CacheSync.Json

namespace Tree

/-! ## Canonical form -/

mutual

/-- Every object lists its members in strictly increasing order of their names. -/
def Sorted : Tree → Prop
  | .null => True
  | .bool _ => True
  | .number _ => True
  | .text _ => True
  | .array items => SortedItems items
  | .object members => (members.map (·.1)).Pairwise (· < ·) ∧ SortedMembers members
termination_by structural tree => tree

def SortedItems : List Tree → Prop
  | [] => True
  | item :: rest => Sorted item ∧ SortedItems rest
termination_by structural items => items

def SortedMembers : List (String × Tree) → Prop
  | [] => True
  | member :: rest => SortedMember member ∧ SortedMembers rest
termination_by structural members => members

def SortedMember : String × Tree → Prop
  | (_, value) => Sorted value
termination_by structural member => member

end

/-- Put a member at its place among members in increasing order, unless its name is there. -/
def addMember (name : String) (value : Tree) : List (String × Tree) → List (String × Tree)
  | [] => [(name, value)]
  | (other, kept) :: rest =>
      if name < other then (name, value) :: (other, kept) :: rest
      else if name = other then (other, kept) :: rest
      else (other, kept) :: addMember name value rest

mutual

/-- The canonical tree that says the same. -/
def canonical : Tree → Tree
  | .null => .null
  | .bool b => .bool b
  | .number n => .number n
  | .text s => .text s
  | .array items => .array (canonicalItems items)
  | .object members => .object (canonicalMembers members)
termination_by structural tree => tree

def canonicalItems : List Tree → List Tree
  | [] => []
  | item :: rest => canonical item :: canonicalItems rest
termination_by structural items => items

/-- Members are put in place from the last to the first, so the last one of a name stays. -/
def canonicalMembers : List (String × Tree) → List (String × Tree)
  | [] => []
  | member :: rest =>
      let kept := canonicalMember member
      addMember kept.1 kept.2 (canonicalMembers rest)
termination_by structural members => members

def canonicalMember : String × Tree → String × Tree
  | (name, value) => (name, canonical value)
termination_by structural member => member

end

/-! ## The canonical tree is sorted -/

theorem mem_addMember {name : String} {value : Tree} {members : List (String × Tree)}
    {found : String} (present : found ∈ (addMember name value members).map (·.1)) :
    found = name ∨ found ∈ members.map (·.1) := by
  induction members with
  | nil => simpa [addMember] using present
  | cons member rest inductionHypothesis =>
      obtain ⟨other, kept⟩ := member
      unfold addMember at present
      split at present
      · simpa using present
      · split at present
        · exact Or.inr present
        · simp only [List.map_cons, List.mem_cons] at present ⊢
          rcases present with rfl | later
          · exact Or.inr (Or.inl rfl)
          · rcases inductionHypothesis later with new | old
            · exact Or.inl new
            · exact Or.inr (Or.inr old)

theorem pairwise_addMember {name : String} {value : Tree} {members : List (String × Tree)}
    (sorted : (members.map (·.1)).Pairwise (· < ·)) :
    ((addMember name value members).map (·.1)).Pairwise (· < ·) := by
  induction members with
  | nil => simp [addMember]
  | cons member rest inductionHypothesis =>
      obtain ⟨other, kept⟩ := member
      simp only [List.map_cons, List.pairwise_cons] at sorted
      unfold addMember
      split
      next before =>
        simp only [List.map_cons, List.pairwise_cons, List.mem_cons]
        refine ⟨?_, sorted.1, sorted.2⟩
        intro found present
        rcases present with rfl | later
        · exact before
        · exact String.lt_trans before (sorted.1 found later)
      next notBefore =>
        split
        next same => simpa using sorted
        next different =>
          simp only [List.map_cons, List.pairwise_cons]
          refine ⟨?_, inductionHypothesis sorted.2⟩
          intro found present
          rcases mem_addMember present with rfl | old
          · exact String.not_le.1 fun notAfter =>
              different (String.le_antisymm notAfter (String.not_lt.1 notBefore))
          · exact sorted.1 found old

theorem sortedMembers_addMember {name : String} {value : Tree} {members : List (String × Tree)}
    (sortedValue : value.Sorted) (sorted : SortedMembers members) :
    SortedMembers (addMember name value members) := by
  induction members with
  | nil => exact ⟨sortedValue, trivial⟩
  | cons member rest inductionHypothesis =>
      obtain ⟨other, kept⟩ := member
      unfold addMember
      split
      · exact ⟨sortedValue, sorted⟩
      · split
        · exact sorted
        · exact ⟨sorted.1, inductionHypothesis sorted.2⟩

mutual

theorem sorted_canonical : (tree : Tree) → tree.canonical.Sorted
  | .null => trivial
  | .bool _ => trivial
  | .number _ => trivial
  | .text _ => trivial
  | .array items => sortedItems_canonicalItems items
  | .object members => sortedMembers_canonicalMembers members
termination_by structural tree => tree

theorem sortedItems_canonicalItems : (items : List Tree) → SortedItems (canonicalItems items)
  | [] => trivial
  | item :: rest => ⟨sorted_canonical item, sortedItems_canonicalItems rest⟩
termination_by structural items => items

theorem sortedMembers_canonicalMembers : (members : List (String × Tree)) →
    ((canonicalMembers members).map (·.1)).Pairwise (· < ·) ∧
      SortedMembers (canonicalMembers members)
  | [] => ⟨List.Pairwise.nil, trivial⟩
  | member :: rest =>
      have ih := sortedMembers_canonicalMembers rest
      ⟨pairwise_addMember ih.1, sortedMembers_addMember (sortedMember_canonicalMember member) ih.2⟩
termination_by structural members => members

theorem sortedMember_canonicalMember : (member : String × Tree) →
    (canonicalMember member).2.Sorted
  | (_, value) => sorted_canonical value
termination_by structural member => member

end

end Tree

/-- A JSON value: a tree in canonical form. -/
structure Value where
  tree : Tree
  sorted : tree.Sorted

namespace Value

def ofTree (tree : Tree) : Value :=
  ⟨tree.canonical, tree.sorted_canonical⟩

instance : Inhabited Value :=
  ⟨ofTree .null⟩

def null : Value :=
  ofTree .null

def text (s : String) : Value :=
  ofTree (.text s)

def depth (value : Value) : Nat :=
  value.tree.depth

def same (value other : Value) : Bool :=
  value.tree.same other.tree

def isNull (value : Value) : Bool :=
  match value.tree with
  | .null => true
  | _ => false

instance : BEq Value :=
  ⟨same⟩

end Value
end CacheSync.Json
