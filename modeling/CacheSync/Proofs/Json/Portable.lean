import CacheSync.Wire.Decode

/-!
# Portable values

A value is portable if its numbers are integers and it nests no deeper than the values of a message
may.  Portable values can be sent in a message and are read back as they are, which
`CacheSync.Proofs.Wire.RoundTrip` shows.
-/

namespace CacheSync.Json

namespace Number

def isInteger : Number → Bool
  | .int _ _ => true
  | .float _ _ => false

theorem same_self_of_isInteger {n : Number} (integer : n.isInteger = true) : n.same n = true := by
  cases n with
  | int n inRange => simp [same]
  | float x finite => cases integer

end Number

namespace Tree

mutual

/-- Whether every number in a tree is an integer. -/
def isIntegral : Tree → Bool
  | .null => true
  | .bool _ => true
  | .number n => n.isInteger
  | .text _ => true
  | .array items => isIntegralItems items
  | .object members => isIntegralMembers members
termination_by structural tree => tree

def isIntegralItems : List Tree → Bool
  | [] => true
  | item :: rest => isIntegral item && isIntegralItems rest
termination_by structural items => items

def isIntegralMembers : List (String × Tree) → Bool
  | [] => true
  | member :: rest => isIntegralMember member && isIntegralMembers rest
termination_by structural members => members

def isIntegralMember : String × Tree → Bool
  | (_, value) => isIntegral value
termination_by structural member => member

end

mutual

theorem same_self : (tree : Tree) → tree.isIntegral = true → tree.same tree = true
  | .null, _ => rfl
  | .bool _, _ => by simp [same]
  | .number _, integral => Number.same_self_of_isInteger integral
  | .text _, _ => by simp [same]
  | .array items, integral => sameItems_self items integral
  | .object members, integral => sameMembers_self members integral
termination_by structural tree => tree

theorem sameItems_self : (items : List Tree) → isIntegralItems items = true →
    sameItems items items = true
  | [], _ => rfl
  | item :: rest, integral => by
      simp only [isIntegralItems, Bool.and_eq_true] at integral
      simp only [sameItems, Bool.and_eq_true]
      exact ⟨same_self item integral.1, sameItems_self rest integral.2⟩
termination_by structural items => items

theorem sameMembers_self : (members : List (String × Tree)) → isIntegralMembers members = true →
    sameMembers members members = true
  | [], _ => rfl
  | member :: rest, integral => by
      simp only [isIntegralMembers, Bool.and_eq_true] at integral
      simp only [sameMembers, Bool.and_eq_true]
      exact ⟨sameMember_self member integral.1, sameMembers_self rest integral.2⟩
termination_by structural members => members

theorem sameMember_self : (member : String × Tree) → isIntegralMember member = true →
    sameMember member member = true
  | (name, value), integral => by
      simp only [sameMember, Bool.and_eq_true, beq_self_eq_true, true_and]
      exact same_self value integral
termination_by structural member => member

end

/-! ## Sorted trees are canonical -/

theorem addMember_of_lt {name : String} {value : Tree} {members : List (String × Tree)}
    (first : ∀ other ∈ members.map (·.1), name < other) :
    addMember name value members = (name, value) :: members := by
  cases members with
  | nil => rfl
  | cons member rest =>
      have before : name < member.1 := first member.1 (by simp)
      simp [addMember, before]

mutual

theorem canonical_of_sorted : (tree : Tree) → tree.Sorted → tree.canonical = tree
  | .null, _ => rfl
  | .bool _, _ => rfl
  | .number _, _ => rfl
  | .text _, _ => rfl
  | .array items, sorted => congrArg Tree.array (canonicalItems_of_sorted items sorted)
  | .object members, sorted =>
      congrArg Tree.object (canonicalMembers_of_sorted members sorted.1 sorted.2)
termination_by structural tree => tree

theorem canonicalItems_of_sorted : (items : List Tree) → SortedItems items →
    canonicalItems items = items
  | [], _ => rfl
  | item :: rest, sorted => by
      rw [canonicalItems, canonical_of_sorted item sorted.1, canonicalItems_of_sorted rest sorted.2]
termination_by structural items => items

theorem canonicalMembers_of_sorted : (members : List (String × Tree)) →
    (members.map (·.1)).Pairwise (· < ·) → SortedMembers members →
    canonicalMembers members = members
  | [], _, _ => rfl
  | member :: rest, increasing, sorted => by
      simp only [List.map_cons, List.pairwise_cons] at increasing
      rw [canonicalMembers, canonicalMember_of_sorted member sorted.1,
        canonicalMembers_of_sorted rest increasing.2 sorted.2]
      exact addMember_of_lt increasing.1
termination_by structural members => members

theorem canonicalMember_of_sorted : (member : String × Tree) → SortedMember member →
    canonicalMember member = member
  | (name, value), sorted => congrArg (Prod.mk name) (canonical_of_sorted value sorted)
termination_by structural member => member

end

end Tree

namespace Value

/-- Whether a value can be sent in a message and read back as it is. -/
def isPortable (value : Value) : Bool :=
  value.tree.isIntegral && decide (value.depth ≤ Wire.valueDepth)

theorem isPortable_iff {value : Value} :
    value.isPortable = true ↔ value.tree.isIntegral = true ∧ value.depth ≤ Wire.valueDepth := by
  simp [isPortable]

theorem same_self {value : Value} (portable : value.isPortable = true) :
    value.same value = true :=
  Tree.same_self value.tree (isPortable_iff.1 portable).1

@[simp]
theorem ofTree_tree (value : Value) : ofTree value.tree = value := by
  cases value with
  | mk tree sorted => simp [ofTree, Tree.canonical_of_sorted tree sorted]

end Value

end CacheSync.Json
