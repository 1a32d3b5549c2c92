import CacheSync.Proofs.Json.Skipping

/-!
# Reading values as they are spelled

A spelled value is read as what it says, if it says something and nests no deeper than the limit;
otherwise reading it fails: `Reader.value_reads`.  White space in front of a value, an item or a
member changes nothing.
-/

namespace CacheSync.Json

open Octet

namespace Reader

variable {depth : Nat} {rest : List UInt8}

/-! ## White space -/

theorem value_blanks (blanks : Blanks) (depth : Nat) (bytes : List UInt8) :
    value depth (blanks.octets ++ bytes) = value depth bytes := by
  cases depth <;> simp only [value, Blanks.skip_append]

theorem nextItem_blanks (blanks : Blanks) (first : Bool) (bytes : List UInt8) :
    nextItem first (blanks.octets ++ bytes) = nextItem first bytes := by
  simp only [nextItem, Blanks.skip_append]

theorem nextName_blanks (blanks : Blanks) (first : Bool) (bytes : List UInt8) :
    nextName first (blanks.octets ++ bytes) = nextName first bytes := by
  simp only [nextName, Blanks.skip_append]

theorem items_blanks (item : List UInt8 → Except Fault (Tree × List UInt8)) (blanks : Blanks)
    (bound : Nat) (first : Bool) (bytes : List UInt8) :
    items item bound first (blanks.octets ++ bytes) = items item bound first bytes := by
  cases bound with
  | zero => rfl
  | succ bound => simp only [items, nextItem_blanks]

theorem members_blanks (item : List UInt8 → Except Fault (Tree × List UInt8)) (blanks : Blanks)
    (bound : Nat) (first : Bool) (bytes : List UInt8) :
    members item bound first (blanks.octets ++ bytes) = members item bound first bytes := by
  cases bound with
  | zero => rfl
  | succ bound => simp only [members, nextName_blanks]

/-! ## The next part -/

theorem nextItem_last (last : Blanks) (first : Bool) (rest : List UInt8) :
    nextItem first (last.octets ++ closeBracket :: rest) = .ok (.closed rest) := by
  simp only [nextItem, Blanks.skip_append, skipBlanks_cons (b := closeBracket) (by decide),
    ↓reduceIte]

theorem nextItem_cons (item : Item Spelling) (others : List (Item Spelling)) (first : Bool)
    (rest : List UInt8) :
    nextItem first (Spelling.itemsOctets first (item :: others) ++ rest) =
      .ok (.part (item.value.octets ++
        (item.after.octets ++ (Spelling.itemsOctets false others ++ rest)))) := by
  obtain ⟨before, value, after⟩ := item
  obtain ⟨b, tail, shape, leads⟩ := value.leads
  cases first with
  | true =>
      simp only [Spelling.itemsOctets, Spelling.itemOctets, ↓reduceIte, List.nil_append,
        List.append_assoc, nextItem, Blanks.skip_append, shape, List.cons_append,
        skipBlanks_cons leads.notBlank, leads.notBracket]
  | false =>
      simp only [Spelling.itemsOctets, Spelling.itemOctets, Bool.false_eq_true, ↓reduceIte,
        List.cons_append, List.nil_append, List.append_assoc, nextItem,
        skipBlanks_cons (b := comma) (by decide), show comma ≠ closeBracket by decide,
        Blanks.skip_append, shape, skipBlanks_cons leads.notBlank, leads.notBracket]

theorem nextName_last (last : Blanks) (first : Bool) (rest : List UInt8) :
    nextName first (last.octets ++ closeBrace :: rest) = .ok (.closed rest) := by
  simp only [nextName, Blanks.skip_append, skipBlanks_cons (b := closeBrace) (by decide),
    ↓reduceIte]

/-- What stands behind the name of a member. -/
def behindName (member : Member Spelling) (rest : List UInt8) : List UInt8 :=
  member.named.octets ++ colon ::
    (member.between.octets ++ (member.value.octets ++ (member.after.octets ++ rest)))

theorem nextName_cons (member : Member Spelling) (others : List (Member Spelling)) (first : Bool)
    (rest : List UInt8) :
    nextName first (Spelling.membersOctets first (member :: others) ++ rest) =
      .ok (.part (member.name.octets ++ quote ::
        behindName member (Spelling.membersOctets false others ++ rest))) := by
  obtain ⟨before, name, named, between, value, after⟩ := member
  cases first with
  | true =>
      simp only [Spelling.membersOctets, Spelling.memberOctets, ↓reduceIte, List.nil_append,
        List.append_assoc, nextName, Blanks.skip_append, List.cons_append,
        skipBlanks_cons (b := quote) (by decide), show quote ≠ closeBrace by decide, behindName]
  | false =>
      simp only [Spelling.membersOctets, Spelling.memberOctets, Bool.false_eq_true, ↓reduceIte,
        List.cons_append, List.nil_append, List.append_assoc, nextName,
        skipBlanks_cons (b := comma) (by decide), show comma ≠ closeBrace by decide,
        Blanks.skip_append, skipBlanks_cons (b := quote) (by decide), behindName]

end Reader

/-! ## What is kept -/

namespace Tree

theorem depthItems_cons_le {item : Tree} {others : List Tree} {depth : Nat} :
    depthItems (item :: others) ≤ depth ↔ item.depth ≤ depth ∧ depthItems others ≤ depth :=
  Nat.max_le

theorem depthMembers_cons_le {name : String} {value : Tree} {others : List (String × Tree)}
    {depth : Nat} :
    depthMembers ((name, value) :: others) ≤ depth ↔
      value.depth ≤ depth ∧ depthMembers others ≤ depth :=
  Nat.max_le

end Tree

namespace Spelling

/-- What a value says, if it says something and nests no deeper than a limit. -/
def within? (depth : Nat) (spelling : Spelling) : Option Tree :=
  spelling.tree?.filter (·.depth ≤ depth)

def itemsWithin? (depth : Nat) (items : List (Item Spelling)) : Option (List Tree) :=
  (itemTrees? items).filter (Tree.depthItems · ≤ depth)

def membersWithin? (depth : Nat) (members : List (Member Spelling)) :
    Option (List (String × Tree)) :=
  (memberTrees? members).filter (Tree.depthMembers · ≤ depth)

theorem itemsWithin?_cons (depth : Nat) (item : Item Spelling) (others : List (Item Spelling)) :
    itemsWithin? depth (item :: others) =
      (item.value.within? depth).bind fun head =>
        (itemsWithin? depth others).bind fun tail => some (head :: tail) := by
  obtain ⟨before, value, after⟩ := item
  simp only [itemsWithin?, within?, itemTrees?, itemTree?]
  cases value.tree? with
  | none => rfl
  | some head =>
      cases itemTrees? others with
      | none => by_cases shallow : head.depth ≤ depth <;> simp [Option.filter, shallow]
      | some tail =>
          by_cases shallow : head.depth ≤ depth <;>
            by_cases behind : Tree.depthItems tail ≤ depth <;>
              simp [Option.filter, Tree.depthItems_cons_le, shallow, behind]

theorem membersWithin?_cons (depth : Nat) (member : Member Spelling)
    (others : List (Member Spelling)) :
    membersWithin? depth (member :: others) =
      member.name.text?.bind fun name =>
        (member.value.within? depth).bind fun head =>
          (membersWithin? depth others).bind fun tail => some ((name, head) :: tail) := by
  obtain ⟨before, name, named, between, value, after⟩ := member
  simp only [membersWithin?, within?, memberTrees?, memberTree?]
  cases name.text? with
  | none => rfl
  | some name =>
      cases value.tree? with
      | none => rfl
      | some head =>
          cases memberTrees? others with
          | none => by_cases shallow : head.depth ≤ depth <;> simp [Option.filter, shallow]
          | some tail =>
              by_cases shallow : head.depth ≤ depth <;>
                by_cases behind : Tree.depthMembers tail ≤ depth <;>
                  simp [Option.filter, Tree.depthMembers_cons_le, shallow, behind]

theorem within?_array (depth : Nat) (items : List (Item Spelling)) (last : Blanks) :
    (array items last).within? (depth + 1) = (itemsWithin? depth items).map .array := by
  simp only [within?, itemsWithin?, tree?]
  cases itemTrees? items with
  | none => rfl
  | some found => by_cases shallow : Tree.depthItems found ≤ depth <;>
      simp [Option.filter, Tree.depth, shallow]

theorem within?_object (depth : Nat) (members : List (Member Spelling)) (last : Blanks) :
    (object members last).within? (depth + 1) = (membersWithin? depth members).map .object := by
  simp only [within?, membersWithin?, tree?]
  cases memberTrees? members with
  | none => rfl
  | some found => by_cases shallow : Tree.depthMembers found ≤ depth <;>
      simp [Option.filter, Tree.depth, shallow]

end Spelling

/-! ## Reading -/

namespace Reader

variable {depth : Nat} {rest : List UInt8}

/-- A value is read as what it says, within every limit. -/
def Keeps (spelling : Spelling) : Prop :=
  ∀ ⦃depth rest⦄, isDetached rest = true →
    Reads (value depth (spelling.octets ++ rest)) (spelling.within? depth) rest

theorem keeps_scalar {spelling : Spelling} (scalar : spelling.isScalar = true) :
    Keeps spelling := by
  intro depth rest detached
  obtain ⟨b, tail, readsScalar⟩ := exists_readsScalar scalar
  obtain ⟨c, _, shape, leads⟩ := spelling.leads
  obtain rfl : b = c := by
    rw [readsScalar.octets_eq] at shape
    exact (List.cons.inj shape).1
  have whole : spelling.within? depth = spelling.tree? := by
    cases spelling with
    | null => rfl
    | bool b => rfl
    | number numeral => cases found : numeral.number? <;> simp [Spelling.within?, Spelling.tree?,
        found, Option.filter, Tree.depth]
    | text pieces => cases found : pieces.text? <;> simp [Spelling.within?, Spelling.tree?,
        found, Option.filter, Tree.depth]
    | array items last => cases scalar
    | object members last => cases scalar
  rw [whole, readsScalar.octets_eq, List.cons_append,
    value_eq_scalar leads.notBlank readsScalar.notOpenBracket readsScalar.notOpenBrace]
  exact readsScalar.reads rest detached

theorem items_reads (items : List (Item Spelling)) (last : Blanks)
    (keeps : ∀ item ∈ items, Keeps item.value) :
    ∀ {bound : Nat}, items.length < bound → ∀ first,
      Reads (Reader.items (value depth) bound first
        (Spelling.itemsOctets first items ++ (last.octets ++ closeBracket :: rest)))
        (Spelling.itemsWithin? depth items) rest := by
  induction items with
  | nil =>
      intro bound enough first
      obtain ⟨bound, rfl⟩ : ∃ n, bound = n + 1 := ⟨bound - 1, by omega⟩
      simp only [Reader.items, Spelling.itemsOctets, List.nil_append, nextItem_last]
      rfl
  | cons item others inductionHypothesis =>
      intro bound enough first
      obtain ⟨bound, rfl⟩ : ∃ n, bound = n + 1 := ⟨bound - 1, by omega⟩
      rw [Spelling.itemsWithin?_cons]
      simp only [Reader.items, nextItem_cons]
      refine (keeps item List.mem_cons_self (isDetached_blanks item.after
        (Spelling.isDetached_items others last rest))).bind fun head _ => ?_
      rw [items_blanks]
      refine (inductionHypothesis
        (fun other present => keeps other (List.mem_cons_of_mem _ present))
        (by simpa using enough) false).bind fun tail _ => rfl

theorem members_reads (members : List (Member Spelling)) (last : Blanks)
    (keeps : ∀ member ∈ members, Keeps member.value) :
    ∀ {bound : Nat}, members.length < bound → ∀ first,
      Reads (Reader.members (value depth) bound first
        (Spelling.membersOctets first members ++ (last.octets ++ closeBrace :: rest)))
        (Spelling.membersWithin? depth members) rest := by
  induction members with
  | nil =>
      intro bound enough first
      obtain ⟨bound, rfl⟩ : ∃ n, bound = n + 1 := ⟨bound - 1, by omega⟩
      simp only [Reader.members, Spelling.membersOctets, List.nil_append, nextName_last]
      rfl
  | cons member others inductionHypothesis =>
      intro bound enough first
      obtain ⟨bound, rfl⟩ : ∃ n, bound = n + 1 := ⟨bound - 1, by omega⟩
      rw [Spelling.membersWithin?_cons]
      simp only [Reader.members, nextName_cons]
      refine (Text.read_reads member.name _).bind fun name _ => ?_
      simp only [behindName, afterColon_eq, bind, Except.bind]
      rw [value_blanks]
      refine (keeps member List.mem_cons_self (isDetached_blanks member.after
        (Spelling.isDetached_members others last rest))).bind fun head _ => ?_
      rw [members_blanks]
      refine (inductionHypothesis
        (fun other present => keeps other (List.mem_cons_of_mem _ present))
        (by simpa using enough) false).bind fun tail _ => rfl

theorem length_le_itemsOctets (items : List (Item Spelling)) (first : Bool) :
    items.length ≤ (Spelling.itemsOctets first items).length := by
  induction items generalizing first with
  | nil => exact Nat.le_refl _
  | cons item others inductionHypothesis =>
      obtain ⟨before, value, after⟩ := item
      obtain ⟨b, tail, shape, _⟩ := value.leads
      have fewer := inductionHypothesis false
      simp only [Spelling.itemsOctets, Spelling.itemOctets, shape, List.length_append,
        List.length_cons]
      omega

theorem length_le_membersOctets (members : List (Member Spelling)) (first : Bool) :
    members.length ≤ (Spelling.membersOctets first members).length := by
  induction members generalizing first with
  | nil => exact Nat.le_refl _
  | cons member others inductionHypothesis =>
      obtain ⟨before, name, named, between, value, after⟩ := member
      have fewer := inductionHypothesis false
      simp only [Spelling.membersOctets, Spelling.memberOctets, List.length_append,
        List.length_cons]
      omega

theorem keeps_array {items : List (Item Spelling)} (last : Blanks)
    (keeps : ∀ item ∈ items, Keeps item.value) : Keeps (.array items last) := by
  intro depth rest _
  have enough := length_le_itemsOctets items true
  simp only [Spelling.octets, List.cons_append, List.append_assoc, List.nil_append]
  cases depth with
  | zero =>
      have tooDeep : (Spelling.array items last).within? 0 = none := by
        simp only [Spelling.within?, Spelling.tree?]
        cases Spelling.itemTrees? items <;> simp [Option.filter, Tree.depth]
      rw [tooDeep]
      exact Reads.error .malformed rest
  | succ depth =>
      rw [Spelling.within?_array]
      simp only [value, skipBlanks_cons (b := openBracket) (by decide), ↓reduceIte]
      refine (items_reads items last keeps ?_ true).map Tree.array
      simp only [List.length_append, List.length_cons]
      omega

theorem keeps_object {members : List (Member Spelling)} (last : Blanks)
    (keeps : ∀ member ∈ members, Keeps member.value) : Keeps (.object members last) := by
  intro depth rest _
  have enough := length_le_membersOctets members true
  simp only [Spelling.octets, List.cons_append, List.append_assoc, List.nil_append]
  cases depth with
  | zero =>
      have tooDeep : (Spelling.object members last).within? 0 = none := by
        simp only [Spelling.within?, Spelling.tree?]
        cases Spelling.memberTrees? members <;> simp [Option.filter, Tree.depth]
      rw [tooDeep]
      exact Reads.error .malformed rest
  | succ depth =>
      rw [Spelling.within?_object]
      simp only [value, skipBlanks_cons (b := openBrace) (by decide),
        show openBrace ≠ openBracket by decide, ↓reduceIte]
      refine (members_reads members last keeps ?_ true).map Tree.object
      simp only [List.length_append, List.length_cons]
      omega

theorem keeps (spelling : Spelling) : Keeps spelling :=
  (Spelling.Inherited.mk (fun _ scalar => keeps_scalar scalar)
    (fun _ last keeps => keeps_array last keeps)
    fun _ last keeps => keeps_object last keeps).apply spelling

/-- Every value is read as what it says within a limit, with the white space in front of it. -/
theorem value_reads (between : Blanks) (spelling : Spelling) (depth : Nat)
    (detached : isDetached rest = true) :
    Reads (value depth (between.octets ++ (spelling.octets ++ rest))) (spelling.within? depth)
      rest := by
  rw [value_blanks]
  exact keeps spelling detached

end Reader

end CacheSync.Json
