/-!
# Tables

A table maps keys to values.  It lists its pairs in the order in which their keys came in, each
key once.  `get?` is the view of a table: each operation says below what it does to it.
-/

namespace CacheSync

/-- A finite map with its keys in the order they came in. -/
structure Table (κ : Type) (ν : Type) where
  pairs : List (κ × ν)
  nodup : (pairs.map (·.1)).Nodup

namespace Table

variable {κ ν : Type} [DecidableEq κ]

/-! ## Lists of pairs -/

def lookup (key : κ) : List (κ × ν) → Option ν
  | [] => none
  | pair :: rest => if pair.1 = key then some pair.2 else lookup key rest

/-- Replace the value of a key in its place, or add the pair behind the others. -/
def put (key : κ) (value : ν) : List (κ × ν) → List (κ × ν)
  | [] => [(key, value)]
  | pair :: rest => if pair.1 = key then (key, value) :: rest else pair :: put key value rest

def drop (key : κ) : List (κ × ν) → List (κ × ν)
  | [] => []
  | pair :: rest => if pair.1 = key then rest else pair :: drop key rest

theorem mem_keys_put {key found : κ} {value : ν} {pairs : List (κ × ν)} :
    found ∈ (put key value pairs).map (·.1) ↔ found = key ∨ found ∈ pairs.map (·.1) := by
  induction pairs with
  | nil => simp [put]
  | cons pair rest inductionHypothesis =>
      unfold put
      split
      next same => simp [← same]
      next =>
        simp only [List.map_cons, List.mem_cons, inductionHypothesis]
        grind

theorem nodup_put {key : κ} {value : ν} {pairs : List (κ × ν)}
    (nodup : (pairs.map (·.1)).Nodup) : ((put key value pairs).map (·.1)).Nodup := by
  induction pairs with
  | nil => simp [put]
  | cons pair rest inductionHypothesis =>
      simp only [List.map_cons, List.nodup_cons] at nodup
      unfold put
      split
      next same => simpa [← same] using nodup
      next different =>
        simp only [List.map_cons, List.nodup_cons, mem_keys_put]
        exact ⟨fun present => present.elim different nodup.1, inductionHypothesis nodup.2⟩

theorem mem_keys_of_mem_drop {key found : κ} {pairs : List (κ × ν)}
    (present : found ∈ (drop key pairs).map (·.1)) : found ∈ pairs.map (·.1) := by
  induction pairs with
  | nil => simp [drop] at present
  | cons pair rest inductionHypothesis =>
      unfold drop at present
      split at present <;> grind

theorem nodup_drop {key : κ} {pairs : List (κ × ν)}
    (nodup : (pairs.map (·.1)).Nodup) : ((drop key pairs).map (·.1)).Nodup := by
  induction pairs with
  | nil => simp [drop]
  | cons pair rest inductionHypothesis =>
      simp only [List.map_cons, List.nodup_cons] at nodup
      unfold drop
      split
      · exact nodup.2
      · simp only [List.map_cons, List.nodup_cons]
        exact ⟨fun present => nodup.1 (mem_keys_of_mem_drop present), inductionHypothesis nodup.2⟩

theorem lookup_put {key other : κ} {value : ν} {pairs : List (κ × ν)} :
    lookup other (put key value pairs) = if other = key then some value else lookup other pairs := by
  induction pairs with
  | nil => grind [put, lookup]
  | cons pair rest inductionHypothesis => grind [put, lookup]

theorem lookup_eq_none {key : κ} {pairs : List (κ × ν)}
    (absent : key ∉ pairs.map (·.1)) : lookup key pairs = none := by
  induction pairs with
  | nil => rfl
  | cons pair rest inductionHypothesis => grind [lookup]

theorem lookup_drop {key other : κ} {pairs : List (κ × ν)}
    (nodup : (pairs.map (·.1)).Nodup) :
    lookup other (drop key pairs) = if other = key then none else lookup other pairs := by
  induction pairs with
  | nil => simp [drop, lookup]
  | cons pair rest inductionHypothesis =>
      simp only [List.map_cons, List.nodup_cons] at nodup
      have absent := lookup_eq_none (ν := ν) nodup.1
      grind [drop, lookup]

theorem lookup_filter {keep : κ → ν → Bool} {key : κ} {pairs : List (κ × ν)}
    (nodup : (pairs.map (·.1)).Nodup) :
    lookup key (pairs.filter fun pair => keep pair.1 pair.2) =
      (lookup key pairs).filter (keep key) := by
  induction pairs with
  | nil => rfl
  | cons pair rest inductionHypothesis =>
      simp only [List.map_cons, List.nodup_cons] at nodup
      have absent := lookup_eq_none (ν := ν) nodup.1
      have rests := inductionHypothesis nodup.2
      grind [lookup]

theorem length_put {key : κ} {value : ν} {pairs : List (κ × ν)} :
    (put key value pairs).length =
      if (lookup key pairs).isSome then pairs.length else pairs.length + 1 := by
  induction pairs with
  | nil => rfl
  | cons pair rest inductionHypothesis => grind [put, lookup]

/-! ## Operations -/

def empty : Table κ ν :=
  ⟨[], List.nodup_nil⟩

instance : Inhabited (Table κ ν) :=
  ⟨empty⟩

def get? (table : Table κ ν) (key : κ) : Option ν :=
  lookup key table.pairs

def contains (table : Table κ ν) (key : κ) : Bool :=
  (table.get? key).isSome

def insert (table : Table κ ν) (key : κ) (value : ν) : Table κ ν :=
  ⟨put key value table.pairs, nodup_put table.nodup⟩

def erase (table : Table κ ν) (key : κ) : Table κ ν :=
  ⟨drop key table.pairs, nodup_drop table.nodup⟩

def filter (table : Table κ ν) (keep : κ → ν → Bool) : Table κ ν :=
  ⟨table.pairs.filter fun pair => keep pair.1 pair.2,
    table.nodup.sublist (List.Sublist.map _ List.filter_sublist)⟩

/-- Change the value of a key, if it has one. -/
def modify (table : Table κ ν) (key : κ) (change : ν → ν) : Table κ ν :=
  match table.get? key with
  | none => table
  | some value => table.insert key (change value)

def size (table : Table κ ν) : Nat :=
  table.pairs.length

def isEmpty (table : Table κ ν) : Bool :=
  table.pairs.isEmpty

def keys (table : Table κ ν) : List κ :=
  table.pairs.map (·.1)

def values (table : Table κ ν) : List ν :=
  table.pairs.map (·.2)

/-! ## What the operations do to the view -/

omit [DecidableEq κ] in
@[simp]
theorem size_empty : (empty : Table κ ν).size = 0 := rfl

@[simp]
theorem get?_empty (key : κ) : (empty : Table κ ν).get? key = none := rfl

@[simp]
theorem get?_insert (table : Table κ ν) (key other : κ) (value : ν) :
    (table.insert key value).get? other = if other = key then some value else table.get? other :=
  lookup_put

@[simp]
theorem get?_erase (table : Table κ ν) (key other : κ) :
    (table.erase key).get? other = if other = key then none else table.get? other :=
  lookup_drop table.nodup

@[simp]
theorem get?_filter (table : Table κ ν) (keep : κ → ν → Bool) (key : κ) :
    (table.filter keep).get? key = (table.get? key).filter (keep key) :=
  lookup_filter table.nodup

@[simp]
theorem get?_modify (table : Table κ ν) (key other : κ) (change : ν → ν) :
    (table.modify key change).get? other =
      if other = key then (table.get? key).map change else table.get? other := by
  unfold modify
  cases held : table.get? key with
  | none => grind
  | some value => simp

@[simp]
theorem size_insert (table : Table κ ν) (key : κ) (value : ν) :
    (table.insert key value).size =
      if (table.get? key).isSome then table.size else table.size + 1 :=
  length_put

end Table
end CacheSync
