import CacheSync.Toml.Value

/-!
# TOML documents

A file is a sequence of statements that build one table: headers, which name the table that the
next entries go into, and entries.  A table is written down once.  Only a table that came to be as
the parent of another one may get its header later, and dotted keys add only to tables that dotted
keys made.
-/

namespace CacheSync.Toml

/-- A key: the names of the tables that lead to a member, and the name of the member. -/
structure Key where
  path : List String
  name : String

namespace Key

/-- The key of at least one name. -/
def ofNames (first : String) : List String → Key
  | [] => ⟨[], first⟩
  | second :: rest =>
      let key := ofNames second rest
      ⟨first :: key.path, key.name⟩

def names (key : Key) : List String :=
  key.path ++ [key.name]

end Key

/-- A statement of a file. -/
inductive Statement where
  /-- A header of a table. -/
  | table (key : Key)
  /-- A header of one more table of an array. -/
  | item (key : Key)
  /-- An entry of the table whose header came last. -/
  | entry (key : Key) (value : Value)

/-! ## Walking to a table -/

/-- Whether the walk along a path may enter a table: nothing is added to a table between braces,
and dotted keys do not reach into a table that has a header. -/
def Origin.admits (dotted : Bool) : Origin → Bool
  | .implied => true
  | .dotted => true
  | .header => !dotted
  | .inline => false

/-- How a table comes to be that a walk finds missing. -/
def Origin.ofWalk (dotted : Bool) : Origin :=
  if dotted then .dotted else .implied

/-- A change to a table: what becomes of its origin and its members, or nothing if it is refused. -/
abbrev Change := Origin → Members → Option (Origin × Members)

/-- Apply a change to the table at the end of a path.  Missing tables on the way are made.  In an
open array the path goes on in the last table, but not for dotted keys. -/
def changeAt (dotted : Bool) (change : Change) : List String → Change
  | [] => change
  | name :: path => fun origin members =>
      let inner := changeAt dotted change path
      match Table.lookup name members with
      | none => do
          let (made, found) ← inner (.ofWalk dotted) []
          some (origin, Table.put name (.table made found) members)
      | some (.table kind found) =>
          if kind.admits dotted then do
            let (kind, found) ← inner kind found
            some (origin, Table.put name (.table kind found) members)
          else none
      | some (.array true items) =>
          match dotted, items.reverse with
          | false, .table kind found :: before => do
              let (kind, found) ← inner kind found
              let items := (Value.table kind found :: before).reverse
              some (origin, Table.put name (.array true items) members)
          | _, _ => none
      | some _ => none

/-! ## Changes -/

/-- Add a member that is not there yet.  The table that dotted keys lead to is one that dotted
keys made. -/
def addMember (dotted : Bool) (name : String) (value : Value) : Change := fun origin members =>
  if (dotted && origin ≠ .dotted) || (Table.lookup name members).isSome then none
  else some (origin, Table.put name value members)

def addEntry (key : Key) (value : Value) : Change :=
  let dotted := !key.path.isEmpty
  changeAt dotted (addMember dotted key.name value) key.path

def openTable (name : String) : Change := fun origin members =>
  match Table.lookup name members with
  | none => some (origin, Table.put name (.table .header []) members)
  | some (.table .implied found) => some (origin, Table.put name (.table .header found) members)
  | some _ => none

def openItem (name : String) : Change := fun origin members =>
  match Table.lookup name members with
  | none => some (origin, Table.put name (.array true [.table .header []]) members)
  | some (.array true items) =>
      some (origin, Table.put name (.array true (items ++ [.table .header []])) members)
  | some _ => none

/-- What is read of a file so far. -/
structure Document where
  members : Members
  /-- The path of the last header. -/
  current : List String

namespace Document

def empty : Document :=
  ⟨[], []⟩

/-- Apply a change to the table at a path, and go on at another path. -/
def change (document : Document) (path : List String) (change : Change) (next : List String) :
    Option Document := do
  let (_, members) ← changeAt false change path .header document.members
  some ⟨members, next⟩

def add (document : Document) : Statement → Option Document
  | .table key => document.change key.path (openTable key.name) key.names
  | .item key => document.change key.path (openItem key.name) key.names
  | .entry key value =>
      document.change document.current (addEntry key value) document.current

end Document
end CacheSync.Toml
