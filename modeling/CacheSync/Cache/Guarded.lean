import CacheSync.Cache.Store

/-!
# Guarded stores

A store may refuse operations: it can be unavailable, reject a call with a reason, or crash the
thread that calls it.  A guard says which operations are refused and how; a refused operation
changes nothing.
-/

namespace CacheSync

open Json (Value)

/-- The operations that a guard can refuse. -/
inductive Operation where
  | put
  | putIfAbsent
  | evict
  | remove
  | clear
  | merge
  | computeIfAbsent
  deriving DecidableEq

namespace Operation

def name : Operation → String
  | .put => "put"
  | .putIfAbsent => "put_if_absent"
  | .evict => "evict"
  | .remove => "remove"
  | .clear => "clear"
  | .merge => "merge"
  | .computeIfAbsent => "compute_if_absent"

def all : List Operation :=
  [.put, .putIfAbsent, .evict, .remove, .clear, .merge, .computeIfAbsent]

def ofName? (name : String) : Option Operation :=
  all.find? (·.name == name)

end Operation

/-- Why a cache refuses an operation. -/
inductive CacheError where
  | rejected (cache : String) (operation : Operation) (reason : String)
  | unavailable (cache : String)
  deriving DecidableEq

namespace CacheError

/-- The name of an error without its circumstances. -/
def kind : CacheError → String
  | .rejected _ _ _ => "Rejected"
  | .unavailable _ => "Unavailable"

def message : CacheError → String
  | .rejected cache operation reason =>
      "cache `" ++ cache ++ "` rejected `" ++ operation.name ++ "`: " ++ reason
  | .unavailable cache => "cache `" ++ cache ++ "` is unavailable"

end CacheError

/-- How an operation is refused. -/
inductive Refusal where
  | unavailable
  | rejected (reason : String)
  | crash
  deriving DecidableEq

namespace Refusal

/-- The refusal that a word stands for, crashes excluded; any other word is the reason of a
rejection. -/
def ofPlainText (text : String) : Refusal :=
  if text = "unavailable" then .unavailable else .rejected text

/-- The refusal that a word stands for; any other word is the reason of a rejection. -/
def ofText (text : String) : Refusal :=
  if text = "panic" then .crash else ofPlainText text

end Refusal

/-- What stops an operation. -/
inductive Stop where
  /-- The operation fails and its caller goes on. -/
  | failed (error : CacheError)
  /-- The thread of the caller ends. -/
  | crashed
  deriving DecidableEq

/-- The operations of one cache that are refused. -/
abbrev Guard := Table Operation Refusal

namespace Guard

def none : Guard :=
  Table.empty

/-- What stops an operation on a store, if anything does. -/
def stop? (guard : Guard) (cache : String) (operation : Operation) : Option Stop :=
  match guard.get? operation with
  | .none => .none
  | .some .unavailable => .some (.failed (.unavailable cache))
  | .some (.rejected reason) => .some (.failed (.rejected cache operation reason))
  | .some .crash => .some .crashed

/-- Do an operation unless it is refused. -/
def run {α : Type} (guard : Guard) (store : Store) (operation : Operation)
    (act : Store → Change α) : Except Stop (Change α) :=
  match guard.stop? store.name operation with
  | .none => .ok (act store)
  | .some stop => .error stop

end Guard
end CacheSync
