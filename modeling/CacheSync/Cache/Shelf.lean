import CacheSync.Cache.Guarded

/-!
# Shelves

A shelf holds the caches of a node by name.  A cache is made the first time its name is asked for
and stays.  What the bus does to a cache goes through the guard of its name.
-/

namespace CacheSync

/-- The caches of a node, each under its own name, and the guards in front of them. -/
structure CacheShelf where
  stores : Table String Store
  guards : Table String Guard
  named : ∀ {name : String} {store : Store}, stores.get? name = some store → store.name = name

namespace CacheShelf

def empty : CacheShelf where
  stores := .empty
  guards := .empty
  named := by simp

def store? (shelf : CacheShelf) (name : String) : Option Store :=
  shelf.stores.get? name

def guard (shelf : CacheShelf) (name : String) : Guard :=
  (shelf.guards.get? name).getD .none

def setStore (shelf : CacheShelf) (store : Store) : CacheShelf where
  stores := shelf.stores.insert store.name store
  guards := shelf.guards
  named := by
    intro name found held
    rw [Table.get?_insert] at held
    split at held
    next same => simp_all
    next => exact shelf.named held

def setGuard (shelf : CacheShelf) (name : String) (guard : Guard) : CacheShelf :=
  { shelf with guards := shelf.guards.insert name guard }

/-- Make the cache of a name if there is none. -/
def create (shelf : CacheShelf) (name : String) : CacheShelf :=
  if shelf.stores.contains name then shelf else shelf.setStore (.ofName name)

theorem name_of_store? {shelf : CacheShelf} {name : String} {store : Store}
    (held : shelf.store? name = some store) : store.name = name :=
  shelf.named held

def names (shelf : CacheShelf) : List String :=
  shelf.stores.keys.mergeSort fun a b => decide (a ≤ b)

@[simp]
theorem store?_setStore (shelf : CacheShelf) (store : Store) (name : String) :
    (shelf.setStore store).store? name =
      if name = store.name then some store else shelf.store? name := by
  simp [setStore, store?]

@[simp]
theorem guard_setStore (shelf : CacheShelf) (store : Store) (name : String) :
    (shelf.setStore store).guard name = shelf.guard name := rfl

end CacheShelf
end CacheSync
