import CacheSync.Config.Dispatch

/-!
# Rings

A ring is a queue of bounded capacity, laid out in slots that are used over and over.  Two cursors
count the items taken and the items added; they only grow, and the slot of a position is its
remainder by the capacity.  Closing a ring discards what it holds.
-/

namespace CacheSync

/-- A bounded queue in circular slots. -/
structure Ring (α : Type) where
  slots : Array (Option α)
  /-- The number of items taken. -/
  read : Nat
  /-- The number of items added. -/
  write : Nat
  closed : Bool

/-- What comes of offering an item to a ring. -/
inductive Offered (β : Type) where
  /-- The item was added. -/
  | accepted (after : β)
  /-- There is no room; the caller waits. -/
  | full
  | closed

/-- What comes of asking a ring for an item. -/
inductive Polled (α β : Type) where
  /-- The oldest item was taken. -/
  | taken (item : α) (after : β)
  /-- There is no item; the caller waits. -/
  | empty
  | closed

namespace Ring

variable {α : Type}

def ofCapacity (capacity : Nat) : Ring α :=
  ⟨Array.replicate capacity none, 0, 0, false⟩

def capacity (ring : Ring α) : Nat :=
  ring.slots.size

def slot (ring : Ring α) (position : Nat) : Nat :=
  position % ring.capacity

def isFull (ring : Ring α) : Bool :=
  ring.capacity ≤ ring.write - ring.read

def isEmpty (ring : Ring α) : Bool :=
  ring.write == ring.read

def offer (ring : Ring α) (item : α) : Offered (Ring α) :=
  if ring.closed then .closed
  else if ring.isFull then .full
  else
    .accepted { ring with
      slots := ring.slots.setIfInBounds (ring.slot ring.write) (some item)
      write := ring.write + 1 }

/-- Take the oldest item.  The slot of a position between the cursors is never empty, so the last
case does not arise in an open ring. -/
def poll (ring : Ring α) : Polled α (Ring α) :=
  if ring.closed then .closed
  else if ring.isEmpty then .empty
  else
    match (ring.slots[ring.slot ring.read]?).join with
    | some item =>
        .taken item { ring with
          slots := ring.slots.setIfInBounds (ring.slot ring.read) none
          read := ring.read + 1 }
    | none => .closed

def close (ring : Ring α) : Ring α :=
  { ring with slots := ring.slots.map fun _ => none, closed := true }

end Ring
end CacheSync
