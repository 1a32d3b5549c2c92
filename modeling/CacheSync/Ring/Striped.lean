import CacheSync.Metric.Meter
import CacheSync.Ring.Basic

/-!
# Striped rings

A power-of-two number of rings, one for each stripe.  The lowest bits of an item's hash choose its
stripe, so that items of one hash always follow each other through one ring.
-/

namespace CacheSync

/-- One ring for each stripe of a side. -/
structure StripedRing (α : Type) where
  side : Side
  rings : Array (Ring α)

namespace StripedRing

variable {α : Type}

/-- Rings of the given shape, if both numbers are powers of two. -/
def make (side : Side) (stripes capacity : Nat) : Except ConfigError (StripedRing α) := do
  Dispatch.checkShape side stripes capacity
  .ok ⟨side, Array.replicate stripes (.ofCapacity capacity)⟩

def stripeCount (ring : StripedRing α) : Nat :=
  ring.rings.size

/-- The stripe of a hash among so many. -/
def stripeAmong (stripes : Nat) (hash : UInt64) : Nat :=
  (hash &&& UInt64.ofNat (stripes - 1)).toNat

def stripeFor (ring : StripedRing α) (hash : UInt64) : Nat :=
  stripeAmong ring.stripeCount hash

def setRing (ring : StripedRing α) (stripe : Nat) (one : Ring α) : StripedRing α :=
  { ring with rings := ring.rings.setIfInBounds stripe one }

def offer (ring : StripedRing α) (hash : UInt64) (item : α) : Offered (StripedRing α) :=
  let stripe := ring.stripeFor hash
  match ring.rings[stripe]? with
  | none => .closed
  | some one =>
      match one.offer item with
      | .accepted after => .accepted (ring.setRing stripe after)
      | .full => .full
      | .closed => .closed

/-- Take the oldest item of a stripe.  A stripe that is not there counts as closed. -/
def poll (ring : StripedRing α) (stripe : Nat) : Polled α (StripedRing α) :=
  match ring.rings[stripe]? with
  | none => .closed
  | some one =>
      match one.poll with
      | .taken item after => .taken item (ring.setRing stripe after)
      | .empty => .empty
      | .closed => .closed

def cursors? (ring : StripedRing α) (stripe : Nat) : Option (Nat × Nat) :=
  (ring.rings[stripe]?).map fun one => (one.read, one.write)

def closeStripe (ring : StripedRing α) (stripe : Nat) : StripedRing α :=
  match ring.rings[stripe]? with
  | none => ring
  | some one => ring.setRing stripe one.close

def close (ring : StripedRing α) : StripedRing α :=
  { ring with rings := ring.rings.map Ring.close }

def reportCursors (ring : StripedRing α) (stripe : Nat) (meter : Meter) : Meter :=
  match ring.cursors? stripe with
  | none => meter
  | some (read, write) =>
      (meter.read (.readCursor ring.side stripe) read).read (.writeCursor ring.side stripe) write

end StripedRing
end CacheSync
