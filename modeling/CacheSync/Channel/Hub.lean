/-!
# Hubs

A hub connects the channels of several members.  What one member sends is handed to the
subscribers of all others, in the order in which they subscribed, and never to its own.
-/

namespace CacheSync

/-- A message between nodes: the routing hash of its event, and its octets. -/
structure Message where
  hash : UInt64
  body : List UInt8
  deriving DecidableEq

/-- The subscriptions of a hub, the oldest first, each with the member that made it. -/
structure Hub (μ σ : Type) where
  subscriptions : List (μ × σ)

namespace Hub

variable {μ σ : Type} [DecidableEq μ]

omit [DecidableEq μ] in
def empty : Hub μ σ :=
  ⟨[]⟩

def subscribe (hub : Hub μ σ) (member : μ) (subscriber : σ) : Hub μ σ :=
  ⟨hub.subscriptions ++ [(member, subscriber)]⟩

def leave (hub : Hub μ σ) (member : μ) : Hub μ σ :=
  ⟨hub.subscriptions.filter (·.1 ≠ member)⟩

/-- Who receives what a member sends. -/
def targets (hub : Hub μ σ) (sender : μ) : List σ :=
  (hub.subscriptions.filter (·.1 ≠ sender)).map (·.2)

omit [DecidableEq μ] in
def size (hub : Hub μ σ) : Nat :=
  hub.subscriptions.length

end Hub
end CacheSync
