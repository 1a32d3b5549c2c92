import CacheSync.Cluster.Schedule

/-!
# Runs of a cluster

A run asks for operations on one cache, each when the call before it is over, and lets the threads
of the cluster take steps in any order.  It lists the events of its operations.
-/

namespace CacheSync.Cluster

/-- Every call is over. -/
def Idle (cluster : Cluster) : Prop :=
  ∀ caller ∈ cluster.callers, caller.tasks = []

/-- The event of an operation that is asked for now, if it makes one. -/
def emitted (cluster : Cluster) (index : Nat) (cache : String) (call : StoreCall) : List Event :=
  match cluster.node? index with
  | none => []
  | some node => node.core.emitted cache call (cluster.pass stepTime).clock.wall

/-- The states that are reached by permitted operations on a cache, with the events so far. -/
inductive Run (cache : String) (permits : Nat → StoreCall → Prop) (start : Cluster) :
    List Event → Cluster → Prop where
  | refl : Run cache permits start [] start
  | ask {events : List Event} {middle after : Cluster} {index : Nat} {guarded : Bool}
      {call : StoreCall} {ticket : Nat} :
      Run cache permits start events middle →
      middle.Idle →
      permits index call →
      middle.request? (.operate index cache guarded call) = some (after, ticket) →
      Run cache permits start (events ++ middle.emitted index cache call) after
  | step {events : List Event} {middle after : Cluster} {thread : Thread} :
      Run cache permits start events middle →
      middle.step? thread = some after →
      Run cache permits start events after
  | wait {events : List Event} {middle : Cluster} (nanos : Nat) :
      Run cache permits start events middle →
      Run cache permits start events (middle.pass nanos)

/-- Some threads take one step each, in this order. -/
def follow? (cluster : Cluster) : List Thread → Option Cluster
  | [] => some cluster
  | thread :: rest => (cluster.step? thread).bind fun after => after.follow? rest

end CacheSync.Cluster
