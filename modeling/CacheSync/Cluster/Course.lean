import CacheSync.Cluster.Schedule

/-!
# Courses of a cluster

A course is everything that happens to a cluster, one deed after the other: requests, steps of the
threads in any order, time that passes, and what is done to a node or its channel from outside.
Any number of calls may be under way.  The steps of one caller by themselves make up a `Walk`, which
asks nothing of what the rest of the cluster does in between, as long as it leaves the caller alone.
-/

namespace CacheSync

/-- What is done to a node from outside, at once. -/
inductive Turn where
  /-- Put listeners on its caches. -/
  | register
  /-- Put one more listener on a cache. -/
  | attach (cache : String)
  /-- Make a cache, if there is none of the name. -/
  | create (cache : String)
  /-- Nobody holds the node any more, so that its listeners are silent. -/
  | release
  | connect (connected : Bool)
  /-- Say what happens to the sends to come. -/
  | extendScript (fates : List SendFate)
  | openGate

def Node.turn (node : Node) : Turn → Node
  | .register => node.register.1
  | .attach cache => ((node.attach cache).map (·.1)).getD node
  | .create cache => { node with core := { node.core with shelf := node.core.shelf.create cache } }
  | .release => { node with core := { node.core with linked := false } }
  | .connect connected => { node with channel := node.channel.setConnected connected }
  | .extendScript fates => { node with channel := node.channel.extendScript fates }
  | .openGate => { node with channel := node.channel.openGate }

/-- Whether a request is one to a bus; the others use a producer by itself. -/
def Request.isOfBus : Request → Bool
  | .produce _ _ => false
  | .halt _ => false
  | _ => true

/-- A step of the thread of a caller. -/
structure Stride where
  before : Cluster
  /-- The caller before the step. -/
  caller : Caller
  after : Cluster

namespace Cluster

/-- What may happen to a cluster. -/
inductive Deed where
  | ask (request : Request)
  | step (thread : Thread)
  | wait (nanos : Nat)
  | turn (node : Nat) (turn : Turn)
  /-- Somebody other than the node closes its channel. -/
  | shut (node : Nat)

/-- The channel of a node closes and leaves the hub. -/
def shut (cluster : Cluster) (index : Nat) : Cluster :=
  { cluster.modifyNode index fun node => { node with channel := node.channel.close } with
    hub := cluster.hub.leave (.node index) }

/-- A cluster after a deed, if that is possible. -/
def do? (cluster : Cluster) : Deed → Option Cluster
  | .ask request => if request.isOfBus then (cluster.request? request).map (·.1) else none
  | .step thread => cluster.step? thread
  | .wait nanos => some (cluster.pass nanos)
  | .turn index turn => some (cluster.modifyNode index fun node => node.turn turn)
  | .shut index => some (cluster.shut index)

/-- A cluster after a course, if each of its deeds is possible. -/
def after? (cluster : Cluster) : List Deed → Option Cluster
  | [] => some cluster
  | deed :: rest => (cluster.do? deed).bind fun next => next.after? rest

/-- The steps of the caller of a ticket.  Between two of them anything may happen that leaves the
caller alone. -/
inductive Walk (ticket : Nat) (first : Caller) : List Stride → Caller → Prop where
  | rest : Walk ticket first [] first
  | step {strides : List Stride} {before after : Cluster} {current next : Caller} :
      Walk ticket first strides current →
      before.caller? ticket = some current →
      before.callerStep? ticket = some after →
      after.caller? ticket = some next →
      Walk ticket first (strides ++ [⟨before, current, after⟩]) next

end Cluster
end CacheSync
