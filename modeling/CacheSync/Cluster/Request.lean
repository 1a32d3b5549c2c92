import CacheSync.Cluster.Basic

/-!
# Requests

What is asked of a cluster from outside.  A request begins at once and gets a ticket; what it has
still to do is left to the thread of its caller.
-/

namespace CacheSync

/-- A request that may take time. -/
inductive Request where
  /-- An operation on a cache of a node, behind its guard if so asked. -/
  | operate (node : Nat) (cache : String) (guarded : Bool) (call : StoreCall)
  /-- Tell the bus of a node of an event. -/
  | send (node : Nat) (event : Event)
  /-- Hand a node a message. -/
  | receive (node : Nat) (body : List UInt8)
  /-- Send a message from outside to every subscriber. -/
  | deliver (message : Message)
  | start (node : Nat)
  | stop (node : Nat)
  /-- Use the producer of a node by itself. -/
  | produce (node : Nat) (job : Job)
  /-- Stop the producer of a node, used by itself. -/
  | halt (node : Nat)

namespace Cluster

/-- What a request has done at once, what is left of it, and its answer so far. -/
structure Begun where
  cluster : Cluster
  tasks : List Task
  reply : Reply

def operationReply (call : StoreCall) : Except Stop StoreAnswer → Reply
  | .ok answer => .answer answer
  | .error .crashed => .crashed
  | .error (.failed error) =>
      match call.operation? with
      | none => .crashed
      | some operation => .refused operation error

def startReply : BusOutcome → Reply
  | .done => .done
  | .failed error => .failed error
  | .crashed => .crashed

def startNode (cluster : Cluster) (index : Nat) (node : Node) : Begun :=
  let (node, hub, outcome) := node.start (.node index) cluster.hub
  ⟨{ cluster.setNode index node with hub := hub }, [], startReply outcome⟩

def stopNode (cluster : Cluster) (index : Nat) (node : Node) : Begun :=
  match node.beginStop with
  | .error error => ⟨cluster, [], .failed error⟩
  | .ok stopping => ⟨cluster.setNode index stopping, [.stop index .consumer], .done⟩

/-- Stop a producer that is used by itself.  Only the first call waits for its workers. -/
def haltNode (cluster : Cluster) (index : Nat) (node : Node) : Begun :=
  let tasks := if node.pipeline = .running then [Task.halt index] else []
  ⟨cluster.setNode index { node.closeProducer with pipeline := .taken }, tasks, .done⟩

def produceTask (index : Nat) (node : Node) (job : Job) : Task :=
  match node.producer with
  | .direct => .send index (.ofJob job)
  | .striped _ => .offer index job false

/-- Begin a request.  There is no answer if it names a node or a cache that is not there. -/
def begin? (cluster : Cluster) (request : Request) : Option Begun :=
  match request with
  | .operate index cache guarded call =>
      (cluster.node? index).bind fun node =>
        (node.core.operate cache guarded call cluster.clock).map fun operated =>
          ⟨cluster.setNode index { node with core := operated.core },
            operated.heard.map (.hear index), operationReply call operated.answer⟩
  | .send index event => some ⟨cluster, [.hear index event], .done⟩
  | .receive index body =>
      (cluster.node? index).map fun node =>
        let (handled, crashed) := cluster.handle index node body
        ⟨handled, [], if crashed then .crashed else .done⟩
  | .deliver message =>
      some ⟨cluster, [.spread ⟨message, cluster.hub.targets .outsider, false⟩], .done⟩
  | .start index => (cluster.node? index).map (cluster.startNode index)
  | .stop index => (cluster.node? index).map (cluster.stopNode index)
  | .produce index job =>
      (cluster.node? index).map fun node => ⟨cluster, [produceTask index node job], .done⟩
  | .halt index => (cluster.node? index).map (cluster.haltNode index)

def isBare : Request → Bool
  | .produce _ _ => true
  | _ => false

/-- Make a request.  The answer is its ticket. -/
def request? (cluster : Cluster) (request : Request) : Option (Cluster × Nat) :=
  ((cluster.pass stepTime).begin? request).map fun begun =>
    let ticket := cluster.nextTicket
    let caller : Caller := ⟨ticket, begun.tasks, begun.reply, isBare request⟩
    ({ begun.cluster with
        callers := begun.cluster.callers ++ [caller], nextTicket := ticket + 1 },
      ticket)

end Cluster
end CacheSync
