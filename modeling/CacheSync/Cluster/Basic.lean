import CacheSync.Node.Basic

/-!
# Clusters

A cluster is a set of nodes on one hub, the threads that call into them, and the clock they all
read.  An observer on the hub sees every message, and an outsider may send messages of its own.

Work is done in small steps, each by one thread; between two steps of a thread any other thread may
take a step.  Time passes with every step.
-/

namespace CacheSync

/-- How a node takes down its pipeline. -/
inductive StopStage where
  /-- Wait for the workers of the consumer. -/
  | consumer
  /-- Wait for the workers of the producer. -/
  | producer
  deriving DecidableEq

/-- What a thread that calls into a node has still to do. -/
inductive Task where
  /-- Tell the bus of a node of an event. -/
  | hear (node : Nat) (event : Event)
  /-- Put a job into the ring of a node's producer, which may have been found full. -/
  | offer (node : Nat) (job : Job) (waited : Bool)
  /-- Send an event on this thread. -/
  | send (node : Nat) (sending : Sending)
  /-- Hand a message from outside to the subscribers. -/
  | spread (spread : Spread)
  /-- Wait for the workers of a node, to stop it. -/
  | stop (node : Nat) (stage : StopStage)
  /-- Wait for the workers of a producer that is used by itself. -/
  | halt (node : Nat)

/-- What a thread is told when its call is over. -/
inductive Reply where
  | done
  | answer (answer : StoreAnswer)
  /-- An operation was refused. -/
  | refused (operation : Operation) (error : CacheError)
  | failed (error : BusError)
  | unproduced (error : ProduceError)
  | crashed

/-- A thread that calls into a node. -/
structure Caller where
  ticket : Nat
  tasks : List Task
  reply : Reply
  /-- Whether it uses the producer by itself and is told of its errors. -/
  bare : Bool

namespace Caller

def goOn (caller : Caller) (tasks : List Task) : Caller :=
  { caller with tasks := tasks }

def crash (caller : Caller) : Caller :=
  { caller with tasks := [], reply := .crashed }

def isFinished (caller : Caller) : Bool :=
  caller.tasks.isEmpty

end Caller

structure Cluster where
  clock : Clock
  nodes : List Node
  hub : Hub Member Member
  /-- The messages that the observer has seen, the latest first. -/
  seen : List Message
  callers : List Caller
  nextTicket : Nat

namespace Cluster

def stepTime : Nat := 1000

def ofNodes (nodes : List Node) (clock : Clock) : Cluster where
  clock := clock
  nodes := nodes
  hub := Hub.empty.subscribe .observer .observer
  seen := []
  callers := []
  nextTicket := 0

def node? (cluster : Cluster) (index : Nat) : Option Node :=
  cluster.nodes[index]?

def setNode (cluster : Cluster) (index : Nat) (node : Node) : Cluster :=
  { cluster with nodes := cluster.nodes.set index node }

def modifyNode (cluster : Cluster) (index : Nat) (change : Node → Node) : Cluster :=
  { cluster with nodes := cluster.nodes.modify index change }

def pass (cluster : Cluster) (nanos : Nat) : Cluster :=
  { cluster with clock := cluster.clock.advance nanos }

/-! ## Delivery -/

/-- What comes of handing something over. -/
inductive Handover where
  | done (after : Cluster)
  /-- There is no room yet. -/
  | blocked
  /-- The thread has crashed. -/
  | crashed (after : Cluster)

def handle (cluster : Cluster) (index : Nat) (node : Node) (body : List UInt8) : Cluster × Bool :=
  let handled := node.core.receive body cluster.clock
  (cluster.setNode index { node with core := handled.core }, handled.crashed)

/-- Report that something was dropped or found no room. -/
def markIf (node : Node) (applies : Bool) (mark : Mark) : Node :=
  if applies then node.mark mark else node

def deliverTo (cluster : Cluster) (index : Nat) (node : Node) (message : Message)
    (waited : Bool) : Handover :=
  match node.consumer with
  | .direct =>
      let (after, crashed) := cluster.handle index node message.body
      if crashed then .crashed after else .done after
  | .striped workers =>
      match workers.offer message.hash message.body with
      | .full => .blocked
      | .closed => .done (cluster.setNode index (node.mark (.dropped .consumer)))
      | .accepted workers =>
          let accepted : Node := { node with consumer := .striped workers }
          .done (cluster.setNode index (markIf accepted waited (.ringFull .consumer)))

def deliver (cluster : Cluster) (target : Member) (message : Message) (waited : Bool) : Handover :=
  match target with
  | .observer => .done { cluster with seen := message :: cluster.seen }
  | .outsider => .done cluster
  | .node index =>
      match cluster.node? index with
      | none => .done cluster
      | some node => cluster.deliverTo index node message waited

/-- What comes of one step of handing a message on. -/
inductive SpreadStep where
  | moved (after : Cluster) (spread : Spread)
  | blocked
  /-- Every subscriber has the message. -/
  | done (after : Cluster)
  | crashed (after : Cluster)

def spreadStep (cluster : Cluster) (spread : Spread) : SpreadStep :=
  match spread.left with
  | [] => .done cluster
  | target :: rest =>
      match cluster.deliver target spread.message spread.waited with
      | .done after => .moved after { spread with left := rest, waited := false }
      | .blocked => if spread.waited then .blocked else .moved cluster { spread with waited := true }
      | .crashed after => .crashed after

end Cluster
end CacheSync
