import CacheSync.Cluster.Thread

/-!
# Feeding a node

A node is handed messages, one after the other, and the workers of its consumer take steps meanwhile,
in any order.  A handover may have waited for room.
-/

namespace CacheSync

/-- What is done to a consumer: it is handed a message, or one of its workers takes a step. -/
inductive Feeding where
  | hand (message : Message) (waited : Bool)
  | work (stripe : Nat)

namespace Feeding

/-- The messages that are handed over. -/
def messages : Feeding → List Message
  | .hand message _ => [message]
  | .work _ => []

/-- The message that a node handles meanwhile. -/
def handled? (feeding : Feeding) (node : Node) : Option (List UInt8) :=
  match feeding, node.consumer with
  | .hand message _, .direct => some message.body
  | .hand _ _, .striped _ => none
  | .work _, .direct => none
  | .work stripe, .striped workers => workers.work? stripe

end Feeding

namespace Cluster

/-- Feed a node, if it has room for the message or its worker something to do. -/
def fed? (cluster : Cluster) (index : Nat) : Feeding → Option Cluster
  | .hand message waited =>
      match cluster.deliver (.node index) message waited with
      | .done after => some after
      | _ => none
  | .work stripe => cluster.consumerStep? index stripe

/-- No records of times are removed meanwhile. -/
def spares (cluster : Cluster) (index : Nat) (feeding : Feeding) : Bool :=
  match cluster.node? index with
  | none => true
  | some node =>
      match feeding.handled? node with
      | none => true
      | some body => !node.core.purgesOn body cluster.clock

/-- The states that are reached by feeding a node, with the messages handed over so far. -/
inductive Feed (index : Nat) (start : Cluster) : List Message → Cluster → Prop where
  | refl : Feed index start [] start
  | step {messages : List Message} {middle after : Cluster} {feeding : Feeding} :
      Feed index start messages middle →
      middle.spares index feeding = true →
      middle.fed? index feeding = some after →
      Feed index start (messages ++ feeding.messages) after
  | wait {messages : List Message} {middle : Cluster} (nanos : Nat) :
      Feed index start messages middle →
      Feed index start messages (middle.pass nanos)

/-- A node is fed in this order. -/
def feedAll? (cluster : Cluster) (index : Nat) : List Feeding → Option Cluster
  | [] => some cluster
  | feeding :: rest =>
      if cluster.spares index feeding then
        (cluster.fed? index feeding).bind fun after => after.feedAll? index rest
      else none

end Cluster
end CacheSync
