import CacheSync.Cluster.Schedule

/-!
# Sessions

A session makes one request after another to a cluster.  It waits for the answer of a request,
unless the request is made aside; the answers of those are collected by joining.  Between requests
the threads of the cluster come to rest.

What can be seen of the requests in between two states of a cluster is an `Observation`.
-/

namespace CacheSync

structure Session where
  cluster : Cluster
  /-- The tickets of the requests made aside, the oldest first. -/
  asides : List Nat
  /-- Whether the cluster also comes to rest from recovering its channels. -/
  calms : Bool

/-- What comes of making a request. -/
inductive Asked where
  | replied (reply : Reply)
  /-- It was made aside, and may be over already. -/
  | aside (finished : Bool)

namespace Session

def new (nodes : List Node) (clock : Clock) (calms : Bool) : Session :=
  ⟨.ofNodes nodes clock, [], calms⟩

def rest (session : Session) : Session :=
  let settled := session.cluster.settle
  { session with cluster := if session.calms then settled.awaitRecovery else settled }

def reply (cluster : Cluster) (ticket : Nat) : Reply :=
  match cluster.caller? ticket with
  | none => .done
  | some caller => caller.reply

/-- Make a request.  There is no answer if there is nothing to ask. -/
def ask? (session : Session) (request : Request) (aside : Bool) : Option (Session × Asked) :=
  (session.cluster.request? request).map fun (begun, ticket) =>
    if aside then
      let rested := { session with cluster := begun, asides := session.asides ++ [ticket] }.rest
      (rested, .aside (rested.cluster.isFinished ticket))
    else
      let finished := begun.finish ticket
      ({ session with cluster := finished }, .replied (reply finished ticket))

/-- Wait for the requests made aside.  The answer lists their replies. -/
def join (session : Session) : Session × List Reply :=
  let finished := session.asides.foldl Cluster.finish session.cluster
  ({ session with cluster := finished, asides := [] }, session.asides.map (reply finished))

def modifyNode (session : Session) (index : Nat) (change : Node → Node) : Session :=
  { session with cluster := session.cluster.modifyNode index change }

end Session

/-- What happened between two states of a cluster. -/
structure Observation where
  /-- The messages on the hub, the earliest first. -/
  seen : List Message
  /-- The calls on the channel of each node. -/
  calls : List (String × List ChannelCall)
  marks : List Mark

namespace Observation

/-- The elements of a list, the latest first, that a shorter one had not yet; the earliest first. -/
def news {α : Type} (after before : List α) : List α :=
  (after.take (after.length - before.length)).reverse

def between (before after : Cluster) : Observation :=
  let pairs := before.nodes.zip after.nodes
  { seen := news after.seen before.seen
    calls := pairs.map fun (old, new) => (new.name, news new.channel.calls old.channel.calls)
    marks := pairs.flatMap fun (old, new) => (new.core.meter.since old.core.meter).marks }

/-- The same messages in increasing order of their hashes, those of one hash as they came. -/
def sortedByHash (observation : Observation) : Observation :=
  { observation with seen := observation.seen.mergeSort fun a b => decide (a.hash ≤ b.hash) }

/-- The same without reports of full rings, which depend on how fast the workers are. -/
def withoutFullRings (observation : Observation) : Observation :=
  { observation with
    marks := observation.marks.filter fun mark =>
      match mark with
      | .ringFull _ => false
      | _ => true }

end Observation
end CacheSync
