import CacheSync.Channel.Basic
import CacheSync.Health
import CacheSync.Node.Core
import CacheSync.Node.Sending
import CacheSync.Ring.Workers

/-!
# Nodes

A node joins the core with a channel.  Its producer sends what the core lets out; its consumer
hands the core what the channel delivers.  Either works on the calling thread or through a crew of
stripe workers.

A node is started once and stopped once.  A start that fails closes the channel again.  A stop
shuts recovery down and closes the rings; when all workers have ended, `Node.finishStop` closes the
channel, takes the listeners of the node off its caches and forgets the timestamp records.
-/

namespace CacheSync

/-- How one side of a node does its work. -/
inductive Crew (α ω : Type) where
  /-- On the calling thread. -/
  | direct
  | striped (workers : Workers α ω)

namespace Crew

variable {α ω : Type}

def make (side : Side) : Dispatch → Except ConfigError (Crew α ω)
  | .direct => .ok .direct
  | .striped stripes capacity => (Workers.make side stripes capacity).map .striped

def crashes : Crew α ω → Nat
  | .direct => 0
  | .striped workers => workers.crashes

def close : Crew α ω → Crew α ω
  | .direct => .direct
  | .striped workers => .striped workers.close

def allEnded : Crew α ω → Bool
  | .direct => true
  | .striped workers => workers.allEnded

def workers? : Crew α ω → Option (Workers α ω)
  | .direct => none
  | .striped workers => some workers

def modify (crew : Crew α ω) (change : Workers α ω → Workers α ω) : Crew α ω :=
  match crew with
  | .direct => .direct
  | .striped workers => .striped (change workers)

end Crew

/-- Whether the two sides of a node take work. -/
inductive PipelineState where
  | absent
  | running
  /-- Taken down by a stop. -/
  | taken
  deriving DecidableEq

/-- A listener that a node has put on one of its caches. -/
structure Registration where
  cache : String
  id : Nat
  deriving DecidableEq

structure Node where
  name : String
  core : Core
  channel : Channel
  recoveries : Recoveries
  pipeline : PipelineState
  producer : Crew Job Sending
  consumer : Crew (List UInt8) (List UInt8)
  registrations : List Registration
  /-- What the caches say of their own health. -/
  cachesHealth : ComponentHealth

namespace Node

/-- A node that has not been started. -/
def new (name : String) (core : Core) (channel : Channel) (cachesHealth : ComponentHealth) :
    Node where
  name := name
  core := core
  channel := channel
  recoveries := .new core.config.recovery
  pipeline := .absent
  producer := .direct
  consumer := .direct
  registrations := []
  cachesHealth := cachesHealth

def build (name : String) (config : BusConfig) (codec : Codec) (channel : Option Channel)
    (caches : Option (CacheShelf × ComponentHealth)) : Except BusError Node :=
  match channel, caches with
  | none, _ => .error (.config .missingChannel)
  | some _, none => .error (.config .missingCacheManager)
  | some channel, some (shelf, health) => .ok (.new name (.new config codec shelf) channel health)

/-- A node of which only the producer is used, with settings of recovery that nobody has
checked. -/
def ofProducer (name : String) (dispatch : Dispatch) (recovery : RecoverySettings)
    (threshold : Nat) (codec : Codec) (channel : Channel) : Except BusError Node :=
  match Crew.make .producer dispatch with
  | .error error => .error (.config error)
  | .ok producer =>
      let definition : BusDefinition :=
        { BusDefinition.default with recovery := recovery, threshold := threshold }
      .ok { new name (.new definition.bare codec .empty) channel .up with
        pipeline := .running, producer := producer }

def mark (node : Node) (mark : Mark) : Node :=
  { node with core := node.core.mark mark }

def markAll (node : Node) (marks : List Mark) : Node :=
  { node with core := node.core.markAll marks }

def log (node : Node) (call : ChannelCall) : Node :=
  { node with channel := node.channel.log call }

def ledger (node : Node) : Ledger :=
  node.recoveries.ledger

/-! ## Health -/

def failures (node : Node) (side : Side) : Nat :=
  node.ledger.unrecoverable.get side +
    match side with
    | .producer => node.producer.crashes
    | .consumer => node.consumer.crashes

def crewHealth (node : Node) (side : Side) : ComponentHealth :=
  workerHealth side (node.failures side) node.core.config.threshold

def sideHealth (node : Node) (side : Side) : ComponentHealth :=
  if node.pipeline = .running then node.crewHealth side else .ofStatus .down

def noteRecovering (ledger : Ledger) (health : ComponentHealth) (side : Side) : ComponentHealth :=
  let count := ledger.recovering.get side
  health.noteIf (0 < count) .warning
    (toString count ++ " " ++ side.name ++ " thread(s) recovering the channel")

def channelHealth (node : Node) : ComponentHealth :=
  let ledger := node.ledger
  let recovering := noteRecovering ledger (noteRecovering ledger node.channel.health .producer)
    .consumer
  (recovering.noteIf ledger.starved .warning "channel recovers frequently").noteIf
    (0 < ledger.interrupted) .info
    (toString ledger.interrupted ++ " recovery loop(s) interrupted by shutdown")

def health (node : Node) : NodeHealth :=
  .ofComponents node.core.isStarted
    [("channel", node.channelHealth), ("producer", node.sideHealth .producer),
      ("consumer", node.sideHealth .consumer), ("caches", node.cachesHealth)]

/-! ## Listeners -/

def isRegistered (node : Node) (cache : String) : Bool :=
  node.registrations.any (·.cache == cache)

/-- Put a listener on a cache that is there and has none of this node. -/
def registerOn (node : Node) (cache : String) : Node :=
  if node.isRegistered cache then node
  else
    match node.core.shelf.store? cache with
    | none => node
    | some store =>
        let (listened, id) := store.listen .bus
        { node with
          core := { node.core with shelf := node.core.shelf.setStore listened }
          registrations := node.registrations ++ [⟨cache, id⟩] }

/-- Put a listener on every configured cache that is there.  The answer is the number of new
ones; a stopped node adds none. -/
def register (node : Node) : Node × Nat :=
  if node.core.lifecycle = .stopped then (node, 0)
  else
    let after := node.core.config.caches.keys.foldl registerOn node
    (after, after.registrations.length - node.registrations.length)

def unregisterFrom (shelf : CacheShelf) (registration : Registration) : CacheShelf :=
  match shelf.store? registration.cache with
  | none => shelf
  | some store => shelf.setStore (store.unlisten registration.id).1

def unregister (node : Node) : Node :=
  { node with
    core := { node.core with shelf := node.registrations.foldl unregisterFrom node.core.shelf }
    registrations := [] }

def attach (node : Node) (cache : String) : Option (Node × Nat) :=
  (node.core.shelf.store? cache).map fun store =>
    let (listened, id) := store.listen .bus
    ({ node with core := { node.core with shelf := node.core.shelf.setStore listened } }, id)

/-! ## Starting and stopping -/

/-- Close the channel and leave the hub, unless closing fails.  The flag says whether the thread has
crashed. -/
def closeChannel (node : Node) (member : Member) (hub : Hub Member Member) :
    Node × Hub Member Member × Bool :=
  let logged := node.log .close
  match node.channel.faults.get? .close with
  | some fault => (logged, hub, fault = .crash)
  | none => ({ logged with channel := logged.channel.close }, hub.leave member, false)

def activate (node : Node) : Except CallFault Node :=
  match node.channel.faults.get? .activate with
  | some fault => .error fault
  | none =>
      (node.channel.activate.mapError .error).map fun channel => { node with channel := channel }

def subscribe (node : Node) (member : Member) (hub : Hub Member Member) :
    Except CallFault (Hub Member Member) :=
  match node.channel.faults.get? .subscribe with
  | some fault => .error fault
  | none => (node.channel.open?.mapError .error).map fun _ => hub.subscribe member member

def withCrews (node : Node) : Except ConfigError Node := do
  let producer ← Crew.make .producer node.core.config.producer
  let consumer ← Crew.make .consumer node.core.config.consumer
  .ok { node with producer := producer, consumer := consumer }

def run (node : Node) : Node :=
  { node with pipeline := .running, core := { node.core with lifecycle := .started } }

/-- Close the channel again after a start that has failed. -/
def giveUp (node : Node) (member : Member) (hub : Hub Member Member) (error : BusError) :
    Node × Hub Member Member × BusOutcome :=
  let (closed, hub, crashed) := node.closeChannel member hub
  (closed, hub, if crashed then .crashed else .failed error)

/-- Start an active node: build its crews and subscribe. -/
def join (node : Node) (member : Member) (hub : Hub Member Member) :
    Node × Hub Member Member × BusOutcome :=
  match node.withCrews with
  | .error error => node.giveUp member hub (.config error)
  | .ok crewed =>
      match node.subscribe member hub with
      | .error .crash => (node.log .subscribe, hub, .crashed)
      | .error (.error error) => (node.log .subscribe).giveUp member hub (.channel error)
      | .ok hub => ((crewed.log .subscribe).run, hub, .done)

def start (node : Node) (member : Member) (hub : Hub Member Member) :
    Node × Hub Member Member × BusOutcome :=
  match node.core.lifecycle with
  | .started => (node, hub, .failed .alreadyStarted)
  | .stopped => (node, hub, .failed .alreadyStopped)
  | .created =>
      match node.activate with
      | .error fault => (node.log .activate, hub, .ofFault fault)
      | .ok active => (active.log .activate).join member hub

/-- Begin to stop a node: nothing is taken in any more, recovery is shut down, and the rings of
the consumer are closed. -/
def beginStop (node : Node) : Except BusError Node :=
  match node.core.lifecycle with
  | .created => .error .notStarted
  | .stopped => .error .alreadyStopped
  | .started =>
      .ok { node with
        core := { node.core with lifecycle := .stopped }
        recoveries := node.recoveries.trigger
        pipeline := .taken
        consumer := node.consumer.close }

def closeProducer (node : Node) : Node :=
  { node with producer := node.producer.close }

/-- Take the listeners off the caches and forget the records of times. -/
def forget (node : Node) : Node :=
  let silent := node.unregister
  { silent with core := { silent.core with timestamps := silent.core.timestamps.clear } }

/-- End a stop.  A crash of the channel leaves the listeners and the records; the flag says whether
there was one. -/
def finishStop (node : Node) (member : Member) (hub : Hub Member Member) :
    Node × Hub Member Member × Bool :=
  let (closed, hub, crashed) := node.closeChannel member hub
  (if crashed then closed else closed.forget, hub, crashed)

end Node
end CacheSync
