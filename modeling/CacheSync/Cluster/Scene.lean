import CacheSync.Cluster.Course

/-!
# Scenes of a striped producer

A scene is a cluster in which one node is used by its striped producer alone.  A worker of the
producer that is to end does not do so at once: its handler returns with a verdict; then a crash is
counted, a failure is reported, the stripe is closed, and only then does the worker end.  These
parts of its handle step are steps of their own here, and between any two of them anybody may act.
Everything that happens in a scene is an `Act`.
-/

namespace CacheSync

/-! ## The end of a handler -/

/-- What a worker that ends so reports. -/
def Ending.reports (why : Ending) (side : Side) : List Mark :=
  if why.isFailure then [.workerFailed side] else []

namespace Cluster

/-- How the worker is to end whose handler returns with a step of its sending, if it is. -/
def SendStep.ending? : SendStep → Option (Cluster × Ending)
  | .moved _ _ => none
  | .blocked => none
  | .done after result => (verdictOf result).ending?.map fun why => (after, why)
  | .crashed after => some (after, .crashed)

/-- What the worker of a stripe works on. -/
def sending? (cluster : Cluster) (index stripe : Nat) : Option Sending :=
  ((cluster.node? index).bind fun node => node.producer.workers?).bind fun workers =>
    workers.work? stripe

/-- The step by which the handler of a worker returns, if the worker is to end then. -/
def farewell? (cluster : Cluster) (index stripe : Nat) : Option (Cluster × Ending) :=
  (cluster.sending? index stripe).bind fun sending => (cluster.sendStep index sending).ending?

/-- Replace the worker of a stripe. -/
def setWorker (cluster : Cluster) (index stripe : Nat) (worker : Worker Sending) : Cluster :=
  cluster.modifyProducer index fun workers => workers.setWorker stripe worker

/-- Close one stripe of a producer. -/
def closeStripe (cluster : Cluster) (index stripe : Nat) : Cluster :=
  cluster.modifyProducer index fun workers =>
    { workers with ring := workers.ring.closeStripe stripe }

end Cluster

/-- A sending that waits between two attempts does so until another moment. -/
def Sending.waitUntil (sending : Sending) (wake : Option Moment) : Sending :=
  match sending.recovery with
  | some ⟨side, .waiting course _⟩ =>
      { sending with recovery := some ⟨side, .waiting course wake⟩ }
  | _ => sending

/-! ## Scenes -/

/-- How far a worker has come since its handler returned. -/
inductive Leg where
  | returned
  /-- If it crashed, it is counted among those that did. -/
  | counted
  /-- If it failed, that is reported. -/
  | reported
  /-- Its stripe is closed. -/
  | shut
  deriving DecidableEq

/-- A worker is about to end. -/
structure Parting where
  why : Ending
  leg : Leg
  deriving DecidableEq

/-- A cluster with the partings of the workers of one producer, by their stripes. -/
structure Scene where
  cluster : Cluster
  partings : List (Option Parting)
  /-- How many of the workers are counted as crashed. -/
  failed : Nat
  /-- The call that stopped the producer first. -/
  stopper : Option Nat

/-- What may happen in a scene. -/
inductive Act where
  | ask (request : Request)
  | step (thread : Thread)
  | wait (nanos : Nat)
  | turn (node : Nat) (turn : Turn)
  /-- Somebody closes the channel of a node. -/
  | shut (node : Nat)
  /-- Somebody shuts the recoveries of a node down. -/
  | trigger (node : Nat)
  /-- A call that stops the producer closes one stripe after the other, and has come to this. -/
  | closeStripe (stripe : Nat)
  /-- The random part of a worker's wait makes it last until another moment. -/
  | draw (stripe : Nat) (wake : Option Moment)

/-- The stripe of a node whose worker a thread is. -/
def Thread.stripeAt? (index : Nat) : Thread → Option Nat
  | .producerWorker node stripe => if node = index then some stripe else none
  | _ => none

def Request.isHalt (index : Nat) : Request → Bool
  | .halt node => node == index
  | _ => false

/-- Whether a request asks nothing of a node, or only to produce an event or to stop doing so. -/
def Request.isApart (index : Nat) : Request → Bool
  | .operate node _ _ _ => node != index
  | .send node _ => node != index
  | .receive node _ => node != index
  | .start node => node != index
  | .stop node => node != index
  | .deliver _ => true
  | .produce _ _ => true
  | .halt _ => true

namespace Scene

open Cluster (stepTime)

def opening (nodes : List Node) (clock : Clock) (stripes : Nat) : Scene :=
  ⟨.ofNodes nodes clock, List.replicate stripes none, 0, none⟩

/-- The number behind the health of the producer: its recoveries that failed for good, and its
workers that are counted as crashed. -/
def failures (scene : Scene) (node : Node) : Nat :=
  node.ledger.unrecoverable.get .producer + scene.failed

def health (scene : Scene) (node : Node) : ComponentHealth :=
  workerHealth .producer (scene.failures node) node.core.config.threshold

/-- The scene after something that concerns the cluster alone. -/
def become (scene : Scene) (cluster : Cluster) : Scene :=
  { scene with cluster := cluster }

def setParting (scene : Scene) (stripe : Nat) (parting : Option Parting) : Scene :=
  { scene with partings := scene.partings.set stripe parting }

/-- The next leg of a parting. -/
def depart (scene : Scene) (index stripe : Nat) (parting : Parting) : Scene :=
  let why := parting.why
  match parting.leg with
  | .returned =>
      { scene with
        failed := scene.failed + if why = Ending.crashed then 1 else 0 }.setParting stripe
          (some ⟨why, .counted⟩)
  | .counted =>
      (scene.become (scene.cluster.modifyNode index fun node =>
        node.markAll (why.reports .producer))).setParting stripe (some ⟨why, .reported⟩)
  | .reported =>
      (scene.become (scene.cluster.closeStripe index stripe)).setParting stripe (some ⟨why, .shut⟩)
  | .shut =>
      (scene.become (scene.cluster.setWorker index stripe (.ended why))).setParting stripe none

/-- A step of the worker of a stripe. -/
def work? (scene : Scene) (index stripe : Nat) : Option Scene :=
  match scene.partings[stripe]? with
  | none => none
  | some (some parting) => some (scene.depart index stripe parting)
  | some none =>
      match scene.cluster.farewell? index stripe with
      | some (after, why) =>
          some ((scene.become (after.pass stepTime)).setParting stripe (some ⟨why, .returned⟩))
      | none => (scene.cluster.step? (.producerWorker index stripe)).map scene.become

/-- The wait of a worker lasts until another moment. -/
def draw? (scene : Scene) (index stripe : Nat) (wake : Option Moment) : Option Scene :=
  match scene.partings[stripe]?, scene.cluster.sending? index stripe with
  | some none, some sending =>
      some (scene.become (scene.cluster.setWorker index stripe (.busy (sending.waitUntil wake))))
  | _, _ => none

/-- A request is made.  A call that stops the producer takes its place if it is the first. -/
def ask? (scene : Scene) (index : Nat) (request : Request) : Option Scene :=
  (scene.cluster.request? request).map fun (after, ticket) =>
    { scene with
      cluster := after
      stopper :=
        if request.isHalt index then scene.stopper.or (some ticket) else scene.stopper }

/-- A scene after an act, if that is possible. -/
def do? (scene : Scene) (index : Nat) : Act → Option Scene
  | .ask request => if request.isApart index then scene.ask? index request else none
  | .step thread =>
      match thread.stripeAt? index with
      | some stripe => scene.work? index stripe
      | none => (scene.cluster.step? thread).map scene.become
  | .wait nanos => some (scene.become (scene.cluster.pass nanos))
  | .turn place turn => some (scene.become (scene.cluster.modifyNode place (·.turn turn)))
  | .shut place => some (scene.become (scene.cluster.shut place))
  | .trigger place =>
      some (scene.become (scene.cluster.modifyNode place fun node =>
        { node with recoveries := node.recoveries.trigger }))
  | .closeStripe stripe => some (scene.become (scene.cluster.closeStripe index stripe))
  | .draw stripe wake => scene.draw? index stripe wake

/-- A scene after a course of acts, if each of them is possible. -/
def after? (scene : Scene) (index : Nat) : List Act → Option Scene
  | [] => some scene
  | act :: rest => (scene.do? index act).bind fun next => next.after? index rest

end Scene
end CacheSync
