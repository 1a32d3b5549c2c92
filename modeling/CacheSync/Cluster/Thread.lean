import CacheSync.Cluster.Sending

/-!
# Threads

The threads of a cluster are the callers, the workers of its nodes, and the threads that remove
timestamp records.  `Cluster.step?` is one step of one thread; there is none while the thread has
to wait or has nothing to do.
-/

namespace CacheSync

/-- The threads of a cluster. -/
inductive Thread where
  | caller (ticket : Nat)
  | producerWorker (node stripe : Nat)
  | consumerWorker (node stripe : Nat)
  | cleaner (node : Nat)
  deriving DecidableEq

namespace Cluster

/-! ## Workers of a producer -/

def modifyProducer (cluster : Cluster) (index : Nat)
    (change : Workers Job Sending → Workers Job Sending) : Cluster :=
  cluster.modifyNode index fun node => { node with producer := node.producer.modify change }

def verdictOf : Except ProduceError Unit → Verdict
  | .ok () => .goOn
  | .error (.notRecoverable _ _ _) => .giveUp
  | .error .cancelled => .cancelled
  | .error _ => .goOn

/-- What a worker reports of a sending.  A failure of the worker itself is reported as such. -/
def resultMarks (job : Job) : Except ProduceError Unit → List Mark
  | .ok () => []
  | .error (.notRecoverable _ _ _) => []
  | .error .cancelled => []
  | .error _ => [.produceFailed job.config.name]

def settleProducer (cluster : Cluster) (index stripe : Nat) (verdict : Verdict)
    (marks : List Mark) : Cluster :=
  (cluster.modifyNode index fun node =>
      node.markAll (marks ++ Workers.verdictMarks .producer verdict)).modifyProducer index
    fun workers => workers.settle stripe verdict

def producerWork (cluster : Cluster) (index stripe : Nat) (sending : Sending) : Option Cluster :=
  match cluster.sendStep index sending with
  | .moved after sending =>
      some (after.modifyProducer index fun workers => workers.setWorker stripe (.busy sending))
  | .blocked => none
  | .done after result =>
      some (after.settleProducer index stripe (verdictOf result) (resultMarks sending.job result))
  | .crashed after => some (after.settleProducer index stripe .crashed [])

def producerStep? (cluster : Cluster) (index stripe : Nat) : Option Cluster :=
  match (cluster.node? index).bind fun node => node.producer.workers? with
  | none => none
  | some workers =>
      match workers.work? stripe with
      | some sending => cluster.producerWork index stripe sending
      | none =>
          (workers.take? Sending.ofJob stripe).map fun workers =>
            cluster.modifyProducer index fun _ => workers

/-! ## Workers of a consumer -/

def modifyConsumer (cluster : Cluster) (index : Nat)
    (change : Workers (List UInt8) (List UInt8) → Workers (List UInt8) (List UInt8)) : Cluster :=
  cluster.modifyNode index fun node => { node with consumer := node.consumer.modify change }

def consumerWork (cluster : Cluster) (index stripe : Nat) (node : Node) (body : List UInt8) :
    Cluster :=
  let (handled, crashed) := cluster.handle index node body
  let verdict := if crashed then Verdict.crashed else .goOn
  (handled.modifyNode index fun node =>
      node.markAll (Workers.verdictMarks .consumer verdict)).modifyConsumer index
    fun workers => workers.settle stripe verdict

def consumerStep? (cluster : Cluster) (index stripe : Nat) : Option Cluster :=
  match cluster.node? index with
  | none => none
  | some node =>
      match node.consumer.workers? with
      | none => none
      | some workers =>
          match workers.work? stripe with
          | some body => some (cluster.consumerWork index stripe node body)
          | none =>
              (workers.take? id stripe).map fun workers =>
                cluster.modifyConsumer index fun _ => workers

/-! ## Removal of timestamp records -/

/-- Carry out the removal that has waited longest. -/
def cleanerStep? (cluster : Cluster) (index : Nat) : Option Cluster :=
  match cluster.node? index with
  | none => none
  | some node =>
      match node.core.cleanups with
      | [] => none
      | (cache, expiration) :: rest =>
          let core := { node.core with cleanups := rest }.cleanUp cache expiration cluster.clock
          some (cluster.setNode index { node with core := core })

/-! ## Callers -/

/-- The cluster and the caller after a step of the caller. -/
abbrev CallerStep := Option (Cluster × Caller)

/-- Count an event that was not sent, or tell a caller who uses the producer by itself. -/
def notSent (cluster : Cluster) (index : Nat) (caller : Caller) (job : Job)
    (error : ProduceError) : Cluster × Caller :=
  if caller.bare then (cluster, { caller with reply := .unproduced error })
  else
    (cluster.modifyNode index fun node => node.mark (.produceFailed job.config.name), caller)

def hearStep (cluster : Cluster) (caller : Caller) (rest : List Task) (index : Nat)
    (event : Event) : CallerStep :=
  match cluster.node? index with
  | none => some (cluster, caller.goOn rest)
  | some node =>
      let (core, config?) := node.core.outbound event cluster.clock
      let decided := cluster.setNode index { node with core := core }
      match config? with
      | none => some (decided, caller.goOn rest)
      | some config =>
          if node.pipeline ≠ .running then some (decided, caller.goOn rest)
          else
            let job : Job := ⟨config, event⟩
            let task :=
              match node.producer with
              | .direct => Task.send index (.ofJob job)
              | .striped _ => .offer index job false
            some (decided, caller.goOn (task :: rest))

def offerStep (cluster : Cluster) (caller : Caller) (rest : List Task) (index : Nat) (job : Job)
    (waited : Bool) : CallerStep :=
  match (cluster.node? index).bind fun node => node.producer.workers? with
  | none => some (cluster, caller.goOn rest)
  | some workers =>
      match workers.offer job.hash job with
      | .accepted workers =>
          let added := cluster.modifyProducer index fun _ => workers
          some (added.modifyNode index fun node => markIf node waited (.ringFull .producer),
            caller.goOn rest)
      | .full =>
          if waited then none
          else some (cluster, caller.goOn (.offer index job true :: rest))
      | .closed => some (cluster.notSent index (caller.goOn rest) job .closed)

def directStep (cluster : Cluster) (caller : Caller) (rest : List Task) (index : Nat)
    (sending : Sending) : CallerStep :=
  match cluster.sendStep index sending with
  | .moved after sending => some (after, caller.goOn (.send index sending :: rest))
  | .blocked => none
  | .done after (.ok ()) => some (after, caller.goOn rest)
  | .done after (.error error) =>
      some (after.notSent index (caller.goOn rest) sending.job error)
  | .crashed after => some (after, caller.crash)

def outsideStep (cluster : Cluster) (caller : Caller) (rest : List Task) (spread : Spread) :
    CallerStep :=
  match cluster.spreadStep spread with
  | .moved after spread => some (after, caller.goOn (.spread spread :: rest))
  | .blocked => none
  | .done after => some (after, caller.goOn rest)
  | .crashed after => some (after, caller.crash)

/-- Go on with stopping a node, once the workers it waits for have ended. -/
def stopStep (cluster : Cluster) (caller : Caller) (rest : List Task) (index : Nat)
    (stage : StopStage) : CallerStep :=
  match cluster.node? index with
  | none => some (cluster, caller.goOn rest)
  | some node =>
      match stage with
      | .consumer =>
          if node.consumer.allEnded then
            some (cluster.setNode index node.closeProducer,
              caller.goOn (.stop index .producer :: rest))
          else none
      | .producer =>
          if node.producer.allEnded then
            let (stopped, hub, crashed) := node.finishStop (.node index) cluster.hub
            some ({ cluster.setNode index stopped with hub := hub },
              if crashed then caller.crash else caller.goOn rest)
          else none

def haltStep (cluster : Cluster) (caller : Caller) (rest : List Task) (index : Nat) : CallerStep :=
  match cluster.node? index with
  | none => some (cluster, caller.goOn rest)
  | some node => if node.producer.allEnded then some (cluster, caller.goOn rest) else none

def taskStep (cluster : Cluster) (caller : Caller) (task : Task) (rest : List Task) : CallerStep :=
  match task with
  | .hear index event => cluster.hearStep caller rest index event
  | .offer index job waited => cluster.offerStep caller rest index job waited
  | .send index sending => cluster.directStep caller rest index sending
  | .spread spread => cluster.outsideStep caller rest spread
  | .stop index stage => cluster.stopStep caller rest index stage
  | .halt index => cluster.haltStep caller rest index

def caller? (cluster : Cluster) (ticket : Nat) : Option Caller :=
  cluster.callers.find? (·.ticket == ticket)

def setCaller (cluster : Cluster) (caller : Caller) : Cluster :=
  { cluster with
    callers := cluster.callers.map fun other =>
      if other.ticket = caller.ticket then caller else other }

def callerStep? (cluster : Cluster) (ticket : Nat) : Option Cluster :=
  match cluster.caller? ticket with
  | none => none
  | some caller =>
      match caller.tasks with
      | [] => none
      | task :: rest =>
          (cluster.taskStep caller task rest).map fun (after, caller) => after.setCaller caller

/-! ## All threads -/

/-- One step of a thread, without the time it takes. -/
def act? (cluster : Cluster) : Thread → Option Cluster
  | .caller ticket => cluster.callerStep? ticket
  | .producerWorker index stripe => cluster.producerStep? index stripe
  | .consumerWorker index stripe => cluster.consumerStep? index stripe
  | .cleaner index => cluster.cleanerStep? index

/-- One step of a thread. -/
def step? (cluster : Cluster) (thread : Thread) : Option Cluster :=
  (cluster.act? thread).map fun after => after.pass stepTime

end Cluster
end CacheSync
