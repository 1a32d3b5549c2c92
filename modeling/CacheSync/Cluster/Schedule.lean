import CacheSync.Cluster.Request
import CacheSync.Cluster.Thread

/-!
# Schedules

A schedule lets threads take steps, always the first thread that can, until none can.  It then
lets time pass until the next wait between two attempts is over, where that is asked for.
-/

namespace CacheSync.Cluster

def threadsOf (index : Nat) (node : Node) : List Thread :=
  let stripes {α ω : Type} (crew : Crew α ω) : List Nat :=
    match crew with
    | .direct => []
    | .striped workers => List.range workers.workers.length
  (stripes node.producer).map (.producerWorker index) ++
    (stripes node.consumer).map (.consumerWorker index) ++ [.cleaner index]

def threads (cluster : Cluster) : List Thread :=
  cluster.callers.map (fun caller => .caller caller.ticket) ++
    cluster.nodes.zipIdx.flatMap fun node => threadsOf node.2 node.1

def stepFirst? (cluster : Cluster) : List Thread → Option Cluster
  | [] => none
  | thread :: rest =>
      match cluster.step? thread with
      | some after => some after
      | none => cluster.stepFirst? rest

/-- Take steps until no thread can. -/
def settleWithin : (fuel : Nat) → Cluster → Cluster
  | 0, cluster => cluster
  | fuel + 1, cluster =>
      match cluster.stepFirst? cluster.threads with
      | none => cluster
      | some after => settleWithin fuel after

def patience : Nat := 10000000

/-- Take steps until no thread can. -/
def settle (cluster : Cluster) : Cluster :=
  settleWithin patience cluster

/-! ## Waits -/

def callerSending? (caller : Caller) : Option Sending :=
  match caller.tasks with
  | .send _ sending :: _ => some sending
  | _ => none

def workerSendings (node : Node) : List Sending :=
  match node.producer with
  | .direct => []
  | .striped workers =>
      workers.workers.filterMap fun worker =>
        match worker with
        | .busy sending => some sending
        | _ => none

def sendings (cluster : Cluster) : List Sending :=
  cluster.callers.filterMap callerSending? ++ cluster.nodes.flatMap workerSendings

def nextWake? (cluster : Cluster) : Option Moment :=
  (cluster.sendings.filterMap Sending.wakeTime?).min?

/-- Let time pass until the next wait is over, and so on until a condition holds or nobody
waits. -/
def waitWithin : (fuel : Nat) → (Cluster → Bool) → Cluster → Cluster
  | 0, _, cluster => cluster
  | fuel + 1, isDone, cluster =>
      let settled := cluster.settle
      if isDone settled then settled
      else
        match settled.nextWake? with
        | none => settled
        | some wake =>
            waitWithin fuel isDone { settled with clock := settled.clock.advanceTo wake }

def waitUntil (cluster : Cluster) (isDone : Cluster → Bool) : Cluster :=
  waitWithin patience isDone cluster

def isFinished (cluster : Cluster) (ticket : Nat) : Bool :=
  match cluster.caller? ticket with
  | none => true
  | some caller => caller.isFinished

def finish (cluster : Cluster) (ticket : Nat) : Cluster :=
  cluster.waitUntil fun cluster => cluster.isFinished ticket

/-- Whether no sending is recovering the channel. -/
def isCalm (cluster : Cluster) : Bool :=
  !cluster.sendings.any Sending.isRecovering

/-- Wait until no sending is recovering the channel. -/
def awaitRecovery (cluster : Cluster) : Cluster :=
  cluster.waitUntil isCalm

end CacheSync.Cluster
