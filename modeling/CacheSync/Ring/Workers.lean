import CacheSync.Ring.Striped

/-!
# Stripe workers

Each stripe of a ring is drained by one worker.  A worker takes the oldest item of its stripe,
works on it, and takes the next.  A worker that gives up, is cancelled or crashes closes its
stripe, so that nobody waits for a stripe that nobody drains, and it is never replaced.
-/

namespace CacheSync

/-- What a worker does after an item. -/
inductive Verdict where
  | goOn
  /-- End for good; something is wrong. -/
  | giveUp
  /-- End because the node is shutting down. -/
  | cancelled
  /-- The worker crashed on the item. -/
  | crashed
  deriving DecidableEq

/-- Why a worker has ended. -/
inductive Ending where
  /-- Its stripe was closed. -/
  | closed
  | gaveUp
  | cancelled
  | crashed
  deriving DecidableEq

/-- The ending that a verdict leads to, if it does. -/
def Verdict.ending? : Verdict → Option Ending
  | .goOn => none
  | .giveUp => some .gaveUp
  | .cancelled => some .cancelled
  | .crashed => some .crashed

/-- Whether a worker that ends so has failed. -/
def Ending.isFailure : Ending → Bool
  | .gaveUp => true
  | .crashed => true
  | .closed => false
  | .cancelled => false

/-- A worker: idle, busy with some work, or ended. -/
inductive Worker (ω : Type) where
  | idle
  | busy (work : ω)
  | ended (why : Ending)

namespace Worker

variable {ω : Type}

def hasEnded : Worker ω → Bool
  | .ended _ => true
  | _ => false

def hasCrashed : Worker ω → Bool
  | .ended .crashed => true
  | _ => false

end Worker

/-- A striped ring with a worker for each stripe.  Items of type `α` become work of type `ω`. -/
structure Workers (α ω : Type) where
  ring : StripedRing α
  workers : List (Worker ω)

namespace Workers

variable {α ω : Type}

def ofRing (ring : StripedRing α) : Workers α ω :=
  ⟨ring, List.replicate ring.stripeCount .idle⟩

def make (side : Side) (stripes capacity : Nat) : Except ConfigError (Workers α ω) :=
  (StripedRing.make side stripes capacity).map ofRing

def side (w : Workers α ω) : Side :=
  w.ring.side

def offer (w : Workers α ω) (hash : UInt64) (item : α) : Offered (Workers α ω) :=
  match w.ring.offer hash item with
  | .accepted ring => .accepted { w with ring := ring }
  | .full => .full
  | .closed => .closed

def setWorker (w : Workers α ω) (stripe : Nat) (worker : Worker ω) : Workers α ω :=
  { w with workers := w.workers.set stripe worker }

def work? (w : Workers α ω) (stripe : Nat) : Option ω :=
  match w.workers[stripe]? with
  | some (.busy work) => some work
  | _ => none

/-- An idle worker takes the oldest item of its stripe, or ends if the stripe is closed.  Nothing
happens while the stripe is empty or the worker is not idle. -/
def take? (w : Workers α ω) (start : α → ω) (stripe : Nat) : Option (Workers α ω) :=
  match w.workers[stripe]? with
  | some .idle =>
      match w.ring.poll stripe with
      | .taken item ring => some ({ w with ring := ring }.setWorker stripe (.busy (start item)))
      | .empty => none
      | .closed => some (w.setWorker stripe (.ended .closed))
  | _ => none

def endWorker (w : Workers α ω) (stripe : Nat) (why : Ending) : Workers α ω :=
  { w with ring := w.ring.closeStripe stripe }.setWorker stripe (.ended why)

def settle (w : Workers α ω) (stripe : Nat) : Verdict → Workers α ω
  | .goOn => w.setWorker stripe .idle
  | .giveUp => w.endWorker stripe .gaveUp
  | .cancelled => w.endWorker stripe .cancelled
  | .crashed => w.endWorker stripe .crashed

def verdictMarks (side : Side) : Verdict → List Mark
  | .giveUp => [.workerFailed side]
  | .crashed => [.workerFailed side]
  | _ => []

def crashes (w : Workers α ω) : Nat :=
  w.workers.countP Worker.hasCrashed

/-- Close every stripe.  Each worker ends once it is done with the item it works on. -/
def close (w : Workers α ω) : Workers α ω :=
  { w with ring := w.ring.close }

def allEnded (w : Workers α ω) : Bool :=
  w.workers.all Worker.hasEnded

end Workers
end CacheSync
