import CacheSync.Ring.Workers
import Mathlib.Logic.Relation

/-!
# Shifts

A shift is the life of the workers of a striped ring, with everything that goes on around them:
calls that wait to add an item, workers that take items and end in one way or another, and a
shutdown that closes the stripes one after the other.  These take steps in any order.  A worker
that is to end takes three of them: it reports, it closes its stripe, and it leaves.
-/

namespace CacheSync

/-- What a worker does from the time it has taken an item. -/
inductive Duty (ω : Type) where
  | handling (work : ω)
  /-- It is to end and has said so; its stripe may still be open. -/
  | stopping (why : Ending)
  /-- It has closed its stripe. -/
  | leaving (why : Ending)

/-- Workers, the calls on their ring and what has become of them. -/
structure Shift (α ω : Type) where
  workers : Workers α (Duty ω)
  /-- The items that callers wait to add, with their hashes. -/
  waiting : List (UInt64 × α)
  accepted : List (UInt64 × α)
  refused : List (UInt64 × α)
  /-- The items taken, each with the stripe of its worker. -/
  taken : List (Nat × α)
  /-- The number of workers that have reported a crash. -/
  failed : Nat

/-- Who takes a step. -/
inductive Actor where
  | caller
  | worker (stripe : Nat)
  | shutdown

namespace Shift

variable {α ω : Type}

def opening (w : Workers α (Duty ω)) : Shift α ω :=
  ⟨w, [], [], [], [], 0⟩

/-- One step of a shift.  `start` is how a worker begins to work on an item. -/
inductive Step (start : α → ω) : Actor → Shift α ω → Shift α ω → Prop where
  | call (shift : Shift α ω) (hash : UInt64) (item : α) :
      Step start .caller shift { shift with waiting := shift.waiting ++ [(hash, item)] }
  /-- One of the waiting calls finds room.  While there is none, the call goes on waiting. -/
  | accept {shift : Shift α ω} {hash : UInt64} {item : α} {before later : List (UInt64 × α)}
      {w : Workers α (Duty ω)} (waiting_eq : shift.waiting = before ++ (hash, item) :: later)
      (offered : shift.workers.offer hash item = .accepted w) :
      Step start .caller shift { shift with
        workers := w
        waiting := before ++ later
        accepted := shift.accepted ++ [(hash, item)] }
  | refuse {shift : Shift α ω} {hash : UInt64} {item : α} {before later : List (UInt64 × α)}
      (waiting_eq : shift.waiting = before ++ (hash, item) :: later)
      (offered : shift.workers.offer hash item = .closed) :
      Step start .caller shift { shift with
        waiting := before ++ later
        refused := shift.refused ++ [(hash, item)] }
  | take {shift : Shift α ω} {stripe : Nat} {item : α} {ring : StripedRing α}
      {w : Workers α (Duty ω)} (polled : shift.workers.ring.poll stripe = .taken item ring)
      (took : shift.workers.take? (fun item => .handling (start item)) stripe = some w) :
      Step start (.worker stripe) shift { shift with
        workers := w
        taken := shift.taken ++ [(stripe, item)] }
  | retire {shift : Shift α ω} {stripe : Nat} {w : Workers α (Duty ω)}
      (polled : shift.workers.ring.poll stripe = .closed)
      (took : shift.workers.take? (fun item => .handling (start item)) stripe = some w) :
      Step start (.worker stripe) shift { shift with workers := w }
  | handle {shift : Shift α ω} {stripe : Nat} {work : ω}
      (busy : shift.workers.work? stripe = some (.handling work)) (later : ω) :
      Step start (.worker stripe) shift { shift with
        workers := shift.workers.setWorker stripe (.busy (.handling later)) }
  | goOn {shift : Shift α ω} {stripe : Nat} {work : ω}
      (busy : shift.workers.work? stripe = some (.handling work)) :
      Step start (.worker stripe) shift { shift with
        workers := shift.workers.settle stripe .goOn }
  /-- The verdict on an item is that the worker is to end.  A crash is counted at once. -/
  | report {shift : Shift α ω} {stripe : Nat} {work : ω} {verdict : Verdict} {why : Ending}
      (busy : shift.workers.work? stripe = some (.handling work))
      (ends : verdict.ending? = some why) :
      Step start (.worker stripe) shift { shift with
        workers := shift.workers.setWorker stripe (.busy (.stopping why))
        failed := if verdict = .crashed then shift.failed + 1 else shift.failed }
  | shut {shift : Shift α ω} {stripe : Nat} {why : Ending}
      (busy : shift.workers.work? stripe = some (.stopping why)) :
      Step start (.worker stripe) shift { shift with
        workers := { shift.workers with
          ring := shift.workers.ring.closeStripe stripe }.setWorker stripe (.busy (.leaving why)) }
  | leave {shift : Shift α ω} {stripe : Nat} {why : Ending}
      (busy : shift.workers.work? stripe = some (.leaving why)) :
      Step start (.worker stripe) shift { shift with
        workers := shift.workers.setWorker stripe (.ended why) }
  /-- A shutdown has come to a stripe. -/
  | close (shift : Shift α ω) (stripe : Nat) :
      Step start .shutdown shift { shift with
        workers := { shift.workers with ring := shift.workers.ring.closeStripe stripe } }

/-- Any number of steps of anyone, in any order. -/
def Run (start : α → ω) : Shift α ω → Shift α ω → Prop :=
  Relation.ReflTransGen fun shift next => ∃ actor, Step start actor shift next

end Shift
end CacheSync
