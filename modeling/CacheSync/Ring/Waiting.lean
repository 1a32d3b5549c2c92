import CacheSync.Ring.Striped

/-!
# Waiting calls

A call that offers to a full stripe or polls an empty one waits until another call lets it go on,
or until the stripe is closed.  A `RingQueue` holds a striped ring and the calls that wait, first
come first served, and remembers of each offer whether it found its stripe full.
-/

namespace CacheSync

/-- A call on a striped ring that may have to wait. -/
inductive RingCall (α : Type) where
  | offer (hash : UInt64) (item : α)
  | poll (stripe : Nat)

/-- The answer of a call that has gone through. -/
inductive RingReply (α : Type) where
  /-- The item was added; the flag says whether the stripe was found full. -/
  | added (foundFull : Bool)
  | taken (item : α)
  | closed

namespace RingReply

def closedMessage : String :=
  "ring buffer is closed"

end RingReply

/-- A step on a striped ring and the calls that wait for it. -/
inductive RingStep (α : Type) where
  | call (call : RingCall α)
  /-- The waiting call at a place among those that wait tries again. -/
  | retry (place : Nat)
  | closeStripe (stripe : Nat)
  | close

/-- A call that waits. -/
structure WaitingCall (α : Type) where
  ticket : Nat
  call : RingCall α

/-- A striped ring and the calls on it. -/
structure RingQueue (α : Type) where
  ring : StripedRing α
  meter : Meter
  waiting : List (WaitingCall α)
  /-- The answers of the calls that have gone through, by ticket, the latest first. -/
  replies : List (Nat × RingReply α)
  nextTicket : Nat

namespace RingQueue

variable {α : Type}

def ofRing (ring : StripedRing α) : RingQueue α :=
  ⟨ring, .empty, [], [], 0⟩

/-- The answer of a call, once it has gone through. -/
def reply? (queue : RingQueue α) (ticket : Nat) : Option (RingReply α) :=
  queue.replies.lookup ticket

def answer (queue : RingQueue α) (ticket : Nat) (reply : RingReply α) : RingQueue α :=
  { queue with replies := (ticket, reply) :: queue.replies }

def setRing (queue : RingQueue α) (ring : StripedRing α) (stripe : Nat) : RingQueue α :=
  { queue with ring := ring, meter := ring.reportCursors stripe queue.meter }

/-- Let a call go through if it need not wait. -/
def attempt (queue : RingQueue α) (waited : Bool) (ticket : Nat) :
    RingCall α → Option (RingQueue α)
  | .offer hash item =>
      match queue.ring.offer hash item with
      | .accepted ring =>
          some ((queue.setRing ring (ring.stripeFor hash)).answer ticket (.added waited))
      | .full => none
      | .closed => some (queue.answer ticket .closed)
  | .poll stripe =>
      match queue.ring.poll stripe with
      | .taken item ring => some ((queue.setRing ring stripe).answer ticket (.taken item))
      | .empty => none
      | .closed => some (queue.answer ticket .closed)

/-- Let the first waiting call go through that can, among those given.  The answer also lists the
calls that still wait. -/
def wakeFirst (queue : RingQueue α) :
    List (WaitingCall α) → Option (RingQueue α × List (WaitingCall α))
  | [] => none
  | one :: rest =>
      match queue.attempt true one.ticket one.call with
      | some after => some (after, rest)
      | none => (queue.wakeFirst rest).map fun (after, left) => (after, one :: left)

/-- Let waiting calls go through until none can.  `bound` is at least their number. -/
def wake : (bound : Nat) → RingQueue α → RingQueue α
  | 0, queue => queue
  | bound + 1, queue =>
      match queue.wakeFirst queue.waiting with
      | none => queue
      | some (after, left) => wake bound { after with waiting := left }

/-- Let waiting calls go through until none can. -/
def wakeAll (queue : RingQueue α) : RingQueue α :=
  wake (queue.waiting.length + 1) queue

/-- Make a call, which waits if it must, and let others go on if it lets them.  The answer is its
ticket. -/
def call (queue : RingQueue α) (call : RingCall α) : RingQueue α × Nat :=
  let ticket := queue.nextTicket
  let counted : RingQueue α := { queue with nextTicket := ticket + 1 }
  match counted.attempt false ticket call with
  | some after => (after.wakeAll, ticket)
  | none => ({ counted with waiting := counted.waiting ++ [⟨ticket, call⟩] }, ticket)

def closeStripe (queue : RingQueue α) (stripe : Nat) : RingQueue α :=
  { queue with ring := queue.ring.closeStripe stripe }.wakeAll

def close (queue : RingQueue α) : RingQueue α :=
  { queue with ring := queue.ring.close }.wakeAll

/-! ## Steps in any order -/

/-- Make a step.  The calls that wait try again in whatever order the steps say. -/
def step (queue : RingQueue α) : RingStep α → RingQueue α
  | .call call =>
      let counted : RingQueue α := { queue with nextTicket := queue.nextTicket + 1 }
      (counted.attempt false queue.nextTicket call).getD
        { counted with waiting := counted.waiting ++ [⟨queue.nextTicket, call⟩] }
  | .retry place =>
      match queue.waiting[place]? with
      | none => queue
      | some one =>
          match queue.attempt true one.ticket one.call with
          | none => queue
          | some after => { after with waiting := queue.waiting.eraseIdx place }
  | .closeStripe stripe => { queue with ring := queue.ring.closeStripe stripe }
  | .close => { queue with ring := queue.ring.close }

def stepAll (queue : RingQueue α) (steps : List (RingStep α)) : RingQueue α :=
  steps.foldl step queue

/-- Make a step, and let waiting calls go through, first come, first served. -/
def serve (queue : RingQueue α) : RingStep α → RingQueue α
  | .call call => (queue.call call).1
  | .retry place => (queue.step (.retry place)).wakeAll
  | .closeStripe stripe => queue.closeStripe stripe
  | .close => queue.close

end RingQueue
end CacheSync
