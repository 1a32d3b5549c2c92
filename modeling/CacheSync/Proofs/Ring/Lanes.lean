import CacheSync.Ring.Waiting

/-!
# Calls on plain queues

`Lanes` are plain queues of one capacity, one for each stripe, and a `Desk` takes calls on them: a
call that cannot go through waits, and may try again after any other step, in any order.  An offer
is told whether it had to wait.  This is what calls on a striped ring are to be compared with.
-/

namespace CacheSync

/-! ## Plain queues -/

/-- Queues of one capacity, the oldest item first.  A closed queue is none any more. -/
structure Lanes (α : Type) where
  capacity : Nat
  queues : List (Option (List α))

namespace Lanes

variable {α : Type}

def ofShape (stripes capacity : Nat) : Lanes α :=
  ⟨capacity, List.replicate stripes (some [])⟩

/-- The queue of a stripe, unless it is closed or there is no such stripe. -/
def queue? (lanes : Lanes α) (stripe : Nat) : Option (List α) :=
  (lanes.queues[stripe]?).join

def setQueue (lanes : Lanes α) (stripe : Nat) (queue : Option (List α)) : Lanes α :=
  { lanes with queues := lanes.queues.set stripe queue }

/-- Let a call go through if it need not wait. -/
def attempt (lanes : Lanes α) (waited : Bool) : RingCall α → Option (Lanes α × RingReply α)
  | .offer hash item =>
      let stripe := hash.toNat % lanes.queues.length
      match lanes.queue? stripe with
      | none => some (lanes, .closed)
      | some items =>
          if items.length < lanes.capacity then
            some (lanes.setQueue stripe (some (items ++ [item])), .added waited)
          else none
  | .poll stripe =>
      match lanes.queue? stripe with
      | none => some (lanes, .closed)
      | some [] => none
      | some (item :: rest) => some (lanes.setQueue stripe (some rest), .taken item)

def closeStripe (lanes : Lanes α) (stripe : Nat) : Lanes α :=
  lanes.setQueue stripe none

def close (lanes : Lanes α) : Lanes α :=
  { lanes with queues := lanes.queues.map fun _ => none }

theorem queue?_setQueue_of_ne (lanes : Lanes α) {stripe other : Nat} (different : stripe ≠ other)
    (queue : Option (List α)) :
    (lanes.setQueue stripe queue).queue? other = lanes.queue? other := by
  unfold queue? setQueue
  rw [List.getElem?_set_ne different]

/-- A call leaves closed what is closed. -/
theorem queue?_of_attempt {lanes after : Lanes α} {waited : Bool} {call : RingCall α}
    {reply : RingReply α} (done : lanes.attempt waited call = some (after, reply)) {stripe : Nat}
    (closed : lanes.queue? stripe = none) : after.queue? stripe = none := by
  have changed {place : Nat} {items : List α} (held : lanes.queue? place = some items)
      (queue : Option (List α)) : (lanes.setQueue place queue).queue? stripe = none := by
    rw [queue?_setQueue_of_ne, closed]
    rintro rfl
    rw [held] at closed
    cases closed
  cases call with
  | offer hash item =>
      unfold attempt at done
      cases held : lanes.queue? (hash.toNat % lanes.queues.length) with
      | none =>
          simp only [held, Option.some.injEq, Prod.mk.injEq] at done
          rw [← done.1, closed]
      | some items =>
          by_cases room : items.length < lanes.capacity
          · simp only [held, room, ↓reduceIte, Option.some.injEq, Prod.mk.injEq] at done
            rw [← done.1]
            exact changed held _
          · simp only [held, room, ↓reduceIte, reduceCtorEq] at done
  | poll source =>
      unfold attempt at done
      cases held : lanes.queue? source with
      | none =>
          simp only [held, Option.some.injEq, Prod.mk.injEq] at done
          rw [← done.1, closed]
      | some items =>
          cases items with
          | nil => simp only [held, reduceCtorEq] at done
          | cons item rest =>
              simp only [held, Option.some.injEq, Prod.mk.injEq] at done
              rw [← done.1]
              exact changed held _

theorem queue?_closeStripe {lanes : Lanes α} {stripe : Nat} (place : Nat)
    (closed : lanes.queue? stripe = none) : (lanes.closeStripe place).queue? stripe = none := by
  by_cases same : place = stripe
  · unfold closeStripe queue? setQueue
    rw [same, List.getElem?_set_self']
    cases lanes.queues[stripe]? with
    | none => rfl
    | some queue => rfl
  · rw [closeStripe, queue?_setQueue_of_ne lanes same, closed]

theorem queue?_close (lanes : Lanes α) (stripe : Nat) : lanes.close.queue? stripe = none := by
  unfold close queue?
  rw [List.getElem?_map]
  cases lanes.queues[stripe]? with
  | none => rfl
  | some queue => rfl

end Lanes

/-! ## Steps -/

/-- A call that has gone through. -/
structure Answered (α : Type) where
  ticket : Nat
  call : RingCall α
  reply : RingReply α

namespace Answered

variable {α : Type}

/-- The call took an item from a stripe. -/
def takes (stripe : Nat) (answered : Answered α) : Bool :=
  match answered.call, answered.reply with
  | .poll source, .taken _ => source = stripe
  | _, _ => false

/-- The call added an item to one of so many stripes. -/
def adds (stripes stripe : Nat) (answered : Answered α) : Bool :=
  match answered.call, answered.reply with
  | .offer hash _, .added _ => hash.toNat % stripes = stripe
  | _, _ => false

end Answered

/-- Plain queues, the calls that wait, and those that have gone through, the latest first. -/
structure Desk (α : Type) where
  lanes : Lanes α
  waiting : List (WaitingCall α)
  answered : List (Answered α)
  nextTicket : Nat

namespace Desk

variable {α : Type}

def ofLanes (lanes : Lanes α) : Desk α :=
  ⟨lanes, [], [], 0⟩

/-- Whether the call of a ticket is one of those that wait. -/
def waits (desk : Desk α) (ticket : Nat) : Bool :=
  desk.waiting.any (·.ticket = ticket)

/-- Let the call of a ticket go through if it need not wait any longer. -/
def attempt (desk : Desk α) (ticket : Nat) (call : RingCall α) : Option (Desk α) :=
  (desk.lanes.attempt (desk.waits ticket) call).map fun (lanes, reply) =>
    { desk with lanes := lanes, answered := ⟨ticket, call, reply⟩ :: desk.answered }

theorem waiting_of_attempt {desk after : Desk α} {ticket : Nat} {call : RingCall α}
    (done : desk.attempt ticket call = some after) : after.waiting = desk.waiting := by
  obtain ⟨_, _, rfl⟩ := Option.map_eq_some_iff.1 done
  rfl

def step (desk : Desk α) : RingStep α → Desk α
  | .call call =>
      let counted : Desk α := { desk with nextTicket := desk.nextTicket + 1 }
      (counted.attempt desk.nextTicket call).getD
        { counted with waiting := counted.waiting ++ [⟨desk.nextTicket, call⟩] }
  | .retry place =>
      match desk.waiting[place]? with
      | none => desk
      | some one =>
          match desk.attempt one.ticket one.call with
          | none => desk
          | some after => { after with waiting := desk.waiting.eraseIdx place }
  | .closeStripe stripe => { desk with lanes := desk.lanes.closeStripe stripe }
  | .close => { desk with lanes := desk.lanes.close }

def stepAll (desk : Desk α) (steps : List (RingStep α)) : Desk α :=
  steps.foldl step desk

theorem queue?_of_attempt {desk after : Desk α} {ticket stripe : Nat} {call : RingCall α}
    (done : desk.attempt ticket call = some after) (closed : desk.lanes.queue? stripe = none) :
    after.lanes.queue? stripe = none := by
  obtain ⟨⟨lanes, reply⟩, attempted, rfl⟩ := Option.map_eq_some_iff.1 done
  exact Lanes.queue?_of_attempt attempted closed

theorem queue?_step {desk : Desk α} {stripe : Nat} (closed : desk.lanes.queue? stripe = none)
    (step : RingStep α) : (desk.step step).lanes.queue? stripe = none := by
  cases step with
  | call call =>
      unfold Desk.step
      dsimp only
      cases done : ({ desk with nextTicket := desk.nextTicket + 1 } : Desk α).attempt
          desk.nextTicket call with
      | none => exact closed
      | some after => exact queue?_of_attempt done closed
  | retry place =>
      unfold Desk.step
      dsimp only
      cases desk.waiting[place]? with
      | none => exact closed
      | some one =>
          cases done : desk.attempt one.ticket one.call with
          | none => simpa only [done] using closed
          | some after => simpa only [done] using queue?_of_attempt done closed
  | closeStripe place => exact Lanes.queue?_closeStripe place closed
  | close => exact desk.lanes.queue?_close stripe

/-- A queue is closed for good. -/
theorem queue?_stepAll {desk : Desk α} {stripe : Nat} (closed : desk.lanes.queue? stripe = none)
    (steps : List (RingStep α)) : (desk.stepAll steps).lanes.queue? stripe = none := by
  induction steps generalizing desk with
  | nil => exact closed
  | cons step rest inductionHypothesis => exact inductionHypothesis (queue?_step closed step)

/-- How many items were taken from a stripe. -/
def takes (desk : Desk α) (stripe : Nat) : Nat :=
  desk.answered.countP (Answered.takes stripe)

/-- How many items were added to a stripe. -/
def adds (desk : Desk α) (stripe : Nat) : Nat :=
  desk.answered.countP (Answered.adds desk.lanes.queues.length stripe)

end Desk

end CacheSync
