import CacheSync.Proofs.Ring.Lanes
import CacheSync.Proofs.Ring.Layout

/-!
# Striped rings are plain queues

After the same steps, calls on a striped ring and calls on plain queues of its shape have had the
same answers, and the same of them wait: `RingQueue.Follows` is kept by every step.  Each ring then
holds what its queue holds, in the slots between its cursors, which count the items taken and added.
A `RingQueue` serves those who come first first, which is one of the orders in which calls may try
again.
-/

namespace CacheSync

/-! ## What a striped ring shows of its queues -/

namespace StripedRing

variable {α : Type} {ring : StripedRing α} {stripe capacity : Nat} {one : Ring α}

/-- The queues that the rings are. -/
def lanes (ring : StripedRing α) (capacity : Nat) : Lanes α :=
  ⟨capacity, ring.rings.toList.map Ring.lane⟩

theorem length_lanes (ring : StripedRing α) (capacity : Nat) :
    (ring.lanes capacity).queues.length = ring.rings.size := by
  simp [lanes]

theorem queue?_lanes (ring : StripedRing α) (capacity stripe : Nat) :
    (ring.lanes capacity).queue? stripe = (ring.rings[stripe]?).bind Ring.lane := by
  unfold Lanes.queue? lanes
  rw [List.getElem?_map, Array.getElem?_toList]
  cases ring.rings[stripe]? with
  | none => rfl
  | some one => rfl

theorem lanes_setRing (ring : StripedRing α) (stripe : Nat) (one : Ring α) (capacity : Nat) :
    (ring.setRing stripe one).lanes capacity =
      (ring.lanes capacity).setQueue stripe one.lane := by
  unfold lanes setRing Lanes.setQueue
  rw [Array.toList_setIfInBounds, List.map_set]

theorem lanes_closeStripe (ring : StripedRing α) (stripe capacity : Nat) :
    (ring.closeStripe stripe).lanes capacity = (ring.lanes capacity).closeStripe stripe := by
  unfold closeStripe
  cases found : ring.rings[stripe]? with
  | none =>
      have outside : (ring.lanes capacity).queues.length ≤ stripe := by
        rw [length_lanes]
        exact Array.getElem?_eq_none_iff.1 found
      unfold Lanes.closeStripe Lanes.setQueue
      rw [List.set_eq_of_length_le outside]
  | some one => exact ring.lanes_setRing stripe one.close capacity

theorem lanes_close (ring : StripedRing α) (capacity : Nat) :
    ring.close.lanes capacity = (ring.lanes capacity).close := by
  unfold lanes close Lanes.close
  rw [Array.toList_map, List.map_map, List.map_map]
  rfl

end StripedRing

namespace RingQueue

variable {α : Type} {stripes capacity : Nat} {queue : RingQueue α} {desk : Desk α}

/-- A queue of calls on rings and one on plain queues have come to the same. -/
structure Follows (stripes capacity : Nat) (queue : RingQueue α) (desk : Desk α) : Prop where
  lanes_eq : desk.lanes = queue.ring.lanes capacity
  waiting_eq : queue.waiting = desk.waiting
  replies_eq : queue.replies = desk.answered.map fun one => (one.ticket, one.reply)
  nextTicket_eq : queue.nextTicket = desk.nextTicket
  fresh : ∀ one ∈ desk.waiting, one.ticket < desk.nextTicket
  size_eq : queue.ring.rings.size = stripes
  rings : ∀ stripe one, queue.ring.rings[stripe]? = some one →
    one.Laid capacity ∧ one.read = desk.takes stripe ∧ one.write = desk.adds stripe

namespace Follows

theorem length_eq (follows : Follows stripes capacity queue desk) :
    desk.lanes.queues.length = stripes := by
  rw [follows.lanes_eq, StripedRing.length_lanes, follows.size_eq]

theorem queue?_eq (follows : Follows stripes capacity queue desk) (stripe : Nat) :
    desk.lanes.queue? stripe = (queue.ring.rings[stripe]?).bind Ring.lane := by
  rw [follows.lanes_eq, StripedRing.queue?_lanes]

theorem stripe_eq (follows : Follows stripes capacity queue desk)
    (power : isPowerOfTwo stripes = true) (hash : UInt64) :
    queue.ring.stripeFor hash = hash.toNat % stripes := by
  rw [StripedRing.stripeFor, StripedRing.stripeCount, follows.size_eq,
    StripedRing.stripeAmong_eq_mod power]

theorem inRange (follows : Follows stripes capacity queue desk)
    (power : isPowerOfTwo stripes = true) (hash : UInt64) :
    queue.ring.stripeFor hash < queue.ring.rings.size := by
  rw [follows.stripe_eq power, follows.size_eq]
  exact Nat.mod_lt _ (Ring.pos_of_isPowerOfTwo power)

/-- A call that finds its stripe closed, or finds none, changes nothing. -/
theorem refuse (follows : Follows stripes capacity queue desk) (ticket : Nat) (call : RingCall α) :
    Follows stripes capacity (queue.answer ticket .closed)
      { desk with answered := ⟨ticket, call, .closed⟩ :: desk.answered } := by
  have nothing (stripe : Nat) : Answered.takes stripe ⟨ticket, call, .closed⟩ = false ∧
      Answered.adds desk.lanes.queues.length stripe ⟨ticket, call, .closed⟩ = false := by
    cases call with
    | offer hash item => exact ⟨rfl, rfl⟩
    | poll source => exact ⟨rfl, rfl⟩
  refine ⟨follows.lanes_eq, follows.waiting_eq, ?_, follows.nextTicket_eq, follows.fresh,
    follows.size_eq, ?_⟩
  · rw [answer, follows.replies_eq]
    rfl
  · intro stripe one found
    obtain ⟨takes, adds⟩ := nothing stripe
    rw [Desk.takes, Desk.adds, List.countP_cons, takes, List.countP_cons, adds]
    exact follows.rings stripe one found

/-- A call that goes through changes the ring of its stripe, and counts there alone. -/
theorem change (follows : Follows stripes capacity queue desk) {stripe : Nat} {old one : Ring α}
    (found : queue.ring.rings[stripe]? = some old) (laid : one.Laid capacity)
    (answered : Answered α) (place : Nat)
    (read_eq : one.read = old.read + if answered.takes stripe then 1 else 0)
    (write_eq : one.write = old.write + if answered.adds stripes stripe then 1 else 0)
    (elsewhere : ∀ other, other ≠ stripe →
      answered.takes other = false ∧ answered.adds stripes other = false) :
    Follows stripes capacity
      ((queue.setRing (queue.ring.setRing stripe one) place).answer answered.ticket
        answered.reply)
      { desk with
        lanes := desk.lanes.setQueue stripe one.lane
        answered := answered :: desk.answered } where
  lanes_eq := by
    rw [follows.lanes_eq, ← StripedRing.lanes_setRing]
    rfl
  waiting_eq := follows.waiting_eq
  replies_eq := by
    rw [answer, List.map_cons, ← follows.replies_eq]
    rfl
  nextTicket_eq := follows.nextTicket_eq
  fresh := follows.fresh
  size_eq := (StripedRing.size_setRing queue.ring stripe one).trans follows.size_eq
  rings other ring here := by
    have inRange : stripe < queue.ring.rings.size := (Array.getElem?_eq_some_iff.1 found).1
    have length : (desk.lanes.setQueue stripe one.lane).queues.length = stripes := by
      rw [← follows.length_eq]
      exact List.length_set
    rw [Desk.takes, Desk.adds, List.countP_cons, List.countP_cons, length]
    have shown : (queue.ring.setRing stripe one).rings[other]? = some ring := here
    rw [StripedRing.setRing, Array.getElem?_setIfInBounds] at shown
    -- The ring of the stripe counts the call; every other ring is as it was, and so are its counts.
    by_cases same : stripe = other
    · subst same
      rw [if_pos rfl, if_pos inRange] at shown
      obtain rfl := Option.some.inj shown
      obtain ⟨_, taken, added⟩ := follows.rings stripe old found
      rw [Desk.takes] at taken
      rw [Desk.adds, follows.length_eq] at added
      exact ⟨laid, by rw [read_eq, taken], by rw [write_eq, added]⟩
    · rw [if_neg same] at shown
      obtain ⟨takes, adds⟩ := elsewhere other (Ne.symm same)
      have kept := follows.rings other ring shown
      rw [Desk.takes, Desk.adds, follows.length_eq] at kept
      rw [takes, adds]
      exact kept

/-- Two attempts of a call let it go through alike, or both leave it waiting. -/
def Alike (stripes capacity : Nat) (after : Option (RingQueue α)) (later : Option (Desk α)) :
    Prop :=
  (after = none ∧ later = none) ∨
    ∃ queue desk, after = some queue ∧ later = some desk ∧ Follows stripes capacity queue desk

theorem offer (follows : Follows stripes capacity queue desk)
    (power : isPowerOfTwo stripes = true) {waited : Bool} {ticket : Nat}
    (known : desk.waits ticket = waited) (hash : UInt64) (item : α) :
    Alike stripes capacity (queue.attempt waited ticket (.offer hash item))
      (desk.attempt ticket (.offer hash item)) := by
  have stripe_eq := follows.stripe_eq power hash
  have inRange := stripe_eq ▸ follows.inRange power hash
  obtain ⟨one, found⟩ : ∃ one, queue.ring.rings[hash.toNat % stripes]? = some one :=
    ⟨_, Array.getElem?_eq_getElem inRange⟩
  have lane := follows.queue?_eq (hash.toNat % stripes)
  rw [found, Option.bind_some] at lane
  have capacity_eq : desk.lanes.capacity = capacity := by
    rw [follows.lanes_eq]
    rfl
  obtain ⟨laid, _, _⟩ := follows.rings _ _ found
  rcases laid.offer_cases item with
    ⟨closed, refused⟩ | ⟨items, held, ⟨full, waits⟩ | ⟨room, after, accepted, laidAfter,
      laneAfter, read_eq, write_eq⟩⟩
  · rw [closed] at lane
    refine Or.inr ⟨_, _, ?_, ?_, follows.refuse ticket (.offer hash item)⟩
    · simp only [RingQueue.attempt, StripedRing.offer, stripe_eq, found, refused]
    · simp only [Desk.attempt, Lanes.attempt, follows.length_eq, lane, Option.map_some]
  · rw [held] at lane
    refine Or.inl ⟨?_, ?_⟩
    · simp only [RingQueue.attempt, StripedRing.offer, stripe_eq, found, waits]
    · simp only [Desk.attempt, Lanes.attempt, follows.length_eq, lane, capacity_eq, full,
        ↓reduceIte, Option.map_none]
  · rw [held] at lane
    have changed := follows.change found laidAfter ⟨ticket, .offer hash item, .added waited⟩
      ((queue.ring.setRing (hash.toNat % stripes) after).stripeFor hash)
      (by simp [read_eq, Answered.takes]) (by simp [write_eq, Answered.adds])
      (fun other different => by simp [Answered.takes, Answered.adds, Ne.symm different])
    rw [laneAfter] at changed
    refine Or.inr ⟨_, _, ?_, ?_, changed⟩
    · simp only [RingQueue.attempt, StripedRing.offer, stripe_eq, found, accepted]
    · simp only [Desk.attempt, Lanes.attempt, follows.length_eq, lane, capacity_eq, room, known,
        ↓reduceIte, Option.map_some]

theorem poll (follows : Follows stripes capacity queue desk) (waited : Bool) (ticket stripe : Nat) :
    Alike stripes capacity (queue.attempt waited ticket (.poll stripe))
      (desk.attempt ticket (.poll stripe)) := by
  have lane := follows.queue?_eq stripe
  cases found : queue.ring.rings[stripe]? with
  | none =>
      rw [found, Option.bind_none] at lane
      refine Or.inr ⟨_, _, ?_, ?_, follows.refuse ticket (.poll stripe)⟩
      · simp only [RingQueue.attempt, StripedRing.poll, found]
      · simp only [Desk.attempt, Lanes.attempt, lane, Option.map_some]
  | some one =>
      rw [found, Option.bind_some] at lane
      obtain ⟨laid, _, _⟩ := follows.rings stripe one found
      rcases laid.poll_cases with
        ⟨closed, refused⟩ | ⟨held, waits⟩ | ⟨item, rest, after, held, taken, laidAfter,
          laneAfter, read_eq, write_eq⟩
      · rw [closed] at lane
        refine Or.inr ⟨_, _, ?_, ?_, follows.refuse ticket (.poll stripe)⟩
        · simp only [RingQueue.attempt, StripedRing.poll, found, refused]
        · simp only [Desk.attempt, Lanes.attempt, lane, Option.map_some]
      · rw [held] at lane
        refine Or.inl ⟨?_, ?_⟩
        · simp only [RingQueue.attempt, StripedRing.poll, found, waits]
        · simp only [Desk.attempt, Lanes.attempt, lane, Option.map_none]
      · rw [held] at lane
        have changed := follows.change found laidAfter ⟨ticket, .poll stripe, .taken item⟩ stripe
          (by simp [read_eq, Answered.takes]) (by simp [write_eq, Answered.adds])
          (fun other different => by simp [Answered.takes, Answered.adds, Ne.symm different])
        rw [laneAfter] at changed
        refine Or.inr ⟨_, _, ?_, ?_, changed⟩
        · simp only [RingQueue.attempt, StripedRing.poll, found, taken]
        · simp only [Desk.attempt, Lanes.attempt, lane, Option.map_some]

/-- A call goes through on both sides and is answered alike, or on neither. -/
theorem attempt (follows : Follows stripes capacity queue desk)
    (power : isPowerOfTwo stripes = true) {waited : Bool} {ticket : Nat}
    (known : desk.waits ticket = waited) (call : RingCall α) :
    Alike stripes capacity (queue.attempt waited ticket call) (desk.attempt ticket call) := by
  cases call with
  | offer hash item => exact follows.offer power known hash item
  | poll stripe => exact follows.poll waited ticket stripe

theorem setWaiting (follows : Follows stripes capacity queue desk)
    {waiting others : List (WaitingCall α)} {ticket other : Nat} (sameWaiting : waiting = others)
    (sameTicket : ticket = other) (fresh : ∀ one ∈ others, one.ticket < other) :
    Follows stripes capacity { queue with waiting := waiting, nextTicket := ticket }
      { desk with waiting := others, nextTicket := other } :=
  ⟨follows.lanes_eq, sameWaiting, follows.replies_eq, sameTicket, fresh, follows.size_eq,
    follows.rings⟩

theorem closeStripe (follows : Follows stripes capacity queue desk) (stripe : Nat) :
    Follows stripes capacity { queue with ring := queue.ring.closeStripe stripe }
      { desk with lanes := desk.lanes.closeStripe stripe } where
  lanes_eq := by rw [follows.lanes_eq, StripedRing.lanes_closeStripe]
  waiting_eq := follows.waiting_eq
  replies_eq := follows.replies_eq
  nextTicket_eq := follows.nextTicket_eq
  fresh := follows.fresh
  size_eq := (queue.ring.size_closeStripe stripe).trans follows.size_eq
  rings other one found := by
    have length : (desk.lanes.closeStripe stripe).queues.length = desk.lanes.queues.length :=
      List.length_set
    have kept := follows.rings other
    rw [Desk.takes, Desk.adds, length]
    rw [StripedRing.getElem?_closeStripe] at found
    split at found
    · obtain ⟨before, here, rfl⟩ := Option.map_eq_some_iff.1 found
      obtain ⟨laid, counts⟩ := kept before here
      exact ⟨laid.close, counts⟩
    · exact kept one found

theorem close (follows : Follows stripes capacity queue desk) :
    Follows stripes capacity { queue with ring := queue.ring.close }
      { desk with lanes := desk.lanes.close } where
  lanes_eq := by rw [follows.lanes_eq, StripedRing.lanes_close]
  waiting_eq := follows.waiting_eq
  replies_eq := follows.replies_eq
  nextTicket_eq := follows.nextTicket_eq
  fresh := follows.fresh
  size_eq := (Array.size_map).trans follows.size_eq
  rings stripe one found := by
    have length : desk.lanes.close.queues.length = desk.lanes.queues.length := List.length_map _
    rw [Desk.takes, Desk.adds, length]
    rw [StripedRing.close, Array.getElem?_map] at found
    obtain ⟨before, here, rfl⟩ := Option.map_eq_some_iff.1 found
    obtain ⟨laid, counts⟩ := follows.rings stripe before here
    exact ⟨laid.close, counts⟩

theorem step (follows : Follows stripes capacity queue desk)
    (power : isPowerOfTwo stripes = true) (step : RingStep α) :
    Follows stripes capacity (queue.step step) (desk.step step) := by
  cases step with
  | call call =>
      have ticket_eq := follows.nextTicket_eq
      have counted := follows.setWaiting follows.waiting_eq (congrArg Nat.succ ticket_eq)
        fun one member => Nat.lt_succ_of_lt (follows.fresh one member)
      -- A ticket is given once, so a call that is made now is none of those that wait.
      have unknown : desk.waits queue.nextTicket = false := by
        refine List.any_eq_false.2 fun one member => ?_
        have earlier := follows.fresh one member
        rw [ticket_eq, decide_eq_true_eq]
        omega
      rcases counted.attempt power unknown call with
        ⟨waits, waitsToo⟩ | ⟨after, later, done, doneToo, kept⟩
      · have waiting_eq : queue.waiting ++ [⟨queue.nextTicket, call⟩] =
            desk.waiting ++ [⟨desk.nextTicket, call⟩] := by
          rw [follows.waiting_eq, ticket_eq]
        have left := follows.setWaiting waiting_eq (congrArg Nat.succ ticket_eq) (by
          intro one member
          rcases List.mem_append.1 member with before | last
          · exact Nat.lt_succ_of_lt (follows.fresh one before)
          · rw [List.mem_singleton.1 last]
            exact Nat.lt_succ_self _)
        rw [ticket_eq] at waitsToo
        simpa only [RingQueue.step, Desk.step, waits, waitsToo, Option.getD_none] using left
      · rw [ticket_eq] at doneToo
        simpa only [RingQueue.step, Desk.step, done, doneToo, Option.getD_some] using kept
  | retry place =>
      unfold RingQueue.step Desk.step
      dsimp only
      rw [follows.waiting_eq]
      cases found : desk.waiting[place]? with
      | none => exact follows
      | some one =>
          have known : desk.waits one.ticket = true :=
            List.any_eq_true.2 ⟨one, List.mem_of_getElem? found, decide_eq_true rfl⟩
          rcases follows.attempt power known one.call with
            ⟨waits, waitsToo⟩ | ⟨after, later, done, doneToo, kept⟩
          · simpa only [waits, waitsToo] using follows
          · have waiting_eq := Desk.waiting_of_attempt doneToo
            have fresh : ∀ one ∈ desk.waiting.eraseIdx place, one.ticket < later.nextTicket := by
              intro one member
              apply kept.fresh
              rw [waiting_eq]
              exact List.mem_of_mem_eraseIdx member
            have left := kept.setWaiting rfl kept.nextTicket_eq fresh
            simpa only [done, doneToo] using left
  | closeStripe stripe => exact follows.closeStripe stripe
  | close => exact follows.close

theorem stepAll (follows : Follows stripes capacity queue desk)
    (power : isPowerOfTwo stripes = true) (steps : List (RingStep α)) :
    Follows stripes capacity (queue.stepAll steps) (desk.stepAll steps) := by
  induction steps generalizing queue desk with
  | nil => exact follows
  | cons step rest inductionHypothesis => exact inductionHypothesis (follows.step power step)

end Follows
/-! ## First come, first served -/

section Service

variable (queue : RingQueue α)

theorem of_wakeFirst {list left : List (WaitingCall α)} {after : RingQueue α}
    (woken : queue.wakeFirst list = some (after, left)) :
    ∃ place one, list[place]? = some one ∧
      queue.attempt true one.ticket one.call = some after ∧ left = list.eraseIdx place := by
  induction list generalizing left with
  | nil => cases woken
  | cons one rest inductionHypothesis =>
      unfold wakeFirst at woken
      cases attempted : queue.attempt true one.ticket one.call with
      | some done =>
          rw [attempted] at woken
          obtain ⟨rfl, rfl⟩ := Prod.mk.inj (Option.some.inj woken)
          exact ⟨0, one, rfl, attempted, rfl⟩
      | none =>
          rw [attempted] at woken
          obtain ⟨⟨done, others⟩, later, same⟩ := Option.map_eq_some_iff.1 woken
          obtain ⟨rfl, rfl⟩ := Prod.mk.inj same
          obtain ⟨place, other, found, done, rfl⟩ := inductionHypothesis later
          exact ⟨place + 1, other, found, done, rfl⟩

/-- To let waiting calls go through is to let them try again in some order. -/
theorem exists_retries_of_wake (bound : Nat) :
    ∃ places : List Nat, wake bound queue = queue.stepAll (places.map .retry) := by
  induction bound generalizing queue with
  | zero => exact ⟨[], rfl⟩
  | succ bound inductionHypothesis =>
      unfold wake
      cases woken : queue.wakeFirst queue.waiting with
      | none => exact ⟨[], rfl⟩
      | some found =>
          obtain ⟨after, left⟩ := found
          obtain ⟨place, one, here, done, rfl⟩ := queue.of_wakeFirst woken
          have stepped : queue.step (.retry place) =
              { after with waiting := queue.waiting.eraseIdx place } := by
            simp only [step, here, done]
          obtain ⟨places, rest⟩ := inductionHypothesis (queue.step (.retry place))
          refine ⟨place :: places, ?_⟩
          dsimp only
          rw [← stepped]
          exact rest

/-- To serve those who come first first is one of the ways to go on. -/
theorem exists_retries_of_serve (step : RingStep α) :
    ∃ places : List Nat, queue.serve step = queue.stepAll (step :: places.map .retry) := by
  cases step with
  | call call =>
      unfold serve RingQueue.call
      dsimp only
      cases attempted :
          ({ queue with nextTicket := queue.nextTicket + 1 } : RingQueue α).attempt false
            queue.nextTicket call with
      | none =>
          refine ⟨[], ?_⟩
          simp only [stepAll, step, attempted, Option.getD_none, List.map_nil, List.foldl_cons,
            List.foldl_nil]
      | some after =>
          obtain ⟨places, woken⟩ := after.exists_retries_of_wake (after.waiting.length + 1)
          refine ⟨places, ?_⟩
          simpa only [wakeAll, stepAll, step, attempted, Option.getD_some, List.foldl_cons]
            using woken
  | retry place => exact exists_retries_of_wake _ _
  | closeStripe stripe => exact exists_retries_of_wake _ _
  | close => exact exists_retries_of_wake _ _

end Service

/-! ## Runs from empty rings -/

/-- Calls on a striped ring go as on plain queues of the same shape: they get the same answers, the
same of them wait, and each ring holds the items of its queue between its cursors. -/
structure Refines (stripes capacity : Nat) (queue : RingQueue α) (desk : Desk α) : Prop where
  replies_eq : queue.replies = desk.answered.map fun one => (one.ticket, one.reply)
  waiting_eq : queue.waiting = desk.waiting
  nextTicket_eq : queue.nextTicket = desk.nextTicket
  lanes_eq : queue.ring.lanes capacity = desk.lanes
  stripe_eq : ∀ hash, queue.ring.stripeFor hash = hash.toNat % stripes
  inRange : ∀ hash, queue.ring.stripeFor hash < queue.ring.rings.size
  orderly : ∀ stripe (one : Ring α), queue.ring.rings[stripe]? = some one →
    one.Orderly capacity (desk.takes stripe) (desk.adds stripe)

theorem Follows.refines (follows : Follows stripes capacity queue desk)
    (power : isPowerOfTwo stripes = true) (powerToo : isPowerOfTwo capacity = true) :
    Refines stripes capacity queue desk := by
  refine ⟨follows.replies_eq, follows.waiting_eq, follows.nextTicket_eq, follows.lanes_eq.symm,
    follows.stripe_eq power, follows.inRange power, ?_⟩
  intro stripe one found
  obtain ⟨laid, read_eq, write_eq⟩ := follows.rings stripe one found
  rw [← read_eq, ← write_eq]
  exact laid.orderly powerToo

end RingQueue

theorem StripedRing.of_make {α : Type} {side : Side} {stripes capacity : Nat}
    {ring : StripedRing α} (made : make side stripes capacity = .ok ring) :
    isPowerOfTwo stripes = true ∧ isPowerOfTwo capacity = true ∧
      ring = ⟨side, Array.replicate stripes (.ofCapacity capacity)⟩ := by
  unfold make Dispatch.checkShape at made
  cases power : isPowerOfTwo stripes with
  | false => simp [power, bind, Except.bind] at made
  | true =>
      cases powerToo : isPowerOfTwo capacity with
      | false => simp [power, powerToo, bind, Except.bind] at made
      | true =>
          simp only [power, powerToo, Bool.not_true, Bool.false_eq_true, ↓reduceIte] at made
          injection made with shape
          exact ⟨rfl, rfl, shape.symm⟩

namespace RingQueue

variable {α : Type} {stripes capacity : Nat}

theorem follows_of_fresh (side : Side) (stripes capacity : Nat) :
    Follows stripes capacity
      (ofRing (α := α) ⟨side, Array.replicate stripes (.ofCapacity capacity)⟩)
      (.ofLanes (.ofShape stripes capacity)) where
  lanes_eq := by
    have opened : (Ring.ofCapacity capacity : Ring α).lane = some [] := by
      rw [Ring.lane_of_opened rfl, (Ring.holds_ofCapacity capacity).queued_eq]
    unfold ofRing StripedRing.lanes Desk.ofLanes Lanes.ofShape
    rw [Array.toList_replicate, List.map_replicate, opened]
  waiting_eq := rfl
  replies_eq := rfl
  nextTicket_eq := rfl
  fresh _ member := by cases member
  size_eq := Array.size_replicate
  rings stripe one found := by
    have fresh : one = .ofCapacity capacity := by
      have member := Array.mem_of_getElem? found
      exact Array.eq_of_mem_replicate member
    rw [fresh]
    exact ⟨Ring.laid_ofCapacity capacity, rfl, rfl⟩

/-- Whatever calls are made on a striped ring, and whenever those that wait try again, it goes as on
plain queues, and a stripe once closed stays closed; to serve first those who come first is one of
the ways in which it may go. -/
theorem refines_of_stepAll {side : Side} {ring : StripedRing α}
    (made : StripedRing.make side stripes capacity = .ok ring) (steps more : List (RingStep α)) :
    let queue := (ofRing ring).stepAll steps
    Refines stripes capacity queue
        ((Desk.ofLanes (.ofShape stripes capacity)).stepAll steps) ∧
      (∀ stripe, (queue.ring.lanes capacity).queue? stripe = none →
        ((queue.stepAll more).ring.lanes capacity).queue? stripe = none) ∧
      ∀ step, ∃ places : List Nat,
        queue.serve step = queue.stepAll (step :: places.map .retry) := by
  obtain ⟨power, powerToo, rfl⟩ := StripedRing.of_make made
  intro queue
  have follows := (follows_of_fresh side stripes capacity).stepAll power steps
  refine ⟨follows.refines power powerToo, fun stripe closed => ?_,
    queue.exists_retries_of_serve⟩
  rw [← follows.lanes_eq] at closed
  rw [← (follows.stepAll power more).lanes_eq]
  exact Desk.queue?_stepAll closed more

/-- The third offer waits for room and then takes the first slot again; a closed stripe and one that
is not there refuse every call. -/
theorem refines_of_stepAll_wrapped :
    let ring : StripedRing String := ⟨.producer, Array.replicate 2 (.ofCapacity 2)⟩
    let steps : List (RingStep String) := [.call (.offer 4 "a"), .call (.offer 6 "b"),
      .call (.offer 4 "c"), .call (.poll 0), .retry 0, .call (.poll 0), .closeStripe 0,
      .call (.poll 0), .call (.poll 7)]
    StripedRing.make .producer 2 2 = .ok ring ∧
      ((ofRing ring).stepAll steps).replies = [(6, .closed), (5, .closed), (4, .taken "b"),
        (2, .added true), (3, .taken "a"), (1, .added false), (0, .added false)] ∧
      ∀ one, ((ofRing ring).stepAll steps).ring.rings[0]? = some one →
        one.read = 2 ∧ one.write = 3 := by
  intro ring steps
  have made : StripedRing.make .producer 2 2 = .ok ring := by
    rfl
  have refines := (refines_of_stepAll made steps []).1
  refine ⟨made, refines.replies_eq.trans rfl, fun one found => ?_⟩
  have orderly := refines.orderly 0 one found
  exact ⟨orderly.read_eq, orderly.write_eq.trans (by decide +kernel)⟩

end RingQueue
end CacheSync
