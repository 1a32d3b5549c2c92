import CacheSync.Node.Basic
import Mathlib.Logic.Function.Basic

/-!
# Rings are queues

An open ring holds a list of items between its cursors: an offer adds behind them unless the ring
is full, and a poll takes the first.  The workers of a striped ring are then as many queues, each
with a worker that is idle or busy; `Workers.Shows` is this view, and each of their operations
changes one queue or one worker of it.  Of a crew this leaves two questions: whether it takes no
steps, and whether it has nothing to do.
-/

namespace CacheSync

namespace Ring

variable {α : Type} {ring : Ring α} {items : List α}

/-- An open ring holds these items, the oldest first. -/
structure Holds (ring : Ring α) (items : List α) : Prop where
  opened : ring.closed = false
  write_eq : ring.write = ring.read + items.length
  fits : items.length ≤ ring.capacity
  slots : ∀ position (inRange : position < items.length),
    ring.slots[ring.slot (ring.read + position)]? = some (some items[position])

theorem holds_ofCapacity (capacity : Nat) : (ofCapacity capacity : Ring α).Holds [] where
  opened := rfl
  write_eq := rfl
  fits := Nat.zero_le _
  slots := by simp

/-- Two positions less than the capacity apart have different slots. -/
theorem slot_ne {first second : Nat} (before : first < second)
    (near : second < first + ring.capacity) : ring.slot first ≠ ring.slot second := by
  intro same
  have multiple : (second - first) % ring.capacity = 0 := Nat.sub_mod_eq_zero_of_mod_eq same.symm
  rw [Nat.mod_eq_of_lt (by omega)] at multiple
  omega

namespace Holds

theorem isFull_iff (holds : ring.Holds items) :
    ring.isFull = true ↔ items.length = ring.capacity := by
  have fits := holds.fits
  simp only [isFull, holds.write_eq, Nat.add_sub_cancel_left, decide_eq_true_eq]
  omega

theorem isEmpty_iff (holds : ring.Holds items) : ring.isEmpty = true ↔ items = [] := by
  simp only [isEmpty, holds.write_eq, beq_iff_eq, Nat.add_eq_left, List.length_eq_zero_iff]

/-- An offer adds behind the items, unless the ring is full. -/
theorem offer (holds : ring.Holds items) (item : α) :
    ring.offer item = .full ∨
      ∃ after, ring.offer item = .accepted after ∧ after.Holds (items ++ [item]) := by
  unfold Ring.offer
  rw [holds.opened]
  by_cases full : ring.isFull = true
  · exact Or.inl (by simp [full])
  · have less : items.length < ring.capacity :=
      Nat.lt_of_le_of_ne holds.fits fun same => full (holds.isFull_iff.2 same)
    let after : Ring α := { ring with
      slots := ring.slots.setIfInBounds (ring.slot ring.write) (some item)
      write := ring.write + 1 }
    have slot_eq : ∀ position, after.slot position = ring.slot position := by
      simp [after, slot, capacity]
    refine Or.inr ⟨after, by simp [full, after, holds.opened], holds.opened, ?_, ?_, ?_⟩
    · simp [after, holds.write_eq, Nat.add_assoc]
    · simpa [after, capacity] using Nat.succ_le_of_lt less
    · intro position inRange
      have bound : ring.slot ring.write < ring.slots.size :=
        Nat.mod_lt _ (Nat.zero_lt_of_lt less)
      rw [slot_eq]
      by_cases last : position = items.length
      · subst last
        rw [← holds.write_eq]
        simp only [after, Array.getElem?_setIfInBounds_self_of_lt bound, List.getElem_concat_length]
      · have early : position < items.length := by
          simp only [List.length_append, List.length_cons, List.length_nil] at inRange
          omega
        have apart : ring.slot ring.write ≠ ring.slot (ring.read + position) := by
          rw [holds.write_eq]
          exact (slot_ne (by omega) (by omega)).symm
        simp only [after]
        rw [Array.getElem?_setIfInBounds_ne apart, holds.slots position early,
          List.getElem_append_left early]

theorem poll_nil (holds : ring.Holds []) : ring.poll = .empty := by
  unfold poll
  rw [holds.opened]
  simp [holds.isEmpty_iff.2 rfl]

theorem poll_cons {item : α} {rest : List α} (holds : ring.Holds (item :: rest)) :
    ∃ after, ring.poll = .taken item after ∧ after.Holds rest := by
  have first := holds.slots 0 (by simp)
  have notEmpty : ring.isEmpty = false := by
    rw [← Bool.not_eq_true, holds.isEmpty_iff]
    simp
  unfold poll
  rw [holds.opened, notEmpty]
  rw [Nat.add_zero] at first
  simp only [Bool.false_eq_true, ↓reduceIte, first, Option.join_some, List.getElem_cons_zero]
  refine ⟨_, rfl, rfl, ?_, ?_, ?_⟩
  · simp only [holds.write_eq, List.length_cons]
    omega
  · have fits := holds.fits
    simp only [capacity, Array.size_setIfInBounds, List.length_cons] at fits ⊢
    omega
  · intro position inRange
    have fits := holds.fits
    simp only [List.length_cons] at fits
    have apart : ring.slot ring.read ≠ ring.slot (ring.read + (position + 1)) :=
      slot_ne (by omega) (by omega)
    have next := holds.slots (position + 1) (by simpa using inRange)
    simp only [slot, capacity, Array.size_setIfInBounds] at apart next ⊢
    rw [Nat.add_assoc, Nat.add_comm 1 position, Array.getElem?_setIfInBounds_ne apart, next]
    rfl

end Holds

end Ring

namespace StripedRing

theorem stripeAmong_lt {stripes : Nat} (positive : 0 < stripes) (hash : UInt64) :
    stripeAmong stripes hash < stripes := by
  have low : (UInt64.ofNat (stripes - 1)).toNat ≤ stripes - 1 := by
    rw [UInt64.toNat_ofNat']
    exact Nat.mod_le _ _
  have masked : stripeAmong stripes hash ≤ (UInt64.ofNat (stripes - 1)).toNat := by
    rw [stripeAmong, UInt64.toNat_and]
    exact Nat.and_le_right
  omega

end StripedRing

/-- What holds on every stripe still does when one stripe is changed, if it holds there. -/
theorem forall_update {α β : Type} (holds : Nat → α → β → Prop) {first : Nat → α}
    {second : Nat → β} (all : ∀ stripe, holds stripe (first stripe) (second stripe))
    {stripe : Nat} {one : α} {other : β} (here : holds stripe one other) (place : Nat) :
    holds place (Function.update first stripe one place)
      (Function.update second stripe other place) := by
  by_cases same : place = stripe
  · subst same
    rw [Function.update_self, Function.update_self]
    exact here
  · rw [Function.update_of_ne same, Function.update_of_ne same]
    exact all place

/-- The worker that is busy with some work, or idle without any. -/
def Worker.ofWork? {ω : Type} : Option ω → Worker ω
  | none => .idle
  | some work => .busy work

/-- Whether a worker works on something. -/
def Worker.isBusy {ω : Type} : Worker ω → Bool
  | .busy _ => true
  | _ => false

namespace Workers

open StripedRing (stripeAmong stripeAmong_lt)

variable {α ω : Type} {w : Workers α ω} {stripes : Nat} {queue : Nat → List α}
  {work : Nat → Option ω}

/-- As many queues as stripes, each with a worker that is idle or busy. -/
structure Shows (w : Workers α ω) (stripes : Nat) (queue : Nat → List α)
    (work : Nat → Option ω) : Prop where
  positive : 0 < stripes
  rings_size : w.ring.rings.size = stripes
  rings : ∀ stripe, stripe < stripes →
    ∃ ring, w.ring.rings[stripe]? = some ring ∧ ring.Holds (queue stripe)
  workers_length : w.workers.length = stripes
  workers : ∀ stripe, stripe < stripes →
    w.workers[stripe]? = some (.ofWork? (work stripe))

/-- Workers that were just made have nothing to do. -/
theorem shows_of_make {side : Side} {capacity : Nat} (made : make side stripes capacity = .ok w) :
    w.Shows stripes (fun _ => []) fun _ => none := by
  unfold make StripedRing.make Dispatch.checkShape at made
  by_cases power : isPowerOfTwo stripes = true
  · by_cases room : isPowerOfTwo capacity = true
    · simp only [power, room, Bool.not_true, Bool.false_eq_true, ↓reduceIte] at made
      injection made with shape
      subst shape
      have positive : 0 < stripes := by
        apply Nat.pos_of_ne_zero
        rintro rfl
        simp [isPowerOfTwo] at power
      refine ⟨positive, ?_, ?_, ?_, ?_⟩
      · simp [ofRing]
      · intro stripe inRange
        exact ⟨.ofCapacity capacity, by simp [ofRing, inRange], Ring.holds_ofCapacity capacity⟩
      · simp [ofRing, StripedRing.stripeCount]
      · intro stripe inRange
        simp [ofRing, StripedRing.stripeCount, inRange, Worker.ofWork?]
    · simp [power, room, bind, Except.bind, Except.map] at made
  · simp [power, bind, Except.bind, Except.map] at made

namespace Shows

theorem setRing (shown : w.Shows stripes queue work) {stripe : Nat} (inRange : stripe < stripes)
    {ring : Ring α} {items : List α} (holds : ring.Holds items) :
    ({ w with ring := w.ring.setRing stripe ring } : Workers α ω).Shows stripes
      (Function.update queue stripe items) work where
  positive := shown.positive
  rings_size := by simp [StripedRing.setRing, shown.rings_size]
  rings other otherInRange := by
    by_cases same : other = stripe
    · subst same
      refine ⟨ring, ?_, by simpa using holds⟩
      simp [StripedRing.setRing, shown.rings_size, inRange]
    · obtain ⟨one, found, held⟩ := shown.rings other otherInRange
      refine ⟨one, ?_, by simpa [same] using held⟩
      simp only [StripedRing.setRing]
      rw [Array.getElem?_setIfInBounds_ne (Ne.symm same)]
      exact found
  workers_length := shown.workers_length
  workers := shown.workers

theorem setWorker (shown : w.Shows stripes queue work) {stripe : Nat} (inRange : stripe < stripes)
    (next : Option ω) :
    (w.setWorker stripe (.ofWork? next)).Shows stripes queue
      (Function.update work stripe next) where
  positive := shown.positive
  rings_size := shown.rings_size
  rings := shown.rings
  workers_length := by simp [Workers.setWorker, shown.workers_length]
  workers other otherInRange := by
    by_cases same : other = stripe
    · subst same
      simp [Workers.setWorker, shown.workers_length, inRange]
    · simp [Workers.setWorker, Ne.symm same, same, shown.workers other otherInRange]

/-- An offer adds behind the items of its stripe, unless that is full. -/
theorem offer (shown : w.Shows stripes queue work) (hash : UInt64) (item : α) :
    w.offer hash item = .full ∨ ∃ after, w.offer hash item = .accepted after ∧
      after.Shows stripes (Function.update queue (stripeAmong stripes hash)
        (queue (stripeAmong stripes hash) ++ [item])) work := by
  have inRange := stripeAmong_lt shown.positive hash
  obtain ⟨ring, found, holds⟩ := shown.rings _ inRange
  have stripe_eq : w.ring.stripeFor hash = stripeAmong stripes hash := by
    rw [StripedRing.stripeFor, StripedRing.stripeCount, shown.rings_size]
  unfold Workers.offer StripedRing.offer
  simp only [stripe_eq, found]
  rcases holds.offer item with full | ⟨after, accepted, held⟩
  · exact Or.inl (by simp only [full])
  · exact Or.inr ⟨_, by simp only [accepted], shown.setRing inRange held⟩

theorem work?_eq (shown : w.Shows stripes queue work) {stripe : Nat} (inRange : stripe < stripes) :
    w.work? stripe = work stripe := by
  unfold Workers.work?
  rw [shown.workers stripe inRange]
  cases work stripe with
  | none => rfl
  | some job => rfl

theorem inRange_of_work? (shown : w.Shows stripes queue work) {stripe : Nat} {job : ω}
    (busy : w.work? stripe = some job) : stripe < stripes := by
  apply Decidable.byContradiction
  intro outside
  have missing : w.workers[stripe]? = none := by
    rw [List.getElem?_eq_none_iff, shown.workers_length]
    omega
  simp [Workers.work?, missing] at busy

/-- Only an idle worker with a waiting item takes something, and it takes the first. -/
theorem of_take? (shown : w.Shows stripes queue work) {start : α → ω} {stripe : Nat}
    {after : Workers α ω} (taken : w.take? start stripe = some after) :
    ∃ item rest, stripe < stripes ∧ work stripe = none ∧ queue stripe = item :: rest ∧
      after.Shows stripes (Function.update queue stripe rest)
        (Function.update work stripe (some (start item))) := by
  by_cases inRange : stripe < stripes
  · obtain ⟨ring, found, holds⟩ := shown.rings stripe inRange
    unfold take? at taken
    rw [shown.workers stripe inRange] at taken
    cases busy : work stripe with
    | some job =>
        rw [busy] at taken
        cases taken
    | none =>
        simp only [busy, Worker.ofWork?, StripedRing.poll, found] at taken
        cases waiting : queue stripe with
        | nil =>
            rw [waiting] at holds
            simp only [holds.poll_nil] at taken
            cases taken
        | cons item rest =>
            rw [waiting] at holds
            obtain ⟨polled, poll_eq, held⟩ := holds.poll_cons
            simp only [poll_eq] at taken
            injection taken with shape
            subst shape
            exact ⟨item, rest, inRange, rfl, rfl,
              (shown.setRing inRange held).setWorker inRange (some (start item))⟩
  · have missing : w.workers[stripe]? = none := by
      rw [List.getElem?_eq_none_iff, shown.workers_length]
      omega
    simp [take?, missing] at taken

theorem settle_goOn (shown : w.Shows stripes queue work) {stripe : Nat}
    (inRange : stripe < stripes) :
    (w.settle stripe .goOn).Shows stripes queue (Function.update work stripe none) :=
  shown.setWorker inRange none

end Shows

/-! ## Items that are work -/

/-- As many queues as stripes, whose first items may be worked on already. -/
def Serves (w : Workers α α) (stripes : Nat) (queue : Nat → List α) : Prop :=
  ∃ (items : Nat → List α) (work : Nat → Option α), w.Shows stripes items work ∧
    ∀ stripe, (work stripe).toList ++ items stripe = queue stripe

namespace Serves

variable {w after : Workers α α} {stripe : Nat}

theorem of_shows (shown : w.Shows stripes (fun _ => []) fun _ => none) :
    w.Serves stripes fun _ => [] :=
  ⟨_, _, shown, fun _ => rfl⟩

/-- An offer adds behind the items of its stripe, unless that is full. -/
theorem offer (serves : w.Serves stripes queue) (hash : UInt64) (item : α) :
    w.offer hash item = .full ∨ ∃ after, w.offer hash item = .accepted after ∧
      after.Serves stripes (Function.update queue (stripeAmong stripes hash)
        (queue (stripeAmong stripes hash) ++ [item])) := by
  obtain ⟨items, work, shown, queue_eq⟩ := serves
  rcases shown.offer hash item with full | ⟨after, accepted, shown⟩
  · exact Or.inl full
  · refine Or.inr ⟨after, accepted, _, work, shown,
      forall_update (fun stripe items queue => (work stripe).toList ++ items = queue) queue_eq ?_⟩
    rw [← queue_eq, List.append_assoc]

theorem take (serves : w.Serves stripes queue) (taken : w.take? id stripe = some after) :
    after.Serves stripes queue := by
  obtain ⟨items, work, shown, queue_eq⟩ := serves
  obtain ⟨item, rest, _, idle, waiting, shown⟩ := shown.of_take? taken
  refine ⟨_, _, shown,
    forall_update (fun stripe work items => Option.toList work ++ items = queue stripe) queue_eq ?_⟩
  rw [← queue_eq, idle, waiting]
  rfl

theorem settle (serves : w.Serves stripes queue) {item : α} (busy : w.work? stripe = some item) :
    ∃ rest, queue stripe = item :: rest ∧
      (w.settle stripe .goOn).Serves stripes (Function.update queue stripe rest) := by
  obtain ⟨items, work, shown, queue_eq⟩ := serves
  have inRange := shown.inRange_of_work? busy
  rw [shown.work?_eq inRange] at busy
  refine ⟨items stripe, ?_, items, _, shown.settle_goOn inRange,
    forall_update (fun stripe work queue => Option.toList work ++ items stripe = queue) queue_eq
      rfl⟩
  rw [← queue_eq, busy]
  rfl

end Serves

/-! ## Nothing to do -/

/-- No item waits and no worker is busy. -/
def Quiet (w : Workers α ω) : Prop :=
  (∀ ring ∈ w.ring.rings, ring.isEmpty = true) ∧ ∀ worker ∈ w.workers, worker.isBusy = false

instance (w : Workers α ω) : Decidable w.Quiet :=
  inferInstanceAs (Decidable (_ ∧ _))

theorem Shows.of_quiet (shown : w.Shows stripes queue work) (quiet : w.Quiet) {stripe : Nat}
    (inRange : stripe < stripes) : queue stripe = [] ∧ work stripe = none := by
  obtain ⟨ring, found, holds⟩ := shown.rings stripe inRange
  refine ⟨holds.isEmpty_iff.1 (quiet.1 ring (Array.mem_of_getElem? found)), ?_⟩
  have idle := quiet.2 _ (List.mem_of_getElem? (shown.workers stripe inRange))
  cases busy : work stripe with
  | none => rfl
  | some job =>
      rw [busy] at idle
      cases idle

theorem Serves.of_quiet {w : Workers α α} (serves : w.Serves stripes queue) (quiet : w.Quiet)
    (hash : UInt64) : queue (stripeAmong stripes hash) = [] := by
  obtain ⟨items, work, shown, queue_eq⟩ := serves
  obtain ⟨empty, idle⟩ := shown.of_quiet quiet (stripeAmong_lt shown.positive hash)
  rw [← queue_eq, empty, idle]
  rfl

end Workers

namespace Crew

variable {α ω : Type} {crew : Crew α ω} {side : Side}

/-- A crew that was just made has nothing to do. -/
theorem shows_of_make {stripes capacity : Nat}
    (made : make side (.striped stripes capacity) = .ok crew) :
    ∃ workers, crew = .striped workers ∧ workers.Shows stripes (fun _ => []) fun _ => none := by
  simp only [make] at made
  cases fresh : Workers.make (α := α) (ω := ω) side stripes capacity with
  | error error =>
      rw [fresh] at made
      cases made
  | ok workers =>
      rw [fresh] at made
      injection made with shape
      exact ⟨workers, shape.symm, Workers.shows_of_make fresh⟩

/-- No item waits in the crew, and none of its workers is busy or has ended. -/
def Still (crew : Crew α ω) : Prop :=
  ∀ workers, crew = .striped workers →
    ∃ stripes, workers.Shows stripes (fun _ => []) fun _ => none

theorem still_of_make {dispatch : Dispatch} (made : make side dispatch = .ok crew) :
    crew.Still := by
  intro workers shape
  cases dispatch with
  | direct =>
      injection made with direct
      rw [shape] at direct
      cases direct
  | striped stripes capacity =>
      obtain ⟨fresh, striped, shown⟩ := shows_of_make made
      rw [shape] at striped
      injection striped with same
      rw [same]
      exact ⟨stripes, shown⟩

/-- The workers of a crew without work take no steps. -/
theorem Still.no_step (still : crew.Still) {workers : Workers α ω} (shape : crew = .striped workers)
    (start : α → ω) (stripe : Nat) :
    workers.work? stripe = none ∧ workers.take? start stripe = none := by
  obtain ⟨stripes, shown⟩ := still workers shape
  constructor
  · cases busy : workers.work? stripe with
    | none => rfl
    | some job =>
        have idle := shown.work?_eq (shown.inRange_of_work? busy)
        rw [busy] at idle
        cases idle
  · cases taken : workers.take? start stripe with
    | none => rfl
    | some after =>
        obtain ⟨item, rest, _, _, empty, _⟩ := shown.of_take? taken
        cases empty

/-- No item waits in the crew and none of its workers is busy. -/
def Quiet : Crew α ω → Prop
  | .direct => True
  | .striped workers => workers.Quiet

instance (crew : Crew α ω) : Decidable crew.Quiet :=
  match crew with
  | .direct => inferInstanceAs (Decidable True)
  | .striped workers => inferInstanceAs (Decidable workers.Quiet)

end Crew

end CacheSync
