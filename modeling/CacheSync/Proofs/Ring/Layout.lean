import CacheSync.Proofs.Ring.Load

/-!
# The layout of a ring

The positions of a ring that are not taken yet, as many as it has slots, fill each slot once.  Of
these, the positions below the write cursor hold an item and the others do not; a closed ring holds
none at all.  `Ring.Laid` keeps this through all calls, together with the view of the ring as a
queue, which `Ring.lane` gives: nothing for a closed ring, and its items for an open one.
-/

namespace CacheSync
namespace Ring

variable {α : Type} {ring after : Ring α} {capacity : Nat} {item : α}

/-- The queue that a ring is, unless it is closed. -/
def lane (ring : Ring α) : Option (List α) :=
  if ring.closed then none else some ring.queued

/-- The item in a slot, if there is one. -/
def held? (ring : Ring α) (index : Nat) : Option α :=
  (ring.slots[index]?).join

/-- The slots between the cursors, and no others, hold items. -/
structure Laid (ring : Ring α) (capacity : Nat) : Prop where
  sound : ring.Sound
  capacity_eq : ring.capacity = capacity
  ordered : ring.read ≤ ring.write
  bounded : ring.write ≤ ring.read + capacity
  filled : ring.closed = false → ∀ position, ring.read ≤ position →
    position < ring.read + capacity →
      ((ring.held? (position % capacity)).isSome = true ↔ position < ring.write)
  emptied : ring.closed = true → ∀ index, ring.held? index = none

theorem held?_setIfInBounds_of_ne {index place : Nat} (different : place ≠ index)
    (content : Option α) (ring : Ring α) (read write : Nat) (closed : Bool) :
    held? ⟨ring.slots.setIfInBounds place content, read, write, closed⟩ index =
      ring.held? index := by
  unfold held?
  rw [Array.getElem?_setIfInBounds_ne different]

theorem held?_setIfInBounds_self {place : Nat} (inRange : place < ring.capacity)
    (content : Option α) (read write : Nat) (closed : Bool) :
    held? ⟨ring.slots.setIfInBounds place content, read, write, closed⟩ place = content := by
  unfold held?
  rw [Array.getElem?_setIfInBounds_self_of_lt inRange]
  rfl

theorem lane_of_closed (closed : ring.closed = true) : ring.lane = none :=
  if_pos closed

theorem lane_of_opened (opened : ring.closed = false) : ring.lane = some ring.queued :=
  if_neg (Bool.not_eq_true _ ▸ opened)

/-- An offer that is accepted fills the slot of the write cursor. -/
theorem of_offer_accepted (accepted : ring.offer item = .accepted after) :
    ring.closed = false ∧ ring.isFull = false ∧
      after = { ring with
        slots := ring.slots.setIfInBounds (ring.slot ring.write) (some item)
        write := ring.write + 1 } := by
  have opened := opened_of_offer accepted
  unfold offer at accepted
  rw [opened] at accepted
  cases full : ring.isFull with
  | true => simp [full] at accepted
  | false =>
      simp only [full, Bool.false_eq_true, ↓reduceIte, Offered.accepted.injEq] at accepted
      exact ⟨opened, rfl, by rw [← accepted, opened]⟩

/-- A poll that takes an item empties the slot of the read cursor. -/
theorem of_poll_taken (taken : ring.poll = .taken item after) :
    ring.closed = false ∧ ring.isEmpty = false ∧
      after = { ring with
        slots := ring.slots.setIfInBounds (ring.slot ring.read) none
        read := ring.read + 1 } := by
  have opened := opened_of_poll taken
  unfold poll at taken
  rw [opened] at taken
  cases empty : ring.isEmpty with
  | true => simp [empty] at taken
  | false =>
      simp only [empty, Bool.false_eq_true, ↓reduceIte] at taken
      split at taken
      · injection taken with _ same
        exact ⟨opened, rfl, by rw [← same, opened]⟩
      · cases taken

theorem laid_ofCapacity (capacity : Nat) : (ofCapacity capacity : Ring α).Laid capacity where
  sound := Or.inr ⟨[], holds_ofCapacity capacity⟩
  capacity_eq := Array.size_replicate
  ordered := Nat.le_refl 0
  bounded := Nat.zero_le _
  filled _ position _ _ := by
    have vacant : (ofCapacity capacity : Ring α).held? (position % capacity) = none := by
      unfold held? ofCapacity
      rw [Array.getElem?_replicate]
      split
      · rfl
      · rfl
    rw [vacant]
    exact iff_of_false Bool.false_ne_true (Nat.not_lt_zero position)
  emptied closed := by cases closed

namespace Laid

theorem slot_eq (laid : ring.Laid capacity) (position : Nat) :
    ring.slot position = position % capacity := by
  unfold slot
  rw [laid.capacity_eq]

theorem apart (laid : ring.Laid capacity) {first second : Nat} (before : first < second)
    (near : second < first + capacity) : first % capacity ≠ second % capacity := by
  rw [← laid.capacity_eq] at near
  have different := slot_ne before near
  rwa [laid.slot_eq, laid.slot_eq] at different

theorem offer (laid : ring.Laid capacity) (accepted : ring.offer item = .accepted after) :
    after.Laid capacity := by
  obtain ⟨opened, room, rfl⟩ := of_offer_accepted accepted
  have ordered := laid.ordered
  have less : ring.write < ring.read + capacity := by
    rw [isFull, decide_eq_false_iff_not, laid.capacity_eq] at room
    omega
  have place : ring.write % capacity < ring.capacity := by
    rw [laid.capacity_eq]
    exact Nat.mod_lt _ (by omega)
  rw [laid.slot_eq] at accepted ⊢
  exact
    { sound := (laid.sound.offer accepted).1
      capacity_eq := Array.size_setIfInBounds.trans laid.capacity_eq
      ordered := Nat.le_succ_of_le ordered
      bounded := less
      filled := fun _ position above below => by
        dsimp only at above below ⊢
        by_cases last : position = ring.write
        · rw [last, held?_setIfInBounds_self place]
          exact iff_of_true rfl (Nat.lt_succ_self _)
        · have different : ring.write % capacity ≠ position % capacity := by
            rcases Nat.lt_or_gt_of_ne last with early | late
            · exact (laid.apart early (by omega)).symm
            · exact laid.apart late (by omega)
          rw [held?_setIfInBounds_of_ne different, laid.filled opened position above below]
          omega
      emptied := fun closed => by cases opened.symm.trans closed }

theorem poll (laid : ring.Laid capacity) (taken : ring.poll = .taken item after) :
    after.Laid capacity := by
  obtain ⟨opened, waiting, rfl⟩ := of_poll_taken taken
  have ordered := laid.ordered
  have bounded := laid.bounded
  have less : ring.read < ring.write := by
    rw [isEmpty, beq_eq_false_iff_ne] at waiting
    omega
  have place : ring.read % capacity < ring.capacity := by
    rw [laid.capacity_eq]
    exact Nat.mod_lt _ (by omega)
  rw [laid.slot_eq] at taken ⊢
  exact
    { sound := (laid.sound.poll taken).1
      capacity_eq := Array.size_setIfInBounds.trans laid.capacity_eq
      ordered := less
      bounded := by dsimp only; omega
      filled := fun _ position above below => by
        dsimp only at above below ⊢
        by_cases last : position = ring.read + capacity
        · -- The slot that was emptied is that of the position which comes within reach.
          rw [last, Nat.add_mod_right, held?_setIfInBounds_self place]
          exact iff_of_false Bool.false_ne_true (by omega)
        · have different : ring.read % capacity ≠ position % capacity :=
            laid.apart above (by omega)
          have earlier := laid.filled opened position (by omega) (by omega)
          rw [held?_setIfInBounds_of_ne different, earlier]
      emptied := fun closed => by cases opened.symm.trans closed }

theorem close (laid : ring.Laid capacity) : ring.close.Laid capacity where
  sound := ring.sound_close
  capacity_eq := by
    unfold Ring.capacity Ring.close
    rw [Array.size_map]
    exact laid.capacity_eq
  ordered := laid.ordered
  bounded := laid.bounded
  filled opened := by cases opened
  emptied _ index := by
    unfold held? Ring.close
    rw [Array.getElem?_map]
    cases ring.slots[index]? with
    | none => rfl
    | some content => rfl

/-- An offer is refused by a closed ring, waits for a full one, and otherwise adds behind the
items. -/
theorem offer_cases (laid : ring.Laid capacity) (item : α) :
    (ring.lane = none ∧ ring.offer item = .closed) ∨
      ∃ items, ring.lane = some items ∧
        (¬items.length < capacity ∧ ring.offer item = .full ∨
          items.length < capacity ∧ ∃ after, ring.offer item = .accepted after ∧
            after.Laid capacity ∧ after.lane = some (items ++ [item]) ∧
            after.read = ring.read ∧ after.write = ring.write + 1) := by
  cases closed : ring.closed with
  | true => exact Or.inl ⟨lane_of_closed closed, by simp [Ring.offer, closed]⟩
  | false =>
      have holds := laid.sound.holds closed
      have full_iff := holds.isFull_iff
      rw [laid.capacity_eq] at full_iff
      refine Or.inr ⟨ring.queued, lane_of_opened closed, ?_⟩
      rcases holds.offer item with full | ⟨after, accepted, added⟩
      · have isFull : ring.isFull = true := by
          cases room : ring.isFull with
          | true => rfl
          | false => simp [Ring.offer, closed, room] at full
        have reached := full_iff.1 isFull
        exact Or.inl ⟨by omega, full⟩
      · obtain ⟨_, room, shape⟩ := of_offer_accepted accepted
        have fits := holds.fits
        rw [laid.capacity_eq] at fits
        have less : ring.queued.length ≠ capacity := by
          intro reached
          rw [full_iff.2 reached] at room
          cases room
        have lane : after.lane = some (ring.queued ++ [item]) := by
          rw [lane_of_opened added.opened, added.queued_eq]
        refine Or.inr ⟨by omega, after, accepted, laid.offer accepted, lane, ?_⟩
        rw [shape]
        exact ⟨rfl, rfl⟩

/-- A poll is refused by a closed ring, waits for an empty one, and otherwise takes the oldest
item. -/
theorem poll_cases (laid : ring.Laid capacity) :
    (ring.lane = none ∧ ring.poll = .closed) ∨ (ring.lane = some [] ∧ ring.poll = .empty) ∨
      ∃ item rest after, ring.lane = some (item :: rest) ∧ ring.poll = .taken item after ∧
        after.Laid capacity ∧ after.lane = some rest ∧
        after.read = ring.read + 1 ∧ after.write = ring.write := by
  cases closed : ring.closed with
  | true => exact Or.inl ⟨lane_of_closed closed, by simp [Ring.poll, closed]⟩
  | false =>
      have holds := laid.sound.holds closed
      have lane : ring.lane = some ring.queued := lane_of_opened closed
      cases items : ring.queued with
      | nil =>
          rw [items] at holds lane
          exact Or.inr (Or.inl ⟨lane, holds.poll_nil⟩)
      | cons item rest =>
          rw [items] at holds lane
          obtain ⟨after, taken, left⟩ := holds.poll_cons
          obtain ⟨_, _, shape⟩ := of_poll_taken taken
          have laneAfter : after.lane = some rest := by
            rw [lane_of_opened left.opened, left.queued_eq]
          refine Or.inr (Or.inr ⟨item, rest, after, lane, taken, laid.poll taken, laneAfter, ?_⟩)
          rw [shape]
          exact ⟨rfl, rfl⟩

end Laid

/-! ## Masked positions -/

/-- What a reader of the cursors and slots of a ring finds, where so many items were taken and so
many added. -/
structure Orderly (ring : Ring α) (capacity taken added : Nat) : Prop where
  read_eq : ring.read = taken
  write_eq : ring.write = added
  ordered : ring.read ≤ ring.write
  bounded : ring.write ≤ ring.read + capacity
  /-- A position is masked by the capacity, and the result is one of the slots. -/
  slot_eq : ∀ position, ring.slot position = position &&& (capacity - 1)
  inRange : ∀ position, ring.slot position < ring.slots.size
  /-- The slots of an open ring that hold an item are those of the positions between the cursors. -/
  filled : ring.closed = false → ∀ index, (ring.held? index).isSome = true ↔
    ∃ position, ring.read ≤ position ∧ position < ring.write ∧ index = position &&& (capacity - 1)
  emptied : ring.closed = true → ∀ index, ring.held? index = none
  /-- An open ring never answers that it is closed. -/
  polls : ring.closed = false → ring.poll ≠ .closed

theorem and_mask {capacity : Nat} (power : isPowerOfTwo capacity = true) (position : Nat) :
    position &&& (capacity - 1) = position % capacity := by
  obtain ⟨bits, shape⟩ := (isPowerOfTwo_iff capacity).1 power
  rw [shape]
  exact Nat.and_two_pow_sub_one_eq_mod position bits

theorem pos_of_isPowerOfTwo {count : Nat} (power : isPowerOfTwo count = true) : 0 < count := by
  obtain ⟨bits, rfl⟩ := (isPowerOfTwo_iff count).1 power
  exact Nat.two_pow_pos bits

/-- Every slot is that of a position within reach of the read cursor. -/
theorem exists_position {index : Nat} (inRange : index < capacity) (start : Nat) :
    ∃ position, start ≤ position ∧ position < start + capacity ∧ position % capacity = index := by
  have small : start % capacity < capacity := Nat.mod_lt _ (by omega)
  have whole := Nat.div_add_mod start capacity
  have slot (rounds : Nat) : (capacity * rounds + index) % capacity = index := by
    rw [Nat.mul_add_mod, Nat.mod_eq_of_lt inRange]
  by_cases before : index < start % capacity
  · refine ⟨capacity * (start / capacity + 1) + index, ?_, ?_, slot _⟩
    · rw [Nat.mul_add_one]
      omega
    · rw [Nat.mul_add_one]
      omega
  · refine ⟨capacity * (start / capacity) + index, ?_, ?_, slot _⟩
    · omega
    · omega

theorem Laid.orderly (laid : ring.Laid capacity) (power : isPowerOfTwo capacity = true) :
    ring.Orderly capacity ring.read ring.write where
  read_eq := rfl
  write_eq := rfl
  ordered := laid.ordered
  bounded := laid.bounded
  slot_eq position := by rw [laid.slot_eq, and_mask power]
  inRange position := by
    have size : ring.slots.size = capacity := laid.capacity_eq
    rw [laid.slot_eq, size]
    exact Nat.mod_lt _ (pos_of_isPowerOfTwo power)
  filled opened index := by
    simp only [and_mask power]
    constructor
    · intro holds
      have inRange : index < capacity := by
        rw [← laid.capacity_eq]
        refine Nat.lt_of_not_le fun outside => ?_
        rw [held?, Array.getElem?_eq_none outside] at holds
        cases holds
      obtain ⟨position, above, below, slot⟩ := exists_position inRange ring.read
      refine ⟨position, above, ?_, slot.symm⟩
      rwa [← laid.filled opened position above below, slot]
    · rintro ⟨position, above, below, rfl⟩
      have bounded := laid.bounded
      exact (laid.filled opened position above (by omega)).2 below
  emptied := laid.emptied
  polls opened := (laid.sound.holds opened).poll_ne_closed

end Ring
end CacheSync
