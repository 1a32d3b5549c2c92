import CacheSync.Node.Basic
import CacheSync.Proofs.Secrecy.Values

/-!
# Crews that do alike work

Two rings hold alike items in the same places, and two crews are alike if their rings are and their
workers do alike work.  A ring never looks at its items, so what comes of a call on one of two alike
rings comes of the same call on the other.
-/

namespace CacheSync

/-- Two outcomes of offering an item: both rings took it, or neither did. -/
inductive Offered.Alike {β : Type} (related : β → β → Prop) : Offered β → Offered β → Prop where
  | accepted {first second : β} (same : related first second) :
      Alike related (.accepted first) (.accepted second)
  | full : Alike related .full .full
  | closed : Alike related .closed .closed

/-- Two outcomes of asking for an item. -/
inductive Polled.Alike {α β : Type} (items : α → α → Prop) (related : β → β → Prop) :
    Polled α β → Polled α β → Prop where
  | taken {item other : α} {first second : β} (alike : items item other)
      (same : related first second) : Alike items related (.taken item first) (.taken other second)
  | empty : Alike items related .empty .empty
  | closed : Alike items related .closed .closed

section Rings

variable {α : Type} {items : α → α → Prop}

/-- Two rings with alike items in the same places. -/
structure Ring.Alike (items : α → α → Prop) (first second : Ring α) : Prop where
  size_eq : second.slots.size = first.slots.size
  slots : ∀ place : Nat, Option.Rel items (first.slots[place]?).join (second.slots[place]?).join
  read_eq : second.read = first.read
  write_eq : second.write = first.write
  closed_eq : second.closed = first.closed

namespace Ring.Alike

variable {first second : Ring α}

theorem ofCapacity (capacity : Nat) :
    Ring.Alike items (.ofCapacity capacity) (.ofCapacity capacity) where
  size_eq := rfl
  slots place := by
    have empty : ((Ring.ofCapacity capacity : Ring α).slots[place]?).join = none := by
      simp only [Ring.ofCapacity, Array.getElem?_replicate]
      split <;> rfl
    rw [empty]
    exact .none
  read_eq := rfl
  write_eq := rfl
  closed_eq := rfl

theorem slot_eq (alike : Ring.Alike items first second) (position : Nat) :
    second.slot position = first.slot position := by
  rw [slot, slot, capacity, capacity, alike.size_eq]

/-- What is put into the same slot of both rings. -/
theorem slots_set (alike : Ring.Alike items first second) (spot : Nat) {item other : Option α}
    (same : Option.Rel items item other) (place : Nat) :
    Option.Rel items ((first.slots.setIfInBounds spot item)[place]?).join
      ((second.slots.setIfInBounds spot other)[place]?).join := by
  rw [Array.getElem?_setIfInBounds, Array.getElem?_setIfInBounds, alike.size_eq]
  split
  · split
    · exact same
    · exact .none
  · exact alike.slots place

theorem offer (alike : Ring.Alike items first second) {item other : α} (same : items item other) :
    Offered.Alike (Ring.Alike items) (first.offer item) (second.offer other) := by
  have full_eq : second.isFull = first.isFull := by
    rw [isFull, isFull, capacity, capacity, alike.size_eq, alike.read_eq, alike.write_eq]
  unfold Ring.offer
  rw [alike.closed_eq, full_eq]
  split
  · exact .closed
  · split
    · exact .full
    · refine .accepted ⟨?_, ?_, alike.read_eq, ?_, rfl⟩
      · simp only [Array.size_setIfInBounds, alike.size_eq]
      · rw [alike.slot_eq, alike.write_eq]
        exact alike.slots_set _ (.some same)
      · rw [alike.write_eq]

theorem poll (alike : Ring.Alike items first second) :
    Polled.Alike items (Ring.Alike items) first.poll second.poll := by
  have empty_eq : second.isEmpty = first.isEmpty := by
    rw [isEmpty, isEmpty, alike.read_eq, alike.write_eq]
  unfold Ring.poll
  rw [alike.closed_eq, empty_eq, alike.slot_eq, alike.read_eq]
  split
  · exact .closed
  · split
    · exact .empty
    · rcases eq_none_or_eq_some_of_rel (alike.slots (first.slot first.read)) with
        ⟨none, absent⟩ | ⟨item, other, present, some, same⟩
      · simp only [none, absent]
        exact .closed
      · simp only [present, some]
        refine .taken same ⟨?_, ?_, rfl, alike.write_eq, rfl⟩
        · simp only [Array.size_setIfInBounds, alike.size_eq]
        · exact alike.slots_set _ .none

theorem close (alike : Ring.Alike items first second) :
    Ring.Alike items first.close second.close where
  size_eq := by simp only [Ring.close, Array.size_map, alike.size_eq]
  slots place := by
    have empty (ring : Ring α) : (ring.close.slots[place]?).join = none := by
      simp only [Ring.close, Array.getElem?_map]
      cases ring.slots[place]? <;> rfl
    rw [empty, empty]
    exact .none
  read_eq := alike.read_eq
  write_eq := alike.write_eq
  closed_eq := rfl

end Ring.Alike

/-- Two striped rings whose stripes are alike. -/
structure StripedRing.Alike (items : α → α → Prop) (first second : StripedRing α) : Prop where
  side_eq : second.side = first.side
  size_eq : second.rings.size = first.rings.size
  rings : ∀ stripe : Nat, Option.Rel (Ring.Alike items) first.rings[stripe]? second.rings[stripe]?

namespace StripedRing.Alike

variable {first second : StripedRing α}

theorem setRing (alike : StripedRing.Alike items first second) (stripe : Nat) {one other : Ring α}
    (same : one.Alike items other) :
    StripedRing.Alike items (first.setRing stripe one) (second.setRing stripe other) where
  side_eq := alike.side_eq
  size_eq := by simp only [StripedRing.setRing, Array.size_setIfInBounds, alike.size_eq]
  rings place := by
    simp only [StripedRing.setRing, Array.getElem?_setIfInBounds, alike.size_eq]
    split
    · split
      · exact .some same
      · exact .none
    · exact alike.rings place

theorem offer (alike : StripedRing.Alike items first second) (hash : UInt64) {item other : α}
    (same : items item other) :
    Offered.Alike (StripedRing.Alike items) (first.offer hash item) (second.offer hash other) := by
  have stripe_eq : second.stripeFor hash = first.stripeFor hash := by
    rw [stripeFor, stripeFor, stripeCount, stripeCount, alike.size_eq]
  unfold StripedRing.offer
  rw [stripe_eq]
  rcases eq_none_or_eq_some_of_rel (alike.rings (first.stripeFor hash)) with
    ⟨none, absent⟩ | ⟨one, another, present, some, rings⟩
  · simp only [none, absent]
    exact .closed
  · simp only [present, some]
    have offered := rings.offer same
    generalize one.offer item = outcome at offered
    generalize another.offer other = result at offered
    cases offered with
    | accepted rings => exact .accepted (alike.setRing _ rings)
    | full => exact .full
    | closed => exact .closed

theorem poll (alike : StripedRing.Alike items first second) (stripe : Nat) :
    Polled.Alike items (StripedRing.Alike items) (first.poll stripe) (second.poll stripe) := by
  unfold StripedRing.poll
  rcases eq_none_or_eq_some_of_rel (alike.rings stripe) with
    ⟨none, absent⟩ | ⟨one, another, present, some, rings⟩
  · simp only [none, absent]
    exact .closed
  · simp only [present, some]
    have polled := rings.poll
    generalize one.poll = outcome at polled
    generalize another.poll = result at polled
    cases polled with
    | taken same rings => exact .taken same (alike.setRing _ rings)
    | empty => exact .empty
    | closed => exact .closed

theorem closeStripe (alike : StripedRing.Alike items first second) (stripe : Nat) :
    StripedRing.Alike items (first.closeStripe stripe) (second.closeStripe stripe) := by
  unfold StripedRing.closeStripe
  rcases eq_none_or_eq_some_of_rel (alike.rings stripe) with
    ⟨none, absent⟩ | ⟨one, another, present, some, rings⟩
  · simp only [none, absent]
    exact alike
  · simp only [present, some]
    exact alike.setRing stripe rings.close

theorem close (alike : StripedRing.Alike items first second) :
    StripedRing.Alike items first.close second.close where
  side_eq := alike.side_eq
  size_eq := by simp only [StripedRing.close, Array.size_map, alike.size_eq]
  rings stripe := by
    simp only [StripedRing.close, Array.getElem?_map]
    exact rel_map (alike.rings stripe) fun _ _ rings => rings.close

theorem of_make {side : Side} {stripes capacity : Nat} {ring : StripedRing α}
    (made : make side stripes capacity = .ok ring) : StripedRing.Alike items ring ring := by
  unfold make at made
  cases shape : Dispatch.checkShape side stripes capacity with
  | error error =>
      rw [shape] at made
      cases made
  | ok _ =>
      rw [shape] at made
      injection made with same
      subst same
      refine ⟨rfl, rfl, fun stripe => ?_⟩
      simp only [Array.getElem?_replicate]
      split
      · exact .some (.ofCapacity capacity)
      · exact .none

end StripedRing.Alike
end Rings

/-! ## Workers -/

/-- Two workers that do alike work, or none. -/
inductive Worker.Alike {ω : Type} (works : ω → ω → Prop) : Worker ω → Worker ω → Prop where
  | idle : Alike works .idle .idle
  | busy {work other : ω} (same : works work other) : Alike works (.busy work) (.busy other)
  | ended (why : Ending) : Alike works (.ended why) (.ended why)

section Crews

variable {α ω : Type} {items : α → α → Prop} {works : ω → ω → Prop}

/-- Two crews of workers with alike work to do. -/
structure Workers.Alike (items : α → α → Prop) (works : ω → ω → Prop)
    (first second : Workers α ω) : Prop where
  ring : first.ring.Alike items second.ring
  workers : ∀ stripe : Nat,
    Option.Rel (Worker.Alike works) first.workers[stripe]? second.workers[stripe]?

namespace Workers.Alike

variable {first second : Workers α ω}

theorem setWorker (alike : Workers.Alike items works first second) (stripe : Nat)
    {worker other : Worker ω} (same : worker.Alike works other) :
    Workers.Alike items works (first.setWorker stripe worker) (second.setWorker stripe other) where
  ring := alike.ring
  workers := rel_set alike.workers stripe same

theorem withRing (alike : Workers.Alike items works first second) {ring other : StripedRing α}
    (same : ring.Alike items other) :
    Workers.Alike items works { first with ring := ring } { second with ring := other } :=
  ⟨same, alike.workers⟩

theorem offer (alike : Workers.Alike items works first second) (hash : UInt64) {item other : α}
    (same : items item other) :
    Offered.Alike (Workers.Alike items works) (first.offer hash item)
      (second.offer hash other) := by
  have offered := alike.ring.offer hash same
  unfold Workers.offer
  generalize first.ring.offer hash item = outcome at offered
  generalize second.ring.offer hash other = result at offered
  cases offered with
  | accepted rings => exact .accepted (alike.withRing rings)
  | full => exact .full
  | closed => exact .closed

theorem work? (alike : Workers.Alike items works first second) (stripe : Nat) :
    Option.Rel works (first.work? stripe) (second.work? stripe) := by
  unfold Workers.work?
  rcases eq_none_or_eq_some_of_rel (alike.workers stripe) with
    ⟨none, absent⟩ | ⟨worker, other, present, some, same⟩
  · simp only [none, absent]
    exact .none
  · simp only [present, some]
    cases same with
    | idle => exact .none
    | busy same => exact .some same
    | ended why => exact .none

theorem take? (alike : Workers.Alike items works first second) (start : α → ω)
    (starts : ∀ item other, items item other → works (start item) (start other)) (stripe : Nat) :
    Option.Rel (Workers.Alike items works) (first.take? start stripe)
      (second.take? start stripe) := by
  unfold Workers.take?
  rcases eq_none_or_eq_some_of_rel (alike.workers stripe) with
    ⟨none, absent⟩ | ⟨worker, other, present, some, same⟩
  · simp only [none, absent]
    exact .none
  · simp only [present, some]
    cases same with
    | busy same => exact .none
    | ended why => exact .none
    | idle =>
        have polled := alike.ring.poll stripe
        generalize first.ring.poll stripe = outcome at polled
        generalize second.ring.poll stripe = result at polled
        cases polled with
        | taken same rings =>
            exact .some ((alike.withRing rings).setWorker stripe (.busy (starts _ _ same)))
        | empty => exact .none
        | closed => exact .some (alike.setWorker stripe (.ended .closed))

theorem endWorker (alike : Workers.Alike items works first second) (stripe : Nat) (why : Ending) :
    Workers.Alike items works (first.endWorker stripe why) (second.endWorker stripe why) :=
  (alike.withRing (alike.ring.closeStripe stripe)).setWorker stripe (.ended why)

theorem settle (alike : Workers.Alike items works first second) (stripe : Nat) (verdict : Verdict) :
    Workers.Alike items works (first.settle stripe verdict) (second.settle stripe verdict) := by
  cases verdict with
  | goOn => exact alike.setWorker stripe .idle
  | giveUp => exact alike.endWorker stripe .gaveUp
  | cancelled => exact alike.endWorker stripe .cancelled
  | crashed => exact alike.endWorker stripe .crashed

theorem close (alike : Workers.Alike items works first second) :
    Workers.Alike items works first.close second.close :=
  ⟨alike.ring.close, alike.workers⟩

theorem allEnded_eq (alike : Workers.Alike items works first second) :
    second.allEnded = first.allEnded := by
  have ended_eq : second.workers.map Worker.hasEnded = first.workers.map Worker.hasEnded := by
    apply List.ext_getElem?
    intro stripe
    simp only [List.getElem?_map]
    rcases eq_none_or_eq_some_of_rel (alike.workers stripe) with
      ⟨none, absent⟩ | ⟨worker, other, present, some, same⟩
    · rw [none, absent]
    · rw [present, some]
      cases same <;> rfl
  have all_eq := congrArg (List.all · id) ended_eq
  simp only [List.all_map, Function.id_comp] at all_eq
  exact all_eq

end Workers.Alike

/-- Two crews that are alike. -/
inductive Crew.Alike (items : α → α → Prop) (works : ω → ω → Prop) :
    Crew α ω → Crew α ω → Prop where
  | direct : Alike items works .direct .direct
  | striped {first second : Workers α ω} (same : first.Alike items works second) :
      Alike items works (.striped first) (.striped second)

namespace Crew.Alike

variable {first second : Crew α ω}

theorem of_make {side : Side} {dispatch : Dispatch} {crew : Crew α ω}
    (made : make side dispatch = .ok crew) : crew.Alike items works crew := by
  cases dispatch with
  | direct =>
      injection made with same
      subst same
      exact .direct
  | striped stripes capacity =>
      simp only [make, Workers.make] at made
      cases shape :
          (StripedRing.make side stripes capacity : Except ConfigError (StripedRing α)) with
      | error error =>
          rw [shape] at made
          cases made
      | ok ring =>
          rw [shape] at made
          injection made with same
          subst same
          refine .striped ⟨.of_make shape, fun stripe => ?_⟩
          simp only [Workers.ofRing, List.getElem?_replicate]
          split
          · exact .some .idle
          · exact .none

/-- Both crews are on the calling thread, or both have workers. -/
theorem eq_direct_or_eq_striped (alike : first.Alike items works second) :
    (first = .direct ∧ second = .direct) ∨
      ∃ workers others, first = .striped workers ∧ second = .striped others ∧
        workers.Alike items works others := by
  cases alike with
  | direct => exact Or.inl ⟨rfl, rfl⟩
  | striped same => exact Or.inr ⟨_, _, rfl, rfl, same⟩

theorem close (alike : first.Alike items works second) :
    first.close.Alike items works second.close := by
  cases alike with
  | direct => exact .direct
  | striped same => exact .striped same.close

theorem allEnded_eq (alike : first.Alike items works second) :
    second.allEnded = first.allEnded := by
  cases alike with
  | direct => rfl
  | striped same => exact same.allEnded_eq

theorem workers? (alike : first.Alike items works second) :
    Option.Rel (Workers.Alike items works) first.workers? second.workers? := by
  cases alike with
  | direct => exact .none
  | striped same => exact .some same

theorem modify (alike : first.Alike items works second)
    {change other : Workers α ω → Workers α ω}
    (changes : ∀ one another, one.Alike items works another →
      (change one).Alike items works (other another)) :
    (first.modify change).Alike items works (second.modify other) := by
  cases alike with
  | direct => exact .direct
  | striped same => exact .striped (changes _ _ same)

end Crew.Alike
end Crews
end CacheSync
