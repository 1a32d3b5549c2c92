import CacheSync.Proofs.Ring.Stripes

/-!
# The load of a crew

The load of the workers of a striped ring is everything they have still to do: the items that wait
in the open stripes, and the one that each busy worker works on.  Every call on the ring and every
verdict of a worker changes it by what it says, and nothing else does.  A worker that ends for good
closes its stripe, and what waits there is lost; `Workers.dropped` says what that is.
-/

namespace CacheSync

/-- Joined lists change with one element by what the two elements stand for. -/
theorem countP_flatMap_set {β γ : Type} (counts : γ → Bool) (of : β → List γ) {list : List β}
    {place : Nat} {old : β} (found : list[place]? = some old) (new : β) :
    ((list.set place new).flatMap of).countP counts + (of old).countP counts =
      (list.flatMap of).countP counts + (of new).countP counts := by
  induction list generalizing place with
  | nil => cases found
  | cons first rest inductionHypothesis =>
      cases place with
      | zero =>
          injection found with same
          subst same
          simp only [List.set_cons_zero, List.flatMap_cons, List.countP_append]
          omega
      | succ place =>
          have tail := inductionHypothesis found
          simp only [List.set_cons_succ, List.flatMap_cons, List.countP_append]
          omega

namespace Ring

variable {α : Type} {ring after : Ring α} {items : List α} {item : α}

/-- The items that wait in a ring, the oldest first. -/
def queued (ring : Ring α) : List α :=
  if ring.closed then []
  else
    (List.range (ring.write - ring.read)).filterMap fun position =>
      (ring.slots[ring.slot (ring.read + position)]?).join

/-- A ring is closed, or it is a queue. -/
def Sound (ring : Ring α) : Prop :=
  ring.closed = true ∨ ∃ items, ring.Holds items

theorem queued_of_closed (closed : ring.closed = true) : ring.queued = [] := by
  simp only [queued, closed, ↓reduceIte]

theorem Holds.queued_eq (holds : ring.Holds items) : ring.queued = items := by
  have slots : (List.range items.length).map
      (fun position => (ring.slots[ring.slot (ring.read + position)]?).join) =
        items.map some := by
    apply List.ext_getElem
    · simp
    · intro position _ inRange
      rw [List.length_map] at inRange
      simp [holds.slots position inRange]
  have joined := congrArg (List.filterMap id) slots
  simp only [List.filterMap_map, Function.comp_def, id_eq, List.filterMap_some] at joined
  simp only [queued, holds.opened, Bool.false_eq_true, ↓reduceIte, holds.write_eq,
    Nat.add_sub_cancel_left, joined]

theorem sound_close (ring : Ring α) : ring.close.Sound :=
  Or.inl rfl

theorem queued_close (ring : Ring α) : ring.close.queued = [] :=
  queued_of_closed rfl

namespace Sound

theorem holds (sound : ring.Sound) (opened : ring.closed = false) : ring.Holds ring.queued := by
  rcases sound with closed | ⟨items, holds⟩
  · rw [opened] at closed
    cases closed
  · rw [holds.queued_eq]
    exact holds

theorem offer (sound : ring.Sound) (accepted : ring.offer item = .accepted after) :
    after.Sound ∧ after.queued = ring.queued ++ [item] := by
  have holds := (sound.holds (opened_of_offer accepted)).of_offer accepted
  exact ⟨Or.inr ⟨_, holds⟩, holds.queued_eq⟩

theorem poll (sound : ring.Sound) (taken : ring.poll = .taken item after) :
    after.Sound ∧ ring.queued = item :: after.queued := by
  obtain ⟨rest, queued_eq, holds⟩ := (sound.holds (opened_of_poll taken)).of_poll taken
  exact ⟨Or.inr ⟨rest, holds⟩, by rw [queued_eq, holds.queued_eq]⟩

end Sound
end Ring

/-- What a worker works on. -/
def Worker.load {α ω : Type} (of : ω → α) : Worker ω → List α
  | .busy work => [of work]
  | _ => []

namespace Workers

variable {α ω : Type} {w after : Workers α ω} {stripe : Nat} {item : α} {work : ω}

/-- Everything the workers have still to do; `of` says which item a piece of work is about. -/
def load (of : ω → α) (w : Workers α ω) : List α :=
  w.ring.rings.toList.flatMap Ring.queued ++ w.workers.flatMap (Worker.load of)

/-- What is lost when a stripe closes. -/
def dropped (w : Workers α ω) (stripe : Nat) : List α :=
  ((w.ring.rings[stripe]?).map Ring.queued).getD []

/-- Each stripe is closed or a queue. -/
def Sound (w : Workers α ω) : Prop :=
  ∀ ring ∈ w.ring.rings.toList, ring.Sound

theorem Sound.ring (sound : w.Sound) {one : Ring α} (found : w.ring.rings[stripe]? = some one) :
    one.Sound :=
  sound one (Array.mem_toList_iff.2 (Array.mem_of_getElem? found))

theorem load_of_make {side : Side} {stripes capacity : Nat} (of : ω → α)
    (made : make side stripes capacity = .ok w) : w.Sound ∧ w.load of = [] := by
  have shown := shows_of_make made
  have rings : ∀ ring ∈ w.ring.rings.toList, ring.Holds [] := by
    intro ring member
    obtain ⟨stripe, found⟩ := Array.getElem?_of_mem (Array.mem_toList_iff.1 member)
    have inRange := (Array.getElem?_eq_some_iff.1 found).1
    rw [shown.rings_size] at inRange
    obtain ⟨one, here, holds⟩ := shown.rings stripe inRange
    obtain rfl := Option.some.inj (found.symm.trans here)
    exact holds
  have workers : ∀ worker ∈ w.workers, worker.load of = [] := by
    intro worker member
    obtain ⟨stripe, inRange, rfl⟩ := List.mem_iff_getElem.1 member
    have idle := shown.workers stripe (shown.workers_length ▸ inRange)
    rw [List.getElem?_eq_getElem inRange] at idle
    rw [Option.some.inj idle]
    rfl
  refine ⟨fun ring member => Or.inr ⟨[], rings ring member⟩, ?_⟩
  simp only [load, List.append_eq_nil_iff, List.flatMap_eq_nil_iff]
  exact ⟨fun ring member => (rings ring member).queued_eq, workers⟩

section Changes

variable (of : ω → α) (counts : α → Bool)

theorem sound_setRing (sound : w.Sound) {one : Ring α} (whole : one.Sound) :
    ({ w with ring := w.ring.setRing stripe one } : Workers α ω).Sound := by
  intro ring member
  rw [StripedRing.setRing, Array.toList_setIfInBounds] at member
  rcases List.mem_or_eq_of_mem_set member with old | rfl
  · exact sound ring old
  · exact whole

theorem load_setRing {old : Ring α} (found : w.ring.rings[stripe]? = some old) (one : Ring α) :
    (({ w with ring := w.ring.setRing stripe one } : Workers α ω).load of).countP counts +
        old.queued.countP counts =
      (w.load of).countP counts + one.queued.countP counts := by
  have here : w.ring.rings.toList[stripe]? = some old := by simpa using found
  have changed := countP_flatMap_set counts Ring.queued here one
  simp only [load, StripedRing.setRing, Array.toList_setIfInBounds, List.countP_append]
  omega

theorem load_setWorker {old : Worker ω} (found : w.workers[stripe]? = some old)
    (worker : Worker ω) :
    ((w.setWorker stripe worker).load of).countP counts + (old.load of).countP counts =
      (w.load of).countP counts + (worker.load of).countP counts := by
  have changed := countP_flatMap_set counts (Worker.load of) found worker
  simp only [load, setWorker, List.countP_append]
  omega

/-- An item that is taken in adds to the load. -/
theorem load_offer (sound : w.Sound) {hash : UInt64}
    (accepted : w.offer hash item = .accepted after) :
    after.Sound ∧ (after.load of).countP counts =
      (w.load of).countP counts + [item].countP counts := by
  obtain ⟨one, next, found, offered, rfl⟩ := of_offer accepted
  obtain ⟨whole, queued_eq⟩ := (sound.ring found).offer offered
  refine ⟨sound_setRing sound whole, ?_⟩
  have changed := load_setRing of counts found next
  rw [queued_eq, List.countP_append] at changed
  omega

/-- An item has come behind those that wait in the stripe of its hash, and nothing else has
changed. -/
structure Gains (w : Workers α ω) (hash : UInt64) (item : α) (after : Workers α ω) : Prop where
  side_eq : after.side = w.side
  workers_eq : after.workers = w.workers
  others_eq : ∀ stripe, stripe ≠ w.ring.stripeFor hash →
    after.ring.rings[stripe]? = w.ring.rings[stripe]?
  behind : ∃ one next, w.ring.rings[w.ring.stripeFor hash]? = some one ∧
    after.ring.rings[w.ring.stripeFor hash]? = some next ∧ one.closed = false ∧
      (one.Sound → next.Sound ∧ next.queued = one.queued ++ [item])

theorem gains_of_offer {hash : UInt64} (accepted : w.offer hash item = .accepted after) :
    w.Gains hash item after := by
  obtain ⟨one, next, found, offered, rfl⟩ := of_offer accepted
  refine ⟨rfl, rfl, fun stripe other => ?_, one, next, found, ?_, Ring.opened_of_offer offered,
    fun sound => sound.offer offered⟩
  · exact Array.getElem?_setIfInBounds_ne other.symm
  · exact Array.getElem?_setIfInBounds_self_of_lt (Array.getElem?_eq_some_iff.1 found).1

/-- A stripe that refuses an item is closed. -/
theorem closed_of_offer {hash : UInt64} (refused : w.offer hash item = .closed) {one : Ring α}
    (found : w.ring.rings[w.ring.stripeFor hash]? = some one) : one.closed = true := by
  cases closed : one.closed with
  | true => rfl
  | false =>
      simp only [offer, StripedRing.offer, found, Ring.offer, closed, Bool.false_eq_true,
        ↓reduceIte] at refused
      cases full : one.isFull with
      | true => simp only [full, ↓reduceIte, reduceCtorEq] at refused
      | false => simp only [full, Bool.false_eq_true, ↓reduceIte, reduceCtorEq] at refused

/-- An item that a worker takes is still part of the load. -/
theorem load_take? (sound : w.Sound) {start : α → ω} (same : ∀ item, of (start item) = item)
    (taken : w.take? start stripe = some after) :
    after.Sound ∧ (after.load of).countP counts = (w.load of).countP counts := by
  have idle := idle_of_take? taken
  cases polled : w.ring.poll stripe with
  | empty =>
      simp only [take?, idle, polled] at taken
      cases taken
  | closed =>
      obtain rfl := of_take?_closed taken polled
      have changed := load_setWorker of counts idle (.ended .closed)
      exact ⟨sound, by simpa [Worker.load] using changed⟩
  | taken item ring =>
      obtain ⟨one, next, found, outcome, rfl⟩ := of_take?_taken taken polled
      obtain ⟨whole, queued_eq⟩ := (sound.ring found).poll outcome
      refine ⟨sound_setRing sound whole, ?_⟩
      have rings := load_setRing of counts found next
      have workers := load_setWorker (w := { w with ring := w.ring.setRing stripe next }) of counts
        idle (.busy (start item))
      simp only [Worker.load, same, queued_eq, List.countP_cons, List.countP_nil] at rings workers
      omega

/-- A worker that goes on with its item keeps it. -/
theorem load_work (busy : w.work? stripe = some work) {later : ω} (same : of later = of work) :
    ((w.setWorker stripe (.busy later)).load of).countP counts = (w.load of).countP counts := by
  have changed := load_setWorker of counts (of_work? busy) (.busy later)
  simp only [Worker.load, same] at changed
  omega

theorem load_goOn (busy : w.work? stripe = some work) :
    ((w.settle stripe .goOn).load of).countP counts + [of work].countP counts =
      (w.load of).countP counts := by
  have changed := load_setWorker of counts (of_work? busy) .idle
  simp only [Worker.load, List.countP_nil, Nat.add_zero] at changed
  exact changed

/-- A worker that ends for good loses its item and those that wait in its stripe. -/
theorem load_endWorker (busy : w.work? stripe = some work) (sound : w.Sound) (why : Ending) :
    (w.endWorker stripe why).Sound ∧
      ((w.endWorker stripe why).load of).countP counts +
          (of work :: w.dropped stripe).countP counts =
        (w.load of).countP counts := by
  have workers (ring : StripedRing α) := load_setWorker (w := { w with ring := ring }) of counts
    (of_work? busy) (.ended why)
  unfold endWorker
  cases found : w.ring.rings[stripe]? with
  | none =>
      have same : w.ring.closeStripe stripe = w.ring := by
        simp only [StripedRing.closeStripe, found]
      have changed := workers w.ring
      rw [same]
      refine ⟨sound, ?_⟩
      simpa [dropped, found, Worker.load] using changed
  | some one =>
      rw [StripedRing.closeStripe_of_some found]
      refine ⟨sound_setRing sound one.sound_close, ?_⟩
      have changed := workers (w.ring.setRing stripe one.close)
      have rings := load_setRing of counts found one.close
      simp only [dropped, found, Option.map_some, Option.getD_some, Ring.queued_close, Worker.load,
        List.countP_cons, List.countP_nil] at changed rings ⊢
      omega

/-- What leaves the load with a verdict on some work. -/
def leaving (w : Workers α ω) (stripe : Nat) (work : ω) : Verdict → List α
  | .goOn => [of work]
  | _ => of work :: w.dropped stripe

theorem load_settle (busy : w.work? stripe = some work) (sound : w.Sound) (verdict : Verdict) :
    (w.settle stripe verdict).Sound ∧
      ((w.settle stripe verdict).load of).countP counts +
          (w.leaving of stripe work verdict).countP counts =
        (w.load of).countP counts := by
  cases verdict with
  | goOn => exact ⟨sound, load_goOn of counts busy⟩
  | giveUp => exact load_endWorker of counts busy sound .gaveUp
  | cancelled => exact load_endWorker of counts busy sound .cancelled
  | crashed => exact load_endWorker of counts busy sound .crashed

end Changes

/-! ## Workers that have ended -/

/-- How many workers have ended, for whatever reason. -/
def endings (w : Workers α ω) : Nat :=
  w.workers.countP Worker.hasEnded

section Ended

/- The workers that are counted are some of those that have ended. -/
variable (counts : Worker ω → Bool)

theorem countP_setWorker_le {old : Worker ω} (found : w.workers[stripe]? = some old)
    (alive : counts old = false) (worker : Worker ω) :
    w.workers.countP counts ≤ (w.setWorker stripe worker).workers.countP counts := by
  have changed := countP_set_add counts found worker
  rw [alive] at changed
  simp only [setWorker]
  simp only [Bool.false_eq_true, ↓reduceIte, Nat.add_zero] at changed
  omega

theorem countP_take? (alive : counts .idle = false) {start : α → ω}
    (taken : w.take? start stripe = some after) :
    w.workers.countP counts ≤ after.workers.countP counts := by
  have idle := idle_of_take? taken
  simp only [take?, idle] at taken
  split at taken
  · injection taken with same
    subst same
    exact countP_setWorker_le (w := { w with ring := _ }) counts idle alive _
  · cases taken
  · injection taken with same
    subst same
    exact countP_setWorker_le counts idle alive _

theorem countP_settle (alive : ∀ work, counts (.busy work) = false)
    (busy : w.work? stripe = some work) (verdict : Verdict) :
    w.workers.countP counts ≤ (w.settle stripe verdict).workers.countP counts := by
  have found := of_work? busy
  have still := alive work
  cases verdict with
  | goOn => exact countP_setWorker_le counts found still _
  | giveUp => exact countP_setWorker_le (w := { w with ring := _ }) counts found still _
  | cancelled => exact countP_setWorker_le (w := { w with ring := _ }) counts found still _
  | crashed => exact countP_setWorker_le (w := { w with ring := _ }) counts found still _

end Ended

theorem workers_offer {hash : UInt64} (accepted : w.offer hash item = .accepted after) :
    after.workers = w.workers := by
  obtain ⟨one, next, _, _, rfl⟩ := of_offer accepted
  rfl

/-- A verdict other than to go on ends the worker. -/
theorem endings_settle_pos (busy : w.work? stripe = some work) {verdict : Verdict}
    (final : verdict ≠ .goOn) : 0 < (w.settle stripe verdict).endings := by
  obtain ⟨inRange, _⟩ := List.getElem?_eq_some_iff.1 (of_work? busy)
  have ends (why : Ending) : 0 < (w.endWorker stripe why).endings := by
    refine List.countP_pos_iff.2 ⟨.ended why, ?_, rfl⟩
    exact List.mem_set inRange _
  cases verdict with
  | goOn => exact absurd rfl final
  | giveUp => exact ends .gaveUp
  | cancelled => exact ends .cancelled
  | crashed => exact ends .crashed

end Workers
end CacheSync
