import CacheSync.Proofs.Ring.Queue

/-!
# Calls on striped rings

What the answer of a call says about the stripe it was made on, and what the call changes there.
The stripe of a hash is its remainder by the number of stripes, and to close a striped ring is to
close its stripes in turn.
-/

namespace CacheSync

/-- To put another element in a list changes a count by what the two elements count for. -/
theorem countP_set_add {β : Type} (counts : β → Bool) {list : List β} {place : Nat} {old : β}
    (found : list[place]? = some old) (new : β) :
    (list.set place new).countP counts + (if counts old then 1 else 0) =
      list.countP counts + if counts new then 1 else 0 := by
  induction list generalizing place with
  | nil => cases found
  | cons first rest inductionHypothesis =>
      cases place with
      | zero =>
          injection found with same
          subst same
          simp only [List.set_cons_zero, List.countP_cons]
          omega
      | succ place =>
          have tail := inductionHypothesis found
          simp only [List.set_cons_succ, List.countP_cons]
          omega

namespace StripedRing

/-- The stripe of a hash is its remainder by the number of stripes, a power of two. -/
theorem stripeAmong_eq_mod {stripes : Nat} (power : isPowerOfTwo stripes = true) (hash : UInt64) :
    stripeAmong stripes hash = hash.toNat % stripes := by
  obtain ⟨bits, shape⟩ := (isPowerOfTwo_iff stripes).1 power
  have shape : stripes = 2 ^ bits := shape
  rw [shape, stripeAmong, UInt64.toNat_and, UInt64.toNat_ofNat']
  by_cases wide : bits ≤ 64
  · have fits : 2 ^ bits - 1 < 2 ^ 64 := by
      have positive : 0 < 2 ^ bits := Nat.two_pow_pos bits
      have bound : 2 ^ bits ≤ 2 ^ 64 := Nat.pow_le_pow_right (by decide) wide
      omega
    rw [Nat.mod_eq_of_lt fits]
    exact Nat.and_two_pow_sub_one_eq_mod _ _
  · -- A mask of more than 64 bits is cut to 64 ones, and a hash is smaller than that.
    have ones : (2 ^ bits - 1) % 2 ^ 64 = 2 ^ 64 - 1 := by
      have split : 2 ^ bits = 2 ^ 64 * 2 ^ (bits - 64) := by
        rw [← Nat.pow_add]
        congr 1
        omega
      have positive : 0 < 2 ^ (bits - 64) := Nat.two_pow_pos _
      rw [split]
      omega
    have small : hash.toNat < 2 ^ 64 := hash.toNat_lt
    have bound : 2 ^ 64 ≤ 2 ^ bits := Nat.pow_le_pow_right (by decide) (by omega)
    have below : hash.toNat < 2 ^ bits := Nat.lt_of_lt_of_le small bound
    rw [ones, Nat.and_two_pow_sub_one_eq_mod, Nat.mod_eq_of_lt small, Nat.mod_eq_of_lt below]

end StripedRing

namespace Ring

variable {α : Type} {ring after : Ring α} {item : α}

theorem opened_of_offer (accepted : ring.offer item = .accepted after) : ring.closed = false := by
  cases closed : ring.closed with
  | false => rfl
  | true => simp [offer, closed] at accepted

theorem opened_of_poll (taken : ring.poll = .taken item after) : ring.closed = false := by
  cases closed : ring.closed with
  | false => rfl
  | true => simp [poll, closed] at taken

theorem Holds.of_offer {items : List α} {item : α} {after : Ring α} (holds : ring.Holds items)
    (offered : ring.offer item = .accepted after) : after.Holds (items ++ [item]) := by
  rcases holds.offer item with full | ⟨next, accepted, held⟩
  · rw [full] at offered
    cases offered
  · rw [accepted] at offered
    injection offered with same
    exact same ▸ held

/-- What is polled is the first of what the ring holds. -/
theorem Holds.of_poll {items : List α} {item : α} {after : Ring α} (holds : ring.Holds items)
    (polled : ring.poll = .taken item after) : ∃ rest, items = item :: rest ∧ after.Holds rest := by
  cases items with
  | nil =>
      rw [holds.poll_nil] at polled
      cases polled
  | cons first rest =>
      obtain ⟨next, taken, held⟩ := holds.poll_cons
      rw [taken] at polled
      injection polled with sameItem sameRing
      exact ⟨rest, by rw [sameItem], sameRing ▸ held⟩

/-- An open ring never answers that it is closed: no slot between its cursors is empty. -/
theorem Holds.poll_ne_closed {items : List α} (holds : ring.Holds items) :
    ring.poll ≠ .closed := by
  intro polled
  cases items with
  | nil =>
      rw [holds.poll_nil] at polled
      cases polled
  | cons first rest =>
      obtain ⟨later, taken, _⟩ := holds.poll_cons
      rw [taken] at polled
      cases polled

end Ring

namespace StripedRing

variable {α : Type} {ring after : StripedRing α} {stripe : Nat} {hash : UInt64} {item : α}

theorem of_offer (accepted : ring.offer hash item = .accepted after) :
    ∃ one next, ring.rings[ring.stripeFor hash]? = some one ∧ one.offer item = .accepted next ∧
      after = ring.setRing (ring.stripeFor hash) next := by
  unfold offer at accepted
  cases found : ring.rings[ring.stripeFor hash]? with
  | none => simp only [found, reduceCtorEq] at accepted
  | some one =>
      simp only [found] at accepted
      cases outcome : one.offer item with
      | accepted next =>
          simp only [outcome, Offered.accepted.injEq] at accepted
          exact ⟨one, next, rfl, outcome, accepted.symm⟩
      | full => simp only [outcome, reduceCtorEq] at accepted
      | closed => simp only [outcome, reduceCtorEq] at accepted

theorem of_poll (taken : ring.poll stripe = .taken item after) :
    ∃ one next, ring.rings[stripe]? = some one ∧ one.poll = .taken item next ∧
      after = ring.setRing stripe next := by
  unfold poll at taken
  cases found : ring.rings[stripe]? with
  | none => simp only [found, reduceCtorEq] at taken
  | some one =>
      simp only [found] at taken
      cases outcome : one.poll with
      | taken oldest next =>
          simp only [outcome, Polled.taken.injEq] at taken
          exact ⟨one, next, rfl, by rw [outcome, taken.1], taken.2.symm⟩
      | empty => simp only [outcome, reduceCtorEq] at taken
      | closed => simp only [outcome, reduceCtorEq] at taken

theorem size_setRing (ring : StripedRing α) (stripe : Nat) (one : Ring α) :
    (ring.setRing stripe one).rings.size = ring.rings.size :=
  Array.size_setIfInBounds

theorem size_closeStripe (ring : StripedRing α) (stripe : Nat) :
    (ring.closeStripe stripe).rings.size = ring.rings.size := by
  unfold closeStripe
  cases ring.rings[stripe]? with
  | none => rfl
  | some one => exact size_setRing ring stripe one.close

theorem closeStripe_of_some {one : Ring α} (found : ring.rings[stripe]? = some one) :
    ring.closeStripe stripe = ring.setRing stripe one.close := by
  simp only [closeStripe, found]

theorem getElem?_closeStripe (ring : StripedRing α) (stripe other : Nat) :
    (ring.closeStripe stripe).rings[other]? =
      if other = stripe then ring.rings[other]?.map Ring.close else ring.rings[other]? := by
  unfold closeStripe
  cases found : ring.rings[stripe]? with
  | none =>
      by_cases same : other = stripe
      · subst same
        simp [found]
      · simp [same]
  | some one =>
      have inRange : stripe < ring.rings.size := (Array.getElem?_eq_some_iff.1 found).1
      by_cases same : other = stripe
      · subst same
        simp only [↓reduceIte, found, setRing, Array.getElem?_setIfInBounds_self_of_lt inRange,
          Option.map_some]
      · simp only [same, ↓reduceIte, setRing, Array.getElem?_setIfInBounds_ne (Ne.symm same)]

/-- To close the first stripes one after the other closes those and no others. -/
theorem getElem?_closeStripes (ring : StripedRing α) (count stripe : Nat) :
    ((List.range count).foldl closeStripe ring).rings[stripe]? =
      if stripe < count then ring.rings[stripe]?.map Ring.close else ring.rings[stripe]? := by
  induction count with
  | zero => simp
  | succ count inductionHypothesis =>
      rw [List.range_succ, List.foldl_append, List.foldl_cons, List.foldl_nil,
        getElem?_closeStripe, inductionHypothesis]
      by_cases last : stripe = count
      · simp [last]
      · by_cases early : stripe < count
        · simp [last, early, Nat.lt_succ_of_lt early]
        · have late : ¬stripe < count + 1 := by omega
          simp [last, early, late]

/-- To close every stripe in turn closes the whole. -/
theorem foldl_closeStripe (ring : StripedRing α) :
    (List.range ring.stripeCount).foldl closeStripe ring = ring.close := by
  have side (stripes : List Nat) : (stripes.foldl closeStripe ring).side = ring.side := by
    induction stripes generalizing ring with
    | nil => rfl
    | cons stripe rest inductionHypothesis =>
        rw [List.foldl_cons, inductionHypothesis]
        unfold closeStripe
        cases ring.rings[stripe]? <;> rfl
  have rings : ((List.range ring.stripeCount).foldl closeStripe ring).rings =
      ring.rings.map Ring.close := by
    apply Array.ext_getElem?
    intro stripe
    rw [getElem?_closeStripes]
    by_cases inRange : stripe < ring.stripeCount
    · simp [inRange]
    · have outside : ring.rings.size ≤ stripe := Nat.le_of_not_lt inRange
      simp [inRange, outside]
  have side := side (List.range ring.stripeCount)
  generalize (List.range ring.stripeCount).foldl closeStripe ring = last at side rings
  obtain ⟨lastSide, lastRings⟩ := last
  rw [close, ← side, ← rings]

theorem poll_of_some {one : Ring α} (found : ring.rings[stripe]? = some one) :
    ring.poll stripe = .closed ↔ one.poll = .closed := by
  unfold poll
  cases outcome : one.poll with
  | taken oldest next => simp only [found, outcome, reduceCtorEq]
  | empty => simp only [found, outcome, reduceCtorEq]
  | closed => simp only [found, outcome]

end StripedRing

namespace Workers

variable {α ω : Type} {w after : Workers α ω} {start : α → ω} {stripe : Nat}

/-- A worker that takes an item or ends was idle. -/
theorem idle_of_take? (taken : w.take? start stripe = some after) :
    w.workers[stripe]? = some .idle := by
  unfold take? at taken
  cases found : w.workers[stripe]? with
  | none => simp only [found, reduceCtorEq] at taken
  | some worker =>
      cases worker with
      | idle => rfl
      | busy work => simp only [found, reduceCtorEq] at taken
      | ended why => simp only [found, reduceCtorEq] at taken

theorem of_offer {hash : UInt64} {item : α} (accepted : w.offer hash item = .accepted after) :
    ∃ one next, w.ring.rings[w.ring.stripeFor hash]? = some one ∧
      one.offer item = .accepted next ∧
      after = { w with ring := w.ring.setRing (w.ring.stripeFor hash) next } := by
  unfold offer at accepted
  cases outcome : w.ring.offer hash item with
  | accepted ring =>
      obtain ⟨one, next, found, offered, rfl⟩ := StripedRing.of_offer outcome
      simp only [outcome, Offered.accepted.injEq] at accepted
      exact ⟨one, next, found, offered, accepted.symm⟩
  | full => simp only [outcome, reduceCtorEq] at accepted
  | closed => simp only [outcome, reduceCtorEq] at accepted

theorem of_take?_taken {item : α} {ring : StripedRing α} (taken : w.take? start stripe = some after)
    (polled : w.ring.poll stripe = .taken item ring) :
    ∃ one next, w.ring.rings[stripe]? = some one ∧ one.poll = .taken item next ∧
      after = { w with ring := w.ring.setRing stripe next }.setWorker stripe
        (.busy (start item)) := by
  obtain ⟨one, next, found, outcome, rfl⟩ := StripedRing.of_poll polled
  simp only [take?, idle_of_take? taken, polled, Option.some.injEq] at taken
  exact ⟨one, next, found, outcome, taken.symm⟩

theorem of_take?_closed (taken : w.take? start stripe = some after)
    (polled : w.ring.poll stripe = .closed) : after = w.setWorker stripe (.ended .closed) := by
  simp only [take?, idle_of_take? taken, polled, Option.some.injEq] at taken
  exact taken.symm

theorem of_work? {work : ω} (busy : w.work? stripe = some work) :
    w.workers[stripe]? = some (.busy work) := by
  unfold work? at busy
  cases found : w.workers[stripe]? with
  | none => simp only [found, reduceCtorEq] at busy
  | some worker =>
      cases worker with
      | idle => simp only [found, reduceCtorEq] at busy
      | busy held =>
          simp only [found, Option.some.injEq] at busy
          rw [busy]
      | ended why => simp only [found, reduceCtorEq] at busy

end Workers

end CacheSync
