import CacheSync.Event.Hash
import CacheSync.Proofs.Cluster.Sending
import CacheSync.Proofs.Ring.Queue

/-!
# The way of events from one node to another

Between a node that changes a cache and a node that follows it, events wait in the stripes of two
striped rings.  A `Route` lists them, with what both nodes hold.  Events of one key take one stripe
of either ring, so those of a key that are still on their way, `Route.pending`, stay in the order
they were made in; and they lead, old value by old value, from what the follower holds to what the
leader holds.
-/

namespace CacheSync

open Json (Value)
open StripedRing (stripeAmong)

/-- An event of one key of a cache that arrives as it was sent. -/
structure Event.Faithful (event : Event) (cache : String) : Prop extends event.Sendable cache where
  keyed : ∃ key, event.key = .entry key
  old_eq : event.delivered.old = event.old
  new_eq : event.delivered.new = event.new

theorem Event.Faithful.not_concerns {event : Event} {cache key : String}
    (faithful : event.Faithful cache) (different : ¬ event.key = .entry key) :
    ¬ event.Concerns key := by
  obtain ⟨one, entry⟩ := faithful.keyed
  rw [Event.concerns_entry entry]
  rintro rfl
  exact different entry

/-- The events lead from one value of a key to another. -/
def Leads : Option Value → List Event → Option Value → Prop
  | first, [], last => first = last
  | first, event :: rest, last => event.old = first ∧ Leads event.new rest last

theorem Leads.append {event : Event} {last : Option Value} (old_eq : event.old = last) :
    ∀ {first : Option Value} {events : List Event}, Leads first events last →
      Leads first (events ++ [event]) event.new := by
  intro first events
  induction events generalizing first with
  | nil =>
      intro leads
      exact ⟨old_eq.trans leads.symm, rfl⟩
  | cons head rest inductionHypothesis =>
      rintro ⟨here, further⟩
      exact ⟨here, inductionHypothesis further⟩

/-- An event that finds its old value leaves its new one. -/
theorem Guard.applied_of_expected {event : Event} {cache key : String}
    (faithful : event.Faithful cache) (one : event.key = .entry key) {held : Contents}
    (expected : event.old = held key) :
    Guard.none.applied .replicated event.delivered held key = event.new := by
  have deliveredOne : event.delivered.key = .entry key := one
  obtain ⟨portableOld, _⟩ : event.old.all Value.isPortable = true ∧
      event.new.all Value.isPortable = true := by
    simpa [Event.isPortable] using faithful.portable
  cases new : event.new with
  | none =>
      simp only [applied, deliveredOne, faithful.new_eq, new, dropped, allows_none, ↓reduceIte]
  | some value =>
      simp only [applied, deliveredOne, faithful.new_eq, new, allows_none, ↓reduceIte,
        faithful.old_eq, expected]
      cases current : held key with
      | none => rfl
      | some current =>
          rw [expected, current] at portableOld
          simp [Store.joined, takeIfExpected, Value.same_self portableOld]

/-! ## Events in stripes -/

/-- Faithful events wait in the stripes of their hashes. -/
def Routed (cache : String) (stripes : Nat) (queue : Nat → List Event) : Prop :=
  ∀ stripe, ∀ event ∈ queue stripe, event.Faithful cache ∧ stripeAmong stripes event.hash = stripe

namespace Routed

variable {cache : String} {stripes stripe : Nat} {queue : Nat → List Event} {event : Event}
  {rest : List Event}

theorem push (routed : Routed cache stripes queue) (faithful : event.Faithful cache) :
    Routed cache stripes (Function.update queue (stripeAmong stripes event.hash)
      (queue (stripeAmong stripes event.hash) ++ [event])) := by
  intro other one member
  by_cases same : other = stripeAmong stripes event.hash
  · subst same
    rw [Function.update_self] at member
    rcases List.mem_append.1 member with early | late
    · exact routed _ one early
    · rw [List.mem_singleton.1 late]
      exact ⟨faithful, rfl⟩
  · rw [Function.update_of_ne same] at member
    exact routed other one member

theorem drop (routed : Routed cache stripes queue) (queue_eq : queue stripe = event :: rest) :
    Routed cache stripes (Function.update queue stripe rest) := by
  intro other one member
  by_cases same : other = stripe
  · subst same
    rw [Function.update_self] at member
    exact routed other one (by rw [queue_eq]; exact List.mem_cons_of_mem event member)
  · rw [Function.update_of_ne same] at member
    exact routed other one member

end Routed

theorem filter_push {queue : Nat → List Event} {event : Event} {key : String}
    (different : event.key ≠ .entry key) (stripe place : Nat) :
    (Function.update queue stripe (queue stripe ++ [event]) place).filter (·.key = .entry key) =
      (queue place).filter (·.key = .entry key) := by
  by_cases same : place = stripe
  · subst same
    rw [Function.update_self, List.filter_append]
    simp [different]
  · rw [Function.update_of_ne same]

theorem filter_drop {queue : Nat → List Event} {event : Event} {rest : List Event} {key : String}
    (different : event.key ≠ .entry key) {stripe : Nat} (queue_eq : queue stripe = event :: rest)
    (place : Nat) :
    (Function.update queue stripe rest place).filter (·.key = .entry key) =
      (queue place).filter (·.key = .entry key) := by
  by_cases same : place = stripe
  · subst same
    rw [Function.update_self, queue_eq, List.filter_cons]
    simp [different]
  · rw [Function.update_of_ne same]

/-! ## Routes -/

/-- The events between a node that leads and a node that follows, with what both hold. -/
structure Route where
  /-- What the leader holds. -/
  here : Contents
  /-- What the follower holds. -/
  there : Contents
  /-- The events that the bus of the leader is being told. -/
  told : List Event
  /-- The events in each stripe of the leader, the oldest first. -/
  leaving : Nat → List Event
  /-- The events in each stripe of the follower, the oldest first. -/
  arriving : Nat → List Event

namespace Route

/-- The events of a key that are on their way, the oldest first. -/
def pending (route : Route) (outs ins : Nat) (cache key : String) : List Event :=
  let hash := Routing.hash cache (.entry key)
  (route.arriving (stripeAmong ins hash) ++ route.leaving (stripeAmong outs hash) ++
    route.told).filter fun event => event.key = .entry key

/-- Every event takes the stripes of its hash, and those of each key lead from what the follower
holds to what the leader holds. -/
structure Sound (route : Route) (outs ins : Nat) (cache : String) : Prop where
  told : ∀ event ∈ route.told, event.Faithful cache
  leaving : Routed cache outs route.leaving
  arriving : Routed cache ins route.arriving
  leads : ∀ key, Leads (route.there key) (route.pending outs ins cache key) (route.here key)

theorem hash_of_key {event : Event} {cache key : String} (of : event.cache = cache)
    (one : event.key = .entry key) : event.hash = Routing.hash cache (.entry key) := by
  rw [Event.hash, of, one]

namespace Sound

variable {route : Route} {outs ins : Nat} {cache : String}

theorem initial (held : Contents) (outs ins : Nat) (cache : String) :
    (⟨held, held, [], fun _ => [], fun _ => []⟩ : Route).Sound outs ins cache where
  told := by simp
  leaving := by simp [Routed]
  arriving := by simp [Routed]
  leads _ := rfl

/-- The leader makes an event while its bus is told of none. -/
theorem tell (sound : route.Sound outs ins cache) (silent : route.told = []) {event : Event}
    (faithful : event.Faithful cache) {here : Contents} (tells : event.Tells route.here here) :
    ({ route with here := here, told := [event] } : Route).Sound outs ins cache where
  told := by simpa using faithful
  leaving := sound.leaving
  arriving := sound.arriving
  leads key := by
    have leads := sound.leads key
    simp only [pending, silent, List.append_nil, List.filter_append] at leads ⊢
    by_cases one : event.key = .entry key
    · obtain ⟨old_eq, after⟩ := (Event.tells_entry one).1 tells
      rw [after key, if_pos rfl]
      simpa [one] using Leads.append old_eq leads
    · have untouched := faithful.not_concerns one
      rw [tells.after_of_not_concerns untouched]
      simpa [one] using leads

/-- The event that the bus is told of enters its stripe. -/
theorem enter (sound : route.Sound outs ins cache) {event : Event}
    (told_eq : route.told = [event]) :
    ({ route with
        told := []
        leaving := Function.update route.leaving (stripeAmong outs event.hash)
          (route.leaving (stripeAmong outs event.hash) ++ [event]) } : Route).Sound
            outs ins cache := by
  have faithful := sound.told event (by simp [told_eq])
  refine ⟨by simp, sound.leaving.push faithful, sound.arriving, ?_⟩
  intro key
  have leads := sound.leads key
  by_cases one : event.key = .entry key
  · simp only [pending, told_eq, ← hash_of_key faithful.of one, Function.update_self,
      List.append_nil, List.append_assoc] at leads ⊢
    exact leads
  · simp only [pending, told_eq, List.filter_append, filter_push one,
      List.append_nil] at leads ⊢
    simpa [one] using leads

/-- The first event of a stripe of the leader goes over to a stripe of the follower. -/
theorem cross (sound : route.Sound outs ins cache) {stripe : Nat} {event : Event}
    {rest : List Event} (leaving_eq : route.leaving stripe = event :: rest) :
    ({ route with
        leaving := Function.update route.leaving stripe rest
        arriving := Function.update route.arriving (stripeAmong ins event.hash)
          (route.arriving (stripeAmong ins event.hash) ++ [event]) } : Route).Sound
            outs ins cache := by
  obtain ⟨faithful, place⟩ := sound.leaving stripe event (by simp [leaving_eq])
  refine ⟨sound.told, sound.leaving.drop leaving_eq, sound.arriving.push faithful, ?_⟩
  intro key
  have leads := sound.leads key
  by_cases one : event.key = .entry key
  · have hash_eq := hash_of_key faithful.of one
    simp only [pending, ← hash_eq, place, Function.update_self, leaving_eq, List.append_assoc,
      List.cons_append, List.nil_append] at leads ⊢
    exact leads
  · simp only [pending, List.filter_append, filter_push one, filter_drop one leaving_eq]
      at leads ⊢
    exact leads

theorem leave (sound : route.Sound outs ins cache) {stripe : Nat} {event : Event}
    {rest : List Event} (arriving_eq : route.arriving stripe = event :: rest) :
    ({ route with
        there := Guard.none.applied .replicated event.delivered route.there
        arriving := Function.update route.arriving stripe rest } : Route).Sound outs ins cache := by
  obtain ⟨faithful, place⟩ := sound.arriving stripe event (by simp [arriving_eq])
  refine ⟨sound.told, sound.leaving, sound.arriving.drop arriving_eq, ?_⟩
  intro key
  have leads := sound.leads key
  by_cases one : event.key = .entry key
  · have into : stripeAmong ins (Routing.hash cache (.entry key)) = stripe := by
      rw [← hash_of_key faithful.of one, place]
    simp only [pending, into, arriving_eq, List.cons_append, List.filter_cons, one,
      decide_true, ↓reduceIte] at leads
    obtain ⟨expected, further⟩ := leads
    simp only [pending, into, Function.update_self]
    rw [Guard.applied_of_expected faithful one expected]
    exact further
  · have untouched := faithful.not_concerns one
    simp only [pending, List.filter_append, filter_drop one arriving_eq] at leads ⊢
    rw [Guard.applied_delivered_of_not_concerns untouched]
    exact leads

/-- When nothing is on its way, both nodes hold the same. -/
theorem there_eq_here (sound : route.Sound outs ins cache) (told_eq : route.told = [])
    (leaving_eq : ∀ hash, route.leaving (stripeAmong outs hash) = [])
    (arriving_eq : ∀ hash, route.arriving (stripeAmong ins hash) = []) :
    route.there = route.here := by
  funext key
  have leads := sound.leads key
  simp only [pending, told_eq, leaving_eq, arriving_eq, List.append_nil, List.filter_nil] at leads
  exact leads

end Sound

end Route

end CacheSync
