import CacheSync.Node.Demand
import CacheSync.Proofs.Config.Validated
import CacheSync.Proofs.Node.Rosters

/-!
# What demands do to listeners

Most demands do not concern the listeners of the caches of a node: `Node.Undisturbed` says what they
leave as it is, whether they are met or refused.  The others are to register and to finish a stop,
and those of somebody else to put a listener on a cache or to take one off.
-/

namespace CacheSync

/-- The listeners of a cache. -/
def Core.listenersOf (core : Core) (cache : String) : List Listener :=
  ((core.shelf.roster? cache).map (·.listeners)).getD []

/-- The listeners that are there after a step and were not before. -/
def Core.added (before after : Core) : List (String × Listener) :=
  after.shelf.stores.keys.flatMap fun cache =>
    ((after.listenersOf cache).filter (· ∉ before.listenersOf cache)).map (cache, ·)

namespace Core

variable {core before after : Core} {cache : String} {roster : Roster} {listener : Listener}

theorem listenersOf_eq (here : core.shelf.roster? cache = some roster) :
    core.listenersOf cache = roster.listeners := by
  rw [listenersOf, here]
  rfl

theorem mem_listenersOf_iff : listener ∈ core.listenersOf cache ↔
    ∃ roster, core.shelf.roster? cache = some roster ∧ listener ∈ roster.listeners := by
  unfold listenersOf
  cases core.shelf.roster? cache with
  | none => simp
  | some roster => simp

/-- A step that keeps the listeners whose identifiers pass a test. -/
theorem listenersOf_of_keep {passes : String → Nat → Bool}
    (reshapes : before.shelf.Reshapes after.shelf fun cache roster => roster.keep (passes cache))
    (cache : String) : after.listenersOf cache =
      (before.listenersOf cache).filter fun listener => passes cache listener.id := by
  unfold listenersOf
  rw [reshapes]
  cases before.shelf.roster? cache with
  | none => rfl
  | some roster => rfl

theorem mem_added_iff : (cache, listener) ∈ before.added after ↔
    listener ∈ after.listenersOf cache ∧ listener ∉ before.listenersOf cache := by
  have known (member : listener ∈ after.listenersOf cache) : cache ∈ after.shelf.stores.keys := by
    obtain ⟨roster, here, _⟩ := mem_listenersOf_iff.1 member
    obtain ⟨store, found, _⟩ := Option.map_eq_some_iff.1 here
    exact Table.contains_iff.1 (Option.isSome_iff_exists.2 ⟨store, found⟩)
  simp only [added, List.mem_flatMap, List.mem_map, List.mem_filter, decide_not, Prod.mk.injEq,
    Bool.not_eq_eq_eq_not, Bool.not_true, decide_eq_false_iff_not]
  constructor
  · rintro ⟨_, _, _, ⟨member, absent⟩, rfl, rfl⟩
    exact ⟨member, absent⟩
  · rintro ⟨member, absent⟩
    exact ⟨cache, known member, listener, ⟨member, absent⟩, rfl, rfl⟩

end Core

namespace Node

/-! ## What does not concern listeners -/

/-- What a step leaves as it is that does not concern listeners.  A cache may be made, without
listeners. -/
structure Undisturbed (before after : Node) : Prop where
  config_eq : after.core.config = before.core.config
  stopped_iff : after.core.lifecycle = .stopped ↔ before.core.lifecycle = .stopped
  registrations_eq : after.registrations = before.registrations
  roster?_eq : ∀ cache, after.core.shelf.roster? cache = before.core.shelf.roster? cache ∨
    before.core.shelf.roster? cache = none ∧ after.core.shelf.roster? cache = some ⟨[], 1⟩

namespace Undisturbed

variable {node before after : Node}

theorem refl (node : Node) : node.Undisturbed node :=
  ⟨rfl, .rfl, rfl, fun _ => Or.inl rfl⟩

theorem of_core {core : Core} (frame_eq : core.frame = node.core.frame)
    (posts : node.core.Posts core) : node.Undisturbed { node with core := core } where
  config_eq := congrArg Frame.config frame_eq
  stopped_iff := by
    have lifecycle_eq : core.lifecycle = node.core.lifecycle := congrArg Frame.lifecycle frame_eq
    simp [lifecycle_eq]
  registrations_eq := rfl
  roster?_eq cache := Or.inl (posts cache)

theorem listenersOf_eq (undisturbed : before.Undisturbed after) (cache : String) :
    after.core.listenersOf cache = before.core.listenersOf cache := by
  unfold Core.listenersOf
  rcases undisturbed.roster?_eq cache with same | ⟨none, made⟩
  · rw [same]
  · rw [none, made]
    rfl

theorem sound (undisturbed : before.Undisturbed after) (sound : before.core.shelf.Sound) :
    after.core.shelf.Sound := by
  intro cache roster here
  rcases undisturbed.roster?_eq cache with same | ⟨_, made⟩
  · exact sound (same.symm.trans here)
  · rw [made] at here
    injection here with same
    exact same ▸ Roster.sound_nil

theorem issued (undisturbed : before.Undisturbed after) {cache : String} {id : Nat}
    (issued : before.core.shelf.HasIssued cache id) : after.core.shelf.HasIssued cache id := by
  obtain ⟨roster, here, less⟩ := issued
  rcases undisturbed.roster?_eq cache with same | ⟨none, _⟩
  · exact ⟨roster, same.trans here, less⟩
  · rw [none] at here
    cases here

end Undisturbed

/-- A start changes nothing of this, whether it fails or not. -/
theorem start_undisturbed (node : Node) (member : Member) (hub : Hub Member Member) :
    node.Undisturbed (node.start member hub).1 := by
  have outset := node.start_outset member hub
  generalize node.start member hub = result at outset
  cases outset with
  | failed => exact ⟨rfl, .rfl, rfl, fun _ => Or.inl rfl⟩
  | joined created => exact ⟨rfl, by simp [created], rfl, fun _ => Or.inl rfl⟩

/-- A stop that crashes at its end changes nothing of this. -/
theorem finish_undisturbed {node : Node} {member : Member} {hub : Hub Member Member}
    (crashed : (node.finishStop member hub).2.2 = true) :
    node.Undisturbed (node.meet (.finish member hub)) := by
  have retires := node.finishStop_retires member hub
  change node.Undisturbed (node.finishStop member hub).1
  generalize node.finishStop member hub = result at retires crashed ⊢
  cases retires with
  | finished => cases crashed
  | crashed => exact ⟨rfl, .rfl, rfl, fun _ => Or.inl rfl⟩

/-- A stop that does not crash ends as if its node had forgotten. -/
theorem exists_forget_eq {node : Node} {member : Member} {hub : Hub Member Member}
    (unharmed : (node.finishStop member hub).2.2 = false) :
    ∃ channel, node.meet (.finish member hub) =
      ({ node with channel := channel } : Node).forget := by
  have retires := node.finishStop_retires member hub
  change ∃ channel, (node.finishStop member hub).1 = _
  generalize node.finishStop member hub = result at retires unharmed ⊢
  cases retires with
  | finished => exact ⟨_, rfl⟩
  | crashed => cases unharmed

theorem create_undisturbed (node : Node) (cache : String) :
    node.Undisturbed (node.meet (.create cache)) where
  config_eq := rfl
  stopped_iff := .rfl
  registrations_eq := rfl
  roster?_eq other := by
    simp only [meet, CacheShelf.roster?_create]
    split
    next made =>
      obtain ⟨rfl, none⟩ := made
      exact Or.inr ⟨Option.isNone_iff_eq_none.1 none, rfl⟩
    next => exact Or.inl rfl

theorem operate_undisturbed (node : Node) (cache : String) (guarded : Bool) (call : StoreCall)
    (clock : Clock) : node.Undisturbed (node.meet (.operate cache guarded call clock)) := by
  unfold meet
  dsimp only
  cases operates : node.core.operate cache guarded call clock with
  | none => exact .refl node
  | some operated =>
      exact .of_core (Core.operate_lasts operates).frame_eq (Core.operate_posts operates)

theorem receive_undisturbed (node : Node) (body : List UInt8) (clock : Clock) :
    node.Undisturbed (node.meet (.receive body clock)) :=
  .of_core (node.core.receive_lasts body clock).frame_eq (node.core.receive_posts body clock)

theorem hear_undisturbed (node : Node) (event : Event) (clock : Clock) :
    node.Undisturbed (node.meet (.hear event clock)) :=
  .of_core (node.core.outbound_stands event clock).frame_eq
    (node.core.outbound_stands event clock).posts

theorem tend_undisturbed (node other : Node) : node.Undisturbed (node.meet (.tend other)) :=
  ⟨rfl, .rfl, rfl, fun _ => Or.inl rfl⟩

/-! ## Listeners of others -/

/-- A change of one store leaves everything but the caches. -/
theorem onStore_eq (node : Node) (cache : String) (change : Store → Store) :
    ∃ shelf, node.onStore cache change =
      { node with core := { node.core with shelf := shelf } } := by
  unfold onStore
  split
  · exact ⟨_, rfl⟩
  · exact ⟨_, rfl⟩

/-- What a change of the roster of one cache makes of all rosters. -/
theorem reshapes_onStore (change : Store → Store) (act : Roster → Roster)
    (named : ∀ store, (change store).name = store.name)
    (acts : ∀ store, (change store).roster = act store.roster) (node : Node) (cache : String) :
    node.core.shelf.Reshapes (node.onStore cache change).core.shelf fun other roster =>
      if other = cache then act roster else roster := by
  intro other
  unfold onStore
  cases found : node.core.shelf.store? cache with
  | none =>
      by_cases same : other = cache
      · subst same
        simp [CacheShelf.roster?, found]
      · simp [same]
  | some store =>
      have stored : store.name = cache := CacheShelf.name_of_store? found
      dsimp only
      rw [CacheShelf.roster?_setStore, named, stored]
      by_cases same : other = cache
      · subst same
        simp [CacheShelf.roster?, found, acts]
      · simp [same]

theorem reshapes_listen (node : Node) (cache : String) (audience : Audience) :
    node.core.shelf.Reshapes (node.meet (.listen cache audience)).core.shelf fun other roster =>
      if other = cache then roster.add audience else roster :=
  reshapes_onStore (fun store => (store.listen audience).1) (·.add audience) (fun _ => rfl)
    (fun _ => rfl) node cache

theorem reshapes_unlisten (node : Node) (cache : String) (id : Nat) :
    node.core.shelf.Reshapes (node.meet (.unlisten cache id)).core.shelf fun other roster =>
      roster.keep fun number => decide (other ≠ cache ∨ number ≠ id) := by
  have reshapes := reshapes_onStore (fun store => (store.unlisten id).1) (·.keep (· != id))
    (fun _ => rfl) (fun _ => rfl) node cache
  intro other
  refine (reshapes other).trans (congrArg (Option.map · _) (funext fun roster => ?_))
  by_cases same : other = cache
  · simp [same, bne, beq_eq_decide]
  · simp [same, Roster.keep_of_all]

/-- The listener that somebody puts on a cache comes behind the others. -/
theorem listenersOf_listen {node : Node} {cache : String} {store : Store}
    (found : node.core.shelf.store? cache = some store) (audience : Audience) (other : String) :
    (node.meet (.listen cache audience)).core.listenersOf other =
      node.core.listenersOf other ++
        if other = cache then [⟨store.nextListener, audience⟩] else [] := by
  rw [Core.listenersOf, node.reshapes_listen cache audience other]
  by_cases same : other = cache
  · subst same
    have here : node.core.shelf.roster? other = some store.roster := by
      rw [CacheShelf.roster?, found]
      rfl
    simp only [↓reduceIte, here, Core.listenersOf_eq here]
    rfl
  · simp [same, Core.listenersOf]

/-! ## The listeners that are registered -/

theorem mem_filterMap_hook?_iff {node : Node} {caches : List String}
    {registration : Registration} :
    registration ∈ caches.filterMap node.hook? ↔
      registration.cache ∈ caches ∧ node.hook? registration.cache = some registration := by
  rw [List.mem_filterMap]
  constructor
  · rintro ⟨cache, member, hooked⟩
    obtain ⟨_, _, _, rfl⟩ := hook?_eq_some_iff.1 hooked
    exact ⟨member, hooked⟩
  · rintro ⟨member, hooked⟩
    exact ⟨registration.cache, member, hooked⟩

/-- The registrations that are made are of the caches that get one. -/
theorem caches_filterMap_hook? (node : Node) (caches : List String) :
    (caches.filterMap node.hook?).map (·.cache) =
      caches.filter fun cache => (node.hook? cache).isSome := by
  induction caches with
  | nil => rfl
  | cons cache rest inductionHypothesis =>
      cases hooked : node.hook? cache with
      | none => simp [hooked, inductionHypothesis]
      | some registration =>
          obtain ⟨_, roster, _, rfl⟩ := hook?_eq_some_iff.1 hooked
          simp [hooked, inductionHypothesis]

/-- Registering puts a listener of the bus behind the others where it registers one. -/
theorem Registered.listenersOf_eq {node after : Node} {caches : List String}
    (registered : node.Registered caches after) (cache : String) :
    after.core.listenersOf cache = node.core.listenersOf cache ++
      if cache ∈ caches then
        (node.hook? cache).toList.map fun registration => ⟨registration.id, .bus⟩
      else [] := by
  unfold Core.listenersOf
  rw [registered.roster?_eq]
  by_cases here : cache ∈ caches
  · cases hooked : node.hook? cache with
    | none => simp [here]
    | some registration =>
        obtain ⟨_, roster, held, rfl⟩ := hook?_eq_some_iff.1 hooked
        simp [here, held, Roster.add]
  · simp [here]

theorem Registered.mem_added_iff {node after : Node} {caches : List String}
    (registered : node.Registered caches after)
    (sound : node.core.shelf.Sound) {cache : String} {listener : Listener} :
    (cache, listener) ∈ node.core.added after.core ↔
      listener.audience = .bus ∧ cache ∈ caches ∧
        node.hook? cache = some ⟨cache, listener.id⟩ := by
  have unused {registration : Registration} (hooked : node.hook? cache = some registration) :
      registration.cache = cache ∧
        (⟨registration.id, .bus⟩ : Listener) ∉ node.core.listenersOf cache := by
    obtain ⟨_, roster, held, rfl⟩ := hook?_eq_some_iff.1 hooked
    refine ⟨rfl, fun member => ?_⟩
    rw [Core.listenersOf_eq held] at member
    exact Nat.lt_irrefl _ ((sound held).issued _ member)
  rw [Core.mem_added_iff, registered.listenersOf_eq, List.mem_append]
  obtain ⟨id, audience⟩ := listener
  by_cases here : cache ∈ caches
  · cases hooked : node.hook? cache with
    | none => simp [here]
    | some registration =>
        obtain ⟨owner, number⟩ := registration
        obtain ⟨rfl, absent⟩ := unused hooked
        simp only [here, ↓reduceIte, Option.toList_some, List.map_cons, List.map_nil,
          List.mem_singleton, Listener.mk.injEq, true_and, Option.some.injEq,
          Registration.mk.injEq]
        constructor
        · rintro ⟨early | ⟨rfl, rfl⟩, fresh⟩
          · exact absurd early fresh
          · exact ⟨rfl, rfl⟩
        · rintro ⟨rfl, rfl⟩
          exact ⟨Or.inr ⟨rfl, rfl⟩, absent⟩
  · simp [here]

theorem Registered.reshapes {node after : Node} {caches : List String}
    (registered : node.Registered caches after) :
    node.core.shelf.Reshapes after.core.shelf fun cache roster =>
      if cache ∈ caches ∧ (node.hook? cache).isSome then roster.add .bus else roster := by
  intro cache
  rw [registered.roster?_eq]
  by_cases made : cache ∈ caches ∧ (node.hook? cache).isSome
  · simp only [made, and_self, ↓reduceIte]
  · simp only [made, ↓reduceIte, Option.map_id_fun', id_eq]

/-- What registering puts on a cache comes behind its listeners. -/
theorem Registered.exists_more {node after : Node} {caches : List String}
    (registered : node.Registered caches after)
    (sound : node.core.shelf.Sound) (cache : String) :
    ∃ more, after.core.listenersOf cache = node.core.listenersOf cache ++ more ∧
      ∀ listener ∈ more, (cache, listener) ∈ node.core.added after.core := by
  refine ⟨_, registered.listenersOf_eq cache, fun listener member => ?_⟩
  rw [registered.mem_added_iff sound]
  split at member
  next here =>
    obtain ⟨registration, hooked, rfl⟩ := List.mem_map.1 member
    rw [Option.mem_toList] at hooked
    obtain ⟨_, roster, _, rfl⟩ := hook?_eq_some_iff.1 hooked
    exact ⟨rfl, here, hooked⟩
  next => cases member

end Node

end CacheSync
