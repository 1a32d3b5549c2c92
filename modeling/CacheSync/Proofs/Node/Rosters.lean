import CacheSync.Proofs.Node.Life
import Mathlib.Data.List.Nodup

/-!
# The rosters of a node

The roster of a store is the list of its listeners with the identifier that the next one will get.
Only listening and unlistening change it: no operation of an application, no message and no local
event touches the roster of any cache.  `Node.Registered` says what registering the listeners of a
node makes of every roster, and `Node.reshapes_forget` what taking them off does.
-/

namespace CacheSync

/-- The listeners of a store, and the identifier of the next one. -/
structure Roster where
  listeners : List Listener
  next : Nat
  deriving DecidableEq

namespace Roster

variable {roster : Roster} {audience : Audience} {id : Nat}

def add (roster : Roster) (audience : Audience) : Roster :=
  ⟨roster.listeners ++ [⟨roster.next, audience⟩], roster.next + 1⟩

/-- Keep the listeners whose identifiers pass a test. -/
def keep (roster : Roster) (passes : Nat → Bool) : Roster :=
  { roster with listeners := roster.listeners.filter fun listener => passes listener.id }

/-- No two listeners share an identifier, and every identifier was given out. -/
structure Sound (roster : Roster) : Prop where
  nodup : (roster.listeners.map (·.id)).Nodup
  issued : ∀ listener ∈ roster.listeners, listener.id < roster.next

theorem sound_nil : Sound ⟨[], 1⟩ :=
  ⟨List.nodup_nil, by simp⟩

theorem Sound.add (sound : roster.Sound) (audience : Audience) : (roster.add audience).Sound where
  nodup := by
    have unused : roster.next ∉ roster.listeners.map (·.id) := by
      intro present
      obtain ⟨listener, member, same⟩ := List.mem_map.1 present
      exact absurd (sound.issued listener member) (by simp [same])
    simp only [Roster.add, List.map_append, List.map_cons, List.map_nil]
    exact List.nodup_append.2
      ⟨sound.nodup, List.nodup_singleton _, fun id early other late same => by
        rw [List.mem_singleton.1 late] at same
        exact unused (same ▸ early)⟩
  issued listener member := by
    rcases List.mem_append.1 member with early | late
    · exact Nat.lt_succ_of_lt (sound.issued listener early)
    · rw [List.mem_singleton.1 late]
      exact Nat.lt_succ_self _

theorem Sound.addIf {condition : Prop} [Decidable condition] (sound : roster.Sound)
    (audience : Audience) : (if condition then roster.add audience else roster).Sound := by
  split
  · exact sound.add audience
  · exact sound

theorem next_le_addIf {condition : Prop} [Decidable condition] (roster : Roster)
    (audience : Audience) :
    roster.next ≤ (if condition then roster.add audience else roster).next := by
  split
  · exact Nat.le_succ _
  · exact Nat.le_refl _

theorem Sound.keep (sound : roster.Sound) (passes : Nat → Bool) : (roster.keep passes).Sound where
  nodup := sound.nodup.sublist (List.filter_sublist.map _)
  issued listener member := sound.issued listener (List.mem_of_mem_filter member)

theorem keep_of_all {passes : Nat → Bool} (all : ∀ id, passes id = true) :
    roster.keep passes = roster := by
  simp [Roster.keep, all]

theorem keep_keep (roster : Roster) (passes others : Nat → Bool) :
    (roster.keep passes).keep others = roster.keep fun id => passes id && others id := by
  simp only [Roster.keep, List.filter_filter, Bool.and_comm]

/-- Listeners with the same identifier are the same. -/
theorem Sound.eq_of_id (sound : roster.Sound) {listener other : Listener}
    (member : listener ∈ roster.listeners) (known : other ∈ roster.listeners)
    (same : listener.id = other.id) : listener = other :=
  List.inj_on_of_nodup_map sound.nodup member known same

end Roster

def Store.roster (store : Store) : Roster :=
  ⟨store.listeners, store.nextListener⟩

/-- The roster of a cache, if the cache is there. -/
def CacheShelf.roster? (shelf : CacheShelf) (cache : String) : Option Roster :=
  (shelf.store? cache).map Store.roster

/-- The rosters of all caches are sound. -/
def CacheShelf.Sound (shelf : CacheShelf) : Prop :=
  ∀ ⦃cache : String⦄ ⦃roster : Roster⦄, shelf.roster? cache = some roster → roster.Sound

/-- What a step makes of the roster of each cache. -/
def CacheShelf.Reshapes (before after : CacheShelf) (act : String → Roster → Roster) : Prop :=
  ∀ cache, after.roster? cache = (before.roster? cache).map (act cache)

/-- A cache has given out an identifier. -/
def CacheShelf.HasIssued (shelf : CacheShelf) (cache : String) (id : Nat) : Prop :=
  ∃ roster, shelf.roster? cache = some roster ∧ id < roster.next

namespace CacheShelf.Reshapes

variable {before after : CacheShelf} {act : String → Roster → Roster} {cache : String} {id : Nat}

theorem sound (reshapes : before.Reshapes after act)
    (keeps : ∀ cache roster, roster.Sound → (act cache roster).Sound) (sound : before.Sound) :
    after.Sound := by
  intro cache roster known
  rw [reshapes] at known
  obtain ⟨held, here, rfl⟩ := Option.map_eq_some_iff.1 known
  exact keeps cache held (sound here)

theorem issued (reshapes : before.Reshapes after act)
    (grows : ∀ cache roster, roster.next ≤ (act cache roster).next)
    (issued : before.HasIssued cache id) : after.HasIssued cache id := by
  obtain ⟨roster, here, less⟩ := issued
  refine ⟨act cache roster, ?_, Nat.lt_of_lt_of_le less (grows cache roster)⟩
  rw [reshapes, here, Option.map_some]

end CacheShelf.Reshapes

/-! ## Changes keep the roster -/

theorem Store.roster_perform (store : Store) (call : StoreCall) (now : Moment) :
    (store.perform call now).store.roster = store.roster := by
  cases call with
  | put key value origin => rfl
  | clear origin => rfl
  | putIfAbsent key value origin =>
      simp only [perform, putIfAbsent, Change.map]
      split <;> rfl
  | evict key origin =>
      simp only [perform, evict, remove, dropAs, Change.map]
      split <;> rfl
  | remove key origin =>
      simp only [perform, remove, dropAs, Change.map]
      split <;> rfl
  | merge key value remap origin =>
      simp only [perform, merge, Change.map]
      split
      · rfl
      · split <;> rfl
  | computeIfAbsent key compute origin =>
      simp only [perform, computeIfAbsent, Change.map]
      split <;> rfl
  | expire key =>
      simp only [perform, expire, dropAs, Change.map]
      split <;> rfl

namespace Guard

variable {guard : Guard} {store : Store} {event : Event} {now : Moment}

theorem roster_of_perform {call : StoreCall} {change : Change StoreAnswer}
    (done : guard.perform store call now = .ok change) : change.store.roster = store.roster := by
  rw [eq_of_perform done, store.roster_perform]

theorem roster_of_invalidate {change : Change Outcome}
    (done : guard.invalidate store event now = .ok change) :
    change.store.roster = store.roster := by
  unfold invalidate at done
  split at done
  · rw [eq_of_map_run done]
    rfl
  next key _ =>
    rw [eq_of_map_run done]
    exact store.roster_perform (.evict key .remoteNode) now

theorem roster_of_replicate {change : Change Outcome}
    (done : guard.replicate store event now = .ok change) :
    change.store.roster = store.roster := by
  unfold replicate at done
  split at done
  next key value _ _ =>
    rw [eq_of_map_run done]
    exact store.roster_perform (.merge key value (takeIfExpected event.old) .remoteNode) now
  · exact roster_of_invalidate done

theorem roster_of_apply {policy : Policy} {change : Change Outcome}
    (applied : guard.apply policy store event now = some change) :
    change.store.roster = store.roster := by
  unfold apply applyAcross at applied
  cases policy with
  | invalidated =>
      cases outcome : guard.invalidate store event now with
      | ok made =>
          simp only [outcome, Option.some.injEq] at applied
          exact applied ▸ roster_of_invalidate outcome
      | error stop =>
          cases stop with
          | failed error =>
              simp only [outcome, Option.some.injEq] at applied
              exact applied ▸ rfl
          | crashed => simp only [outcome, reduceCtorEq] at applied
  | replicated =>
      cases outcome : guard.replicate store event now with
      | ok made =>
          simp only [outcome, Option.some.injEq] at applied
          exact applied ▸ roster_of_replicate outcome
      | error stop =>
          cases stop with
          | crashed => simp only [outcome, reduceCtorEq] at applied
          | failed error =>
              cases fallback : guard.invalidate store event now with
              | ok evicted =>
                  simp only [outcome, fallback, Except.map, Option.some.injEq] at applied
                  have kept := roster_of_invalidate fallback
                  exact applied ▸ kept
              | error stop =>
                  cases stop with
                  | failed error =>
                      simp only [outcome, fallback, Except.map, Option.some.injEq] at applied
                      exact applied ▸ rfl
                  | crashed => simp only [outcome, fallback, Except.map, reduceCtorEq] at applied

end Guard

/-! ## Shelves -/

namespace CacheShelf

variable {shelf : CacheShelf} {cache : String} {store : Store}

theorem roster?_setStore (shelf : CacheShelf) (store : Store) (other : String) :
    (shelf.setStore store).roster? other =
      if other = store.name then some store.roster else shelf.roster? other := by
  simp only [roster?, store?_setStore]
  split <;> rfl

/-- A store that is put back with the roster it had. -/
theorem roster?_setStore_of_roster (found : shelf.store? cache = some store) {changed : Store}
    (named : changed.name = store.name) (same : changed.roster = store.roster) (other : String) :
    (shelf.setStore changed).roster? other = shelf.roster? other := by
  rw [roster?_setStore]
  split
  next here =>
    rw [here, named, name_of_store? found, same, roster?, found]
    rfl
  · rfl

theorem roster?_create (shelf : CacheShelf) (cache other : String) :
    (shelf.create cache).roster? other =
      if other = cache ∧ (shelf.roster? cache).isNone = true then some ⟨[], 1⟩
      else shelf.roster? other := by
  have present : shelf.stores.contains cache = (shelf.roster? cache).isSome := by
    simp [Table.contains, roster?, store?]
  unfold create
  rw [present]
  cases shelf.roster? cache with
  | none =>
      simp only [Option.isSome_none, Bool.false_eq_true, ↓reduceIte, Option.isNone_none, and_true,
        roster?_setStore]
      rfl
  | some roster => simp

theorem sound_empty : empty.Sound :=
  nofun

theorem Sound.create (sound : shelf.Sound) (cache : String) : (shelf.create cache).Sound := by
  intro other roster here
  rw [roster?_create] at here
  split at here
  · injection here with same
    exact same ▸ Roster.sound_nil
  · exact sound here

end CacheShelf

/-! ## Handling leaves the rosters -/

namespace Core

/-- The rosters of all caches are as they were. -/
def Posts (before after : Core) : Prop :=
  ∀ cache, after.shelf.roster? cache = before.shelf.roster? cache

variable {core before after later : Core} {event : Event} {clock : Clock}

theorem Posts.refl (core : Core) : core.Posts core :=
  fun _ => rfl

theorem Posts.trans (first : before.Posts after) (second : after.Posts later) :
    before.Posts later :=
  fun cache => (second cache).trans (first cache)

theorem Stands.posts (stands : before.Stands after) : before.Posts after := by
  intro cache
  rw [stands.shelf_eq]

theorem foldl_overhear_posts (events : List Event) (clock : Clock) :
    ∀ core : Core,
      core.Posts (events.foldl (fun core event => core.overhear event clock) core) := by
  induction events with
  | nil => exact .refl
  | cons event rest inductionHypothesis =>
      intro core
      exact (core.outbound_stands event clock).posts.trans (inductionHypothesis _)

theorem applyTo_posts (core : Core) (cache : String) (policy : Policy) (event : Event)
    (clock : Clock) : core.Posts (core.applyTo cache policy event clock).core := by
  cases found : core.shelf.store? cache with
  | none =>
      rw [applyTo_of_absent found]
      exact .refl core
  | some store =>
      cases applied : (core.shelf.guard cache).apply policy store event clock.wall with
      | none =>
          rw [applyTo_of_crash found applied]
          exact .refl core
      | some change =>
          have put : core.Posts { core with shelf := core.shelf.setStore change.store } :=
            CacheShelf.roster?_setStore_of_roster found (Guard.sound_of_apply applied).name_eq
              (Guard.roster_of_apply applied)
          rw [applyTo_of_change found applied]
          exact put.trans (foldl_overhear_posts _ _ _)

theorem invalidateAll_posts (caches : List String) (event : Event) (clock : Clock) :
    ∀ core : Core, core.Posts (core.invalidateAll caches event clock).core := by
  induction caches with
  | nil => exact .refl
  | cons cache rest inductionHypothesis =>
      intro core
      have first := core.applyTo_posts cache .invalidated event clock
      rw [invalidateAll_cons]
      dsimp only
      split
      · exact first
      · exact first.trans (inductionHypothesis _)

theorem spread_posts (core : Core) (config : CacheConfig) (event : Event) (clock : Clock) :
    core.Posts (core.spread config event clock).core := by
  have first := core.applyTo_posts config.name config.policy event clock
  rw [spread_eq_invalidateAll]
  dsimp only
  split
  · exact first
  · exact first.trans (invalidateAll_posts _ _ _ _)

/-- A message from another node touches no roster. -/
theorem receive_posts (core : Core) (body : List UInt8) (clock : Clock) :
    core.Posts (core.receive body clock).core := by
  have fate := core.receive_fate body clock
  generalize core.receive body clock = handled at fate
  cases fate with
  | ignored stopped => exact .refl core
  | undecodable started read => exact .refl core
  | unconfigured started read unknown => exact .refl core
  | @stale event config recorded started read configured saved =>
      have stands := (core.mark .received).record_stands config event clock
      rw [saved] at stands
      exact stands.posts
  | @applied event config recorded started read configured saved =>
      have stands := (core.mark .received).record_stands config event clock
      rw [saved] at stands
      exact stands.posts.trans (recorded.spread_posts config event clock)

/-- An operation of an application touches no roster. -/
theorem operate_posts {cache : String} {guarded : Bool} {call : StoreCall} {operated : Operated}
    (operates : core.operate cache guarded call clock = some operated) :
    core.Posts operated.core := by
  obtain ⟨store, found, rfl⟩ := Option.map_eq_some_iff.1 operates
  cases outcome : (if guarded then core.shelf.guard cache else .none).perform store call
      clock.wall with
  | error stop =>
      simp only [outcome]
      exact .refl core
  | ok change =>
      have sound := Guard.eq_of_perform outcome ▸ store.sound_perform clock.wall call
      simp only [outcome]
      exact CacheShelf.roster?_setStore_of_roster found sound.name_eq
        (Guard.roster_of_perform outcome)

end Core

/-! ## Registering -/

namespace Node

/-- The registration that a cache gets when the node registers its listeners, if it gets one. -/
def hook? (node : Node) (cache : String) : Option Registration :=
  if node.isRegistered cache then none
  else (node.core.shelf.roster? cache).map fun roster => ⟨cache, roster.next⟩

/-- What registering on some caches makes of a node. -/
structure Registered (node : Node) (caches : List String) (after : Node) : Prop where
  core_eq : after.core = { node.core with shelf := after.core.shelf }
  roster?_eq : ∀ cache, after.core.shelf.roster? cache =
    if cache ∈ caches ∧ (node.hook? cache).isSome then
      (node.core.shelf.roster? cache).map (·.add .bus)
    else node.core.shelf.roster? cache
  registrations_eq : after.registrations = node.registrations ++ caches.filterMap node.hook?

theorem registered_nil (node : Node) : node.Registered [] node :=
  ⟨rfl, by simp, by simp⟩

theorem hook?_eq_some_iff {node : Node} {cache : String} {registration : Registration} :
    node.hook? cache = some registration ↔ node.isRegistered cache = false ∧
      ∃ roster, node.core.shelf.roster? cache = some roster ∧
        registration = ⟨cache, roster.next⟩ := by
  unfold hook?
  split
  next registered => simp [registered]
  next free => simp [free, eq_comm (a := registration)]

theorem registerOn_of_hook?_eq_none {node : Node} {cache : String}
    (none : node.hook? cache = none) : node.registerOn cache = node := by
  unfold hook? at none
  unfold registerOn
  split at none
  next registered => rw [if_pos registered]
  next free =>
    rw [CacheShelf.roster?, Option.map_map, Option.map_eq_none_iff] at none
    rw [if_neg free, none]

theorem registerOn_registered (node : Node) (cache : String) :
    node.Registered [cache] (node.registerOn cache) := by
  cases hooked : node.hook? cache with
  | none =>
      rw [registerOn_of_hook?_eq_none hooked]
      refine ⟨rfl, fun other => ?_, by simp [hooked]⟩
      rw [if_neg]
      rintro ⟨here, some⟩
      rw [List.mem_singleton.1 here, hooked] at some
      cases some
  | some registration =>
      obtain ⟨free, roster, here, rfl⟩ := hook?_eq_some_iff.1 hooked
      obtain ⟨store, found, rfl⟩ := Option.map_eq_some_iff.1 here
      have made : node.registerOn cache = { node with
          core := { node.core with shelf := node.core.shelf.setStore (store.listen .bus).1 }
          registrations := node.registrations ++ [⟨cache, store.nextListener⟩] } := by
        simp only [registerOn, free, Bool.false_eq_true, ↓reduceIte, found]
        rfl
      rw [made]
      refine ⟨rfl, fun other => ?_, by simp [hooked, Store.roster]⟩
      have stored : store.name = cache := CacheShelf.name_of_store? found
      have named : (store.listen .bus).1.name = cache := stored
      rw [CacheShelf.roster?_setStore, named]
      by_cases same : other = cache
      · subst same
        simp only [↓reduceIte, List.mem_singleton, hooked, Option.isSome_some, and_self, here,
          Option.map_some]
        rfl
      · simp [same]

/-- Registering on one cache does not matter to another. -/
theorem Registered.hook?_eq {node middle : Node} {cache other : String}
    (registered : node.Registered [cache] middle) (different : other ≠ cache) :
    middle.hook? other = node.hook? other := by
  have roster_eq := registered.roster?_eq other
  rw [if_neg (by simp [different])] at roster_eq
  have free : middle.isRegistered other = node.isRegistered other := by
    have apart : ∀ registration, node.hook? cache = some registration →
        registration.cache ≠ other := by
      intro registration hooked
      obtain ⟨_, roster, _, rfl⟩ := hook?_eq_some_iff.1 hooked
      exact Ne.symm different
    unfold isRegistered
    rw [registered.registrations_eq, List.any_append, List.filterMap_cons]
    cases hooked : node.hook? cache with
    | none => simp
    | some registration => simp [apart registration hooked]
  rw [hook?, hook?, free, roster_eq]

/-- Registering on a list of caches, each of them named once. -/
theorem foldl_registerOn_registered {caches : List String} (nodup : caches.Nodup) :
    ∀ node : Node, node.Registered caches (caches.foldl registerOn node) := by
  induction caches with
  | nil => exact registered_nil
  | cons cache rest inductionHypothesis =>
      intro node
      obtain ⟨absent, nodup⟩ := List.nodup_cons.1 nodup
      have first := node.registerOn_registered cache
      have others := inductionHypothesis nodup (node.registerOn cache)
      have apart : ∀ other ∈ rest, other ≠ cache := by
        rintro other member rfl
        exact absent member
      rw [List.foldl_cons]
      refine ⟨?_, fun other => ?_, ?_⟩
      · rw [others.core_eq, first.core_eq]
      · rw [others.roster?_eq, first.roster?_eq]
        by_cases later : other ∈ rest
        · have different := apart other later
          simp [later, different, first.hook?_eq different]
        · simp [later]
      · have hooks : rest.filterMap (node.registerOn cache).hook? =
            rest.filterMap node.hook? :=
          List.filterMap_congr fun other member => first.hook?_eq (apart other member)
        rw [others.registrations_eq, first.registrations_eq, hooks, List.append_assoc,
          ← List.filterMap_append, List.singleton_append]

theorem register_of_stopped {node : Node} (stopped : node.core.lifecycle = .stopped) :
    node.register = (node, 0) :=
  if_pos stopped

/-- A node that is not stopped puts a listener on every configured cache that is there and has none,
and answers how many these were. -/
theorem register_registered {node : Node} (live : node.core.lifecycle ≠ .stopped) :
    node.Registered node.core.config.caches.keys node.register.1 ∧
      node.register.2 = (node.core.config.caches.keys.filterMap node.hook?).length := by
  have registered :=
    foldl_registerOn_registered node.core.config.caches.nodup node
  have length := congrArg List.length registered.registrations_eq
  simp only [register, if_neg live]
  refine ⟨registered, ?_⟩
  rw [Table.keys, length, List.length_append, Nat.add_sub_cancel_left]

/-! ## Taking the listeners off -/

theorem roster?_unregisterFrom (shelf : CacheShelf) (registration : Registration)
    (cache : String) : (unregisterFrom shelf registration).roster? cache =
      (shelf.roster? cache).map fun roster =>
        roster.keep fun id => decide ((⟨cache, id⟩ : Registration) ≠ registration) := by
  have untouched (different : cache ≠ registration.cache) :
      (shelf.roster? cache).map (fun roster =>
        roster.keep fun id => decide ((⟨cache, id⟩ : Registration) ≠ registration)) =
      shelf.roster? cache := by
    have all (id : Nat) : decide ((⟨cache, id⟩ : Registration) ≠ registration) = true :=
      decide_eq_true fun same => different (congrArg Registration.cache same)
    simp only [Roster.keep_of_all all, Option.map_id_fun', id_eq]
  unfold unregisterFrom
  cases found : shelf.store? registration.cache with
  | none =>
      by_cases same : cache = registration.cache
      · subst same
        simp [CacheShelf.roster?, found]
      · rw [untouched same]
  | some store =>
      have stored : store.name = registration.cache := CacheShelf.name_of_store? found
      have named : (store.unlisten registration.id).1.name = registration.cache := stored
      rw [CacheShelf.roster?_setStore, named]
      split
      next same =>
        have ids (id : Nat) :
            decide ((⟨cache, id⟩ : Registration) ≠ registration) = (id != registration.id) := by
          cases registration
          subst same
          simp [bne, beq_eq_decide]
        simp only [same ▸ ids, CacheShelf.roster?, same, found, Option.map_some]
        rfl
      next different => rw [untouched different]

theorem roster?_foldl_unregisterFrom (registrations : List Registration) (cache : String) :
    ∀ shelf : CacheShelf, (registrations.foldl unregisterFrom shelf).roster? cache =
      (shelf.roster? cache).map fun roster =>
        roster.keep fun id => decide ((⟨cache, id⟩ : Registration) ∉ registrations) := by
  induction registrations with
  | nil =>
      intro shelf
      simp [Roster.keep_of_all]
  | cons registration rest inductionHypothesis =>
      intro shelf
      rw [List.foldl_cons, inductionHypothesis, roster?_unregisterFrom, Option.map_map]
      congr 1
      funext roster
      simp [Roster.keep_keep, not_or]

/-- A node that forgets takes its registered listeners off the caches, and no others. -/
theorem reshapes_forget (node : Node) :
    node.core.shelf.Reshapes node.forget.core.shelf fun cache roster =>
      roster.keep fun id => decide ((⟨cache, id⟩ : Registration) ∉ node.registrations) :=
  fun _ => roster?_foldl_unregisterFrom _ _ _

end Node

end CacheSync
