import CacheSync.Proofs.Node.Demands
import CacheSync.Proofs.Node.Replication

/-!
# The hooks of a node

A hook is a listener that a node puts on one of its caches when it registers its listeners.  A
`Watch` keeps, beside the node, what its history has come to: the hooks put on, the caches that were
there to be hooked, and the listeners that others put on.  None of this is known to the node, which
only keeps its registrations; the invariant `InStep` ties them together, and `hooked_of_meetAll` is
what follows from it over every history.
-/

namespace CacheSync

/-- How far the stop of a node has come. -/
inductive Stopping where
  | unasked
  | begun
  | ended
  deriving DecidableEq

/-- A node and its history. -/
structure Watch where
  node : Node
  stopping : Stopping
  /-- The listeners that registering has put on, each with its cache. -/
  hooks : List (String × Listener)
  /-- The caches that were there when the node registered its listeners, before it was stopped. -/
  offered : List String
  /-- The listeners that others have put on and not taken off, each with its cache. -/
  guests : List (String × Listener)

namespace Watch

/-- All listeners that a node is made with are those of others. -/
def new (node : Node) : Watch where
  node := node
  stopping := .unasked
  hooks := []
  offered := []
  guests := node.core.shelf.stores.keys.flatMap fun cache =>
    (node.core.listenersOf cache).map (cache, ·)

def configures (watch : Watch) (cache : String) : Prop :=
  watch.node.core.config.caches.contains cache = true

/-- The hooks on a cache. -/
def hooksOn (watch : Watch) (cache : String) : List Listener :=
  (watch.node.core.listenersOf cache).filter fun listener => (cache, listener) ∈ watch.hooks

/-- The other listeners of a cache. -/
def othersOn (watch : Watch) (cache : String) : List Listener :=
  (watch.node.core.listenersOf cache).filter fun listener => (cache, listener) ∉ watch.hooks

def guestsOf (watch : Watch) (cache : String) : List Listener :=
  (watch.guests.filter (·.1 = cache)).map (·.2)

/-- Whether somebody else may take a listener off: it is no hook. -/
def mayTakeOff (watch : Watch) (cache : String) (id : Nat) : Bool :=
  watch.hooks.all fun hook => decide (hook.1 ≠ cache ∨ hook.2.id ≠ id)

/-- A stop is finished once it has begun, and nobody but the node takes a hook off. -/
def permits (watch : Watch) : Demand → Bool
  | .finish _ _ => watch.stopping = .begun
  | .unlisten cache id => watch.mayTakeOff cache id
  | _ => true

/-- Take note of a demand that the node has met. -/
def note (watch : Watch) (demand : Demand) (after : Node) : Watch :=
  let next := { watch with node := after }
  match demand with
  | .register =>
      { next with
        hooks := watch.hooks ++ watch.node.core.added after.core
        offered :=
          if watch.stopping = .unasked then watch.offered ++ watch.node.core.shelf.stores.keys
          else watch.offered }
  | .stop =>
      if watch.node.core.lifecycle = .started then { next with stopping := .begun } else next
  | .finish member hub =>
      if (watch.node.finishStop member hub).2.2 then next else { next with stopping := .ended }
  | .listen cache audience =>
      { next with
        guests := watch.guests ++ (watch.node.core.shelf.store? cache).toList.map fun store =>
          (cache, ⟨(store.listen audience).2, audience⟩) }
  | .unlisten cache id =>
      { next with guests := watch.guests.filter fun guest => guest.1 ≠ cache ∨ guest.2.id ≠ id }
  | _ => next

def meet (watch : Watch) (demand : Demand) : Watch :=
  if watch.permits demand then watch.note demand (watch.node.meet demand) else watch

def meetAll (watch : Watch) (demands : List Demand) : Watch :=
  demands.foldl meet watch

/-! ## What is claimed of a watch -/

/-- Exactly one hook is handed the event of a change, and the bus hears of the event once through
it, besides once for each guest that belongs to the bus as well. -/
structure Tells (watch : Watch) (cache : String) {α : Type} (change : Change α) (event : Event) :
    Prop where
  once : ∃ hook, change.deliveries.filter (fun delivery => (cache, delivery.1) ∈ watch.hooks) =
    [(hook, event)]
  heard_eq : watch.node.core.linked = true → watch.node.core.heard change =
    List.replicate ((watch.guestsOf cache).countP (·.audience = .bus) + 1) event

/-- Hooks are put on exactly once and all taken off again, and nothing is done to other
listeners. -/
structure Hooked (watch : Watch) : Prop where
  atMostOnce : ∀ cache, (watch.hooksOn cache).length ≤ 1
  once : watch.stopping ≠ .ended → ∀ cache ∈ watch.offered, watch.configures cache →
    (watch.hooksOn cache).length = 1
  configured : ∀ cache, ¬watch.configures cache → watch.hooksOn cache = []
  counted : watch.stopping = .unasked → ∃ fresh : List String, fresh.Nodup ∧
    watch.node.register.2 = fresh.length ∧
      (∀ cache, cache ∈ fresh ↔
        watch.hooksOn cache = [] ∧ ((watch.meet .register).hooksOn cache).length = 1) ∧
      ∀ cache ∉ fresh, (watch.meet .register).hooksOn cache = watch.hooksOn cache
  tellsPerformed : ∀ {cache : String} {store : Store} {guard : Guard} {call : StoreCall}
    {now : Moment} {change : Change StoreAnswer} {event : Event},
    (watch.hooksOn cache).length = 1 → watch.node.core.shelf.store? cache = some store →
      guard.perform store call now = .ok change → change.event = some event →
        watch.Tells cache change event
  tellsApplied : ∀ {cache : String} {store : Store} {guard : Guard} {policy : Policy}
    {received event : Event} {now : Moment} {change : Change Outcome},
    (watch.hooksOn cache).length = 1 → watch.node.core.shelf.store? cache = some store →
      guard.apply policy store received now = some change → change.event = some event →
        watch.Tells cache change event
  /-- What an operation lets the bus hear, once for each call of its sending, is its event. -/
  hears : ∀ {cache : String} {guarded : Bool} {call : StoreCall} {clock : Clock}
    {operated : Core.Operated} {answer : StoreAnswer},
    (watch.hooksOn cache).length = 1 → watch.node.core.linked = true →
      (∀ guest ∈ watch.guestsOf cache, guest.audience ≠ .bus) →
        watch.node.core.operate cache guarded call clock = some operated →
          operated.answer = .ok answer →
            operated.heard = watch.node.core.emitted cache call clock.wall
  unhooked : watch.stopping = .ended → ∀ cache, watch.hooksOn cache = []
  refuses : watch.stopping ≠ .unasked → watch.node.register = (watch.node, 0)
  othersOn_eq : ∀ cache, watch.othersOn cache = watch.guestsOf cache

/-! ## The invariant -/

/-- The registrations of a node are in step with its hooks. -/
structure InStep (watch : Watch) : Prop where
  sound : watch.node.core.shelf.Sound
  unasked_iff : watch.stopping = .unasked ↔ watch.node.core.lifecycle ≠ .stopped
  bus : ∀ {cache : String} {hook : Listener}, (cache, hook) ∈ watch.hooks → hook.audience = .bus
  configured : ∀ {cache : String} {hook : Listener}, (cache, hook) ∈ watch.hooks →
    watch.configures cache
  issued : ∀ {cache : String} {hook : Listener}, (cache, hook) ∈ watch.hooks →
    watch.node.core.shelf.HasIssued cache hook.id
  registered_iff : watch.stopping ≠ .ended → ∀ cache id,
    (cache, ⟨id, .bus⟩) ∈ watch.hooks ↔ (⟨cache, id⟩ : Registration) ∈ watch.node.registrations
  distinct : (watch.node.registrations.map (·.cache)).Nodup
  present : watch.stopping ≠ .ended → ∀ {cache : String} {hook : Listener},
    (cache, hook) ∈ watch.hooks → hook ∈ watch.node.core.listenersOf cache
  offered : ∀ cache ∈ watch.offered, watch.configures cache →
    ∃ hook, (cache, hook) ∈ watch.hooks
  cleared : watch.stopping = .ended → watch.node.registrations = [] ∧
    ∀ {cache : String} {hook : Listener}, (cache, hook) ∈ watch.hooks →
      hook ∉ watch.node.core.listenersOf cache
  othersOn_eq : ∀ cache, watch.othersOn cache = watch.guestsOf cache

namespace InStep

variable {watch : Watch} {after : Node} {cache : String} {hook : Listener}

/-! ## How it begins -/

theorem guests_of_keys {listeners : String → List Listener} {keys : List String}
    (nodup : keys.Nodup) (cache : String) :
    (((keys.flatMap fun key => (listeners key).map (key, ·)).filter (·.1 = cache)).map (·.2)) =
      if cache ∈ keys then listeners cache else [] := by
  induction keys with
  | nil => rfl
  | cons key rest inductionHypothesis =>
      obtain ⟨absent, nodup⟩ := List.nodup_cons.1 nodup
      simp only [List.flatMap_cons, List.filter_append, List.map_append,
        inductionHypothesis nodup]
      by_cases same : key = cache
      · subst same
        simp [absent, List.filter_map, Function.comp_def]
      · simp [same, Ne.symm same, List.filter_map, Function.comp_def]

/-- A node without hooks is in step, and every listener is that of somebody else. -/
theorem new {node : Node} (created : node.core.lifecycle = .created)
    (unregistered : node.registrations = []) (sound : node.core.shelf.Sound) :
    (Watch.new node).InStep where
  sound := sound
  unasked_iff := by simp [Watch.new, created]
  bus member := nomatch member
  configured member := nomatch member
  issued member := nomatch member
  registered_iff _ cache id := by simp [Watch.new, unregistered]
  distinct := by simp [Watch.new, unregistered]
  present _ _ _ member := nomatch member
  offered cache member := nomatch member
  cleared ended := nomatch ended
  othersOn_eq cache := by
    have all : (Watch.new node).othersOn cache = node.core.listenersOf cache := by
      simp [othersOn, Watch.new]
    have nodup : node.core.shelf.stores.keys.Nodup := node.core.shelf.stores.nodup
    rw [all, guestsOf, Watch.new, guests_of_keys nodup]
    split
    · rfl
    next absent =>
      refine List.eq_nil_iff_forall_not_mem.2 fun listener member => ?_
      obtain ⟨roster, here, _⟩ := Core.mem_listenersOf_iff.1 member
      obtain ⟨store, found, _⟩ := Option.map_eq_some_iff.1 here
      exact absent (Table.contains_iff.1 (Option.isSome_iff_exists.2 ⟨store, found⟩))

/-! ## Steps -/

/-- A step that does not concern listeners keeps a node in step. -/
theorem undisturbed (inStep : watch.InStep) (undisturbed : watch.node.Undisturbed after) :
    ({ watch with node := after } : Watch).InStep where
  sound := undisturbed.sound inStep.sound
  unasked_iff := inStep.unasked_iff.trans (not_congr undisturbed.stopped_iff).symm
  bus := inStep.bus
  configured member := by
    have configured := inStep.configured member
    unfold configures at configured ⊢
    rwa [← undisturbed.config_eq] at configured
  issued member := undisturbed.issued (inStep.issued member)
  registered_iff live cache id := by
    rw [undisturbed.registrations_eq]
    exact inStep.registered_iff live cache id
  distinct := by
    rw [undisturbed.registrations_eq]
    exact inStep.distinct
  present live cache hook member := by
    rw [undisturbed.listenersOf_eq]
    exact inStep.present live member
  offered cache member configured := by
    refine inStep.offered cache member ?_
    unfold configures at configured ⊢
    rwa [undisturbed.config_eq] at configured
  cleared ended := by
    obtain ⟨unregistered, cleared⟩ := inStep.cleared ended
    refine ⟨undisturbed.registrations_eq.trans unregistered, fun {cache hook} member => ?_⟩
    rw [undisturbed.listenersOf_eq]
    exact cleared member
  othersOn_eq cache := by
    unfold othersOn
    rw [undisturbed.listenersOf_eq]
    exact inStep.othersOn_eq cache

/-- A node that has begun to stop keeps its hooks until the stop is finished. -/
theorem begins (inStep : watch.InStep) (started : watch.node.core.lifecycle = .started) :
    (watch.note .stop (watch.node.meet .stop)).InStep := by
  have unasked : watch.stopping = .unasked := inStep.unasked_iff.2 (by simp [started])
  have live : watch.stopping ≠ .ended := by simp [unasked]
  simp only [note, started, ↓reduceIte, Node.meet, Node.beginStop, Except.toOption,
    Option.getD_some]
  exact {
    sound := inStep.sound
    unasked_iff := by simp
    bus := inStep.bus
    configured := inStep.configured
    issued := inStep.issued
    registered_iff := fun _ => inStep.registered_iff live
    distinct := inStep.distinct
    present := fun _ => inStep.present live
    offered := inStep.offered
    cleared := by
      intro ended
      cases ended
    othersOn_eq := inStep.othersOn_eq }

/-! ### Listening -/

/-- A listener that somebody puts on a cache is no hook. -/
theorem ne_of_mem_hooks (inStep : watch.InStep) {store : Store} {audience : Audience}
    (found : watch.node.core.shelf.store? cache = some store)
    (member : (cache, hook) ∈ watch.hooks) : hook ≠ ⟨store.nextListener, audience⟩ := by
  have here : watch.node.core.shelf.roster? cache = some store.roster := by
    rw [CacheShelf.roster?, found]
    rfl
  obtain ⟨roster, known, issued⟩ := inStep.issued member
  obtain rfl := Option.some.inj (known.symm.trans here)
  rintro rfl
  exact Nat.lt_irrefl _ issued

theorem cleared_listen (inStep : watch.InStep) {store : Store}
    (found : watch.node.core.shelf.store? cache = some store) (audience : Audience)
    (ended : watch.stopping = .ended) {other : String} (member : (other, hook) ∈ watch.hooks) :
    hook ∉ (watch.node.meet (.listen cache audience)).core.listenersOf other := by
  rw [Node.listenersOf_listen found, List.mem_append, not_or]
  refine ⟨(inStep.cleared ended).2 member, ?_⟩
  split
  next same =>
    subst same
    exact fun late => inStep.ne_of_mem_hooks found member (List.mem_singleton.1 late)
  next => exact List.not_mem_nil

/-- The listener is one more guest of its cache. -/
theorem othersOn_listen (inStep : watch.InStep) {store : Store}
    (found : watch.node.core.shelf.store? cache = some store) (audience : Audience)
    (other : String) :
    let noted := watch.note (.listen cache audience) (watch.node.meet (.listen cache audience))
    noted.othersOn other = noted.guestsOf other := by
  intro noted
  have others := inStep.othersOn_eq other
  unfold othersOn guestsOf at others ⊢
  simp only [noted, note, found, Option.toList_some, List.map_cons, List.map_nil]
  rw [Node.listenersOf_listen found, List.filter_append, others, List.filter_append,
    List.map_append]
  congr 1
  by_cases same : other = cache
  · subst same
    have free : (other, (⟨store.nextListener, audience⟩ : Listener)) ∉ watch.hooks :=
      fun member => inStep.ne_of_mem_hooks found member rfl
    simp [free, Store.listen]
  · simp [same, Ne.symm same]

/-- Somebody else puts a listener on a cache, behind all others. -/
theorem listen (inStep : watch.InStep) (cache : String) (audience : Audience) :
    (watch.note (.listen cache audience) (watch.node.meet (.listen cache audience))).InStep := by
  cases found : watch.node.core.shelf.store? cache with
  | none =>
      have same : watch.node.meet (.listen cache audience) = watch.node := by
        simp only [Node.meet, Node.onStore, found]
      simp only [note, same, found, Option.toList_none, List.map_nil, List.append_nil]
      exact inStep
  | some store =>
      have reshapes := watch.node.reshapes_listen cache audience
      have present {other : String} {hook : Listener} (live : watch.stopping ≠ .ended)
          (member : (other, hook) ∈ watch.hooks) :
          hook ∈ (watch.node.meet (.listen cache audience)).core.listenersOf other := by
        rw [Node.listenersOf_listen found]
        exact List.mem_append_left _ (inStep.present live member)
      have cleared {other : String} {hook : Listener} (ended : watch.stopping = .ended)
          (member : (other, hook) ∈ watch.hooks) :=
        inStep.cleared_listen found audience ended member
      have othersOn_eq := inStep.othersOn_listen found audience
      obtain ⟨shelf, after_eq⟩ : ∃ shelf, watch.node.meet (.listen cache audience) =
          { watch.node with core := { watch.node.core with shelf := shelf } } :=
        watch.node.onStore_eq cache _
      simp only [note, found, Option.toList_some, List.map_cons, List.map_nil] at othersOn_eq ⊢
      rw [after_eq] at reshapes present cleared othersOn_eq ⊢
      exact {
        inStep with
        sound := reshapes.sound (fun _ _ sound => sound.addIf audience) inStep.sound
        issued := fun member =>
          reshapes.issued (fun _ roster => roster.next_le_addIf audience) (inStep.issued member)
        present := fun live => present live
        cleared := fun ended => ⟨(inStep.cleared ended).1, cleared ended⟩
        othersOn_eq := othersOn_eq }

/-! ### Taking listeners off -/

/-- A listener that somebody takes off is a guest of its cache. -/
theorem othersOn_unlisten (inStep : watch.InStep) (cache : String) (id : Nat) (other : String) :
    let noted := watch.note (.unlisten cache id) (watch.node.meet (.unlisten cache id))
    noted.othersOn other = noted.guestsOf other := by
  intro noted
  have others := inStep.othersOn_eq other
  unfold othersOn guestsOf at others ⊢
  simp only [noted, note]
  rw [Core.listenersOf_of_keep (watch.node.reshapes_unlisten cache id), List.filter_comm, others,
    List.filter_map, List.filter_filter, List.filter_filter]
  congr 1
  refine List.filter_congr fun guest _ => ?_
  by_cases here : guest.1 = other
  · simp [here]
  · simp [here]

/-- Somebody else takes a listener off a cache that is no hook. -/
theorem unlisten (inStep : watch.InStep) {cache : String} {id : Nat}
    (permitted : watch.mayTakeOff cache id = true) :
    (watch.note (.unlisten cache id) (watch.node.meet (.unlisten cache id))).InStep := by
  have reshapes := watch.node.reshapes_unlisten cache id
  have listeners := Core.listenersOf_of_keep reshapes
  have spared {other : String} {hook : Listener} (member : (other, hook) ∈ watch.hooks) :
      other ≠ cache ∨ hook.id ≠ id :=
    of_decide_eq_true (List.all_eq_true.1 permitted _ member)
  have othersOn_eq := inStep.othersOn_unlisten cache id
  obtain ⟨shelf, after_eq⟩ : ∃ shelf, watch.node.meet (.unlisten cache id) =
      { watch.node with core := { watch.node.core with shelf := shelf } } :=
    watch.node.onStore_eq cache _
  simp only [note] at othersOn_eq ⊢
  rw [after_eq] at reshapes listeners othersOn_eq ⊢
  exact {
    inStep with
    sound := reshapes.sound (fun _ _ sound => sound.keep _) inStep.sound
    issued := fun member => reshapes.issued (fun _ _ => Nat.le_refl _) (inStep.issued member)
    present := by
      intro live other hook member
      rw [listeners, List.mem_filter]
      exact ⟨inStep.present live member, decide_eq_true (spared member)⟩
    cleared := by
      intro ended
      obtain ⟨unregistered, cleared⟩ := inStep.cleared ended
      refine ⟨unregistered, fun {other hook} member => ?_⟩
      rw [listeners]
      exact fun late => cleared member (List.mem_of_mem_filter late)
    othersOn_eq := othersOn_eq }

/-- Before a stop is finished, a listener is a hook if its identifier is that of a registration. -/
theorem mem_hooks_iff (inStep : watch.InStep) (live : watch.stopping ≠ .ended)
    {listener : Listener} (member : listener ∈ watch.node.core.listenersOf cache) :
    (cache, listener) ∈ watch.hooks ↔
      (⟨cache, listener.id⟩ : Registration) ∈ watch.node.registrations := by
  constructor
  · intro hooked
    obtain ⟨id, audience⟩ := listener
    obtain rfl : audience = .bus := inStep.bus hooked
    exact (inStep.registered_iff live cache id).1 hooked
  · intro registered
    have hooked := (inStep.registered_iff live cache listener.id).2 registered
    obtain ⟨roster, here, present⟩ := Core.mem_listenersOf_iff.1 (inStep.present live hooked)
    rw [Core.listenersOf_eq here] at member
    rwa [← (inStep.sound here).eq_of_id present member rfl]

/-- A node that forgets has no hooks any more. -/
theorem forget (inStep : watch.InStep) (begun : watch.stopping = .begun) (channel : Channel) :
    ({ watch with
      node := ({ watch.node with channel := channel } : Node).forget
      stopping := .ended } : Watch).InStep := by
  have live : watch.stopping ≠ .ended := by simp [begun]
  have stopped : watch.node.core.lifecycle = .stopped := by
    have asked : ¬watch.stopping = .unasked := by simp [begun]
    simpa [inStep.unasked_iff] using asked
  have reshapes := ({ watch.node with channel := channel } : Node).reshapes_forget
  have listeners := Core.listenersOf_of_keep reshapes
  exact {
    sound := reshapes.sound (fun _ _ sound => sound.keep _) inStep.sound
    unasked_iff := by simp [Node.forget, Node.unregister, stopped]
    bus := inStep.bus
    configured := inStep.configured
    issued := fun member => reshapes.issued (fun _ _ => Nat.le_refl _) (inStep.issued member)
    registered_iff := fun ended => absurd rfl ended
    distinct := List.nodup_nil
    present := fun ended => absurd rfl ended
    offered := inStep.offered
    cleared := by
      refine fun _ => ⟨rfl, fun {cache hook} member late => ?_⟩
      rw [listeners, List.mem_filter, decide_eq_true_eq] at late
      exact late.2 ((inStep.mem_hooks_iff live late.1).1 member)
    othersOn_eq := by
      intro cache
      refine Eq.trans ?_ (inStep.othersOn_eq cache)
      unfold othersOn
      rw [listeners, List.filter_filter]
      refine List.filter_congr fun listener member => ?_
      have iff : (cache, listener) ∈ watch.hooks ↔ _ := inStep.mem_hooks_iff live member
      simp [iff] }

/-- A stop that is finished takes off all hooks, unless the channel crashes. -/
theorem finish (inStep : watch.InStep) (begun : watch.stopping = .begun) (member : Member)
    (hub : Hub Member Member) :
    (watch.note (.finish member hub) (watch.node.meet (.finish member hub))).InStep := by
  simp only [note]
  cases crashed : (watch.node.finishStop member hub).2.2 with
  | true => exact inStep.undisturbed (Node.finish_undisturbed crashed)
  | false =>
      obtain ⟨channel, after_eq⟩ := Node.exists_forget_eq crashed
      rw [after_eq]
      exact inStep.forget begun channel

/-! ### Registering -/

/-- A node that is stopped registers nothing. -/
theorem register_of_stopped (inStep : watch.InStep)
    (stopped : watch.node.core.lifecycle = .stopped) :
    (watch.note .register (watch.node.meet .register)) = watch := by
  have asked : watch.stopping ≠ .unasked := by simp [inStep.unasked_iff, stopped]
  have none : watch.node.core.added watch.node.core = [] := by
    refine List.eq_nil_iff_forall_not_mem.2 fun added member => ?_
    exact (Core.mem_added_iff.1 member).2 (Core.mem_added_iff.1 member).1
  simp only [note, Node.meet, Node.register_of_stopped stopped, none, List.append_nil, asked,
    ↓reduceIte]

section Registering

variable (inStep : watch.InStep)
  (registered : watch.node.Registered watch.node.core.config.caches.keys after)

include inStep registered

/-- The hooks of a node that has registered are those it had, and one on every configured cache
that was there and had none. -/
theorem mem_hooks_register_iff :
    (cache, hook) ∈ watch.hooks ++ watch.node.core.added after.core ↔
      (cache, hook) ∈ watch.hooks ∨ hook.audience = .bus ∧
        cache ∈ watch.node.core.config.caches.keys ∧
          watch.node.hook? cache = some ⟨cache, hook.id⟩ := by
  rw [List.mem_append, registered.mem_added_iff inStep.sound]

theorem configured_register
    (member : (cache, hook) ∈ watch.hooks ++ watch.node.core.added after.core) :
    watch.configures cache := by
  rcases (inStep.mem_hooks_register_iff registered).1 member with early | ⟨_, configured, _⟩
  · exact inStep.configured early
  · exact Table.contains_iff.2 configured

theorem issued_register
    (member : (cache, hook) ∈ watch.hooks ++ watch.node.core.added after.core) :
    after.core.shelf.HasIssued cache hook.id := by
  rcases (inStep.mem_hooks_register_iff registered).1 member with early | ⟨_, configured, hooked⟩
  · exact registered.reshapes.issued (fun _ roster => roster.next_le_addIf .bus)
      (inStep.issued early)
  · obtain ⟨_, roster, known, same⟩ := Node.hook?_eq_some_iff.1 hooked
    have id_eq : hook.id = roster.next := congrArg Registration.id same
    refine ⟨roster.add .bus, ?_, ?_⟩
    · rw [registered.roster?_eq, known, if_pos ⟨configured, by simp [hooked]⟩]
      rfl
    · rw [id_eq]
      exact Nat.lt_succ_self _

theorem registered_iff_register (live : watch.stopping ≠ .ended) (cache : String) (id : Nat) :
    (cache, ⟨id, .bus⟩) ∈ watch.hooks ++ watch.node.core.added after.core ↔
      (⟨cache, id⟩ : Registration) ∈ after.registrations := by
  rw [inStep.mem_hooks_register_iff registered, registered.registrations_eq, List.mem_append,
    Node.mem_filterMap_hook?_iff, inStep.registered_iff live]
  simp

/-- A cache is registered once, since no registration is made of a cache that has one. -/
theorem distinct_register : (after.registrations.map (·.cache)).Nodup := by
  have nodup : watch.node.core.config.caches.keys.Nodup := watch.node.core.config.caches.nodup
  rw [registered.registrations_eq, List.map_append, Node.caches_filterMap_hook?, List.nodup_append]
  refine ⟨inStep.distinct, nodup.filter _, ?_⟩
  rintro cache early _ late rfl
  obtain ⟨registration, known, rfl⟩ := List.mem_map.1 early
  obtain ⟨made, hooked⟩ := Option.isSome_iff_exists.1 (List.mem_filter.1 late).2
  have free := (Node.hook?_eq_some_iff.1 hooked).1
  simp [Node.isRegistered] at free
  exact free registration known rfl

theorem present_register (live : watch.stopping ≠ .ended)
    (member : (cache, hook) ∈ watch.hooks ++ watch.node.core.added after.core) :
    hook ∈ after.core.listenersOf cache := by
  rcases List.mem_append.1 member with early | late
  · rw [registered.listenersOf_eq]
    exact List.mem_append_left _ (inStep.present live early)
  · exact (Core.mem_added_iff.1 late).1

/-- A configured cache that is there has a hook: it is registered already, or it is now. -/
theorem exists_hook_register (live : watch.stopping ≠ .ended)
    (here : cache ∈ watch.offered ++ watch.node.core.shelf.stores.keys)
    (configured : watch.configures cache) :
    ∃ hook, (cache, hook) ∈ watch.hooks ++ watch.node.core.added after.core := by
  rcases List.mem_append.1 here with early | here
  · obtain ⟨hook, known⟩ := inStep.offered cache early configured
    exact ⟨hook, List.mem_append_left _ known⟩
  · cases free : watch.node.isRegistered cache with
    | true =>
        obtain ⟨registration, known, same⟩ := List.any_eq_true.1 free
        obtain rfl : registration.cache = cache := eq_of_beq same
        exact ⟨⟨registration.id, .bus⟩,
          List.mem_append_left _ ((inStep.registered_iff live _ _).2 known)⟩
    | false =>
        obtain ⟨store, found⟩ := Option.isSome_iff_exists.1 (Table.contains_iff.2 here)
        have known : watch.node.core.shelf.roster? cache = some store.roster := by
          rw [CacheShelf.roster?, CacheShelf.store?, found]
          rfl
        refine ⟨⟨store.roster.next, .bus⟩, (inStep.mem_hooks_register_iff registered).2 ?_⟩
        exact Or.inr ⟨rfl, Table.contains_iff.1 configured,
          Node.hook?_eq_some_iff.2 ⟨free, store.roster, known, rfl⟩⟩

/-- Registering leaves the other listeners. -/
theorem othersOn_register (cache : String) :
    ((after.core.listenersOf cache).filter fun listener =>
        decide ((cache, listener) ∉ watch.hooks ++ watch.node.core.added after.core)) =
      watch.othersOn cache := by
  obtain ⟨more, listeners, late⟩ := registered.exists_more inStep.sound cache
  have none : more.filter (fun listener =>
      decide ((cache, listener) ∉ watch.hooks ++ watch.node.core.added after.core)) = [] := by
    refine List.filter_eq_nil_iff.2 fun listener member => ?_
    simp [late listener member]
  rw [listeners, List.filter_append, none, List.append_nil]
  refine List.filter_congr fun listener member => ?_
  have early : (cache, listener) ∉ watch.node.core.added after.core :=
    fun added => (Core.mem_added_iff.1 added).2 member
  simp [early]

end Registering

/-- Registering puts a hook on every configured cache that is there and has none. -/
theorem register (inStep : watch.InStep) :
    (watch.note .register (watch.node.meet .register)).InStep := by
  by_cases stopped : watch.node.core.lifecycle = .stopped
  · rw [inStep.register_of_stopped stopped]
    exact inStep
  have unasked : watch.stopping = .unasked := inStep.unasked_iff.2 stopped
  have live : watch.stopping ≠ .ended := by simp [unasked]
  have registered := (Node.register_registered stopped).1
  simp only [note, Node.meet, unasked, ↓reduceIte]
  generalize watch.node.register.1 = after at registered
  have config_eq : after.core.config = watch.node.core.config := by rw [registered.core_eq]
  have lifecycle_eq : after.core.lifecycle = watch.node.core.lifecycle := by
    rw [registered.core_eq]
  exact {
    sound := registered.reshapes.sound (fun _ _ sound => sound.addIf .bus) inStep.sound
    unasked_iff := by simp [lifecycle_eq, stopped]
    bus := by
      intro cache hook member
      rcases (inStep.mem_hooks_register_iff registered).1 member with early | ⟨bus, _⟩
      · exact inStep.bus early
      · exact bus
    configured := by
      intro cache hook member
      unfold configures
      rw [config_eq]
      exact inStep.configured_register registered member
    issued := inStep.issued_register registered
    registered_iff := fun _ => inStep.registered_iff_register registered live
    distinct := inStep.distinct_register registered
    present := fun _ => inStep.present_register registered live
    offered := by
      intro cache here configured
      unfold configures at configured
      rw [config_eq] at configured
      exact inStep.exists_hook_register registered live here configured
    cleared := by
      intro ended
      cases ended
    othersOn_eq := fun cache =>
      (inStep.othersOn_register registered cache).trans (inStep.othersOn_eq cache) }

theorem meet (inStep : watch.InStep) (demand : Demand) : (watch.meet demand).InStep := by
  unfold Watch.meet
  cases permitted : watch.permits demand with
  | false => exact inStep
  | true =>
      simp only [↓reduceIte]
      cases demand with
      | register => exact inStep.register
      | start member hub => exact inStep.undisturbed (watch.node.start_undisturbed member hub)
      | stop =>
          by_cases started : watch.node.core.lifecycle = .started
          · exact inStep.begins started
          · have refused : watch.node.meet .stop = watch.node := by
              unfold Node.meet Node.beginStop
              cases stage : watch.node.core.lifecycle with
              | started => exact absurd stage started
              | created => rfl
              | stopped => rfl
            simp only [note, started, ↓reduceIte, refused]
            exact inStep
      | finish member hub =>
          have begun : watch.stopping = .begun := by simpa [permits] using permitted
          exact inStep.finish begun member hub
      | create cache => exact inStep.undisturbed (watch.node.create_undisturbed cache)
      | listen cache audience => exact inStep.listen cache audience
      | unlisten cache id => exact inStep.unlisten permitted
      | operate cache guarded call clock =>
          exact inStep.undisturbed (watch.node.operate_undisturbed cache guarded call clock)
      | receive body clock => exact inStep.undisturbed (watch.node.receive_undisturbed body clock)
      | hear event clock => exact inStep.undisturbed (watch.node.hear_undisturbed event clock)
      | tend other => exact inStep.undisturbed (watch.node.tend_undisturbed other)

theorem meetAll (demands : List Demand) :
    ∀ {watch : Watch}, watch.InStep → (watch.meetAll demands).InStep := by
  induction demands with
  | nil => exact id
  | cons demand rest inductionHypothesis =>
      intro watch inStep
      exact inductionHypothesis (inStep.meet demand)

/-! ## What follows from it -/

theorem mem_hooksOn_iff : hook ∈ watch.hooksOn cache ↔
    hook ∈ watch.node.core.listenersOf cache ∧ (cache, hook) ∈ watch.hooks := by
  simp [hooksOn]

theorem hooksOn_of_ended (inStep : watch.InStep) (ended : watch.stopping = .ended)
    (cache : String) : watch.hooksOn cache = [] := by
  refine List.eq_nil_iff_forall_not_mem.2 fun hook member => ?_
  obtain ⟨here, known⟩ := mem_hooksOn_iff.1 member
  exact (inStep.cleared ended).2 known here

/-- A node has one registration for a cache, so there are no two hooks on it. -/
theorem eq_of_mem_hooks (inStep : watch.InStep) (live : watch.stopping ≠ .ended) {other : Listener}
    (first : (cache, hook) ∈ watch.hooks) (second : (cache, other) ∈ watch.hooks) :
    hook = other := by
  obtain ⟨id, audience⟩ := hook
  obtain ⟨number, listening⟩ := other
  obtain rfl : audience = .bus := inStep.bus first
  obtain rfl : listening = .bus := inStep.bus second
  have same := List.inj_on_of_nodup_map inStep.distinct
    ((inStep.registered_iff live _ _).1 first) ((inStep.registered_iff live _ _).1 second) rfl
  rw [(Registration.mk.inj same).2]

/-- A hook is the only one on its cache. -/
theorem hooksOn_of_mem (inStep : watch.InStep) (live : watch.stopping ≠ .ended)
    (known : (cache, hook) ∈ watch.hooks) : watch.hooksOn cache = [hook] := by
  have here := inStep.present live known
  have nodup : (watch.hooksOn cache).Nodup := by
    obtain ⟨roster, held, _⟩ := Core.mem_listenersOf_iff.1 here
    rw [hooksOn, Core.listenersOf_eq held]
    exact (inStep.sound held).nodup.of_map.filter _
  refine List.perm_singleton.1
    ((List.perm_ext_iff_of_nodup nodup (List.nodup_singleton hook)).2 fun other => ?_)
  rw [List.mem_singleton]
  constructor
  · exact fun member => inStep.eq_of_mem_hooks live (mem_hooksOn_iff.1 member).2 known
  · rintro rfl
    exact mem_hooksOn_iff.2 ⟨here, known⟩

theorem hooksOn_cases (inStep : watch.InStep) (cache : String) :
    watch.hooksOn cache = [] ∨ watch.stopping ≠ .ended ∧ ∃ hook, (cache, hook) ∈ watch.hooks ∧
      watch.hooksOn cache = [hook] := by
  by_cases ended : watch.stopping = .ended
  · exact Or.inl (inStep.hooksOn_of_ended ended cache)
  · cases none : watch.hooksOn cache with
    | nil => exact Or.inl rfl
    | cons hook rest =>
        have known := (mem_hooksOn_iff.1 (none ▸ List.mem_cons_self)).2
        exact Or.inr ⟨ended, hook, known, none ▸ inStep.hooksOn_of_mem ended known⟩

/-- The caches that registering puts a hook on are those that it registers. -/
theorem counted (inStep : watch.InStep) (unasked : watch.stopping = .unasked) :
    ∃ fresh : List String, fresh.Nodup ∧ watch.node.register.2 = fresh.length ∧
      (∀ cache, cache ∈ fresh ↔
        watch.hooksOn cache = [] ∧ ((watch.meet .register).hooksOn cache).length = 1) ∧
      ∀ cache ∉ fresh, (watch.meet .register).hooksOn cache = watch.hooksOn cache := by
  have live : watch.stopping ≠ .ended := by simp [unasked]
  obtain ⟨registered, count⟩ := Node.register_registered (inStep.unasked_iff.1 unasked)
  have nodup : watch.node.core.config.caches.keys.Nodup := watch.node.core.config.caches.nodup
  have after := inStep.meet .register
  have stays : (watch.meet .register).stopping ≠ .ended := live
  have hooks (cache : String) (hook : Listener) :
      (cache, hook) ∈ (watch.meet .register).hooks ↔ (cache, hook) ∈ watch.hooks ∨
        hook.audience = .bus ∧ cache ∈ watch.node.core.config.caches.keys ∧
          watch.node.hook? cache = some ⟨cache, hook.id⟩ := by
    rw [← registered.mem_added_iff inStep.sound]
    exact List.mem_append
  have fresh_iff (cache : String) :
      cache ∈ watch.node.core.config.caches.keys.filter
          (fun cache => (watch.node.hook? cache).isSome) ↔
        watch.hooksOn cache = [] ∧ ((watch.meet .register).hooksOn cache).length = 1 := by
    rw [List.mem_filter]
    constructor
    · rintro ⟨configured, hooked⟩
      obtain ⟨registration, hooked⟩ := Option.isSome_iff_exists.1 hooked
      obtain ⟨free, roster, _, rfl⟩ := Node.hook?_eq_some_iff.1 hooked
      have known := (hooks cache ⟨roster.next, .bus⟩).2 (Or.inr ⟨rfl, configured, hooked⟩)
      rw [after.hooksOn_of_mem stays known]
      refine ⟨(inStep.hooksOn_cases cache).resolve_right ?_, rfl⟩
      rintro ⟨_, ⟨id, audience⟩, early, _⟩
      obtain rfl : audience = .bus := inStep.bus early
      have registered := (inStep.registered_iff live cache id).1 early
      simp only [Node.isRegistered, List.any_eq_false, beq_iff_eq] at free
      exact free _ registered rfl
    · rintro ⟨none, one⟩
      rcases after.hooksOn_cases cache with empty | ⟨_, hook, known, _⟩
      · simp [empty] at one
      · rcases (hooks cache hook).1 known with early | ⟨_, configured, hooked⟩
        · simp [inStep.hooksOn_of_mem live early] at none
        · exact ⟨configured, by simp [hooked]⟩
  refine ⟨_, nodup.filter fun cache => (watch.node.hook? cache).isSome, ?_, fresh_iff, ?_⟩
  · rw [count, ← Node.caches_filterMap_hook?, List.length_map]
  · intro cache stale
    rcases inStep.hooksOn_cases cache with none | ⟨_, hook, early, one⟩
    · rcases after.hooksOn_cases cache with empty | ⟨_, _, _, one⟩
      · rw [empty, none]
      · exact absurd ((fresh_iff cache).2 ⟨none, by rw [one]; rfl⟩) stale
    · rw [one]
      exact after.hooksOn_of_mem stays ((hooks cache hook).2 (Or.inl early))

/-- A change is told through the hook of its cache. -/
theorem tells (inStep : watch.InStep) {store : Store} {α : Type} {change : Change α} {event : Event}
    (hooked : (watch.hooksOn cache).length = 1)
    (found : watch.node.core.shelf.store? cache = some store)
    (roster_eq : change.store.roster = store.roster) (told : change.event = some event) :
    watch.Tells cache change event := by
  have listeners_eq : change.store.listeners = watch.node.core.listenersOf cache := by
    have here : watch.node.core.shelf.roster? cache = some store.roster := by
      rw [CacheShelf.roster?, found]
      rfl
    rw [Core.listenersOf_eq here]
    exact congrArg Roster.listeners roster_eq
  obtain ⟨_, hook, known, one⟩ := (inStep.hooksOn_cases cache).resolve_left fun none => by
    simp [none] at hooked
  constructor
  · refine ⟨hook, ?_⟩
    have deliveries : change.deliveries =
        (watch.node.core.listenersOf cache).map fun listener => (listener, event) := by
      simp [Change.deliveries, told, listeners_eq]
    rw [deliveries, List.filter_map]
    exact congrArg (List.map fun listener => (listener, event)) one
  · intro linked
    have bus : (watch.hooksOn cache).countP (·.audience = .bus) = 1 := by
      simp [one, inStep.bus known]
    have ears : watch.node.core.ears change.store =
        (watch.guestsOf cache).countP (·.audience = .bus) + 1 := by
      rw [Core.ears, if_pos linked, listeners_eq, ← bus, ← inStep.othersOn_eq, Nat.add_comm,
        List.countP_eq_countP_filter_add _ _
          fun listener => decide ((cache, listener) ∈ watch.hooks)]
      simp only [hooksOn, othersOn, decide_not]
    simp only [Core.heard, told, ears]

/-- If no guest belongs to the bus, it hears of an operation what that has emitted, once. -/
theorem hears (inStep : watch.InStep) {guarded : Bool} {call : StoreCall} {clock : Clock}
    {operated : Core.Operated} {answer : StoreAnswer}
    (hooked : (watch.hooksOn cache).length = 1) (linked : watch.node.core.linked = true)
    (strangers : ∀ guest ∈ watch.guestsOf cache, guest.audience ≠ .bus)
    (operates : watch.node.core.operate cache guarded call clock = some operated)
    (answered : operated.answer = .ok answer) :
    operated.heard = watch.node.core.emitted cache call clock.wall := by
  obtain ⟨store, found, rfl⟩ := Option.map_eq_some_iff.1 operates
  have none : (watch.guestsOf cache).countP (·.audience = .bus) = 0 :=
    List.countP_eq_zero.2 fun guest member => by simpa using strangers guest member
  cases outcome : (if guarded then watch.node.core.shelf.guard cache else .none).perform store call
      clock.wall with
  | error stop => simp only [outcome, reduceCtorEq] at answered
  | ok change =>
      simp only [outcome, Core.emitted, found, ← Guard.eq_of_perform outcome]
      cases told : change.event with
      | none => simp only [Core.heard, told, Option.toList_none]
      | some event =>
          have tells := inStep.tells hooked found (Guard.roster_of_perform outcome) told
          rw [tells.heard_eq linked, none]
          rfl

theorem hooked (inStep : watch.InStep) : watch.Hooked where
  atMostOnce cache := by
    rcases inStep.hooksOn_cases cache with none | ⟨_, hook, _, one⟩
    · simp [none]
    · simp [one]
  once live cache member configured := by
    obtain ⟨hook, known⟩ := inStep.offered cache member configured
    rw [inStep.hooksOn_of_mem live known]
    rfl
  configured cache unconfigured := by
    rcases inStep.hooksOn_cases cache with none | ⟨_, hook, known, _⟩
    · exact none
    · exact absurd (inStep.configured known) unconfigured
  counted := inStep.counted
  tellsPerformed hooked found performed told :=
    inStep.tells hooked found (Guard.roster_of_perform performed) told
  tellsApplied hooked found applied told :=
    inStep.tells hooked found (Guard.roster_of_apply applied) told
  hears := inStep.hears
  unhooked := inStep.hooksOn_of_ended
  refuses asked := by
    refine Node.register_of_stopped ?_
    simpa [inStep.unasked_iff] using asked
  othersOn_eq := inStep.othersOn_eq

end InStep

/-- Over every history of a node that was just made, with any listeners of others on its caches,
every configured cache gets exactly one hook once it is there to be registered on, and no cache has
one any more when the node has been stopped. -/
theorem hooked_of_meetAll {node : Node} (created : node.core.lifecycle = .created)
    (unregistered : node.registrations = [])
    (sound : node.core.shelf.Sound) (demands : List Demand) :
    ((Watch.new node).meetAll demands).Hooked :=
  ((InStep.new created unregistered sound).meetAll demands).hooked

/-! ## A visited node -/

/-- A node with one configured cache and one that is not. -/
def visited : Watch :=
  .new (.new "only" (.new (BusConfig.sample true) .plain
    ((CacheShelf.empty.create "users").create "logs")) .plain .up)

/-- A visitor listens to both caches, and the node registers its listeners twice. -/
def visits : List Demand :=
  [.listen "users" (.observer "visitor"), .listen "logs" (.observer "visitor"), .register,
    .start (.node 0) .empty, .register]

/-- The visitor leaves one of the caches, and the node stops and registers again. -/
def partings : List Demand :=
  [.unlisten "logs" 1, .stop, .finish (.node 0) .empty, .register]

theorem hooked_of_meetAll_visited :
    let before := visited.meetAll visits
    let after := visited.meetAll (visits ++ partings)
    before.hooksOn "users" = [⟨2, .bus⟩] ∧ before.stopping = .unasked ∧ before.Hooked ∧
      after.guestsOf "users" = [⟨1, .observer "visitor"⟩] ∧ after.guestsOf "logs" = [] ∧
        after.stopping = .ended ∧ after.Hooked := by
  have sound : visited.node.core.shelf.Sound :=
    (CacheShelf.sound_empty.create "users").create "logs"
  have hooked (demands : List Demand) : (visited.meetAll demands).Hooked :=
    hooked_of_meetAll rfl rfl sound demands
  refine ⟨by decide +kernel, by decide +kernel, hooked _, by decide +kernel, by decide +kernel,
    by decide +kernel, hooked _⟩

end Watch
end CacheSync
