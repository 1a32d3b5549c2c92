import CacheSync.Proofs.Node.Hearing
import CacheSync.Proofs.Secrecy.Requests
import CacheSync.Proofs.Wire.RoundTrip

/-!
# What a course gives away

Two courses are compared whose deeds differ at most in the values that are written and received.
They hand the same messages to the channels of the nodes, judge the same events stale, and leave the
same keys in the caches, so nobody who sees no more than that learns a value.
-/

namespace CacheSync

/-! ## What is shown -/

/-- The event of a message, without its values, if the node judges it stale. -/
def Core.stale? (core : Core) (body : List UInt8) (clock : Clock) : Option Event :=
  if !core.isStarted then none
  else
    match Wire.decode body with
    | .error _ => none
    | .ok event =>
        match core.config.cache? event.cache with
        | none => none
        | some config =>
            if (core.record config event clock).2 then none else some event.withoutValues

namespace Core

variable (core : Core)

theorem count_stale_record (config : CacheConfig) (event : Event) (clock : Clock) (cache : String) :
    (core.record config event clock).1.meter.count (.stale cache) =
      core.meter.count (.stale cache) := by
  unfold record
  split
  · rfl
  · dsimp only
    unfold TimestampStore.reportSave
    split
    · simp [TimestampStore.reportCleanup]
    · rfl

/-- The messages that a node judges stale are those that it counts as such. -/
theorem count_stale_receive (body : List UInt8) (clock : Clock) (cache : String) :
    (core.receive body clock).core.meter.count (.stale cache) =
      core.meter.count (.stale cache) +
        ((core.stale? body clock).bind fun event => core.config.cache? event.cache).toList.countP
          (·.name = cache) := by
  have received : (core.mark .received).meter.count (.stale cache) =
      core.meter.count (.stale cache) := by
    simp [Core.mark]
  have news_eq (config : CacheConfig) (event : Event) :
      ((core.mark .received).record config event clock).2 =
        (core.record config event clock).2 := by
    unfold record
    cases config.comparison <;> rfl
  have fate := core.receive_fate body clock
  generalize core.receive body clock = handled at fate
  cases fate with
  | ignored stopped => simp [stale?, stopped]
  | undecodable started read => simp [stale?, started, read, Core.mark]
  | unconfigured started read unknown => simp [stale?, started, read, unknown, Core.mark]
  | @stale event config recorded started read configured saved =>
      have counted := (core.mark .received).count_stale_record config event clock cache
      have old := news_eq config event
      rw [saved] at counted old
      have judged : core.stale? body clock = some event.withoutValues := by
        simp [stale?, started, read, configured, ← old]
      have here : core.config.cache? event.withoutValues.cache = some config := configured
      rw [judged, Option.bind_some, here, ← received, ← counted]
      simp [Core.mark]
  | @applied event config recorded started read configured saved =>
      have counted := (core.mark .received).count_stale_record config event clock cache
      have news := news_eq config event
      rw [saved] at counted news
      have judged : core.stale? body clock = none := by
        simp [stale?, started, read, configured, ← news]
      rw [judged, Option.bind_none, Option.toList_none, List.countP_nil, Nat.add_zero,
        (recorded.spread_spares config event clock).count_eq (.stale cache) rfl, counted, received]

end Core

/-- The message with which a task calls the channel of a node. -/
def Task.call? : Task → Option (Nat × Message)
  | .send index ⟨_, _, .calling message⟩ => some (index, message)
  | _ => none

/-- The message that a task hands to the consumer of a node. -/
def Task.handover? : Task → Option (Nat × Message)
  | .spread ⟨message, .node index :: _, _⟩ => some (index, message)
  | .send _ ⟨_, _, .spreading ⟨message, .node index :: _, _⟩⟩ => some (index, message)
  | _ => none

namespace Cluster

/-- The task that a thread goes on with.  The worker of a producer has an event to send. -/
def doing? (cluster : Cluster) : Thread → Option Task
  | .caller ticket => (cluster.caller? ticket).bind fun caller => caller.tasks.head?
  | .producerWorker index stripe =>
      ((cluster.node? index).bind fun node => node.producer.workers?).bind fun workers =>
        (workers.work? stripe).map (.send index)
  | _ => none

/-- The message that a deed hands to the channel of a node. -/
def handing (cluster : Cluster) : Deed → List (Nat × Message)
  | .step thread => ((cluster.doing? thread).bind Task.call?).toList
  | _ => []

/-- The event of a message that a node handles now and judges stale. -/
def staleOn (cluster : Cluster) (index : Nat) (body : List UInt8) : List (Nat × Event) :=
  ((cluster.node? index).bind fun node => node.core.stale? body cluster.clock).toList.map
    (index, ·)

/-- The event of a message that a worker of a consumer handles now and judges stale. -/
def staleAt (cluster : Cluster) (index stripe : Nat) : List (Nat × Event) :=
  match ((cluster.node? index).bind fun node => node.consumer.workers?).bind (·.work? stripe) with
  | none => []
  | some body => cluster.staleOn index body

/-- The event of a message that a task hands over and that is judged stale at once: its node has no
workers to leave it to. -/
def staleFor (cluster : Cluster) (task : Task) : List (Nat × Event) :=
  match task.handover? with
  | none => []
  | some (index, message) =>
      match (cluster.node? index).map Node.consumer with
      | some .direct => cluster.staleOn index message.body
      | _ => []

/-- The event that a deed has a node judge stale. -/
def judging (cluster : Cluster) : Deed → List (Nat × Event)
  | .ask (.receive index body) => (cluster.pass stepTime).staleOn index body
  | .step (.consumerWorker index stripe) => cluster.staleAt index stripe
  | .step thread => (cluster.doing? thread).toList.flatMap cluster.staleFor
  | _ => []

/-- Whether a cache of a node holds a value for a key. -/
def holds (cluster : Cluster) (index : Nat) (cache key : String) : Bool :=
  (((cluster.node? index).bind fun node => node.core.shelf.store? cache).bind (·.get? key)).isSome

end Cluster

/-! ## The same is shown -/

/-- Whether an event is stale does not depend on its values. -/
theorem Core.Alike.stale?_eq {first second : Core} (alike : first.Alike second)
    {body another : List UInt8} (bodies : Wire.Alike body another) (clock : Clock) :
    second.stale? another clock = first.stale? body clock := by
  unfold Core.stale?
  rw [alike.isStarted_eq, alike.config_eq]
  split
  · rfl
  · rcases bodies.decode with ⟨_, _, unread, refused⟩ | ⟨event, other, read, again, events⟩
    · simp only [unread, refused]
    · simp only [read, again, events.cache_eq]
      split
      · rfl
      next config _ => rw [(alike.record events config clock).2, events.symm]

namespace Cluster
namespace Alike

variable {first second : Cluster}

theorem doing? (alike : first.Alike second) (thread : Thread) :
    Option.Rel Task.Alike (first.doing? thread) (second.doing? thread) := by
  cases thread with
  | consumerWorker index stripe => exact .none
  | cleaner index => exact .none
  | caller ticket =>
      refine rel_bind (alike.caller? ticket) fun caller another callers => ?_
      have tasks := callers.tasks
      generalize caller.tasks = left at tasks ⊢
      generalize another.tasks = remaining at tasks ⊢
      cases tasks with
      | nil => exact .none
      | cons task _ => exact .some task
  | producerWorker index stripe =>
      exact rel_bind (alike.producers? index) fun _ _ crews =>
        rel_map (crews.work? stripe) fun _ _ sendings => .send index sendings

/-- Alike tasks call a channel with the same message. -/
theorem call?_eq {task other : Task} (same : task.Alike other) : other.call? = task.call? := by
  cases same with
  | @send index sending other sendings =>
      obtain ⟨job, recovery, stage⟩ := sending
      obtain ⟨_, _, _⟩ := other
      cases sendings.stage_eq
      cases stage <;> rfl
  | hear | offer | spread | stop | halt => rfl

theorem handing_eq {deed other : Deed} (alike : first.Alike second) (deeds : deed.Alike other) :
    second.handing other = first.handing deed := by
  cases deeds with
  | ask | wait | turn | shut => rfl
  | step thread =>
      unfold handing
      dsimp only
      rcases eq_none_or_eq_some_of_rel (alike.doing? thread) with
        ⟨none, absent⟩ | ⟨task, other, does, doing, same⟩
      · rw [none, absent]
      · rw [does, doing, Option.bind_some, Option.bind_some, call?_eq same]

/-- Alike tasks hand alike messages to the same node. -/
theorem handover?_alike {task other : Task} (same : task.Alike other) :
    Option.Rel (fun one another => another.1 = one.1 ∧ one.2.Alike another.2)
      task.handover? other.handover? := by
  cases same with
  | @send index sending other sendings =>
      obtain ⟨job, recovery, stage⟩ := sending
      obtain ⟨_, _, _⟩ := other
      cases sendings.stage_eq
      rcases stage with _ | _ | _ | ⟨message, _ | ⟨_ | _ | _, _⟩, _⟩ | _
      case spreading.cons.node => exact .some ⟨rfl, .refl message⟩
      all_goals exact .none
  | spread spreads =>
      obtain ⟨messages, _ | ⟨_ | _ | _, _⟩, _⟩ := spreads
      case spread.cons.node => exact .some ⟨rfl, messages⟩
      all_goals exact .none
  | hear | offer | stop | halt => exact .none

theorem staleOn_eq (alike : first.Alike second) (index : Nat) {body another : List UInt8}
    (bodies : Wire.Alike body another) :
    second.staleOn index another = first.staleOn index body := by
  unfold staleOn
  rcases eq_none_or_eq_some_of_rel (alike.nodes index) with
    ⟨none, absent⟩ | ⟨node, other, found, there, nodes⟩
  · rw [none, absent, Option.bind_none, Option.bind_none]
  · rw [found, there, Option.bind_some, Option.bind_some, alike.clock_eq,
      nodes.core.stale?_eq bodies]

theorem staleAt_eq (alike : first.Alike second) (index stripe : Nat) :
    second.staleAt index stripe = first.staleAt index stripe := by
  unfold staleAt
  rcases eq_none_or_eq_some_of_rel (alike.nodes index) with
    ⟨none, absent⟩ | ⟨node, other, found, there, nodes⟩
  · simp only [none, absent, Option.bind_none]
  · simp only [found, there, Option.bind_some]
    rcases eq_none_or_eq_some_of_rel nodes.consumer.workers? with
      ⟨none, absent⟩ | ⟨workers, others, striped, crewed, crews⟩
    · simp only [none, absent, Option.bind_none]
    · simp only [striped, crewed, Option.bind_some]
      rcases eq_none_or_eq_some_of_rel (crews.work? stripe) with
        ⟨none, absent⟩ | ⟨body, another, busy, occupied, bodies⟩
      · simp only [none, absent]
      · simp only [busy, occupied]
        exact alike.staleOn_eq index bodies

theorem staleFor_eq (alike : first.Alike second) {task other : Task} (same : task.Alike other) :
    second.staleFor other = first.staleFor task := by
  unfold staleFor
  rcases eq_none_or_eq_some_of_rel (handover?_alike same) with
    ⟨none, absent⟩ | ⟨⟨index, message⟩, ⟨place, another⟩, hands, handing, index_eq, messages⟩
  · simp only [none, absent]
  · obtain rfl : place = index := index_eq
    simp only [hands, handing]
    rcases eq_none_or_eq_some_of_rel (alike.nodes place) with
      ⟨none, absent⟩ | ⟨node, other, found, there, nodes⟩
    · simp only [none, absent, Option.map_none]
    · simp only [found, there, Option.map_some]
      rcases nodes.consumer.eq_direct_or_eq_striped with
        ⟨direct, plain⟩ | ⟨_, _, striped, crewed, _⟩
      · simp only [direct, plain]
        exact alike.staleOn_eq place messages.body
      · simp only [striped, crewed]

theorem judging_eq {deed other : Deed} (alike : first.Alike second) (deeds : deed.Alike other) :
    second.judging other = first.judging deed := by
  -- Callers and workers of producers have a message judged by handing it to a node without workers.
  have working (thread : Thread) :
      (second.doing? thread).toList.flatMap second.staleFor =
        (first.doing? thread).toList.flatMap first.staleFor := by
    rcases eq_none_or_eq_some_of_rel (alike.doing? thread) with
      ⟨none, absent⟩ | ⟨task, other, does, doing, same⟩
    · rw [none, absent, Option.toList_none, List.flatMap_nil, List.flatMap_nil]
    · simp only [does, doing, Option.toList_some, List.flatMap_singleton, alike.staleFor_eq same]
  unfold judging
  cases deeds with
  | wait | turn | shut => rfl
  | ask requests =>
      cases requests with
      | receive index bodies =>
          dsimp only
          exact (alike.pass stepTime).staleOn_eq index bodies
      | operate | send | deliver | start | stop => rfl
  | step thread =>
      cases thread with
      | consumerWorker index stripe =>
          dsimp only
          exact alike.staleAt_eq index stripe
      | caller | producerWorker | cleaner =>
          dsimp only
          exact working _

theorem holds_eq (alike : first.Alike second) (index : Nat) (cache key : String) :
    second.holds index cache key = first.holds index cache key := by
  have stores := rel_bind (alike.nodes index) fun _ _ nodes => (nodes.core.store? cache).1
  rcases eq_none_or_eq_some_of_rel stores with ⟨none, absent⟩ | ⟨store, other, present, some, held⟩
  · rw [holds, holds, none, absent]
  · rw [holds, holds, present, some]
    exact held.held_eq key

/-- What alike deeds show one after the other is the same if what each of them shows is. -/
theorem along_eq {α : Type} {shows : Cluster → Deed → List α}
    (shows_eq : ∀ {first second : Cluster} {deed other : Deed}, first.Alike second →
      deed.Alike other → shows second other = shows first deed)
    {deeds others : List Deed} (same : List.Forall₂ Deed.Alike deeds others) :
    ∀ {first second : Cluster}, first.Alike second →
      second.along shows others = first.along shows deeds := by
  induction same with
  | nil => exact fun _ => rfl
  | cons deed _ inductionHypothesis =>
      intro first second alike
      unfold along
      rw [shows_eq alike deed]
      rcases eq_none_or_eq_some_of_rel (alike.do? deed) with
        ⟨none, absent⟩ | ⟨middle, other, did, does, alike⟩
      · rw [none, absent]
      · rw [did, does]
        dsimp only
        rw [inductionHypothesis alike]

end Alike

/-! ## Whole courses -/

section Courses

variable {start other after later : Cluster} {deeds others : List Deed}

/-- Two courses show the same: the same messages were handed to the channels, the same events were
judged stale, and the caches hold the same keys afterwards.  The channels are in the same states,
and the nodes have counted the same. -/
structure ShowsAlike (start other : Cluster) (deeds others : List Deed) (after later : Cluster) :
    Prop where
  handed_eq : other.along handing others = start.along handing deeds
  stale_eq : other.along judging others = start.along judging deeds
  holds_eq : ∀ index cache key, later.holds index cache key = after.holds index cache key
  channel_eq : ∀ index,
    (later.node? index).map Node.channel = (after.node? index).map Node.channel
  meter_eq : ∀ index,
    (later.node? index).map (·.core.meter) = (after.node? index).map (·.core.meter)

theorem showsAlike_of_alike (alike : start.Alike other)
    (same : List.Forall₂ Deed.Alike deeds others) (went : start.after? deeds = some after) :
    ∃ later, other.after? others = some later ∧
      start.ShowsAlike other deeds others after later := by
  rcases eq_none_or_eq_some_of_rel (Alike.after? same alike) with
    ⟨none, _⟩ | ⟨reached, later, reaches, went', clusters⟩
  · rw [went] at none
    cases none
  · obtain rfl := Option.some.inj (went.symm.trans reaches)
    exact ⟨later, went', Alike.along_eq Alike.handing_eq same alike,
      Alike.along_eq Alike.judging_eq same alike, clusters.holds_eq,
      fun index => map_eq_of_rel (clusters.nodes index) fun _ _ nodes => nodes.channel_eq,
      fun index => map_eq_of_rel (clusters.nodes index) fun _ _ nodes => nodes.core.meter_eq⟩

/-- Two courses that differ at most in values show the same at each of their points. -/
theorem showsAlike_of_after? (alike : start.Alike other)
    (same : List.Forall₂ Deed.Alike deeds others) (went : start.after? deeds = some after)
    (count : Nat) :
    ∃ middle later, start.after? (deeds.take count) = some middle ∧
      other.after? (others.take count) = some later ∧
        start.ShowsAlike other (deeds.take count) (others.take count) middle later := by
  rw [← List.take_append_drop count deeds, after?_append] at went
  obtain ⟨middle, early, _⟩ := Option.bind_eq_some_iff.1 went
  obtain ⟨later, reached, shows⟩ := showsAlike_of_alike alike (List.forall₂_take count same) early
  exact ⟨middle, later, early, reached, shows⟩

end Courses
end Cluster

/-! ## A secret -/

/-- The messages of alike events are alike, whatever values they carry. -/
theorem Event.Alike.wire {event other : Event} (alike : event.Alike other)
    (dated : event.time.InCalendar) (portable : event.isPortable = true)
    (portableToo : other.isPortable = true) :
    Wire.Alike (Wire.encode event true) (Wire.encode other true) := by
  have datedToo : other.time.InCalendar := by
    rw [alike.time_eq]
    exact dated
  unfold Wire.Alike Wire.reading
  rw [Wire.decode_encode dated fun _ => portable, Wire.decode_encode datedToo fun _ => portableToo]
  obtain ⟨old, new, rfl⟩ := alike.exists_eq
  rfl

/-- A configuration with one invalidated cache, whose events are compared by time. -/
def BusConfig.vault : BusConfig :=
  { BusDefinition.default.bare with
    caches := Table.empty.insert "users" ⟨"users", .invalidated, [], some .default⟩ }

theorem BusConfig.vault_isDiscreet : vault.IsDiscreet := by
  intro name cache configured
  simp only [vault, cache?, Table.get?_insert] at configured
  split at configured
  · cases configured
    rfl
  · cases configured

/-- A node that was just made and holds a secret. -/
def Node.vault (secret : String) : Node :=
  .new "vault" (.new .vault .plain
    (CacheShelf.empty.setStore ((Store.ofName "users").set "ada" (.text secret)))) .plain .up

namespace Cluster

theorem vault_alike (secret other : String) :
    (ofNodes [.vault secret] ⟨0, 0⟩).Alike (ofNodes [.vault other] ⟨0, 0⟩) where
  clock_eq := rfl
  nodes index := by
    have empty : CacheShelf.empty.Alike .empty := ⟨fun _ => .none, rfl⟩
    have made : (Store.ofName "users").Alike (Store.ofName "users") := ⟨rfl, fun _ => rfl, rfl, rfl⟩
    have shelves := empty.setStore (made.set "ada" (.text secret) (.text other))
    cases index with
    | zero => exact .some (.intro (.intro shelves BusConfig.vault_isDiscreet) .direct .direct)
    | succ index => exact .none
  hub_eq := rfl
  callers := .nil
  next_eq := rfl

/-- An event that comes too late to be news. -/
def lateEvent (secret : String) : Event :=
  ⟨"users", .entry "ada", .updated, 0, .localNode, none, some (.text secret)⟩

/-- The secret is written, joined to the one before, and received. -/
def visit (secret : String) : List Deed :=
  [.turn 0 .register, .ask (.start 0),
    .ask (.operate 0 "users" false (.put "ada" (.text secret) .localNode))] ++
  List.replicate 5 (.step (.caller 1)) ++
  [.ask (.operate 0 "users" false
    (.merge "ada" (.text secret) (fun _ incoming => some incoming) .localNode))] ++
  List.replicate 5 (.step (.caller 2)) ++
  [.ask (.receive 0 (Wire.encode (lateEvent secret) true))]

theorem visit_alike (secret other : String) :
    List.Forall₂ Deed.Alike (visit secret) (visit other) := by
  have steps (ticket : Nat) : List.Forall₂ Deed.Alike (List.replicate 5 (.step (.caller ticket)))
      (List.replicate 5 (.step (.caller ticket))) :=
    List.forall₂_same.2 fun deed member => by
      rw [List.eq_of_mem_replicate member]
      exact .step _
  have put : StoreCall.Alike (.put "ada" (.text secret) .localNode)
      (.put "ada" (.text other) .localNode) := .put ..
  have merged : StoreCall.Alike
      (.merge "ada" (.text secret) (fun _ incoming => some incoming) .localNode)
      (.merge "ada" (.text other) (fun _ incoming => some incoming) .localNode) :=
    .merge _ _ _ (.keep (fun _ _ => rfl) fun _ _ => rfl) _
  have late : (lateEvent secret).Alike (lateEvent other) := rfl
  have dated : (lateEvent secret).time.InCalendar := show Moment.InCalendar 0 by decide
  have sent := late.wire dated rfl rfl
  have opening := List.Forall₂.cons (Deed.Alike.turn 0 .register)
    (.cons (.ask (.start 0)) (.cons (.ask (.operate 0 "users" false put)) .nil))
  exact List.rel_append (List.rel_append (List.rel_append (List.rel_append opening (steps 1))
    (.cons (.ask (.operate 0 "users" false merged)) .nil)) (steps 2))
    (.cons (.ask (.receive 0 sent)) .nil)

/-- Two secrets are told by the same two messages, and both are found stale when they return. -/
theorem showsAlike_of_after?_visit : ∃ after,
    (ofNodes [.vault "countess"] ⟨0, 0⟩).after? (visit "lady") = some after ∧
      ((ofNodes [.vault "countess"] ⟨0, 0⟩).along handing (visit "lady")).length = 2 ∧
        ((ofNodes [.vault "countess"] ⟨0, 0⟩).along judging (visit "lady")).length = 1 ∧
          ∀ count, ∃ middle later,
            (ofNodes [.vault "countess"] ⟨0, 0⟩).after? ((visit "lady").take count) = some middle ∧
              (ofNodes [.vault "poet"] ⟨0, 0⟩).after? ((visit "analyst").take count) = some later ∧
                (ofNodes [.vault "countess"] ⟨0, 0⟩).ShowsAlike (ofNodes [.vault "poet"] ⟨0, 0⟩)
                  ((visit "lady").take count) ((visit "analyst").take count) middle later := by
  obtain ⟨after, went⟩ := Option.isSome_iff_exists.1 (show
    ((ofNodes [.vault "countess"] ⟨0, 0⟩).after? (visit "lady")).isSome = true by decide +kernel)
  exact ⟨after, went, by decide +kernel, by decide +kernel,
    showsAlike_of_after? (vault_alike "countess" "poet") (visit_alike "lady" "analyst") went⟩

end Cluster
end CacheSync

