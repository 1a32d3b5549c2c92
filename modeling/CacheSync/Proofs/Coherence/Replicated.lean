import CacheSync.Proofs.Cluster.Sending

/-!
# Coherence of replicated caches

Nodes that work on the calling thread hand every event to all other nodes before its operation is
over.  Whatever a node held of the key before, it then holds the new value or none.  So between
operations all nodes that hold a key agree on it, once an event has concerned it.

While an operation is under way, `Stage` says which nodes have its event already.
-/

namespace CacheSync

open Json (Value)

/-- A node that replicates a cache on the calling thread. -/
structure Node.Direct (node : Node) (cache : String) : Prop extends node.Mirrors cache where
  producer_eq : node.producer = .direct
  consumer_eq : node.consumer = .direct

theorem Node.Direct.of_frame {node changed : Node} {cache : String} (direct : node.Direct cache)
    (frame_eq : changed.core.frame = node.core.frame)
    (pipeline_eq : changed.pipeline = node.pipeline) (carries : changed.channel.Carries)
    (crews_eq : changed.producer = node.producer ∧
      changed.consumer = node.consumer) : changed.Direct cache where
  toMirrors := direct.toMirrors.of_frame frame_eq pipeline_eq carries
  producer_eq := crews_eq.1.trans direct.producer_eq
  consumer_eq := crews_eq.2.trans direct.consumer_eq

namespace Cluster

variable {cluster after : Cluster} {cache : String}

/-- Nodes that work on the calling thread, all of them subscribed to the hub. -/
structure Mirroring (cluster : Cluster) (cache : String) : Prop where
  direct : ∀ {index : Nat} {node : Node}, cluster.node? index = some node → node.Direct cache
  subscribed : ∀ {index : Nat} {node : Node}, cluster.node? index = some node →
    (.node index, .node index) ∈ cluster.hub.subscriptions

/-- Any two nodes that hold a key hold the same. -/
def Agrees (cluster : Cluster) (cache key : String) : Prop :=
  ∀ {first second : Nat} {one other : Node} {value found : Value},
    cluster.node? first = some one → cluster.node? second = some other →
      one.core.held cache key = some value → other.core.held cache key = some found →
        value = found

/-- A node holds, of each key that an event concerns, the new value or none. -/
def Settled (cluster : Cluster) (cache : String) (event : Event) (index : Nat) : Prop :=
  ∀ node, cluster.node? index = some node → ∀ key, event.Concerns key →
    node.core.held cache key = none ∨ node.core.held cache key = event.new

theorem agrees_of_settled {event : Event} (settled : ∀ index, cluster.Settled cache event index)
    {key : String} (concerned : event.Concerns key) : cluster.Agrees cache key := by
  intro first second one other value found here there held heldThere
  rcases settled first one here key concerned with gone | new
  · rw [gone] at held
    cases held
  · rcases settled second other there key concerned with gone | newThere
    · rw [gone] at heldThere
      cases heldThere
    · rw [new] at held
      rw [newThere, held] at heldThere
      exact Option.some.inj heldThere

/-! ## Steps that leave the contents -/

/-- Every node is as it was, but for what plays no part in replication, and the keys of a cache
that pass a test hold what they held. -/
structure Keeps (after cluster : Cluster) (cache : String) (kept : String → Prop) : Prop where
  nodes : ∀ {index : Nat} {changed : Node}, after.node? index = some changed →
    ∃ node, cluster.node? index = some node ∧ (node.Direct cache → changed.Direct cache) ∧
      ∀ key, kept key → changed.core.held cache key = node.core.held cache key
  length_eq : after.nodes.length = cluster.nodes.length
  hub_eq : after.hub = cluster.hub

namespace Keeps

variable {kept : String → Prop}

theorem mirroring (keeps : after.Keeps cluster cache kept) (mirroring : cluster.Mirroring cache) :
    after.Mirroring cache where
  direct found := by
    obtain ⟨node, before, direct, _⟩ := keeps.nodes found
    exact direct (mirroring.direct before)
  subscribed found := by
    obtain ⟨node, before, _⟩ := keeps.nodes found
    rw [keeps.hub_eq]
    exact mirroring.subscribed before

theorem agrees (keeps : after.Keeps cluster cache kept) {key : String} (same : kept key)
    (agrees : cluster.Agrees cache key) : after.Agrees cache key := by
  intro first second one other value found here there held alsoHeld
  obtain ⟨node, before, _, contents⟩ := keeps.nodes here
  obtain ⟨node', before', _, contents'⟩ := keeps.nodes there
  rw [contents key same] at held
  rw [contents' key same] at alsoHeld
  exact agrees before before' held alsoHeld

theorem settled (keeps : after.Keeps cluster cache fun _ => True) {event : Event} {index : Nat}
    (settled : cluster.Settled cache event index) : after.Settled cache event index := by
  intro changed found key concerned
  obtain ⟨node, before, _, contents⟩ := keeps.nodes found
  rw [contents key trivial]
  exact settled node before key concerned

theorem refl (cluster : Cluster) (cache : String) (kept : String → Prop) :
    cluster.Keeps cluster cache kept :=
  ⟨fun found => ⟨_, found, id, fun _ _ => rfl⟩, rfl, rfl⟩

theorem of_node {index : Nat} {node changed : Node} (found : cluster.node? index = some node)
    (nodes_eq : after.nodes = cluster.nodes.set index changed)
    (hub_eq : after.hub = cluster.hub) (direct : node.Direct cache → changed.Direct cache)
    (same : ∀ key, kept key → changed.core.held cache key = node.core.held cache key) :
    after.Keeps cluster cache kept where
  nodes := by
    intro other changed' held
    rw [node?_of_set found nodes_eq] at held
    split at held
    next this =>
      subst this
      injection held with this
      subst this
      exact ⟨node, found, direct, same⟩
    next => exact ⟨changed', held, id, fun _ _ => rfl⟩
  length_eq := by simp [nodes_eq]
  hub_eq := hub_eq

theorem setNode {index : Nat} {node changed : Node} (found : cluster.node? index = some node)
    (same : changed.core.held cache = node.core.held cache)
    (direct : node.Direct cache → changed.Direct cache) :
    (cluster.setNode index changed).Keeps cluster cache kept :=
  of_node found rfl rfl direct fun key _ => congrFun same key

end Keeps

/-! ## An operation under way -/

/-- The tasks of a call whose event is on its way to the nodes. -/
inductive Stage (cluster : Cluster) (cache : String) (event : Event) (sender : Nat) :
    List Task → Prop where
  | hear : cluster.Settled cache event sender →
      Stage cluster cache event sender [.hear sender event]
  | encode {config : CacheConfig} : cluster.Settled cache event sender →
      config.policy = .replicated →
      Stage cluster cache event sender [.send sender (.ofJob ⟨config, event⟩)]
  | call {config : CacheConfig} {message : Message} : cluster.Settled cache event sender →
      message.body = Wire.encode event true →
      Stage cluster cache event sender [.send sender (.calling ⟨config, event⟩ message)]
  | spread {config : CacheConfig} {message : Message} {left : List Member} {waited : Bool} :
      message.body = Wire.encode event true →
      (∀ index, .node index ∉ left → cluster.Settled cache event index) →
      Stage cluster cache event sender
        [.send sender (.spreading ⟨config, event⟩ ⟨message, left, waited⟩)]
  | done : (∀ index, cluster.Settled cache event index) → Stage cluster cache event sender []

/-- The event of an operation, and all that is left to do about it. -/
structure Passing (cluster : Cluster) (cache : String) (event : Event) (sender : Nat)
    (tasks : List Task) : Prop where
  fit : event.Sendable cache
  present : sender < cluster.nodes.length
  stage : cluster.Stage cache event sender tasks

theorem Stage.keeps {event : Event} {sender : Nat} {tasks : List Task}
    (stage : cluster.Stage cache event sender tasks)
    (keeps : after.Keeps cluster cache fun _ => True) : after.Stage cache event sender tasks := by
  cases stage with
  | hear settled => exact .hear (keeps.settled settled)
  | encode settled replicated => exact .encode (keeps.settled settled) replicated
  | call settled body => exact .call (keeps.settled settled) body
  | spread body settled =>
      exact .spread body fun index absent => keeps.settled (settled index absent)
  | done settled => exact .done fun index => keeps.settled (settled index)

theorem Passing.keeps {event : Event} {sender : Nat} {tasks : List Task}
    (passing : cluster.Passing cache event sender tasks)
    (keeps : after.Keeps cluster cache fun _ => True) :
    after.Passing cache event sender tasks := by
  refine ⟨passing.fit, ?_, passing.stage.keeps keeps⟩
  rw [keeps.length_eq]
  exact passing.present

/-- A node settles an event by handling its message, and changes nothing else. -/
theorem Mirroring.receive (mirroring : cluster.Mirroring cache) {event : Event}
    (fit : event.Sendable cache) {target : Nat} {node : Node}
    (found : cluster.node? target = some node) :
    (node.core.receive (Wire.encode event true) cluster.clock).crashed = false ∧
      ∀ after, after = cluster.setNode target
          { node with core := (node.core.receive (Wire.encode event true) cluster.clock).core } →
        after.Keeps cluster cache (fun key => ¬ event.Concerns key) ∧
          ∀ index, index = target ∨ cluster.Settled cache event index →
            after.Settled cache event index := by
  obtain ⟨crashed_eq, frame_eq, contents⟩ :=
    fit.receive (mirroring.direct found).mirrors cluster.clock
  refine ⟨crashed_eq, ?_⟩
  rintro after rfl
  constructor
  · refine Keeps.of_node found rfl rfl ?_ ?_
    · exact fun direct => direct.of_frame frame_eq rfl direct.carries ⟨rfl, rfl⟩
    · intro key untouched
      rw [contents]
      exact Guard.applied_delivered_of_not_concerns untouched _
  · intro index which changed held key concerned
    rw [node?_setNode found] at held
    split at held
    next same =>
      injection held with this
      subst this
      rw [contents]
      exact Guard.applied_delivered_of_concerns concerned _
    next different => exact which.resolve_left different changed held key concerned

/-- Every member takes a message at once, and a node has then settled its event. -/
theorem Mirroring.deliver (mirroring : cluster.Mirroring cache) {event : Event}
    (fit : event.Sendable cache) {message : Message} (body : message.body = Wire.encode event true)
    (target : Member) (waited : Bool) :
    ∃ after, cluster.deliver target message waited = .done after ∧
      after.calls = cluster.calls ∧
        after.Keeps cluster cache (fun key => ¬ event.Concerns key) ∧
          ∀ index, target = .node index ∨ cluster.Settled cache event index →
            after.Settled cache event index := by
  cases target with
  | observer =>
      refine ⟨_, deliver_observer message waited, rfl,
        ⟨(Keeps.refl cluster cache _).nodes, rfl, rfl⟩, ?_⟩
      rintro index (this | settled)
      · cases this
      · exact settled
  | outsider =>
      refine ⟨_, deliver_outsider message waited, rfl, Keeps.refl cluster cache _, ?_⟩
      rintro index (this | settled)
      · cases this
      · exact settled
  | node target =>
      cases found : cluster.node? target with
      | none =>
          refine ⟨_, deliver_missing found message waited, rfl, Keeps.refl cluster cache _, ?_⟩
          rintro index (this | settled)
          · injection this with this
            subst this
            intro node held
            rw [found] at held
            cases held
          · exact settled
      | some node =>
          obtain ⟨crashless, received⟩ := mirroring.receive fit found
          rw [← body] at crashless received
          obtain ⟨keeps, settles⟩ := received _ rfl
          refine ⟨_, deliver_direct found (mirroring.direct found).consumer_eq message waited
            crashless, rfl, keeps, ?_⟩
          rintro index (this | settled)
          · injection this with this
            exact settles index (Or.inl this.symm)
          · exact settles index (Or.inr settled)

/-- A step of a call that has an event on its way.  The event stays on its way until all nodes have
settled it, and fewer steps are left. -/
structure Advance (cluster : Cluster) (cache : String) (event : Event) (sender : Nat)
    (caller : Caller) (task : Task) (rest : List Task) (middle : Cluster)
    (tasks : List Task) : Prop where
  moved : cluster.taskStep caller task rest = some (middle, caller.goOn tasks)
  calls_eq : middle.calls = cluster.calls
  keeps : middle.Keeps cluster cache fun key => ¬ event.Concerns key
  stage : middle.Stage cache event sender tasks
  less : middle.stepsLeft tasks < cluster.stepsLeft (task :: rest)

section Advances

variable {event : Event} {sender : Nat} {node : Node}

theorem Advance.of_hear (mirroring : cluster.Mirroring cache) (fit : event.Sendable cache)
    (found : cluster.node? sender = some node) (settled : cluster.Settled cache event sender)
    (caller : Caller) :
    ∃ middle tasks, cluster.Advance cache event sender caller (.hear sender event) []
      middle tasks := by
  have direct := mirroring.direct found
  obtain ⟨config, replicated, steps⟩ :=
    hearStep_eq found direct.toMirrors fit.of fit.made caller []
  simp only [produceTask, direct.producer_eq] at steps
  have keeps : ∀ kept, (cluster.setNode sender node).Keeps cluster cache kept :=
    fun kept => Keeps.setNode found rfl id
  exact ⟨_, _, steps, rfl, keeps _, .encode ((keeps _).settled settled) replicated,
    Nat.lt_succ_self _⟩

theorem Advance.of_encode (mirroring : cluster.Mirroring cache)
    (found : cluster.node? sender = some node) (settled : cluster.Settled cache event sender)
    {config : CacheConfig} (replicated : config.policy = .replicated) (caller : Caller) :
    ∃ middle tasks, cluster.Advance cache event sender caller
      (.send sender (.ofJob ⟨config, event⟩)) [] middle tasks := by
  obtain ⟨_, replicates, _⟩ := (mirroring.direct found).mirrors
  have steps := sendStep_encoding found ⟨config, event⟩
    (Core.encode_of_replicated replicates.plain replicated event)
  exact ⟨_, _, taskStep_of_moved steps caller [], rfl, Keeps.refl cluster cache _,
    .call settled rfl, Nat.lt_succ_self _⟩

theorem Advance.of_call (mirroring : cluster.Mirroring cache)
    (found : cluster.node? sender = some node) (settled : cluster.Settled cache event sender)
    (config : CacheConfig) {message : Message} (body : message.body = Wire.encode event true)
    (caller : Caller) :
    ∃ middle tasks, cluster.Advance cache event sender caller
      (.send sender (.calling ⟨config, event⟩ message)) [] middle tasks := by
  have direct := mirroring.direct found
  have steps := sendStep_calling found direct.carries ⟨config, event⟩ message
  have keeps : ∀ kept, (cluster.setNode sender (node.log .send)).Keeps cluster cache kept :=
    fun kept => Keeps.setNode found rfl fun direct =>
      direct.of_frame rfl rfl (direct.carries.log .send) ⟨rfl, rfl⟩
  refine ⟨_, _, taskStep_of_moved steps caller [], rfl, keeps _, .spread body ?_,
    Nat.lt_succ_self _⟩
  · -- All nodes but the sender are targets.
    intro index absent
    refine (keeps _).settled ?_
    by_cases same : index = sender
    · rw [same]
      exact settled
    · intro other held
      refine absurd ?_ absent
      simp only [Hub.targets, List.mem_map, List.mem_filter]
      exact ⟨_, ⟨mirroring.subscribed held, by simpa using same⟩, rfl⟩

theorem Advance.of_spread_nil (found : cluster.node? sender = some node) (config : CacheConfig)
    (message : Message) (waited : Bool) (settled : ∀ index, cluster.Settled cache event index)
    (caller : Caller) :
    ∃ middle tasks, cluster.Advance cache event sender caller
      (.send sender (.spreading ⟨config, event⟩ ⟨message, [], waited⟩)) [] middle tasks := by
  have steps := sendStep_spreading_nil found ⟨config, event⟩ message waited
  have keeps : ∀ kept,
      (cluster.setNode sender (sentNode node ⟨config, event⟩)).Keeps cluster cache kept :=
    fun kept => Keeps.setNode found rfl fun direct =>
      direct.of_frame rfl rfl direct.carries.countSent ⟨rfl, rfl⟩
  exact ⟨_, _, taskStep_of_done steps caller [], rfl, keeps _,
    .done fun index => (keeps _).settled (settled index), Nat.lt_succ_self _⟩

theorem Advance.of_spread_cons (mirroring : cluster.Mirroring cache) (fit : event.Sendable cache)
    (found : cluster.node? sender = some node) (config : CacheConfig) {message : Message}
    (body : message.body = Wire.encode event true) {target : Member} {left : List Member}
    (waited : Bool)
    (settled : ∀ index, .node index ∉ target :: left → cluster.Settled cache event index)
    (caller : Caller) :
    ∃ middle tasks, cluster.Advance cache event sender caller
      (.send sender (.spreading ⟨config, event⟩ ⟨message, target :: left, waited⟩)) []
      middle tasks := by
  obtain ⟨middle, delivered, calls_eq, keeps, settles⟩ :=
    mirroring.deliver fit body target waited
  have steps := sendStep_spreading_cons found ⟨config, event⟩ message target left waited delivered
  refine ⟨_, _, taskStep_of_moved steps caller [], calls_eq, keeps, .spread body ?_,
    Nat.lt_succ_self _⟩
  · intro index absent
    by_cases here : target = .node index
    · exact settles index (Or.inl here)
    · refine settles index (Or.inr (settled index ?_))
      intro member
      rcases List.mem_cons.1 member with same | later
      · exact here same.symm
      · exact absent later

theorem Passing.step {task : Task} {rest : List Task} (mirroring : cluster.Mirroring cache)
    (passing : cluster.Passing cache event sender (task :: rest)) (caller : Caller) :
    ∃ middle tasks, cluster.Advance cache event sender caller task rest middle tasks := by
  obtain ⟨fit, present, stage⟩ := passing
  have found : cluster.node? sender = some cluster.nodes[sender] :=
    List.getElem?_eq_getElem present
  cases stage with
  | hear settled => exact Advance.of_hear mirroring fit found settled caller
  | encode settled replicated => exact Advance.of_encode mirroring found settled replicated caller
  | call settled body => exact Advance.of_call mirroring found settled _ body caller
  | @spread config message left waited body settled =>
      cases left with
      | nil =>
          have all : ∀ index, cluster.Settled cache event index := fun index =>
            settled index (by simp)
          exact Advance.of_spread_nil found config message waited all caller
      | cons target left =>
          exact Advance.of_spread_cons mirroring fit found config body waited settled caller

theorem Advance.passing {caller : Caller} {task : Task} {rest tasks : List Task}
    {middle : Cluster} (advance : cluster.Advance cache event sender caller task rest middle tasks)
    (passing : cluster.Passing cache event sender (task :: rest)) :
    middle.Passing cache event sender tasks := by
  refine ⟨passing.fit, ?_, advance.stage⟩
  rw [advance.keeps.length_eq]
  exact passing.present

end Advances

/-! ## Runs -/

/-- All nodes agree on the keys that are settled, but for those that an event on its way
concerns. -/
structure Coherent (cluster : Cluster) (cache : String) (settled : String → Prop) : Prop where
  mirroring : cluster.Mirroring cache
  progress : ∃ ticket tasks, cluster.Busy ticket tasks ∧
    ((tasks = [] ∧ ∀ key, settled key → cluster.Agrees cache key) ∨
      ∃ event sender, cluster.Passing cache event sender tasks ∧
        ∀ key, settled key → ¬ event.Concerns key → cluster.Agrees cache key)

namespace Coherent

variable {settled : String → Prop}

theorem numbered (coherent : cluster.Coherent cache settled) : cluster.Numbered := by
  obtain ⟨_, _, busy, _⟩ := coherent.progress
  exact busy.numbered

/-- When no call is under way, all nodes agree on the settled keys. -/
theorem agrees (coherent : cluster.Coherent cache settled) (idle : cluster.Idle) {key : String}
    (known : settled key) : cluster.Agrees cache key := by
  obtain ⟨ticket, tasks, busy, progress⟩ := coherent.progress
  rcases progress with ⟨_, agrees⟩ | ⟨event, sender, passing, agrees⟩
  · exact agrees key known
  · by_cases concerned : event.Concerns key
    · have stage := passing.stage
      rw [busy.tasks_eq_nil idle] at stage
      cases stage with
      | done all => exact agrees_of_settled all concerned
    · exact agrees key known concerned

theorem keeps (coherent : cluster.Coherent cache settled)
    (keeps : after.Keeps cluster cache fun _ => True) (calls_eq : after.calls = cluster.calls) :
    after.Coherent cache settled where
  mirroring := keeps.mirroring coherent.mirroring
  progress := by
    obtain ⟨ticket, tasks, busy, progress⟩ := coherent.progress
    refine ⟨ticket, tasks, busy.of_calls calls_eq, ?_⟩
    rcases progress with ⟨done, agrees⟩ | ⟨event, sender, passing, agrees⟩
    · exact Or.inl ⟨done, fun key known => keeps.agrees trivial (agrees key known)⟩
    · exact Or.inr ⟨event, sender, passing.keeps keeps, fun key known untouched =>
        keeps.agrees trivial (agrees key known untouched)⟩

theorem pass (coherent : cluster.Coherent cache settled) (nanos : Nat) :
    (cluster.pass nanos).Coherent cache settled :=
  coherent.keeps ⟨(Keeps.refl cluster cache _).nodes, rfl, rfl⟩ rfl

theorem callerStep (coherent : cluster.Coherent cache settled) {stepping : Nat}
    (stepped : cluster.callerStep? stepping = some after) : after.Coherent cache settled := by
  obtain ⟨ticket, tasks, busy, progress⟩ := coherent.progress
  obtain ⟨task, rest, caller, middle, changed, shape, ticket_eq, moved, rfl⟩ :=
    busy.of_callerStep? stepped
  subst shape
  rcases progress with ⟨done, _⟩ | ⟨event, sender, passing, agrees⟩
  · cases done
  · obtain ⟨middle', tasks, advance⟩ := passing.step coherent.mirroring caller
    have ends := moved.symm.trans advance.moved
    simp only [Option.some.injEq, Prod.mk.injEq] at ends
    obtain ⟨rfl, rfl⟩ := ends
    have same : (middle.setCaller (caller.goOn tasks)).Keeps middle cache fun _ => True :=
      ⟨(Keeps.refl middle cache _).nodes, rfl, rfl⟩
    refine ⟨same.mirroring (advance.keeps.mirroring coherent.mirroring), ticket, tasks,
      busy.setCaller (by simp) advance.calls_eq ticket_eq, Or.inr ⟨event, sender, ?_, ?_⟩⟩
    · exact (advance.passing passing).keeps same
    · intro key known untouched
      exact same.agrees trivial (advance.keeps.agrees untouched (agrees key known untouched))

theorem cleanerStep (coherent : cluster.Coherent cache settled) {index : Nat}
    (stepped : cluster.cleanerStep? index = some after) : after.Coherent cache settled := by
  obtain ⟨node, _, expiration, rest, found, _, rfl⟩ := of_cleanerStep? stepped
  refine coherent.keeps (Keeps.of_node found rfl rfl ?_ fun _ _ => rfl) rfl
  exact fun direct => direct.of_frame rfl rfl direct.carries ⟨rfl, rfl⟩

/-- Nobody but callers and cleaners takes steps here, and no step breaks coherence. -/
theorem step (coherent : cluster.Coherent cache settled) {thread : Thread}
    (stepped : cluster.step? thread = some after) : after.Coherent cache settled := by
  obtain ⟨middle, acted, rfl⟩ := Option.map_eq_some_iff.1 stepped
  refine pass ?_ stepTime
  cases thread with
  | caller ticket => exact coherent.callerStep acted
  | cleaner index => exact coherent.cleanerStep acted
  | producerWorker index stripe =>
      simp only [act?, producerStep?_of_direct index stripe fun node found =>
        (coherent.mirroring.direct found).producer_eq, reduceCtorEq] at acted
  | consumerWorker index stripe =>
      simp only [act?, consumerStep?_of_direct index stripe fun node found =>
        (coherent.mirroring.direct found).consumer_eq, reduceCtorEq] at acted

/-- An operation settles the keys that its event concerns. -/
theorem ask (coherent : cluster.Coherent cache settled) (idle : cluster.Idle) {index : Nat}
    {guarded : Bool} {call : StoreCall} {ticket : Nat} (made : call.origin = .localNode)
    (asked : cluster.request? (.operate index cache guarded call) = some (after, ticket))
    (fit : ∀ event ∈ cluster.emitted index cache call,
      event.isPortable = true ∧ event.time.InCalendar) :
    after.Coherent cache fun key =>
      settled key ∨ ∃ event ∈ cluster.emitted index cache call, event.Concerns key := by
  obtain ⟨node, operated, found, operates, nodes_eq, hub_eq, reply, calls_eq⟩ :=
    of_request? asked
  have direct := coherent.mirroring.direct found
  obtain ⟨config, replicates, _⟩ := direct.mirrors
  obtain ⟨performed, performs, follows⟩ :=
    Core.operate_follows replicates direct.hears guarded call (cluster.pass stepTime).clock
  obtain rfl : performed = operated := Option.some.inj (performs.symm.trans operates)
  have emitted_eq : cluster.emitted index cache call = performed.heard := by
    rw [follows.heard_eq, emitted, found]
  have stays : node.Direct cache → ({ node with core := performed.core } : Node).Direct cache :=
    fun direct => direct.of_frame follows.frame_eq rfl direct.carries ⟨rfl, rfl⟩
  have busy := idle.busy coherent.numbered calls_eq
  rw [emitted_eq] at fit ⊢
  rcases follows.told with ⟨silent, same⟩ | ⟨event, heard, of, _, origin, _, tells⟩
  · have keeps : after.Keeps cluster cache fun _ => True :=
      Keeps.of_node found nodes_eq hub_eq stays fun key _ => congrFun same key
    rw [silent] at busy ⊢
    refine ⟨keeps.mirroring coherent.mirroring, _, _, busy, Or.inl ⟨rfl, ?_⟩⟩
    rintro key (known | ⟨_, member, _⟩)
    · exact keeps.agrees trivial (coherent.agrees idle known)
    · cases member
  · have keeps : after.Keeps cluster cache fun key => ¬ event.Concerns key :=
      Keeps.of_node found nodes_eq hub_eq stays fun key untouched =>
        tells.after_of_not_concerns untouched
    rw [heard] at busy fit ⊢
    obtain ⟨portable, dated⟩ := fit event (by simp)
    obtain ⟨inRange, _⟩ := List.getElem?_eq_some_iff.1 found
    refine ⟨keeps.mirroring coherent.mirroring, _, _, busy, Or.inr ⟨event, index, ?_, ?_⟩⟩
    · refine ⟨⟨of, origin.trans made, portable, dated⟩, ?_, .hear ?_⟩
      · rw [keeps.length_eq]
        exact inRange
      · intro changed held key concerned
        rw [node?_of_set found nodes_eq, if_pos rfl] at held
        injection held with this
        subst this
        exact Or.inr (tells.after_of_concerns concerned)
    · rintro key (known | ⟨other, member, concerned⟩) untouched
      · exact keeps.agrees untouched (coherent.agrees idle known)
      · rw [List.mem_singleton.1 member] at concerned
        exact absurd concerned untouched

theorem mono {fewer : String → Prop} (coherent : cluster.Coherent cache settled)
    (included : ∀ key, fewer key → settled key) : cluster.Coherent cache fewer where
  mirroring := coherent.mirroring
  progress := by
    obtain ⟨ticket, tasks, busy, progress⟩ := coherent.progress
    refine ⟨ticket, tasks, busy, ?_⟩
    rcases progress with ⟨done, agrees⟩ | ⟨event, sender, passing, agrees⟩
    · exact Or.inl ⟨done, fun key known => agrees key (included key known)⟩
    · exact Or.inr ⟨event, sender, passing, fun key known => agrees key (included key known)⟩

end Coherent

/-- The call under way comes to its end by steps of its own. -/
theorem Passing.finishes (permits : Nat → StoreCall → Prop) {event : Event} {sender : Nat} :
    ∀ (bound : Nat) {cluster : Cluster} {ticket : Nat} {tasks : List Task},
      cluster.Mirroring cache → cluster.Busy ticket tasks →
        cluster.Passing cache event sender tasks → cluster.stepsLeft tasks < bound →
          ∃ final, Run cache permits cluster [] final ∧ final.Idle := by
  intro bound
  induction bound with
  | zero =>
      intro cluster ticket tasks _ _ _ enough
      cases enough
  | succ bound inductionHypothesis =>
      intro cluster ticket tasks mirroring busy passing enough
      cases tasks with
      | nil => exact ⟨cluster, .refl, busy.idle⟩
      | cons task rest =>
          obtain ⟨caller, ticket_eq, stepped⟩ := busy.callerStep?_eq
          obtain ⟨middle, tasks, advance⟩ := passing.step mirroring caller
          rw [advance.moved] at stepped
          have set : (middle.setCaller (caller.goOn tasks)).Busy ticket tasks :=
            busy.setCaller (by simp) advance.calls_eq ticket_eq
          have same : ((middle.setCaller (caller.goOn tasks)).pass stepTime).Keeps middle cache
              fun _ => True :=
            ⟨(Keeps.refl middle cache _).nodes, rfl, rfl⟩
          obtain ⟨final, run, idle⟩ := inductionHypothesis
            (same.mirroring (advance.keeps.mirroring mirroring)) (set.of_calls rfl)
            ((advance.passing passing).keeps same)
            (Nat.lt_of_lt_of_le advance.less (Nat.le_of_lt_succ enough))
          have first : cluster.step? (.caller ticket) =
              some ((middle.setCaller (caller.goOn tasks)).pass stepTime) := by
            simp only [step?, act?, stepped, Option.map_some]
          exact ⟨final, (Run.step .refl first).trans run, idle⟩

variable {start : Cluster} {events : List Event}

theorem Run.coherent (run : Run cache (fun _ call => call.origin = .localNode) start events after)
    (mirroring : start.Mirroring cache) (idle : start.Idle) (numbered : start.Numbered)
    (fit : ∀ event ∈ events, event.isPortable = true ∧ event.time.InCalendar) :
    after.Coherent cache fun key =>
      start.Agrees cache key ∨ ∃ event ∈ events, event.Concerns key := by
  induction run with
  | refl =>
      refine ⟨mirroring, 0, [], Busy.of_idle idle numbered 0, Or.inl ⟨rfl, ?_⟩⟩
      rintro key (known | ⟨_, member, _⟩)
      · exact known
      · cases member
  | @ask before middle after index guarded call ticket _ rest made asked inductionHypothesis =>
      have coherent := inductionHypothesis fun event member =>
        fit event (List.mem_append_left _ member)
      refine (coherent.ask rest made asked fun event member =>
        fit event (List.mem_append_right _ member)).mono ?_
      rintro key (known | ⟨event, member, concerned⟩)
      · exact Or.inl (Or.inl known)
      · rcases List.mem_append.1 member with early | late
        · exact Or.inl (Or.inr ⟨event, early, concerned⟩)
        · exact Or.inr ⟨event, late, concerned⟩
  | step _ stepped inductionHypothesis => exact (inductionHypothesis fit).step stepped
  | wait nanos _ inductionHypothesis => exact (inductionHypothesis fit).pass nanos

/-- Every operation comes to its end, and whenever none is under way, any two nodes that hold a key
hold the same, if they did so at the start or an event has concerned the key since. -/
theorem agrees_of_run
    (run : Run cache (fun _ call => call.origin = .localNode) start events after)
    (mirroring : start.Mirroring cache) (idle : start.Idle) (numbered : start.Numbered)
    (fit : ∀ event ∈ events, event.isPortable = true ∧ event.time.InCalendar) :
    (∃ final, Run cache (fun _ call => call.origin = .localNode) after [] final ∧ final.Idle) ∧
      (after.Idle → ∀ key,
        start.Agrees cache key ∨ (∃ event ∈ events, event.Concerns key) →
          after.Agrees cache key) := by
  have coherent := run.coherent mirroring idle numbered fit
  refine ⟨?_, fun rest key settled => coherent.agrees rest settled⟩
  obtain ⟨ticket, tasks, busy, ⟨rfl, _⟩ | ⟨event, sender, passing, _⟩⟩ := coherent.progress
  · exact ⟨after, .refl, busy.idle⟩
  · exact passing.finishes _ _ coherent.mirroring busy (Nat.lt_succ_self _)

/-- Two nodes and an observer on a hub. -/
def pair : Cluster :=
  { ofNodes [.sample "first", .sample "second"] ⟨0, 0⟩ with
    hub := ((Hub.empty.subscribe .observer .observer).subscribe (.node 0) (.node 0)).subscribe
      (.node 1) (.node 1) }

theorem eq_sample_of_pair {index : Nat} {node : Node} (found : pair.node? index = some node) :
    ∃ name, node = .sample name := by
  rcases index with _ | _ | index
  · injection found with same
    exact ⟨_, same.symm⟩
  · injection found with same
    exact ⟨_, same.symm⟩
  · cases found

theorem pair_mirroring : pair.Mirroring "users" := by
  constructor
  · intro index node found
    obtain ⟨name, rfl⟩ := eq_sample_of_pair found
    exact ⟨Node.sample_mirrors name, rfl, rfl⟩
  · intro index node found
    rcases index with _ | _ | index
    · simp [pair, Hub.subscribe, Hub.empty]
    · simp [pair, Hub.subscribe, Hub.empty]
    · cases found

/-- One node puts a value, and the other takes it over. -/
theorem agrees_of_run_pair : ∃ events after,
    Run "users" (fun _ call => call.origin = .localNode) pair events after ∧
      (∃ event ∈ events, event.Concerns "ada") ∧ after.Idle ∧
      (after.nodes.map fun node =>
        (node.core.held "users" "ada").map (·.same (.text "countess"))) = [some true, some true] ∧
      (∃ final, Run "users" (fun _ call => call.origin = .localNode) after [] final ∧
        final.Idle) ∧
        (after.Idle → ∀ key,
          pair.Agrees "users" key ∨ (∃ event ∈ events, event.Concerns key) →
            after.Agrees "users" key) := by
  have idle : pair.Idle := idle_of_callers rfl
  have numbered : pair.Numbered := numbered_of_callers rfl
  obtain ⟨after, carried, ended⟩ := (Option.any_eq_true _ _).1 (show
    (((pair.request? (.operate 0 "users" true (.put "ada" (.text "countess") .localNode))).bind
      fun begun => begun.1.follow? (List.replicate 6 (.caller begun.2))).any fun after =>
        after.callers.all (·.tasks.isEmpty) && decide ((after.nodes.map fun node =>
          (node.core.held "users" "ada").map (·.same (.text "countess"))) =
            [some true, some true])) = true
    by decide +kernel)
  simp only [Bool.and_eq_true, List.all_eq_true, List.isEmpty_iff, decide_eq_true_eq] at ended
  obtain ⟨rest, taken⟩ := ended
  obtain ⟨⟨begun, ticket⟩, asked, followed⟩ := Option.bind_eq_some_iff.1 carried
  have start : Run "users" (fun _ call => call.origin = .localNode) pair [] pair := .refl
  have run := (start.ask idle rfl asked).follow _ followed
  exact ⟨_, after, run, by decide +kernel, rest, taken,
    agrees_of_run run pair_mirroring idle numbered (by decide +kernel)⟩

end Cluster

end CacheSync
