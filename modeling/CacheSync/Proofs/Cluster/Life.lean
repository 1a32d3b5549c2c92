import CacheSync.Proofs.Cluster.Passage

/-!
# The life of a node in a cluster

Over every course the life of a node only moves forward: from created to started to stopped.  What
belongs to a started node, its pipeline and its subscription on the hub, comes and goes with that
stage, unless somebody else closes its channel.  A request that fails leaves no trace of itself,
and a node that is not started takes nothing in.
-/

namespace CacheSync

/-- How far a node has come in its life. -/
def Lifecycle.age : Lifecycle → Nat
  | .created => 0
  | .started => 1
  | .stopped => 2

/-- A node that was just made. -/
structure Node.Fresh (node : Node) : Prop where
  new_eq : node = .new node.name node.core node.channel node.cachesHealth
  created : node.core.lifecycle = .created

theorem Node.fresh_of_build {name : String} {config : BusConfig} {codec : Codec}
    {channel : Option Channel} {caches : Option (CacheShelf × ComponentHealth)} {node : Node}
    (built : Node.build name config codec channel caches = .ok node) : node.Fresh := by
  unfold Node.build at built
  split at built
  · cases built
  · cases built
  · injection built with same
    subst same
    exact ⟨rfl, rfl⟩

namespace Cluster

variable {nodes : List Node} {clock : Clock} {cluster after : Cluster} {index : Nat}
  {origin node later : Node} {deeds : List Deed} {deed : Deed}

theorem orderly_ofNodes (nodes : List Node) (clock : Clock) : (ofNodes nodes clock).Orderly :=
  orderly_of_callers rfl

/-- The invariant of a node that was `origin` before the course. -/
structure Lives (origin : Node) (deeds : List Deed) (index : Nat) (cluster : Cluster)
    (node : Node) : Prop where
  config_eq : node.core.config = origin.core.config
  cachesHealth_eq : node.cachesHealth = origin.cachesHealth
  faults_eq : node.channel.faults = origin.channel.faults
  balanced : ∀ side,
    node.ledger.unrecoverable.get side + origin.core.meter.count (.recoveryFailed side) =
      origin.ledger.unrecoverable.get side + node.core.meter.count (.recoveryFailed side)
  running_iff : node.pipeline = .running ↔ node.core.lifecycle = .started
  subscribed_le : cluster.subscribed index ≤ 1
  of_created : node.core.lifecycle = .created →
    cluster.subscribed index = 0 ∧ (.shut index ∈ deeds → node.channel.closed = true)
  of_started : node.core.lifecycle = .started →
    (node.channel.closed = true ↔ .shut index ∈ deeds) ∧
      (.shut index ∉ deeds → cluster.subscribed index = 1) ∧
        (.shut index ∈ deeds → cluster.subscribed index = 0)
  of_stopping : cluster.stopping index = true → node.core.lifecycle = .stopped
  of_stopped : node.core.lifecycle = .stopped → cluster.stopping index = false →
    (node.channel.faults.get? .close ≠ some .crash → node.core.timestamps.tables = .empty) ∧
      (node.channel.faults.get? .close = none → cluster.subscribed index = 0)

theorem lives_of_fresh (fresh : node.Fresh) :
    (ofNodes nodes clock).Lives node [] index node where
  config_eq := rfl
  cachesHealth_eq := rfl
  faults_eq := rfl
  balanced _ := rfl
  running_iff := by
    rw [fresh.created, fresh.new_eq]
    simp [Node.new]
  subscribed_le := by simp [subscribed, ofNodes, Hub.empty, Hub.subscribe]
  of_created _ := by simp [subscribed, ofNodes, Hub.empty, Hub.subscribe]
  of_started started := by
    rw [fresh.created] at started
    cases started
  of_stopping stops := by cases stops
  of_stopped stopped := by
    rw [fresh.created] at stopped
    cases stopped

namespace Lives

/-- A node that is kept goes on living as it does. -/
theorem keep (lives : cluster.Lives origin deeds index node) (apart : deed ≠ .shut index)
    (keeps : node.Keeps later) (subscribed_eq : after.subscribed index = cluster.subscribed index)
    (stopping_eq : after.stopping index = cluster.stopping index) :
    after.Lives origin (deeds ++ [deed]) index later := by
  have shut_iff : .shut index ∈ deeds ++ [deed] ↔ Deed.shut index ∈ deeds := by
    simp [Ne.symm apart]
  have idle (stopped : node.core.lifecycle = .stopped) : node.core.isStarted = false := by
    simp [Core.isStarted, stopped]
  refine ⟨keeps.config_eq.trans lives.config_eq, keeps.cachesHealth_eq.trans lives.cachesHealth_eq,
    keeps.faults_eq.trans lives.faults_eq, ?_, ?_, ?_, ?_, ?_, ?_, ?_⟩
  · intro side
    have early := lives.balanced side
    have late := keeps.balanced side
    omega
  · rw [keeps.pipeline_eq, keeps.lifecycle_eq]
    exact lives.running_iff
  · rw [subscribed_eq]
    exact lives.subscribed_le
  · rw [keeps.lifecycle_eq, subscribed_eq, shut_iff, keeps.closed_eq]
    exact lives.of_created
  · rw [keeps.lifecycle_eq, subscribed_eq, shut_iff, keeps.closed_eq]
    exact lives.of_started
  · rw [keeps.lifecycle_eq, stopping_eq]
    exact lives.of_stopping
  · rw [keeps.lifecycle_eq, subscribed_eq, stopping_eq, keeps.faults_eq]
    intro stopped still
    obtain ⟨unrecorded, left⟩ := lives.of_stopped stopped still
    exact ⟨fun harmless => keeps.unrecorded (idle stopped) (unrecorded harmless), left⟩

theorem shut (lives : cluster.Lives origin deeds index node)
    (left : after.subscribed index = 0)
    (stopping_eq : after.stopping index = cluster.stopping index) :
    after.Lives origin (deeds ++ [.shut index]) index
      { node with channel := node.channel.close } := by
  refine ⟨lives.config_eq, lives.cachesHealth_eq, lives.faults_eq, lives.balanced,
    lives.running_iff, by omega, fun _ => ⟨left, fun _ => rfl⟩, fun _ => ?_, ?_, ?_⟩
  · simp [left, Channel.close]
  · rw [stopping_eq]
    exact lives.of_stopping
  · rw [stopping_eq]
    exact fun stopped still => ⟨(lives.of_stopped stopped still).1, fun _ => left⟩

theorem fail (lives : cluster.Lives origin deeds index node) {channel : Channel}
    (created : node.core.lifecycle = .created) (faults_eq : channel.faults = node.channel.faults)
    (closed : node.channel.closed = true → channel.closed = true)
    (subscribed : after.subscribed index = cluster.subscribed index ∨ after.subscribed index = 0)
    (stopping_eq : after.stopping index = cluster.stopping index) :
    after.Lives origin (deeds ++ [.ask (.start index)]) index
      { node with channel := channel } := by
  obtain ⟨unsubscribed, shut⟩ := lives.of_created created
  have still : after.subscribed index = 0 := by omega
  refine ⟨lives.config_eq, lives.cachesHealth_eq, faults_eq.trans lives.faults_eq,
    lives.balanced, lives.running_iff, by omega, fun _ => ⟨still, ?_⟩, fun started => ?_, ?_,
    fun stopped => ?_⟩
  · intro member
    simp only [List.mem_append, List.mem_singleton, reduceCtorEq, or_false] at member
    exact closed (shut member)
  · rw [created] at started
    cases started
  · rw [stopping_eq]
    exact lives.of_stopping
  · rw [created] at stopped
    cases stopped

theorem start (lives : cluster.Lives origin deeds index node) {channel : Channel}
    (producer : Crew Job Sending) (consumer : Crew (List UInt8) (List UInt8))
    (created : node.core.lifecycle = .created) (opened : node.channel.closed = false)
    (still : channel.closed = false) (faults_eq : channel.faults = node.channel.faults)
    (joined : after.subscribed index = cluster.subscribed index + 1)
    (stopping_eq : after.stopping index = cluster.stopping index) :
    after.Lives origin (deeds ++ [.ask (.start index)]) index { node with
      core := { node.core with lifecycle := .started }
      channel := channel
      pipeline := .running
      producer := producer
      consumer := consumer } := by
  obtain ⟨unsubscribed, shut⟩ := lives.of_created created
  -- A node whose channel was shut could not have been started.
  have unshut : Deed.shut index ∉ deeds ++ [.ask (.start index)] := by
    intro member
    simp only [List.mem_append, List.mem_singleton, reduceCtorEq, or_false] at member
    rw [shut member] at opened
    cases opened
  refine ⟨lives.config_eq, lives.cachesHealth_eq, faults_eq.trans lives.faults_eq,
    lives.balanced, by simp, by omega, nofun, fun _ => ?_, ?_, nofun⟩
  · simp only [still, unshut]
    simp [joined, unsubscribed]
  · rw [stopping_eq]
    intro stopping
    have stopped := lives.of_stopping stopping
    rw [created] at stopped
    cases stopped

theorem stop (lives : cluster.Lives origin deeds index node)
    (subscribed_eq : after.subscribed index = cluster.subscribed index)
    (stopping : after.stopping index = true) :
    after.Lives origin (deeds ++ [.ask (.stop index)]) index { node with
      core := { node.core with lifecycle := .stopped }
      recoveries := node.recoveries.trigger
      pipeline := .taken
      consumer := node.consumer.close } := by
  refine ⟨lives.config_eq, lives.cachesHealth_eq, lives.faults_eq, lives.balanced, by simp,
    subscribed_eq ▸ lives.subscribed_le, nofun, nofun, fun _ => rfl, fun _ still => ?_⟩
  rw [stopping] at still
  cases still

/-- What is left of the invariant once a stop is at its end. -/
theorem stopped (lives : cluster.Lives origin deeds index node) {later : Node}
    (stopping : cluster.stopping index = true)
    (lifecycle_eq : later.core.lifecycle = node.core.lifecycle)
    (config_eq : later.core.config = node.core.config)
    (cachesHealth_eq : later.cachesHealth = node.cachesHealth)
    (faults_eq : later.channel.faults = node.channel.faults)
    (ledger_eq : later.ledger = node.ledger) (meter_eq : later.core.meter = node.core.meter)
    (pipeline_eq : later.pipeline = node.pipeline)
    (subscribed_le : after.subscribed index ≤ 1)
    (ended : (later.channel.faults.get? .close ≠ some .crash →
        later.core.timestamps.tables = .empty) ∧
      (later.channel.faults.get? .close = none → after.subscribed index = 0)) :
    after.Lives origin (deeds ++ [deed]) index later := by
  have stopped : later.core.lifecycle = .stopped := lifecycle_eq.trans (lives.of_stopping stopping)
  refine ⟨config_eq.trans lives.config_eq, cachesHealth_eq.trans lives.cachesHealth_eq,
    faults_eq.trans lives.faults_eq, ?_, ?_, subscribed_le, fun other => ?_, fun other => ?_,
    fun _ => stopped, fun _ _ => ended⟩
  · rw [ledger_eq, meter_eq]
    exact lives.balanced
  · rw [pipeline_eq, lifecycle_eq]
    exact lives.running_iff
  · rw [stopped] at other
    cases other
  · rw [stopped] at other
    cases other

/-- Every passage preserves the invariant. -/
theorem passage (lives : cluster.Lives origin deeds index node)
    (passage : cluster.Passage after index node later deed) :
    after.Lives origin (deeds ++ [deed]) index later := by
  cases passage with
  | keep apart keeps subscribed_eq stopping_eq =>
      exact lives.keep (fun same => apart index same rfl) keeps subscribed_eq stopping_eq
  | shut later_eq left stopping_eq => exact later_eq ▸ lives.shut left stopping_eq
  | fail created later_eq faults_eq closed subscribed stopping_eq =>
      exact later_eq ▸ lives.fail created faults_eq closed subscribed stopping_eq
  | @start _ producer consumer created opened still faults_eq later_eq joined stopping_eq =>
      exact later_eq ▸
        lives.start producer consumer created opened still faults_eq joined stopping_eq
  | stop started later_eq subscribed_eq stopping =>
      exact later_eq ▸ lives.stop subscribed_eq stopping
  | crash stopping later_eq faults_eq closed crash subscribed_eq =>
      subst later_eq
      rw [← faults_eq] at crash
      refine lives.stopped stopping rfl rfl rfl faults_eq rfl rfl rfl
        (subscribed_eq ▸ lives.subscribed_le) ⟨absurd crash, fun sound => ?_⟩
      rw [crash] at sound
      cases sound
  | finish stopping later_eq faults_eq closed left =>
      subst later_eq
      have before := lives.subscribed_le
      refine lives.stopped stopping rfl rfl rfl faults_eq rfl rfl rfl (by omega)
        ⟨fun _ => rfl, fun sound => ?_⟩
      exact left.resolve_right fun faulty => faulty.2 (faults_eq ▸ sound)

end Lives

/-- The invariant holds over every course of nodes that were just made. -/
theorem lives_of_after? (found : nodes[index]? = some origin) (fresh : origin.Fresh)
    (went : (ofNodes nodes clock).after? deeds = some after) :
    after.Orderly ∧ ∃ now, after.node? index = some now ∧ after.Lives origin deeds index now := by
  refine after?_induction
    (motive := fun deeds after =>
      after.Orderly ∧ ∃ now, after.node? index = some now ∧ after.Lives origin deeds index now)
    ⟨orderly_ofNodes nodes clock, origin, found, lives_of_fresh fresh⟩ ?_ went
  intro deeds middle after deed _ reached did
  obtain ⟨orderly, now, here, lives⟩ := reached
  obtain ⟨still, later, there, passage⟩ := orderly.passage did here
  exact ⟨still, later, there, lives.passage passage⟩

/-! ## What a deed leaves alone -/

theorem nodes_eq_set (found : cluster.node? index = some node) :
    cluster.nodes = cluster.nodes.set index node := by
  obtain ⟨inRange, rfl⟩ := List.getElem?_eq_some_iff.1 found
  rw [List.set_getElem_self]

/-- A start or a stop that fails leaves everything but the channel of its node as it was. -/
theorem unchanged_of_failed (orderly : cluster.Orderly) (found : cluster.node? index = some node)
    (unsubscribed : node.core.lifecycle = .created → cluster.subscribed index = 0)
    {request : Request} (which : request = .start index ∨ request = .stop index) {error : BusError}
    (asked : cluster.do? (.ask request) = some after)
    (refused : Session.reply after cluster.nextTicket = .failed error) :
    ∃ channel, after.nodes = cluster.nodes.set index { node with channel := channel } ∧
      after.hub = cluster.hub := by
  obtain ⟨_, begun, began, rfl⟩ := of_ask asked
  have calls_eq := calls_of_begin? began
  have here : (cluster.pass stepTime).node? index = some node := found
  have reply_eq : begun.reply = .failed error := by
    have replied := reply_enlist (orderly.of_calls calls_eq).numbered begun.tasks begun.reply
    rw [(Prod.mk.inj calls_eq).2] at replied
    exact replied.symm.trans refused
  rcases which with rfl | rfl
  · simp only [begin?, here, Option.map_some, Option.some.injEq] at began
    have outset := node.start_outset (.node index) cluster.hub
    subst began
    unfold startNode at reply_eq ⊢
    have hub_eq : (cluster.pass stepTime).hub = cluster.hub := rfl
    rw [hub_eq] at reply_eq ⊢
    generalize node.start (.node index) cluster.hub = result at outset reply_eq
    cases outset with
    | @failed channel hub _ undone faults_eq closed same left =>
        refine ⟨channel, rfl, ?_⟩
        rcases left with stayed | ⟨created, left⟩
        · exact stayed
        · exact left.trans (leave_of_unsubscribed (unsubscribed created))
    | joined created opened still faults_eq producer_eq consumer_eq => cases reply_eq
  · simp only [begin?, here, Option.map_some, Option.some.injEq] at began
    subst began
    unfold stopNode at reply_eq ⊢
    split at reply_eq
    next refusal refused => exact ⟨node.channel, nodes_eq_set found, rfl⟩
    next => cases reply_eq

/-- A message that is handed to a node that is not started changes no node. -/
theorem nodes_of_receive (found : cluster.node? index = some node)
    (idle : node.core.lifecycle ≠ .started) {body : List UInt8}
    (asked : cluster.do? (.ask (.receive index body)) = some after) :
    after.nodes = cluster.nodes := by
  have idle : node.core.isStarted = false := by simpa [Core.isStarted] using idle
  obtain ⟨_, begun, began, rfl⟩ := of_ask asked
  have here : (cluster.pass stepTime).node? index = some node := found
  simp only [begin?, here, Option.map_some, Option.some.injEq] at began
  subst began
  simp only [handle, Core.receive_of_idle idle]
  exact (nodes_eq_set found).symm

/-- The bus of a node that is not started takes no event. -/
theorem nodes_of_hear (found : cluster.node? index = some node)
    (idle : node.core.lifecycle ≠ .started) {ticket : Nat} {caller : Caller} {event : Event}
    {rest : List Task} (held : cluster.caller? ticket = some caller)
    (shape : caller.tasks = .hear index event :: rest)
    (did : cluster.do? (.step (.caller ticket)) = some after) :
    after.nodes = cluster.nodes ∧ after.caller? ticket = some (caller.goOn rest) := by
  have idle : node.core.isStarted = false := by simpa [Core.isStarted] using idle
  obtain ⟨middle, stepped, rfl⟩ := Option.map_eq_some_iff.1 did
  simp only [act?, callerStep?, held, shape, taskStep, hearStep, found,
    Core.outbound_of_idle idle, Option.map_some, Option.some.injEq] at stepped
  subst stepped
  have there : (cluster.setNode index node).caller? ticket = some caller := held
  exact ⟨(nodes_eq_set found).symm, caller?_setCaller there (mem_of_caller? held).2⟩

/-! ## The whole life -/

/-- What can be said of a node after a course. -/
structure Living (cluster : Cluster) (deeds : List Deed) (index : Nat) (node : Node) : Prop where
  running_iff : node.pipeline = .running ↔ node.core.lifecycle = .started
  subscribed_of_started : node.core.lifecycle = .started → Deed.shut index ∉ deeds →
    cluster.subscribed index = 1
  unsubscribed : cluster.stopping index = false →
    node.core.lifecycle ≠ .started ∨ Deed.shut index ∈ deeds → cluster.subscribed index = 0
  /-- A stop that is under way still holds the subscription that it is to give up. -/
  stopping : cluster.stopping index = true →
    node.core.lifecycle = .stopped ∧ cluster.subscribed index ≤ 1
  unrecorded : node.core.lifecycle = .stopped → cluster.stopping index = false →
    node.core.timestamps.tables = .empty

/-- What can be said of a node and one more deed. -/
structure Proceeding (cluster : Cluster) (index : Nat) (node : Node) (deed : Deed) (next : Cluster)
    (later : Node) : Prop where
  forward : later.core.lifecycle.age = node.core.lifecycle.age ∨
    later.core.lifecycle.age = node.core.lifecycle.age + 1
  failed : ∀ error, deed = .ask (.start index) ∨ deed = .ask (.stop index) →
    Session.reply next cluster.nextTicket = .failed error →
      ∃ channel, later = { node with channel := channel } ∧
        next.nodes = cluster.nodes.set index later ∧ next.hub = cluster.hub
  received : node.core.lifecycle ≠ .started → ∀ body, deed = .ask (.receive index body) →
    next.nodes = cluster.nodes
  sent : node.core.lifecycle ≠ .started → ∀ event, deed = .ask (.send index event) →
    next.nodes = cluster.nodes ∧
      (next.caller? cluster.nextTicket).map Caller.tasks = some [.hear index event]
  heard : node.core.lifecycle ≠ .started → ∀ ticket caller event rest,
    deed = .step (.caller ticket) → cluster.caller? ticket = some caller →
      caller.tasks = .hear index event :: rest →
        next.nodes = cluster.nodes ∧ next.caller? ticket = some (caller.goOn rest)

theorem Lives.living (lives : cluster.Lives origin deeds index node)
    (sound : origin.channel.faults.get? .close = none) : cluster.Living deeds index node where
  running_iff := lives.running_iff
  subscribed_of_started started := (lives.of_started started).2.1
  unsubscribed still which := by
    cases stage : node.core.lifecycle with
    | created => exact (lives.of_created stage).1
    | started =>
        rcases which with other | shut
        · exact absurd stage other
        · exact (lives.of_started stage).2.2 shut
    | stopped => exact (lives.of_stopped stage still).2 (lives.faults_eq ▸ sound)
  stopping stops := ⟨lives.of_stopping stops, lives.subscribed_le⟩
  unrecorded stopped still := (lives.of_stopped stopped still).1 (by simp [lives.faults_eq, sound])

theorem Passage.forward (passage : cluster.Passage after index node later deed) :
    later.core.lifecycle.age = node.core.lifecycle.age ∨
      later.core.lifecycle.age = node.core.lifecycle.age + 1 := by
  cases passage with
  | keep apart keeps => exact Or.inl (congrArg Lifecycle.age keeps.lifecycle_eq)
  | shut later_eq => exact Or.inl (by rw [later_eq])
  | fail created later_eq => exact Or.inl (by rw [later_eq])
  | start created opened still faults_eq later_eq =>
      exact Or.inr (by rw [later_eq, created]; rfl)
  | stop started later_eq => exact Or.inr (by rw [later_eq, started]; rfl)
  | crash stopping later_eq => exact Or.inl (by rw [later_eq])
  | finish stopping later_eq => exact Or.inl (by rw [later_eq])

/-- Of a node that is made and put to use in any way, at any moment: its pipeline and its
subscription are there as long as it is started and its channel was not shut by others, nothing is
recorded once it has stopped, and every deed takes its life forward or leaves it. -/
theorem living_of_after? (found : nodes[index]? = some origin) (fresh : origin.Fresh)
    (sound : origin.channel.faults.get? .close = none)
    (went : (ofNodes nodes clock).after? deeds = some after) :
    ∃ now, after.node? index = some now ∧ after.Living deeds index now ∧
      ∀ deed next, after.do? deed = some next →
        ∃ later, next.node? index = some later ∧ after.Proceeding index now deed next later := by
  obtain ⟨orderly, now, here, lives⟩ := lives_of_after? found fresh went
  refine ⟨now, here, lives.living sound, fun deed next did => ?_⟩
  obtain ⟨_, later, there, passage⟩ := orderly.passage did here
  refine ⟨later, there, passage.forward, ?_, ?_, ?_, ?_⟩
  · intro error which refused
    have unsubscribed (created : now.core.lifecycle = .created) := (lives.of_created created).1
    have unchanged : ∃ channel, next.nodes = after.nodes.set index { now with channel := channel } ∧
        next.hub = after.hub := by
      rcases which with rfl | rfl
      · exact unchanged_of_failed orderly here unsubscribed (Or.inl rfl) did refused
      · exact unchanged_of_failed orderly here unsubscribed (Or.inr rfl) did refused
    obtain ⟨channel, nodes_eq, hub_eq⟩ := unchanged
    have changed := node?_of_set here nodes_eq index
    rw [if_pos rfl, there] at changed
    obtain rfl := Option.some.inj changed
    exact ⟨channel, rfl, nodes_eq, hub_eq⟩
  · rintro idle body rfl
    exact nodes_of_receive here idle did
  · rintro idle event rfl
    obtain ⟨_, begun, began, rfl⟩ := of_ask did
    cases began
    exact ⟨rfl, congrArg (Option.map Caller.tasks) (caller?_enlist orderly.numbered _ _)⟩
  · rintro idle ticket caller event rest rfl held shape
    exact nodes_of_hear here idle held shape did

end Cluster

/-! ## A short life -/

/-- A node that was just made, with one replicated cache. -/
def Node.novice (name : String) (producer : Dispatch) : Node :=
  .new name (.new { BusConfig.sample true with producer := producer } .plain
    (CacheShelf.empty.create "users")) .plain .up

theorem Node.novice_fresh (name : String) (producer : Dispatch) : (novice name producer).Fresh :=
  ⟨rfl, rfl⟩

namespace Cluster

/-- A node starts, sends a change of its cache, and stops. -/
def shortLife : List Deed :=
  [.turn 0 .register, .ask (.start 0),
    .ask (.operate 0 "users" false (.put "ada" (.text "countess") .localNode))] ++
  List.replicate 5 (.step (.caller 1)) ++
  [.ask (.stop 0), .step (.caller 2), .step (.caller 2)]

/-- After its short life the node holds no subscription and no record, and what comes then leaves it
as it is. -/
theorem living_of_after?_shortLife : ∃ after now,
    (ofNodes [.novice "only" .direct] ⟨0, 0⟩).after? shortLife = some after ∧
      after.node? 0 = some now ∧ now.channel.sent = 1 ∧ now.core.lifecycle = .stopped ∧
        after.Living shortLife 0 now ∧
          ∀ deed next, after.do? deed = some next →
            ∃ later, next.node? 0 = some later ∧ after.Proceeding 0 now deed next later := by
  obtain ⟨after, went, holds⟩ := (Option.any_eq_true _ _).1 (show
    ((ofNodes [.novice "only" .direct] ⟨0, 0⟩).after? shortLife).any (fun after =>
      (after.node? 0).any fun now =>
        decide (now.channel.sent = 1 ∧ now.core.lifecycle = .stopped)) = true
    by decide +kernel)
  obtain ⟨now, here, stage⟩ := (Option.any_eq_true _ _).1 holds
  obtain ⟨sent, stopped⟩ := of_decide_eq_true stage
  have placed : [Node.novice "only" .direct][0]? = some (Node.novice "only" .direct) := rfl
  obtain ⟨same, found, living⟩ :=
    living_of_after? placed (Node.novice_fresh "only" .direct) rfl went
  obtain rfl := Option.some.inj (here.symm.trans found)
  exact ⟨after, now, went, here, sent, stopped, living⟩

end Cluster
end CacheSync
