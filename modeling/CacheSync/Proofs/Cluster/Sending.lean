import CacheSync.Proofs.Cluster.Run

/-!
# Sendings over a good channel

Over a channel that takes every message a sending goes through three stages: it writes its
message, hands it to the channel, and hands it to one subscriber after another.
-/

namespace CacheSync

/-- The channel takes every message. -/
structure Channel.Carries (channel : Channel) : Prop where
  ready : channel.ready = .ok ()
  faultless : channel.faults.get? .send = none
  unscripted : channel.script = []

namespace Channel.Carries

variable {channel : Channel}

theorem log (carries : channel.Carries) (call : ChannelCall) : (channel.log call).Carries :=
  ⟨carries.ready, carries.faultless, carries.unscripted⟩

theorem countSent (carries : channel.Carries) : channel.countSent.Carries :=
  ⟨carries.ready, carries.faultless, carries.unscripted⟩

theorem nextFate (carries : channel.Carries) : channel.nextFate = (channel, .proceed) := by
  simp [Channel.nextFate, carries.faultless, carries.unscripted]

end Channel.Carries

/-- A member is among the targets of another as often as it has subscribed for itself. -/
theorem Hub.count_targets {μ : Type} [DecidableEq μ] {hub : Hub μ μ} {sender member : μ}
    (diagonal : ∀ subscription ∈ hub.subscriptions, subscription.1 = subscription.2)
    (apart : member ≠ sender) :
    (hub.targets sender).count member = hub.subscriptions.count (member, member) := by
  unfold Hub.targets
  generalize hub.subscriptions = subscriptions at diagonal
  induction subscriptions with
  | nil => rfl
  | cons subscription rest inductionHypothesis =>
      obtain ⟨one, other⟩ := subscription
      obtain rfl : one = other := diagonal (one, other) List.mem_cons_self
      have further := inductionHypothesis fun later reaches =>
        diagonal later (List.mem_cons_of_mem (one, one) reaches)
      by_cases same : one = sender
      · subst same
        rw [List.filter_cons_of_neg (by simp), further]
        simp [Ne.symm apart]
      · rw [List.filter_cons_of_pos (by simpa using same), List.map_cons, List.count_cons, further,
          List.count_cons]
        simp

/-- Nothing that a member sends goes back to it. -/
theorem Hub.not_mem_targets {μ : Type} [DecidableEq μ] {hub : Hub μ μ}
    (diagonal : ∀ subscription ∈ hub.subscriptions, subscription.1 = subscription.2)
    (sender : μ) : sender ∉ hub.targets sender := by
  intro member
  obtain ⟨subscription, reaches, same⟩ := List.mem_map.1 member
  obtain ⟨subscribed, other⟩ := List.mem_filter.1 reaches
  rw [diagonal subscription subscribed, same] at other
  simp at other

/-- What is asked of an event of a cache that is to reach another node. -/
structure Event.Sendable (event : Event) (cache : String) : Prop where
  of : event.cache = cache
  made : event.origin = .localNode
  portable : event.isPortable = true
  dated : event.time.InCalendar

/-- A node that takes part in the traffic of its hub, replicates a cache without comparing times,
and tells its bus of every change once. -/
structure Node.Mirrors (node : Node) (cache : String) : Prop where
  mirrors : node.core.frame.Mirrors cache
  hears : node.core.frame.HearsOnce cache
  running : node.pipeline = .running
  carries : node.channel.Carries

/-- What a node mirrors does not depend on the rest of it. -/
theorem Node.Mirrors.of_frame {node changed : Node} {cache : String}
    (mirrors : node.Mirrors cache) (frame_eq : changed.core.frame = node.core.frame)
    (pipeline_eq : changed.pipeline = node.pipeline) (carries : changed.channel.Carries) :
    changed.Mirrors cache where
  mirrors := by
    rw [frame_eq]
    exact mirrors.mirrors
  hears := by
    rw [frame_eq]
    exact mirrors.hears
  running := pipeline_eq.trans mirrors.running
  carries := carries

/-- The message of an event is applied to its cache, and to nothing else. -/
theorem Event.Sendable.receive {event : Event} {cache : String} (sendable : event.Sendable cache)
    {core : Core} (mirrors : core.frame.Mirrors cache) (clock : Clock) :
    (core.receive (Wire.encode event true) clock).crashed = false ∧
      (core.receive (Wire.encode event true) clock).core.frame = core.frame ∧
        (core.receive (Wire.encode event true) clock).core.held cache =
          Guard.none.applied .replicated event.delivered (core.held cache) := by
  obtain ⟨config, replicates, uncompared⟩ := mirrors
  have read : Wire.decode (Wire.encode event true) = .ok event.delivered :=
    Wire.decode_encode sendable.dated fun _ => sendable.portable
  have received := Core.receive_of_uncompared replicates uncompared read sendable.of clock
  refine ⟨received.crashed_eq, received.frame_eq, ?_⟩
  have here := congrFun (congrArg View.held received.view_eq) cache
  rw [Core.held_apply_of_replicates replicates, if_pos rfl] at here
  exact here

/-- A node with one replicated cache that takes part in the traffic of its hub. -/
def Node.sample (name : String) : Node :=
  { new name (.sample false) { Channel.plain with active := true } .up with pipeline := .running }

theorem Node.sample_mirrors (name : String) : (sample name).Mirrors "users" where
  mirrors := ⟨_, Core.sample_replicates false, rfl⟩
  hears := Core.sample_hearsOnce false
  running := rfl
  carries := ⟨rfl, rfl, rfl⟩

namespace Sending

/-- An event whose message is to be handed to the channel. -/
def calling (job : Job) (message : Message) : Sending :=
  ⟨job, none, .calling message⟩

/-- An event whose message is on its way to the subscribers that are left. -/
def spreading (job : Job) (spread : Spread) : Sending :=
  ⟨job, none, .spreading spread⟩

end Sending

namespace Cluster

variable {cluster : Cluster} {index : Nat} {node : Node}

/-- The bus of a node hears of an event of the node: the event is passed on to the producer. -/
theorem hearStep_eq (found : cluster.node? index = some node) {cache : String}
    (mirrors : node.Mirrors cache) {event : Event} (of : event.cache = cache)
    (made : event.origin = .localNode) (caller : Caller) (rest : List Task) :
    ∃ config : CacheConfig, config.policy = .replicated ∧
      cluster.hearStep caller rest index event =
        some (cluster.setNode index node,
          caller.goOn (produceTask index node ⟨config, event⟩ :: rest)) := by
  obtain ⟨config, replicates, uncompared⟩ := mirrors.mirrors
  have outbound := Core.outbound_of_replicates replicates of made cluster.clock
  have unrecorded : (node.core.record config event cluster.clock).1 = node.core := by
    simp [Core.record, uncompared]
  rw [unrecorded] at outbound
  refine ⟨config, replicates.replicated, ?_⟩
  unfold hearStep
  rw [found]
  simp only [outbound]
  rw [if_neg (not_not_intro mirrors.running)]
  rfl

theorem sendStep_encoding (found : cluster.node? index = some node) (job : Job)
    {body : List UInt8}
    (encoded : node.core.codec.encode job.event job.config.policy.includesValues = .ok body) :
    cluster.sendStep index (.ofJob job) = .moved cluster (.calling job ⟨job.hash, body⟩) := by
  unfold sendStep
  rw [found]
  simp only [sendStepAt, Sending.ofJob, encoded]
  rfl

theorem sendStep_calling (found : cluster.node? index = some node)
    (carries : node.channel.Carries) (job : Job) (message : Message) :
    cluster.sendStep index (.calling job message) =
      .moved (cluster.setNode index (node.log .send))
        (.spreading job ⟨message, cluster.hub.targets (.node index), false⟩) := by
  have ready := (carries.log .send).ready
  unfold sendStep
  rw [found]
  simp only [sendStepAt, Sending.calling, callChannel, (carries.log .send).nextFate, transmit,
    ready]
  rfl

/-- A node after a message of its own has reached every subscriber. -/
def sentNode (node : Node) (job : Job) : Node :=
  { node with channel := node.channel.countSent }.markAll (Sending.sentMarks job)

theorem sendStep_spreading_nil (found : cluster.node? index = some node) (job : Job)
    (message : Message) (waited : Bool) :
    cluster.sendStep index (.spreading job ⟨message, [], waited⟩) =
      .done (cluster.setNode index (sentNode node job)) (.ok ()) := by
  unfold sendStep
  rw [found]
  rfl

theorem sendStep_spreading_cons (found : cluster.node? index = some node) (job : Job)
    (message : Message) (target : Member) (rest : List Member) (waited : Bool) {after : Cluster}
    (delivered : cluster.deliver target message waited = .done after) :
    cluster.sendStep index (.spreading job ⟨message, target :: rest, waited⟩) =
      .moved after (.spreading job ⟨message, rest, false⟩) := by
  unfold sendStep
  rw [found]
  simp only [sendStepAt, Sending.spreading, spreadStep, delivered]
  rfl

/-- A member without room is asked again, and then waited for. -/
theorem sendStep_spreading_full (found : cluster.node? index = some node) (job : Job)
    (message : Message) (target : Member) (rest : List Member) (waited : Bool)
    (blocked : cluster.deliver target message waited = .blocked) :
    cluster.sendStep index (.spreading job ⟨message, target :: rest, waited⟩) =
      if waited then .blocked
      else .moved cluster (.spreading job ⟨message, target :: rest, true⟩) := by
  unfold sendStep
  rw [found]
  simp only [sendStepAt, Sending.spreading, spreadStep, blocked]
  cases waited <;> rfl

/-- A call goes on with what its sending has moved to. -/
theorem taskStep_of_moved {after : Cluster} {sending next : Sending}
    (stepped : cluster.sendStep index sending = .moved after next) (caller : Caller)
    (rest : List Task) :
    cluster.taskStep caller (.send index sending) rest =
      some (after, caller.goOn (.send index next :: rest)) := by
  simp only [taskStep, directStep, stepped]

theorem taskStep_of_done {after : Cluster} {sending : Sending}
    (stepped : cluster.sendStep index sending = .done after (.ok ())) (caller : Caller)
    (rest : List Task) :
    cluster.taskStep caller (.send index sending) rest = some (after, caller.goOn rest) := by
  simp only [taskStep, directStep, stepped]

/-- A bound of the steps that a call has left until all nodes have its event. -/
def stepsLeft (cluster : Cluster) : List Task → Nat
  | [.hear sender _] => (cluster.hub.targets (.node sender)).length + 4
  | [.send sender ⟨_, _, .encoding⟩] => (cluster.hub.targets (.node sender)).length + 3
  | [.send sender ⟨_, _, .calling _⟩] => (cluster.hub.targets (.node sender)).length + 2
  | [.send _ ⟨_, _, .spreading spread⟩] => spread.left.length + 1
  | _ => 0

/-! ## Delivery -/

theorem deliver_observer (message : Message) (waited : Bool) :
    cluster.deliver .observer message waited =
      .done { cluster with seen := message :: cluster.seen } := rfl

theorem deliver_outsider (message : Message) (waited : Bool) :
    cluster.deliver .outsider message waited = .done cluster := rfl

theorem deliver_missing {target : Nat} (missing : cluster.node? target = none)
    (message : Message) (waited : Bool) :
    cluster.deliver (.node target) message waited = .done cluster := by
  simp [deliver, missing]

/-- A node that works on the calling thread handles a message at once. -/
theorem deliver_direct (found : cluster.node? index = some node)
    (direct : node.consumer = .direct) (message : Message) (waited : Bool)
    (crashless : (node.core.receive message.body cluster.clock).crashed = false) :
    cluster.deliver (.node index) message waited =
      .done (cluster.setNode index
        { node with core := (node.core.receive message.body cluster.clock).core }) := by
  simp [deliver, found, deliverTo, direct, handle, crashless]

/-- A striped consumer without room does not take a message. -/
theorem deliver_full (found : cluster.node? index = some node)
    {workers : Workers (List UInt8) (List UInt8)} (shape : node.consumer = .striped workers)
    (message : Message) (full : workers.offer message.hash message.body = .full) (waited : Bool) :
    cluster.deliver (.node index) message waited = .blocked := by
  simp only [deliver, found, deliverTo, shape, full]

theorem deliver_accepted (found : cluster.node? index = some node)
    {workers after : Workers (List UInt8) (List UInt8)} (shape : node.consumer = .striped workers)
    (message : Message) (accepted : workers.offer message.hash message.body = .accepted after)
    (waited : Bool) :
    cluster.deliver (.node index) message waited = .done (cluster.setNode index
      (markIf { node with consumer := .striped after } waited (.ringFull .consumer))) := by
  simp only [deliver, found, deliverTo, shape, accepted]

/-- The workers of a striped consumer are changed, and nothing else. -/
theorem node?_modifyConsumer (found : cluster.node? index = some node)
    {workers : Workers (List UInt8) (List UInt8)} (shape : node.consumer = .striped workers)
    (change : Workers (List UInt8) (List UInt8) → Workers (List UInt8) (List UInt8))
    (other : Nat) : (cluster.modifyConsumer index change).node? other =
      if other = index then some { node with consumer := .striped (change workers) }
      else cluster.node? other := by
  simp only [modifyConsumer, node?_modifyNode]
  split
  next same =>
    rw [same, found, Option.map_some, shape]
    rfl
  next => rfl

/-- A worker that has handled a message is idle again, and the core of its node is what the message
left. -/
theorem node?_consumerWork (found : cluster.node? index = some node)
    {workers : Workers (List UInt8) (List UInt8)} (shape : node.consumer = .striped workers)
    {body : List UInt8} (crashless : (node.core.receive body cluster.clock).crashed = false)
    (stripe other : Nat) :
    (cluster.consumerWork index stripe node body).node? other =
      if other = index then
        some { node with
          core := (node.core.receive body cluster.clock).core
          consumer := .striped (workers.settle stripe .goOn) }
      else cluster.node? other := by
  simp only [consumerWork, handle, crashless, modifyConsumer, node?_modifyNode,
    node?_setNode found]
  split
  · simp only [Option.map_some, Bool.false_eq_true, ↓reduceIte, shape]
    rfl
  · rfl

end Cluster

end CacheSync
