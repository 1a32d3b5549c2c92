import CacheSync.Proofs.Cluster.Sending
import CacheSync.Proofs.Node.Telling

/-!
# The traffic of a cluster

Nodes that work on the calling thread hand the message of an event to the hub before the operation
that made it is over, and every other node takes it in the meantime.  An `Account` keeps the events
of the operations, the messages that were handed over, and those that were taken.  It is balanced
by what the call under way still owes: an `Errand` says what that is, and each step of the call pays
a part of it (`Payment`).
-/

namespace CacheSync

/-- The message that a node sends for an event that its bus hears of, if it sends one. -/
def Frame.message? (frame : Frame) (event : Event) : Option Message :=
  (frame.outbound? event).map fun config =>
    ⟨event.hash, Wire.encode event config.policy.includesValues⟩

theorem Frame.ears_of_hearsOnce {frame : Frame} {cache : String} (hears : frame.HearsOnce cache) :
    frame.ears cache = 1 := by
  obtain ⟨linked, listeners, listening, once⟩ := hears
  rw [Frame.ears, if_pos linked, listening, Option.getD_some, once]

/-- A node that takes part in the traffic of its hub on the calling thread, whatever its
configuration. -/
structure Node.Trades (node : Node) : Prop where
  started : node.core.frame.lifecycle = .started
  plain : node.core.frame.codec = .plain
  crashless : node.core.frame.Crashless
  running : node.pipeline = .running
  producer_eq : node.producer = .direct
  consumer_eq : node.consumer = .direct
  carries : node.channel.Carries

theorem Node.Trades.of_frame {node changed : Node} (trades : node.Trades)
    (frame_eq : changed.core.frame = node.core.frame)
    (pipeline_eq : changed.pipeline = node.pipeline)
    (crews_eq : changed.producer = node.producer ∧ changed.consumer = node.consumer)
    (carries : changed.channel.Carries) : changed.Trades where
  started := frame_eq ▸ trades.started
  plain := frame_eq ▸ trades.plain
  crashless := frame_eq ▸ trades.crashless
  running := pipeline_eq.trans trades.running
  producer_eq := crews_eq.1.trans trades.producer_eq
  consumer_eq := crews_eq.2.trans trades.consumer_eq
  carries := carries

namespace Cluster

variable {start cluster middle after : Cluster}

/-- Nodes that work on the calling thread, each of them subscribed to the hub once. -/
structure Trading (cluster : Cluster) : Prop where
  trades : ∀ {index : Nat} {node : Node}, cluster.node? index = some node → node.Trades
  diagonal : ∀ subscription ∈ cluster.hub.subscriptions, subscription.1 = subscription.2
  subscribed : ∀ index, index < cluster.nodes.length →
    cluster.hub.subscriptions.count (.node index, .node index) = 1

/-! ## Logs -/

section Logs

variable {α : Type}

/-- What a log has of one node. -/
def logOf (index : Nat) (log : List (Nat × α)) : List α :=
  (log.filter fun entry => entry.1 = index).map Prod.snd

/-- What a log has of all nodes but one. -/
def logBeside (index : Nat) (log : List (Nat × α)) : List α :=
  (log.filter fun entry => entry.1 ≠ index).map Prod.snd

@[simp]
theorem logOf_append (index : Nat) (log more : List (Nat × α)) :
    logOf index (log ++ more) = logOf index log ++ logOf index more := by
  simp [logOf]

@[simp]
theorem logBeside_append (index : Nat) (log more : List (Nat × α)) :
    logBeside index (log ++ more) = logBeside index log ++ logBeside index more := by
  simp [logBeside]

@[simp]
theorem logOf_nil (index : Nat) : logOf index ([] : List (Nat × α)) = [] := rfl

@[simp]
theorem logBeside_nil (index : Nat) : logBeside index ([] : List (Nat × α)) = [] := rfl

theorem logOf_singleton (index other : Nat) (entry : α) :
    logOf index [(other, entry)] = if other = index then [entry] else [] := by
  by_cases same : other = index <;> simp [logOf, same]

theorem logBeside_singleton (index other : Nat) (entry : α) :
    logBeside index [(other, entry)] = if other = index then [] else [entry] := by
  by_cases same : other = index <;> simp [logBeside, same]

end Logs

/-- What has been announced, handed to the hub, and taken from it, each with the node that did. -/
structure Account where
  announced : List (Nat × Event)
  handed : List (Nat × Message)
  taken : List (Nat × Message)

/-- The message that a call hands over with its next step: it has reached every subscriber. -/
def handedNext : List Task → List (Nat × Message)
  | .send index ⟨_, _, .spreading ⟨message, [], _⟩⟩ :: _ => [(index, message)]
  | _ => []

/-- What the nodes take of a message that is handed to a member. -/
def takenBy : Member → Message → List (Nat × Message)
  | .node index, message => [(index, message)]
  | _, _ => []

/-- The message that a node takes with the next step of a call. -/
def takenNext : List Task → List (Nat × Message)
  | .send _ ⟨_, _, .spreading ⟨message, target :: _, _⟩⟩ :: _ => takenBy target message
  | _ => []

def tasksOf (cluster : Cluster) : Thread → List Task
  | .caller ticket => ((cluster.caller? ticket).map Caller.tasks).getD []
  | _ => []

/-- An account after one step of a thread. -/
def Account.step (account : Account) (cluster : Cluster) (thread : Thread) : Account :=
  { account with
    handed := account.handed ++ handedNext (cluster.tasksOf thread)
    taken := account.taken ++ takenNext (cluster.tasksOf thread) }

/-- The message that a node sends for an event of one of its operations.  If it does not listen to
the cache, it does not hear of the event. -/
def post? (cluster : Cluster) (index : Nat) (event : Event) : Option Message :=
  (cluster.node? index).bind fun node =>
    if 0 < node.core.frame.ears event.cache then node.core.frame.message? event else none

/-- The messages for some events, each with the node that sends it. -/
def posts (cluster : Cluster) (announced : List (Nat × Event)) : List (Nat × Message) :=
  announced.flatMap fun entry => (cluster.post? entry.1 entry.2).toList.map (entry.1, ·)

theorem posts_append (announced more : List (Nat × Event)) :
    cluster.posts (announced ++ more) = cluster.posts announced ++ cluster.posts more := by
  simp only [posts, List.flatMap_append]

theorem posts_singleton (index : Nat) (event : Event) :
    cluster.posts [(index, event)] = (cluster.post? index event).toList.map (index, ·) := by
  simp only [posts, List.flatMap_singleton]

/-! ## What a step changes -/

/-- A core takes no message or one. -/
inductive CoreTurns (clock : Clock) (core : Core) : List Message → Core → Prop where
  | none {after : Core} : core.Stands after → CoreTurns clock core [] after
  | one (message : Message) : CoreTurns clock core [message] (core.receive message.body clock).core

/-- A node goes on, with so many messages handed over and these taken. -/
structure NodeTurns (clock : Clock) (handed : Nat) (taken : List Message) (node changed : Node) :
    Prop where
  frame_eq : changed.core.frame = node.core.frame
  trades : node.Trades → changed.Trades
  sent_eq : changed.channel.sent = node.channel.sent + handed
  core : CoreTurns clock node.core taken changed.core

/-- All nodes go on, with these messages handed over and these taken. -/
structure Turns (cluster after : Cluster) (handed taken : List (Nat × Message)) : Prop where
  nodes : ∀ {index : Nat} {changed : Node}, after.node? index = some changed →
    ∃ node, cluster.node? index = some node ∧
      NodeTurns cluster.clock (logOf index handed).length (logOf index taken) node changed
  length_eq : after.nodes.length = cluster.nodes.length
  hub_eq : after.hub = cluster.hub

namespace NodeTurns

variable {node : Node} {clock : Clock}

theorem refl (clock : Clock) (node : Node) : NodeTurns clock 0 [] node node :=
  ⟨rfl, id, rfl, .none (.refl _)⟩

theorem of_core {core : Core} (stands : node.core.Stands core) :
    NodeTurns clock 0 [] node { node with core := core } where
  frame_eq := stands.frame_eq
  trades trades := trades.of_frame stands.frame_eq rfl ⟨rfl, rfl⟩ trades.carries
  sent_eq := rfl
  core := .none stands

theorem log (clock : Clock) (node : Node) : NodeTurns clock 0 [] node (node.log .send) where
  frame_eq := rfl
  trades trades := trades.of_frame rfl rfl ⟨rfl, rfl⟩ (trades.carries.log .send)
  sent_eq := rfl
  core := .none (.refl _)

theorem sent (clock : Clock) (node : Node) (job : Job) :
    NodeTurns clock 1 [] node (sentNode node job) where
  frame_eq := rfl
  trades trades := trades.of_frame rfl rfl ⟨rfl, rfl⟩ trades.carries.countSent
  sent_eq := rfl
  core := .none ⟨rfl, rfl, by
    simp [sentNode, Node.markAll, Core.markAll, Meter.markAll, Meter.count, Sending.sentMarks]⟩

theorem took (clock : Clock) (node : Node) (message : Message) :
    NodeTurns clock 0 [message] node
      { node with core := (node.core.receive message.body clock).core } where
  frame_eq := node.core.receive_frame message.body clock
  trades trades := trades.of_frame (node.core.receive_frame message.body clock) rfl ⟨rfl, rfl⟩
    trades.carries
  sent_eq := rfl
  core := .one message

end NodeTurns

namespace Turns

theorem of_nodes (nodes_eq : after.nodes = cluster.nodes) (hub_eq : after.hub = cluster.hub) :
    cluster.Turns after [] [] where
  nodes {index changed} found := by
    refine ⟨changed, ?_, .refl _ _⟩
    rw [node?, ← nodes_eq]
    exact found
  length_eq := by rw [nodes_eq]
  hub_eq := hub_eq

theorem of_node {index : Nat} {node changed : Node} {handed taken : List (Nat × Message)}
    (found : cluster.node? index = some node)
    (nodes_eq : after.nodes = cluster.nodes.set index changed) (hub_eq : after.hub = cluster.hub)
    (here : NodeTurns cluster.clock (logOf index handed).length (logOf index taken) node changed)
    (elsewhere : ∀ other, other ≠ index → logOf other handed = [] ∧ logOf other taken = []) :
    cluster.Turns after handed taken where
  nodes {other changed'} held := by
    rw [node?_of_set found nodes_eq] at held
    by_cases same : other = index
    · subst same
      rw [if_pos rfl] at held
      injection held with this
      exact ⟨node, found, this ▸ here⟩
    · rw [if_neg same] at held
      obtain ⟨silent, idle⟩ := elsewhere other same
      rw [silent, idle]
      exact ⟨changed', held, .refl _ _⟩
  length_eq := by simp [nodes_eq]
  hub_eq := hub_eq

end Turns

/-! ## The call under way -/

/-- What a call still owes: messages that are to be handed over, and those that a node is to
take. -/
structure Owing where
  unsent : List (Nat × Message)
  owed : Nat → List Message

/-- Messages that no node has taken: every other node is to take them. -/
def Owing.whole (messages : List (Nat × Message)) : Owing :=
  ⟨messages, fun index => logBeside index messages⟩

/-- The tasks of a call of a node that has an event on its way, and what it owes. -/
inductive Errand (sender : Nat) (frame : Frame) : List Task → Owing → Prop where
  | hear (event : Event) : Errand sender frame [.hear sender event]
      (.whole ((frame.message? event).toList.map (sender, ·)))
  | encode (config : CacheConfig) (event : Event) :
      Errand sender frame [.send sender (.ofJob ⟨config, event⟩)]
        (.whole [(sender, ⟨event.hash, Wire.encode event config.policy.includesValues⟩)])
  | call (job : Job) (message : Message) :
      Errand sender frame [.send sender (.calling job message)] (.whole [(sender, message)])
  | spread (job : Job) (message : Message) (left : List Member) (waited : Bool) :
      Errand sender frame [.send sender (.spreading job ⟨message, left, waited⟩)]
        ⟨[(sender, message)], fun index => List.replicate (left.count (.node index)) message⟩
  | done : Errand sender frame [] (.whole [])

/-- The bus hears of the event of an operation if it listens, and then owes its message. -/
theorem errand_of_announces {index : Nat} {node : Node} (began : start.node? index = some node)
    {core : Core} (frame_eq : core.frame = node.core.frame) {operated : Core.Operated}
    {cache : String} {call : StoreCall} {events : List Event}
    (announces : operated.Announces core cache call events)
    (listens : node.core.frame.ears cache ≤ 1) (once : events.length ≤ 1) :
    Errand index node.core.frame (operated.heard.map (.hear index))
      (.whole (start.posts (events.map (index, ·)))) := by
  rw [announces.heard_eq, frame_eq]
  cases events with
  | nil => exact .done
  | cons event rest =>
      have alone := Nat.le_zero.1 (Nat.le_of_succ_le_succ once)
      obtain rfl := List.length_eq_zero_iff.1 alone
      have of := (announces.told event List.mem_cons_self).1
      have posted : start.post? index event =
          if 0 < node.core.frame.ears cache then node.core.frame.message? event else none := by
        rw [post?, began, Option.bind_some, of]
      rw [List.flatMap_singleton, List.map_singleton, posts_singleton, posted]
      rcases Nat.le_one_iff_eq_zero_or_eq_one.1 listens with deaf | hears
      · rw [deaf]
        exact .done
      · rw [hears]
        exact .hear event

/-- A step of a call.  What it pays, it has owed, and fewer steps are left. -/
structure Payment (cluster : Cluster) (sender : Nat) (frame : Frame) (caller : Caller) (task : Task)
    (rest : List Task) (owing : Owing) (middle : Cluster) (tasks : List Task) (left : Owing) :
    Prop where
  moved : cluster.taskStep caller task rest = some (middle, caller.goOn tasks)
  calls_eq : middle.calls = cluster.calls
  turns : cluster.Turns middle (handedNext (task :: rest)) (takenNext (task :: rest))
  errand : Errand sender frame tasks left
  unsent_eq : owing.unsent = handedNext (task :: rest) ++ left.unsent
  owed_eq : ∀ index, index < cluster.nodes.length →
    owing.owed index = logOf index (takenNext (task :: rest)) ++ left.owed index
  less : middle.stepsLeft tasks < cluster.stepsLeft (task :: rest)

/-- With its next step a call pays a part of what it owes. -/
def Pays (cluster : Cluster) (sender : Nat) (frame : Frame) (caller : Caller) (task : Task)
    (rest : List Task) (owing : Owing) : Prop :=
  ∃ middle tasks left, cluster.Payment sender frame caller task rest owing middle tasks left

section Payments

variable {sender : Nat} {frame : Frame} {node : Node} {caller : Caller}

theorem hearStep_of_trades (found : cluster.node? sender = some node) (trades : node.Trades)
    (caller : Caller) (event : Event) (rest : List Task) :
    cluster.hearStep caller rest sender event =
      some (cluster.setNode sender { node with core := (node.core.outbound event cluster.clock).1 },
        caller.goOn (match node.core.frame.outbound? event with
          | none => rest
          | some config => .send sender (.ofJob ⟨config, event⟩) :: rest)) := by
  have decided := node.core.outbound_snd event cluster.clock
  unfold hearStep
  simp only [found, ← decided]
  cases (node.core.outbound event cluster.clock).2 with
  | none => rfl
  | some config =>
      simp only [trades.running, ne_eq, not_true_eq_false, ↓reduceIte, trades.producer_eq]

theorem pays_of_hear (found : cluster.node? sender = some node) (trades : node.Trades)
    (frame_eq : node.core.frame = frame) (event : Event) :
    cluster.Pays sender frame caller (.hear sender event) []
      (.whole ((frame.message? event).toList.map (sender, ·))) := by
  have heard := hearStep_of_trades found trades caller event []
  have turns : cluster.Turns
      (cluster.setNode sender { node with core := (node.core.outbound event cluster.clock).1 })
      [] [] :=
    .of_node found rfl rfl (.of_core (node.core.outbound_stands event cluster.clock))
      fun _ _ => ⟨rfl, rfl⟩
  rw [frame_eq] at heard
  cases outbound : frame.outbound? event with
  | none =>
      rw [outbound] at heard
      have silent : frame.message? event = none := by
        simp only [Frame.message?, outbound, Option.map_none]
      rw [silent]
      exact ⟨_, _, _,
        { moved := heard
          calls_eq := rfl
          turns := turns
          errand := .done
          unsent_eq := rfl
          owed_eq := fun _ _ => rfl
          less := by simp [stepsLeft] }⟩
  | some config =>
      rw [outbound] at heard
      have spoken : frame.message? event =
          some ⟨event.hash, Wire.encode event config.policy.includesValues⟩ := by
        simp only [Frame.message?, outbound, Option.map_some]
      rw [spoken]
      exact ⟨_, _, _,
        { moved := heard
          calls_eq := rfl
          turns := turns
          errand := .encode config event
          unsent_eq := rfl
          owed_eq := fun _ _ => rfl
          less := by simp [stepsLeft, Sending.ofJob, setNode] }⟩

theorem pays_of_encode (found : cluster.node? sender = some node) (trades : node.Trades)
    (config : CacheConfig) (event : Event) :
    cluster.Pays sender frame caller (.send sender (.ofJob ⟨config, event⟩)) []
      (.whole [(sender, ⟨event.hash, Wire.encode event config.policy.includesValues⟩)]) := by
  have plain : node.core.codec = .plain := trades.plain
  have encoded : node.core.codec.encode event config.policy.includesValues =
      .ok (Wire.encode event config.policy.includesValues) := by
    rw [plain]
    rfl
  have steps := sendStep_encoding found ⟨config, event⟩ encoded
  exact ⟨_, _, _,
    { moved := taskStep_of_moved steps caller []
      calls_eq := rfl
      turns := .of_nodes rfl rfl
      errand := .call _ _
      unsent_eq := rfl
      owed_eq := fun _ _ => rfl
      less := Nat.lt_succ_self _ }⟩

/-- What a call hands over is on its way to every other node, once. -/
theorem count_targets_of_trading (trading : cluster.Trading) {index : Nat}
    (inRange : index < cluster.nodes.length) (message : Message) :
    List.replicate ((cluster.hub.targets (.node sender)).count (.node index)) message =
      logBeside index [(sender, message)] := by
  rw [logBeside_singleton]
  by_cases same : sender = index
  · subst same
    rw [if_pos rfl, List.count_eq_zero.2 (Hub.not_mem_targets trading.diagonal _)]
    rfl
  · have apart : Member.node index ≠ .node sender := by
      intro equal
      injection equal with equal
      exact same equal.symm
    rw [if_neg same, Hub.count_targets trading.diagonal apart, trading.subscribed index inRange]
    rfl

theorem pays_of_call (trading : cluster.Trading) (found : cluster.node? sender = some node)
    (job : Job) (message : Message) :
    cluster.Pays sender frame caller (.send sender (.calling job message)) []
      (.whole [(sender, message)]) := by
  have steps := sendStep_calling found (trading.trades found).carries job message
  have turns : cluster.Turns (cluster.setNode sender (node.log .send)) [] [] :=
    .of_node found rfl rfl (.log _ _) fun _ _ => ⟨rfl, rfl⟩
  exact ⟨_, _, _,
    { moved := taskStep_of_moved steps caller []
      calls_eq := rfl
      turns := turns
      errand := .spread _ _ _ _
      unsent_eq := rfl
      owed_eq := fun _ inRange => (count_targets_of_trading trading inRange message).symm
      less := Nat.lt_succ_self _ }⟩

theorem pays_of_spread_nil (found : cluster.node? sender = some node) (job : Job)
    (message : Message) (waited : Bool) :
    cluster.Pays sender frame caller (.send sender (.spreading job ⟨message, [], waited⟩)) []
      ⟨[(sender, message)], fun _ => []⟩ := by
  have steps := sendStep_spreading_nil found job message waited
  have turns :
      cluster.Turns (cluster.setNode sender (sentNode node job)) [(sender, message)] [] := by
    refine .of_node found rfl rfl ?_ ?_
    · rw [logOf_singleton, if_pos rfl]
      exact .sent _ node job
    · intro other different
      rw [logOf_singleton, if_neg (Ne.symm different)]
      exact ⟨rfl, rfl⟩
  exact ⟨_, _, _,
    { moved := taskStep_of_done steps caller []
      calls_eq := rfl
      turns := turns
      errand := .done
      unsent_eq := rfl
      owed_eq := fun _ _ => rfl
      less := Nat.lt_succ_self _ }⟩

/-- A member takes a message at once, whatever it makes of it. -/
theorem deliver_turns (trading : cluster.Trading) (target : Member) (message : Message)
    (waited : Bool) :
    ∃ after, cluster.deliver target message waited = .done after ∧
      after.calls = cluster.calls ∧ cluster.Turns after [] (takenBy target message) := by
  cases target with
  | observer => exact ⟨_, deliver_observer message waited, rfl, .of_nodes rfl rfl⟩
  | outsider => exact ⟨_, deliver_outsider message waited, rfl, .of_nodes rfl rfl⟩
  | node target =>
      cases found : cluster.node? target with
      | none =>
          refine ⟨_, deliver_missing found message waited, rfl, ⟨?_, rfl, rfl⟩⟩
          intro index changed held
          have elsewhere : target ≠ index := by
            rintro rfl
            rw [found] at held
            cases held
          rw [takenBy, logOf_singleton, if_neg elsewhere]
          exact ⟨changed, held, .refl _ _⟩
      | some node =>
          have trades := trading.trades found
          refine ⟨_, deliver_direct found trades.consumer_eq message waited
            (Core.receive_crashed trades.crashless message.body cluster.clock), rfl,
            .of_node found rfl rfl ?_ ?_⟩
          · rw [takenBy, logOf_singleton, if_pos rfl]
            exact .took _ node message
          · intro other different
            rw [takenBy, logOf_singleton, if_neg (Ne.symm different)]
            exact ⟨rfl, rfl⟩

theorem replicate_count_cons (target : Member) (left : List Member) (index : Nat)
    (message : Message) :
    List.replicate ((target :: left).count (.node index)) message =
      logOf index (takenBy target message) ++
        List.replicate (left.count (.node index)) message := by
  rw [List.count_cons]
  cases target with
  | observer => simp [takenBy]
  | outsider => simp [takenBy]
  | node target =>
      rw [takenBy, logOf_singleton]
      by_cases same : target = index
      · simp [same, List.replicate_succ]
      · simp [same]

theorem pays_of_spread_cons (trading : cluster.Trading) (found : cluster.node? sender = some node)
    (job : Job) (message : Message) (target : Member) (left : List Member) (waited : Bool) :
    cluster.Pays sender frame caller
      (.send sender (.spreading job ⟨message, target :: left, waited⟩)) []
      ⟨[(sender, message)],
        fun index => List.replicate ((target :: left).count (.node index)) message⟩ := by
  obtain ⟨after, delivered, calls_eq, turns⟩ := deliver_turns trading target message waited
  have steps := sendStep_spreading_cons found job message target left waited delivered
  exact ⟨_, _, _,
    { moved := taskStep_of_moved steps caller []
      calls_eq := calls_eq
      turns := turns
      errand := .spread _ _ _ _
      unsent_eq := rfl
      owed_eq := fun index _ => replicate_count_cons target left index message
      less := Nat.lt_succ_self _ }⟩

/-- A call with an event on its way can always go on. -/
theorem Errand.pays {task : Task} {rest : List Task} {owing : Owing}
    (errand : Errand sender frame (task :: rest) owing) (trading : cluster.Trading)
    (found : cluster.node? sender = some node) (frame_eq : node.core.frame = frame)
    (caller : Caller) : cluster.Pays sender frame caller task rest owing := by
  have trades := trading.trades found
  cases errand with
  | hear event => exact pays_of_hear found trades frame_eq event
  | encode config event => exact pays_of_encode found trades config event
  | call job message => exact pays_of_call trading found job message
  | spread job message left waited =>
      cases left with
      | nil => exact pays_of_spread_nil found job message waited
      | cons target left => exact pays_of_spread_cons trading found job message target left waited

end Payments

/-! ## The books -/

/-- Something about the core of a node and the messages it has taken that lasts: it stands where
the core stands, and the next message is taken by handling it. -/
structure Lasting (start : Cluster) (kept : Nat → List Message → Core → Prop) : Prop where
  stands : ∀ {index : Nat} {taken : List Message} {core after : Core}, core.Stands after →
    kept index taken core → kept index taken after
  receive : ∀ {index : Nat} {taken : List Message} {core : Core} {node : Node},
    start.node? index = some node → core.frame = node.core.frame → kept index taken core →
      ∀ (message : Message) (clock : Clock),
        kept index (taken ++ [message]) (core.receive message.body clock).core

/-- What a node has done since the start. -/
structure Entry (kept : Nat → List Message → Core → Prop) (handed taken : List (Nat × Message))
    (index : Nat) (node changed : Node) : Prop where
  frame_eq : changed.core.frame = node.core.frame
  sent_eq : changed.channel.sent = node.channel.sent + (logOf index handed).length
  kept : kept index (logOf index taken) changed.core

/-- What the nodes of a cluster have done since the start. -/
structure Ledger (start : Cluster) (kept : Nat → List Message → Core → Prop)
    (handed taken : List (Nat × Message)) (cluster : Cluster) : Prop where
  trading : cluster.Trading
  entry : ∀ {index : Nat} {changed : Node}, cluster.node? index = some changed →
    ∃ node, start.node? index = some node ∧ Entry kept handed taken index node changed
  length_eq : cluster.nodes.length = start.nodes.length

/-- What the call under way still owes of the messages for the events announced. -/
structure Balance (start : Cluster) (account : Account) (owing : Owing) : Prop where
  handed : account.handed ++ owing.unsent = start.posts account.announced
  taken : ∀ index, index < start.nodes.length →
    logOf index account.taken ++ owing.owed index = logBeside index (start.posts account.announced)

variable {kept : Nat → List Message → Core → Prop} {handed taken : List (Nat × Message)}

theorem Trading.of_nodes (trading : cluster.Trading) (hub_eq : after.hub = cluster.hub)
    (length_eq : after.nodes.length = cluster.nodes.length)
    (trades : ∀ {index : Nat} {changed : Node}, after.node? index = some changed →
      changed.Trades) : after.Trading where
  trades := trades
  diagonal := hub_eq ▸ trading.diagonal
  subscribed := by
    rw [hub_eq, length_eq]
    exact trading.subscribed

theorem Ledger.refl (trading : start.Trading)
    (opening : ∀ {index : Nat} {node : Node}, start.node? index = some node →
      kept index [] node.core) : start.Ledger kept [] [] start where
  trading := trading
  entry found := ⟨_, found, rfl, rfl, opening found⟩
  length_eq := rfl

theorem Ledger.turns (lasting : start.Lasting kept)
    (ledger : start.Ledger kept handed taken cluster) {more latest : List (Nat × Message)}
    (turns : cluster.Turns after more latest) :
    start.Ledger kept (handed ++ more) (taken ++ latest) after where
  trading := by
    refine ledger.trading.of_nodes turns.hub_eq turns.length_eq fun found => ?_
    obtain ⟨node, before, turned⟩ := turns.nodes found
    exact turned.trades (ledger.trading.trades before)
  entry {index changed} found := by
    obtain ⟨now, held, turned⟩ := turns.nodes found
    obtain ⟨node, began, entry⟩ := ledger.entry held
    refine ⟨node, began, turned.frame_eq.trans entry.frame_eq, ?_, ?_⟩
    · rw [turned.sent_eq, entry.sent_eq, logOf_append, List.length_append, Nat.add_assoc]
    · rw [logOf_append]
      have core := turned.core
      generalize logOf index latest = messages at core
      generalize changed.core = end_ at core
      -- In one step a core takes one message at most.
      cases core with
      | none stands =>
          rw [List.append_nil]
          exact lasting.stands stands entry.kept
      | one message => exact lasting.receive began entry.frame_eq entry.kept message cluster.clock
  length_eq := turns.length_eq.trans ledger.length_eq

/-- The application may change what a node holds. -/
theorem Trading.setCore (trading : cluster.Trading) {index : Nat} {node : Node} {core : Core}
    (found : cluster.node? index = some node)
    (nodes_eq : after.nodes = cluster.nodes.set index { node with core := core })
    (hub_eq : after.hub = cluster.hub) (frame_eq : core.frame = node.core.frame) :
    after.Trading := by
  refine trading.of_nodes hub_eq (by rw [nodes_eq, List.length_set]) fun held => ?_
  rw [node?_of_set found nodes_eq] at held
  split at held
  next =>
    injection held with this
    subst this
    have trades := trading.trades found
    exact trades.of_frame frame_eq rfl ⟨rfl, rfl⟩ trades.carries
  next => exact trading.trades held

theorem Ledger.setCore (ledger : start.Ledger kept handed taken cluster) {index : Nat} {node : Node}
    {core : Core} (found : cluster.node? index = some node)
    (nodes_eq : after.nodes = cluster.nodes.set index { node with core := core })
    (hub_eq : after.hub = cluster.hub) (frame_eq : core.frame = node.core.frame)
    (lasts : ∀ taken, kept index taken node.core → kept index taken core) :
    start.Ledger kept handed taken after where
  trading := ledger.trading.setCore found nodes_eq hub_eq frame_eq
  entry {other changed} held := by
    rw [node?_of_set found nodes_eq] at held
    split at held
    next same =>
      subst same
      injection held with this
      subst this
      obtain ⟨before, began, entry⟩ := ledger.entry found
      exact ⟨before, began, frame_eq.trans entry.frame_eq, entry.sent_eq, lasts _ entry.kept⟩
    next => exact ledger.entry held
  length_eq := by
    rw [nodes_eq, List.length_set]
    exact ledger.length_eq

theorem Ledger.present (ledger : start.Ledger kept handed taken cluster) {index : Nat} {node : Node}
    (began : start.node? index = some node) :
    ∃ now, cluster.node? index = some now ∧ now.core.frame = node.core.frame := by
  obtain ⟨inRange, _⟩ := List.getElem?_eq_some_iff.1 began
  rw [← ledger.length_eq] at inRange
  have held : cluster.node? index = some cluster.nodes[index] := List.getElem?_eq_getElem inRange
  obtain ⟨_, begins, entry⟩ := ledger.entry held
  obtain rfl := Option.some.inj (began.symm.trans begins)
  exact ⟨_, held, entry.frame_eq⟩

/-- What is owed, whether all calls are over or one of them has an event on its way. -/
inductive Due (start : Cluster) : List Task → Owing → Prop where
  | nothing : Due start [] (.whole [])
  | errand {sender : Nat} {node : Node} {tasks : List Task} {owing : Owing} :
      start.node? sender = some node → Errand sender node.core.frame tasks owing →
      Due start tasks owing

theorem Due.eq_whole {owing : Owing} (due : start.Due [] owing) : owing = .whole [] := by
  cases due with
  | nothing => rfl
  | errand _ errand =>
      cases errand with
      | done => rfl

theorem Due.of_cons {task : Task} {rest : List Task} {owing : Owing}
    (due : start.Due (task :: rest) owing) :
    ∃ sender node, start.node? sender = some node ∧
      Errand sender node.core.frame (task :: rest) owing := by
  cases due with
  | errand began errand => exact ⟨_, _, began, errand⟩

/-- The books of a cluster: what has been announced, handed over and taken since the start comes
out even with what the call under way still owes. -/
structure Books (start : Cluster) (kept : Nat → List Message → Core → Prop) (account : Account)
    (cluster : Cluster) (ticket : Nat) (tasks : List Task) : Prop where
  ledger : start.Ledger kept account.handed account.taken cluster
  busy : cluster.Busy ticket tasks
  progress : ∃ owing, start.Due tasks owing ∧ start.Balance account owing

namespace Books

variable {account : Account} {ticket : Nat} {tasks : List Task}

/-- Between calls nothing is owed. -/
theorem balanced (books : start.Books kept account cluster ticket tasks) (idle : cluster.Idle) :
    account.handed = start.posts account.announced ∧
      ∀ index, index < start.nodes.length →
        logOf index account.taken = logBeside index (start.posts account.announced) := by
  obtain ⟨owing, due, balance⟩ := books.progress
  rw [books.busy.tasks_eq_nil idle] at due
  rw [due.eq_whole] at balance
  refine ⟨by simpa [Owing.whole] using balance.handed, ?_⟩
  intro index inRange
  simpa [Owing.whole] using balance.taken index inRange

/-- A step that is none of the call's. -/
theorem aside (books : start.Books kept account cluster ticket tasks)
    (lasting : start.Lasting kept) (turns : cluster.Turns after [] [])
    (calls_eq : after.calls = cluster.calls) :
    start.Books kept account after ticket tasks where
  ledger := by simpa using books.ledger.turns lasting turns
  busy := books.busy.of_calls calls_eq
  progress := books.progress

theorem pass (books : start.Books kept account cluster ticket tasks)
    (lasting : start.Lasting kept) (nanos : Nat) :
    start.Books kept account (cluster.pass nanos) ticket tasks :=
  books.aside lasting (.of_nodes rfl rfl) rfl

/-- The next step of the call pays a part of what it owes. -/
theorem pays {task : Task} {rest : List Task}
    (books : start.Books kept account cluster ticket (task :: rest))
    (lasting : start.Lasting kept) {caller : Caller} (ticket_eq : caller.ticket = ticket) :
    ∃ middle tasks, cluster.taskStep caller task rest = some (middle, caller.goOn tasks) ∧
      middle.stepsLeft tasks < cluster.stepsLeft (task :: rest) ∧
        start.Books kept
          ⟨account.announced, account.handed ++ handedNext (task :: rest),
            account.taken ++ takenNext (task :: rest)⟩
          (middle.setCaller (caller.goOn tasks)) ticket tasks := by
  obtain ⟨owing, due, balance⟩ := books.progress
  obtain ⟨sender, node, began, errand⟩ := due.of_cons
  obtain ⟨now, found, frame_eq⟩ := books.ledger.present began
  obtain ⟨middle, tasks, left, payment⟩ :=
    errand.pays books.ledger.trading found frame_eq caller
  have ledger := books.ledger.turns lasting payment.turns
  have busy : (middle.setCaller (caller.goOn tasks)).Busy ticket tasks :=
    books.busy.setCaller (List.cons_ne_nil _ _) payment.calls_eq ticket_eq
  have set : middle.Turns (middle.setCaller (caller.goOn tasks)) [] [] := .of_nodes rfl rfl
  refine ⟨middle, tasks, payment.moved, payment.less, ⟨?_, busy, ?_⟩⟩
  · simpa using ledger.turns lasting set
  · refine ⟨left, .errand began payment.errand, ⟨?_, ?_⟩⟩
    · rw [List.append_assoc, ← payment.unsent_eq]
      exact balance.handed
    · intro index inRange
      have inRangeNow := inRange
      rw [← books.ledger.length_eq] at inRangeNow
      rw [logOf_append, List.append_assoc, ← payment.owed_eq index inRangeNow]
      exact balance.taken index inRange

theorem tasksOf_eq (busy : cluster.Busy ticket tasks) {stepping : Nat}
    (stepped : cluster.callerStep? stepping = some after) :
    cluster.tasksOf (.caller stepping) = tasks := by
  unfold callerStep? at stepped
  simp only [tasksOf]
  cases found : cluster.caller? stepping with
  | none =>
      rw [found] at stepped
      cases stepped
  | some caller =>
      rw [found] at stepped
      rcases busy.others caller (List.mem_of_find?_eq_some found) with done | ⟨_, same⟩
      · simp only [done] at stepped
        cases stepped
      · rw [Option.map_some, Option.getD_some, same]

theorem cleanerStep (books : start.Books kept account cluster ticket tasks)
    (lasting : start.Lasting kept) {index : Nat}
    (stepped : cluster.cleanerStep? index = some after) :
    start.Books kept account after ticket tasks := by
  obtain ⟨node, cache, expiration, rest, found, _, rfl⟩ := of_cleanerStep? stepped
  have begun : node.core.Stands { node.core with cleanups := rest } := ⟨rfl, rfl, rfl⟩
  have stands := begun.trans (Core.cleanUp_stands _ cache expiration cluster.clock)
  refine books.aside lasting (.of_node found rfl rfl (.of_core stands) ?_) rfl
  intro _ _
  exact ⟨rfl, rfl⟩

theorem step (books : start.Books kept account cluster ticket tasks)
    (lasting : start.Lasting kept) {thread : Thread}
    (stepped : cluster.step? thread = some after) :
    ∃ tasks, start.Books kept (account.step cluster thread) after ticket tasks := by
  obtain ⟨middle, acted, rfl⟩ := Option.map_eq_some_iff.1 stepped
  cases thread with
  | caller stepping =>
      have next := tasksOf_eq books.busy acted
      obtain ⟨task, rest, caller, reached, changed, rfl, ticket_eq, moved, rfl⟩ :=
        books.busy.of_callerStep? acted
      obtain ⟨paid, tasks, moves, _, further⟩ := books.pays lasting ticket_eq
      -- The step that was taken is the one that the books foresee.
      have ends := moved.symm.trans moves
      simp only [Option.some.injEq, Prod.mk.injEq] at ends
      obtain ⟨rfl, rfl⟩ := ends
      refine ⟨tasks, pass ?_ lasting stepTime⟩
      rw [Account.step, next]
      exact further
  | cleaner index =>
      refine ⟨tasks, pass ?_ lasting stepTime⟩
      simpa [Account.step, tasksOf, handedNext, takenNext] using books.cleanerStep lasting acted
  | producerWorker index stripe =>
      simp only [act?, producerStep?_of_direct index stripe fun node found =>
        (books.ledger.trading.trades found).producer_eq, reduceCtorEq] at acted
  | consumerWorker index stripe =>
      simp only [act?, consumerStep?_of_direct index stripe fun node found =>
        (books.ledger.trading.trades found).consumer_eq, reduceCtorEq] at acted

/-- Nothing is announced while no operation is asked for. -/
theorem run (lasting : start.Lasting kept) {cache : String} {events : List Event}
    (run : Run cache (fun _ _ => False) cluster events after)
    (books : start.Books kept account cluster ticket tasks) :
    ∃ account' tasks, start.Books kept account' after ticket tasks ∧
      account'.announced = account.announced := by
  induction run with
  | refl => exact ⟨account, tasks, books, rfl⟩
  | ask _ _ permitted => exact permitted.elim
  | step _ stepped inductionHypothesis =>
      obtain ⟨account', _, books, same⟩ := inductionHypothesis
      obtain ⟨tasks, books⟩ := books.step lasting stepped
      exact ⟨_, tasks, books, same⟩
  | wait nanos _ inductionHypothesis =>
      obtain ⟨account', tasks, books, same⟩ := inductionHypothesis
      exact ⟨account', tasks, books.pass lasting nanos, same⟩

/-- The call under way comes to its end by steps of its own. -/
theorem finishes (lasting : start.Lasting kept) :
    ∀ (bound : Nat) {account : Account} {cluster : Cluster} {tasks : List Task},
      start.Books kept account cluster ticket tasks → cluster.stepsLeft tasks < bound →
        ∃ threads final, cluster.follow? threads = some final ∧ final.Idle := by
  intro bound
  induction bound with
  | zero =>
      intro account cluster tasks _ enough
      cases enough
  | succ bound inductionHypothesis =>
      intro account cluster tasks books enough
      cases tasks with
      | nil => exact ⟨[], cluster, rfl, books.busy.idle⟩
      | cons task rest =>
          obtain ⟨caller, ticket_eq, stepped⟩ := books.busy.callerStep?_eq
          obtain ⟨middle, tasks, moved, less, further⟩ := books.pays lasting ticket_eq
          rw [moved] at stepped
          obtain ⟨threads, final, followed, idle⟩ := inductionHypothesis
            (further.pass lasting stepTime)
            (Nat.lt_of_lt_of_le less (Nat.le_of_lt_succ enough))
          refine ⟨.caller ticket :: threads, final, ?_, idle⟩
          simp only [follow?, step?, act?, stepped, Option.map_some, Option.bind_some]
          exact followed

/-- Once the calls are over, every node has taken all messages for the events announced. -/
theorem kept_of_run (lasting : start.Lasting kept) {cache : String} {events : List Event}
    (run : Run cache (fun _ _ => False) cluster events after)
    (books : start.Books kept account cluster ticket tasks) (rest : after.Idle) {index : Nat}
    {node : Node} (began : start.node? index = some node) :
    ∃ changed, after.node? index = some changed ∧
      kept index (logBeside index (start.posts account.announced)) changed.core := by
  obtain ⟨account', _, books', announced⟩ := Books.run lasting run books
  obtain ⟨inRange, _⟩ := List.getElem?_eq_some_iff.1 began
  obtain ⟨changed, there, _⟩ := books'.ledger.present began
  obtain ⟨_, _, entry⟩ := books'.ledger.entry there
  have taken := (books'.balanced rest).2 index inRange
  rw [announced] at taken
  exact ⟨changed, there, taken ▸ entry.kept⟩

theorem exists_run (lasting : start.Lasting kept)
    (books : start.Books kept account cluster ticket tasks) (cache : String) :
    ∃ final, Run cache (fun _ _ => False) cluster [] final ∧ final.Idle := by
  obtain ⟨threads, final, followed, rest⟩ :=
    finishes lasting _ books (Nat.lt_succ_self _)
  exact ⟨final, Run.refl.follow threads followed, rest⟩

end Books

/-! ## Two nodes on a hub -/

/-- Two nodes, each of them subscribed. -/
def couple (first second : Node) : Cluster :=
  { ofNodes [first, second] ⟨0, 0⟩ with
    hub := (Hub.empty.subscribe (.node 0) (.node 0)).subscribe (.node 1) (.node 1) }

theorem eq_of_couple {first second : Node} {index : Nat} {node : Node}
    (found : (couple first second).node? index = some node) : node = first ∨ node = second := by
  rcases index with _ | _ | index
  · injection found with same
    exact Or.inl same.symm
  · injection found with same
    exact Or.inr same.symm
  · cases found

theorem couple_trading {first second : Node} (trades : first.Trades)
    (tradesToo : second.Trades) : (couple first second).Trading where
  trades found := by
    rcases eq_of_couple found with rfl | rfl
    · exact trades
    · exact tradesToo
  diagonal := by
    change ∀ subscription ∈ [(Member.node 0, Member.node 0), (.node 1, .node 1)],
      subscription.1 = subscription.2
    decide
  subscribed := by
    intro index inRange
    rcases index with _ | _ | index
    · rfl
    · rfl
    · exact absurd inRange (Nat.not_lt_of_le (Nat.le_add_left 2 index))

end Cluster

end CacheSync
