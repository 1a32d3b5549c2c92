import CacheSync.Proofs.Cluster.Course
import CacheSync.Proofs.Secrecy.Nodes

/-!
# Steps of clusters that differ in values

Two clusters are alike if their nodes are, and the threads of the two have alike tasks.  What comes
of a step of a sending in the one comes of it in the other, and the clusters are alike again.  There
is a relation for what comes of each kind of step and one lemma for each function that takes one.
-/

namespace CacheSync

/-- Two messages on their way to the same members. -/
inductive Spread.Alike : Spread → Spread → Prop where
  | intro {message other : Message} (messages : message.Alike other) (left : List Member)
      (waited : Bool) : Alike ⟨message, left, waited⟩ ⟨other, left, waited⟩

/-- Two tasks that differ at most in values. -/
inductive Task.Alike : Task → Task → Prop where
  | hear (node : Nat) {event other : Event} (events : event.Alike other) :
      Alike (.hear node event) (.hear node other)
  | offer (node : Nat) {job other : Job} (jobs : job.Alike other) (waited : Bool) :
      Alike (.offer node job waited) (.offer node other waited)
  | send (node : Nat) {sending other : Sending} (sendings : sending.Alike other) :
      Alike (.send node sending) (.send node other)
  | spread {spread other : Spread} (spreads : spread.Alike other) :
      Alike (.spread spread) (.spread other)
  | stop (node : Nat) (stage : StopStage) : Alike (.stop node stage) (.stop node stage)
  | halt (node : Nat) : Alike (.halt node) (.halt node)

/-- Two callers with alike tasks.  What they are told may differ. -/
structure Caller.Alike (first second : Caller) : Prop where
  ticket_eq : second.ticket = first.ticket
  tasks : List.Forall₂ Task.Alike first.tasks second.tasks
  bare_eq : second.bare = first.bare

theorem Caller.Alike.goOn {first second : Caller} (alike : first.Alike second)
    {tasks others : List Task} (same : List.Forall₂ Task.Alike tasks others) :
    (first.goOn tasks).Alike (second.goOn others) :=
  ⟨alike.ticket_eq, same, alike.bare_eq⟩

theorem Caller.Alike.crash {first second : Caller} (alike : first.Alike second) :
    first.crash.Alike second.crash :=
  ⟨alike.ticket_eq, .nil, alike.bare_eq⟩

namespace Cluster

/-- Two clusters of alike nodes, on the same hub and with the same clock, in which alike calls are
under way. -/
structure Alike (first second : Cluster) : Prop where
  clock_eq : second.clock = first.clock
  nodes : ∀ index, Option.Rel Node.Alike (first.node? index) (second.node? index)
  hub_eq : second.hub = first.hub
  callers : List.Forall₂ Caller.Alike first.callers second.callers
  next_eq : second.nextTicket = first.nextTicket

/-- Two outcomes of handing something over. -/
inductive Handover.Alike : Handover → Handover → Prop where
  | done {after other : Cluster} (clusters : after.Alike other) : Alike (.done after) (.done other)
  | blocked : Alike .blocked .blocked
  | crashed {after other : Cluster} (clusters : after.Alike other) :
      Alike (.crashed after) (.crashed other)

/-- Two outcomes of handing on two messages. -/
inductive SpreadStep.Alike (message another : Message) : SpreadStep → SpreadStep → Prop where
  | moved {after other : Cluster} (clusters : after.Alike other) (left : List Member)
      (waited : Bool) :
      Alike message another (.moved after ⟨message, left, waited⟩)
        (.moved other ⟨another, left, waited⟩)
  | blocked : Alike message another .blocked .blocked
  | done {after other : Cluster} (clusters : after.Alike other) :
      Alike message another (.done after) (.done other)
  | crashed {after other : Cluster} (clusters : after.Alike other) :
      Alike message another (.crashed after) (.crashed other)

/-- Two outcomes of a step of a sending. -/
inductive SendStep.Alike : SendStep → SendStep → Prop where
  | moved {after other : Cluster} (clusters : after.Alike other) {sending another : Sending}
      (sendings : sending.Alike another) : Alike (.moved after sending) (.moved other another)
  | blocked : Alike .blocked .blocked
  | done {after other : Cluster} (clusters : after.Alike other)
      (result : Except ProduceError Unit) :
      Alike (.done after result) (.done other result)
  | crashed {after other : Cluster} (clusters : after.Alike other) :
      Alike (.crashed after) (.crashed other)

namespace Alike

variable {first second : Cluster} {index : Nat} {node other : Node}

theorem setNode (alike : first.Alike second) (index : Nat) (nodes : node.Alike other) :
    (first.setNode index node).Alike (second.setNode index other) where
  clock_eq := alike.clock_eq
  nodes := rel_set alike.nodes index nodes
  hub_eq := alike.hub_eq
  callers := alike.callers
  next_eq := alike.next_eq

theorem withHub (alike : first.Alike second) (hub : Hub Member Member) :
    Alike { first with hub := hub } { second with hub := hub } :=
  ⟨alike.clock_eq, alike.nodes, rfl, alike.callers, alike.next_eq⟩

theorem modifyNode (alike : first.Alike second) (index : Nat) {change another : Node → Node}
    (changes : ∀ node other, node.Alike other → (change node).Alike (another other)) :
    (first.modifyNode index change).Alike (second.modifyNode index another) where
  clock_eq := alike.clock_eq
  nodes place := by
    rw [node?_modifyNode, node?_modifyNode]
    split
    · exact rel_map (alike.nodes place) changes
    · exact alike.nodes place
  hub_eq := alike.hub_eq
  callers := alike.callers
  next_eq := alike.next_eq

/-! ## Delivery -/

theorem handle (alike : first.Alike second) (index : Nat) (nodes : node.Alike other)
    {body another : List UInt8} (bodies : Wire.Alike body another) :
    (first.handle index node body).1.Alike (second.handle index other another).1 ∧
      (second.handle index other another).2 = (first.handle index node body).2 := by
  have handled := nodes.core.receive bodies first.clock
  unfold Cluster.handle
  rw [alike.clock_eq]
  exact ⟨alike.setNode index (nodes.withCore handled.core), handled.crashed_eq⟩

theorem markIf (nodes : node.Alike other) (applies : Bool) (mark : Mark) :
    (markIf node applies mark).Alike (Cluster.markIf other applies mark) := by
  unfold Cluster.markIf
  split
  · exact nodes.mark mark
  · exact nodes

theorem deliverTo (alike : first.Alike second) (index : Nat) (nodes : node.Alike other)
    {message another : Message} (messages : message.Alike another) (waited : Bool) :
    (first.deliverTo index node message waited).Alike
      (second.deliverTo index other another waited) := by
  unfold Cluster.deliverTo
  rcases nodes.consumer.eq_direct_or_eq_striped with
    ⟨direct, plain⟩ | ⟨workers, others, striped, crewed, crews⟩
  · simp only [direct, plain]
    obtain ⟨handled, crashed_eq⟩ := alike.handle index nodes messages.body
    rw [crashed_eq]
    split
    · exact .crashed handled
    · exact .done handled
  · simp only [striped, crewed, messages.hash_eq]
    have offered := crews.offer message.hash messages.body
    generalize workers.offer message.hash message.body = outcome at offered
    generalize others.offer message.hash another.body = result at offered
    cases offered with
    | full => exact .blocked
    | closed => exact .done (alike.setNode index (nodes.mark _))
    | accepted crews =>
        exact .done (alike.setNode index (markIf (nodes.withConsumer (.striped crews)) _ _))

theorem deliver (alike : first.Alike second) (target : Member) {message another : Message}
    (messages : message.Alike another) (waited : Bool) :
    (first.deliver target message waited).Alike (second.deliver target another waited) := by
  unfold Cluster.deliver
  cases target with
  | observer =>
      exact .done ⟨alike.clock_eq, alike.nodes, alike.hub_eq, alike.callers, alike.next_eq⟩
  | outsider => exact .done alike
  | node index =>
      rcases eq_none_or_eq_some_of_rel (alike.nodes index) with
        ⟨none, absent⟩ | ⟨node, other, found, there, nodes⟩
      · simp only [none, absent]
        exact .done alike
      · simp only [found, there]
        exact alike.deliverTo index nodes messages waited

theorem spreadStep (alike : first.Alike second) {message another : Message}
    (messages : message.Alike another) (left : List Member) (waited : Bool) :
    (first.spreadStep ⟨message, left, waited⟩).Alike message another
      (second.spreadStep ⟨another, left, waited⟩) := by
  unfold Cluster.spreadStep
  cases left with
  | nil => exact .done alike
  | cons target rest =>
      have delivered := alike.deliver target messages waited
      dsimp only
      generalize first.deliver target message waited = outcome at delivered
      generalize second.deliver target another waited = result at delivered
      cases delivered with
      | done clusters => exact .moved clusters rest false
      | crashed clusters => exact .crashed clusters
      | blocked =>
          cases waited with
          | true => exact .blocked
          | false => exact .moved alike (target :: rest) true

/-! ## Sending -/

section Sending

variable {sending another : Sending}

theorem withStage (sendings : sending.Alike another) (recovery : Option RecoveryCall)
    (stage : SendStage) :
    Sending.Alike { sending with recovery := recovery, stage := stage }
      { another with recovery := recovery, stage := stage } :=
  ⟨sendings.job, rfl, rfl⟩

theorem atStage (sendings : sending.Alike another) (stage : SendStage) :
    (sending.atStage stage).Alike (another.atStage stage) :=
  ⟨sendings.job, sendings.recovery_eq, rfl⟩

theorem recoverWith (alike : first.Alike second) (index : Nat) (nodes : node.Alike other)
    (step : RecoveryStep) :
    (first.recoverWith index node step).Alike (second.recoverWith index other step) :=
  alike.setNode index ((nodes.withRecoveries _).markAll _)

theorem afterRecovery (alike : first.Alike second) (sendings : sending.Alike another)
    (call : RecoveryCall) (stage : SendStage) :
    (first.afterRecovery sending call stage).Alike (second.afterRecovery another call stage) := by
  unfold Cluster.afterRecovery
  split
  · exact .done alike _
  · exact .moved alike (withStage sendings _ _)

theorem sendFailed (alike : first.Alike second) (index : Nat) (nodes : node.Alike other)
    (sendings : sending.Alike another) (message : Message) (error : ChannelError) :
    (first.sendFailed index node sending message error).Alike
      (second.sendFailed index other another message error) := by
  unfold Cluster.sendFailed
  rw [sendings.recovery_eq, nodes.recoveries_eq, alike.clock_eq]
  split
  · split
    · exact .moved (alike.setNode index (nodes.withRecoveries _)) (withStage sendings _ _)
    · exact .done (alike.setNode index nodes) _
  · split
    · exact (alike.recoverWith index nodes _).afterRecovery sendings _ _
    · exact .done (alike.setNode index nodes) _

theorem transmit (alike : first.Alike second) (index : Nat) (nodes : node.Alike other)
    (sendings : sending.Alike another) (message : Message) :
    (first.transmit index node sending message).Alike
      (second.transmit index other another message) := by
  unfold Cluster.transmit
  rw [nodes.channel_eq, alike.hub_eq]
  split
  · exact alike.sendFailed index nodes sendings message _
  · exact .moved (alike.setNode index nodes) (atStage sendings _)

theorem callChannel (alike : first.Alike second) (index : Nat) (nodes : node.Alike other)
    (sendings : sending.Alike another) (message : Message) :
    (first.callChannel index node sending message).Alike
      (second.callChannel index other another message) := by
  unfold Cluster.callChannel
  rw [nodes.channel_eq]
  have called := nodes.withChannel (node.channel.log .send).nextFate.1
  dsimp only
  split
  · exact alike.transmit index called sendings message
  · exact .moved (alike.setNode index called) (atStage sendings _)
  · exact alike.sendFailed index called sendings message _
  · exact .crashed (alike.setNode index called)

theorem sendSucceeded (alike : first.Alike second) (index : Nat) (nodes : node.Alike other)
    (sendings : sending.Alike another) :
    (first.sendSucceeded index node sending).Alike (second.sendSucceeded index other another) := by
  have marks_eq : Sending.sentMarks another.job = Sending.sentMarks sending.job := by
    rw [Sending.sentMarks, Sending.sentMarks, sendings.job.config_eq]
  have counted := nodes.withChannel node.channel.countSent
  unfold Cluster.sendSucceeded
  rw [sendings.recovery_eq, alike.clock_eq, marks_eq]
  obtain ⟨_, _, _⟩ := nodes
  split
  · exact .done (alike.setNode index (counted.markAll _)) _
  · exact .done (alike.setNode index (((counted.withRecoveries _).markAll _).markAll _)) _

theorem resetSender (alike : first.Alike second) (index : Nat) (nodes : node.Alike other)
    (sendings : sending.Alike another) (message : Message) (call : RecoveryCall) :
    (first.resetSender index node sending message call).Alike
      (second.resetSender index other another message call) := by
  have logged := nodes.log .resetSender
  unfold Cluster.resetSender
  dsimp only
  rw [nodes.channel_eq, logged.recoveries_eq, alike.clock_eq]
  split
  · exact .crashed (alike.setNode index logged)
  · exact .moved (alike.setNode index logged) (withStage sendings _ _)

theorem recoverStep (alike : first.Alike second) (index : Nat) (nodes : node.Alike other)
    (sendings : sending.Alike another) (message : Message) (call : RecoveryCall) :
    (first.recoverStep index node sending message call).Alike
      (second.recoverStep index other another message call) := by
  unfold Cluster.recoverStep
  rw [nodes.recoveries_eq, alike.clock_eq]
  split
  · exact alike.resetSender index nodes sendings message call
  · exact (alike.recoverWith index nodes _).afterRecovery sendings _ _
  · split
    · exact (alike.recoverWith index nodes _).afterRecovery sendings _ _
    · exact .blocked
  · exact .moved alike (atStage sendings _)
  · exact .blocked

/-- An event is written without its values, as its cache is invalidated. -/
theorem encode_eq (nodes : node.Alike other) {job another : Job} (jobs : job.Alike another) :
    other.core.codec.encode another.event another.config.policy.includesValues =
      node.core.codec.encode job.event job.config.policy.includesValues := by
  obtain ⟨⟨_, _⟩, _, _⟩ := nodes
  rw [jobs.config_eq, jobs.discreet]
  exact jobs.event.encode_eq _

theorem sendStepAt (alike : first.Alike second) (index : Nat) (nodes : node.Alike other)
    (sendings : sending.Alike another) :
    (first.sendStepAt index node sending).Alike (second.sendStepAt index other another) := by
  have hash_eq : another.job.hash = sending.job.hash := sendings.job.event.hash_eq
  unfold Cluster.sendStepAt
  rw [sendings.stage_eq]
  split
  · dsimp only
    rw [encode_eq nodes sendings.job, hash_eq]
    split
    · exact .done alike _
    · exact .moved alike (atStage sendings _)
  · exact alike.callChannel index nodes sendings _
  · rw [nodes.channel_eq]
    split
    · exact alike.transmit index nodes sendings _
    · exact .blocked
  next spread _ =>
    -- The message is the same in both, as it was written without values.
    have step := alike.spreadStep (.refl spread.message) spread.left spread.waited
    generalize first.spreadStep spread = outcome at step
    generalize second.spreadStep spread = result at step
    cases step with
    | moved clusters left waited => exact .moved clusters (atStage sendings _)
    | blocked => exact .blocked
    | done clusters => exact clusters.sendSucceeded index nodes sendings
    | crashed clusters => exact .crashed clusters
  · rw [sendings.recovery_eq]
    split
    · exact .blocked
    · exact alike.recoverStep index nodes sendings _ _

theorem sendStep (alike : first.Alike second) (index : Nat) (sendings : sending.Alike another) :
    (first.sendStep index sending).Alike (second.sendStep index another) := by
  unfold Cluster.sendStep
  rcases eq_none_or_eq_some_of_rel (alike.nodes index) with
    ⟨none, absent⟩ | ⟨node, other, found, there, nodes⟩
  · simp only [none, absent]
    exact .blocked
  · simp only [found, there]
    exact alike.sendStepAt index nodes sendings

end Sending
end Alike
end Cluster
end CacheSync
