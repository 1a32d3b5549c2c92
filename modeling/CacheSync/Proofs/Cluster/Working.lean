import CacheSync.Proofs.Cluster.Run
import CacheSync.Proofs.Node.Working
import CacheSync.Proofs.Ring.Load

/-!
# What the steps of the threads do to one node

One node of a cluster is watched.  `Cluster.Works` says what a step leaves of it, whatever else the
step does: a delivery, a stage of a sending, or a piece of the work of a crew.  A sending whose
message has reached everybody marks its event as sent; no other stage marks anything about events.
-/

namespace CacheSync

/-- Whether a task stops a node. -/
def Task.isStopOf (index : Nat) : Task → Bool
  | .stop node _ => node == index
  | _ => false

namespace Cluster

variable {cluster middle after : Cluster} {watched index : Nat} {made more : List Mark}
  {node changed : Node}

/-- How many subscriptions of a node there are on the hub. -/
def subscribed (cluster : Cluster) (index : Nat) : Nat :=
  cluster.hub.subscriptions.countP (·.1 = .node index)

theorem subscribed_of_hub (hub_eq : after.hub = cluster.hub) :
    after.subscribed watched = cluster.subscribed watched := by
  simp only [subscribed, hub_eq]

/-- What a step leaves of the watched node, in which these marks are made about events. -/
structure Works (cluster : Cluster) (watched : Nat) (made : List Mark) (after : Cluster) :
    Prop where
  node : ∀ {node : Node}, cluster.node? watched = some node → ∃ changed,
    after.node? watched = some changed ∧ node.Works made changed ∧ changed.producer = node.producer
  subscribed_eq : after.subscribed watched = cluster.subscribed watched
  calls_eq : after.calls = cluster.calls

namespace Works

theorem refl (cluster : Cluster) (watched : Nat) : cluster.Works watched [] cluster :=
  ⟨fun found => ⟨_, found, .refl _, rfl⟩, rfl, rfl⟩

theorem of_same (nodes_eq : after.nodes = cluster.nodes) (hub_eq : after.hub = cluster.hub)
    (calls_eq : after.calls = cluster.calls) : cluster.Works watched [] after where
  node {node} found := by
    refine ⟨node, ?_, .refl _, rfl⟩
    rw [node?, nodes_eq]
    exact found
  subscribed_eq := subscribed_of_hub hub_eq
  calls_eq := calls_eq

theorem trans (first : cluster.Works watched made middle)
    (second : middle.Works watched more after) : cluster.Works watched (made ++ more) after where
  node found := by
    obtain ⟨_, found, early, crew⟩ := first.node found
    obtain ⟨_, found, late, same⟩ := second.node found
    exact ⟨_, found, early.trans late, same.trans crew⟩
  subscribed_eq := second.subscribed_eq.trans first.subscribed_eq
  calls_eq := second.calls_eq.trans first.calls_eq

theorem of_modifyNode {change : Node → Node}
    (works : ∀ node, cluster.node? index = some node → node.Works made (change node))
    (same : ∀ node, (change node).producer = node.producer) :
    cluster.Works watched (if index = watched then made else [])
      (cluster.modifyNode index change) where
  node {node} found := by
    rw [node?_modifyNode]
    by_cases here : index = watched
    · subst here
      exact ⟨change node, by simp [found], by simpa using works node found, same node⟩
    · simp only [if_neg here, if_neg (Ne.symm here)]
      exact ⟨node, found, .refl node, rfl⟩
  subscribed_eq := rfl
  calls_eq := rfl

theorem of_modifyNode_unmarked {change : Node → Node}
    (works : ∀ node, cluster.node? index = some node → node.Works [] (change node))
    (same : ∀ node, (change node).producer = node.producer) :
    cluster.Works watched [] (cluster.modifyNode index change) := by
  have modified : cluster.Works watched (if index = watched then [] else []) _ :=
    of_modifyNode works same
  rwa [ite_self] at modified

theorem setNode (found : cluster.node? index = some node) (works : node.Works made changed)
    (same : changed.producer = node.producer) :
    cluster.Works watched (if index = watched then made else []) (cluster.setNode index changed)
    where
  node {other} held := by
    rw [node?_setNode found]
    by_cases here : index = watched
    · subst here
      obtain rfl := Option.some.inj (held.symm.trans found)
      simp only [↓reduceIte]
      exact ⟨changed, rfl, works, same⟩
    · simp only [if_neg (Ne.symm here), if_neg here]
      exact ⟨other, held, .refl _, rfl⟩
  subscribed_eq := rfl
  calls_eq := rfl

theorem setNode_unmarked (found : cluster.node? index = some node) (works : node.Works [] changed)
    (same : changed.producer = node.producer) :
    cluster.Works watched [] (cluster.setNode index changed) := by
  have set : cluster.Works watched (if index = watched then [] else []) _ :=
    setNode found works same
  rwa [ite_self] at set

/-- What is done to another node leaves the watched one alone. -/
theorem of_elsewhere (other : index ≠ watched)
    (nodes_eq : ∀ place, place ≠ index → after.node? place = cluster.node? place)
    (subscribed_eq : after.subscribed watched = cluster.subscribed watched)
    (calls_eq : after.calls = cluster.calls) : cluster.Works watched [] after where
  node {node} found := ⟨node, (nodes_eq watched (Ne.symm other)).trans found, .refl node, rfl⟩
  subscribed_eq := subscribed_eq
  calls_eq := calls_eq

end Works

/-! ## Deliveries -/

theorem handle_works (found : cluster.node? index = some node) (body : List UInt8) :
    cluster.Works watched [] (cluster.handle index node body).1 :=
  .setNode_unmarked found (.of_core (node.core.receive_lasts body cluster.clock)) rfl

/-- The outcome of a delivery leaves of the watched node what work leaves. -/
def Handover.Works (cluster : Cluster) (watched : Nat) : Handover → Prop
  | .done after => cluster.Works watched [] after
  | .blocked => True
  | .crashed after => cluster.Works watched [] after

theorem markIf_works (node : Node) (applies : Bool) (side : Side) :
    node.Works [] (markIf node applies (.ringFull side)) := by
  unfold markIf
  split
  · exact .of_core (.mark node.core rfl)
  · exact .refl node

theorem deliverTo_works (found : cluster.node? index = some node) (message : Message)
    (waited : Bool) : (cluster.deliverTo index node message waited).Works cluster watched := by
  unfold deliverTo
  cases crew : node.consumer with
  | direct =>
      have handled : cluster.Works watched [] (cluster.handle index node message.body).1 :=
        handle_works found message.body
      dsimp only
      split
      · exact handled
      · exact handled
  | striped workers =>
      dsimp only
      cases offered : workers.offer message.hash message.body with
      | full => trivial
      | closed => exact .setNode_unmarked found (.of_core (.mark node.core rfl)) rfl
      | accepted more =>
          have crashes_le : node.consumer.crashes ≤ (Crew.striped more).crashes := by
            rw [crew]
            exact Nat.le_of_eq
              (congrArg (List.countP Worker.hasCrashed) (Workers.workers_offer offered)).symm
          refine .setNode_unmarked found
            ((Node.Works.of_consumer crashes_le).trans (markIf_works _ waited .consumer)) ?_
          unfold markIf
          split <;> rfl

theorem deliver_works (cluster : Cluster) (watched : Nat) (target : Member) (message : Message)
    (waited : Bool) : (cluster.deliver target message waited).Works cluster watched := by
  cases target with
  | observer => exact .of_same rfl rfl rfl
  | outsider => exact .refl cluster watched
  | node index =>
      simp only [deliver]
      split
      · exact Works.refl cluster watched
      next found => exact deliverTo_works found message waited

def SpreadStep.Works (cluster : Cluster) (watched : Nat) : SpreadStep → Prop
  | .moved after _ => cluster.Works watched [] after
  | .blocked => True
  | .done after => after = cluster
  | .crashed after => cluster.Works watched [] after

theorem spreadStep_works (cluster : Cluster) (watched : Nat) (spread : Spread) :
    (cluster.spreadStep spread).Works cluster watched := by
  unfold spreadStep
  cases spread.left with
  | nil => rfl
  | cons target rest =>
      have delivered := cluster.deliver_works watched target spread.message spread.waited
      dsimp only
      split
      next after handed =>
        rw [handed] at delivered
        exact delivered
      next =>
        split
        · trivial
        · exact .refl cluster watched
      next after handed =>
        rw [handed] at delivered
        exact delivered

/-! ## Sendings -/

/-- The outcome of a step of a sending.  Nothing is marked about events until the sending has
succeeded. -/
def SendStep.Works (cluster : Cluster) (index watched : Nat) (job : Job) : SendStep → Prop
  | .moved after sending => cluster.Works watched [] after ∧ sending.job = job
  | .blocked => True
  | .done after (.ok ()) =>
      cluster.Works watched (if index = watched then Sending.sentMarks job else []) after
  | .done after (.error _) => cluster.Works watched [] after
  | .crashed after => cluster.Works watched [] after

/-- A node that has gone on since it was looked up. -/
structure Advanced (cluster : Cluster) (index : Nat) (node : Node) (changed : Node) : Prop where
  found : cluster.node? index = some node
  works : node.Works [] changed
  producer_eq : changed.producer = node.producer

namespace Advanced

variable {later : Node}

theorem refl (found : cluster.node? index = some node) : cluster.Advanced index node node :=
  ⟨found, .refl node, rfl⟩

theorem trans (advanced : cluster.Advanced index node changed) (works : changed.Works [] later)
    (same : later.producer = changed.producer) : cluster.Advanced index node later :=
  ⟨advanced.found, advanced.works.trans works, same.trans advanced.producer_eq⟩

theorem setNode (advanced : cluster.Advanced index node changed) :
    cluster.Works watched [] (cluster.setNode index changed) :=
  .setNode_unmarked advanced.found advanced.works advanced.producer_eq

theorem recoverWith (advanced : cluster.Advanced index node changed) {step : RecoveryStep}
    (fair : step.Fair changed.recoveries) :
    cluster.Works watched [] (cluster.recoverWith index changed step) :=
  (advanced.trans (.of_fair fair) rfl).setNode

end Advanced

section Stages

variable {sending : Sending} {message : Message}

theorem afterRecovery_works (works : cluster.Works watched [] middle) (sending : Sending)
    (call : RecoveryCall) (stage : SendStage) :
    (middle.afterRecovery sending call stage).Works cluster index watched sending.job := by
  unfold afterRecovery
  split
  · exact works
  · exact ⟨works, rfl⟩

theorem sendFailed_works (advanced : cluster.Advanced index node changed) (sending : Sending)
    (message : Message) (error : ChannelError) :
    (cluster.sendFailed index changed sending message error).Works cluster index watched
      sending.job := by
  unfold sendFailed
  cases sending.recovery with
  | none =>
      dsimp only
      split
      · exact ⟨(advanced.trans (.enter changed .producer cluster.clock) rfl).setNode, rfl⟩
      · exact advanced.setNode
  | some call =>
      dsimp only
      split
      · exact afterRecovery_works (advanced.recoverWith (Recoveries.fail_fair _ _ _ _ _ _)) _ _ _
      · exact advanced.setNode

theorem transmit_works (advanced : cluster.Advanced index node changed) (sending : Sending)
    (message : Message) :
    (cluster.transmit index changed sending message).Works cluster index watched sending.job := by
  unfold transmit
  split
  · exact sendFailed_works advanced sending message _
  · exact ⟨advanced.setNode, rfl⟩

theorem nextFate_fst (channel : Channel) :
    channel.nextFate.1.closed = channel.closed ∧ channel.nextFate.1.faults = channel.faults := by
  unfold Channel.nextFate
  split
  · exact ⟨rfl, rfl⟩
  · split <;> exact ⟨rfl, rfl⟩

theorem callChannel_works (found : cluster.node? index = some node) (sending : Sending)
    (message : Message) :
    (cluster.callChannel index node sending message).Works cluster index watched sending.job := by
  obtain ⟨closed_eq, faults_eq⟩ := nextFate_fst (node.channel.log .send)
  have advanced : cluster.Advanced index node
      { node with channel := (node.channel.log .send).nextFate.1 } :=
    ⟨found, .of_channel closed_eq faults_eq, rfl⟩
  unfold callChannel
  dsimp only
  split
  · exact transmit_works advanced sending message
  · exact ⟨advanced.setNode, rfl⟩
  · exact sendFailed_works advanced sending message _
  · exact advanced.setNode

/-- A sending that succeeds marks its event as sent, and once only. -/
theorem sendSucceeded_works (found : cluster.node? index = some node) (sending : Sending) :
    (cluster.sendSucceeded index node sending).Works cluster index watched sending.job := by
  have counted : cluster.Advanced index node { node with channel := node.channel.countSent } :=
    ⟨found, .of_channel rfl rfl, rfl⟩
  have marks (advanced : Node) : advanced.Works (Sending.sentMarks sending.job)
      (advanced.markAll (Sending.sentMarks sending.job)) :=
    .markAll advanced _ (by simp [Sending.sentMarks])
  unfold sendSucceeded
  cases sending.recovery with
  | none => exact .setNode found (counted.works.trans (marks _)) rfl
  | some call =>
      have recovered := counted.trans (.of_fair
        (Recoveries.conclude_fair node.recoveries call cluster.clock none)) rfl
      exact .setNode found (recovered.works.trans (marks _)) rfl

theorem resetSender_works (found : cluster.node? index = some node) (sending : Sending)
    (message : Message) (call : RecoveryCall) :
    (cluster.resetSender index node sending message call).Works cluster index watched
      sending.job := by
  have advanced : cluster.Advanced index node (node.log .resetSender) :=
    ⟨found, .of_channel rfl rfl, rfl⟩
  unfold resetSender
  dsimp only
  split
  · exact advanced.setNode
  · exact ⟨advanced.setNode, rfl⟩

theorem recoverStep_works (found : cluster.node? index = some node) (sending : Sending)
    (message : Message) (call : RecoveryCall) :
    (cluster.recoverStep index node sending message call).Works cluster index watched
      sending.job := by
  have advanced := Advanced.refl found
  unfold recoverStep
  cases call.phase with
  | cleaning => exact resetSender_works found sending message call
  | deciding course =>
      exact afterRecovery_works (advanced.recoverWith (Recoveries.decide_fair _ _ _ _)) _ _ _
  | waiting course wake =>
      dsimp only
      split
      · exact afterRecovery_works (advanced.recoverWith (Recoveries.wake_fair _ _ _ _)) _ _ _
      · trivial
  | attempting course => exact ⟨.refl cluster watched, rfl⟩
  | ended failure => trivial

theorem sendStepAt_works (found : cluster.node? index = some node) (sending : Sending) :
    (cluster.sendStepAt index node sending).Works cluster index watched sending.job := by
  unfold sendStepAt
  cases sending.stage with
  | encoding =>
      dsimp only
      split
      · exact .refl cluster watched
      · exact ⟨.refl cluster watched, rfl⟩
  | calling message => exact callChannel_works found sending message
  | held message =>
      dsimp only
      split
      · exact transmit_works (.refl found) sending message
      · trivial
  | spreading spread =>
      have handed := cluster.spreadStep_works watched spread
      dsimp only
      split
      next after rest stepped =>
        rw [stepped] at handed
        exact ⟨handed, rfl⟩
      next => trivial
      next after stepped =>
        rw [stepped] at handed
        obtain rfl : after = cluster := handed
        exact sendSucceeded_works found sending
      next after stepped =>
        rw [stepped] at handed
        exact handed
  | recovering message =>
      cases sending.recovery with
      | none => trivial
      | some call => exact recoverStep_works found sending message call

theorem sendStep_works (cluster : Cluster) (index watched : Nat) (sending : Sending) :
    (cluster.sendStep index sending).Works cluster index watched sending.job := by
  unfold sendStep
  split
  · trivial
  next found => exact sendStepAt_works found sending

end Stages

/-! ## Crews -/

/-- What a step leaves of the watched node, whatever it marks and whichever crew it is a step
of. -/
structure Retains (cluster : Cluster) (watched : Nat) (after : Cluster) : Prop where
  node : ∀ {node : Node}, cluster.node? watched = some node → ∃ changed made,
    after.node? watched = some changed ∧ node.Works made changed
  subscribed_eq : after.subscribed watched = cluster.subscribed watched
  calls_eq : after.calls = cluster.calls

theorem Works.retains (works : cluster.Works watched made after) :
    cluster.Retains watched after where
  node found := by
    obtain ⟨changed, here, works, _⟩ := works.node found
    exact ⟨changed, made, here, works⟩
  subscribed_eq := works.subscribed_eq
  calls_eq := works.calls_eq

namespace Retains

theorem trans (first : cluster.Retains watched middle) (second : middle.Retains watched after) :
    cluster.Retains watched after where
  node found := by
    obtain ⟨_, _, found, early⟩ := first.node found
    obtain ⟨_, _, found, late⟩ := second.node found
    exact ⟨_, _, found, early.trans late⟩
  subscribed_eq := second.subscribed_eq.trans first.subscribed_eq
  calls_eq := second.calls_eq.trans first.calls_eq

theorem refl (cluster : Cluster) (watched : Nat) : cluster.Retains watched cluster :=
  (Works.refl cluster watched).retains

theorem of_modifyNode {change : Node → Node}
    (works : ∀ node, cluster.node? index = some node → ∃ made, node.Works made (change node)) :
    cluster.Retains watched (cluster.modifyNode index change) where
  node {node} found := by
    rw [node?_modifyNode]
    by_cases here : watched = index
    · subst here
      obtain ⟨made, works⟩ := works node found
      exact ⟨change node, made, by simp [found], works⟩
    · simp only [if_neg here]
      exact ⟨node, [], found, .refl node⟩
  subscribed_eq := rfl
  calls_eq := rfl

theorem of_setNode (found : cluster.node? index = some node) (works : node.Works made changed) :
    cluster.Retains watched (cluster.setNode index changed) where
  node {other} held := by
    rw [node?_setNode found]
    by_cases here : watched = index
    · subst here
      obtain rfl := Option.some.inj (held.symm.trans found)
      rw [if_pos rfl]
      exact ⟨changed, made, rfl, works⟩
    · rw [if_neg here]
      exact ⟨other, [], held, .refl other⟩
  subscribed_eq := rfl
  calls_eq := rfl

theorem of_producer {change : Workers Job Sending → Workers Job Sending}
    (grows : ∀ node workers, cluster.node? index = some node → node.producer = .striped workers →
      workers.crashes ≤ (change workers).crashes) :
    cluster.Retains watched (cluster.modifyProducer index change) := by
  refine of_modifyNode fun node found => ⟨[], .of_producer ?_⟩
  cases crew : node.producer with
  | direct => exact Nat.le_refl _
  | striped workers => exact grows node workers found crew

end Retains

theorem Works.of_consumer
    {change : Workers (List UInt8) (List UInt8) → Workers (List UInt8) (List UInt8)}
    (grows : ∀ node workers, cluster.node? index = some node → node.consumer = .striped workers →
      workers.crashes ≤ (change workers).crashes) :
    cluster.Works watched [] (cluster.modifyConsumer index change) := by
  refine .of_modifyNode_unmarked (fun node found => .of_consumer ?_) fun _ => rfl
  cases crew : node.consumer with
  | direct => exact Nat.le_refl _
  | striped workers => exact grows node workers found crew

theorem workers?_eq_some {α ω : Type} {crew : Crew α ω} {workers : Workers α ω}
    (found : crew.workers? = some workers) : crew = .striped workers := by
  cases crew with
  | direct => cases found
  | striped one =>
      injection found with same
      rw [same]

theorem not_mem_verdictMarks (side other : Side) (verdict : Verdict) :
    Mark.recoveryFailed other ∉ Workers.verdictMarks side verdict := by
  cases verdict <;> simp [Workers.verdictMarks]

theorem not_mem_resultMarks (job : Job) (result : Except ProduceError Unit) (side : Side) :
    Mark.recoveryFailed side ∉ resultMarks job result := by
  unfold resultMarks
  split <;> simp

theorem settleProducer_retains {stripe : Nat} {work : Sending}
    (busy : ∀ node workers, cluster.node? index = some node → node.producer = .striped workers →
      workers.work? stripe = some work)
    (verdict : Verdict) {marks : List Mark} (apart : ∀ side, Mark.recoveryFailed side ∉ marks) :
    cluster.Retains watched (cluster.settleProducer index stripe verdict marks) := by
  refine .trans (.of_modifyNode fun node _ => ⟨_, .markAll node _ fun side member => ?_⟩)
    (.of_producer fun node workers found crew => ?_)
  · rcases List.mem_append.1 member with early | late
    · exact apart side early
    · exact not_mem_verdictMarks _ _ _ late
  · rw [node?_modifyNode, if_pos rfl] at found
    obtain ⟨before, held, rfl⟩ := Option.map_eq_some_iff.1 found
    exact Workers.countP_settle _ (fun _ => rfl) (busy before workers held crew) verdict

theorem producerStep?_retains {stripe : Nat}
    (stepped : cluster.producerStep? index stripe = some after) :
    cluster.Retains watched after := by
  unfold producerStep? at stepped
  split at stepped
  · cases stepped
  next workers crew =>
    obtain ⟨node, found, crew⟩ := Option.bind_eq_some_iff.1 crew
    have striped := workers?_eq_some crew
    split at stepped
    next sending busy =>
      have sent := cluster.sendStep_works index watched sending
      have here := cluster.sendStep_works index index sending
      -- A step of the sending leaves the worker busy with it.
      have stays {middle : Cluster} {made : List Mark} (works : cluster.Works index made middle)
          (changed : Node) (held : Workers Job Sending) (found' : middle.node? index = some changed)
          (shape : changed.producer = .striped held) : held.work? stripe = some sending := by
        obtain ⟨_, again, _, same⟩ := works.node found
        obtain rfl := Option.some.inj (again.symm.trans found')
        rw [same, striped] at shape
        injection shape with same
        rw [← same]
        exact busy
      unfold producerWork at stepped
      split at stepped
      next moved next outcome =>
        rw [outcome] at sent here
        injection stepped with same
        subst same
        refine sent.1.retains.trans (.of_producer fun changed held found' shape => ?_)
        exact Workers.countP_setWorker_le _
          (Workers.of_work? (stays here.1 changed held found' shape)) rfl _
      · cases stepped
      next done result outcome =>
        rw [outcome] at sent here
        injection stepped with same
        subst same
        cases result with
        | ok _ =>
            exact sent.retains.trans
              (settleProducer_retains (stays here) _ (not_mem_resultMarks _ _))
        | error _ =>
            exact sent.retains.trans
              (settleProducer_retains (stays here) _ (not_mem_resultMarks _ _))
      next crashed outcome =>
        rw [outcome] at sent here
        injection stepped with same
        subst same
        exact sent.retains.trans (settleProducer_retains (stays here) _ (by simp))
    · obtain ⟨later, taken, rfl⟩ := Option.map_eq_some_iff.1 stepped
      refine .of_producer fun held workers found' shape => ?_
      obtain rfl := Option.some.inj (found.symm.trans found')
      rw [striped] at shape
      injection shape with same
      rw [← same]
      exact Workers.countP_take? _ rfl taken

/-- Neither a worker of a consumer nor a cleaner reports anything about events that are sent. -/
theorem consumerStep?_works {stripe : Nat}
    (stepped : cluster.consumerStep? index stripe = some after) :
    cluster.Works watched [] after := by
  unfold consumerStep? at stepped
  split at stepped
  · cases stepped
  next node found =>
    split at stepped
    · cases stepped
    next workers crew =>
      have striped := workers?_eq_some crew
      split at stepped
      next body busy =>
        injection stepped with same
        subst same
        have marked (node : Node) (verdict : Verdict) :
            node.Works [] (node.markAll (Workers.verdictMarks .consumer verdict)) :=
          (Node.Works.markAll node _ (not_mem_verdictMarks _ · _)).congr
            (fun _ => by cases verdict <;> rfl) fun _ => by cases verdict <;> rfl
        refine ((handle_works found body).trans (.of_modifyNode_unmarked
          (fun node _ => marked node _) fun _ => rfl)).trans (.of_consumer ?_)
        intro changed held found' shape
        -- Handling a message leaves the workers as they are.
        simp only [handle, node?_modifyNode, node?_setNode found, ↓reduceIte, Option.map_some,
          Option.some.injEq] at found'
        rw [← found'] at shape
        obtain rfl : workers = held := by
          rw [striped] at shape
          injection shape
        exact Workers.countP_settle _ (fun _ => rfl) busy _
      · obtain ⟨later, taken, rfl⟩ := Option.map_eq_some_iff.1 stepped
        refine .of_consumer fun held workers found' shape => ?_
        obtain rfl := Option.some.inj (found.symm.trans found')
        rw [striped] at shape
        injection shape with same
        rw [← same]
        exact Workers.countP_take? _ rfl taken

theorem cleanerStep?_works (stepped : cluster.cleanerStep? index = some after) :
    cluster.Works watched [] after := by
  obtain ⟨node, cache, expiration, rest, found, _, rfl⟩ := of_cleanerStep? stepped
  have dequeued : node.core.Lasts { node.core with cleanups := rest } :=
    ⟨rfl, fun _ _ => rfl, fun _ none => none⟩
  exact .setNode_unmarked found
    (.of_core (dequeued.trans (Core.cleanUp_lasts _ cache expiration cluster.clock))) rfl

/-! ## Callers -/

/-- A step of a caller changes neither the calls of others nor whose call it is, and goes on with
the same kind of task, with the next one, or with none. -/
structure Proceeds (cluster : Cluster) (caller : Caller) (task : Task) (rest : List Task)
    (after : Cluster) (changed : Caller) : Prop where
  calls_eq : after.calls = cluster.calls
  ticket_eq : changed.ticket = caller.ticket
  bare_eq : changed.bare = caller.bare
  tasks : changed.tasks = [] ∨ changed.tasks = rest ∨
    ∃ next, changed.tasks = next :: rest ∧ ∀ index, next.isStopOf index = task.isStopOf index

section Tasks

variable {caller further : Caller} {task : Task} {rest : List Task}

theorem Proceeds.over (calls_eq : after.calls = cluster.calls) :
    cluster.Proceeds caller task rest after (caller.goOn rest) :=
  ⟨calls_eq, rfl, rfl, Or.inr (Or.inl rfl)⟩

theorem Proceeds.next (calls_eq : after.calls = cluster.calls) {next : Task}
    (alike : ∀ index, next.isStopOf index = task.isStopOf index) :
    cluster.Proceeds caller task rest after (caller.goOn (next :: rest)) :=
  ⟨calls_eq, rfl, rfl, Or.inr (Or.inr ⟨next, rfl, alike⟩)⟩

theorem Proceeds.crash (calls_eq : after.calls = cluster.calls) :
    cluster.Proceeds caller task rest after caller.crash :=
  ⟨calls_eq, rfl, rfl, Or.inl rfl⟩

theorem hearStep_retains {event : Event}
    (stepped : cluster.hearStep caller rest index event = some (after, further)) :
    cluster.Retains watched after ∧
      cluster.Proceeds caller (.hear index event) rest after further := by
  unfold hearStep at stepped
  split at stepped
  · cases stepped
    exact ⟨.refl cluster watched, .over rfl⟩
  next node found =>
    have decided : cluster.Works watched [] _ :=
      .setNode_unmarked found (.of_core (node.core.outbound_lasts event cluster.clock)) rfl
    dsimp only at stepped
    split at stepped
    · cases stepped
      exact ⟨decided.retains, .over decided.calls_eq⟩
    · split at stepped
      · cases stepped
        exact ⟨decided.retains, .over decided.calls_eq⟩
      · cases stepped
        refine ⟨decided.retains, .next decided.calls_eq fun place => ?_⟩
        split <;> rfl

/-- A bus counts an event that it could not send. -/
theorem notSent_of_loyal (loyal : caller.bare = false) (tasks : List Task) (job : Job)
    (error : ProduceError) : cluster.notSent index (caller.goOn tasks) job error =
      (cluster.modifyNode index fun node => node.mark (.produceFailed job.config.name),
        caller.goOn tasks) := by
  simp only [notSent, Caller.goOn, loyal, Bool.false_eq_true, ↓reduceIte]

theorem mark_produceFailed_retains (retains : cluster.Retains watched middle) (index : Nat)
    (cache : String) :
    cluster.Retains watched
      (middle.modifyNode index fun node => node.mark (.produceFailed cache)) :=
  retains.trans (.of_modifyNode fun node _ => ⟨_, .markAll node [_] (by simp)⟩)

theorem offerStep_retains {job : Job} {waited : Bool} (loyal : caller.bare = false)
    (stepped : cluster.offerStep caller rest index job waited = some (after, further)) :
    cluster.Retains watched after ∧
      cluster.Proceeds caller (.offer index job waited) rest after further := by
  unfold offerStep at stepped
  split at stepped
  · cases stepped
    exact ⟨.refl cluster watched, .over rfl⟩
  next workers crew =>
    obtain ⟨node, found, crew⟩ := Option.bind_eq_some_iff.1 crew
    have striped := workers?_eq_some crew
    split at stepped
    next accepted offered =>
      cases stepped
      refine ⟨.trans (.of_producer fun held workers found' shape => ?_)
        (.of_modifyNode fun node _ => ⟨[], markIf_works node waited .producer⟩), .over rfl⟩
      obtain rfl := Option.some.inj (found.symm.trans found')
      rw [striped] at shape
      injection shape with same
      rw [← same]
      exact Nat.le_of_eq
        (congrArg (List.countP Worker.hasCrashed) (Workers.workers_offer offered)).symm
    next =>
      split at stepped
      · cases stepped
      · cases stepped
        exact ⟨.refl cluster watched, .next rfl fun _ => rfl⟩
    next =>
      rw [notSent_of_loyal loyal] at stepped
      cases stepped
      exact ⟨mark_produceFailed_retains (.refl cluster watched) index _, .over rfl⟩

theorem directStep_retains {sending : Sending} (loyal : caller.bare = false)
    (stepped : cluster.directStep caller rest index sending = some (after, further)) :
    cluster.Retains watched after ∧
      cluster.Proceeds caller (.send index sending) rest after further := by
  have sent := cluster.sendStep_works index watched sending
  unfold directStep at stepped
  split at stepped
  next moved next outcome =>
    rw [outcome] at sent
    cases stepped
    exact ⟨sent.1.retains, .next sent.1.calls_eq fun _ => rfl⟩
  · cases stepped
  next done outcome =>
    rw [outcome] at sent
    cases stepped
    exact ⟨sent.retains, .over sent.calls_eq⟩
  next done error outcome =>
    rw [outcome] at sent
    rw [notSent_of_loyal loyal] at stepped
    cases stepped
    exact ⟨mark_produceFailed_retains sent.retains index _, .over sent.calls_eq⟩
  next crashed outcome =>
    rw [outcome] at sent
    cases stepped
    exact ⟨sent.retains, .crash sent.calls_eq⟩

theorem outsideStep_retains {spread : Spread}
    (stepped : cluster.outsideStep caller rest spread = some (after, further)) :
    cluster.Retains watched after ∧
      cluster.Proceeds caller (.spread spread) rest after further := by
  have handed := cluster.spreadStep_works watched spread
  unfold outsideStep at stepped
  split at stepped
  next moved next outcome =>
    rw [outcome] at handed
    cases stepped
    exact ⟨handed.retains, .next handed.calls_eq fun _ => rfl⟩
  · cases stepped
  next done outcome =>
    rw [outcome] at handed
    obtain rfl : done = cluster := handed
    cases stepped
    exact ⟨.refl _ watched, .over rfl⟩
  next crashed outcome =>
    rw [outcome] at handed
    cases stepped
    exact ⟨handed.retains, .crash handed.calls_eq⟩

theorem haltStep_retains
    (stepped : cluster.haltStep caller rest index = some (after, further)) :
    cluster.Retains watched after ∧ cluster.Proceeds caller (.halt index) rest after further := by
  unfold haltStep at stepped
  split at stepped
  · cases stepped
    exact ⟨.refl _ watched, .over rfl⟩
  · split at stepped
    · cases stepped
      exact ⟨.refl _ watched, .over rfl⟩
    · cases stepped

/-- Every task but that of stopping the watched node. -/
theorem taskStep_retains (loyal : caller.bare = false)
    (stepped : cluster.taskStep caller task rest = some (after, further))
    (other : ∀ index stage, task ≠ .stop index stage) :
    cluster.Retains watched after ∧ cluster.Proceeds caller task rest after further := by
  cases task with
  | hear index event => exact hearStep_retains stepped
  | offer index job waited => exact offerStep_retains loyal stepped
  | send index sending => exact directStep_retains loyal stepped
  | spread spread => exact outsideStep_retains stepped
  | stop index stage => exact absurd rfl (other index stage)
  | halt index => exact haltStep_retains stepped

end Tasks

end Cluster
end CacheSync
