import CacheSync.Proofs.Secrecy.Steps

/-!
# Threads of clusters that differ in values

In one of two alike clusters a thread can take a step exactly if the same thread can in the other,
and the clusters are alike again.
-/

namespace CacheSync.Cluster

/-- Two outcomes of a step of a caller. -/
structure StepAlike (first second : Cluster × Caller) : Prop where
  clusters : first.1.Alike second.1
  callers : first.2.Alike second.2

namespace Alike

variable {first second : Cluster}

theorem pass (alike : first.Alike second) (nanos : Nat) :
    (first.pass nanos).Alike (second.pass nanos) where
  clock_eq := congrArg (·.advance nanos) alike.clock_eq
  nodes := alike.nodes
  hub_eq := alike.hub_eq
  callers := alike.callers
  next_eq := alike.next_eq

/-! ## Workers -/

theorem modifyProducer (alike : first.Alike second) (index : Nat)
    {change another : Workers Job Sending → Workers Job Sending}
    (changes : ∀ workers others, workers.Alike Job.Alike Sending.Alike others →
      (change workers).Alike Job.Alike Sending.Alike (another others)) :
    (first.modifyProducer index change).Alike (second.modifyProducer index another) :=
  alike.modifyNode index fun _ _ nodes => nodes.withProducer (nodes.producer.modify changes)

theorem modifyConsumer (alike : first.Alike second) (index : Nat)
    {change another : Workers (List UInt8) (List UInt8) → Workers (List UInt8) (List UInt8)}
    (changes : ∀ workers others, workers.Alike Wire.Alike Wire.Alike others →
      (change workers).Alike Wire.Alike Wire.Alike (another others)) :
    (first.modifyConsumer index change).Alike (second.modifyConsumer index another) :=
  alike.modifyNode index fun _ _ nodes => nodes.withConsumer (nodes.consumer.modify changes)

theorem settleProducer (alike : first.Alike second) (index stripe : Nat) (verdict : Verdict)
    (marks : List Mark) :
    (first.settleProducer index stripe verdict marks).Alike
      (second.settleProducer index stripe verdict marks) :=
  (alike.modifyNode index fun _ _ nodes => nodes.markAll _).modifyProducer index
    fun _ _ crews => crews.settle stripe verdict

theorem producerWork (alike : first.Alike second) (index stripe : Nat) {sending another : Sending}
    (sendings : sending.Alike another) :
    Option.Rel Alike (first.producerWork index stripe sending)
      (second.producerWork index stripe another) := by
  have marks_eq (result : Except ProduceError Unit) :
      resultMarks another.job result = resultMarks sending.job result := by
    unfold resultMarks
    rw [sendings.job.config_eq]
  have step := alike.sendStep index sendings
  unfold Cluster.producerWork
  generalize first.sendStep index sending = outcome at step
  generalize second.sendStep index another = result at step
  cases step with
  | moved clusters sendings =>
      exact .some (clusters.modifyProducer index fun _ _ crews =>
        crews.setWorker stripe (.busy sendings))
  | blocked => exact .none
  | done clusters result =>
      dsimp only
      rw [marks_eq]
      exact .some (clusters.settleProducer ..)
  | crashed clusters => exact .some (clusters.settleProducer ..)

/-- The workers of the producer of a node, if it has any. -/
theorem producers? (alike : first.Alike second) (index : Nat) :
    Option.Rel (Workers.Alike Job.Alike Sending.Alike)
      ((first.node? index).bind fun node => node.producer.workers?)
      ((second.node? index).bind fun node => node.producer.workers?) := by
  exact rel_bind (alike.nodes index) fun _ _ nodes => nodes.producer.workers?

theorem producerStep? (alike : first.Alike second) (index stripe : Nat) :
    Option.Rel Alike (first.producerStep? index stripe) (second.producerStep? index stripe) := by
  unfold Cluster.producerStep?
  rcases eq_none_or_eq_some_of_rel (alike.producers? index) with
    ⟨none, absent⟩ | ⟨workers, others, found, there, crews⟩
  · simp only [none, absent]
    exact .none
  · simp only [found, there]
    rcases eq_none_or_eq_some_of_rel (crews.work? stripe) with
      ⟨none, absent⟩ | ⟨sending, another, busy, occupied, sendings⟩
    · simp only [none, absent]
      have took := crews.take? Sending.ofJob (fun _ _ jobs => Sending.ofJob_alike jobs) stripe
      exact rel_map took fun _ _ crews => alike.modifyProducer index fun _ _ _ => crews
    · simp only [busy, occupied]
      exact alike.producerWork index stripe sendings

theorem consumerWork (alike : first.Alike second) (index stripe : Nat) {node other : Node}
    (nodes : node.Alike other) {body another : List UInt8} (bodies : Wire.Alike body another) :
    (first.consumerWork index stripe node body).Alike
      (second.consumerWork index stripe other another) := by
  obtain ⟨handled, crashed_eq⟩ := alike.handle index nodes bodies
  unfold Cluster.consumerWork
  dsimp only
  rw [crashed_eq]
  exact (handled.modifyNode index fun _ _ nodes => nodes.markAll _).modifyConsumer index
    fun _ _ crews => crews.settle stripe _

theorem consumerStep? (alike : first.Alike second) (index stripe : Nat) :
    Option.Rel Alike (first.consumerStep? index stripe) (second.consumerStep? index stripe) := by
  unfold Cluster.consumerStep?
  rcases eq_none_or_eq_some_of_rel (alike.nodes index) with
    ⟨none, absent⟩ | ⟨node, other, found, there, nodes⟩
  · simp only [none, absent]
    exact .none
  · simp only [found, there]
    rcases eq_none_or_eq_some_of_rel nodes.consumer.workers? with
      ⟨none, absent⟩ | ⟨workers, others, striped, crewed, crews⟩
    · simp only [none, absent]
      exact .none
    · simp only [striped, crewed]
      rcases eq_none_or_eq_some_of_rel (crews.work? stripe) with
        ⟨none, absent⟩ | ⟨body, another, busy, occupied, bodies⟩
      · simp only [none, absent]
        have took := crews.take? id (fun _ _ bodies => bodies) stripe
        exact rel_map took fun _ _ crews => alike.modifyConsumer index fun _ _ _ => crews
      · simp only [busy, occupied]
        exact .some (alike.consumerWork index stripe nodes bodies)

/-! ## Removal of timestamp records -/

theorem cleanerStep? (alike : first.Alike second) (index : Nat) :
    Option.Rel Alike (first.cleanerStep? index) (second.cleanerStep? index) := by
  unfold Cluster.cleanerStep?
  rw [alike.clock_eq]
  rcases eq_none_or_eq_some_of_rel (alike.nodes index) with
    ⟨none, absent⟩ | ⟨node, other, found, there, nodes⟩
  · simp only [none, absent]
    exact .none
  · simp only [found, there]
    have cores := nodes.core
    have cleanups_eq : other.core.cleanups = node.core.cleanups := by
      generalize node.core = core at cores
      generalize other.core = another at cores
      cases cores
      rfl
    rw [cleanups_eq]
    split
    · exact .none
    next cache expiration rest _ =>
      have dequeued : Core.Alike { node.core with cleanups := rest }
          { other.core with cleanups := rest } := by
        generalize node.core = core at cores
        generalize other.core = another at cores
        obtain ⟨shelves, discreet⟩ := cores
        exact .intro shelves discreet
      exact .some (alike.setNode index
        (nodes.withCore (dequeued.cleanUp cache expiration first.clock)))

/-! ## Callers -/

section Callers

variable {caller another : Caller} {rest others : List Task}

theorem notSent (alike : first.Alike second) (index : Nat) (callers : caller.Alike another)
    {job other : Job} (jobs : job.Alike other) (error : ProduceError) :
    StepAlike (first.notSent index caller job error)
      (second.notSent index another other error) := by
  unfold Cluster.notSent
  rw [callers.bare_eq, jobs.config_eq]
  split
  · exact ⟨alike, callers.ticket_eq, callers.tasks, rfl⟩
  · exact ⟨alike.modifyNode index fun _ _ nodes => nodes.mark _, callers⟩

theorem hearStep (alike : first.Alike second) (callers : caller.Alike another)
    (tasks : List.Forall₂ Task.Alike rest others) (index : Nat) {event other : Event}
    (events : event.Alike other) :
    Option.Rel StepAlike (first.hearStep caller rest index event)
      (second.hearStep another others index other) := by
  unfold Cluster.hearStep
  rcases eq_none_or_eq_some_of_rel (alike.nodes index) with
    ⟨none, absent⟩ | ⟨node, changed, found, there, nodes⟩
  · simp only [none, absent]
    exact .some ⟨alike, callers.goOn tasks⟩
  · obtain ⟨cores, config_eq, discreet⟩ := nodes.core.outbound events first.clock
    have decided := alike.setNode index (nodes.withCore cores)
    simp only [found, there]
    rw [alike.clock_eq, config_eq]
    -- The clusters get names, so that rewriting the node does not reach into them.
    generalize first.setNode index _ = after at decided ⊢
    generalize second.setNode index _ = later at decided ⊢
    rw [nodes.pipeline_eq]
    cases let_out : (node.core.outbound event first.clock).2 with
    | none => exact .some ⟨decided, callers.goOn tasks⟩
    | some config =>
        dsimp only
        split
        · exact .some ⟨decided, callers.goOn tasks⟩
        · have jobs : Job.Alike ⟨config, event⟩ ⟨config, other⟩ := ⟨rfl, discreet _ let_out, events⟩
          rcases nodes.producer.eq_direct_or_eq_striped with
            ⟨direct, plain⟩ | ⟨_, _, striped, crewed, _⟩
          · simp only [direct, plain]
            exact .some ⟨decided,
              callers.goOn (.cons (.send index (Sending.ofJob_alike jobs)) tasks)⟩
          · simp only [striped, crewed]
            exact .some ⟨decided, callers.goOn (.cons (.offer index jobs false) tasks)⟩

theorem offerStep (alike : first.Alike second) (callers : caller.Alike another)
    (tasks : List.Forall₂ Task.Alike rest others) (index : Nat) {job other : Job}
    (jobs : job.Alike other) (waited : Bool) :
    Option.Rel StepAlike (first.offerStep caller rest index job waited)
      (second.offerStep another others index other waited) := by
  have hash_eq : other.hash = job.hash := jobs.event.hash_eq
  unfold Cluster.offerStep
  rcases eq_none_or_eq_some_of_rel (alike.producers? index) with
    ⟨none, absent⟩ | ⟨workers, crew, found, there, crews⟩
  · simp only [none, absent]
    exact .some ⟨alike, callers.goOn tasks⟩
  · simp only [found, there, hash_eq]
    have offered := crews.offer job.hash jobs
    generalize workers.offer job.hash job = outcome at offered
    generalize crew.offer job.hash other = result at offered
    cases offered with
    | accepted crews =>
        exact .some ⟨(alike.modifyProducer index fun _ _ _ => crews).modifyNode index
          fun _ _ nodes => markIf nodes waited _, callers.goOn tasks⟩
    | full =>
        dsimp only
        split
        · exact .none
        · exact .some ⟨alike, callers.goOn (.cons (.offer index jobs true) tasks)⟩
    | closed => exact .some (alike.notSent index (callers.goOn tasks) jobs .closed)

theorem directStep (alike : first.Alike second) (callers : caller.Alike another)
    (tasks : List.Forall₂ Task.Alike rest others) (index : Nat) {sending other : Sending}
    (sendings : sending.Alike other) :
    Option.Rel StepAlike (first.directStep caller rest index sending)
      (second.directStep another others index other) := by
  have step := alike.sendStep index sendings
  unfold Cluster.directStep
  generalize first.sendStep index sending = outcome at step
  generalize second.sendStep index other = result at step
  cases step with
  | moved clusters sendings =>
      exact .some ⟨clusters, callers.goOn (.cons (.send index sendings) tasks)⟩
  | blocked => exact .none
  | done clusters result =>
      cases result with
      | ok _ => exact .some ⟨clusters, callers.goOn tasks⟩
      | error error => exact .some (clusters.notSent index (callers.goOn tasks) sendings.job error)
  | crashed clusters => exact .some ⟨clusters, callers.crash⟩

theorem outsideStep (alike : first.Alike second) (callers : caller.Alike another)
    (tasks : List.Forall₂ Task.Alike rest others) {spread other : Spread}
    (spreads : spread.Alike other) :
    Option.Rel StepAlike (first.outsideStep caller rest spread)
      (second.outsideStep another others other) := by
  cases spreads with
  | @intro message sent messages left waited =>
      have step := alike.spreadStep messages left waited
      unfold Cluster.outsideStep
      generalize first.spreadStep _ = outcome at step
      generalize second.spreadStep _ = result at step
      cases step with
      | moved clusters left waited =>
          exact .some ⟨clusters, callers.goOn (.cons (.spread (.intro messages left waited)) tasks)⟩
      | blocked => exact .none
      | done clusters => exact .some ⟨clusters, callers.goOn tasks⟩
      | crashed clusters => exact .some ⟨clusters, callers.crash⟩

theorem stopStep (alike : first.Alike second) (callers : caller.Alike another)
    (tasks : List.Forall₂ Task.Alike rest others) (index : Nat) (stage : StopStage) :
    Option.Rel StepAlike (first.stopStep caller rest index stage)
      (second.stopStep another others index stage) := by
  unfold Cluster.stopStep
  rcases eq_none_or_eq_some_of_rel (alike.nodes index) with
    ⟨none, absent⟩ | ⟨node, other, found, there, nodes⟩
  · simp only [none, absent]
    exact .some ⟨alike, callers.goOn tasks⟩
  · simp only [found, there]
    cases stage with
    | consumer =>
        dsimp only
        rw [nodes.consumer.allEnded_eq]
        split
        · exact .some ⟨alike.setNode index nodes.closeProducer,
            callers.goOn (.cons (.stop index .producer) tasks)⟩
        · exact .none
    | producer =>
        dsimp only
        rw [nodes.producer.allEnded_eq, alike.hub_eq]
        split
        · have stopping := nodes.finishStop (.node index) first.hub
          generalize node.finishStop (.node index) first.hub = one at stopping
          generalize other.finishStop (.node index) first.hub = another at stopping
          obtain ⟨_, hub, crashed⟩ := one
          obtain ⟨_, _, _⟩ := another
          obtain ⟨stopped, same⟩ := stopping
          cases same
          have after := (alike.setNode index stopped).withHub hub
          cases crashed with
          | true => exact .some ⟨after, callers.crash⟩
          | false => exact .some ⟨after, callers.goOn tasks⟩
        · exact .none

theorem haltStep (alike : first.Alike second) (callers : caller.Alike another)
    (tasks : List.Forall₂ Task.Alike rest others) (index : Nat) :
    Option.Rel StepAlike (first.haltStep caller rest index)
      (second.haltStep another others index) := by
  unfold Cluster.haltStep
  rcases eq_none_or_eq_some_of_rel (alike.nodes index) with
    ⟨none, absent⟩ | ⟨node, other, found, there, nodes⟩
  · simp only [none, absent]
    exact .some ⟨alike, callers.goOn tasks⟩
  · simp only [found, there]
    rw [nodes.producer.allEnded_eq]
    split
    · exact .some ⟨alike, callers.goOn tasks⟩
    · exact .none

theorem taskStep (alike : first.Alike second) (callers : caller.Alike another) {task other : Task}
    (same : task.Alike other) (tasks : List.Forall₂ Task.Alike rest others) :
    Option.Rel StepAlike (first.taskStep caller task rest)
      (second.taskStep another other others) := by
  cases same with
  | hear index events => exact alike.hearStep callers tasks index events
  | offer index jobs waited => exact alike.offerStep callers tasks index jobs waited
  | send index sendings => exact alike.directStep callers tasks index sendings
  | spread spreads => exact alike.outsideStep callers tasks spreads
  | stop index stage => exact alike.stopStep callers tasks index stage
  | halt index => exact alike.haltStep callers tasks index

theorem setCaller (alike : first.Alike second) (callers : caller.Alike another) :
    (first.setCaller caller).Alike (second.setCaller another) where
  clock_eq := alike.clock_eq
  nodes := alike.nodes
  hub_eq := alike.hub_eq
  callers := by
    refine List.rel_map (fun one other same => ?_) alike.callers
    rw [same.ticket_eq, callers.ticket_eq]
    split
    · exact callers
    · exact same
  next_eq := alike.next_eq

theorem caller? (alike : first.Alike second) (ticket : Nat) :
    Option.Rel Caller.Alike (first.caller? ticket) (second.caller? ticket) := by
  have callers := alike.callers
  unfold Cluster.caller?
  generalize first.callers = those at callers
  generalize second.callers = these at callers
  induction callers with
  | nil => exact .none
  | @cons caller another _ _ same _ inductionHypothesis =>
      rw [List.find?_cons, List.find?_cons, same.ticket_eq]
      split
      · exact .some same
      · exact inductionHypothesis

theorem callerStep? (alike : first.Alike second) (ticket : Nat) :
    Option.Rel Alike (first.callerStep? ticket) (second.callerStep? ticket) := by
  unfold Cluster.callerStep?
  rcases eq_none_or_eq_some_of_rel (alike.caller? ticket) with
    ⟨none, absent⟩ | ⟨caller, another, found, there, callers⟩
  · simp only [none, absent]
    exact .none
  · simp only [found, there]
    have tasks := callers.tasks
    generalize caller.tasks = left at tasks
    generalize another.tasks = remaining at tasks
    cases tasks with
    | nil => exact .none
    | cons same tasks =>
        exact rel_map (alike.taskStep callers same tasks) fun _ _ steps =>
          steps.clusters.setCaller steps.callers

end Callers

/-! ## All threads -/

theorem act? (alike : first.Alike second) (thread : Thread) :
    Option.Rel Alike (first.act? thread) (second.act? thread) := by
  cases thread with
  | caller ticket => exact alike.callerStep? ticket
  | producerWorker index stripe => exact alike.producerStep? index stripe
  | consumerWorker index stripe => exact alike.consumerStep? index stripe
  | cleaner index => exact alike.cleanerStep? index

theorem step? (alike : first.Alike second) (thread : Thread) :
    Option.Rel Alike (first.step? thread) (second.step? thread) := by
  exact rel_map (alike.act? thread) fun _ _ clusters => clusters.pass stepTime

end Alike
end CacheSync.Cluster
