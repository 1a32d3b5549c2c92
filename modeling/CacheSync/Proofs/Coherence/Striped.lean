import CacheSync.Proofs.Coherence.Crews

/-!
# Exact replication through striped pipelines

A cluster of a leader and a follower is tied to a `Route` by `Replicating`.  Every step of every
thread moves one event along the route, or none, and every operation of the leader adds one.  So
when no event is left on the way, the follower holds exactly what the leader holds.
-/

namespace CacheSync

open StripedRing (stripeAmong)

/-! ## Clusters of the two -/

/-- The tasks of a call whose event the bus is being told of. -/
inductive Tells (leader : Nat) : List Task → List Event → Prop where
  | none : Tells leader [] []
  | hear {event : Event} : Tells leader [.hear leader event] [event]
  | offer {job : Job} {waited : Bool} : job.config.policy = .replicated →
      Tells leader [.offer leader job waited] [job.event]

namespace Cluster

/-- A cluster of a leader and a follower, with the events between them. -/
structure Replicating (cluster : Cluster) (cache : String) (leader follower outs ins : Nat)
    (route : Route) : Prop where
  apart : leader ≠ follower
  only : ∀ {index : Nat} {node : Node}, cluster.node? index = some node →
    index = leader ∨ index = follower
  once : (cluster.hub.targets (.node leader)).count (.node follower) = 1
  away : .node leader ∉ cluster.hub.targets (.node leader)
  calls : ∃ ticket tasks, cluster.Busy ticket tasks ∧ Tells leader tasks route.told
  leads : ∃ node, cluster.node? leader = some node ∧
    node.Leader cache leader follower outs route.leaving route.here
  follows : ∃ node, cluster.node? follower = some node ∧
    node.Follower cache ins route.arriving route.there

namespace Replicating

variable {cluster after : Cluster} {cache : String} {leader follower outs ins : Nat}
  {route : Route}

theorem leader_of (replicating : cluster.Replicating cache leader follower outs ins route)
    {node : Node} (found : cluster.node? leader = some node) :
    node.Leader cache leader follower outs route.leaving route.here := by
  obtain ⟨node', found', leads⟩ := replicating.leads
  rw [found] at found'
  injection found' with same
  rw [same]
  exact leads

theorem follower_of (replicating : cluster.Replicating cache leader follower outs ins route)
    {node : Node} (found : cluster.node? follower = some node) :
    node.Follower cache ins route.arriving route.there := by
  obtain ⟨node', found', follows⟩ := replicating.follows
  rw [found] at found'
  injection found' with same
  rw [same]
  exact follows

/-- When no call is under way, the bus is told of nothing. -/
theorem told_eq_nil (replicating : cluster.Replicating cache leader follower outs ins route)
    (idle : cluster.Idle) : route.told = [] := by
  obtain ⟨ticket, tasks, busy, tells⟩ := replicating.calls
  rw [busy.tasks_eq_nil idle] at tells
  generalize route.told = told at tells ⊢
  cases tells with
  | none => rfl

theorem setLeader (replicating : cluster.Replicating cache leader follower outs ins route)
    {changed : Node} {leaving : Nat → List Event} {here : Contents}
    (leads : changed.Leader cache leader follower outs leaving here)
    (nodes : ∀ other, after.node? other =
      if other = leader then some changed else cluster.node? other)
    (hub_eq : after.hub = cluster.hub) (calls_eq : after.calls = cluster.calls) :
    after.Replicating cache leader follower outs ins
      { route with leaving := leaving, here := here } where
  apart := replicating.apart
  only found := by
    rw [nodes] at found
    split at found
    next same => exact Or.inl same
    next => exact replicating.only found
  once := by
    rw [hub_eq]
    exact replicating.once
  away := by
    rw [hub_eq]
    exact replicating.away
  calls := by
    obtain ⟨ticket, tasks, busy, tells⟩ := replicating.calls
    exact ⟨ticket, tasks, busy.of_calls calls_eq, tells⟩
  leads := ⟨changed, by rw [nodes, if_pos rfl], leads⟩
  follows := by
    rw [nodes, if_neg replicating.apart.symm]
    exact replicating.follows

theorem setFollower (replicating : cluster.Replicating cache leader follower outs ins route)
    {changed : Node} {arriving : Nat → List Event} {there : Contents}
    (follows : changed.Follower cache ins arriving there)
    (nodes : ∀ other, after.node? other =
      if other = follower then some changed else cluster.node? other)
    (hub_eq : after.hub = cluster.hub) (calls_eq : after.calls = cluster.calls) :
    after.Replicating cache leader follower outs ins
      { route with arriving := arriving, there := there } where
  apart := replicating.apart
  only found := by
    rw [nodes] at found
    split at found
    next same => exact Or.inr same
    next => exact replicating.only found
  once := by
    rw [hub_eq]
    exact replicating.once
  away := by
    rw [hub_eq]
    exact replicating.away
  calls := by
    obtain ⟨ticket, tasks, busy, tells⟩ := replicating.calls
    exact ⟨ticket, tasks, busy.of_calls calls_eq, tells⟩
  leads := by
    rw [nodes, if_neg replicating.apart]
    exact replicating.leads
  follows := ⟨changed, by rw [nodes, if_pos rfl], follows⟩

/-- Nothing but the calls is changed. -/
theorem setCalls (replicating : cluster.Replicating cache leader follower outs ins route)
    {told : List Event} (nodes_eq : after.nodes = cluster.nodes) (hub_eq : after.hub = cluster.hub)
    (calls : ∃ ticket tasks, after.Busy ticket tasks ∧ Tells leader tasks told) :
    after.Replicating cache leader follower outs ins { route with told := told } := by
  have nodes : after.node? = cluster.node? := by
    unfold node?
    rw [nodes_eq]
  refine ⟨replicating.apart, ?_, ?_, ?_, calls, ?_, ?_⟩
  · intro index node found
    rw [nodes] at found
    exact replicating.only found
  · rw [hub_eq]
    exact replicating.once
  · rw [hub_eq]
    exact replicating.away
  · rw [nodes]
    exact replicating.leads
  · rw [nodes]
    exact replicating.follows

/-! ## Steps of a cluster -/

/-- The leader is changed, and nothing else. -/
theorem modifyLeader (replicating : cluster.Replicating cache leader follower outs ins route)
    {node : Node} (found : cluster.node? leader = some node) (change : Node → Node)
    {leaving : Nat → List Event} {here : Contents}
    (leads : (change node).Leader cache leader follower outs leaving here) :
    (cluster.modifyNode leader change).Replicating cache leader follower outs ins
      { route with leaving := leaving, here := here } := by
  refine replicating.setLeader leads ?_ rfl rfl
  intro other
  rw [node?_modifyNode]
  split
  next same => rw [same, found, Option.map_some]
  next => rfl

/-- The follower is changed, and nothing else. -/
theorem modifyFollower (replicating : cluster.Replicating cache leader follower outs ins route)
    {node : Node} (found : cluster.node? follower = some node) (change : Node → Node)
    {arriving : Nat → List Event} {there : Contents}
    (follows : (change node).Follower cache ins arriving there) :
    (cluster.modifyNode follower change).Replicating cache leader follower outs ins
      { route with arriving := arriving, there := there } := by
  refine replicating.setFollower follows ?_ rfl rfl
  intro other
  rw [node?_modifyNode]
  split
  next same => rw [same, found, Option.map_some]
  next => rfl

/-- The workers of the leader's producer are changed, and nothing else. -/
theorem modifyProducer (replicating : cluster.Replicating cache leader follower outs ins route)
    {node : Node} (found : cluster.node? leader = some node) {workers : Workers Job Sending}
    (shape : node.producer = .striped workers)
    (change : Workers Job Sending → Workers Job Sending) {leaving : Nat → List Event}
    {here : Contents}
    (leads : ({ node with producer := .striped (change workers) } : Node).Leader cache leader
      follower outs leaving here) :
    (cluster.modifyProducer leader change).Replicating cache leader follower outs ins
      { route with leaving := leaving, here := here } := by
  refine replicating.modifyLeader found _ ?_
  rw [shape]
  exact leads

/-- The workers of the follower's consumer are changed, and nothing else. -/
theorem modifyConsumer (replicating : cluster.Replicating cache leader follower outs ins route)
    {node : Node} (found : cluster.node? follower = some node)
    {workers : Workers (List UInt8) (List UInt8)} (shape : node.consumer = .striped workers)
    (change : Workers (List UInt8) (List UInt8) → Workers (List UInt8) (List UInt8))
    {arriving : Nat → List Event} {there : Contents}
    (follows : ({ node with consumer := .striped (change workers) } : Node).Follower cache ins
      arriving there) :
    (cluster.modifyConsumer follower change).Replicating cache leader follower outs ins
      { route with arriving := arriving, there := there } := by
  refine replicating.modifyFollower found _ ?_
  rw [shape]
  exact follows

/-- What is only reported of the leader changes nothing. -/
theorem markLeader (replicating : cluster.Replicating cache leader follower outs ins route)
    (change : Node → Node) (reports : ∀ node : Node, ∃ meter,
      change node = { node with core := { node.core with meter := meter } }) :
    (cluster.modifyNode leader change).Replicating cache leader follower outs ins route := by
  obtain ⟨node, found, leads⟩ := replicating.leads
  refine replicating.modifyLeader found _ ?_
  obtain ⟨meter, changed_eq⟩ := reports node
  rw [changed_eq]
  exact leads.of_parts rfl leads.held_eq rfl leads.mirrors.carries ⟨rfl, rfl⟩

theorem setCaller (replicating : cluster.Replicating cache leader follower outs ins route)
    {before : Cluster} {ticket : Nat} {tasks : List Task} (busy : before.Busy ticket tasks)
    (live : tasks ≠ []) (calls_eq : cluster.calls = before.calls) (caller : Caller)
    (ticket_eq : caller.ticket = ticket) {told : List Event}
    (tells : Tells leader caller.tasks told) :
    (cluster.setCaller caller).Replicating cache leader follower outs ins
      { route with told := told } :=
  replicating.setCalls rfl rfl ⟨ticket, _, busy.setCaller live calls_eq ticket_eq, tells⟩

/-- Neither the nodes, nor the hub, nor the calls are changed. -/
theorem of_nodes (replicating : cluster.Replicating cache leader follower outs ins route)
    (nodes_eq : after.nodes = cluster.nodes) (hub_eq : after.hub = cluster.hub)
    (calls_eq : after.calls = cluster.calls) :
    after.Replicating cache leader follower outs ins route := by
  obtain ⟨ticket, tasks, busy, tells⟩ := replicating.calls
  exact replicating.setCalls nodes_eq hub_eq ⟨ticket, tasks, busy.of_calls calls_eq, tells⟩

/-- A worker of the leader's producer is done with a stage of its event, or with the event. -/
theorem setSending (replicating : cluster.Replicating cache leader follower outs ins route)
    {node : Node} (found : cluster.node? leader = some node) {workers : Workers Job Sending}
    (shape : node.producer = .striped workers) {stripe : Nat} {sending : Sending}
    (busy : workers.work? stripe = some sending) (next : Option Sending)
    (fit : ∀ other, next = some other → other.Fits leader follower) :
    ∃ rest, route.leaving stripe = sending.carried follower ++ rest ∧
      (cluster.modifyProducer leader fun workers =>
        workers.setWorker stripe (.ofWork? next)).Replicating cache leader follower outs ins
          { route with
            leaving := Function.update route.leaving stripe
              (next.toList.flatMap (Sending.carried follower) ++ rest) } := by
  obtain ⟨_, rest, queue_eq, set⟩ := (replicating.leader_of found).setSending shape busy
  exact ⟨rest, queue_eq, replicating.modifyProducer found shape
    (fun workers => workers.setWorker stripe (.ofWork? next)) (set next fit)⟩

theorem keepSending (replicating : cluster.Replicating cache leader follower outs ins route)
    {node : Node} (found : cluster.node? leader = some node) {workers : Workers Job Sending}
    (shape : node.producer = .striped workers) {stripe : Nat} {sending : Sending}
    (busy : workers.work? stripe = some sending) (next : Option Sending)
    (fit : ∀ other, next = some other → other.Fits leader follower)
    (same : next.toList.flatMap (Sending.carried follower) = sending.carried follower) :
    (cluster.modifyProducer leader fun workers =>
      workers.setWorker stripe (.ofWork? next)).Replicating cache leader follower outs ins
        route := by
  obtain ⟨rest, queue_eq, set⟩ := replicating.setSending found shape busy next fit
  rw [same, ← queue_eq, Function.update_eq_self] at set
  exact set

/-- The follower puts the message of an event into its stripe, unless that is full. -/
theorem accept (replicating : cluster.Replicating cache leader follower outs ins route)
    (job : Job) (waited : Bool) :
    cluster.deliver (.node follower) ⟨job.hash, Wire.encode job.event true⟩ waited = .blocked ∨
      ∃ middle, cluster.deliver (.node follower) ⟨job.hash, Wire.encode job.event true⟩ waited =
          .done middle ∧ middle.node? leader = cluster.node? leader ∧
            middle.Replicating cache leader follower outs ins
              { route with
                arriving := Function.update route.arriving (stripeAmong ins job.hash)
                  (route.arriving (stripeAmong ins job.hash) ++ [job.event]) } := by
  obtain ⟨node, found, follows⟩ := replicating.follows
  obtain ⟨workers, shape, _⟩ := follows.striped
  rcases follows.offer shape job.event with full | ⟨after, accepted, follows⟩
  · exact Or.inl (deliver_full found shape ⟨job.hash, _⟩ full waited)
  · let changed := markIf { node with consumer := .striped after } waited (.ringFull .consumer)
    have marked : changed.Follower cache ins _ route.there :=
      follows.of_parts (by cases waited <;> rfl) (by cases waited <;> rfl)
        (by cases waited <;> exact ⟨rfl, rfl⟩)
    have nodes := node?_setNode found changed
    refine Or.inr ⟨cluster.setNode follower changed,
      deliver_accepted found shape ⟨job.hash, _⟩ accepted waited, ?_, ?_⟩
    · rw [nodes, if_neg replicating.apart]
    · exact replicating.setFollower marked nodes rfl rfl

/-- The other members of the hub take a message, and nothing else happens. -/
theorem ignore (replicating : cluster.Replicating cache leader follower outs ins route)
    {target : Member} (away : target ≠ .node leader) (apart : target ≠ .node follower)
    (message : Message) (waited : Bool) :
    ∃ middle, cluster.deliver target message waited = .done middle ∧
      middle.node? leader = cluster.node? leader ∧
        middle.Replicating cache leader follower outs ins route := by
  cases target with
  | observer =>
      exact ⟨_, deliver_observer _ waited, rfl, replicating.of_nodes rfl rfl rfl⟩
  | outsider => exact ⟨_, deliver_outsider _ waited, rfl, replicating⟩
  | node target =>
      cases found : cluster.node? target with
      | none => exact ⟨_, deliver_missing found _ waited, rfl, replicating⟩
      | some node =>
          rcases replicating.only found with rfl | rfl
          · exact absurd rfl away
          · exact absurd rfl apart

end Replicating

/-- A cluster of a leader and a follower, whose events are on a sound route. -/
def Conveys (cluster : Cluster) (cache : String) (leader follower outs ins : Nat) : Prop :=
  ∃ route : Route, cluster.Replicating cache leader follower outs ins route ∧
    route.Sound outs ins cache

namespace Conveys

variable {cluster after : Cluster} {cache : String} {leader follower outs ins : Nat}

/-! ## Steps of a caller -/

section Calling

variable {route : Route} {ticket : Nat} {caller changed : Caller} {middle : Cluster}
  (sound : route.Sound outs ins cache)
  (replicating : cluster.Replicating cache leader follower outs ins route)
  (ticket_eq : caller.ticket = ticket)

include sound replicating ticket_eq

theorem callHear {event : Event} (busy : cluster.Busy ticket [.hear leader event])
    (told_eq : route.told = [event])
    (moved : cluster.taskStep caller (.hear leader event) [] = some (middle, changed)) :
    (middle.setCaller changed).Conveys cache leader follower outs ins := by
  obtain ⟨node, found, leads⟩ := replicating.leads
  obtain ⟨workers, _, _, shape, _⟩ := leads.striped
  have faithful := sound.told event (by simp [told_eq])
  obtain ⟨config, replicated, steps⟩ :=
    hearStep_eq found leads.mirrors faithful.of faithful.made caller []
  have step_eq := moved.symm.trans steps
  simp only [produceTask, shape, Option.some.injEq, Prod.mk.injEq] at step_eq
  obtain ⟨rfl, rfl⟩ := step_eq
  have same : (cluster.setNode leader node).Replicating cache leader follower outs ins route :=
    replicating.setLeader leads (node?_setNode found _) rfl rfl
  have set := same.setCaller busy (by simp) rfl
    (caller.goOn [.offer leader ⟨config, event⟩ false]) ticket_eq (.offer replicated)
  rw [← told_eq] at set
  exact ⟨route, set, sound⟩

/-- The producer of the leader takes an event, or the caller waits for room. -/
theorem callOffer {job : Job} {waited : Bool} (replicated : job.config.policy = .replicated)
    (busy : cluster.Busy ticket [.offer leader job waited]) (told_eq : route.told = [job.event])
    (moved : cluster.taskStep caller (.offer leader job waited) [] = some (middle, changed)) :
    (middle.setCaller changed).Conveys cache leader follower outs ins := by
  obtain ⟨node, found, leads⟩ := replicating.leads
  obtain ⟨workers, _, _, shape, _⟩ := leads.striped
  have workers_eq : ((cluster.node? leader).bind fun node => node.producer.workers?) =
      some workers := by
    rw [found, Option.bind_some, shape]
    rfl
  simp only [taskStep, offerStep, workers_eq] at moved
  rcases leads.offer shape replicated with full | ⟨taken, accepted, leads⟩
  · simp only [full] at moved
    split at moved
    · cases moved
    · simp only [Option.some.injEq, Prod.mk.injEq] at moved
      obtain ⟨rfl, rfl⟩ := moved
      have set := replicating.setCaller busy (by simp) rfl
        (caller.goOn [.offer leader job true]) ticket_eq (.offer replicated)
      rw [← told_eq] at set
      exact ⟨route, set, sound⟩
  · simp only [accepted, Option.some.injEq, Prod.mk.injEq] at moved
    obtain ⟨rfl, rfl⟩ := moved
    have taken := replicating.modifyProducer found shape (fun _ => taken) leads
    have marked := taken.markLeader (fun node => markIf node waited (.ringFull .producer))
      fun node => by cases waited <;> exact ⟨_, rfl⟩
    exact ⟨_, marked.setCaller busy (by simp) rfl (caller.goOn []) ticket_eq .none,
      sound.enter told_eq⟩

end Calling

/-- The bus of the leader takes an event, and later its producer does. -/
theorem callerStep (conveys : cluster.Conveys cache leader follower outs ins) {stepping : Nat}
    (stepped : cluster.callerStep? stepping = some after) :
    after.Conveys cache leader follower outs ins := by
  obtain ⟨route, replicating, sound⟩ := conveys
  obtain ⟨ticket, tasks, busy, tells⟩ := replicating.calls
  obtain ⟨task, rest, caller, middle, changed, tasks_eq, ticket_eq, moved, rfl⟩ :=
    busy.of_callerStep? stepped
  subst tasks_eq
  generalize told_eq : route.told = told at tells
  cases tells with
  | hear => exact callHear sound replicating ticket_eq busy told_eq moved
  | offer replicated => exact callOffer sound replicating ticket_eq replicated busy told_eq moved

/-! ## Steps of a producer -/

section Producing

variable {route : Route} {node : Node} {workers : Workers Job Sending} {stripe : Nat}
  (sound : route.Sound outs ins cache)
  (replicating : cluster.Replicating cache leader follower outs ins route)
  (found : cluster.node? leader = some node) (shape : node.producer = .striped workers)

include sound replicating found shape

/-- A worker goes on with an event that the follower still has to get, or has already. -/
theorem goOn {sending next : Sending} (busy : workers.work? stripe = some sending)
    (fits : next.Fits leader follower)
    (carried_eq : next.carried follower = sending.carried follower) :
    (cluster.modifyProducer leader fun workers =>
      workers.setWorker stripe (.busy next)).Conveys cache leader follower outs ins := by
  refine ⟨route, replicating.keepSending found shape busy (some next) ?_ ?_, sound⟩
  · intro other this
    injection this with this
    rw [← this]
    exact fits
  · simpa using carried_eq

theorem workEncoding {job : Job} (replicated : job.config.policy = .replicated)
    (busy : workers.work? stripe = some (.ofJob job))
    (worked : cluster.producerWork leader stripe (.ofJob job) = some after) :
    after.Conveys cache leader follower outs ins := by
  obtain ⟨_, replicates, _⟩ := (replicating.leader_of found).mirrors.mirrors
  have encoded := Core.encode_of_replicated replicates.plain replicated job.event
  unfold Cluster.producerWork at worked
  rw [sendStep_encoding found job encoded] at worked
  injection worked with this
  rw [← this]
  exact goOn sound replicating found shape busy .calling rfl

theorem workCalling {job : Job}
    (busy : workers.work? stripe =
      some (.calling job ⟨job.hash, Wire.encode job.event true⟩))
    (worked : cluster.producerWork leader stripe
      (.calling job ⟨job.hash, Wire.encode job.event true⟩) = some after) :
    after.Conveys cache leader follower outs ins := by
  have leads := replicating.leader_of found
  unfold Cluster.producerWork at worked
  rw [sendStep_calling found leads.mirrors.carries] at worked
  injection worked with this
  rw [← this]
  have logged : (node.log .send).Leader cache leader follower outs route.leaving route.here :=
    leads.of_parts rfl leads.held_eq rfl (leads.mirrors.carries.log .send) ⟨rfl, rfl⟩
  have nodes := node?_setNode found (node.log .send)
  have here := nodes leader
  rw [if_pos rfl] at here
  refine goOn sound (replicating.setLeader logged nodes rfl rfl) here shape busy
    (.spreading (Nat.le_of_eq replicating.once) replicating.away) ?_
  have reaches : .node follower ∈ cluster.hub.targets (.node leader) :=
    List.count_pos_iff.1 (by rw [replicating.once]; exact Nat.zero_lt_one)
  simp only [Sending.carried, Sending.spreading, Sending.calling, if_pos reaches]

theorem workSpread {job : Job} {waited : Bool}
    (busy : workers.work? stripe =
      some (.spreading job ⟨⟨job.hash, Wire.encode job.event true⟩, [], waited⟩))
    (worked : cluster.producerWork leader stripe
      (.spreading job ⟨⟨job.hash, Wire.encode job.event true⟩, [], waited⟩) = some after) :
    after.Conveys cache leader follower outs ins := by
  have leads := replicating.leader_of found
  unfold Cluster.producerWork at worked
  rw [sendStep_spreading_nil found] at worked
  injection worked with this
  rw [← this]
  have sent : (sentNode node job).Leader cache leader follower outs route.leaving route.here :=
    leads.of_parts rfl leads.held_eq rfl leads.mirrors.carries.countSent ⟨rfl, rfl⟩
  have nodes := node?_setNode found (sentNode node job)
  let change := fun node : Node => node.markAll ([] ++ Workers.verdictMarks .producer .goOn)
  have marked := (replicating.setLeader sent nodes rfl rfl).markLeader change fun node => ⟨_, rfl⟩
  have here : ((cluster.setNode leader (sentNode node job)).modifyNode leader
      change).node? leader = some (change (sentNode node job)) := by
    rw [node?_modifyNode, if_pos rfl, nodes, if_pos rfl, Option.map_some]
  exact ⟨route, marked.keepSending here shape busy none (by simp) rfl, sound⟩

/-- The message goes to the next member, or waits for it. -/
theorem workSpreading {job : Job} {target : Member} {left : List Member} {waited : Bool}
    (once : (target :: left).count (.node follower) ≤ 1) (away : .node leader ∉ target :: left)
    (busy : workers.work? stripe =
      some (.spreading job ⟨⟨job.hash, Wire.encode job.event true⟩, target :: left, waited⟩))
    (worked : cluster.producerWork leader stripe
      (.spreading job ⟨⟨job.hash, Wire.encode job.event true⟩, target :: left, waited⟩) =
        some after) :
    after.Conveys cache leader follower outs ins := by
  have apart : target ≠ .node leader := by
    rintro rfl
    exact away List.mem_cons_self
  have fewer : left.count (.node follower) ≤ 1 := Nat.le_trans List.count_le_count_cons once
  have absent : .node leader ∉ left := fun member => away (List.mem_cons_of_mem target member)
  unfold Cluster.producerWork at worked
  by_cases reached : target = .node follower
  · subst reached
    rcases replicating.accept job waited with blocked | ⟨middle, delivered, found', replicating'⟩
    · rw [sendStep_spreading_full found job _ _ _ _ blocked] at worked
      cases waited with
      | true => cases worked
      | false =>
          injection worked with this
          rw [← this]
          exact goOn sound replicating found shape busy (.spreading once away) rfl
    · rw [sendStep_spreading_cons found job _ _ _ _ delivered] at worked
      injection worked with this
      rw [← this]
      -- The follower has the event now, and is not among those that are left.
      rw [List.count_cons_self] at once
      have gone : .node follower ∉ left :=
        List.count_eq_zero.1 (Nat.le_zero.1 (Nat.le_of_succ_le_succ once))
      obtain ⟨rest, leaving_eq, set⟩ := replicating'.setSending (found'.trans found) shape busy
        (some (.spreading job ⟨⟨job.hash, Wire.encode job.event true⟩, left, false⟩)) (by
          intro other this
          injection this with this
          rw [← this]
          exact .spreading fewer absent)
      simp only [Option.toList_some, List.flatMap_cons, List.flatMap_nil, Sending.carried,
        Sending.spreading, if_neg gone, List.nil_append] at set
      simp only [Sending.carried, Sending.spreading, List.mem_cons_self, if_true,
        List.cons_append, List.nil_append] at leaving_eq
      exact ⟨_, set, sound.cross leaving_eq⟩
  · obtain ⟨middle, delivered, found', replicating'⟩ :=
      replicating.ignore apart reached ⟨job.hash, Wire.encode job.event true⟩ waited
    rw [sendStep_spreading_cons found job _ _ _ _ delivered] at worked
    injection worked with this
    rw [← this]
    refine goOn sound replicating' (found'.trans found) shape busy (.spreading fewer absent) ?_
    simp only [Sending.carried, Sending.spreading, List.mem_cons, Ne.symm reached, false_or]

theorem producerWork {sending : Sending} (busy : workers.work? stripe = some sending)
    (worked : cluster.producerWork leader stripe sending = some after) :
    after.Conveys cache leader follower outs ins := by
  obtain ⟨fits, _⟩ := (replicating.leader_of found).setSending shape busy
  cases fits with
  | encoding replicated =>
      exact workEncoding sound replicating found shape replicated busy worked
  | calling => exact workCalling sound replicating found shape busy worked
  | @spreading job left waited once away =>
      cases left with
      | nil => exact workSpread sound replicating found shape busy worked
      | cons target left =>
          exact workSpreading sound replicating found shape once away busy worked

end Producing

/-- A worker of the leader's producer takes a step. -/
theorem producerStep (conveys : cluster.Conveys cache leader follower outs ins)
    {index stripe : Nat} (stepped : cluster.producerStep? index stripe = some after) :
    after.Conveys cache leader follower outs ins := by
  obtain ⟨route, replicating, sound⟩ := conveys
  unfold producerStep? at stepped
  cases found : cluster.node? index with
  | none => simp [found] at stepped
  | some node =>
      cases shape : node.producer with
      | direct => simp [found, shape, Crew.workers?] at stepped
      | striped workers =>
          simp only [found, Option.bind_some, shape, Crew.workers?] at stepped
          rcases replicating.only found with rfl | rfl
          · cases busy : workers.work? stripe with
            | some sending =>
                simp only [busy] at stepped
                exact producerWork sound replicating found shape busy stepped
            | none =>
                simp only [busy, Option.map_eq_some_iff] at stepped
                obtain ⟨taken, takes, rfl⟩ := stepped
                exact ⟨_, replicating.modifyProducer found shape (fun _ => taken)
                  ((replicating.leader_of found).take shape takes), sound⟩
          · obtain ⟨idle, empty⟩ :=
              (replicating.follower_of found).still.no_step shape Sending.ofJob stripe
            simp [idle, empty] at stepped

/-- A worker of the follower's consumer takes a step. -/
theorem consumerStep (conveys : cluster.Conveys cache leader follower outs ins)
    {index stripe : Nat} (stepped : cluster.consumerStep? index stripe = some after) :
    after.Conveys cache leader follower outs ins := by
  obtain ⟨route, replicating, sound⟩ := conveys
  unfold consumerStep? at stepped
  cases found : cluster.node? index with
  | none => simp [found] at stepped
  | some node =>
      cases shape : node.consumer with
      | direct => simp [found, shape, Crew.workers?] at stepped
      | striped workers =>
          simp only [found, shape, Crew.workers?] at stepped
          rcases replicating.only found with rfl | rfl
          · obtain ⟨idle, empty⟩ :=
              (replicating.leader_of found).still.no_step shape id stripe
            simp [idle, empty] at stepped
          · have follows := replicating.follower_of found
            cases busy : workers.work? stripe with
            | some body =>
                simp only [busy, Option.some.injEq] at stepped
                obtain ⟨event, rest, arriving_eq, rfl, handled⟩ := follows.handle shape busy
                obtain ⟨faithful, _⟩ := sound.arriving stripe event (by simp [arriving_eq])
                obtain ⟨crashed_eq, frame_eq, held_eq⟩ :=
                  faithful.receive follows.mirrors cluster.clock
                have done := handled _ frame_eq
                rw [held_eq, follows.held_eq] at done
                subst stepped
                exact ⟨_, replicating.setFollower done
                  (node?_consumerWork found shape crashed_eq stripe) rfl rfl,
                  sound.leave arriving_eq⟩
            | none =>
                simp only [busy, Option.map_eq_some_iff] at stepped
                obtain ⟨taken, takes, rfl⟩ := stepped
                exact ⟨_, replicating.modifyConsumer found shape (fun _ => taken)
                  (follows.take shape takes), sound⟩

/-- A removal of timestamp records plays no part. -/
theorem cleanerStep (conveys : cluster.Conveys cache leader follower outs ins) {index : Nat}
    (stepped : cluster.cleanerStep? index = some after) :
    after.Conveys cache leader follower outs ins := by
  obtain ⟨route, replicating, sound⟩ := conveys
  obtain ⟨node, _, expiration, _, found, _, rfl⟩ := of_cleanerStep? stepped
  refine ⟨route, ?_, sound⟩
  rcases replicating.only found with rfl | rfl
  · have leads := replicating.leader_of found
    refine replicating.setLeader ?_ (node?_setNode found _) rfl rfl
    exact leads.of_parts rfl leads.held_eq rfl leads.mirrors.carries ⟨rfl, rfl⟩
  · have follows := replicating.follower_of found
    refine replicating.setFollower ?_ (node?_setNode found _) rfl rfl
    exact follows.of_parts rfl rfl ⟨rfl, rfl⟩

theorem pass (conveys : cluster.Conveys cache leader follower outs ins) (nanos : Nat) :
    (cluster.pass nanos).Conveys cache leader follower outs ins := by
  obtain ⟨route, replicating, sound⟩ := conveys
  exact ⟨route, replicating.of_nodes rfl rfl rfl, sound⟩

/-- No step of any thread loses an event, doubles one, or changes the order of those of a key. -/
theorem step (conveys : cluster.Conveys cache leader follower outs ins) {thread : Thread}
    (stepped : cluster.step? thread = some after) :
    after.Conveys cache leader follower outs ins := by
  obtain ⟨middle, acted, rfl⟩ := Option.map_eq_some_iff.1 stepped
  refine pass ?_ stepTime
  cases thread with
  | caller ticket => exact conveys.callerStep acted
  | producerWorker index stripe => exact conveys.producerStep acted
  | consumerWorker index stripe => exact conveys.consumerStep acted
  | cleaner index => exact conveys.cleanerStep acted

/-- An operation of the leader makes its event the last of its key. -/
theorem ask (conveys : cluster.Conveys cache leader follower outs ins) (idle : cluster.Idle)
    {guarded : Bool} {call : StoreCall} {ticket : Nat} (made : call.origin = .localNode)
    (keyed : call.key ≠ .all)
    (asked : cluster.request? (.operate leader cache guarded call) = some (after, ticket))
    (fit : ∀ event ∈ cluster.emitted leader cache call, event.isPortable = true ∧
      event.isNullFree = true ∧ event.time.InCalendar) :
    after.Conveys cache leader follower outs ins := by
  obtain ⟨route, replicating, sound⟩ := conveys
  obtain ⟨node, operated, found, operates, nodes_eq, hub_eq, reply, calls_eq⟩ :=
    of_request? asked
  have leads := replicating.leader_of found
  obtain ⟨config, replicates, _⟩ := leads.mirrors.mirrors
  obtain ⟨performed, performs, follows⟩ :=
    Core.operate_follows replicates leads.mirrors.hears guarded call (cluster.pass stepTime).clock
  obtain rfl : performed = operated := Option.some.inj (performs.symm.trans operates)
  obtain ⟨_, _, under, _⟩ := replicating.calls
  have busy := idle.busy under.numbered calls_eq
  have silent := replicating.told_eq_nil idle
  have moved : ∀ told : List Event, Tells leader (performed.heard.map (.hear leader)) told →
      after.Replicating cache leader follower outs ins
        { route with here := performed.core.held cache, told := told } := by
    intro told tells
    have operating : ({ node with core := performed.core } : Node).Leader cache leader follower
        outs route.leaving (performed.core.held cache) :=
      leads.of_parts follows.frame_eq rfl rfl leads.mirrors.carries ⟨rfl, rfl⟩
    have middle := replicating.setLeader operating (node?_setNode found _) rfl rfl
    exact middle.setCalls nodes_eq hub_eq ⟨_, _, busy, tells⟩
  rcases follows.told with ⟨unheard, same⟩ | ⟨event, heard, of, key, origin, _, tells⟩
  · have still := moved [] (by rw [unheard]; exact .none)
    rw [same, leads.held_eq, ← silent] at still
    exact ⟨route, still, sound⟩
  · have emitted_eq : cluster.emitted leader cache call = [event] := by
      rw [← heard, follows.heard_eq, emitted, found]
    obtain ⟨portable, nullFree, dated⟩ := fit event (by simp [emitted_eq])
    obtain ⟨old_eq, new_eq⟩ := Event.delivered_of_isNullFree nullFree
    have faithful : event.Faithful cache := by
      refine ⟨⟨of, origin.trans made, portable, dated⟩, ?_, old_eq, new_eq⟩
      cases shape : call.key with
      | all => exact absurd shape keyed
      | entry one => exact ⟨one, key.trans shape⟩
    rw [leads.held_eq] at tells
    exact ⟨_, moved [event] (by rw [heard]; exact .hear), sound.tell silent faithful tells⟩

end Conveys

/-! ## Runs -/

/-- A leader with a striped producer and a follower with a striped consumer on one hub, with nothing
to do, that hold the same. -/
structure Paired (cluster : Cluster) (cache : String) (leader follower : Nat) : Prop where
  apart : leader ≠ follower
  only : ∀ {index : Nat} {node : Node}, cluster.node? index = some node →
    index = leader ∨ index = follower
  /-- Members subscribe for themselves. -/
  diagonal : ∀ subscription ∈ cluster.hub.subscriptions, subscription.1 = subscription.2
  subscribed : cluster.hub.subscriptions.count (.node follower, .node follower) = 1
  idle : cluster.Idle
  numbered : cluster.Numbered
  nodes : ∃ first second, cluster.node? leader = some first ∧
    cluster.node? follower = some second ∧
      first.Mirrors cache ∧ second.core.frame.Mirrors cache ∧
        (∃ stripes capacity, Crew.make .producer (.striped stripes capacity) = .ok first.producer) ∧
          (∃ dispatch, Crew.make .consumer dispatch = .ok first.consumer) ∧
            (∃ stripes capacity,
                Crew.make .consumer (.striped stripes capacity) = .ok second.consumer) ∧
              (∃ dispatch, Crew.make .producer dispatch = .ok second.producer) ∧
                second.core.held cache = first.core.held cache

/-- Nobody is told of an event, and none waits or is being handled. -/
def Quiet (cluster : Cluster) : Prop :=
  cluster.Idle ∧ ∀ node ∈ cluster.nodes, node.producer.Quiet ∧ node.consumer.Quiet

instance (cluster : Cluster) : Decidable cluster.Quiet :=
  inferInstanceAs (Decidable ((∀ caller ∈ cluster.callers, caller.tasks = []) ∧ _))

variable {start after : Cluster} {cache : String} {leader follower : Nat} {events : List Event}

theorem Paired.conveys (paired : start.Paired cache leader follower) :
    ∃ outs ins, start.Conveys cache leader follower outs ins := by
  obtain ⟨first, second, here, there, leads, follows, ⟨outs, _, producer⟩, ⟨_, consumer⟩,
    ⟨ins, _, consumer'⟩, ⟨_, producer'⟩, same⟩ := paired.nodes
  obtain ⟨workers, shape, shown⟩ := Crew.shows_of_make producer
  obtain ⟨workers', shape', shown'⟩ := Crew.shows_of_make consumer'
  refine ⟨outs, ins, ⟨first.core.held cache, first.core.held cache, [], fun _ => [], fun _ => []⟩,
    ⟨paired.apart, paired.only, ?_, ?_, ?_, ?_, ?_⟩, Route.Sound.initial _ _ _ _⟩
  · rw [Hub.count_targets paired.diagonal (by simpa using paired.apart.symm)]
    exact paired.subscribed
  · exact Hub.not_mem_targets paired.diagonal _
  · exact ⟨0, [], Busy.of_idle paired.idle paired.numbered 0, .none⟩
  · exact ⟨first, here, leads, Crew.still_of_make consumer, rfl, workers, _, _, shape, shown,
      fun _ => ⟨by simp, by simp, rfl⟩⟩
  · exact ⟨second, there, follows, Crew.still_of_make producer', same, workers', shape',
      .of_shows shown'⟩

/-- When nobody has anything to do, the follower holds what the leader holds. -/
theorem Conveys.held_eq {outs ins : Nat}
    (conveys : after.Conveys cache leader follower outs ins) (quiet : after.Quiet) :
    ∃ first second, after.node? leader = some first ∧ after.node? follower = some second ∧
      second.core.held cache = first.core.held cache := by
  obtain ⟨route, replicating, sound⟩ := conveys
  obtain ⟨first, here, leads⟩ := replicating.leads
  obtain ⟨second, there, follows⟩ := replicating.follows
  refine ⟨first, second, here, there, ?_⟩
  rw [leads.held_eq, follows.held_eq]
  apply sound.there_eq_here (replicating.told_eq_nil quiet.1)
  · intro hash
    obtain ⟨workers, jobs, sendings, shape, shown, lanes⟩ := leads.striped
    have rests := (quiet.2 first (List.mem_of_getElem? here)).1
    rw [shape] at rests
    obtain ⟨empty, idle⟩ := shown.of_quiet rests (StripedRing.stripeAmong_lt shown.positive hash)
    rw [← (lanes _).events_eq, empty, idle]
    rfl
  · intro hash
    obtain ⟨workers, shape, serves⟩ := follows.striped
    have rests := (quiet.2 second (List.mem_of_getElem? there)).2
    rw [shape] at rests
    exact List.map_eq_nil_iff.1 (serves.of_quiet rests hash)

/-- The operations of a single writer: those of one node, made there, on single keys. -/
def Writes (leader index : Nat) (call : StoreCall) : Prop :=
  index = leader ∧ call.origin = .localNode ∧ call.key ≠ .all

theorem Run.conveys {outs ins : Nat} (run : Run cache (Writes leader) start events after)
    (conveys : start.Conveys cache leader follower outs ins)
    (fit : ∀ event ∈ events, event.isPortable = true ∧ event.isNullFree = true ∧
      event.time.InCalendar) : after.Conveys cache leader follower outs ins := by
  induction run with
  | refl => exact conveys
  | ask _ rest permitted asked inductionHypothesis =>
      obtain ⟨rfl, made, keyed⟩ := permitted
      have before := inductionHypothesis fun event member =>
        fit event (List.mem_append_left _ member)
      exact before.ask rest made keyed asked fun event member =>
        fit event (List.mem_append_right _ member)
  | step _ stepped inductionHypothesis => exact (inductionHypothesis fit).step stepped
  | wait nanos _ inductionHypothesis => exact (inductionHypothesis fit).pass nanos

/-- However the operations of the leader and the workers of both nodes take turns, whenever nobody
has anything to do the follower holds exactly what the leader holds. -/
theorem held_eq_of_run (run : Run cache (Writes leader) start events after)
    (paired : start.Paired cache leader follower)
    (fit : ∀ event ∈ events, event.isPortable = true ∧ event.isNullFree = true ∧
      event.time.InCalendar) (quiet : after.Quiet) :
    ∃ first second, after.node? leader = some first ∧ after.node? follower = some second ∧
      second.core.held cache = first.core.held cache := by
  obtain ⟨outs, ins, conveys⟩ := paired.conveys
  exact (run.conveys conveys fit).held_eq quiet

/-- A node with a striped producer, and one with a striped consumer. -/
def line : Cluster :=
  { ofNodes [
      { Node.sample "first" with
        producer := .striped (.ofRing ⟨.producer, Array.replicate 2 (.ofCapacity 4)⟩) },
      { Node.sample "second" with
        consumer := .striped (.ofRing ⟨.consumer, Array.replicate 4 (.ofCapacity 8)⟩) }] ⟨0, 0⟩ with
    hub := ((Hub.empty.subscribe .observer .observer).subscribe (.node 0) (.node 0)).subscribe
      (.node 1) (.node 1) }

theorem line_paired : line.Paired "users" 0 1 where
  apart := by decide
  only := by
    intro index node found
    rcases index with _ | _ | index
    · exact Or.inl rfl
    · exact Or.inr rfl
    · cases found
  diagonal := by simp [line, Hub.subscribe, Hub.empty]
  subscribed := by decide
  idle := by
    intro caller member
    cases member
  numbered := by
    intro caller member
    cases member
  nodes := ⟨_, _, rfl, rfl,
    (Node.sample_mirrors "first").of_frame rfl rfl ⟨rfl, rfl, rfl⟩,
    (Node.sample_mirrors "second").mirrors,
    ⟨2, 4, rfl⟩, ⟨.direct, rfl⟩, ⟨4, 8, rfl⟩, ⟨.direct, rfl⟩, rfl⟩

/-- The first node puts a value, and the second takes it over. -/
theorem held_eq_of_run_line : ∃ events after first second,
    Run "users" (Writes 0) line events after ∧ after.Quiet ∧
      after.node? 0 = some first ∧ after.node? 1 = some second ∧
        second.core.held "users" = first.core.held "users" := by
  obtain ⟨after, carried⟩ := Option.isSome_iff_exists.1 (show
    ((line.request? (.operate 0 "users" true (.put "ada" (.text "countess") .localNode))).bind
      fun begun => (begun.1.follow? (List.replicate 2 (.caller begun.2) ++
        List.replicate 6 (.producerWorker 0 0) ++
          List.replicate 2 (.consumerWorker 1 0))).filter fun after => after.Quiet).isSome = true
    by decide +kernel)
  obtain ⟨⟨begun, ticket⟩, asked, followed⟩ := Option.bind_eq_some_iff.1 carried
  obtain ⟨followed, quiet⟩ := Option.filter_eq_some_iff.1 followed
  have start : Run "users" (Writes 0) line [] line := .refl
  have run := (start.ask line_paired.idle ⟨rfl, rfl, by decide⟩ asked).follow _ followed
  have quiet : after.Quiet := by simpa using quiet
  obtain ⟨first, second, here, there, same⟩ :=
    held_eq_of_run run line_paired (by decide +kernel) quiet
  exact ⟨_, after, first, second, run, quiet, here, there, same⟩

end Cluster

end CacheSync
