import CacheSync.Cluster.Scene
import CacheSync.Proofs.Cluster.Solo

/-!
# Callers beside a producer

What callers do to a node of which only the striped producer is used: they add to its rings, and
they close them to stop it.  Neither touches its workers.  All other tasks and requests are apart
from it, and so is what is done to it from outside.
-/

namespace CacheSync

/-! ## Tasks and requests -/

/-- Whether a task has nothing to do with a node, or only with its rings. -/
def Task.isApart (index : Nat) : Task → Bool
  | .hear node _ => node != index
  | .send node _ => node != index
  | .stop node _ => node != index
  | .offer _ _ _ => true
  | .spread _ => true
  | .halt _ => true

namespace Cluster

variable {cluster middle after : Cluster} {index place ticket : Nat} {node changed : Node}
  {caller next : Caller} {rest : List Task}

/-- No caller has a task that has to do with a node, other than with its rings. -/
def KeepsApart (cluster : Cluster) (index : Nat) : Prop :=
  ∀ caller ∈ cluster.callers, ∀ task ∈ caller.tasks, task.isApart index = true

/-- To add to the ring of a producer changes none of its workers. -/
theorem attends_of_offer {workers more : Workers Job Sending}
    (crew : ∀ node, cluster.node? place = some node → node.producer = .striped workers)
    (same : more.workers = workers.workers) :
    cluster.Attends index (cluster.modifyProducer place fun _ => more) := by
  refine attends_of_modifyNode (fun node found solo => ?_) fun node found solo => ?_
  · refine ⟨solo.idle, solo.kempt, solo.deaf, ?_⟩
    dsimp only
    rw [crew node found]
    rfl
  · have roster : (node.producer.modify fun _ => more).roster = node.producer.roster := by
      rw [crew node found]
      exact same
    simp only [Node.standing, roster, Node.ledger]

theorem attends_of_mark {mark : Mark} (other : mark ≠ .workerFailed .producer) :
    cluster.Attends index (cluster.modifyNode place fun node => node.mark mark) :=
  attends_of_modifyNode (fun _ _ solo => solo.markAll [mark])
    fun node _ _ => node.standing_mark other

theorem of_notSent {job : Job} {error : ProduceError}
    (told : cluster.notSent place caller job error = (after, next)) :
    cluster.Attends index after ∧ next.tasks = caller.tasks := by
  unfold notSent at told
  split at told
  · cases told
    exact ⟨.of_same rfl, rfl⟩
  · cases told
    exact ⟨attends_of_mark (by simp), rfl⟩

theorem offerStep_attends {job : Job} {waited : Bool}
    (keeps : ∀ task ∈ rest, task.isApart index = true)
    (stepped : cluster.offerStep caller rest place job waited = some (after, next)) :
    cluster.Attends index after ∧ ∀ task ∈ next.tasks, task.isApart index = true := by
  unfold offerStep at stepped
  split at stepped
  · cases stepped
    exact ⟨.of_same rfl, keeps⟩
  next workers crew =>
    obtain ⟨node, found, crew⟩ := Option.bind_eq_some_iff.1 crew
    have striped : ∀ other, cluster.node? place = some other → other.producer = .striped workers :=
      fun other held => Option.some.inj (held.symm.trans found) ▸ workers?_eq_some crew
    split at stepped
    next more offered =>
      cases stepped
      refine ⟨(attends_of_offer striped (Workers.workers_offer offered)).trans ?_, keeps⟩
      cases waited with
      | false => exact attends_of_modifyNode (fun _ _ solo => solo) fun _ _ _ => rfl
      | true => exact attends_of_mark (by simp)
    next =>
      split at stepped
      · cases stepped
      · cases stepped
        refine ⟨.of_same rfl, ?_⟩
        simpa [Caller.goOn, Task.isApart] using keeps
    next =>
      obtain ⟨attends, tasks_eq⟩ := of_notSent (Option.some.inj stepped)
      exact ⟨attends, by rw [tasks_eq]; exact keeps⟩

theorem directStep_attends (apart : cluster.IsApart index) (other : index ≠ place)
    {sending : Sending} (keeps : ∀ task ∈ rest, task.isApart index = true)
    (stepped : cluster.directStep caller rest place sending = some (after, next)) :
    cluster.Attends index after ∧ ∀ task ∈ next.tasks, task.isApart index = true := by
  have attends {later : Cluster}
      (outcome : (cluster.sendStep place sending).cluster? = some later) :
      cluster.Attends index later := .of_same (sendStep_spares apart other outcome)
  unfold directStep at stepped
  split at stepped
  next moved later outcome =>
    cases stepped
    refine ⟨attends (by rw [outcome]; rfl), ?_⟩
    simpa [Caller.goOn, Task.isApart, Ne.symm other] using keeps
  next => cases stepped
  next done outcome =>
    cases stepped
    exact ⟨attends (by rw [outcome]; rfl), keeps⟩
  next done error outcome =>
    obtain ⟨told, tasks_eq⟩ := of_notSent (Option.some.inj stepped)
    exact ⟨(attends (by rw [outcome]; rfl)).trans told, by rw [tasks_eq]; exact keeps⟩
  next crashed outcome =>
    cases stepped
    exact ⟨attends (by rw [outcome]; rfl), by simp [Caller.crash]⟩

theorem hearStep_attends (other : index ≠ place) {event : Event}
    (keeps : ∀ task ∈ rest, task.isApart index = true)
    (stepped : cluster.hearStep caller rest place event = some (after, next)) :
    cluster.Attends index after ∧ ∀ task ∈ next.tasks, task.isApart index = true := by
  unfold hearStep at stepped
  split at stepped
  · cases stepped
    exact ⟨.of_same rfl, keeps⟩
  next node found =>
    have decided (core : Core) :
        cluster.Attends index (cluster.setNode place { node with core := core }) :=
      .of_same (node?_setNode_of_ne found other _)
    dsimp only at stepped
    split at stepped
    · cases stepped
      exact ⟨decided _, keeps⟩
    · split at stepped
      · cases stepped
        exact ⟨decided _, keeps⟩
      · cases stepped
        refine ⟨decided _, ?_⟩
        cases node.producer with
        | direct => simpa [Caller.goOn, Task.isApart, Ne.symm other] using keeps
        | striped workers => simpa [Caller.goOn, Task.isApart] using keeps

theorem outsideStep_attends (apart : cluster.IsApart index) {spread : Spread}
    (keeps : ∀ task ∈ rest, task.isApart index = true)
    (stepped : cluster.outsideStep caller rest spread = some (after, next)) :
    cluster.Attends index after ∧ ∀ task ∈ next.tasks, task.isApart index = true := by
  have attends {later : Cluster}
      (outcome : (cluster.spreadStep spread).cluster? = some later) :
      cluster.Attends index later := .of_same (spreadStep_spares apart outcome)
  unfold outsideStep at stepped
  split at stepped
  next moved later outcome =>
    cases stepped
    refine ⟨attends (by rw [outcome]; rfl), ?_⟩
    simpa [Caller.goOn, Task.isApart] using keeps
  next => cases stepped
  next done outcome =>
    cases stepped
    exact ⟨attends (by rw [outcome]; rfl), keeps⟩
  next crashed outcome =>
    cases stepped
    exact ⟨attends (by rw [outcome]; rfl), by simp [Caller.crash]⟩

theorem stopStep_attends (other : index ≠ place) {stage : StopStage}
    (keeps : ∀ task ∈ rest, task.isApart index = true)
    (stepped : cluster.stopStep caller rest place stage = some (after, next)) :
    cluster.Attends index after ∧ ∀ task ∈ next.tasks, task.isApart index = true := by
  unfold stopStep at stepped
  split at stepped
  · cases stepped
    exact ⟨.of_same rfl, keeps⟩
  next node found =>
    cases stage with
    | consumer =>
        dsimp only at stepped
        split at stepped
        · cases stepped
          refine ⟨.of_same (node?_setNode_of_ne found other _), ?_⟩
          simpa [Caller.goOn, Task.isApart, Ne.symm other] using keeps
        · cases stepped
    | producer =>
        dsimp only at stepped
        split at stepped
        · generalize node.finishStop (.node place) cluster.hub = result at stepped
          obtain ⟨stopped, _, crashed⟩ := result
          cases stepped
          refine ⟨.of_same (@node?_setNode_of_ne cluster _ _ _ found other stopped), ?_⟩
          cases crashed with
          | true => simp [Caller.crash]
          | false => exact keeps
        · cases stepped

/-- A caller whose wait for the workers of a node is over has seen them all ended. -/
theorem of_haltStep (stepped : cluster.haltStep caller rest place = some (after, next)) :
    after = cluster ∧ next = caller.goOn rest ∧
      ∀ node, cluster.node? place = some node → node.producer.allEnded = true := by
  unfold haltStep at stepped
  split at stepped
  next absent =>
    cases stepped
    refine ⟨rfl, rfl, fun node found => ?_⟩
    rw [absent] at found
    cases found
  next node found =>
    split at stepped
    next ended =>
      cases stepped
      exact ⟨rfl, rfl, fun other held => Option.some.inj (held.symm.trans found) ▸ ended⟩
    next => cases stepped

/-- A task that has nothing to do with a node leaves its standing as it is. -/
theorem taskStep_attends (apart : cluster.IsApart index) {task : Task}
    (own : task.isApart index = true) (keeps : ∀ task ∈ rest, task.isApart index = true)
    (stepped : cluster.taskStep caller task rest = some (after, next)) :
    cluster.Attends index after ∧ ∀ task ∈ next.tasks, task.isApart index = true := by
  have ne {place : Nat} (differs : (place != index) = true) : index ≠ place :=
    Ne.symm (bne_iff_ne.1 differs)
  cases task with
  | hear place event => exact hearStep_attends (ne own) keeps stepped
  | offer place job waited => exact offerStep_attends keeps stepped
  | send place sending => exact directStep_attends apart (ne own) keeps stepped
  | spread spread => exact outsideStep_attends apart keeps stepped
  | stop place stage => exact stopStep_attends (ne own) keeps stepped
  | halt place =>
      obtain ⟨rfl, rfl, _⟩ := of_haltStep stepped
      exact ⟨.of_same rfl, keeps⟩

theorem KeepsApart.of_callers (keeps : cluster.KeepsApart index)
    (callers_eq : after.callers = cluster.callers) : after.KeepsApart index := by
  intro caller member
  exact keeps caller (callers_eq ▸ member)

/-- A step of a caller leaves the standing of a node as it is, and other callers alone. -/
theorem callerStep?_attends (apart : cluster.IsApart index) (keeps : cluster.KeepsApart index)
    (stepped : cluster.callerStep? ticket = some after) :
    cluster.Attends index after ∧ after.KeepsApart index := by
  cases held : cluster.caller? ticket with
  | none =>
      simp only [callerStep?, held] at stepped
      cases stepped
  | some current =>
      obtain ⟨task, rest, middle, next, shape, taken, rfl, _⟩ := of_callerStep? held stepped
      obtain ⟨member, _⟩ := mem_of_caller? held
      have own := keeps current member
      rw [shape] at own
      obtain ⟨attends, left⟩ := taskStep_attends apart (own task List.mem_cons_self)
        (fun task member => own task (List.mem_cons_of_mem _ member)) taken
      refine ⟨attends.then_attends (.of_same rfl), ?_⟩
      have callers_eq := (Prod.mk.inj (taskStep_calls taken).1).1
      intro caller member
      obtain ⟨before, known, rfl⟩ := List.mem_map.1 member
      split
      · exact left
      · exact keeps before (callers_eq ▸ known)

/-! ## Requests -/

theorem began_of_request? {request : Request} {given : Nat}
    (asked : cluster.request? request = some (after, given)) :
    ∃ begun, (cluster.pass stepTime).begin? request = some begun ∧
      after.nodes = begun.cluster.nodes ∧ given = cluster.nextTicket ∧
      after.callers = cluster.callers ++ [⟨given, begun.tasks, begun.reply, isBare request⟩] ∧
      after.nextTicket = given + 1 := by
  obtain ⟨begun, began, same⟩ := Option.map_eq_some_iff.1 asked
  obtain ⟨callers_eq, next_eq⟩ := Prod.mk.inj (calls_of_begin? began)
  have callers_eq : begun.cluster.callers = cluster.callers := callers_eq
  have next_eq : begun.cluster.nextTicket = cluster.nextTicket := next_eq
  cases same
  exact ⟨begun, began, rfl, rfl, by rw [callers_eq], rfl⟩

/-- A request that is apart from a node leaves its standing as it is, unless it stops the
producer. -/
theorem begin?_attends (apart : cluster.IsApart index) {request : Request}
    (own : request.isApart index = true) (notHalt : request ≠ .halt index) {begun : Begun}
    (began : cluster.begin? request = some begun) : cluster.Attends index begun.cluster := by
  have ne {place : Nat} (differs : (place != index) = true) : index ≠ place :=
    Ne.symm (bne_iff_ne.1 differs)
  cases request with
  | operate place cache guarded call =>
      obtain ⟨node, found, began⟩ := Option.bind_eq_some_iff.1 began
      obtain ⟨operated, _, rfl⟩ := Option.map_eq_some_iff.1 began
      exact .of_same (node?_setNode_of_ne found (ne own) _)
  | send place event =>
      cases began
      exact .of_same rfl
  | receive place body =>
      obtain ⟨node, found, rfl⟩ := Option.map_eq_some_iff.1 began
      exact .of_same (handle_spares apart found body)
  | deliver message =>
      cases began
      exact .of_same rfl
  | start place =>
      obtain ⟨node, found, rfl⟩ := Option.map_eq_some_iff.1 began
      exact .of_same (node?_start_other found (Ne.symm (ne own)))
  | stop place =>
      obtain ⟨node, found, rfl⟩ := Option.map_eq_some_iff.1 began
      exact .of_same (node?_stop_other found (Ne.symm (ne own)))
  | produce place job =>
      obtain ⟨node, found, rfl⟩ := Option.map_eq_some_iff.1 began
      exact .of_same rfl
  | halt place =>
      have other : index ≠ place := fun same => notHalt (by rw [same])
      obtain ⟨node, found, rfl⟩ := Option.map_eq_some_iff.1 began
      exact .of_same (node?_setNode_of_ne found other _)

theorem begin?_keepsApart (apart : cluster.IsApart index) {request : Request}
    (own : request.isApart index = true) {begun : Begun}
    (began : cluster.begin? request = some begun) :
    ∀ task ∈ begun.tasks, task.isApart index = true := by
  cases request with
  | operate place cache guarded call =>
      obtain ⟨node, _, began⟩ := Option.bind_eq_some_iff.1 began
      obtain ⟨operated, _, rfl⟩ := Option.map_eq_some_iff.1 began
      intro task member
      obtain ⟨event, _, rfl⟩ := List.mem_map.1 member
      exact own
  | send place event =>
      cases began
      exact fun task member => List.mem_singleton.1 member ▸ own
  | receive place body =>
      obtain ⟨node, _, rfl⟩ := Option.map_eq_some_iff.1 began
      simp
  | deliver message =>
      cases began
      exact fun task member => List.mem_singleton.1 member ▸ rfl
  | start place =>
      obtain ⟨node, _, rfl⟩ := Option.map_eq_some_iff.1 began
      simp [startNode]
  | stop place =>
      obtain ⟨node, _, rfl⟩ := Option.map_eq_some_iff.1 began
      unfold stopNode
      split
      · simp
      · exact fun task member => List.mem_singleton.1 member ▸ own
  | produce place job =>
      obtain ⟨node, found, rfl⟩ := Option.map_eq_some_iff.1 began
      intro task member
      rw [List.mem_singleton.1 member]
      unfold produceTask
      split
      next direct =>
        refine bne_iff_ne.2 ?_
        rintro rfl
        obtain ⟨workers, striped⟩ := (apart node found).producer_eq
        rw [striped] at direct
        cases direct
      next => rfl
  | halt place =>
      obtain ⟨node, _, rfl⟩ := Option.map_eq_some_iff.1 began
      unfold haltNode
      dsimp only
      split <;> simp [Task.isApart]

/-- To stop a producer touches none of its workers.  The first call waits for them. -/
theorem begin?_halt (found : cluster.node? index = some node) {begun : Begun}
    (began : cluster.begin? (.halt index) = some begun) :
    cluster.Alters index (fun before after => after = { before with pipeline := .taken })
        begun.cluster ∧
      begun.tasks = if node.pipeline = .running then [.halt index] else [] := by
  simp only [begin?, found, Option.map_some, Option.some.injEq] at began
  subst began
  refine ⟨?_, rfl⟩
  intro other held solo
  obtain rfl := Option.some.inj (held.symm.trans found)
  obtain ⟨workers, striped⟩ := solo.producer_eq
  refine ⟨_, (node?_setNode found _ index).trans (if_pos rfl), ?_, ?_⟩
  · refine ⟨solo.idle, solo.kempt, solo.deaf, ?_⟩
    simp only [Node.closeProducer, striped]
    rfl
  · have roster : other.producer.close.roster = other.producer.roster := by
      rw [striped]
      rfl
    simp only [Node.standing, Node.closeProducer, roster, Node.ledger]

end Cluster

/-! ## Turns -/

namespace Node

variable {node : Node}

/-- A step that leaves a node used by its producer alone, with its standing. -/
structure Poses (before after : Node) : Prop where
  solo : before.IsSolo → after.IsSolo
  standing_eq : after.standing = before.standing

namespace Poses

theorem refl (node : Node) : node.Poses node :=
  ⟨fun solo => solo, rfl⟩

theorem trans {before after later : Node} (first : before.Poses after)
    (second : after.Poses later) : before.Poses later :=
  ⟨fun solo => second.solo (first.solo solo), second.standing_eq.trans first.standing_eq⟩

theorem of_shelf (node : Node) (shelf : CacheShelf) (linked : Bool)
    (registrations : List Registration) :
    node.Poses { node with
      core := { node.core with shelf := shelf, linked := linked }
      registrations := registrations } :=
  ⟨fun solo => ⟨solo.idle, solo.kempt, solo.deaf, solo.striped⟩, rfl⟩

end Poses

theorem registerOn_poses (node : Node) (cache : String) : node.Poses (node.registerOn cache) := by
  unfold registerOn
  split
  · exact .refl node
  · split
    · exact .refl node
    · exact .of_shelf node _ node.core.linked _

theorem turn_poses (node : Node) (turn : Turn) : node.Poses (node.turn turn) := by
  cases turn with
  | register =>
      have registered (caches : List String) :
          ∀ node : Node, node.Poses (caches.foldl registerOn node) := by
        induction caches with
        | nil => exact .refl
        | cons cache rest inductionHypothesis =>
            exact fun node => (node.registerOn_poses cache).trans (inductionHypothesis _)
      unfold turn register
      dsimp only
      split
      · exact .refl node
      · exact registered _ node
  | attach cache =>
      unfold turn attach
      dsimp only
      cases node.core.shelf.store? cache with
      | none => exact .refl node
      | some store => exact .of_shelf node _ node.core.linked _
  | create cache => exact .of_shelf node _ node.core.linked node.registrations
  | release => exact .of_shelf node node.core.shelf false node.registrations
  | connect connected => exact ⟨fun solo => ⟨solo.idle, solo.kempt, solo.deaf, solo.striped⟩, rfl⟩
  | extendScript fates => exact ⟨fun solo => ⟨solo.idle, solo.kempt, solo.deaf, solo.striped⟩, rfl⟩
  | openGate => exact ⟨fun solo => ⟨solo.idle, solo.kempt, solo.deaf, solo.striped⟩, rfl⟩

end Node
end CacheSync
