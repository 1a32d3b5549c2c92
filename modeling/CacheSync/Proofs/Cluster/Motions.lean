import CacheSync.Proofs.Cluster.Scenes

/-!
# Motions of a scene

Each act of a scene is a motion of what there is to see of the producer that is used by itself: a
step of one of its workers is the motion it looks like, a call that stops it is one, and all other
acts leave everything to see as it is.
-/

namespace CacheSync

/-! ## The workers of a node -/

namespace Node

variable {node : Node}

theorem IsSolo.modify (solo : node.IsSolo)
    (change : Workers Job Sending → Workers Job Sending) :
    ({ node with producer := node.producer.modify change } : Node).IsSolo := by
  obtain ⟨workers, crew⟩ := solo.producer_eq
  refine ⟨solo.idle, solo.kempt, solo.deaf, ?_⟩
  rw [crew]
  rfl

theorem standing_setWorker (node : Node) (stripe : Nat) (worker : Worker Sending) :
    ({ node with
      producer := node.producer.modify (·.setWorker stripe worker) } : Node).standing =
        { node.standing with roster := node.standing.roster.set stripe worker } := by
  cases crew : node.producer <;> simp [standing, ledger, crew, Crew.modify, Crew.roster,
    Workers.setWorker]

/-- To close a stripe changes no worker. -/
theorem standing_closeStripe (node : Node) (stripe : Nat) :
    ({ node with
      producer := node.producer.modify fun workers =>
        { workers with ring := workers.ring.closeStripe stripe } } : Node).standing =
      node.standing := by
  cases crew : node.producer <;> simp [standing, ledger, crew, Crew.modify, Crew.roster]

theorem standing_modify {workers : Workers Job Sending}
    (crew : node.producer = .striped workers)
    (change : Workers Job Sending → Workers Job Sending) :
    ({ node with producer := node.producer.modify change } : Node).standing =
      { node.standing with roster := (change workers).workers } := by
  simp [standing, ledger, crew, Crew.modify, Crew.roster]

end Node

namespace Cluster

theorem node?_modify_self {cluster : Cluster} {index : Nat} {node : Node}
    (found : cluster.node? index = some node) (change : Node → Node) :
    (cluster.modifyNode index change).node? index = some (change node) := by
  rw [node?_modifyNode, if_pos rfl, found]
  rfl

/-- A channel is lost for good if and only if the worker gives up. -/
theorem lossesOf_eq (result : Except ProduceError Unit) :
    lossesOf result = if verdictOf result = .giveUp then 1 else 0 := by
  rcases result with error | done
  · cases error <;> rfl
  · rfl

theorem ending?_eq_gaveUp_iff {verdict : Verdict} {why : Ending}
    (ends : verdict.ending? = some why) : verdict = .giveUp ↔ why = .gaveUp := by
  cases verdict <;> cases ends <;> simp

theorem not_mem_resultMarks_worker (job : Job) (result : Except ProduceError Unit) :
    Mark.workerFailed .producer ∉ resultMarks job result := by
  unfold resultMarks
  split <;> simp

/-- The handler of a worker that is to end has lost what the ending says. -/
theorem ending?_loses {cluster after : Cluster} {index : Nat} {sending : Sending} {why : Ending}
    (sent : (cluster.sendStep index sending).Loses cluster index)
    (ends : (cluster.sendStep index sending).ending? = some (after, why)) :
    cluster.Alters index (Standing.Loses (if why = .gaveUp then 1 else 0)) after := by
  unfold SendStep.ending? at ends
  split at ends
  · cases ends
  · cases ends
  next done result outcome =>
    obtain ⟨ending, verdict, same⟩ := Option.map_eq_some_iff.1 ends
    cases same
    rw [outcome] at sent
    have altered : cluster.Alters index (Standing.Loses (lossesOf result)) after := sent
    rw [lossesOf_eq] at altered
    simpa only [ending?_eq_gaveUp_iff verdict] using altered
  next crashed outcome =>
    cases ends
    rw [outcome] at sent
    exact sent

theorem calls_of_ending? {cluster after : Cluster} {index : Nat} {sending : Sending} {why : Ending}
    (ends : (cluster.sendStep index sending).ending? = some (after, why)) :
    after.calls = cluster.calls := by
  have works := cluster.sendStep_works index 0 sending
  unfold SendStep.ending? at ends
  split at ends
  · cases ends
  · cases ends
  next done result outcome =>
    obtain ⟨ending, _, same⟩ := Option.map_eq_some_iff.1 ends
    cases same
    rw [outcome] at works
    rcases result with error | ok
    · exact works.calls_eq
    · exact works.calls_eq
  next crashed outcome =>
    cases ends
    rw [outcome] at works
    exact works.calls_eq

end Cluster

namespace Scene

open Cluster (stepTime node?_modify_self)

variable {scene after : Scene} {index stripe stripes : Nat} {node : Node}

/-! ## Motions of one producer -/

/-- What an act does to a node used by its striped producer alone is a motion. -/
def Moves (scene : Scene) (index : Nat) (node : Node) (after : Scene) : Prop :=
  ∃ changed, after.cluster.node? index = some changed ∧ changed.IsSolo ∧
    (scene.sight node).Motion (after.sight changed)

theorem Moves.of_attends (found : scene.cluster.node? index = some node) (solo : node.IsSolo)
    {later : Cluster} (attends : scene.cluster.Attends index later) :
    scene.Moves index node (scene.become later) := by
  obtain ⟨changed, here, stillSolo, same⟩ := attends node found solo
  refine ⟨changed, here, stillSolo, ?_⟩
  have unmoved : (scene.become later).sight changed = scene.sight node := by
    simp only [sight, become, same]
  rw [unmoved]
  exact .rest

/-- It is, if what there is to see of the node afterwards is what a motion leads to. -/
theorem Moves.of_node {changed : Node} {later : Sight}
    (here : after.cluster.node? index = some changed) (solo : changed.IsSolo)
    (shows : after.sight changed = later) (motion : (scene.sight node).Motion later) :
    scene.Moves index node after :=
  ⟨changed, here, solo, shows ▸ motion⟩

theorem isApart_of_solo (found : scene.cluster.node? index = some node) (solo : node.IsSolo) :
    scene.cluster.IsApart index :=
  fun _ held => Option.some.inj (held.symm.trans found) ▸ solo

/-- A step of a sending that does not end its worker leaves it inside its handler, or with its item
done. -/
theorem producerWork_moves (found : scene.cluster.node? index = some node) (solo : node.IsSolo)
    {sending : Sending} (inside : (scene.sight node).IsInside stripe sending)
    (own : sending.IsProducers) (goesOn : (scene.cluster.sendStep index sending).ending? = none)
    {later : Cluster}
    (worked : scene.cluster.producerWork index stripe sending = some later) :
    scene.Moves index node (scene.become (later.pass stepTime)) := by
  have sent := Cluster.sendStep_loses (isApart_of_solo found solo) own
  unfold Cluster.producerWork at worked
  split at worked
  next moved next outcome =>
    rw [outcome] at sent
    cases worked
    obtain ⟨altered, stillOwn⟩ := sent
    obtain ⟨between, here, stillSolo, loses⟩ := altered node found solo
    refine .of_node (node?_modify_self here _) (stillSolo.modify _) ?_
      (.handle inside loses stillOwn)
    simp only [sight, become, Node.standing_setWorker, Sight.setWorker]
  next => cases worked
  next done result outcome =>
    rw [outcome] at sent goesOn
    cases worked
    have verdict : Cluster.verdictOf result = .goOn := by
      have noEnding : (Cluster.verdictOf result).ending? = none := Option.map_eq_none_iff.1 goesOn
      cases verdict : Cluster.verdictOf result with
      | goOn => rfl
      | giveUp | cancelled | crashed =>
          rw [verdict] at noEnding
          cases noEnding
    have altered : scene.cluster.Alters index (Standing.Loses (lossesOf result)) done := sent
    rw [Cluster.lossesOf_eq, verdict, if_neg (by simp)] at altered
    obtain ⟨between, here, stillSolo, loses⟩ := altered node found solo
    have marked := node?_modify_self here fun node =>
      node.markAll (Cluster.resultMarks sending.job result ++ Workers.verdictMarks .producer .goOn)
    rw [verdict]
    refine .of_node (node?_modify_self marked _) ((stillSolo.markAll _).modify _) ?_
      (.goOn inside loses)
    have silent : Mark.workerFailed .producer ∉
        Cluster.resultMarks sending.job result ++ Workers.verdictMarks .producer .goOn := by
      simpa [Workers.verdictMarks] using Cluster.not_mem_resultMarks_worker sending.job result
    simp only [sight, become, Workers.settle, Node.standing_setWorker,
      Node.standing_markAll_of_not_mem _ silent, Sight.setWorker]
  next crashed outcome =>
    rw [outcome] at goesOn
    cases goesOn

/-- A worker takes an item, or it finds its stripe closed and ends. -/
theorem take_moves (found : scene.cluster.node? index = some node) (solo : node.IsSolo)
    {workers more : Workers Job Sending} (crew : node.producer = .striped workers)
    (taken : workers.take? Sending.ofJob stripe = some more) :
    scene.Moves index node
      (scene.become ((scene.cluster.modifyProducer index fun _ => more).pass stepTime)) := by
  have roster : node.standing.roster = workers.workers := by
    simp only [Node.standing, crew, Crew.roster]
  have idle : node.standing.roster[stripe]? = some .idle := by
    rw [roster]
    exact Workers.idle_of_take? taken
  have shows (worker : Worker Sending) (set : more.workers = workers.workers.set stripe worker) :
      (scene.become ((scene.cluster.modifyProducer index fun _ => more).pass stepTime)).sight
          { node with producer := node.producer.modify fun _ => more } =
        (scene.sight node).setWorker stripe worker := by
    simp only [sight, become, Node.standing_modify crew, Sight.setWorker, set, roster]
  have moves {later : Sight} := @Moves.of_node scene
    (scene.become ((scene.cluster.modifyProducer index fun _ => more).pass stepTime)) index node
    _ later (node?_modify_self found _) (solo.modify fun _ => more)
  cases polled : workers.ring.poll stripe with
  | taken item ring =>
      obtain ⟨_, _, _, _, rfl⟩ := Workers.of_take?_taken taken polled
      exact moves (shows _ rfl) (.take idle (by rintro call ⟨⟩))
  | empty =>
      simp only [Workers.take?, Workers.idle_of_take? taken, polled, reduceCtorEq] at taken
  | closed =>
      obtain rfl := Workers.of_take?_closed taken polled
      exact moves (shows _ rfl) (.retire idle)

/-- Each leg of a parting is a motion. -/
theorem depart_moves (found : scene.cluster.node? index = some node) (solo : node.IsSolo)
    {parting : Parting} (held : scene.partings[stripe]? = some (some parting)) :
    scene.Moves index node (scene.depart index stripe parting) := by
  obtain ⟨why, leg⟩ := parting
  cases leg with
  | returned => exact .of_node found solo rfl (.count held)
  | counted =>
      refine .of_node (node?_modify_self found _) (solo.markAll _) ?_ (.report held)
      simp only [sight, depart, setParting, become, Node.standing_markAll, Ending.count_reports,
        Sight.setParting]
  | reported =>
      refine .of_node (node?_modify_self found _) (solo.modify _) ?_ (.shut held)
      simp only [sight, depart, setParting, become, Node.standing_closeStripe, Sight.setParting]
  | shut =>
      refine .of_node (node?_modify_self found _) (solo.modify _) ?_ (.leave held)
      simp only [sight, depart, setParting, become, Node.standing_setWorker, Sight.setParting,
        Sight.setWorker]

theorem of_sending? {cluster : Cluster} {sending : Sending}
    (works : cluster.sending? index stripe = some sending)
    (found : cluster.node? index = some node) :
    node.standing.roster[stripe]? = some (.busy sending) := by
  obtain ⟨workers, crew, busy⟩ := Option.bind_eq_some_iff.1 works
  rw [found, Option.bind_some] at crew
  have roster : node.standing.roster = workers.workers := by
    simp only [Node.standing, Cluster.workers?_eq_some crew, Crew.roster]
  rw [roster]
  exact Workers.of_work? busy

/-- Each step of a worker is a motion. -/
theorem work?_moves (found : scene.cluster.node? index = some node) (solo : node.IsSolo)
    (placed : (scene.sight node).Placed stripes) (worked : scene.work? index stripe = some after) :
    scene.Moves index node after := by
  unfold work? at worked
  split at worked
  · cases worked
  next parting held =>
    cases worked
    exact depart_moves found solo held
  next stays =>
    split at worked
    next later why ends =>
      cases worked
      obtain ⟨sending, works, ends⟩ := Option.bind_eq_some_iff.1 ends
      have busy := of_sending? works found
      have sent := Cluster.sendStep_loses (isApart_of_solo found solo)
        (placed.own stripe sending busy)
      obtain ⟨between, here, stillSolo, loses⟩ := Cluster.ending?_loses sent ends node found solo
      exact .of_node here stillSolo rfl (.depart ⟨busy, stays⟩ loses)
    next noEnd =>
      obtain ⟨later, stepped, rfl⟩ := Option.map_eq_some_iff.1 worked
      obtain ⟨acted, act, rfl⟩ := Option.map_eq_some_iff.1 stepped
      have act : scene.cluster.producerStep? index stripe = some acted := act
      unfold Cluster.producerStep? at act
      split at act
      · cases act
      next workers crew =>
        split at act
        next sending works =>
          have works : scene.cluster.sending? index stripe = some sending :=
            Option.bind_eq_some_iff.2 ⟨workers, crew, works⟩
          have busy := of_sending? works found
          have goesOn : (scene.cluster.sendStep index sending).ending? = none := by
            simpa only [Cluster.farewell?, works, Option.bind_some] using noEnd
          exact producerWork_moves found solo ⟨busy, stays⟩ (placed.own stripe sending busy) goesOn
            act
        next =>
          obtain ⟨more, taken, rfl⟩ := Option.map_eq_some_iff.1 act
          rw [found, Option.bind_some] at crew
          exact take_moves found solo (Cluster.workers?_eq_some crew) taken

theorem isProducers_waitUntil {sending : Sending} (own : sending.IsProducers)
    (wake : Option Moment) : (sending.waitUntil wake).IsProducers := by
  unfold Sending.waitUntil
  split
  next side course old entered =>
    rintro call ⟨⟩
    exact own ⟨side, .waiting course old⟩ entered
  next => exact own

theorem draw?_moves (found : scene.cluster.node? index = some node) (solo : node.IsSolo)
    (placed : (scene.sight node).Placed stripes) {wake : Option Moment}
    (drawn : scene.draw? index stripe wake = some after) : scene.Moves index node after := by
  unfold draw? at drawn
  split at drawn
  next sending stays works =>
    cases drawn
    have busy := of_sending? works found
    refine .of_node (node?_modify_self found _) (solo.modify _) ?_
      (.handle ⟨busy, stays⟩ (Node.Loses.refl node).standing
        (isProducers_waitUntil (placed.own stripe sending busy) wake))
    simp only [sight, become, Node.standing_setWorker, Sight.setWorker]
  next => cases drawn

/-! ## Motions by others -/

/-- A step of a thread that is no worker of a producer leaves its standing as it is. -/
theorem step_attends (found : scene.cluster.node? index = some node) (solo : node.IsSolo)
    (keeps : scene.cluster.KeepsApart index) {thread : Thread}
    (other : thread.stripeAt? index = none) {later : Cluster}
    (acted : scene.cluster.act? thread = some later) : scene.cluster.Attends index later := by
  have apart := isApart_of_solo found solo
  cases thread with
  | caller ticket => exact (Cluster.callerStep?_attends apart keeps acted).1
  | producerWorker place stripe =>
      have differs : index ≠ place := by
        rintro rfl
        simp [Thread.stripeAt?] at other
      exact .of_same (Cluster.producerStep?_spares apart differs acted)
  | consumerWorker place stripe => exact .of_same (Cluster.consumerStep?_spares apart acted)
  | cleaner place => exact .of_same (Cluster.cleanerStep?_spares apart acted)

theorem isHalt_iff {request : Request} : request.isHalt index = true ↔ request = .halt index := by
  cases request <;> simp [Request.isHalt]

theorem ask?_moves (found : scene.cluster.node? index = some node) (solo : node.IsSolo)
    {request : Request} (own : request.isApart index = true)
    (asked : scene.ask? index request = some after) : scene.Moves index node after := by
  obtain ⟨⟨later, ticket⟩, asked', rfl⟩ := Option.map_eq_some_iff.1 asked
  obtain ⟨begun, began, nodes_eq, -, -, -⟩ := Cluster.began_of_request? asked'
  have here : later.node? index = begun.cluster.node? index := by
    simp only [Cluster.node?, nodes_eq]
  have found' : (scene.cluster.pass stepTime).node? index = some node := found
  by_cases halts : request = .halt index
  · subst halts
    obtain ⟨altered, _⟩ := Cluster.begin?_halt found' began
    obtain ⟨changed, there, stillSolo, standing_eq⟩ := altered node found' solo
    refine .of_node (here.trans there) stillSolo ?_ (.halt ticket)
    simp only [sight, isHalt_iff.2 rfl, standing_eq, ↓reduceIte]
  · have apart : (scene.cluster.pass stepTime).IsApart index := isApart_of_solo found solo
    obtain ⟨changed, there, stillSolo, standing_eq⟩ :=
      Cluster.begin?_attends apart own halts began node found' solo
    refine .of_node (here.trans there) stillSolo ?_ .rest
    simp only [sight, isHalt_iff, halts, standing_eq, ↓reduceIte]

/-- Each act is a motion of what there is to see of a producer that is used by itself. -/
theorem do?_moves (found : scene.cluster.node? index = some node) (solo : node.IsSolo)
    (placed : (scene.sight node).Placed stripes) (keeps : scene.cluster.KeepsApart index)
    {act : Act} (did : scene.do? index act = some after) : scene.Moves index node after := by
  have attends {later : Cluster} (attends : scene.cluster.Attends index later) :
      scene.Moves index node (scene.become later) := .of_attends found solo attends
  cases act with
  | ask request =>
      simp only [do?] at did
      split at did
      next own => exact ask?_moves found solo own did
      next => cases did
  | step thread =>
      simp only [do?] at did
      split at did
      next stripe mine =>
        exact work?_moves found solo placed did
      next other =>
        obtain ⟨later, stepped, rfl⟩ := Option.map_eq_some_iff.1 did
        obtain ⟨acted, act, rfl⟩ := Option.map_eq_some_iff.1 stepped
        exact attends ((step_attends found solo keeps other act).then_attends (.of_same rfl))
  | wait nanos =>
      cases did
      exact attends (.of_same rfl)
  | turn place turn =>
      cases did
      exact attends (Cluster.attends_of_modifyNode (fun node _ => (node.turn_poses turn).solo)
        fun node _ _ => (node.turn_poses turn).standing_eq)
  | shut place =>
      cases did
      have closed : scene.cluster.Attends index (scene.cluster.shut place) :=
        Cluster.attends_of_modifyNode
          (fun node _ solo => ⟨solo.idle, solo.kempt, solo.deaf, solo.striped⟩) fun _ _ _ => rfl
      exact attends closed
  | trigger place =>
      cases did
      exact attends (Cluster.attends_of_modifyNode
        (fun node _ solo => ⟨solo.idle, solo.kempt, solo.deaf, solo.striped⟩) fun _ _ _ => rfl)
  | closeStripe stripe =>
      cases did
      exact attends (Cluster.attends_of_modifyNode (fun node _ solo => solo.modify _)
        fun node _ _ => node.standing_closeStripe stripe)
  | draw stripe wake => exact draw?_moves found solo placed did

end Scene
end CacheSync
