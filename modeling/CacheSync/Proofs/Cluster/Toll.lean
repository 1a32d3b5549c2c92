import CacheSync.Proofs.Cluster.Motions
import CacheSync.Proofs.Node.Replication

/-!
# The toll of a striped producer

Whatever happens in a scene, the failures of the workers of a producer are counted once each, and
nothing else is: while no worker is busy, the number behind its health is that of the workers that
gave up or crashed.  When the call that stopped it first is over, its workers have all ended, and
nothing is handed to the channel any more.  A later call does not wait for them.
-/

namespace CacheSync

namespace Cluster

variable {cluster after : Cluster} {ticket : Nat}

/-! ## Tickets -/

theorem Numbered.of_calls (numbered : cluster.Numbered) (calls_eq : after.calls = cluster.calls) :
    after.Numbered := by
  obtain ⟨callers_eq, next_eq⟩ := Prod.mk.inj calls_eq
  unfold Numbered
  rw [callers_eq, next_eq]
  exact numbered

theorem Numbered.of_callerStep? (numbered : cluster.Numbered)
    (stepped : cluster.callerStep? ticket = some after) : after.Numbered := by
  cases held : cluster.caller? ticket with
  | none =>
      simp only [callerStep?, held] at stepped
      cases stepped
  | some current =>
      obtain ⟨task, rest, middle, next, _, taken, rfl, _⟩ := Cluster.of_callerStep? held stepped
      obtain ⟨calls_eq, ticket_eq⟩ := taskStep_calls taken
      have middling := numbered.of_calls calls_eq
      intro caller member
      obtain ⟨before, known, rfl⟩ := List.mem_map.1 member
      split
      next same => exact same ▸ middling before known
      next => exact middling before known

/-- A new caller takes the next ticket and stands behind the others. -/
theorem Numbered.enlist (numbered : cluster.Numbered) {new : Caller}
    (callers_eq : after.callers = cluster.callers ++ [new])
    (ticket_eq : new.ticket = cluster.nextTicket)
    (next_eq : after.nextTicket = cluster.nextTicket + 1) :
    after.Numbered ∧ after.caller? cluster.nextTicket = some new := by
  have absent : cluster.callers.find? (·.ticket == cluster.nextTicket) = none := by
    rw [List.find?_eq_none]
    intro caller member
    simpa using Nat.ne_of_lt (numbered caller member)
  refine ⟨?_, ?_⟩
  · intro caller member
    rw [next_eq]
    rw [callers_eq] at member
    rcases List.mem_append.1 member with early | late
    · exact Nat.lt_succ_of_lt (numbered caller early)
    · rw [List.mem_singleton.1 late, ticket_eq]
      exact Nat.lt_succ_self _
  · simp [caller?, callers_eq, List.find?_append, absent, ticket_eq]

end Cluster

namespace Scene

variable {scene after : Scene} {index stripe stripes threshold ticket : Nat} {node : Node}

/-! ## What is kept in a scene -/

/-- The call that stopped the producer first waits for its workers, or they have all ended. -/
structure Awaits (scene : Scene) (index ticket : Nat) (node : Node) (caller : Caller) : Prop where
  held : scene.cluster.caller? ticket = some caller
  waits : caller.tasks = [.halt index] ∨ caller.tasks = [] ∧ (scene.sight node).allEnded = true

/-- What is kept in a scene in which a node is used by its striped producer alone. -/
structure Fits (scene : Scene) (index stripes threshold : Nat) (node : Node) : Prop where
  found : scene.cluster.node? index = some node
  solo : node.IsSolo
  regular : (scene.sight node).Regular stripes threshold
  apart : scene.cluster.KeepsApart index
  numbered : scene.cluster.Numbered
  stopped : ∀ ticket, scene.stopper = some ticket → ∃ caller, scene.Awaits index ticket node caller

theorem Awaits.of_motion {caller : Caller} {changed : Node}
    (awaits : scene.Awaits index ticket node caller) (placed : (scene.sight node).Placed stripes)
    (motion : (scene.sight node).Motion (after.sight changed))
    (held : after.cluster.caller? ticket = some caller) :
    after.Awaits index ticket changed caller := by
  refine ⟨held, ?_⟩
  rcases awaits.waits with waiting | ⟨done, ended⟩
  · exact Or.inl waiting
  · exact Or.inr ⟨done, (motion.of_allEnded placed ended).1⟩

namespace Fits

variable {changed : Node} {request : Request}

/-- Whoever is not a caller leaves the callers alone. -/
theorem of_calls (fits : scene.Fits index stripes threshold node)
    (here : after.cluster.node? index = some changed) (solo : changed.IsSolo)
    (motion : (scene.sight node).Motion (after.sight changed))
    (calls_eq : after.cluster.calls = scene.cluster.calls)
    (stopper_eq : after.stopper = scene.stopper) : after.Fits index stripes threshold changed where
  found := here
  solo := solo
  regular := motion.regular fits.regular
  apart := fits.apart.of_callers (Prod.mk.inj calls_eq).1
  numbered := fits.numbered.of_calls calls_eq
  stopped ticket stops := by
    obtain ⟨caller, awaits⟩ := fits.stopped ticket (stopper_eq ▸ stops)
    exact ⟨caller, awaits.of_motion fits.regular.placed motion
      ((Cluster.caller?_of_calls calls_eq ticket).trans awaits.held)⟩

/-- A worker of the producer takes a step. -/
theorem calls_of_work? (worked : scene.work? index stripe = some after) :
    after.cluster.calls = scene.cluster.calls ∧ after.stopper = scene.stopper := by
  unfold work? at worked
  split at worked
  · cases worked
  next parting held =>
    cases worked
    obtain ⟨why, leg⟩ := parting
    cases leg <;> exact ⟨rfl, rfl⟩
  next stays =>
    split at worked
    next later why ends =>
      cases worked
      obtain ⟨sending, _, ends⟩ := Option.bind_eq_some_iff.1 ends
      have calls_eq : later.calls = scene.cluster.calls := Cluster.calls_of_ending? ends
      exact ⟨calls_eq, rfl⟩
    next noEnd =>
      obtain ⟨later, stepped, rfl⟩ := Option.map_eq_some_iff.1 worked
      obtain ⟨acted, act, rfl⟩ := Option.map_eq_some_iff.1 stepped
      have act : scene.cluster.producerStep? index stripe = some acted := act
      have retains : scene.cluster.Retains 0 acted := Cluster.producerStep?_retains act
      exact ⟨retains.calls_eq, rfl⟩

theorem ask? (fits : scene.Fits index stripes threshold node)
    (here : after.cluster.node? index = some changed) (solo : changed.IsSolo)
    (motion : (scene.sight node).Motion (after.sight changed))
    (own : request.isApart index = true) (asked : scene.ask? index request = some after) :
    after.Fits index stripes threshold changed := by
  obtain ⟨⟨later, given⟩, asked', rfl⟩ := Option.map_eq_some_iff.1 asked
  obtain ⟨begun, began, -, rfl, callers_eq, next_eq⟩ := Cluster.began_of_request? asked'
  have found' : (scene.cluster.pass Cluster.stepTime).node? index = some node := fits.found
  have apart : (scene.cluster.pass Cluster.stepTime).IsApart index :=
    isApart_of_solo fits.found fits.solo
  obtain ⟨numbered, held⟩ := fits.numbered.enlist callers_eq rfl next_eq
  refine ⟨here, solo, motion.regular fits.regular, ?_, numbered, ?_⟩
  · intro caller member
    rw [callers_eq] at member
    rcases List.mem_append.1 member with early | late
    · exact fits.apart caller early
    · rw [List.mem_singleton.1 late]
      exact Cluster.begin?_keepsApart apart own began
  · intro ticket stops
    change (if request.isHalt index then scene.stopper.or (some scene.cluster.nextTicket)
      else scene.stopper) = some ticket at stops
    rcases Option.eq_none_or_eq_some scene.stopper with first | ⟨earlier, first⟩
    · rw [first] at stops
      split at stops
      next halts =>
        cases stops
        obtain rfl := isHalt_iff.1 halts
        refine ⟨_, held, Or.inl ?_⟩
        exact (Cluster.begin?_halt found' began).2.trans (if_pos (fits.regular.unstopped first))
      next => cases stops
    · have same : earlier = ticket := by
        rw [first] at stops
        split at stops <;> exact Option.some.inj stops
      subst same
      obtain ⟨caller, awaits⟩ := fits.stopped earlier first
      exact ⟨caller, awaits.of_motion fits.regular.placed motion
        (Cluster.caller?_of_request? asked' awaits.held)⟩

theorem callerStep? (fits : scene.Fits index stripes threshold node)
    (here : after.cluster.node? index = some changed) (solo : changed.IsSolo)
    (motion : (scene.sight node).Motion (after.sight changed)) {stepping : Nat} {later : Cluster}
    (stepped : scene.cluster.callerStep? stepping = some later)
    (calls_eq : after.cluster.calls = later.calls) (stopper_eq : after.stopper = scene.stopper) :
    after.Fits index stripes threshold changed := by
  have apart := isApart_of_solo fits.found fits.solo
  have left := (Cluster.callerStep?_attends apart fits.apart stepped).2
  have numbered := fits.numbered.of_callerStep? stepped
  refine ⟨here, solo, motion.regular fits.regular, left.of_callers (Prod.mk.inj calls_eq).1,
    numbered.of_calls calls_eq, ?_⟩
  intro ticket stops
  obtain ⟨caller, awaits⟩ := fits.stopped ticket (stopper_eq ▸ stops)
  by_cases mine : stepping = ticket
  · subst mine
    obtain ⟨task, rest, middle, next, shape, taken, after_eq, there⟩ :=
      Cluster.of_callerStep? awaits.held stepped
    rcases awaits.waits with waiting | ⟨done, _⟩
    · rw [waiting] at shape
      cases shape
      obtain ⟨_, rfl, ended⟩ := Cluster.of_haltStep taken
      refine ⟨_, (Cluster.caller?_of_calls calls_eq stepping).trans there, Or.inr ⟨rfl, ?_⟩⟩
      have allEnded : (scene.sight node).allEnded = true := by
        have ended := ended node fits.found
        rwa [Crew.allEnded_eq] at ended
      exact (motion.of_allEnded fits.regular.placed allEnded).1
    · rw [done] at shape
      cases shape
  · have other : Thread.caller stepping ≠ .caller ticket := fun same => mine (by injection same)
    have held := Cluster.caller?_of_act? other stepped
    exact ⟨caller, awaits.of_motion fits.regular.placed motion
      (((Cluster.caller?_of_calls calls_eq ticket).trans held).trans awaits.held)⟩

/-- An act keeps what fits, and what there is to see of the producer moves. -/
theorem do? (fits : scene.Fits index stripes threshold node) {act : Act}
    (did : scene.do? index act = some after) :
    ∃ changed, after.Fits index stripes threshold changed ∧
      (scene.sight node).Motion (after.sight changed) := by
  obtain ⟨changed, here, solo, motion⟩ :=
    do?_moves fits.found fits.solo fits.regular.placed fits.apart did
  refine ⟨changed, ?_, motion⟩
  cases act with
  | ask request =>
      simp only [Scene.do?] at did
      split at did
      next own => exact fits.ask? here solo motion own did
      next => cases did
  | step thread =>
      simp only [Scene.do?] at did
      split at did
      next stripe mine =>
        obtain ⟨calls_eq, stopper_eq⟩ := calls_of_work? did
        exact fits.of_calls here solo motion calls_eq stopper_eq
      next other =>
        obtain ⟨later, stepped, rfl⟩ := Option.map_eq_some_iff.1 did
        obtain ⟨acted, act, rfl⟩ := Option.map_eq_some_iff.1 stepped
        cases thread with
        | caller ticket => exact fits.callerStep? here solo motion act rfl rfl
        | producerWorker place stripe =>
            have retains : scene.cluster.Retains 0 acted := Cluster.producerStep?_retains act
            exact fits.of_calls here solo motion retains.calls_eq rfl
        | consumerWorker place stripe =>
            have works : scene.cluster.Works 0 [] acted := Cluster.consumerStep?_works act
            exact fits.of_calls here solo motion works.calls_eq rfl
        | cleaner place =>
            have works : scene.cluster.Works 0 [] acted := Cluster.cleanerStep?_works act
            exact fits.of_calls here solo motion works.calls_eq rfl
  | wait | turn | shut | trigger | closeStripe =>
      cases did
      exact fits.of_calls here solo motion rfl rfl
  | draw stripe wake =>
      simp only [Scene.do?, draw?] at did
      split at did
      next =>
        cases did
        exact fits.of_calls here solo motion rfl rfl
      next => cases did

/-- What fits keeps so over every course. -/
theorem after? (fits : scene.Fits index stripes threshold node) {acts : List Act}
    (went : scene.after? index acts = some after) :
    ∃ changed, after.Fits index stripes threshold changed := by
  induction acts generalizing scene node with
  | nil =>
      cases went
      exact ⟨node, fits⟩
  | cons act rest inductionHypothesis =>
      obtain ⟨next, did, went⟩ := Option.bind_eq_some_iff.1 went
      obtain ⟨changed, fits, _⟩ := fits.do? did
      exact inductionHypothesis fits went

/-- When every worker has ended, nothing is handed to the channel any more. -/
theorem after?_of_allEnded (fits : scene.Fits index stripes threshold node)
    (ended : (scene.sight node).allEnded = true) {acts : List Act}
    (went : scene.after? index acts = some after) :
    ∃ changed, after.cluster.node? index = some changed ∧
      (after.sight changed).allEnded = true ∧ changed.channel.sent = node.channel.sent ∧
        changed.channel.calls = node.channel.calls := by
  induction acts generalizing scene node with
  | nil =>
      cases went
      exact ⟨node, fits.found, ended, rfl, rfl⟩
  | cons act rest inductionHypothesis =>
      obtain ⟨next, did, went⟩ := Option.bind_eq_some_iff.1 went
      obtain ⟨between, fits', motion⟩ := fits.do? did
      obtain ⟨still, sent_eq, calls_eq⟩ := motion.of_allEnded fits.regular.placed ended
      obtain ⟨changed, here, atEnd, sent, calls⟩ := inductionHypothesis fits' still went
      exact ⟨changed, here, atEnd, sent.trans sent_eq, calls.trans calls_eq⟩

end Fits

end Scene

/-! ## The toll -/

/-- Whether a worker has ended without a failure. -/
def Worker.hasWithdrawn {ω : Type} : Worker ω → Bool
  | .ended why => !why.isFailure
  | _ => false

theorem Worker.countP_hasEnded {ω : Type} (roster : List (Worker ω)) :
    roster.countP hasEnded = roster.countP hasFailed + roster.countP hasWithdrawn := by
  induction roster with
  | nil => rfl
  | cons worker rest inductionHypothesis =>
      simp only [List.countP_cons, inductionHypothesis]
      cases worker with
      | idle => rfl
      | busy work => rfl
      | ended why =>
          cases why <;> simp [hasEnded, hasFailed, hasWithdrawn, Ending.isFailure] <;> omega

namespace Scene

/-- The failures of a producer with so many stripes are those of its workers, each counted once. -/
structure Counts (scene : Scene) (stripes threshold : Nat) (node : Node) : Prop where
  failures_eq : scene.failures node = node.producer.roster.countP Worker.hasFailed
  /-- A worker that ended because it was cancelled or its stripe was closed is not among them. -/
  ended_eq : node.producer.roster.countP Worker.hasEnded =
    scene.failures node + node.producer.roster.countP Worker.hasWithdrawn
  failures_le : scene.failures node ≤ stripes
  reported_eq : node.core.meter.count (.workerFailed .producer) = scene.failures node
  health_eq : scene.health node =
    workerHealth .producer (node.producer.roster.countP Worker.hasFailed) threshold
  crewHealth_eq : node.crewHealth .producer = scene.health node

/-- All workers have ended, and nothing that happens from here on hands anything to the channel. -/
structure Over (scene : Scene) (index : Nat) (node : Node) : Prop where
  ended : ∀ worker ∈ node.producer.roster, worker.hasEnded = true
  silent : ∀ acts after, scene.after? index acts = some after → ∃ changed,
    after.cluster.node? index = some changed ∧
      (∀ worker ∈ changed.producer.roster, worker.hasEnded = true) ∧
      changed.channel.sent = node.channel.sent ∧ changed.channel.calls = node.channel.calls

/-- What the health of a striped producer and the call that stopped it first say of its workers. -/
structure Toll (scene : Scene) (index stripes threshold : Nat) (node : Node) : Prop where
  found : scene.cluster.node? index = some node
  roster_length : node.producer.roster.length = stripes
  /-- A worker that is busy is within a handle step: it is in its handler, or on its way out, to
  count a crash, to report, to close its stripe and to leave.  Only states within such a step are
  left out: there the counts may be ahead of the workers that have ended. -/
  counts : (∀ worker ∈ node.producer.roster, worker.isBusy = false) →
    scene.Counts stripes threshold node
  stopped : ∀ ticket, scene.stopper = some ticket → scene.cluster.isFinished ticket = true →
    scene.Over index node

variable {scene : Scene} {index stripes threshold : Nat} {node origin : Node}

namespace Fits

theorem counts (fits : scene.Fits index stripes threshold node)
    (calm : ∀ worker ∈ node.producer.roster, worker.isBusy = false) :
    scene.Counts stripes threshold node := by
  obtain ⟨placed, tolled, _, threshold_eq⟩ := fits.regular
  have isCalm : (scene.sight node).isCalm = true := by
    refine List.all_eq_true.2 fun worker member => ?_
    rw [calm worker member]
    rfl
  obtain ⟨givenUp, crashed, reported⟩ := tolled.of_isCalm placed isCalm
  have threshold_eq : node.core.config.threshold = threshold := threshold_eq
  have failures_eq : scene.failures node = node.producer.roster.countP Worker.hasFailed := by
    rw [Worker.countP_hasFailed]
    exact congrArg₂ (· + ·) givenUp crashed
  have same : node.failures .producer = scene.failures node := by
    have crashes : node.producer.crashes = scene.failed := by
      rw [Crew.crashes_eq]
      exact crashed.symm
    exact congrArg (node.ledger.unrecoverable.get .producer + ·) crashes
  refine ⟨failures_eq, ?_, ?_, reported.trans failures_eq.symm, ?_, ?_⟩
  · rw [failures_eq, Worker.countP_hasEnded]
  · rw [failures_eq]
    exact placed.roster_length ▸ List.countP_le_length
  · rw [health, failures_eq, threshold_eq]
  · rw [Node.crewHealth, same, health]

theorem isOver (fits : scene.Fits index stripes threshold node) {ticket : Nat}
    (stops : scene.stopper = some ticket) (finished : scene.cluster.isFinished ticket = true) :
    scene.Over index node := by
  obtain ⟨caller, held, waits⟩ := fits.stopped ticket stops
  have ended : (scene.sight node).allEnded = true := by
    rcases waits with waiting | ⟨_, ended⟩
    · simp [Cluster.isFinished, held, Caller.isFinished, waiting] at finished
    · exact ended
  refine ⟨List.all_eq_true.1 ended, ?_⟩
  intro acts after went
  obtain ⟨changed, here, atEnd, sent, calls⟩ := fits.after?_of_allEnded ended went
  exact ⟨changed, here, List.all_eq_true.1 atEnd, sent, calls⟩

end Fits

/-- A producer that was just made fits the scene that opens with it. -/
theorem fits_opening {name : String} {capacity : Nat} {recovery : RecoverySettings} {codec : Codec}
    {channel : Channel} {nodes : List Node}
    (made : Node.ofProducer name (.striped stripes capacity) recovery threshold codec channel =
      .ok origin) (placed : nodes[index]? = some origin) (clock : Clock) :
    (opening nodes clock stripes).Fits index stripes threshold origin := by
  unfold Node.ofProducer at made
  split at made
  · cases made
  next crew fresh =>
    obtain ⟨workers, rfl, shown⟩ := Crew.shows_of_make fresh
    cases made
    have roster : workers.workers = List.replicate stripes .idle := by
      rw [List.eq_replicate_iff]
      refine ⟨shown.workers_length, fun worker member => ?_⟩
      obtain ⟨stripe, inRange, rfl⟩ := List.getElem_of_mem member
      have idle := shown.workers stripe (shown.workers_length ▸ inRange)
      rw [List.getElem?_eq_getElem inRange] at idle
      exact Option.some.inj idle
    refine ⟨placed, ⟨rfl, rfl, rfl, rfl⟩, ⟨⟨shown.workers_length, List.length_replicate, ?_, ?_⟩,
      ⟨?_, ?_, ?_⟩, fun _ => rfl, rfl⟩, ?_, ?_, ?_⟩
    · intro stripe parting held
      simp [sight, opening, List.getElem?_replicate] at held
    · intro stripe sending held
      simp [sight, Node.standing, Crew.roster, roster, List.getElem?_replicate] at held
    · simp [sight, Node.standing, Crew.roster, roster, opening, List.countP_replicate,
        Worker.hasGivenUp, Parting.givesUp, Node.ledger, Node.new, Recoveries.new, Ledger.empty,
        PerSide.zero, PerSide.get]
    · simp [sight, Node.standing, Crew.roster, roster, opening, List.countP_replicate,
        Worker.hasCrashed, Parting.isCounted]
    · simp [sight, Node.standing, Crew.roster, roster, opening, List.countP_replicate,
        Worker.hasFailed, Parting.isReported, Node.new, Core.new]
      rfl
    · intro caller member
      cases member
    · exact Cluster.numbered_of_callers rfl
    · rintro ticket ⟨⟩

/-- In whatever order producers, workers, channels, recoveries and calls to stop take their steps,
the failures behind the health of a striped producer are those of its workers that gave up or
crashed, each counted once and reported once.  When the call that stopped it first is over, all its
workers have ended, and nothing is handed to the channel any more. -/
theorem toll_of_after? {name : String} {capacity : Nat} {recovery : RecoverySettings}
    {codec : Codec} {channel : Channel} {nodes : List Node} {clock : Clock} {acts : List Act}
    (made : Node.ofProducer name (.striped stripes capacity) recovery threshold codec channel =
      .ok origin) (placed : nodes[index]? = some origin)
    (went : (opening nodes clock stripes).after? index acts = some scene) :
    ∃ node, scene.Toll index stripes threshold node := by
  obtain ⟨node, fits⟩ := (fits_opening made placed clock).after? went
  exact ⟨node, fits.found, fits.regular.placed.roster_length, fits.counts,
    fun ticket stops finished => fits.isOver stops finished⟩

/-! ## Two courses of a producer -/

/-- A producer alone whose first failure is the last, and nothing has been put into its stripes. -/
def lone (stripes : Nat) (channel : Channel) : Node :=
  { Node.new "lone" (.new { BusDefinition.default with threshold := 1 }.bare .plain .empty) channel
      .up with
    pipeline := .running
    producer := .striped (.ofRing ⟨.producer, Array.replicate stripes (.ofCapacity 2)⟩) }

/-- A key is evicted, and the event is put into its stripe. -/
def evicted (ticket : Nat) (key : String) : List Act :=
  [.ask (.produce 0 ⟨.sample false, ⟨"users", .entry key, .evicted, 0, .localNode, none, none⟩⟩),
    .step (.caller ticket)]

/-- Workers of the producer take their steps. -/
def worked (stripes : List Nat) : List Act :=
  stripes.map fun stripe => .step (.producerWorker 0 stripe)

/-- The second worker crashes in its channel, which crashes once, and the hub is lost.  Then the
first gives up, the third is cancelled in its recovery by those that stop the producer, and the
fourth, which has nothing to send, finds its stripe closed. -/
def downfall : List Act :=
  evicted 0 "d" ++ evicted 1 "c" ++ evicted 2 "b" ++ worked [0, 1, 2, 0, 1, 2] ++
  [.turn 0 (.connect false)] ++ worked [1, 0, 2, 1, 0, 0, 0, 2] ++ [.wait 60000000000] ++
  worked [0, 0, 0] ++ [.ask (.halt 0), .trigger 0] ++
  worked [2, 0, 2, 1, 3, 0, 1, 2, 0, 1, 2, 0, 2] ++ [.step (.caller 3)]

def crashing : Channel :=
  { Channel.plain with active := true, script := [.fail .crash] }

/-- The workers that gave up or crashed are counted, and those that were cancelled or found their
stripe closed are not. -/
theorem toll_of_after?_downfall : ∃ scene node,
    (opening [lone 4 crashing] ⟨0, 0⟩ 4).after? 0 downfall = some scene ∧
      scene.cluster.node? 0 = some node ∧ node.producer.roster.countP Worker.hasGivenUp = 1 ∧
        node.producer.roster.countP Worker.hasCrashed = 1 ∧
          node.producer.roster.countP Worker.hasWithdrawn = 2 ∧ scene.failures node = 2 ∧
            scene.stopper = some 3 ∧ scene.cluster.isFinished 3 = true ∧ scene.Toll 0 4 1 node := by
  obtain ⟨scene, went, holds⟩ := (Option.any_eq_true _ _).1 (show
    ((opening [lone 4 crashing] ⟨0, 0⟩ 4).after? 0 downfall).any (fun scene =>
      (scene.cluster.node? 0).any fun node =>
        decide (node.producer.roster.countP Worker.hasGivenUp = 1 ∧
          node.producer.roster.countP Worker.hasCrashed = 1 ∧
            node.producer.roster.countP Worker.hasWithdrawn = 2 ∧ scene.failures node = 2 ∧
              scene.stopper = some 3 ∧ scene.cluster.isFinished 3 = true)) = true
    by decide +kernel)
  obtain ⟨node, here, facts⟩ := (Option.any_eq_true _ _).1 holds
  obtain ⟨gaveUp, crashed, withdrew, failures_eq, stops, done⟩ := of_decide_eq_true facts
  have made : Node.ofProducer "lone" (.striped 4 2) .default 1 .plain crashing =
      .ok (lone 4 crashing) := rfl
  have placed : [lone 4 crashing][0]? = some (lone 4 crashing) := rfl
  obtain ⟨same, toll⟩ := toll_of_after? made placed went
  obtain rfl := Option.some.inj (here.symm.trans toll.found)
  exact ⟨scene, node, went, here, gaveUp, crashed, withdrew, failures_eq, stops, done, toll⟩

/-- The hub is lost until the only worker gives up, and its handler returns. -/
def surrender : List Act :=
  [.turn 0 .openGate, .turn 0 (.connect false)] ++ evicted 0 "d" ++ worked [0, 0, 0, 0, 0, 0, 0] ++
  [.wait 60000000000] ++ worked [0, 0, 0]

/-- The producer is stopped, and stopped again, while the gate holds its only worker. -/
def stoppedTwice : List Act :=
  evicted 0 "d" ++ worked [0, 0, 0] ++ [.ask (.halt 0), .ask (.halt 0)]

/-- The gate is opened, and the worker goes on. -/
def resumed : List Act :=
  [.turn 0 .openGate] ++ worked [0, 0, 0]

def holding : Channel :=
  { Channel.plain with active := true, script := [.hold] }

/-- When the handler of a worker has returned and the worker has not ended yet, its failure may be
counted and not be reported.  And a call that stops a producer which is being stopped already is
over while a worker is still busy, and the event it works on is sent later. -/
theorem unreported_surrender_and_unawaited_halt : ∃ origin,
    Node.ofProducer "lone" (.striped 1 2) .default 1 .plain holding = .ok origin ∧
      (∃ scene node, (opening [origin] ⟨0, 0⟩ 1).after? 0 surrender = some scene ∧
        scene.cluster.node? 0 = some node ∧ scene.partings = [some ⟨.gaveUp, .returned⟩] ∧
          scene.failures node = 1 ∧ node.producer.roster.countP Worker.hasEnded = 0 ∧
            node.core.meter.count (.workerFailed .producer) = 0) ∧
        ∃ scene later node changed,
          (opening [origin] ⟨0, 0⟩ 1).after? 0 stoppedTwice = some scene ∧
            scene.cluster.node? 0 = some node ∧ scene.cluster.isFinished 2 = true ∧
              node.producer.roster.countP Worker.hasEnded = 0 ∧ node.channel.sent = 0 ∧
                scene.after? 0 resumed = some later ∧ later.cluster.node? 0 = some changed ∧
                  changed.channel.sent = 1 := by
  refine ⟨lone 1 holding, rfl, ?_, ?_⟩
  · obtain ⟨scene, went, holds⟩ := (Option.any_eq_true _ _).1 (show
      ((opening [lone 1 holding] ⟨0, 0⟩ 1).after? 0 surrender).any (fun scene =>
        (scene.cluster.node? 0).any fun node =>
          decide (scene.partings = [some ⟨.gaveUp, .returned⟩] ∧ scene.failures node = 1 ∧
            node.producer.roster.countP Worker.hasEnded = 0 ∧
              node.core.meter.count (.workerFailed .producer) = 0)) = true
      by decide +kernel)
    obtain ⟨node, here, facts⟩ := (Option.any_eq_true _ _).1 holds
    exact ⟨scene, node, went, here, of_decide_eq_true facts⟩
  · obtain ⟨scene, went, holds⟩ := (Option.any_eq_true _ _).1 (show
      ((opening [lone 1 holding] ⟨0, 0⟩ 1).after? 0 stoppedTwice).any (fun scene =>
        (scene.cluster.node? 0).any fun node =>
          decide (scene.cluster.isFinished 2 = true ∧
            node.producer.roster.countP Worker.hasEnded = 0 ∧ node.channel.sent = 0) &&
          (scene.after? 0 resumed).any fun later =>
            (later.cluster.node? 0).any fun changed => decide (changed.channel.sent = 1)) = true
      by decide +kernel)
    obtain ⟨node, here, holds⟩ := (Option.any_eq_true _ _).1 holds
    obtain ⟨facts, holds⟩ := Bool.and_eq_true_iff.1 holds
    obtain ⟨done, busy, unsent⟩ := of_decide_eq_true facts
    obtain ⟨later, resumed, holds⟩ := (Option.any_eq_true _ _).1 holds
    obtain ⟨changed, there, sent⟩ := (Option.any_eq_true _ _).1 holds
    exact ⟨scene, later, node, changed, went, here, done, busy, unsent, resumed, there,
      of_decide_eq_true sent⟩

end Scene
end CacheSync
