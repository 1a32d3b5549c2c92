import CacheSync.Proofs.Cluster.Outbox
import CacheSync.Proofs.Cluster.Strides

/-!
# A striped producer that is used by itself

A node of which only the striped producer is used is never started.  It hears no event and ignores
what it receives, so that only its own workers and its own callers have to do with it.  What there
is to see of it is its `Standing`.  The threads, requests and callers of all other nodes leave that
as it is, and so do the callers of this one: they add to its rings or close them.
-/

namespace CacheSync

namespace Crew

variable {α ω : Type}

/-- The workers of a crew, by their stripes. -/
def roster : Crew α ω → List (Worker ω)
  | .direct => []
  | .striped workers => workers.workers

theorem allEnded_eq (crew : Crew α ω) : crew.allEnded = crew.roster.all Worker.hasEnded := by
  cases crew <;> rfl

theorem crashes_eq (crew : Crew α ω) : crew.crashes = crew.roster.countP Worker.hasCrashed := by
  cases crew <;> rfl

end Crew

/-- What there is to see of a producer that is used by itself. -/
structure Standing where
  roster : List (Worker Sending)
  pipeline : PipelineState
  threshold : Nat
  /-- How many recoveries of the producer have failed for good. -/
  unrecoverable : Nat
  /-- How many failures of its workers were reported. -/
  reported : Nat
  /-- How many messages its channel has taken. -/
  sent : Nat
  /-- The calls of its channel, the latest first. -/
  calls : List ChannelCall

namespace Node

variable {node changed : Node}

def standing (node : Node) : Standing where
  roster := node.producer.roster
  pipeline := node.pipeline
  threshold := node.core.config.threshold
  unrecoverable := node.ledger.unrecoverable.get .producer
  reported := node.core.meter.count (.workerFailed .producer)
  sent := node.channel.sent
  calls := node.channel.calls

/-- Only the producer of a node is used, and it has stripes. -/
structure IsSolo (node : Node) : Prop where
  idle : node.core.isStarted = false
  kempt : node.core.cleanups = []
  deaf : node.consumer = .direct
  striped : node.producer.isStriped = true

theorem IsSolo.producer_eq (solo : node.IsSolo) : ∃ workers, node.producer = .striped workers := by
  cases crew : node.producer with
  | direct =>
      have striped := solo.striped
      rw [crew] at striped
      cases striped
  | striped workers => exact ⟨workers, rfl⟩

theorem IsSolo.markAll (solo : node.IsSolo) (marks : List Mark) : (node.markAll marks).IsSolo :=
  ⟨solo.idle, solo.kempt, solo.deaf, solo.striped⟩

/-- No mark matters but that a worker of the producer has failed. -/
theorem standing_markAll (node : Node) (marks : List Mark) :
    (node.markAll marks).standing = { node.standing with
      reported := node.standing.reported + marks.count (.workerFailed .producer) } := by
  simp only [standing, markAll, Core.markAll, ledger, Meter.count_markAll]

theorem standing_markAll_of_not_mem (node : Node) {marks : List Mark}
    (apart : Mark.workerFailed .producer ∉ marks) :
    (node.markAll marks).standing = node.standing := by
  rw [standing_markAll, List.count_eq_zero.2 apart, Nat.add_zero]

theorem standing_mark (node : Node) {mark : Mark} (other : mark ≠ .workerFailed .producer) :
    (node.mark mark).standing = node.standing := by
  have apart : Mark.workerFailed .producer ∉ [mark] := fun member =>
    other (List.mem_singleton.1 member).symm
  exact node.standing_markAll_of_not_mem apart

end Node

namespace Cluster

variable {cluster middle after : Cluster} {index place ticket : Nat} {node changed : Node}

/-! ## What a step does to the standing of a node -/

/-- A step that leaves a node used by its producer alone, and alters its standing in this way. -/
def Alters (cluster : Cluster) (index : Nat) (alters : Standing → Standing → Prop)
    (after : Cluster) : Prop :=
  ∀ node, cluster.node? index = some node → node.IsSolo → ∃ changed,
    after.node? index = some changed ∧ changed.IsSolo ∧ alters node.standing changed.standing

/-- A step that leaves the standing of a node as it is. -/
abbrev Attends (cluster : Cluster) (index : Nat) (after : Cluster) : Prop :=
  cluster.Alters index Eq after

namespace Alters

variable {alters more : Standing → Standing → Prop}

theorem of_same (same : after.node? index = cluster.node? index) : cluster.Attends index after :=
  fun node found solo => ⟨node, same.trans found, solo, rfl⟩

theorem trans (first : cluster.Attends index middle) (second : middle.Alters index alters after) :
    cluster.Alters index alters after := by
  intro node found solo
  obtain ⟨between, here, stillSolo, same⟩ := first node found solo
  rw [same]
  exact second between here stillSolo

theorem then_attends (first : cluster.Alters index alters middle)
    (second : middle.Attends index after) : cluster.Alters index alters after := by
  intro node found solo
  obtain ⟨between, here, stillSolo, altered⟩ := first node found solo
  obtain ⟨changed, there, solo, same⟩ := second between here stillSolo
  exact ⟨changed, there, solo, same ▸ altered⟩

theorem of_modifyNode {change : Node → Node}
    (solo : ∀ node, cluster.node? index = some node → node.IsSolo → (change node).IsSolo)
    (altered : ∀ node, cluster.node? index = some node → node.IsSolo →
      alters node.standing (change node).standing) :
    cluster.Alters index alters (cluster.modifyNode index change) := by
  intro node found isSolo
  refine ⟨change node, ?_, solo node found isSolo, altered node found isSolo⟩
  rw [node?_modifyNode, if_pos rfl, found]
  rfl

end Alters

theorem attends_of_modifyNode {change : Node → Node}
    (solo : ∀ node, cluster.node? place = some node → node.IsSolo → (change node).IsSolo)
    (same : ∀ node, cluster.node? place = some node → node.IsSolo →
      (change node).standing = node.standing) :
    cluster.Attends index (cluster.modifyNode place change) := by
  by_cases here : place = index
  · subst here
    exact .of_modifyNode solo fun node found isSolo => (same node found isSolo).symm
  · exact .of_same (by rw [node?_modifyNode, if_neg (Ne.symm here)])

theorem node?_setNode_of_ne (found : cluster.node? place = some node) (other : index ≠ place)
    (changed : Node) : (cluster.setNode place changed).node? index = cluster.node? index := by
  rw [node?_setNode found, if_neg other]

/-! ## Deliveries and the sendings of other nodes -/

/-- The node of an index hears nothing. -/
def IsApart (cluster : Cluster) (index : Nat) : Prop :=
  ∀ node, cluster.node? index = some node → node.IsSolo

theorem handle_spares (apart : cluster.IsApart index) (found : cluster.node? place = some node)
    (body : List UInt8) :
    (cluster.handle place node body).1.node? index = cluster.node? index := by
  by_cases here : index = place
  · subst here
    have ignored := Core.receive_of_idle (apart node found).idle body cluster.clock
    simp only [handle, ignored]
    rw [node?_setNode found, if_pos rfl, found]
  · exact node?_setNode_of_ne found here _

/-- A message that is handed over to anybody is nothing to a node that hears nothing. -/
theorem deliver_spares (apart : cluster.IsApart index) {target : Member} {message : Message}
    {waited : Bool} (delivered : (cluster.deliver target message waited).cluster? = some after) :
    after.node? index = cluster.node? index := by
  unfold deliver at delivered
  cases target with
  | observer =>
      injection delivered with same
      exact same ▸ rfl
  | outsider =>
      injection delivered with same
      exact same ▸ rfl
  | node place =>
      dsimp only at delivered
      split at delivered
      · injection delivered with same
        exact same ▸ rfl
      next node found =>
        unfold deliverTo at delivered
        split at delivered
        · have spared := handle_spares apart found message.body
          dsimp only at delivered
          split at delivered
          all_goals
            injection delivered with same
            exact same ▸ spared
        next workers crew =>
          have other : index ≠ place := by
            rintro rfl
            rw [(apart node found).deaf] at crew
            cases crew
          split at delivered
          · cases delivered
          · injection delivered with same
            exact same ▸ node?_setNode_of_ne found other _
          · injection delivered with same
            exact same ▸ node?_setNode_of_ne found other _

/-- The cluster after a step of handing a message on. -/
def SpreadStep.cluster? : SpreadStep → Option Cluster
  | .moved after _ => some after
  | .blocked => none
  | .done after => some after
  | .crashed after => some after

theorem spreadStep_spares (apart : cluster.IsApart index) {spread : Spread}
    (stepped : (cluster.spreadStep spread).cluster? = some after) :
    after.node? index = cluster.node? index := by
  unfold spreadStep at stepped
  split at stepped
  · injection stepped with same
    exact same ▸ rfl
  next target rest left =>
    split at stepped
    next delivered handed =>
      injection stepped with same
      exact same ▸ deliver_spares apart (by rw [handed]; rfl)
    next =>
      split at stepped
      · cases stepped
      · injection stepped with same
        exact same ▸ rfl
    next delivered handed =>
      injection stepped with same
      exact same ▸ deliver_spares apart (by rw [handed]; rfl)

/-- What another node sends is nothing to a node that hears nothing. -/
theorem sendStep_spares (apart : cluster.IsApart index) (other : index ≠ place)
    {sending : Sending} (stepped : (cluster.sendStep place sending).cluster? = some after) :
    after.node? index = cluster.node? index := by
  cases stage : sending.stage with
  | spreading spread =>
      cases found : cluster.node? place with
      | none =>
          simp only [sendStep, found] at stepped
          cases stepped
      | some node =>
          have spread_spares {later : Cluster} :=
            @spreadStep_spares cluster later index apart spread
          simp only [sendStep, found, sendStepAt, stage] at stepped
          split at stepped
          next moved rest outcome =>
            injection stepped with same
            exact same ▸ spread_spares (by rw [outcome]; rfl)
          next => cases stepped
          next done outcome =>
            have handed := cluster.spreadStep_works place spread
            rw [outcome] at handed
            obtain rfl : done = cluster := handed
            injection stepped with same
            exact same ▸ node?_setNode_of_ne found other _
          next crashed outcome =>
            injection stepped with same
            exact same ▸ spread_spares (by rw [outcome]; rfl)
  | encoding | calling message | held message | recovering message =>
      exact (sendStep_confined (by simp [stage]) stepped).others_eq index other

/-! ## The crews of other nodes -/

theorem modifyNode_spares (other : index ≠ place) (change : Node → Node) :
    (cluster.modifyNode place change).node? index = cluster.node? index := by
  rw [node?_modifyNode, if_neg other]

theorem settleProducer_spares (other : index ≠ place) (stripe : Nat) (verdict : Verdict)
    (marks : List Mark) :
    (cluster.settleProducer place stripe verdict marks).node? index = cluster.node? index :=
  (modifyNode_spares other _).trans (modifyNode_spares other _)

theorem producerStep?_spares (apart : cluster.IsApart index) (other : index ≠ place)
    {stripe : Nat} (stepped : cluster.producerStep? place stripe = some after) :
    after.node? index = cluster.node? index := by
  unfold producerStep? at stepped
  split at stepped
  · cases stepped
  next workers crew =>
    split at stepped
    next sending busy =>
      have spares {later : Cluster} :=
        @sendStep_spares cluster later index place apart other sending
      unfold producerWork at stepped
      split at stepped
      next moved sending' outcome =>
        injection stepped with same
        exact same ▸ (modifyNode_spares other _).trans (spares (by rw [outcome]; rfl))
      next => cases stepped
      next done result outcome =>
        injection stepped with same
        exact same ▸ (settleProducer_spares other _ _ _).trans (spares (by rw [outcome]; rfl))
      next crashed outcome =>
        injection stepped with same
        exact same ▸ (settleProducer_spares other _ _ _).trans (spares (by rw [outcome]; rfl))
    next =>
      obtain ⟨_, _, rfl⟩ := Option.map_eq_some_iff.1 stepped
      exact modifyNode_spares other _

theorem consumerStep?_spares (apart : cluster.IsApart index) {stripe : Nat}
    (stepped : cluster.consumerStep? place stripe = some after) :
    after.node? index = cluster.node? index := by
  by_cases here : index = place
  · subst here
    rw [consumerStep?_of_direct index stripe fun node found => (apart node found).deaf] at stepped
    cases stepped
  · unfold consumerStep? at stepped
    split at stepped
    · cases stepped
    next node found =>
      split at stepped
      · cases stepped
      next workers crew =>
        split at stepped
        next body busy =>
          injection stepped with same
          exact same ▸ ((modifyNode_spares here _).trans (modifyNode_spares here _)).trans
            (handle_spares apart found body)
        next =>
          obtain ⟨_, _, rfl⟩ := Option.map_eq_some_iff.1 stepped
          exact modifyNode_spares here _

theorem cleanerStep?_spares (apart : cluster.IsApart index)
    (stepped : cluster.cleanerStep? place = some after) :
    after.node? index = cluster.node? index := by
  obtain ⟨node, cache, expiration, rest, found, due, rfl⟩ := of_cleanerStep? stepped
  refine node?_setNode_of_ne found ?_ _
  rintro rfl
  rw [(apart node found).kempt] at due
  cases due

end Cluster
end CacheSync
