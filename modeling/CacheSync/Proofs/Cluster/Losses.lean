import CacheSync.Proofs.Cluster.Solo

/-!
# What a producer loses by its sendings

A sending loses its channel for good when its recovery says so, and the node counts that once: in
the very step by which the sending ends so.  No other step of a sending changes what the health of
a producer is judged by, and none of them reports the failure of a worker.
-/

namespace CacheSync

/-! ## Recoveries -/

/-- A sending recovers the channel for the producer, if at all. -/
def Sending.IsProducers (sending : Sending) : Prop :=
  ∀ call, sending.recovery = some call → call.side = .producer

/-- How many channels are lost for good by the result of a recovery. -/
def RecoveryPhase.losses : RecoveryPhase → Nat
  | .ended (some (.notRecoverable _ _ _)) => 1
  | _ => 0

/-- How many channels are lost for good by the result of a sending. -/
def lossesOf : Except ProduceError Unit → Nat
  | .error (.notRecoverable _ _ _) => 1
  | _ => 0

/-- A step of a recovery of the producer counts a channel that is lost for good. -/
structure RecoveryStep.Books (before : Recoveries) (step : RecoveryStep) : Prop where
  side_eq : step.call.side = .producer
  unrecoverable_eq : step.recoveries.ledger.unrecoverable.get .producer =
    before.ledger.unrecoverable.get .producer + step.call.phase.losses
  unreported : Mark.workerFailed .producer ∉ step.marks

namespace Recoveries

open RecoveryStep (Books)

variable (recoveries : Recoveries) {call : RecoveryCall} (course : RecoveryCourse) (clock : Clock)

theorem conclude_books (own : call.side = .producer) (failure : Option RecoveryError) :
    Books recoveries (recoveries.conclude call failure clock) := by
  cases failure with
  | none => exact ⟨own, rfl, by simp [conclude]⟩
  | some error =>
      cases error with
      | cancelled => exact ⟨own, rfl, by simp [conclude]⟩
      | notRecoverable attempts elapsed lastError =>
          refine ⟨own, ?_, by simp [conclude]⟩
          simp [conclude, Ledger.countUnrecoverable, Ledger.leave, own, RecoveryPhase.losses]

theorem decide_books (own : call.side = .producer) :
    Books recoveries (recoveries.decide call course clock) := by
  unfold decide
  split
  · exact recoveries.conclude_books clock own _
  · exact ⟨own, rfl, by simp⟩

theorem wake_books (own : call.side = .producer) :
    Books recoveries (recoveries.wake call course clock) := by
  unfold wake
  split
  · exact recoveries.conclude_books clock own _
  · exact ⟨own, rfl, by simp⟩

theorem fail_books (own : call.side = .producer) (error : String) (draw : Binary64.Ratio) :
    Books recoveries (recoveries.fail call course error draw clock) := by
  unfold fail
  split
  · exact recoveries.conclude_books clock own _
  · exact ⟨own, rfl, by simp⟩

end Recoveries

/-! ## Nodes -/

/-- So many channels are lost for good, and the channel may have been used. -/
structure Standing.Loses (lost : Nat) (before after : Standing) : Prop where
  roster_eq : after.roster = before.roster
  pipeline_eq : after.pipeline = before.pipeline
  threshold_eq : after.threshold = before.threshold
  unrecoverable_eq : after.unrecoverable = before.unrecoverable + lost
  reported_eq : after.reported = before.reported

/-- A node used by its producer alone stays so and loses so many channels. -/
structure Node.Loses (lost : Nat) (before after : Node) : Prop where
  solo : before.IsSolo → after.IsSolo
  standing : before.standing.Loses lost after.standing

namespace Node.Loses

variable {node before after later : Node} {lost : Nat}

theorem refl (node : Node) : node.Loses 0 node :=
  ⟨fun solo => solo, rfl, rfl, rfl, rfl, rfl⟩

theorem trans (first : before.Loses 0 after) (second : after.Loses lost later) :
    before.Loses lost later where
  solo isSolo := second.solo (first.solo isSolo)
  standing := by
    obtain ⟨roster, pipeline, threshold, unrecoverable, reported⟩ := first.standing
    obtain ⟨roster', pipeline', threshold', unrecoverable', reported'⟩ := second.standing
    exact ⟨roster'.trans roster, pipeline'.trans pipeline, threshold'.trans threshold,
      unrecoverable'.trans (congrArg (· + lost) unrecoverable), reported'.trans reported⟩

theorem of_channel (node : Node) (channel : Channel) :
    node.Loses 0 { node with channel := channel } :=
  ⟨fun solo => ⟨solo.idle, solo.kempt, solo.deaf, solo.striped⟩, rfl, rfl, rfl, rfl, rfl⟩

theorem of_recoveries {recoveries : Recoveries} {marks : List Mark}
    (unrecoverable_eq : recoveries.ledger.unrecoverable.get .producer =
      node.recoveries.ledger.unrecoverable.get .producer + lost)
    (unreported : Mark.workerFailed .producer ∉ marks) :
    node.Loses lost ({ node with recoveries := recoveries }.markAll marks) where
  solo solo := ⟨solo.idle, solo.kempt, solo.deaf, solo.striped⟩
  standing := by
    rw [standing_markAll_of_not_mem _ unreported]
    exact ⟨rfl, rfl, rfl, unrecoverable_eq, rfl⟩

theorem markAll (node : Node) {marks : List Mark}
    (unreported : Mark.workerFailed .producer ∉ marks) : node.Loses 0 (node.markAll marks) :=
  @of_recoveries node 0 node.recoveries marks rfl unreported

/-- A recovery that begins loses nothing. -/
theorem enter (node : Node) (clock : Clock) :
    node.Loses 0 { node with recoveries := (node.recoveries.enter .producer clock).1 } :=
  ⟨fun solo => ⟨solo.idle, solo.kempt, solo.deaf, solo.striped⟩, rfl, rfl, rfl, rfl, rfl⟩

end Node.Loses

/-! ## Steps of a sending -/

namespace Cluster

open Standing (Loses)

variable {cluster middle after : Cluster} {index : Nat} {node changed : Node} {lost : Nat}
  {sending : Sending} {message : Message}

theorem alters_setNode (found : cluster.node? index = some node) (loses : node.Loses lost changed) :
    cluster.Alters index (Loses lost) (cluster.setNode index changed) := by
  intro other held solo
  obtain rfl := Option.some.inj (held.symm.trans found)
  exact ⟨changed, (node?_setNode found changed index).trans (if_pos rfl), loses.solo solo,
    loses.standing⟩

theorem alters_of_same (same : after.node? index = cluster.node? index) :
    cluster.Alters index (Loses 0) after :=
  fun node found solo => ⟨node, same.trans found, solo, (Node.Loses.refl node).standing⟩

/-- What a step of a sending does to the standing of its node. -/
def SendStep.Loses (cluster : Cluster) (index : Nat) : SendStep → Prop
  | .moved after sending => cluster.Alters index (Standing.Loses 0) after ∧ sending.IsProducers
  | .blocked => True
  | .done after result => cluster.Alters index (Standing.Loses (lossesOf result)) after
  | .crashed after => cluster.Alters index (Standing.Loses 0) after

theorem recoverWith_loses (found : cluster.node? index = some node) (early : node.Loses 0 changed)
    {step : RecoveryStep} (books : step.Books changed.recoveries) (stage : SendStage) :
    ((cluster.recoverWith index changed step).afterRecovery sending step.call stage).Loses cluster
      index := by
  have loses : node.Loses step.call.phase.losses
      ({ changed with recoveries := step.recoveries }.markAll step.marks) :=
    early.trans (.of_recoveries books.unrecoverable_eq books.unreported)
  have altered : cluster.Alters index _ (cluster.recoverWith index changed step) :=
    alters_setNode found loses
  unfold afterRecovery
  split
  next error phase =>
    rw [phase] at altered
    cases error with
    | cancelled => exact altered
    | notRecoverable attempts elapsed lastError => exact altered
  next goesOn =>
    have none : step.call.phase.losses = 0 := by
      unfold RecoveryPhase.losses
      split
      next error phase => exact absurd phase (goesOn _)
      next => rfl
    rw [none] at altered
    refine ⟨altered, ?_⟩
    rintro call ⟨⟩
    exact books.side_eq

theorem sendFailed_loses (found : cluster.node? index = some node) (early : node.Loses 0 changed)
    (own : sending.IsProducers) (error : ChannelError) :
    (cluster.sendFailed index changed sending message error).Loses cluster index := by
  unfold sendFailed
  cases entered : sending.recovery with
  | none =>
      dsimp only
      split
      · refine ⟨alters_setNode found (early.trans (.enter changed cluster.clock)), ?_⟩
        rintro call ⟨⟩
        rfl
      · exact alters_setNode found early
  | some call =>
      dsimp only
      split
      · exact recoverWith_loses found early
          (Recoveries.fail_books _ _ _ (own call entered) _ _) _
      · exact alters_setNode found early

theorem transmit_loses (found : cluster.node? index = some node) (early : node.Loses 0 changed)
    (own : sending.IsProducers) :
    (cluster.transmit index changed sending message).Loses cluster index := by
  unfold transmit
  split
  · exact sendFailed_loses found early own _
  · exact ⟨alters_setNode found early, own⟩

theorem callChannel_loses (found : cluster.node? index = some node) (own : sending.IsProducers) :
    (cluster.callChannel index node sending message).Loses cluster index := by
  have called := Node.Loses.of_channel node (node.channel.log .send).nextFate.1
  unfold callChannel
  dsimp only
  split
  · exact transmit_loses found called own
  · exact ⟨alters_setNode found called, own⟩
  · exact sendFailed_loses found called own _
  · exact alters_setNode found called

theorem sendSucceeded_loses (found : cluster.node? index = some node) (own : sending.IsProducers) :
    (cluster.sendSucceeded index node sending).Loses cluster index := by
  have counted := Node.Loses.of_channel node node.channel.countSent
  have unreported : Mark.workerFailed .producer ∉ Sending.sentMarks sending.job := by
    simp [Sending.sentMarks]
  unfold sendSucceeded
  cases entered : sending.recovery with
  | none => exact alters_setNode found (counted.trans (.markAll _ unreported))
  | some call =>
      have books := Recoveries.conclude_books node.recoveries cluster.clock (own call entered) none
      exact alters_setNode found ((counted.trans
        (.of_recoveries books.unrecoverable_eq books.unreported)).trans (.markAll _ unreported))

theorem recoverStep_loses (found : cluster.node? index = some node) (own : sending.IsProducers)
    {call : RecoveryCall} (entered : sending.recovery = some call) :
    (cluster.recoverStep index node sending message call).Loses cluster index := by
  have early := Node.Loses.refl node
  have side := own call entered
  unfold recoverStep
  cases call.phase with
  | cleaning =>
      have logged := Node.Loses.of_channel node (node.channel.log .resetSender)
      dsimp only [resetSender]
      split
      · exact alters_setNode found logged
      · refine ⟨alters_setNode found logged, ?_⟩
        rintro cleaned ⟨⟩
        exact side
  | deciding course => exact recoverWith_loses found early (Recoveries.decide_books _ _ _ side) _
  | waiting course wake =>
      dsimp only
      split
      · exact recoverWith_loses found early (Recoveries.wake_books _ _ _ side) _
      · trivial
  | attempting course => exact ⟨alters_of_same rfl, own⟩
  | ended failure => trivial

/-- A step of a sending loses what its result says, and nothing if there is none. -/
theorem sendStep_loses (apart : cluster.IsApart index) (own : sending.IsProducers) :
    (cluster.sendStep index sending).Loses cluster index := by
  cases found : cluster.node? index with
  | none =>
      simp only [sendStep, found]
      trivial
  | some node =>
      simp only [sendStep, found, sendStepAt]
      cases sending.stage with
      | encoding =>
          dsimp only
          split
          · exact alters_of_same rfl
          · exact ⟨alters_of_same rfl, own⟩
      | calling message => exact callChannel_loses found own
      | held message =>
          dsimp only
          split
          · exact transmit_loses found (.refl node) own
          · trivial
      | spreading spread =>
          have spares {later : Cluster} := @spreadStep_spares cluster later index apart spread
          have handed := cluster.spreadStep_works index spread
          dsimp only
          split
          next outcome =>
            exact ⟨alters_of_same (spares (by rw [outcome]; rfl)), own⟩
          next => trivial
          next outcome =>
            rw [outcome] at handed
            obtain rfl := handed
            exact sendSucceeded_loses found own
          next outcome => exact alters_of_same (spares (by rw [outcome]; rfl))
      | recovering message =>
          dsimp only
          cases entered : sending.recovery with
          | none => trivial
          | some call => exact recoverStep_loses found own entered

end Cluster
end CacheSync
