import CacheSync.Proofs.Cluster.Life

/-!
# The health of a node in a cluster

A node is down unless it is started.  A started node is spent as soon as its channel was closed or
one of its sides has failed as often as its threshold allows, and what it says of its health is
this and nothing else.  A spent node never recovers: neither a connection that comes back, nor a
later success, nor a stop takes a failure back.
-/

namespace CacheSync

/-- The channel of a node is closed, or one of its sides has failed too often. -/
def Node.IsSpent (node : Node) : Prop :=
  node.channel.closed = true ∨ node.core.config.threshold ≤ node.failures .producer ∨
    node.core.config.threshold ≤ node.failures .consumer

instance (node : Node) : Decidable node.IsSpent :=
  inferInstanceAs (Decidable (_ ∨ _ ∨ _))

namespace Node

variable {node before after : Node}

theorem isBroken_channelHealth (node : Node) :
    node.channelHealth.status.isBroken = node.channel.closed := by
  simp only [channelHealth, noteRecovering, ComponentHealth.status_noteIf, Channel.health]
  split
  next closed => exact closed.symm
  next opened =>
    rw [Bool.not_eq_true] at opened
    rw [opened]
    split
    · rfl
    · split <;> rfl

theorem isBroken_crewHealth (node : Node) (side : Side) :
    (node.crewHealth side).status.isBroken =
      decide (node.core.config.threshold ≤ node.failures side) := by
  unfold crewHealth workerHealth
  dsimp only
  split
  next broken => simp only [broken, decide_true]; rfl
  next whole =>
    simp only [whole, decide_false]
    split <;> rfl

/-- What a node says of its health, while its pipeline is there exactly as long as it is started
and its caches are well. -/
theorem status_health (running : node.pipeline = .running ↔ node.core.lifecycle = .started)
    (well : node.cachesHealth.status.isBroken = false) :
    node.health.status =
      if node.core.lifecycle = .started then
        if node.IsSpent then .upFatalBroken else .upOk
      else .down := by
  by_cases started : node.core.lifecycle = .started
  · have broken : [node.channelHealth, node.crewHealth .producer, node.crewHealth .consumer,
        node.cachesHealth].any (·.status.isBroken) = decide node.IsSpent := by
      rw [Bool.eq_iff_iff, decide_eq_true_eq]
      simp [isBroken_channelHealth, isBroken_crewHealth, well, IsSpent]
    simp only [health, NodeHealth.ofComponents, aggregateHealth, Core.isStarted, started,
      sideHealth, running.2 started, List.map_cons, List.map_nil, ↓reduceIte, broken,
      beq_self_eq_true, Bool.not_true, Bool.false_eq_true, decide_eq_true_eq]
  · simp [health, NodeHealth.ofComponents, aggregateHealth, Core.isStarted, started]

/-- A side of a node that goes on fails no less often. -/
theorem Keeps.failures_le (keeps : before.Keeps after) (side : Side) :
    before.failures side ≤ after.failures side := by
  rw [failures_eq, failures_eq]
  exact Nat.add_le_add (keeps.unrecoverable_le side) (keeps.crashes_le side)

theorem Keeps.isSpent (keeps : before.Keeps after) (spent : before.IsSpent) : after.IsSpent := by
  unfold IsSpent at spent ⊢
  rw [keeps.closed_eq, keeps.config_eq]
  rcases spent with closed | producer | consumer
  · exact Or.inl closed
  · exact Or.inr (Or.inl (Nat.le_trans producer (keeps.failures_le .producer)))
  · exact Or.inr (Or.inr (Nat.le_trans consumer (keeps.failures_le .consumer)))

end Node

namespace Cluster

variable {nodes : List Node} {clock : Clock} {start cluster after : Cluster} {index : Nat}
  {origin node later : Node} {deeds : List Deed} {deed : Deed}

/-- A node that has been spent, whether it still runs or not. -/
def Ruined (node : Node) : Prop :=
  node.core.lifecycle = .stopped ∨ node.core.lifecycle = .started ∧ node.IsSpent

/-- No deed restores a ruined node. -/
theorem Passage.ruined (passage : cluster.Passage after index node later deed)
    (ruined : Ruined node) : Ruined later := by
  have notCreated : node.core.lifecycle ≠ .created := by
    rcases ruined with stopped | ⟨started, _⟩
    · simp [stopped]
    · simp [started]
  cases passage with
  | keep apart keeps =>
      unfold Ruined
      rw [keeps.lifecycle_eq]
      exact ruined.imp_right fun ⟨started, spent⟩ => ⟨started, keeps.isSpent spent⟩
  | shut later_eq =>
      subst later_eq
      exact ruined.imp_right fun ⟨started, _⟩ => ⟨started, Or.inl rfl⟩
  | fail created => exact absurd created notCreated
  | start created => exact absurd created notCreated
  | stop started later_eq =>
      subst later_eq
      exact Or.inl rfl
  | crash stopping later_eq faults_eq closed =>
      subst later_eq
      exact ruined.imp_right fun ⟨started, spent⟩ => ⟨started, spent.imp_left closed⟩
  | finish stopping later_eq faults_eq closed =>
      subst later_eq
      exact ruined.imp_right fun ⟨started, spent⟩ => ⟨started, spent.imp_left closed⟩

/-- Once ruined, a node stays so over every course. -/
theorem ruined_of_after? (orderly : start.Orderly) (found : start.node? index = some node)
    (ruined : Ruined node) (went : start.after? deeds = some after) :
    ∃ last, after.node? index = some last ∧ Ruined last := by
  have reached := after?_induction
    (motive := fun _ after => after.Orderly ∧ ∃ last, after.node? index = some last ∧ Ruined last)
    ⟨orderly, node, found, ruined⟩ (fun deed _ reached did => by
      obtain ⟨orderly, now, here, ruined⟩ := reached
      obtain ⟨still, later, there, passage⟩ := orderly.passage did here
      exact ⟨still, later, there, passage.ruined ruined⟩) went
  exact reached.2

/-- What can be said of the health of a node after a course. -/
structure Diagnosis (origin : Node) (deeds : List Deed) (index : Nat) (node : Node) : Prop where
  down_iff : node.health.status = .down ↔ node.core.lifecycle ≠ .started
  broken_iff : node.core.lifecycle = .started →
    (node.health.status = .upFatalBroken ↔
      .shut index ∈ deeds ∨ ∃ side, node.core.config.threshold ≤ node.failures side)
  ok_iff : node.core.lifecycle = .started →
    (node.health.status = .upOk ↔
      .shut index ∉ deeds ∧ ∀ side, node.failures side < node.core.config.threshold)
  /-- A side has failed as often as it has reported a recovery that failed, or lost a worker. -/
  failures_eq : ∀ side, node.failures side + origin.core.meter.count (.recoveryFailed side) =
    node.core.meter.count (.recoveryFailed side) + node.crashes side

theorem Lives.isSpent_iff (lives : cluster.Lives origin deeds index node)
    (started : node.core.lifecycle = .started) :
    node.IsSpent ↔
      .shut index ∈ deeds ∨ ∃ side, node.core.config.threshold ≤ node.failures side := by
  unfold Node.IsSpent
  rw [(lives.of_started started).1]
  constructor
  · rintro (shut | producer | consumer)
    · exact Or.inl shut
    · exact Or.inr ⟨.producer, producer⟩
    · exact Or.inr ⟨.consumer, consumer⟩
  · rintro (shut | ⟨side, failed⟩)
    · exact Or.inl shut
    · cases side with
      | producer => exact Or.inr (Or.inl failed)
      | consumer => exact Or.inr (Or.inr failed)

theorem Lives.diagnosis (lives : cluster.Lives origin deeds index node) (fresh : origin.Fresh)
    (well : origin.cachesHealth.status.isBroken = false) : Diagnosis origin deeds index node := by
  have status := node.status_health lives.running_iff (lives.cachesHealth_eq ▸ well)
  refine ⟨?_, fun started => ?_, fun started => ?_, fun side => ?_⟩
  · rw [status]
    split
    next started => split <;> simp [started]
    next other => simp [other]
  · rw [status, if_pos started, ← lives.isSpent_iff started]
    split
    next spent => simp [spent]
    next whole => simp [whole]
  · have whole : (.shut index ∉ deeds ∧ ∀ side, node.failures side < node.core.config.threshold) ↔
        ¬node.IsSpent := by
      simp only [lives.isSpent_iff started, not_or, not_exists, Nat.not_le]
    rw [status, if_pos started, whole]
    split
    next spent => simp [spent]
    next whole => simp [whole]
  · have balanced := lives.balanced side
    have none : origin.ledger.unrecoverable.get side = 0 := by
      rw [fresh.new_eq]
      cases side <;> rfl
    rw [Node.failures_eq]
    omega

/-- The health of a node that is made and put to use in any way is exact at any moment, and once it
is broken for good it stays so until the node is down. -/
theorem diagnosis_of_after? (found : nodes[index]? = some origin) (fresh : origin.Fresh)
    (well : origin.cachesHealth.status.isBroken = false)
    (went : (ofNodes nodes clock).after? deeds = some after) :
    ∃ now, after.node? index = some now ∧ Diagnosis origin deeds index now ∧
      (now.health.status = .upFatalBroken → ∀ more final, after.after? more = some final →
        ∃ last, final.node? index = some last ∧
          (last.health.status = .upFatalBroken ∨ last.health.status = .down)) := by
  obtain ⟨orderly, now, here, lives⟩ := lives_of_after? found fresh went
  have diagnosis := lives.diagnosis fresh well
  refine ⟨now, here, diagnosis, fun broken more final further => ?_⟩
  have started : now.core.lifecycle = .started := by
    by_contra other
    rw [diagnosis.down_iff.2 other] at broken
    cases broken
  have ruined : Ruined now :=
    Or.inr ⟨started, (lives.isSpent_iff started).2 ((diagnosis.broken_iff started).1 broken)⟩
  obtain ⟨last, there, ruined⟩ := ruined_of_after? orderly here ruined further
  have whole : (ofNodes nodes clock).after? (deeds ++ more) = some final := by
    rw [after?_append, went]
    exact further
  obtain ⟨_, same, again, lasting⟩ := lives_of_after? found fresh whole
  obtain rfl := Option.some.inj (there.symm.trans again)
  refine ⟨last, there, ?_⟩
  rw [last.status_health lasting.running_iff (lasting.cachesHealth_eq ▸ well)]
  rcases ruined with stopped | ⟨started, spent⟩
  · simp [stopped]
  · simp [started, spent]

/-! ## A channel that is lost -/

/-- A node sends a change while the hub cannot be reached, and gives up when its time is over. -/
def lostChannel : List Deed :=
  [.turn 0 .register, .ask (.start 0), .turn 0 (.connect false),
    .ask (.operate 0 "users" false (.put "ada" (.text "countess") .localNode))] ++
  List.replicate 6 (.step (.caller 1)) ++ [.wait 100000000000] ++
  List.replicate 3 (.step (.caller 1))

/-- The node is broken for good, and a hub that can be reached again does not change that. -/
theorem diagnosis_of_after?_lostChannel : ∃ after now final last,
    (ofNodes [.novice "only" .direct] ⟨0, 0⟩).after? lostChannel = some after ∧
      after.node? 0 = some now ∧ now.health.status = .upFatalBroken ∧
        Diagnosis (.novice "only" .direct) lostChannel 0 now ∧
          after.after? [.turn 0 (.connect true)] = some final ∧ final.node? 0 = some last ∧
            (last.health.status = .upFatalBroken ∨ last.health.status = .down) := by
  obtain ⟨after, went, holds⟩ := (Option.any_eq_true _ _).1 (show
    ((ofNodes [.novice "only" .direct] ⟨0, 0⟩).after? lostChannel).any (fun after =>
      (after.node? 0).any fun now => decide (now.health.status = .upFatalBroken)) = true
    by decide +kernel)
  obtain ⟨now, here, broken⟩ := (Option.any_eq_true _ _).1 holds
  have broken := of_decide_eq_true broken
  have placed : [Node.novice "only" .direct][0]? = some (Node.novice "only" .direct) := rfl
  obtain ⟨same, found, diagnosis, lasting⟩ :=
    diagnosis_of_after? placed (Node.novice_fresh "only" .direct) rfl went
  obtain rfl := Option.some.inj (here.symm.trans found)
  obtain ⟨last, there, stays⟩ := lasting broken [.turn 0 (.connect true)] _ rfl
  exact ⟨after, now, _, last, went, here, broken, diagnosis, rfl, there, stays⟩

end Cluster
end CacheSync
