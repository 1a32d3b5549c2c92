import CacheSync.Node.Basic
import CacheSync.Proofs.Node.Hearing

/-!
# What work leaves of a node

Whatever a thread does for a node, it leaves most of the node as it is: its frame, whether it takes
work, whether its channel is closed, its listeners.  It may report that events were sent or not,
and it may give up the channel, which the node counts and reports together.  `Node.Works` says this
of a step with the marks it makes about events; `Node.Keeps` is what is left of it when the marks
do not matter.
-/

namespace CacheSync

/-- Whether a mark says what became of an event that was to be sent, or of the channel. -/
def Mark.isOfSending : Mark → Bool
  | .sent _ => true
  | .produceFailed _ => true
  | .recoveryFailed _ => true
  | _ => false

@[simp]
theorem Meter.count_markAll (meter : Meter) (made : List Mark) (counted : Mark) :
    (meter.markAll made).count counted = meter.count counted + made.count counted := by
  simp [markAll, count, Nat.add_comm]

namespace Core

variable {before after later : Core} {core : Core}

/-- What handling an event leaves as it is, whatever becomes of the event. -/
structure Lasts (before after : Core) : Prop where
  frame_eq : after.frame = before.frame
  count_eq : ∀ mark, mark.isOfSending = true → after.meter.count mark = before.meter.count mark
  unrecorded : before.isStarted = false → before.timestamps.tables = .empty →
    after.timestamps.tables = .empty

namespace Lasts

theorem refl (core : Core) : core.Lasts core :=
  ⟨rfl, fun _ _ => rfl, fun _ none => none⟩

theorem trans (first : before.Lasts after) (second : after.Lasts later) : before.Lasts later where
  frame_eq := second.frame_eq.trans first.frame_eq
  count_eq mark sending := (second.count_eq mark sending).trans (first.count_eq mark sending)
  unrecorded idle none :=
    second.unrecorded (isStarted_of_frame first.frame_eq ▸ idle) (first.unrecorded idle none)

theorem mark (core : Core) {made : Mark} (other : made.isOfSending = false) :
    core.Lasts (core.mark made) where
  frame_eq := rfl
  count_eq counted sending := by
    have different : made ≠ counted := by
      rintro rfl
      rw [other] at sending
      cases sending
    simp only [Core.mark, Meter.count_mark, different, ↓reduceIte, Nat.add_zero]
  unrecorded _ none := none

theorem of_spares (spares : before.Spares after) : before.Lasts after where
  frame_eq := spares.frame_eq
  count_eq mark sending := spares.count_eq mark (by cases mark <;> simp_all [Mark.isOfSending,
    Mark.isOfApplying])
  unrecorded _ none := spares.timestamps_eq ▸ none

end Lasts

theorem count_reportCleanup (meter : Meter) (cache : String) (remaining : Nat) {mark : Mark}
    (sending : mark.isOfSending = true) :
    (TimestampStore.reportCleanup meter cache remaining).count mark = meter.count mark := by
  have different : Mark.timestampsCleaned cache ≠ mark := by
    rintro rfl
    cases sending
  simp only [TimestampStore.reportCleanup, Meter.count_read, Meter.count_mark, different,
    ↓reduceIte, Nat.add_zero]

/-- A started node may record the time of an event. -/
theorem record_lasts (started : core.isStarted = true) (config : CacheConfig) (event : Event)
    (clock : Clock) : core.Lasts (core.record config event clock).1 where
  frame_eq := (core.record_stands config event clock).frame_eq
  count_eq mark sending := by
    unfold record
    split
    · rfl
    · dsimp only
      unfold TimestampStore.reportSave
      split
      · exact count_reportCleanup _ _ _ sending
      · rfl
  unrecorded idle _ := by
    rw [started] at idle
    cases idle

theorem outbound_lasts (core : Core) (event : Event) (clock : Clock) :
    core.Lasts (core.outbound event clock).1 := by
  unfold outbound
  cases started : core.isStarted with
  | false => exact .refl core
  | true =>
      simp only [Bool.not_true, Bool.false_eq_true, ↓reduceIte]
      cases core.config.cache? event.cache with
      | none => exact .refl core
      | some config =>
          dsimp only
          split
          · exact .mark core rfl
          · have recorded := record_lasts started config event clock
            split
            · exact recorded
            · exact recorded.trans (.mark _ rfl)

theorem receive_lasts (core : Core) (body : List UInt8) (clock : Clock) :
    core.Lasts (core.receive body clock).core := by
  have fate := core.receive_fate body clock
  generalize core.receive body clock = handled at fate
  have received : core.Lasts (core.mark .received) := .mark core rfl
  cases fate with
  | ignored stopped => exact .refl core
  | undecodable started read => exact received.trans (.mark _ rfl)
  | unconfigured started read unknown => exact received
  | @stale event config recorded started read configured saved =>
      have lasts := @record_lasts (core.mark .received) started config event clock
      rw [saved] at lasts
      exact (received.trans lasts).trans (.mark _ rfl)
  | @applied event config recorded started read configured saved =>
      have lasts := @record_lasts (core.mark .received) started config event clock
      rw [saved] at lasts
      exact (received.trans lasts).trans (.of_spares (recorded.spread_spares config event clock))

theorem cleanUp_lasts (core : Core) (cache : String) (expiration : Duration) (clock : Clock) :
    core.Lasts (core.cleanUp cache expiration clock) where
  frame_eq := rfl
  count_eq mark sending := count_reportCleanup _ _ _ sending
  unrecorded _ none := by
    have missing : core.timestamps.tables.get? cache = .none := by rw [none]; rfl
    simp only [cleanUp, TimestampStore.finishCleanup, missing]
    exact none

theorem operate_lasts {cache : String} {guarded : Bool} {call : StoreCall} {clock : Clock}
    {operated : Operated} (operates : core.operate cache guarded call clock = some operated) :
    core.Lasts operated.core := by
  obtain ⟨store, found, rfl⟩ := Option.map_eq_some_iff.1 operates
  cases outcome : (if guarded then core.shelf.guard cache else .none).perform store call
      clock.wall with
  | error stop =>
      simp only [outcome]
      exact .refl core
  | ok change =>
      have sound := Guard.eq_of_perform outcome ▸ store.sound_perform clock.wall call
      simp only [outcome]
      exact ⟨frame_setStore found sound.name_eq sound.listeners_eq, fun _ _ => rfl,
        fun _ none => none⟩

/-- A core that has not been started records no event and tells of none. -/
theorem outbound_of_idle (idle : core.isStarted = false) (event : Event) (clock : Clock) :
    core.outbound event clock = (core, none) := by
  simp only [outbound, idle, Bool.not_false, ↓reduceIte]

end Core

namespace Node

variable {node before after later : Node}

/-- How many workers of a side have crashed. -/
def crashes (node : Node) : Side → Nat
  | .producer => node.producer.crashes
  | .consumer => node.consumer.crashes

theorem failures_eq (node : Node) (side : Side) :
    node.failures side = node.ledger.unrecoverable.get side + node.crashes side := by
  cases side <;> rfl

/-- What a step leaves of a node, in which these marks are made about events. -/
structure Works (made : List Mark) (before after : Node) : Prop where
  frame_eq : after.core.frame = before.core.frame
  registrations_eq : after.registrations = before.registrations
  pipeline_eq : after.pipeline = before.pipeline
  cachesHealth_eq : after.cachesHealth = before.cachesHealth
  closed_eq : after.channel.closed = before.channel.closed
  faults_eq : after.channel.faults = before.channel.faults
  crashes_le : ∀ side, before.crashes side ≤ after.crashes side
  unrecorded : before.core.isStarted = false → before.core.timestamps.tables = .empty →
    after.core.timestamps.tables = .empty
  sent_eq : ∀ cache, after.core.meter.count (.sent cache) =
    before.core.meter.count (.sent cache) + made.count (.sent cache)
  failed_eq : ∀ cache, after.core.meter.count (.produceFailed cache) =
    before.core.meter.count (.produceFailed cache) + made.count (.produceFailed cache)
  unrecoverable_le : ∀ side,
    before.ledger.unrecoverable.get side ≤ after.ledger.unrecoverable.get side
  balanced : ∀ side,
    after.ledger.unrecoverable.get side + before.core.meter.count (.recoveryFailed side) =
      before.ledger.unrecoverable.get side + after.core.meter.count (.recoveryFailed side)

namespace Works

variable {made more : List Mark}

theorem refl (node : Node) : node.Works [] node :=
  ⟨rfl, rfl, rfl, rfl, rfl, rfl, fun _ => Nat.le_refl _, fun _ none => none, fun _ => rfl,
    fun _ => rfl, fun _ => Nat.le_refl _, fun _ => rfl⟩

theorem trans (first : before.Works made after) (second : after.Works more later) :
    before.Works (made ++ more) later where
  frame_eq := second.frame_eq.trans first.frame_eq
  registrations_eq := second.registrations_eq.trans first.registrations_eq
  pipeline_eq := second.pipeline_eq.trans first.pipeline_eq
  cachesHealth_eq := second.cachesHealth_eq.trans first.cachesHealth_eq
  closed_eq := second.closed_eq.trans first.closed_eq
  faults_eq := second.faults_eq.trans first.faults_eq
  crashes_le side := Nat.le_trans (first.crashes_le side) (second.crashes_le side)
  unrecorded idle none :=
    second.unrecorded (Core.isStarted_of_frame first.frame_eq ▸ idle) (first.unrecorded idle none)
  sent_eq cache := by rw [second.sent_eq, first.sent_eq, List.count_append, Nat.add_assoc]
  failed_eq cache := by rw [second.failed_eq, first.failed_eq, List.count_append, Nat.add_assoc]
  unrecoverable_le side :=
    Nat.le_trans (first.unrecoverable_le side) (second.unrecoverable_le side)
  balanced side := by
    have early := first.balanced side
    have late := second.balanced side
    omega

/-- What counts of the marks is what they say about events. -/
theorem congr (works : before.Works made after)
    (sent_eq : ∀ cache, made.count (.sent cache) = more.count (.sent cache))
    (failed_eq : ∀ cache, made.count (.produceFailed cache) = more.count (.produceFailed cache)) :
    before.Works more after :=
  { works with
    sent_eq := fun cache => sent_eq cache ▸ works.sent_eq cache
    failed_eq := fun cache => failed_eq cache ▸ works.failed_eq cache }

theorem of_core {core : Core} (lasts : node.core.Lasts core) :
    node.Works [] { node with core := core } where
  frame_eq := lasts.frame_eq
  registrations_eq := rfl
  pipeline_eq := rfl
  cachesHealth_eq := rfl
  closed_eq := rfl
  faults_eq := rfl
  crashes_le side := by cases side <;> exact Nat.le_refl _
  unrecorded := lasts.unrecorded
  sent_eq cache := lasts.count_eq _ rfl
  failed_eq cache := lasts.count_eq _ rfl
  unrecoverable_le _ := Nat.le_refl _
  balanced side := by
    rw [lasts.count_eq (.recoveryFailed side) rfl]
    rfl

/-- Marks about events and workers are made without more ado. -/
theorem markAll (node : Node) (marks : List Mark)
    (apart : ∀ side, Mark.recoveryFailed side ∉ marks) :
    node.Works marks (node.markAll marks) where
  frame_eq := rfl
  registrations_eq := rfl
  pipeline_eq := rfl
  cachesHealth_eq := rfl
  closed_eq := rfl
  faults_eq := rfl
  crashes_le side := by cases side <;> exact Nat.le_refl _
  unrecorded _ none := none
  sent_eq cache := by simp [Node.markAll, Core.markAll]
  failed_eq cache := by simp [Node.markAll, Core.markAll]
  unrecoverable_le _ := Nat.le_refl _
  balanced side := by
    simp [Node.markAll, Core.markAll, Node.ledger, List.count_eq_zero.2 (apart side)]

theorem of_channel {channel : Channel} (closed_eq : channel.closed = node.channel.closed)
    (faults_eq : channel.faults = node.channel.faults) :
    node.Works [] { node with channel := channel } :=
  { refl node with
    closed_eq := closed_eq
    faults_eq := faults_eq
    crashes_le := fun side => by cases side <;> exact Nat.le_refl _ }

theorem of_producer {producer : Crew Job Sending}
    (crashes_le : node.producer.crashes ≤ producer.crashes) :
    node.Works [] { node with producer := producer } :=
  { refl node with
    crashes_le := fun side => by
      cases side with
      | producer => exact crashes_le
      | consumer => exact Nat.le_refl _ }

theorem of_consumer {consumer : Crew (List UInt8) (List UInt8)}
    (crashes_le : node.consumer.crashes ≤ consumer.crashes) :
    node.Works [] { node with consumer := consumer } :=
  { refl node with
    crashes_le := fun side => by
      cases side with
      | producer => exact Nat.le_refl _
      | consumer => exact crashes_le }

end Works

end Node

/-! ## Recovery -/

/-- A step of a recovery counts what it gives up, and reports nothing about events. -/
structure RecoveryStep.Fair (before : Recoveries) (step : RecoveryStep) : Prop where
  unrecoverable_eq : ∀ side, step.recoveries.ledger.unrecoverable.get side =
    before.ledger.unrecoverable.get side + step.marks.count (.recoveryFailed side)
  unsent : ∀ cache, Mark.sent cache ∉ step.marks
  unfailed : ∀ cache, Mark.produceFailed cache ∉ step.marks

namespace Recoveries

open RecoveryStep (Fair)

variable (recoveries : Recoveries) (call : RecoveryCall) (course : RecoveryCourse) (clock : Clock)

theorem conclude_fair (failure : Option RecoveryError) :
    Fair recoveries (recoveries.conclude call failure clock) := by
  cases failure with
  | none => exact ⟨fun _ => rfl, by simp [conclude], by simp [conclude]⟩
  | some error =>
      cases error with
      | cancelled => exact ⟨fun _ => rfl, by simp [conclude], by simp [conclude]⟩
      | notRecoverable attempts elapsed lastError =>
          refine ⟨fun side => ?_, by simp [conclude], by simp [conclude]⟩
          simp only [conclude, Ledger.countUnrecoverable, PerSide.get_modify, Ledger.leave,
            List.count_singleton, beq_iff_eq, Mark.recoveryFailed.injEq, eq_comm (a := side)]
          split <;> rfl

theorem decide_fair : Fair recoveries (recoveries.decide call course clock) := by
  unfold decide
  split
  · exact recoveries.conclude_fair call clock _
  · exact ⟨by simp, by simp, by simp⟩

theorem wake_fair : Fair recoveries (recoveries.wake call course clock) := by
  unfold wake
  split
  · exact recoveries.conclude_fair call clock _
  · exact ⟨by simp, by simp, by simp⟩

theorem fail_fair (error : String) (draw : Binary64.Ratio) :
    Fair recoveries (recoveries.fail call course error draw clock) := by
  unfold fail
  split
  · exact recoveries.conclude_fair call clock _
  · exact ⟨by simp, by simp, by simp⟩

end Recoveries

namespace Node.Works

variable {node : Node}

theorem of_fair {step : RecoveryStep} (fair : step.Fair node.recoveries) :
    node.Works [] ({ node with recoveries := step.recoveries }.markAll step.marks) where
  frame_eq := rfl
  registrations_eq := rfl
  pipeline_eq := rfl
  cachesHealth_eq := rfl
  closed_eq := rfl
  faults_eq := rfl
  crashes_le side := by cases side <;> exact Nat.le_refl _
  unrecorded _ none := none
  sent_eq cache := by
    simp [Node.markAll, Core.markAll, List.count_eq_zero.2 (fair.unsent cache)]
  failed_eq cache := by
    simp [Node.markAll, Core.markAll, List.count_eq_zero.2 (fair.unfailed cache)]
  unrecoverable_le side := (fair.unrecoverable_eq side).symm ▸ Nat.le_add_right _ _
  balanced side := by
    have counted := fair.unrecoverable_eq side
    simp only [Node.markAll, Core.markAll, Meter.count_markAll, Node.ledger] at counted ⊢
    omega

theorem enter (node : Node) (side : Side) (clock : Clock) :
    node.Works [] { node with recoveries := (node.recoveries.enter side clock).1 } :=
  { refl node with
    crashes_le := fun side => by cases side <;> exact Nat.le_refl _ }

end Node.Works

end CacheSync
