import CacheSync.Recovery.Rescue

/-!
# The steps of many recoveries in a row

If nobody comes between them, the steps by which a call enters make up a whole entry, and those by
which it leaves a whole conclusion.  A step of a run makes of a call what the recovery makes of it
alone.
-/

namespace CacheSync

theorem Recoveries.conclude_eq (recoveries : Recoveries) (call : RecoveryCall)
    (failure : Option RecoveryError) (clock : Clock) :
    recoveries.conclude call failure clock =
      ⟨{ recoveries with
          ledger := ((recoveries.ledger.noteEnd clock.steady).countOut call.side).book call.side
            failure },
        { call with phase := .ended failure }, reportsOf call.side failure⟩ := by
  cases failure with
  | none => rfl
  | some error =>
      cases error with
      | cancelled => rfl
      | notRecoverable attempts elapsed lastError => rfl

namespace Rescue

open Common

/-! ## Whole entries and conclusions -/

variable {common after : Common} {rescuer moved : Rescuer}

/-- Nobody has to come between the steps of an entry. -/
theorem run_enter (rescue : Rescue) (side : Side) (clock : Clock) :
    let recoveries := rescue.common.recoveries
    let entry : Entry := ⟨clock.steady, recoveries.ledger.lastEnd, rescue.common.ends⟩
    let entered := recoveries.enter side clock
    Run rescue
      ⟨{ rescue.common with recoveries := entered.1, latest := some entry },
        rescue.rescuers ++
          [⟨side, .running entered.2.phase, recoveries.shutdown, 0, 0, none⟩]⟩ := by
  intro recoveries entry entered
  have counted : Run rescue _ := .single (.enter rescue side)
  have looked := counted.tail (.move (.look clock.steady rfl))
  have flagged := looked.tail (.move (.flag rfl))
  exact flagged

/-- Nobody has to come between the steps of a conclusion. -/
theorem run_conclude {failure : Option RecoveryError} (before behind : List Rescuer)
    (phase : RecoveryPhase) (clock : Clock) (here : rescuer.stage = .stopped failure) :
    let concluded := common.recoveries.conclude ⟨rescuer.side, phase⟩ failure clock
    Run ⟨common, before ++ rescuer :: behind⟩
      ⟨⟨concluded.recoveries, common.meter.markAll concluded.marks, clock.steady :: common.ends,
          common.latest⟩,
        before ++ { rescuer with stage := .ended failure } :: behind⟩ := by
  intro concluded
  have noted : Run ⟨common, before ++ rescuer :: behind⟩ _ :=
    .single (.move (.noteEnd clock.steady here))
  have out := noted.tail (.move (.countOut rfl))
  have booked := out.tail (.move (.book rfl))
  have reported := booked.tail (.move (.report rfl))
  have same : concluded = _ := Recoveries.conclude_eq common.recoveries _ failure clock
  rw [same]
  exact reported

/-! ## What a step of a run makes of a call -/

section Runs

variable (side : Side) (course : RecoveryCourse) (clock : Clock)

theorem adopt_decide_of_shutdown (shutdown : common.recoveries.shutdown = true) :
    common.adopt (common.recoveries.decide ⟨side, .deciding course⟩ course clock) = common ∧
      Stage.ofPhase (common.recoveries.decide ⟨side, .deciding course⟩ course clock).call.phase =
        .stopped (some .cancelled) := by
  unfold Recoveries.decide
  rw [shutdown]
  exact ⟨rfl, rfl⟩

theorem adopt_decide (unshut : common.recoveries.shutdown = false) :
    common.adopt (common.recoveries.decide ⟨side, .deciding course⟩ course clock) =
        { common with meter := common.meter.mark (.recoveryAttempted side) } ∧
      Stage.ofPhase (common.recoveries.decide ⟨side, .deciding course⟩ course clock).call.phase =
        .running (.attempting { course with attempts := course.attempts + 1 }) := by
  unfold Recoveries.decide
  rw [unshut]
  exact ⟨rfl, rfl⟩

variable (common)

theorem adopt_succeed :
    common.adopt (common.recoveries.succeed ⟨side, .attempting course⟩ clock) = common ∧
      Stage.ofPhase (common.recoveries.succeed ⟨side, .attempting course⟩ clock).call.phase =
        .stopped none :=
  ⟨rfl, rfl⟩

/-- After a failure a call waits, or it stops and tells of the failure. -/
theorem adopt_fail (error : String) (draw : Binary64.Ratio) :
    common.adopt (common.recoveries.fail ⟨side, .attempting course⟩ course error draw clock) =
        common ∧
      ((∃ elapsed, Stage.ofPhase (common.recoveries.fail ⟨side, .attempting course⟩ course error
          draw clock).call.phase =
            .stopped (some (.notRecoverable course.attempts elapsed error))) ∨
        ∃ wake, Stage.ofPhase (common.recoveries.fail ⟨side, .attempting course⟩ course error draw
          clock).call.phase = .running (.waiting course wake)) := by
  unfold Recoveries.fail
  cases Recoveries.windowPassed course clock with
  | true => exact ⟨rfl, Or.inl ⟨_, rfl⟩⟩
  | false => exact ⟨rfl, Or.inr ⟨_, rfl⟩⟩

/-- After a wait a call is cancelled, or it decides again. -/
theorem adopt_wake (wake : Option Moment) :
    common.adopt (common.recoveries.wake ⟨side, .waiting course wake⟩ course clock) = common ∧
      ((common.recoveries.shutdown = true ∧ Stage.ofPhase (common.recoveries.wake
          ⟨side, .waiting course wake⟩ course clock).call.phase = .stopped (some .cancelled)) ∨
        ∃ backoff, Stage.ofPhase (common.recoveries.wake ⟨side, .waiting course wake⟩ course
          clock).call.phase = .running (.deciding { course with backoff := backoff })) := by
  unfold Recoveries.wake
  cases common.recoveries.shutdown with
  | true => exact ⟨rfl, Or.inl ⟨rfl, rfl⟩⟩
  | false => exact ⟨rfl, Or.inr ⟨_, rfl⟩⟩

end Runs

end Rescue
end CacheSync
