import CacheSync.Proofs.Recovery.Rescue
import Mathlib.Algebra.Ring.Nat

/-!
# Shares in the numbers of recovery

What a call has added to a number so far is its share, and a move adds to every number what it adds
to the share of its call.  A share can be told from how far a call has come, so that the sum of the
shares of all calls is the number of calls that have come so far.
-/

namespace CacheSync
namespace Rescue

variable {common after : Common} {rescuer moved : Rescuer}

/-- The numbers that are kept of recoveries. -/
inductive Count where
  | recovering (side : Side)
  | unrecoverable (side : Side)
  | interrupted
  | attempted (side : Side)
  | failed (side : Side)
  deriving DecidableEq

def Common.number (common : Common) : Count → Nat
  | .recovering side => common.recoveries.ledger.recovering.get side
  | .unrecoverable side => common.recoveries.ledger.unrecoverable.get side
  | .interrupted => common.recoveries.ledger.interrupted
  | .attempted side => common.meter.count (.recoveryAttempted side)
  | .failed side => common.meter.count (.recoveryFailed side)

/-- What is booked for a result. -/
def Count.booking (side : Side) : Option RecoveryError → List Count
  | none => []
  | some .cancelled => [.interrupted]
  | some (.notRecoverable _ _ _) => [.unrecoverable side]

/-- What is reported with a result. -/
def Count.reporting (side : Side) : Option RecoveryError → List Count
  | some (.notRecoverable _ _ _) => [.failed side]
  | _ => []

namespace Stage

/-- What a call has added to the numbers by getting to a stage, attempts apart. -/
def counts (side : Side) : Stage → List Count
  | .counted => [.recovering side]
  | .looked _ => [.recovering side]
  | .running _ => [.recovering side]
  | .stopped _ => [.recovering side]
  | .noted _ => [.recovering side]
  | .left _ => []
  | .booked failure => Count.booking side failure
  | .ended failure => Count.booking side failure ++ Count.reporting side failure

end Stage

theorem Stage.counts_ofPhase (side : Side) (phase : RecoveryPhase) :
    (Stage.ofPhase phase).counts side = [.recovering side] := by
  cases phase <;> rfl

/-- What a call has added to a number. -/
def Rescuer.share (rescuer : Rescuer) (count : Count) : Nat :=
  (rescuer.stage.counts rescuer.side).count count +
    if count = .attempted rescuer.side then rescuer.attempts else 0

section Numbers

variable (common : Common) (side : Side) (count : Count)

theorem number_countIn :
    (common.withLedger (common.recoveries.ledger.countIn side)).number count =
      common.number count + [Count.recovering side].count count := by
  cases count with
  | recovering other =>
      simp only [Common.number, Common.withLedger, Ledger.countIn, PerSide.get_modify,
        List.count_singleton]
      by_cases same : other = side
      · simp [same]
      · simp [same, Ne.symm same]
  | _ => rfl

theorem number_countOut :
    (common.withLedger (common.recoveries.ledger.countOut side)).number count =
      common.number count - [Count.recovering side].count count := by
  cases count with
  | recovering other =>
      simp only [Common.number, Common.withLedger, Ledger.countOut, PerSide.get_modify,
        List.count_singleton]
      by_cases same : other = side
      · simp [same]
      · simp [same, Ne.symm same]
  | _ => rfl

theorem number_book (failure : Option RecoveryError) :
    (common.withLedger (common.recoveries.ledger.book side failure)).number count =
      common.number count + (Count.booking side failure).count count := by
  cases failure with
  | none => rfl
  | some error =>
      cases error with
      | cancelled =>
          cases count with
          | _ => rfl
      | notRecoverable attempts elapsed lastError =>
          cases count with
          | unrecoverable other =>
              simp only [Common.number, Common.withLedger, Ledger.book, Ledger.countUnrecoverable,
                PerSide.get_modify, Count.booking, List.count_singleton]
              by_cases same : other = side
              · simp [same]
              · simp [same, Ne.symm same]
          | _ => rfl

theorem number_mark_attempted :
    Common.number { common with meter := common.meter.mark (.recoveryAttempted side) } count =
      common.number count + [Count.attempted side].count count := by
  cases count with
  | attempted other => simp [Common.number, List.count_singleton]
  | failed other => simp [Common.number]
  | _ => rfl

theorem number_report (failure : Option RecoveryError) :
    Common.number { common with meter := common.meter.markAll (reportsOf side failure) } count =
      common.number count + (Count.reporting side failure).count count := by
  cases failure with
  | none => rfl
  | some error =>
      cases error with
      | cancelled => rfl
      | notRecoverable attempts elapsed lastError =>
          have one : common.meter.markAll [.recoveryFailed side] =
            common.meter.mark (.recoveryFailed side) := rfl
          cases count with
          | attempted other => simp [Common.number, reportsOf, Count.reporting, one]
          | failed other =>
              simp [Common.number, reportsOf, Count.reporting, one, List.count_singleton]
          | _ => rfl

end Numbers

/-- A move adds to each number what it adds to the share of its call. -/
theorem Move.balance (move : Move common rescuer after moved) (count : Count)
    (enough : rescuer.share count ≤ common.number count) :
    after.number count + rescuer.share count = common.number count + moved.share count := by
  have still {common after : Common} {share : Nat} (same : after = common) :
      after.number count + share = common.number count + share := by rw [same]
  unfold Rescuer.share at enough ⊢
  cases move with
  | look now here =>
      rw [here]
      exact still rfl
  | @flag entry here =>
      rw [here]
      cases count <;> rfl
  | cleanUp failure clock here =>
      rw [here]
      exact still rfl
  | noteEnd now here =>
      rw [here]
      cases count <;> rfl
  | @countOut failure here =>
      rw [here] at enough ⊢
      rw [number_countOut]
      simp only [Stage.counts, List.count_nil] at enough ⊢
      omega
  | @book failure here =>
      rw [here, number_book]
      simp only [Stage.counts, List.count_nil]
      omega
  | @report failure here =>
      rw [here, number_report]
      simp only [Stage.counts, List.count_append]
      omega
  | @decide course step clock here made =>
      subst made
      rw [here, Stage.counts_ofPhase]
      cases shutdown : common.recoveries.shutdown with
      | true => exact still (adopt_decide_of_shutdown _ _ _ shutdown).1
      | false =>
          rw [(adopt_decide _ _ _ shutdown).1, number_mark_attempted]
          by_cases same : count = .attempted rescuer.side
          · subst same
            simp only [Stage.counts, List.count_singleton_self, ↓reduceIte, Bool.false_eq_true]
            omega
          · simp only [Stage.counts, List.count_singleton, beq_iff_eq, Ne.symm same, same,
              ↓reduceIte]
            omega
  | @succeed course step clock here made =>
      subst made
      rw [here, Stage.counts_ofPhase]
      exact still (adopt_succeed _ _ _ _).1
  | @fail course step error draw clock here made =>
      subst made
      rw [here, Stage.counts_ofPhase]
      exact still (adopt_fail _ _ _ _ error draw).1
  | @wake course wake step clock here may made =>
      subst made
      rw [here, Stage.counts_ofPhase]
      exact still (adopt_wake _ _ _ _ wake).1

/-! ## Shares tell of calls -/

namespace Stage

/-- Whether a call has entered and has not left. -/
def isInside : Stage → Bool
  | .counted => true
  | .looked _ => true
  | .running _ => true
  | .stopped _ => true
  | .noted _ => true
  | _ => false

/-- The failure of a call that is in the books. -/
def booked? : Stage → Option RecoveryError
  | .booked failure => failure
  | .ended failure => failure
  | _ => none

/-- The failure that a call has reported and returned. -/
def returned? : Stage → Option RecoveryError
  | .ended failure => failure
  | _ => none

end Stage

/-- Whether a failure says that the channel is not recoverable. -/
def isLoss : Option RecoveryError → Bool
  | some (.notRecoverable _ _ _) => true
  | _ => false

namespace Rescuer

def isInside (side : Side) (rescuer : Rescuer) : Bool :=
  rescuer.side = side && rescuer.stage.isInside

/-- Whether a call has its loss in the books. -/
def isLost (side : Side) (rescuer : Rescuer) : Bool :=
  rescuer.side = side && isLoss rescuer.stage.booked?

/-- Whether a call has returned a loss. -/
def hasFailed (side : Side) (rescuer : Rescuer) : Bool :=
  rescuer.side = side && isLoss rescuer.stage.returned?

/-- Whether a call has its cancellation in the books. -/
def isInterrupted (rescuer : Rescuer) : Bool :=
  rescuer.stage.booked? = some .cancelled

/-- Whether a call has a number one higher, attempts apart. -/
def raises (rescuer : Rescuer) : Count → Bool
  | .recovering side => rescuer.isInside side
  | .unrecoverable side => rescuer.isLost side
  | .interrupted => rescuer.isInterrupted
  | .attempted _ => false
  | .failed side => rescuer.hasFailed side

theorem count_counts (rescuer : Rescuer) (count : Count) :
    (rescuer.stage.counts rescuer.side).count count = if rescuer.raises count then 1 else 0 := by
  obtain ⟨own, stage, late, cleanups, attempts, lastFailure⟩ := rescuer
  cases stage with
  | left failure =>
      cases count <;>
        simp [Stage.counts, raises, isInside, isLost, isInterrupted, hasFailed, Stage.isInside,
          Stage.booked?, Stage.returned?, isLoss]
  | booked failure =>
      rcases failure with _ | _ | ⟨_, _, _⟩ <;> cases count <;>
        simp [Stage.counts, Count.booking, raises, isInside, isLost, isInterrupted, hasFailed,
          Stage.isInside, Stage.booked?, Stage.returned?, isLoss, List.count_singleton]
  | ended failure =>
      rcases failure with _ | _ | ⟨_, _, _⟩ <;> cases count <;>
        simp [Stage.counts, Count.booking, Count.reporting, raises, isInside, isLost,
          isInterrupted, hasFailed, Stage.isInside, Stage.booked?, Stage.returned?, isLoss,
          List.count_cons]
  | _ =>
      cases count <;>
        simp [Stage.counts, raises, isInside, isLost, isInterrupted, hasFailed, Stage.isInside,
          Stage.booked?, Stage.returned?, isLoss, List.count_singleton]

theorem share_eq_raises (rescuer : Rescuer) {count : Count}
    (other : ∀ side, count ≠ .attempted side) :
    rescuer.share count = if rescuer.raises count then 1 else 0 := by
  unfold share
  rw [count_counts, if_neg (other rescuer.side), Nat.add_zero]

theorem share_attempted (rescuer : Rescuer) (side : Side) :
    rescuer.share (.attempted side) = if rescuer.side = side then rescuer.attempts else 0 := by
  unfold share
  rw [count_counts]
  simp [raises, eq_comm]

theorem sum_shares (rescuers : List Rescuer) {count : Count}
    (other : ∀ side, count ≠ .attempted side) :
    (rescuers.map (·.share count)).sum = rescuers.countP (·.raises count) := by
  induction rescuers with
  | nil => rfl
  | cons rescuer rescuers inductionHypothesis =>
      rw [List.map_cons, List.sum_cons, inductionHypothesis, rescuer.share_eq_raises other,
        List.countP_cons, Nat.add_comm]

theorem sum_shares_attempted (rescuers : List Rescuer) (side : Side) :
    (rescuers.map (·.share (.attempted side))).sum =
      ((rescuers.filter (·.side = side)).map (·.attempts)).sum := by
  induction rescuers with
  | nil => rfl
  | cons rescuer rescuers inductionHypothesis =>
      rw [List.map_cons, List.sum_cons, inductionHypothesis, share_attempted]
      by_cases own : rescuer.side = side
      · simp [own]
      · simp [own]

end Rescuer
end Rescue
end CacheSync
