import CacheSync.Config.Recovery
import CacheSync.Metric.Meter
import CacheSync.Recovery.Ledger
import CacheSync.Time.Clock
import CacheSync.Word

/-!
# Recovery calls

A thread that has lost the channel calls for its recovery.  The call cleans up once, and then
tries again and again, with growing waits between, until an attempt succeeds, the time window of
the settings has passed, or the node shuts down.  An attempt is still made when the window ends.

Several calls may run at once.  What they share is a `Recoveries`; the progress of one call is a
`RecoveryCall`.  Each function below is one step of a call.
-/

namespace CacheSync

/-- Why a recovery ends without success. -/
inductive RecoveryError where
  | cancelled
  | notRecoverable (attempts : UInt32) (elapsed : Duration) (lastError : String)
  deriving DecidableEq

namespace RecoveryError

/-- The name of an error without its circumstances. -/
def kind : RecoveryError → String
  | .cancelled => "Cancelled"
  | .notRecoverable _ _ _ => "NotRecoverable"

def message : RecoveryError → String
  | .cancelled => "channel recovery cancelled by shutdown"
  | .notRecoverable attempts elapsed lastError =>
      "channel not recoverable after " ++ toString (attempts : Nat) ++ " attempts in " ++
        elapsed.toText ++ ": " ++ lastError

end RecoveryError

/-- How far a recovery has come since its cleanup. -/
structure RecoveryCourse where
  started : Moment
  /-- The end of the time window, if it is ever reached. -/
  deadline : Option Moment
  /-- The next wait, without its random part. -/
  backoff : Duration
  /-- The attempts begun so far, counted in a word: after its greatest number comes zero. -/
  attempts : UInt32
  deriving DecidableEq

/-- What a recovery does next. -/
inductive RecoveryPhase where
  | cleaning
  /-- Look whether the node is shutting down. -/
  | deciding (course : RecoveryCourse)
  | attempting (course : RecoveryCourse)
  /-- Wait until a moment on the steady clock, or for the shutdown alone. -/
  | waiting (course : RecoveryCourse) (wake : Option Moment)
  | ended (failure : Option RecoveryError)
  deriving DecidableEq

/-- One call for recovery. -/
structure RecoveryCall where
  side : Side
  phase : RecoveryPhase
  deriving DecidableEq

/-- What the recovery calls of a node share. -/
structure Recoveries where
  settings : RecoverySettings
  ledger : Ledger
  /-- Whether the node is shutting down. -/
  shutdown : Bool

/-- What a step of a call leaves behind, and what it reports. -/
structure RecoveryStep where
  recoveries : Recoveries
  call : RecoveryCall
  marks : List Mark

namespace Recoveries

def new (settings : RecoverySettings) : Recoveries :=
  ⟨settings, .empty, false⟩

/-- Shut down: calls that wait are woken, and no further attempt is made. -/
def trigger (recoveries : Recoveries) : Recoveries :=
  { recoveries with shutdown := true }

/-- A call begins. -/
def enter (recoveries : Recoveries) (side : Side) (clock : Clock) : Recoveries × RecoveryCall :=
  ({ recoveries with
      ledger := recoveries.ledger.enter side recoveries.settings.window clock.steady },
    ⟨side, .cleaning⟩)

/-- The course of a call whose cleanup is over, well or not. -/
def course (recoveries : Recoveries) (clock : Clock) : RecoveryCourse :=
  ⟨clock.steady, clock.deadline? recoveries.settings.window, recoveries.settings.initialBackoff, 0⟩

def cleaned (recoveries : Recoveries) (call : RecoveryCall) (clock : Clock) : RecoveryCall :=
  { call with phase := .deciding (recoveries.course clock) }

def conclude (recoveries : Recoveries) (call : RecoveryCall) (failure : Option RecoveryError)
    (clock : Clock) : RecoveryStep :=
  let ledger := recoveries.ledger.leave call.side clock.steady
  let ended : RecoveryCall := { call with phase := .ended failure }
  match failure with
  | none => ⟨{ recoveries with ledger := ledger }, ended, []⟩
  | some .cancelled => ⟨{ recoveries with ledger := ledger.countInterrupted }, ended, []⟩
  | some (.notRecoverable _ _ _) =>
      ⟨{ recoveries with ledger := ledger.countUnrecoverable call.side }, ended,
        [.recoveryFailed call.side]⟩

/-- Begin an attempt, unless the node is shutting down. -/
def decide (recoveries : Recoveries) (call : RecoveryCall) (course : RecoveryCourse)
    (clock : Clock) : RecoveryStep :=
  if recoveries.shutdown then recoveries.conclude call (some .cancelled) clock
  else
    ⟨recoveries, { call with phase := .attempting { course with attempts := course.attempts + 1 } },
      [.recoveryAttempted call.side]⟩

def succeed (recoveries : Recoveries) (call : RecoveryCall) (clock : Clock) : RecoveryStep :=
  recoveries.conclude call none clock

def waitFor (recoveries : Recoveries) (course : RecoveryCourse) (draw : Binary64.Ratio)
    (clock : Clock) : Duration :=
  let wait := recoveries.settings.jittered draw course.backoff
  match course.deadline with
  | none => wait
  | some deadline => wait.shorter (deadline.since clock.steady)

def windowPassed (course : RecoveryCourse) (clock : Clock) : Bool :=
  match course.deadline with
  | none => false
  | some deadline => deadline ≤ clock.steady

def fail (recoveries : Recoveries) (call : RecoveryCall) (course : RecoveryCourse)
    (error : String) (draw : Binary64.Ratio) (clock : Clock) : RecoveryStep :=
  if windowPassed course clock then
    recoveries.conclude call
      (some (.notRecoverable course.attempts (clock.steady.since course.started) error)) clock
  else
    let wake := clock.deadline? (recoveries.waitFor course draw clock)
    ⟨recoveries, { call with phase := .waiting course wake }, []⟩

def mayWake (recoveries : Recoveries) (wake : Option Moment) (clock : Clock) : Bool :=
  recoveries.shutdown ||
    match wake with
    | none => false
    | some wake => wake ≤ clock.steady

def wake (recoveries : Recoveries) (call : RecoveryCall) (course : RecoveryCourse)
    (clock : Clock) : RecoveryStep :=
  if recoveries.shutdown then recoveries.conclude call (some .cancelled) clock
  else
    let backoff := recoveries.settings.nextBackoff course.backoff
    ⟨recoveries, { call with phase := .deciding { course with backoff := backoff } }, []⟩

end Recoveries
end CacheSync
