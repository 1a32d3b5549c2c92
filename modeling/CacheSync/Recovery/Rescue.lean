import CacheSync.Recovery.Call
import Mathlib.Logic.Relation

/-!
# Many recoveries at once

Any number of recoveries share a ledger, a meter and the signal of a shutdown, and take their steps
in any order.  To enter, a call is counted in, looks at the last end, and writes down whether that
was too recent; to leave, it notes the end, is counted out, and has its failure booked and reported.
Each of these is a step of its own here, as others may come between.
-/

namespace CacheSync

/-! ## Parts of an entry and of a conclusion -/

namespace Ledger

def countIn (ledger : Ledger) (side : Side) : Ledger :=
  { ledger with recovering := ledger.recovering.modify (· + 1) side }

def flag (ledger : Ledger) (starved : Bool) : Ledger :=
  { ledger with starved := starved }

def noteEnd (ledger : Ledger) (now : Moment) : Ledger :=
  { ledger with lastEnd := some now }

def countOut (ledger : Ledger) (side : Side) : Ledger :=
  { ledger with recovering := ledger.recovering.modify (· - 1) side }

def book (ledger : Ledger) (side : Side) : Option RecoveryError → Ledger
  | none => ledger
  | some .cancelled => ledger.countInterrupted
  | some (.notRecoverable _ _ _) => ledger.countUnrecoverable side

end Ledger

/-- Whether a moment follows within a window on the last end, if there was one. -/
def isClose (ended : Option Moment) (window : Duration) (now : Moment) : Bool :=
  match ended with
  | none => false
  | some ended => (now.since ended).nanos < window.nanos

/-- What is reported of a call with its result. -/
def reportsOf (side : Side) : Option RecoveryError → List Mark
  | some (.notRecoverable _ _ _) => [.recoveryFailed side]
  | _ => []

/-! ## Calls -/

namespace Rescue

/-- An entry: when a call looked, and what ends it could see, the latest first. -/
structure Entry where
  now : Moment
  ended : Option Moment
  past : List Moment

/-- How far a call has come. -/
inductive Stage where
  | counted
  | looked (entry : Entry)
  | running (phase : RecoveryPhase)
  | stopped (failure : Option RecoveryError)
  | noted (failure : Option RecoveryError)
  | left (failure : Option RecoveryError)
  | booked (failure : Option RecoveryError)
  | ended (failure : Option RecoveryError)

namespace Stage

/-- The stage of a call whose run has come to a phase. -/
def ofPhase : RecoveryPhase → Stage
  | .ended failure => .stopped failure
  | phase => .running phase

end Stage

/-- One call, and what it has done. -/
structure Rescuer where
  side : Side
  stage : Stage
  /-- Whether it entered after the shutdown. -/
  late : Bool
  cleanups : Nat
  attempts : Nat
  /-- The text of the last failure of an attempt. -/
  lastFailure : Option String

/-- What the calls share, with what has been noted and seen. -/
structure Common where
  recoveries : Recoveries
  meter : Meter
  /-- The ends noted, the latest first. -/
  ends : List Moment
  /-- The entry that was written down last. -/
  latest : Option Entry

namespace Common

def withLedger (common : Common) (ledger : Ledger) : Common :=
  { common with recoveries := { common.recoveries with ledger := ledger } }

/-- Take over a step of a run.  If the run has ended, its conclusion follows in parts. -/
def adopt (common : Common) (step : RecoveryStep) : Common :=
  match step.call.phase with
  | .ended _ => common
  | _ => { common with
      recoveries := step.recoveries
      meter := common.meter.markAll step.marks }

end Common

open Common

/-- One step of a call. -/
inductive Move (common : Common) (rescuer : Rescuer) : Common → Rescuer → Prop where
  | look (now : Moment) (here : rescuer.stage = .counted) : Move common rescuer common
      { rescuer with
        stage := .looked ⟨now, common.recoveries.ledger.lastEnd, common.ends⟩ }
  | flag {entry : Entry} (here : rescuer.stage = .looked entry) : Move common rescuer
      { common.withLedger (common.recoveries.ledger.flag
          (isClose entry.ended common.recoveries.settings.window entry.now)) with
        latest := some entry }
      { rescuer with stage := .running .cleaning }
  /-- The cleanup may fail. -/
  | cleanUp (failure : Option String) (clock : Clock) (here : rescuer.stage = .running .cleaning) :
      Move common rescuer common { rescuer with
        stage := .ofPhase (common.recoveries.cleaned ⟨rescuer.side, .cleaning⟩ clock).phase
        cleanups := rescuer.cleanups + 1 }
  /-- The attempt begins, unless there is a shutdown. -/
  | decide {course : RecoveryCourse} {step : RecoveryStep} (clock : Clock)
      (here : rescuer.stage = .running (.deciding course))
      (made : common.recoveries.decide ⟨rescuer.side, .deciding course⟩ course clock = step) :
      Move common rescuer (common.adopt step) { rescuer with
        stage := .ofPhase step.call.phase
        attempts := rescuer.attempts + if common.recoveries.shutdown then 0 else 1 }
  | succeed {course : RecoveryCourse} {step : RecoveryStep} (clock : Clock)
      (here : rescuer.stage = .running (.attempting course))
      (made : common.recoveries.succeed ⟨rescuer.side, .attempting course⟩ clock = step) :
      Move common rescuer (common.adopt step)
        { rescuer with stage := .ofPhase step.call.phase }
  | fail {course : RecoveryCourse} {step : RecoveryStep} (error : String)
      (draw : Binary64.Ratio) (clock : Clock)
      (here : rescuer.stage = .running (.attempting course))
      (made : common.recoveries.fail ⟨rescuer.side, .attempting course⟩ course error draw clock =
        step) :
      Move common rescuer (common.adopt step) { rescuer with
        stage := .ofPhase step.call.phase
        lastFailure := some error }
  | wake {course : RecoveryCourse} {wake : Option Moment} {step : RecoveryStep} (clock : Clock)
      (here : rescuer.stage = .running (.waiting course wake))
      (may : common.recoveries.mayWake wake clock = true)
      (made : common.recoveries.wake ⟨rescuer.side, .waiting course wake⟩ course clock = step) :
      Move common rescuer (common.adopt step)
        { rescuer with stage := .ofPhase step.call.phase }
  | noteEnd {failure : Option RecoveryError} (now : Moment)
      (here : rescuer.stage = .stopped failure) : Move common rescuer
      { common.withLedger (common.recoveries.ledger.noteEnd now) with
        ends := now :: common.ends }
      { rescuer with stage := .noted failure }
  | countOut {failure : Option RecoveryError} (here : rescuer.stage = .noted failure) :
      Move common rescuer
        (common.withLedger (common.recoveries.ledger.countOut rescuer.side))
        { rescuer with stage := .left failure }
  | book {failure : Option RecoveryError} (here : rescuer.stage = .left failure) :
      Move common rescuer
        (common.withLedger (common.recoveries.ledger.book rescuer.side failure))
        { rescuer with stage := .booked failure }
  | report {failure : Option RecoveryError} (here : rescuer.stage = .booked failure) :
      Move common rescuer
        { common with meter := common.meter.markAll (reportsOf rescuer.side failure) }
        { rescuer with stage := .ended failure }

end Rescue

/-- All calls for recovery, in the order they entered in. -/
structure Rescue where
  common : Rescue.Common
  rescuers : List Rescue.Rescuer

namespace Rescue

def new (settings : RecoverySettings) : Rescue :=
  ⟨⟨.new settings, .empty, [], none⟩, []⟩

/-- One step of anyone. -/
inductive Step : Rescue → Rescue → Prop where
  | enter (rescue : Rescue) (side : Side) : Step rescue
      ⟨rescue.common.withLedger (rescue.common.recoveries.ledger.countIn side),
        rescue.rescuers ++ [⟨side, .counted, rescue.common.recoveries.shutdown, 0, 0, none⟩]⟩
  | move {common after : Common} {rescuer moved : Rescuer} {before behind : List Rescuer}
      (move : Move common rescuer after moved) :
      Step ⟨common, before ++ rescuer :: behind⟩ ⟨after, before ++ moved :: behind⟩
  | trigger (rescue : Rescue) : Step rescue { rescue with
      common := { rescue.common with recoveries := rescue.common.recoveries.trigger } }

/-- Any number of steps of anyone, in any order. -/
def Run : Rescue → Rescue → Prop :=
  Relation.ReflTransGen Step

end Rescue
end CacheSync
