import CacheSync.Recovery.Call

/-!
# Rehearsed recoveries

A rehearsal plays one recovery against a script that says what each attempt meets.  It notes the
ledger at the cleanup and at every attempt, so that one can see what the rest of a node sees while
it recovers.
-/

namespace CacheSync

/-- What an attempt meets. -/
inductive Encounter where
  | success
  | failure (reason : String)
  /-- The node begins to shut down, and the attempt fails. -/
  | shutdown
  /-- A recovery of the other side, whose first attempt succeeds; its result is that of the
  attempt. -/
  | nested
  deriving DecidableEq

namespace Encounter

/-- The word of an encounter; any other word is the reason of a failure. -/
def ofText (text : String) : Encounter :=
  if text = "ok" then .success
  else if text = "shutdown" then .shutdown
  else if text = "nested" then .nested
  else .failure text

def text : Encounter → String
  | .success => "ok"
  | .failure reason => reason
  | .shutdown => "shutdown"
  | .nested => "nested"

/-- Attempts meet the encounters of a script in turn, and then the last one again and again. -/
def nth (script : List Encounter) (attempt : Nat) : Encounter :=
  (script[attempt]?).getD (script.getLast?.getD .success)

end Encounter

/-- A recovery that is being played. -/
structure Rehearsal where
  recoveries : Recoveries
  meter : Meter
  clock : Clock
  /-- When somebody else triggers the shutdown. -/
  alarm : Option Moment
  /-- The encounters of the script that are over. -/
  met : Nat
  /-- What was called and the ledger then, the latest first. -/
  notes : List (String × Ledger)

namespace Rehearsal

def stepTime : Nat := 1000

def new (settings : RecoverySettings) (clock : Clock) : Rehearsal :=
  ⟨.new settings, .empty, clock, none, 0, []⟩

/-- Ring the alarm if its time has come. -/
def ring (stage : Rehearsal) : Rehearsal :=
  match stage.alarm with
  | none => stage
  | some due =>
      if due ≤ stage.clock.steady then
        { stage with recoveries := stage.recoveries.trigger, alarm := none }
      else stage

def pass (stage : Rehearsal) : Rehearsal :=
  { stage with clock := stage.clock.advance stepTime }.ring

/-- Let time pass until a moment, but not beyond the alarm. -/
def sleep (stage : Rehearsal) (wake : Option Moment) : Rehearsal :=
  let until? :=
    match wake, stage.alarm with
    | some wake, some alarm => some (min wake alarm)
    | wake, alarm => wake.or alarm
  match until? with
  | none => stage
  | some moment => { stage with clock := stage.clock.advanceTo moment }.ring

def note (stage : Rehearsal) (what : String) : Rehearsal :=
  { stage with notes := (what, stage.recoveries.ledger) :: stage.notes }

def take (stage : Rehearsal) (step : RecoveryStep) : Rehearsal × RecoveryCall :=
  ({ stage with
      recoveries := step.recoveries, meter := stage.meter.markAll step.marks }.pass,
    step.call)

/-- A nested recovery, and why it failed if it did. -/
def playNested (stage : Rehearsal) (side : Side) : Rehearsal × Option RecoveryError :=
  let (recoveries, call) := stage.recoveries.enter side stage.clock
  let entered : Rehearsal := { stage with recoveries := recoveries }.pass
  let course := entered.recoveries.course entered.clock
  let (decided, call) := entered.take (entered.recoveries.decide call course entered.clock)
  match call.phase with
  | .ended failure => (decided, failure)
  | _ =>
      let noted := decided.note "inner"
      ((noted.take (noted.recoveries.succeed call noted.clock)).1, none)

/-- Make an attempt.  The answer is the reason of its failure. -/
def attempt (stage : Rehearsal) (side : Side) : Encounter → Rehearsal × Option String
  | .success => (stage, none)
  | .failure reason => (stage, some reason)
  | .shutdown =>
      ({ stage with recoveries := stage.recoveries.trigger }, some Encounter.shutdown.text)
  | .nested =>
      let (after, failure) := stage.playNested side.other
      (after, failure.map RecoveryError.message)

def step (stage : Rehearsal) (script : List Encounter) (call : RecoveryCall) :
    Rehearsal × RecoveryCall :=
  match call.phase with
  | .cleaning =>
      let cleaned := (stage.note "cleanup").pass
      (cleaned, cleaned.recoveries.cleaned call cleaned.clock)
  | .deciding course => stage.take (stage.recoveries.decide call course stage.clock)
  | .attempting course =>
      let met := Encounter.nth script stage.met
      let (tried, failure) := (stage.note met.text).attempt call.side met
      let tried := { tried with met := stage.met + 1 }.pass
      match failure with
      | none => tried.take (tried.recoveries.succeed call tried.clock)
      | some reason =>
          let draw := tried.recoveries.settings.middleDraw
          tried.take (tried.recoveries.fail call course reason draw tried.clock)
  | .waiting course wake =>
      let slept := stage.sleep wake
      if slept.recoveries.mayWake wake slept.clock then
        slept.take (slept.recoveries.wake call course slept.clock)
      else (slept, call)
  | .ended _ => (stage, call)

def run : (fuel : Nat) → Rehearsal → List Encounter → RecoveryCall → Rehearsal × RecoveryCall
  | 0, stage, _, call => (stage, call)
  | fuel + 1, stage, script, call =>
      match call.phase with
      | .ended _ => (stage, call)
      | _ =>
          let (after, call) := stage.step script call
          run fuel after script call

/-- Enough steps for a recovery to end: every attempt takes the time of a step, and there are no
more attempts than fit the time until the window or the alarm ends them. -/
def bound (stage : Rehearsal) (script : List Encounter) (alarm : Option Duration) : Nat :=
  let window :=
    match stage.clock.deadline? stage.recoveries.settings.window with
    | none => 0
    | some _ => stage.recoveries.settings.window.micros
  4 * (script.length + window + (alarm.map Duration.micros).getD 0 + 4)

/-- How a played recovery went. -/
structure Outcome where
  stage : Rehearsal
  failure : Option RecoveryError
  /-- What was called and the ledger then, the earliest first. -/
  notes : List (String × Ledger)

/-- Play a recovery of one side against a script.  An alarm that the recovery does not wait for
still rings before the next one. -/
def play (stage : Rehearsal) (side : Side) (script : List Encounter) (alarm : Option Duration) :
    Outcome :=
  let due := alarm.map fun delay => stage.clock.steady.after delay
  let (recoveries, call) := stage.recoveries.enter side stage.clock
  let begun : Rehearsal := { stage with
    recoveries := recoveries, alarm := due, met := 0, notes := [] }
  let (final, call) := run (stage.bound script alarm) begun script call
  let settled := final.sleep none
  ⟨{ settled with notes := [] }, (match call.phase with
    | .ended failure => failure
    | _ => none), final.notes.reverse⟩

end Rehearsal
end CacheSync
