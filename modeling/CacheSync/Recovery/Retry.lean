import CacheSync.Recovery.Call

/-!
# One recovery on a clock of its own

A `Retry` is one recovery that nobody shuts down, on a clock that goes on only in its attempts and
in its waits, and these last exactly as long as they are asked to.  The attempts are numbered here;
the recovery itself counts them in a word of 32 bits, and what it tells of them is their number in
that word.
-/

namespace CacheSync

open Binary64 (Ratio)

/-- What an attempt meets: how long it takes, why it fails if it does, and the random part of the
wait after it. -/
structure Trial where
  time : Nat
  failure : Option String
  draw : Ratio

/-- A recovery in progress. -/
structure Retry where
  recoveries : Recoveries
  call : RecoveryCall
  clock : Clock
  /-- The attempts that are over. -/
  tried : Nat

namespace Retry

def take (step : RecoveryStep) (clock : Clock) (tried : Nat) : Retry :=
  ⟨step.recoveries, step.call, clock, tried⟩

/-- One step of a recovery whose attempts meet these trials in turn. -/
def step (trials : Nat → Trial) (retry : Retry) : Retry :=
  match retry.call.phase with
  | .cleaning => { retry with call := retry.recoveries.cleaned retry.call retry.clock }
  | .deciding course =>
      take (retry.recoveries.decide retry.call course retry.clock) retry.clock retry.tried
  | .attempting course =>
      let trial := trials retry.tried
      let clock := retry.clock.advance trial.time
      match trial.failure with
      | none => take (retry.recoveries.succeed retry.call clock) clock (retry.tried + 1)
      | some error =>
          take (retry.recoveries.fail retry.call course error trial.draw clock) clock
            (retry.tried + 1)
  | .waiting course (some wake) =>
      let clock := retry.clock.advanceTo wake
      take (retry.recoveries.wake retry.call course clock) clock retry.tried
  | .waiting _ none => retry
  | .ended _ => retry

/-- The recovery after some steps. -/
def after (retry : Retry) (trials : Nat → Trial) : Nat → Retry
  | 0 => retry
  | n + 1 => (retry.after trials n).step trials

end Retry
end CacheSync
