import CacheSync.Proofs.Recovery.Backoff
import CacheSync.Recovery.Retry

/-!
# Retries come to an end

Whatever the attempts of a `Retry` meet, it ends: a wait lasts at least the initial backoff unless
it is cut to the end of the window, and the attempt that is made then is the last.  `Rounds` says
what happens from one attempt to the next, and `Ends` how it comes to an end; a round is three
steps.
-/

namespace CacheSync

open Binary64 (Ratio)

namespace Moment

/-- A wait that is cut to the time left ends at the deadline at the latest. -/
theorem after_shorter_since {now due : Moment} (early : now < due) (wait : Duration) :
    now.after (wait.shorter (due.since now)) = min (now.after wait) due := by
  have cut (now due : Int) (early : now < due) (wait : Nat) :
      now + ((min wait (due - now).toNat : Nat) : Int) = min (now + wait) due := by omega
  exact cut now due early wait.nanos

end Moment

theorem Clock.steady_advanceTo {clock : Clock} {moment : Moment} (ahead : clock.steady ≤ moment) :
    (clock.advanceTo moment).steady = moment := by
  have reached (now moment : Int) (ahead : now ≤ moment) :
      now + ((moment - now).toNat : Nat) = moment := by omega
  exact reached clock.steady moment ahead

namespace Retry

theorem after_of_step_eq {retry : Retry} {trials : Nat → Trial} (still : retry.step trials = retry)
    (n : Nat) : retry.after trials n = retry := by
  induction n with
  | zero => rfl
  | succ n inductionHypothesis => rw [after, inductionHypothesis, still]

theorem after_add (retry : Retry) (trials : Nat → Trial) (n m : Nat) :
    retry.after trials (n + m) = (retry.after trials n).after trials m := by
  induction m with
  | zero => rfl
  | succ m inductionHypothesis =>
      rw [← Nat.add_assoc, after, after, inductionHypothesis]

/-- What a recovery goes by. -/
structure Plan where
  settings : RecoverySettings
  started : Moment
  due : Moment

namespace Plan

/-- The course of a recovery in the wait of a number, after so many attempts. -/
def course (plan : Plan) (n attempts : Nat) : RecoveryCourse :=
  ⟨plan.started, some plan.due, plan.settings.backoff n, .ofNat attempts⟩

/-- A word counts on as numbers do. -/
theorem count_course (plan : Plan) (n attempts : Nat) :
    { plan.course n attempts with attempts := (plan.course n attempts).attempts + 1 } =
      plan.course n (attempts + 1) := by
  unfold course
  rw [UInt32.ofNat_add]
  rfl

/-- The plan is one of checked settings, and its end can be told as a moment. -/
structure Sound (plan : Plan) : Prop where
  checked : plan.settings.Checked
  fits : plan.settings.maxBackoff.nanos ≤ Duration.longest.nanos
  due_eq : plan.due = plan.started.after plan.settings.window
  representable : plan.due < (Word.greatest + 1) * Duration.nanosPerSecond

end Plan

/-- The plan of a recovery that is about to clean up. -/
def plan (retry : Retry) : Plan :=
  ⟨retry.recoveries.settings, retry.clock.steady,
    retry.clock.steady.after retry.recoveries.settings.window⟩

/-- A recovery that nobody shuts down, when so many of its attempts are over. -/
structure Follows (retry : Retry) (plan : Plan) (tried : Nat) : Prop where
  settings_eq : retry.recoveries.settings = plan.settings
  unshut : retry.recoveries.shutdown = false
  tried_eq : retry.tried = tried

variable {plan : Plan} {retry : Retry} {n : Nat} (trials : Nat → Trial)

theorem deciding_step (follows : retry.Follows plan n)
    (phase : retry.call.phase = .deciding (plan.course n n)) :
    (retry.step trials).Follows plan n ∧ (retry.step trials).clock = retry.clock ∧
      (retry.step trials).call.phase = .attempting (plan.course n (n + 1)) := by
  unfold step
  simp only [phase, Recoveries.decide, follows.unshut, Bool.false_eq_true, ↓reduceIte]
  exact ⟨⟨follows.settings_eq, follows.unshut, follows.tried_eq⟩, rfl,
    congrArg RecoveryPhase.attempting (plan.count_course n n)⟩

theorem attempting_step_of_success (tried : retry.tried = n)
    (phase : retry.call.phase = .attempting (plan.course n (n + 1)))
    (succeeds : (trials n).failure = none) :
    (retry.step trials).clock = retry.clock.advance (trials n).time ∧
      (retry.step trials).call.phase = .ended none := by
  unfold step
  simp only [phase, tried, succeeds]
  exact ⟨rfl, rfl⟩

theorem attempting_step_of_late {error : String} (tried : retry.tried = n)
    (phase : retry.call.phase = .attempting (plan.course n (n + 1)))
    (fails : (trials n).failure = some error)
    (late : plan.due ≤ (retry.clock.advance (trials n).time).steady) :
    (retry.step trials).clock = retry.clock.advance (trials n).time ∧
      (retry.step trials).call.phase = .ended (some (.notRecoverable (.ofNat (n + 1))
        ((retry.clock.advance (trials n).time).steady.since plan.started) error)) := by
  unfold step
  simp only [phase, tried, Plan.course, fails, Recoveries.fail, Recoveries.windowPassed, late,
    decide_true, ↓reduceIte]
  exact ⟨rfl, rfl⟩

/-- A wait begins: between its least and its longest, or cut to the end of the window. -/
structure Waits (plan : Plan) (n : Nat) (retry : Retry) (wake : Moment) : Prop where
  phase_eq : retry.call.phase = .waiting (plan.course n (n + 1)) (some wake)
  length : ∃ wait : Duration, (plan.settings.backoff n).nanos ≤ wait.nanos ∧
    wait.nanos ≤ (plan.settings.longestWait (plan.settings.backoff n)).nanos ∧
      wake = min (retry.clock.steady.after wait) plan.due

theorem attempting_step_of_early {error : String} (sound : plan.Sound)
    (inRange : plan.settings.InRange (trials n).draw) (follows : retry.Follows plan n)
    (phase : retry.call.phase = .attempting (plan.course n (n + 1)))
    (fails : (trials n).failure = some error)
    (early : (retry.clock.advance (trials n).time).steady < plan.due) :
    (retry.step trials).Follows plan (n + 1) ∧
      (retry.step trials).clock = retry.clock.advance (trials n).time ∧
      ∃ wake, Waits plan n (retry.step trials) wake := by
  have open_ : ¬plan.due ≤ (retry.clock.advance (trials n).time).steady :=
    Int.not_le.2 early
  unfold step
  simp only [phase, follows.tried_eq, Plan.course, fails, Recoveries.fail,
    Recoveries.windowPassed, open_, decide_false, Bool.false_eq_true, ↓reduceIte]
  generalize retry.clock.advance (trials n).time = clock at *
  have between := RecoverySettings.jittered_between sound.fits inRange
    (sound.checked.backoff_le_max n)
  generalize waited : plan.settings.jittered (trials n).draw (plan.settings.backoff n) = wait at *
  have wake : clock.deadline?
      (retry.recoveries.waitFor (plan.course n (n + 1)) (trials n).draw clock) =
        some (min (clock.steady.after wait) plan.due) := by
    have within := Int.lt_of_le_of_lt (Int.min_le_right (clock.steady.after wait) plan.due)
      sound.representable
    unfold Clock.deadline? Recoveries.waitFor Plan.course
    dsimp only
    rw [follows.settings_eq, waited, Moment.after_shorter_since early, if_pos within]
  exact ⟨⟨follows.settings_eq, follows.unshut, rfl⟩, rfl, min (clock.steady.after wait) plan.due,
    congrArg (RecoveryPhase.waiting _) wake, _, between.1, between.2, rfl⟩

theorem waiting_step {wake : Moment} (follows : retry.Follows plan (n + 1))
    (phase : retry.call.phase = .waiting (plan.course n (n + 1)) (some wake))
    (ahead : retry.clock.steady ≤ wake) :
    (retry.step trials).Follows plan (n + 1) ∧ (retry.step trials).clock.steady = wake ∧
      (retry.step trials).call.phase = .deciding (plan.course (n + 1) (n + 1)) := by
  unfold step
  simp only [phase, Recoveries.wake, follows.unshut, Bool.false_eq_true, ↓reduceIte]
  refine ⟨⟨follows.settings_eq, follows.unshut, follows.tried_eq⟩, Clock.steady_advanceTo ahead, ?_⟩
  unfold take Plan.course
  dsimp only
  rw [follows.settings_eq]
  rfl

/-! ## Rounds -/

/-- A recovery makes an attempt, from the decision to make it to its result.  No time passes before
it begins. -/
structure Tries (plan : Plan) (trials : Nat → Trial) (n : Nat) (ready begun tried : Retry) :
    Prop where
  begun_clock : begun.clock = ready.clock
  phase_eq : begun.call.phase = .attempting (plan.course n (n + 1))
  tried_clock : tried.clock = begun.clock.advance (trials n).time

/-- The attempt fails before the window is over, so the recovery waits and goes on. -/
structure GoesOn (plan : Plan) (trials : Nat → Trial) (n : Nat) (tried woken : Retry) : Prop where
  fails : (trials n).failure ≠ none
  early : tried.clock.steady < plan.due
  waits : tried.Waits plan n woken.clock.steady

/-- The attempt succeeds, or fails when the window is over, and the recovery ends. -/
def Stops (plan : Plan) (trials : Nat → Trial) (n : Nat) (tried : Retry) : Prop :=
  ((trials n).failure = none ∧ tried.call.phase = .ended none) ∨
    ∃ error, (trials n).failure = some error ∧ plan.due ≤ tried.clock.steady ∧
      tried.call.phase = .ended (some (.notRecoverable (.ofNat (n + 1))
        (tried.clock.steady.since plan.started) error))

/-- A recovery is about to decide about an attempt.  As long as the window is open, every wait has
taken the initial backoff at least. -/
structure Ready (plan : Plan) (n : Nat) (retry : Retry) : Prop where
  follows : retry.Follows plan n
  phase_eq : retry.call.phase = .deciding (plan.course n n)
  slow : retry.clock.steady < plan.due →
    plan.started + (n * plan.settings.initialBackoff.nanos : Nat) ≤ retry.clock.steady
  few : n ≤ plan.settings.window.nanos / plan.settings.initialBackoff.nanos + 1

/-- In an open window there is room for one more wait. -/
theorem few_of_early (sound : plan.Sound) (ready : retry.Ready plan n)
    (early : retry.clock.steady < plan.due) :
    n + 1 ≤ plan.settings.window.nanos / plan.settings.initialBackoff.nanos + 1 := by
  have slow := ready.slow early
  have room (started now due : Int) (waited window : Nat) (dueEq : due = started + window)
      (early : now < due) (slow : started + waited ≤ now) : waited ≤ window := by omega
  have short := room _ _ _ _ _ sound.due_eq early slow
  have divided := (Nat.le_div_iff_mul_le sound.checked.initial_pos).2 short
  omega

theorem slow_of_waits (sound : plan.Sound) (ready : retry.Ready plan n) {tried : Retry}
    {wake : Moment} (later : retry.clock.steady ≤ tried.clock.steady)
    (early : tried.clock.steady < plan.due) (waits : tried.Waits plan n wake)
    (open_ : wake < plan.due) :
    plan.started + ((n + 1) * plan.settings.initialBackoff.nanos : Nat) ≤ wake := by
  obtain ⟨wait, least, _, ends⟩ := waits.length
  have slow := ready.slow (Int.lt_of_le_of_lt later early)
  have grown := sound.checked.initial_le_backoff sound.fits n
  have add (started now tried due wake : Int) (waited initial wait : Nat)
      (slow : started + waited ≤ now) (later : now ≤ tried) (least : initial ≤ wait)
      (ends : wake = min (tried + wait) due) (open_ : wake < due) :
      started + ((waited + initial : Nat) : Int) ≤ wake := by omega
  rw [Nat.succ_mul]
  exact add _ _ _ _ _ _ _ _ slow later (Nat.le_trans grown least) ends open_

theorem steady_le_advance (clock : Clock) (time : Nat) :
    clock.steady ≤ (clock.advance time).steady :=
  Int.le_add_of_nonneg_right (Int.natCast_nonneg time)

/-- From one decision a recovery comes to its end or to the next decision. -/
theorem round (sound : plan.Sound) (inRange : plan.settings.InRange (trials n).draw)
    (ready : retry.Ready plan n) :
    Tries plan trials n retry (retry.after trials 1) (retry.after trials 2) ∧
      (Stops plan trials n (retry.after trials 2) ∨
        GoesOn plan trials n (retry.after trials 2) (retry.after trials 3) ∧
          (retry.after trials 3).Ready plan (n + 1)) := by
  obtain ⟨follows, begun, phase⟩ := deciding_step trials ready.follows ready.phase_eq
  simp only [after]
  cases met : (trials n).failure with
  | none =>
      obtain ⟨clock, ended⟩ := attempting_step_of_success trials follows.tried_eq phase met
      exact ⟨⟨begun, phase, clock⟩, Or.inl (Or.inl ⟨met, ended⟩)⟩
  | some error =>
      by_cases late : plan.due ≤ ((retry.step trials).clock.advance (trials n).time).steady
      · obtain ⟨clock, ended⟩ := attempting_step_of_late trials follows.tried_eq phase met late
        refine ⟨⟨begun, phase, clock⟩, Or.inl (Or.inr ⟨error, met, ?_, ?_⟩)⟩
        · rw [clock]
          exact late
        · rw [clock]
          exact ended
      · have early := Int.not_le.1 late
        obtain ⟨followsOn, clock, wake, waits⟩ :=
          attempting_step_of_early trials sound inRange follows phase met early
        rw [← clock] at early
        have later : retry.clock.steady ≤ ((retry.step trials).step trials).clock.steady := by
          rw [clock, begun]
          exact steady_le_advance retry.clock (trials n).time
        have ahead : ((retry.step trials).step trials).clock.steady ≤ wake := by
          obtain ⟨wait, _, _, ends⟩ := waits.length
          have cut (now due wake : Int) (wait : Nat) (early : now < due)
              (ends : wake = min (now + wait) due) : now ≤ wake := by omega
          exact cut _ _ _ _ early ends
        obtain ⟨goesOn, woken, decides⟩ := waiting_step trials followsOn waits.phase_eq ahead
        refine ⟨⟨begun, phase, clock⟩, Or.inr ⟨⟨?_, early, woken ▸ waits⟩, goesOn, decides, ?_, ?_⟩⟩
        · rw [met]
          nofun
        · intro open_
          rw [woken] at open_ ⊢
          exact slow_of_waits sound ready later early waits open_
        · exact few_of_early sound ready (Int.lt_of_le_of_lt later early)

/-! ## The whole recovery -/

/-- A recovery makes some attempts and a last one. -/
structure Rounds (retry : Retry) (plan : Plan) (trials : Nat → Trial) (n : Nat) : Prop where
  tries : ∀ k < n, Tries plan trials k (retry.after trials (3 * k + 1))
    (retry.after trials (3 * k + 2)) (retry.after trials (3 * k + 3))
  goesOn : ∀ k < n, GoesOn plan trials k (retry.after trials (3 * k + 3))
    (retry.after trials (3 * k + 4))

structure Ends (retry : Retry) (plan : Plan) (trials : Nat → Trial) (last : Nat) : Prop where
  few : last + 1 ≤ plan.settings.window.nanos / plan.settings.initialBackoff.nanos + 2
  rounds : retry.Rounds plan trials last
  tries : Tries plan trials last (retry.after trials (3 * last + 1))
    (retry.after trials (3 * last + 2)) (retry.after trials (3 * last + 3))
  stops : Stops plan trials last (retry.after trials (3 * last + 3))
  stays : ∀ n, retry.after trials (3 * last + 3 + n) = retry.after trials (3 * last + 3)

theorem step_of_stops {tried : Retry} (stops : Stops plan trials n tried) :
    tried.step trials = tried := by
  rcases stops with ⟨_, phase⟩ | ⟨error, _, _, phase⟩
  · unfold step
    rw [phase]
  · unfold step
    rw [phase]

/-- After any number of rounds a recovery has ended or is ready for the next one. -/
theorem ends_or_ready (sound : plan.Sound)
    (inRange : ∀ n, plan.settings.InRange (trials n).draw)
    (ready : (retry.after trials 1).Ready plan 0) (n : Nat) :
    (∃ last, retry.Ends plan trials last) ∨
      retry.Rounds plan trials n ∧ (retry.after trials (3 * n + 1)).Ready plan n := by
  induction n with
  | zero => exact Or.inr ⟨⟨nofun, nofun⟩, ready⟩
  | succ n inductionHypothesis =>
      rcases inductionHypothesis with ended | ⟨rounds, ready⟩
      · exact Or.inl ended
      · have next := round trials sound (inRange n) ready
        simp only [← after_add] at next
        obtain ⟨tries, stops | ⟨goesOn, readyAgain⟩⟩ := next
        · have few := ready.few
          refine Or.inl ⟨n, by omega, rounds, tries, stops, fun m => ?_⟩
          rw [after_add]
          exact after_of_step_eq (step_of_stops trials stops) m
        · refine Or.inr ⟨⟨?_, ?_⟩, readyAgain⟩
          · intro k within
            rcases Nat.lt_succ_iff_lt_or_eq.1 within with earlier | rfl
            · exact rounds.tries k earlier
            · exact tries
          · intro k within
            rcases Nat.lt_succ_iff_lt_or_eq.1 within with earlier | rfl
            · exact rounds.goesOn k earlier
            · exact goesOn

/-- A recovery comes to an end, by the schedule of its settings. -/
structure Timely (retry : Retry) (trials : Nat → Trial) : Prop where
  ends : ∃ last, retry.Ends retry.plan trials last
  first : retry.plan.settings.backoff 0 = retry.plan.settings.initialBackoff
  geometric : ∀ m, retry.plan.settings.multiplier.IsInteger m → ∀ n,
    (retry.plan.settings.backoff n).nanos =
      min (retry.plan.settings.initialBackoff.nanos * m ^ n) retry.plan.settings.maxBackoff.nanos

/-- Whatever the attempts of a recovery meet, it ends in time and keeps to its schedule. -/
theorem timely_of_check (cleaning : retry.call.phase = .cleaning)
    (unshut : retry.recoveries.shutdown = false) (untried : retry.tried = 0)
    (passed : retry.recoveries.settings.check = .ok ())
    (fits : retry.recoveries.settings.maxBackoff.nanos ≤ Duration.longest.nanos)
    (representable : (retry.clock.deadline? retry.recoveries.settings.window).isSome)
    (inRange : ∀ n, retry.recoveries.settings.InRange (trials n).draw) :
    retry.Timely trials := by
  have checked := RecoverySettings.checked_of_check passed
  unfold Clock.deadline? at representable
  dsimp only at representable
  split at representable
  next within =>
    have sound : retry.plan.Sound := ⟨checked, fits, rfl, within⟩
    have begun : retry.step trials =
        { retry with call := retry.recoveries.cleaned retry.call retry.clock } := by
      unfold step
      rw [cleaning]
    have deadline : retry.clock.deadline? retry.recoveries.settings.window =
        some retry.plan.due :=
      if_pos within
    have ready : (retry.after trials 1).Ready retry.plan 0 := by
      rw [after, after, begun]
      refine ⟨⟨rfl, unshut, untried⟩, ?_, fun _ => Int.le_of_eq ?_, Nat.zero_le _⟩
      · unfold Recoveries.cleaned Recoveries.course
        rw [deadline]
        rfl
      · rw [Nat.zero_mul]
        exact Int.add_zero _
    refine ⟨?_, rfl, fun m integer n => checked.backoff_of_integer fits integer n⟩
    -- A recovery cannot be ready for more attempts than there is room for.
    rcases ends_or_ready trials sound inRange ready
      (retry.plan.settings.window.nanos / retry.plan.settings.initialBackoff.nanos + 2) with
      ended | ⟨_, readyStill⟩
    · exact ended
    · exact absurd readyStill.few (Nat.not_succ_le_self _)
  next => cases representable

/-- A hub is never reached again, and every attempt takes a second to find that out. -/
theorem timely_of_check_default :
    let retry : Retry := ⟨.new .default, ⟨.producer, .cleaning⟩, ⟨0, 0⟩, 0⟩
    let trials : Nat → Trial := fun _ => ⟨1000000000, some "no route", ⟨1, 10⟩⟩
    retry.call.phase = .cleaning ∧ retry.recoveries.shutdown = false ∧ retry.tried = 0 ∧
      RecoverySettings.default.check = .ok () ∧ retry.Timely trials ∧
        (RecoverySettings.default.backoff 3).nanos = 2700000000 ∧
          (retry.after trials 2).call.phase = .attempting (retry.plan.course 0 1) := by
  intro retry trials
  have passed : RecoverySettings.default.check = .ok () := rfl
  have integer : RecoverySettings.default.multiplier.IsInteger 3 := by decide +kernel
  have timely : retry.Timely trials := timely_of_check trials rfl rfl rfl passed
    (by decide +kernel) (by decide +kernel) fun _ => by decide +kernel
  have schedule : (RecoverySettings.default.backoff 3).nanos =
      min (RecoverySettings.default.initialBackoff.nanos * 3 ^ 3)
        RecoverySettings.default.maxBackoff.nanos := timely.geometric 3 integer 3
  exact ⟨rfl, rfl, rfl, passed, timely, schedule.trans (by decide +kernel),
    by decide +kernel⟩

end Retry
end CacheSync
