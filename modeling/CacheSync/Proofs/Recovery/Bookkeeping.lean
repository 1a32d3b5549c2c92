import CacheSync.Proofs.Recovery.Shares

/-!
# The books of recovery are exact

However the steps of many recoveries come, the numbers that are kept of them are the numbers of the
calls that have come so far, and a call that fails for good tells of all its attempts, as a word of
32 bits counts them.  A call that enters after the shutdown makes no attempt; it is cancelled, and
nothing can keep it from its end.
-/

namespace CacheSync
namespace Rescue

variable {common after : Common} {rescuer moved : Rescuer}

/-! ## What a call tells of itself -/

namespace Stage

/-- Whether the cleanup of a call is over. -/
def isCleaned : Stage → Bool
  | .counted => false
  | .looked _ => false
  | .running .cleaning => false
  | _ => true

def course? : Stage → Option RecoveryCourse
  | .running (.deciding course) => some course
  | .running (.attempting course) => some course
  | .running (.waiting course _) => some course
  | _ => none

/-- Why the run of a call has failed. -/
def failure? : Stage → Option RecoveryError
  | .stopped failure => failure
  | .noted failure => failure
  | .left failure => failure
  | .booked failure => failure
  | .ended failure => failure
  | _ => none

/-- Whether a call can be here that makes no attempt. -/
def isBarred : Stage → Bool
  | .counted => true
  | .looked _ => true
  | .running .cleaning => true
  | .running (.deciding _) => true
  | .running _ => false
  | .stopped failure => failure = some .cancelled
  | .noted failure => failure = some .cancelled
  | .left failure => failure = some .cancelled
  | .booked failure => failure = some .cancelled
  | .ended failure => failure = some .cancelled

end Stage

/-- What a call has done fits how far it has come. -/
structure Rescuer.Fits (rescuer : Rescuer) (shutdown : Bool) : Prop where
  cleanups_eq : rescuer.cleanups = if rescuer.stage.isCleaned then 1 else 0
  unattempted : rescuer.stage.isCleaned = false → rescuer.attempts = 0
  course_eq : ∀ course, rescuer.stage.course? = some course →
    course.attempts = .ofNat rescuer.attempts
  tells : ∀ attempts elapsed error,
    rescuer.stage.failure? = some (.notRecoverable attempts elapsed error) →
      attempts = .ofNat rescuer.attempts ∧ rescuer.lastFailure = some error
  barred : rescuer.late = true →
    shutdown = true ∧ rescuer.attempts = 0 ∧ rescuer.stage.isBarred = true

namespace Rescuer.Fits

variable {shutdown : Bool}

theorem new (side : Side) (shutdown : Bool) :
    Fits ⟨side, .counted, shutdown, 0, 0, none⟩ shutdown :=
  ⟨rfl, fun _ => rfl, nofun, nofun, fun late => ⟨late, rfl, rfl⟩⟩

/-- A stage that says the same of a call fits it as well. -/
theorem setStage (fits : rescuer.Fits shutdown) {stage : Stage}
    (cleaned : stage.isCleaned = rescuer.stage.isCleaned)
    (course : stage.course? = rescuer.stage.course?)
    (failure : stage.failure? = rescuer.stage.failure?)
    (barred : stage.isBarred = rescuer.stage.isBarred) :
    Fits { rescuer with stage := stage } shutdown where
  cleanups_eq := by
    rw [cleaned]
    exact fits.cleanups_eq
  unattempted := by
    rw [cleaned]
    exact fits.unattempted
  course_eq := by
    rw [course]
    exact fits.course_eq
  tells := by
    rw [failure]
    exact fits.tells
  barred := by
    rw [barred]
    exact fits.barred

/-- A run stops, and if it has given up it tells of the last failure. -/
theorem stop (fits : rescuer.Fits shutdown) (cleaned : rescuer.stage.isCleaned = true)
    {failure : Option RecoveryError} {lastFailure : Option String}
    (tells : ∀ attempts elapsed error, failure = some (.notRecoverable attempts elapsed error) →
      attempts = .ofNat rescuer.attempts ∧ lastFailure = some error)
    (barred : rescuer.late = true → failure = some .cancelled) :
    Fits { rescuer with stage := .stopped failure, lastFailure := lastFailure } shutdown where
  cleanups_eq := by
    rw [fits.cleanups_eq, cleaned]
    rfl
  unattempted := nofun
  course_eq := nofun
  tells := tells
  barred late :=
    ⟨(fits.barred late).1, (fits.barred late).2.1, by simp [Stage.isBarred, barred late]⟩

/-- A run goes on. -/
theorem goOn (fits : rescuer.Fits shutdown) (cleaned : rescuer.stage.isCleaned = true)
    {stage : Stage} {course : RecoveryCourse} {lastFailure : Option String}
    (stillCleaned : stage.isCleaned = true) (there : stage.course? = some course)
    (attempts : course.attempts = .ofNat rescuer.attempts) (unfailed : stage.failure? = none)
    (barred : rescuer.late = true → stage.isBarred = true) :
    Fits { rescuer with stage := stage, lastFailure := lastFailure } shutdown where
  cleanups_eq := by
    rw [fits.cleanups_eq, cleaned, stillCleaned]
  unattempted open_ := by
    rw [stillCleaned] at open_
    cases open_
  course_eq found here := by
    rw [there] at here
    cases here
    exact attempts
  tells _ _ _ failed := by
    rw [unfailed] at failed
    cases failed
  barred late := ⟨(fits.barred late).1, (fits.barred late).2.1, barred late⟩

/-- The cleanup is over, and a course without attempts begins. -/
theorem cleanUp (fits : rescuer.Fits shutdown) (open_ : rescuer.stage.isCleaned = false)
    {course : RecoveryCourse} (untried : course.attempts = 0) :
    Fits { rescuer with
      stage := .running (.deciding course)
      cleanups := rescuer.cleanups + 1 } shutdown := by
  have unattempted : rescuer.attempts = 0 := fits.unattempted open_
  refine ⟨?_, nofun, ?_, nofun, fun late => ⟨(fits.barred late).1, unattempted, rfl⟩⟩
  · dsimp only
    rw [fits.cleanups_eq, open_]
    rfl
  · intro next found
    cases found
    dsimp only
    rw [untried, unattempted]
    rfl

/-- The course and the call count one attempt more. -/
theorem attempt (fits : rescuer.Fits false) (cleaned : rescuer.stage.isCleaned = true)
    {course : RecoveryCourse} (there : rescuer.stage.course? = some course) :
    Fits { rescuer with
      stage := .running (.attempting { course with attempts := course.attempts + 1 })
      attempts := rescuer.attempts + 1 } false := by
  refine ⟨?_, nofun, ?_, nofun, fun late => ?_⟩
  · dsimp only
    rw [fits.cleanups_eq, cleaned]
    rfl
  · intro next found
    cases found
    dsimp only
    rw [fits.course_eq course there]
    exact (UInt32.ofNat_add rescuer.attempts 1).symm
  · cases (fits.barred late).1

theorem isBarred_at (fits : rescuer.Fits shutdown) (late : rescuer.late = true) {stage : Stage}
    (here : rescuer.stage = stage) : stage.isBarred = true :=
  here ▸ (fits.barred late).2.2

theorem trigger (fits : rescuer.Fits shutdown) : rescuer.Fits true :=
  { fits with barred := fun late => ⟨rfl, (fits.barred late).2⟩ }

end Rescuer.Fits

theorem Move.fits (move : Move common rescuer after moved)
    (fits : rescuer.Fits common.recoveries.shutdown) :
    moved.Fits common.recoveries.shutdown := by
  cases move with
  | look now here => exact fits.setStage (here ▸ rfl) (here ▸ rfl) (here ▸ rfl) (here ▸ rfl)
  | flag here => exact fits.setStage (here ▸ rfl) (here ▸ rfl) (here ▸ rfl) (here ▸ rfl)
  | noteEnd now here => exact fits.setStage (here ▸ rfl) (here ▸ rfl) (here ▸ rfl) (here ▸ rfl)
  | countOut here => exact fits.setStage (here ▸ rfl) (here ▸ rfl) (here ▸ rfl) (here ▸ rfl)
  | book here => exact fits.setStage (here ▸ rfl) (here ▸ rfl) (here ▸ rfl) (here ▸ rfl)
  | report here => exact fits.setStage (here ▸ rfl) (here ▸ rfl) (here ▸ rfl) (here ▸ rfl)
  | cleanUp failure clock here =>
      exact fits.cleanUp (here ▸ rfl) rfl
  | @decide course step clock here made =>
      subst made
      have cleaned : rescuer.stage.isCleaned = true := here ▸ rfl
      cases shutdown : common.recoveries.shutdown with
      | true =>
          rw [(adopt_decide_of_shutdown _ _ _ shutdown).2]
          rw [shutdown] at fits
          exact fits.stop cleaned nofun fun _ => rfl
      | false =>
          rw [(adopt_decide _ _ _ shutdown).2]
          rw [shutdown] at fits
          exact fits.attempt cleaned (here ▸ rfl)
  | @succeed course step clock here made =>
      subst made
      rw [(adopt_succeed common _ _ _).2]
      exact fits.stop (here ▸ rfl) nofun fun late => nomatch fits.isBarred_at late here
  | @fail course step error draw clock here made =>
      subst made
      have cleaned : rescuer.stage.isCleaned = true := here ▸ rfl
      have counted : course.attempts = .ofNat rescuer.attempts := fits.course_eq course (here ▸ rfl)
      rcases (adopt_fail common rescuer.side course clock error draw).2 with
        ⟨elapsed, stage⟩ | ⟨wake, stage⟩
      · rw [stage]
        refine fits.stop cleaned ?_ fun late => nomatch fits.isBarred_at late here
        intro attempts elapsed text same
        cases same
        exact ⟨counted, rfl⟩
      · rw [stage]
        exact fits.goOn cleaned rfl rfl counted rfl fun late => nomatch fits.isBarred_at late here
  | @wake course wake step clock here may made =>
      subst made
      have cleaned : rescuer.stage.isCleaned = true := here ▸ rfl
      have counted : course.attempts = .ofNat rescuer.attempts := fits.course_eq course (here ▸ rfl)
      rcases (adopt_wake common rescuer.side course clock wake).2 with
        ⟨_, stage⟩ | ⟨backoff, stage⟩
      · rw [stage]
        exact fits.stop cleaned nofun fun _ => rfl
      · rw [stage]
        exact fits.goOn cleaned rfl rfl counted rfl fun _ => rfl

/-- Nothing that is shared has changed, but for the meter. -/
structure Common.Metered (common after : Common) : Prop where
  recoveries_eq : after.recoveries = common.recoveries
  ends_eq : after.ends = common.ends
  latest_eq : after.latest = common.latest

theorem Common.Metered.of_eq (same : after = common) : common.Metered after :=
  same ▸ ⟨rfl, rfl, rfl⟩

theorem metered_decide (common : Common) (side : Side) (course : RecoveryCourse) (clock : Clock) :
    common.Metered
      (common.adopt (common.recoveries.decide ⟨side, .deciding course⟩ course clock)) := by
  cases shutdown : common.recoveries.shutdown with
  | true => exact .of_eq (adopt_decide_of_shutdown _ _ _ shutdown).1
  | false =>
      rw [(adopt_decide _ _ _ shutdown).1]
      exact ⟨rfl, rfl, rfl⟩

/-- What no call changes: the settings, the signal, and the ends noted so far. -/
structure Common.Keeps (common after : Common) : Prop where
  settings_eq : after.recoveries.settings = common.recoveries.settings
  shutdown_eq : after.recoveries.shutdown = common.recoveries.shutdown
  ends_suffix : common.ends <:+ after.ends

theorem Common.Metered.keeps (metered : common.Metered after) : common.Keeps after where
  settings_eq := metered.recoveries_eq ▸ rfl
  shutdown_eq := metered.recoveries_eq ▸ rfl
  ends_suffix := metered.ends_eq ▸ List.suffix_refl _

theorem Move.keeps (move : Move common rescuer after moved) : common.Keeps after := by
  cases move with
  | noteEnd now here => exact ⟨rfl, rfl, List.suffix_cons now common.ends⟩
  | decide clock here made => exact made ▸ (metered_decide _ _ _ _).keeps
  | succeed clock here made =>
      exact made ▸ (Common.Metered.of_eq (adopt_succeed common _ _ _).1).keeps
  | fail error draw clock here made =>
      exact made ▸ (Common.Metered.of_eq (adopt_fail common _ _ _ error draw).1).keeps
  | wake clock here may made =>
      exact made ▸ (Common.Metered.of_eq (adopt_wake common _ _ _ _).1).keeps
  | _ => exact ⟨rfl, rfl, List.suffix_refl _⟩

/-! ## Starvation -/

/-- A call has seen the last of the ends noted before it looked. -/
structure Entry.Seen (entry : Entry) (ends : List Moment) : Prop where
  ended_eq : entry.ended = entry.past.head?
  past_suffix : entry.past <:+ ends

theorem Entry.Seen.cons {entry : Entry} {ends : List Moment} (seen : entry.Seen ends)
    (now : Moment) : entry.Seen (now :: ends) :=
  ⟨seen.ended_eq, seen.past_suffix.trans (List.suffix_cons now ends)⟩

/-- The ledger tells of the last entry whether it was too close to the end before it. -/
structure Common.Watches (common : Common) : Prop where
  lastEnd_eq : common.recoveries.ledger.lastEnd = common.ends.head?
  starved_eq : common.recoveries.ledger.starved = match common.latest with
    | none => false
    | some entry => isClose entry.ended common.recoveries.settings.window entry.now
  latest : ∀ entry, common.latest = some entry → entry.Seen common.ends

def Rescuer.Sees (rescuer : Rescuer) (ends : List Moment) : Prop :=
  ∀ entry, rescuer.stage = .looked entry → entry.Seen ends

theorem Rescuer.Sees.cons {ends : List Moment} (sees : rescuer.Sees ends) (now : Moment) :
    rescuer.Sees (now :: ends) :=
  fun entry here => (sees entry here).cons now

theorem Stage.ofPhase_ne_looked (phase : RecoveryPhase) (entry : Entry) :
    Stage.ofPhase phase ≠ .looked entry := by
  cases phase <;> nofun

theorem Common.Metered.watches (metered : common.Metered after) (watches : common.Watches)
    (elsewhere : ∀ entry, moved.stage ≠ .looked entry) :
    after.Watches ∧ moved.Sees after.ends := by
  obtain ⟨lastEnd, starved, latest⟩ := watches
  constructor
  · constructor
    · rw [metered.recoveries_eq, metered.ends_eq]
      exact lastEnd
    · rw [metered.recoveries_eq, metered.latest_eq]
      exact starved
    · rw [metered.latest_eq, metered.ends_eq]
      exact latest
  · intro entry looked
    exact absurd looked (elsewhere entry)

theorem Move.watches (move : Move common rescuer after moved) (watches : common.Watches)
    (sees : rescuer.Sees common.ends) : after.Watches ∧ moved.Sees after.ends := by
  have whole := watches
  obtain ⟨lastEnd, starved, latest⟩ := watches
  cases move with
  | look now here =>
      refine ⟨whole, fun entry looked => ?_⟩
      cases looked
      exact ⟨lastEnd, List.suffix_refl _⟩
  | @flag entry here =>
      refine ⟨⟨lastEnd, rfl, fun other found => ?_⟩, nofun⟩
      cases found
      exact sees entry here
  | noteEnd now here =>
      exact ⟨⟨rfl, starved, fun entry found => (latest entry found).cons now⟩, nofun⟩
  | countOut here => exact ⟨⟨lastEnd, starved, latest⟩, nofun⟩
  | @book failure here =>
      refine ⟨?_, nofun⟩
      cases failure with
      | none => exact whole
      | some error =>
          cases error with
          | cancelled => exact ⟨lastEnd, starved, latest⟩
          | notRecoverable attempts elapsed text => exact ⟨lastEnd, starved, latest⟩
  | report here => exact ⟨⟨lastEnd, starved, latest⟩, nofun⟩
  | cleanUp failure clock here => exact Common.Metered.watches (.of_eq rfl) whole nofun
  | decide clock here made =>
      exact made ▸ (metered_decide _ _ _ _).watches whole (Stage.ofPhase_ne_looked _)
  | succeed clock here made =>
      exact made ▸ (Common.Metered.of_eq (adopt_succeed common _ _ _).1).watches whole nofun
  | fail error draw clock here made =>
      exact made ▸ (Common.Metered.of_eq (adopt_fail common _ _ _ error draw).1).watches whole
        (Stage.ofPhase_ne_looked _)
  | wake clock here may made =>
      exact made ▸ (Common.Metered.of_eq (adopt_wake common _ _ _ _).1).watches whole
        (Stage.ofPhase_ne_looked _)

/-! ## Late calls come to their end -/

/-- The number of steps to the end, if no attempt is made. -/
def Stage.remaining : Stage → Nat
  | .counted => 8
  | .looked _ => 7
  | .running .cleaning => 6
  | .running _ => 5
  | .stopped _ => 4
  | .noted _ => 3
  | .left _ => 2
  | .booked _ => 1
  | .ended _ => 0

theorem Move.late_eq (move : Move common rescuer after moved) : moved.late = rescuer.late := by
  cases move <;> rfl

/-- Each step takes a late call nearer to its end. -/
theorem Move.nearer (move : Move common rescuer after moved)
    (fits : rescuer.Fits common.recoveries.shutdown) (late : rescuer.late = true) :
    moved.stage.remaining < rescuer.stage.remaining := by
  cases move with
  | @decide course step clock here made =>
      subst made
      rw [(adopt_decide_of_shutdown rescuer.side course clock (fits.barred late).1).2, here]
      exact Nat.lt_succ_self 4
  | succeed clock here made => exact nomatch fits.isBarred_at late here
  | fail error draw clock here made => exact nomatch fits.isBarred_at late here
  | wake clock here may made => exact nomatch fits.isBarred_at late here
  | look now here => simp [here, Stage.remaining]
  | flag here => simp [here, Stage.remaining]
  | cleanUp failure clock here =>
      rw [here]
      exact Nat.lt_succ_self 5
  | noteEnd now here => simp [here, Stage.remaining]
  | countOut here => simp [here, Stage.remaining]
  | book here => simp [here, Stage.remaining]
  | report here => simp [here, Stage.remaining]

/-- A late call that has not ended can go on. -/
theorem exists_move (common : Common) (clock : Clock) {shutdown : Bool}
    (fits : rescuer.Fits shutdown) (late : rescuer.late = true)
    (unended : rescuer.stage.remaining ≠ 0) : ∃ after moved, Move common rescuer after moved := by
  cases here : rescuer.stage with
  | counted => exact ⟨_, _, .look clock.steady here⟩
  | looked entry => exact ⟨_, _, .flag here⟩
  | running phase =>
      cases phase with
      | cleaning => exact ⟨_, _, .cleanUp none clock here⟩
      | deciding course => exact ⟨_, _, .decide clock here rfl⟩
      | attempting course => exact nomatch fits.isBarred_at late here
      | waiting course wake => exact nomatch fits.isBarred_at late here
      | ended failure => exact nomatch fits.isBarred_at late here
  | stopped failure => exact ⟨_, _, .noteEnd clock.steady here⟩
  | noted failure => exact ⟨_, _, .countOut here⟩
  | left failure => exact ⟨_, _, .book here⟩
  | booked failure => exact ⟨_, _, .report here⟩
  | ended failure => simp [here, Stage.remaining] at unended

theorem Rescuer.Fits.cancelled {shutdown : Bool} (fits : rescuer.Fits shutdown)
    (late : rescuer.late = true) {failure : Option RecoveryError}
    (here : rescuer.stage = .ended failure) : failure = some .cancelled :=
  of_decide_eq_true (fits.isBarred_at late here)

theorem Stage.eq_ended_of_remaining {stage : Stage} (none : stage.remaining = 0) :
    ∃ failure, stage = .ended failure := by
  cases stage with
  | ended failure => exact ⟨failure, rfl⟩
  | running phase => cases phase <;> cases none
  | _ => cases none

/-- A late call needs nobody else for its end. -/
theorem run_late (clock : Clock) (before behind : List Rescuer)
    (fits : rescuer.Fits common.recoveries.shutdown) (late : rescuer.late = true) :
    ∃ after moved, Run ⟨common, before ++ rescuer :: behind⟩ ⟨after, before ++ moved :: behind⟩ ∧
      moved.stage = .ended (some .cancelled) ∧ moved.attempts = 0 := by
  -- Every move of a late call lowers the number of its steps that are left.
  induction remaining : rescuer.stage.remaining using Nat.strongRecOn
    generalizing common rescuer with
  | ind remaining inductionHypothesis =>
      subst remaining
      by_cases unended : rescuer.stage.remaining = 0
      · obtain ⟨failure, here⟩ := Stage.eq_ended_of_remaining unended
        refine ⟨common, rescuer, .refl, ?_, (fits.barred late).2.1⟩
        rw [here, fits.cancelled late here]
      · obtain ⟨next, moved, move⟩ := exists_move common clock fits late unended
        have movedFits : moved.Fits next.recoveries.shutdown := by
          rw [move.keeps.shutdown_eq]
          exact move.fits fits
        obtain ⟨after, last, run, ended⟩ := inductionHypothesis _ (move.nearer fits late) movedFits
          (move.late_eq.trans late) rfl
        exact ⟨after, last, .head (.move move) run, ended⟩

/-! ## All calls -/

/-- What holds in every state of a run. -/
structure Kept (settings : RecoverySettings) (rescue : Rescue) : Prop where
  settings_eq : rescue.common.recoveries.settings = settings
  balanced : ∀ count,
    rescue.common.number count = (rescue.rescuers.map (·.share count)).sum
  fits : ∀ rescuer ∈ rescue.rescuers, rescuer.Fits rescue.common.recoveries.shutdown
  watches : rescue.common.Watches
  sees : ∀ rescuer ∈ rescue.rescuers, rescuer.Sees rescue.common.ends

variable {settings : RecoverySettings} {rescue next : Rescue}

theorem kept_new (settings : RecoverySettings) : (new settings).Kept settings where
  settings_eq := rfl
  balanced count := by
    cases count with
    | recovering side => cases side <;> rfl
    | unrecoverable side => cases side <;> rfl
    | _ => rfl
  fits _ member := absurd member List.not_mem_nil
  watches := ⟨rfl, rfl, nofun⟩
  sees _ member := absurd member List.not_mem_nil

theorem Step.kept (step : Step rescue next) (kept : rescue.Kept settings) :
    next.Kept settings := by
  obtain ⟨same, balanced, fits, watches, sees⟩ := kept
  cases step with
  | enter _ side =>
      refine ⟨same, ?_, ?_, ⟨watches.lastEnd_eq, watches.starved_eq, watches.latest⟩, ?_⟩
      · intro count
        rw [number_countIn, balanced, List.map_append, List.sum_append]
        simp [Rescuer.share, Stage.counts]
      · intro rescuer member
        rcases List.mem_append.1 member with early | late
        · exact fits rescuer early
        · rw [List.mem_singleton.1 late]
          exact .new side _
      · intro rescuer member
        rcases List.mem_append.1 member with early | late
        · exact sees rescuer early
        · rw [List.mem_singleton.1 late]
          intro entry looked
          cases looked
  | trigger _ =>
      exact ⟨same, balanced, fun rescuer member => (fits rescuer member).trigger,
        ⟨watches.lastEnd_eq, watches.starved_eq, watches.latest⟩, sees⟩
  | @move common after rescuer moved before behind move =>
      have keeps := move.keeps
      have here : rescuer ∈ before ++ rescuer :: behind := by simp
      have others {other : Rescuer} (member : other ∈ before ++ moved :: behind) :
          other = moved ∨ other ∈ before ++ rescuer :: behind := by
        simp only [List.mem_append, List.mem_cons] at member ⊢
        rcases member with early | same | late
        · exact Or.inr (Or.inl early)
        · exact Or.inl same
        · exact Or.inr (Or.inr (Or.inr late))
      obtain ⟨watchesStill, seesHere⟩ := move.watches watches (sees rescuer here)
      refine ⟨keeps.settings_eq.trans same, ?_, ?_, watchesStill, ?_⟩
      · intro count
        -- The share of the call is a part of the number, so that it can be taken out of it.
        have total := balanced count
        simp only [List.map_append, List.map_cons, List.sum_append, List.sum_cons] at total ⊢
        have moves := move.balance count (by omega)
        omega
      · intro other member
        rw [keeps.shutdown_eq]
        rcases others member with rfl | old
        · exact move.fits (fits rescuer here)
        · exact fits other old
      · intro other member
        rcases others member with rfl | old
        · exact seesHere
        · intro entry looked
          have seen := sees other old entry looked
          exact ⟨seen.ended_eq, seen.past_suffix.trans keeps.ends_suffix⟩

theorem kept_of_run (run : Run (new settings) rescue) : rescue.Kept settings := by
  induction run with
  | refl => exact kept_new settings
  | tail _ step inductionHypothesis => exact step.kept inductionHypothesis

/-- The books are right, and so is what the calls tell. -/
structure Exact (settings : RecoverySettings) (rescue : Rescue) : Prop where
  recovering_eq : ∀ side, rescue.common.recoveries.ledger.recovering.get side =
    rescue.rescuers.countP (·.isInside side)
  /-- Whoever is to be counted out is in the count. -/
  leaves : ∀ rescuer ∈ rescue.rescuers, rescuer.stage.isInside = true →
    0 < rescue.common.recoveries.ledger.recovering.get rescuer.side
  idle : ∀ side, (∀ rescuer ∈ rescue.rescuers, rescuer.isInside side = false) →
    rescue.common.recoveries.ledger.recovering.get side = 0
  unrecoverable_eq : ∀ side, rescue.common.recoveries.ledger.unrecoverable.get side =
    rescue.rescuers.countP (·.isLost side)
  failed_eq : ∀ side, rescue.common.meter.count (.recoveryFailed side) =
    rescue.rescuers.countP (·.hasFailed side)
  /-- If nobody is between the booking and the report, the ledger and the meter agree. -/
  agree : (∀ rescuer ∈ rescue.rescuers, rescuer.stage.booked? = rescuer.stage.returned?) →
    ∀ side, rescue.common.recoveries.ledger.unrecoverable.get side =
      rescue.common.meter.count (.recoveryFailed side)
  interrupted_eq : rescue.common.recoveries.ledger.interrupted =
    rescue.rescuers.countP (·.isInterrupted)
  attempted_eq : ∀ side, rescue.common.meter.count (.recoveryAttempted side) =
    ((rescue.rescuers.filter (·.side = side)).map (·.attempts)).sum
  fits : ∀ rescuer ∈ rescue.rescuers, rescuer.Fits rescue.common.recoveries.shutdown
  late : ∀ rescuer ∈ rescue.rescuers, rescuer.late = true →
    rescuer.attempts = 0 ∧ ∀ failure, rescuer.stage = .ended failure → failure = some .cancelled
  late_nearer : ∀ rescuer ∈ rescue.rescuers, rescuer.late = true →
    ∀ after moved, Move rescue.common rescuer after moved →
      moved.stage.remaining < rescuer.stage.remaining
  late_ends : ∀ before rescuer behind, rescue.rescuers = before ++ rescuer :: behind →
    rescuer.late = true → ∃ after moved, Run rescue ⟨after, before ++ moved :: behind⟩ ∧
      moved.stage = .ended (some .cancelled) ∧ moved.attempts = 0
  seen : ∀ entry, rescue.common.latest = some entry → entry.Seen rescue.common.ends
  starved_iff : rescue.common.recoveries.ledger.starved = true ↔
    ∃ entry ended, rescue.common.latest = some entry ∧ entry.past.head? = some ended ∧
      (entry.now.since ended).nanos < settings.window.nanos
  /-- An entry as a whole may come next, and so may the conclusion of a call that has stopped. -/
  enters : ∀ side clock, ∃ after,
    after.recoveries = (rescue.common.recoveries.enter side clock).1 ∧
      Run rescue ⟨after, rescue.rescuers ++
        [⟨side, .running (rescue.common.recoveries.enter side clock).2.phase,
          rescue.common.recoveries.shutdown, 0, 0, none⟩]⟩
  concludes : ∀ before rescuer behind failure, rescue.rescuers = before ++ rescuer :: behind →
    rescuer.stage = .stopped failure → ∀ phase clock concluded,
      rescue.common.recoveries.conclude ⟨rescuer.side, phase⟩ failure clock = concluded →
        ∃ after, after.recoveries = concluded.recoveries ∧
          after.meter = rescue.common.meter.markAll concluded.marks ∧
            Run rescue ⟨after, before ++ { rescuer with stage := .ended failure } :: behind⟩

namespace Kept

theorem number_eq (kept : rescue.Kept settings) (count : Count)
    (other : ∀ side, count ≠ .attempted side) :
    rescue.common.number count = rescue.rescuers.countP (·.raises count) :=
  (kept.balanced count).trans (Rescuer.sum_shares _ other)

theorem recovering_eq (kept : rescue.Kept settings) (side : Side) :
    rescue.common.recoveries.ledger.recovering.get side =
      rescue.rescuers.countP (·.isInside side) :=
  kept.number_eq (.recovering side) nofun

theorem unrecoverable_eq (kept : rescue.Kept settings) (side : Side) :
    rescue.common.recoveries.ledger.unrecoverable.get side =
      rescue.rescuers.countP (·.isLost side) :=
  kept.number_eq (.unrecoverable side) nofun

theorem failed_eq (kept : rescue.Kept settings) (side : Side) :
    rescue.common.meter.count (.recoveryFailed side) =
      rescue.rescuers.countP (·.hasFailed side) :=
  kept.number_eq (.failed side) nofun

theorem starved_iff (kept : rescue.Kept settings) :
    rescue.common.recoveries.ledger.starved = true ↔
      ∃ entry ended, rescue.common.latest = some entry ∧ entry.past.head? = some ended ∧
        (entry.now.since ended).nanos < settings.window.nanos := by
  obtain ⟨_, starved, seen⟩ := kept.watches
  rw [starved, kept.settings_eq]
  cases latest : rescue.common.latest with
  | none => simp
  | some entry =>
      have ended := (seen entry latest).ended_eq
      simp only [ended, Option.some.injEq, exists_and_left, exists_eq_left']
      cases entry.past.head? with
      | none => simp [isClose]
      | some last => simp [isClose]

theorem toExact (kept : rescue.Kept settings) : rescue.Exact settings where
  recovering_eq := kept.recovering_eq
  leaves rescuer member inside := by
    rw [kept.recovering_eq, List.countP_pos_iff]
    exact ⟨rescuer, member, by simp [Rescuer.isInside, inside]⟩
  idle side outside := by
    rw [kept.recovering_eq, List.countP_eq_zero]
    intro rescuer member
    simp [outside rescuer member]
  unrecoverable_eq := kept.unrecoverable_eq
  failed_eq := kept.failed_eq
  agree between side := by
    rw [kept.unrecoverable_eq, kept.failed_eq]
    refine List.countP_congr fun rescuer member => ?_
    rw [Rescuer.isLost, Rescuer.hasFailed, between rescuer member]
  interrupted_eq := kept.number_eq .interrupted nofun
  attempted_eq side :=
    (kept.balanced (.attempted side)).trans (Rescuer.sum_shares_attempted _ side)
  fits := kept.fits
  late rescuer member late := by
    have fits := kept.fits rescuer member
    exact ⟨(fits.barred late).2.1, fun failure => fits.cancelled late⟩
  late_nearer rescuer member late after moved move := move.nearer (kept.fits rescuer member) late
  late_ends before rescuer behind same late := by
    obtain ⟨common, rescuers⟩ := rescue
    cases same
    exact run_late ⟨0, 0⟩ before behind (kept.fits rescuer (by simp)) late
  seen := kept.watches.latest
  starved_iff := kept.starved_iff
  enters side clock := ⟨_, rfl, run_enter rescue side clock⟩
  concludes before rescuer behind failure same here phase clock concluded made := by
    obtain ⟨common, rescuers⟩ := rescue
    cases same
    subst made
    exact ⟨_, rfl, rfl, run_conclude before behind phase clock here⟩

end Kept

/-- The books of recovery are exact, however the steps of the calls come. -/
theorem exact_of_run (run : Run (new settings) rescue) : rescue.Exact settings :=
  (kept_of_run run).toExact

/-- A producer tries as the node shuts down, and then a consumer enters. -/
theorem exact_of_run_late :
    ∃ rescue, Run (new .default) rescue ∧ rescue.common.recoveries.shutdown = true ∧
      rescue.rescuers.map (·.late) = [false, true] ∧
        rescue.rescuers.map (·.attempts) = [1, 0] ∧ rescue.Exact .default := by
  have entered := run_enter (new .default) .producer ⟨0, 0⟩
  have cleaned := entered.tail (.move (.cleanUp none ⟨0, 0⟩ rfl))
  have trying := cleaned.tail (.move (.decide ⟨0, 0⟩ rfl rfl))
  have late := (trying.tail (.trigger _)).tail (.enter _ .consumer)
  exact ⟨_, late, rfl, rfl, rfl, exact_of_run late⟩

/-! ## A count that starts again -/

/-- Waits of one nanosecond, for as many nanoseconds as a word of 32 bits can tell. -/
def hasty : RecoverySettings where
  initialBackoff := ⟨1⟩
  multiplier := .ofNat 1
  maxBackoff := ⟨1⟩
  window := ⟨4294967295⟩
  jitter := .zero false

/-- The course of a hasty recovery that began at zero, after so many attempts. -/
def hastyCourse (attempts : Nat) : RecoveryCourse :=
  ⟨0, some 4294967295, ⟨1⟩, .ofNat attempts⟩

/-- The readings of the clocks so many nanoseconds after the beginning. -/
def nanosIn (n : Nat) : Clock :=
  ⟨n, n⟩

/-- A single hasty call whose attempts take no time has failed once in every nanosecond so far. -/
structure Hurries (n : Nat) (common : Common) (rescuer : Rescuer) : Prop where
  run : Run (new hasty) ⟨common, [rescuer]⟩
  settings_eq : common.recoveries.settings = hasty
  unshut : common.recoveries.shutdown = false
  stage_eq : rescuer.stage = .running (.deciding (hastyCourse n))
  attempts_eq : rescuer.attempts = n

theorem hurries_zero : ∃ common rescuer, Hurries 0 common rescuer := by
  have entered := run_enter (new hasty) .producer (nanosIn 0)
  have cleaned := entered.tail (.move (.cleanUp none (nanosIn 0) rfl))
  exact ⟨_, _, cleaned, rfl, rfl, rfl, rfl⟩

theorem Step.move_alone (move : Move common rescuer after moved) :
    Step ⟨common, [rescuer]⟩ ⟨after, [moved]⟩ :=
  @Step.move _ _ _ _ [] [] move

/-- A hasty call begins its next attempt. -/
theorem Hurries.attempt {n : Nat} (hurries : Hurries n common rescuer) :
    ∃ after moved, Run (new hasty) ⟨after, [moved]⟩ ∧ after.recoveries.settings = hasty ∧
      after.recoveries.shutdown = false ∧
        moved.stage = .running (.attempting (hastyCourse (n + 1))) ∧ moved.attempts = n + 1 := by
  obtain ⟨run, settings, unshut, stage, attempts⟩ := hurries
  have move : Move common rescuer _ _ := .decide (nanosIn n) stage rfl
  refine ⟨_, _, run.tail (.move_alone move), move.keeps.settings_eq.trans settings,
    move.keeps.shutdown_eq.trans unshut, ?_, ?_⟩
  · dsimp only
    rw [(adopt_decide rescuer.side (hastyCourse n) (nanosIn n) unshut).2]
    unfold hastyCourse
    rw [UInt32.ofNat_add]
    rfl
  · dsimp only
    rw [unshut, attempts]
    rfl

/-- A hasty call that fails within the window waits for the next nanosecond. -/
theorem fail_hasty {recoveries : Recoveries} (settings : recoveries.settings = hasty)
    (call : RecoveryCall) (attempts : Nat) (error : String) (draw : Binary64.Ratio) {n : Nat}
    (early : n < 4294967295) :
    recoveries.fail call (hastyCourse attempts) error draw (nanosIn n) =
      ⟨recoveries, { call with
        phase := .waiting (hastyCourse attempts) (some (nanosIn (n + 1)).steady) }, []⟩ := by
  have open_ : Recoveries.windowPassed (hastyCourse attempts) (nanosIn n) = false :=
    decide_eq_false (by change ¬(4294967295 : Int) ≤ n; omega)
  have cut : min 1 ((4294967295 : Int) - n).toNat = 1 := by omega
  have whole : hasty.jittered draw ⟨1⟩ = ⟨1⟩ := rfl
  have wait : recoveries.waitFor (hastyCourse attempts) draw (nanosIn n) = ⟨1⟩ := by
    simp only [Recoveries.waitFor, hastyCourse, settings, whole, Duration.shorter, Moment.since,
      nanosIn, cut]
  have near : (n : Int) + (1 : Nat) < (9223372036854775807 + 1) * (1000000000 : Nat) := by omega
  have within : (nanosIn n).steady.after ⟨1⟩ < (Word.greatest + 1) * Duration.nanosPerSecond :=
    near
  have wake : (nanosIn n).deadline? ⟨1⟩ = some (nanosIn (n + 1)).steady := by
    unfold Clock.deadline?
    dsimp only
    rw [if_pos within]
    rfl
  unfold Recoveries.fail
  rw [open_, wait, wake]
  rfl

/-- Every nanosecond of the window sees a failure more. -/
theorem Hurries.succ {n : Nat} (hurries : Hurries n common rescuer) (early : n < 4294967295) :
    ∃ after moved, Hurries (n + 1) after moved := by
  obtain ⟨trying, tried, run, settings, unshut, stage, attempts⟩ := hurries.attempt
  have failing : Move trying tried _ _ := .fail "no route" ⟨0, 1⟩ (nanosIn n) stage rfl
  have still := failing.keeps
  rw [fail_hasty settings _ _ _ _ early] at failing still
  have waited := run.tail (.move_alone failing)
  have due : Recoveries.mayWake trying.recoveries (some (nanosIn (n + 1)).steady)
      (nanosIn (n + 1)) = true := by
    simp [Recoveries.mayWake]
  have waking : Move trying { tried with
      stage := .running (.waiting (hastyCourse (n + 1)) (some (nanosIn (n + 1)).steady))
      lastFailure := some "no route" } _ _ := .wake (nanosIn (n + 1)) rfl due rfl
  refine ⟨_, _, waited.tail (.move_alone waking), waking.keeps.settings_eq.trans settings,
    waking.keeps.shutdown_eq.trans unshut, ?_, attempts⟩
  have steady : hasty.nextBackoff ⟨1⟩ = ⟨1⟩ := by decide +kernel
  simp only [Recoveries.wake, unshut, settings, hastyCourse, steady, Bool.false_eq_true,
    ↓reduceIte]
  rfl

theorem exists_hurries (n : Nat) (within : n ≤ 4294967295) :
    ∃ common rescuer, Hurries n common rescuer := by
  induction n with
  | zero => exact hurries_zero
  | succ n inductionHypothesis =>
      obtain ⟨common, rescuer, hurries⟩ := inductionHypothesis (Nat.le_of_succ_le within)
      exact hurries.succ within

/-- When the window of a hasty recovery has passed, a failure ends it. -/
theorem fail_hasty_of_late (recoveries : Recoveries) (call : RecoveryCall) (attempts : Nat)
    (error : String) (draw : Binary64.Ratio) :
    (recoveries.fail call (hastyCourse attempts) error draw (nanosIn 4294967295)).call.phase =
      .ended (some (.notRecoverable (.ofNat attempts) ⟨4294967295⟩ error)) :=
  rfl

/-- A call that makes as many attempts as a word of 32 bits has values tells of none of them. -/
theorem tells_of_no_attempt_after_overflow :
    hasty.check = .ok () ∧ ∃ rescue rescuer elapsed, Run (new hasty) rescue ∧
      rescue.rescuers = [rescuer] ∧ rescuer.attempts = 4294967296 ∧
        rescuer.stage = .ended (some (.notRecoverable 0 elapsed "no route")) := by
  obtain ⟨common, rescuer, hurries⟩ := exists_hurries 4294967295 (Nat.le_refl _)
  obtain ⟨trying, tried, run, settings, unshut, stage, attempts⟩ := hurries.attempt
  have failing : Move trying tried _ _ := .fail "no route" ⟨0, 1⟩ (nanosIn 4294967295) stage rfl
  rw [fail_hasty_of_late] at failing
  have stopped := run.tail (.move_alone failing)
  have ended := stopped.trans (run_conclude [] [] .cleaning (nanosIn 4294967295) rfl)
  exact ⟨by decide +kernel, _, _, _, ended, rfl, attempts, rfl⟩

end Rescue
end CacheSync
