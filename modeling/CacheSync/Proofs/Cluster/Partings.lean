import CacheSync.Cluster.Scene
import CacheSync.Proofs.Cluster.Losses
import CacheSync.Proofs.Ring.Stripes

/-!
# Partings of workers

A worker that is to end does not do so at once.  Its handler returns with a verdict; then a crash is
counted, a failure is reported, the stripe is closed, and only then does the worker end.  A
`Parting` is how far it has come, and while it is under way the failure is counted in part only.

A `Sight` is what there is to see of a striped producer and of the partings of its workers.  All
that changes it are the `Motion`s, and after any of them the failures counted are those of the
workers that have ended and those that the partings under way have counted so far.
-/

namespace CacheSync

/-! ## Failures -/

namespace Worker

variable {ω : Type}

def hasGivenUp : Worker ω → Bool
  | .ended .gaveUp => true
  | _ => false

/-- Whether a worker gave up or crashed. -/
def hasFailed : Worker ω → Bool
  | .ended why => why.isFailure
  | _ => false

/-- A worker that failed has either given up or crashed. -/
theorem countP_hasFailed (roster : List (Worker ω)) :
    roster.countP hasFailed = roster.countP hasGivenUp + roster.countP hasCrashed := by
  induction roster with
  | nil => rfl
  | cons worker rest inductionHypothesis =>
      simp only [List.countP_cons, inductionHypothesis]
      cases worker with
      | idle => rfl
      | busy work => rfl
      | ended why =>
          cases why <;> simp only [hasFailed, Ending.isFailure, hasGivenUp, hasCrashed] <;> grind

end Worker

theorem set_of_getElem? {β : Type} {list : List β} {place : Nat} {old : β}
    (found : list[place]? = some old) : list.set place old = list := by
  obtain ⟨inRange, rfl⟩ := List.getElem?_eq_some_iff.1 found
  exact List.set_getElem_self inRange

/-! ## Partings -/

namespace Parting

/-- Whether a worker has given up and not ended yet. -/
def givesUp : Option Parting → Bool
  | some ⟨.gaveUp, _⟩ => true
  | _ => false

/-- Whether a worker is counted among those that crashed and has not ended yet. -/
def isCounted : Option Parting → Bool
  | some ⟨.crashed, .counted⟩ => true
  | some ⟨.crashed, .reported⟩ => true
  | some ⟨.crashed, .shut⟩ => true
  | _ => false

/-- Whether a worker is reported to have failed and has not ended yet. -/
def isReported : Option Parting → Bool
  | some ⟨why, .reported⟩ => why.isFailure
  | some ⟨why, .shut⟩ => why.isFailure
  | _ => false

end Parting

/-- What there is to see of a striped producer: its standing, the parting of the worker of each
stripe, how many workers are counted as crashed, and the call that stopped it first. -/
structure Sight where
  standing : Standing
  partings : List (Option Parting)
  failed : Nat
  stopper : Option Nat

namespace Sight

def setWorker (sight : Sight) (stripe : Nat) (worker : Worker Sending) : Sight :=
  { sight with
    standing := { sight.standing with roster := sight.standing.roster.set stripe worker } }

def setParting (sight : Sight) (stripe : Nat) (parting : Option Parting) : Sight :=
  { sight with partings := sight.partings.set stripe parting }

/-- The worker of a stripe is inside its handler. -/
structure IsInside (sight : Sight) (stripe : Nat) (sending : Sending) : Prop where
  busy : sight.standing.roster[stripe]? = some (.busy sending)
  stays : sight.partings[stripe]? = some none

/-- What happens to a striped producer. -/
inductive Motion (sight : Sight) : Sight → Prop where
  | rest : Motion sight sight
  /-- A call stops it. -/
  | halt (ticket : Nat) :
      Motion sight { sight with
        standing := { sight.standing with pipeline := .taken }
        stopper := sight.stopper.or (some ticket) }
  | take {stripe : Nat} {sending : Sending}
      (idle : sight.standing.roster[stripe]? = some .idle) (own : sending.IsProducers) :
      Motion sight (sight.setWorker stripe (.busy sending))
  | retire {stripe : Nat} (idle : sight.standing.roster[stripe]? = some .idle) :
      Motion sight (sight.setWorker stripe (.ended .closed))
  | handle {stripe : Nat} {sending later : Sending} {standing : Standing}
      (inside : sight.IsInside stripe sending) (loses : sight.standing.Loses 0 standing)
      (own : later.IsProducers) :
      Motion sight ({ sight with standing := standing }.setWorker stripe (.busy later))
  | goOn {stripe : Nat} {sending : Sending} {standing : Standing}
      (inside : sight.IsInside stripe sending) (loses : sight.standing.Loses 0 standing) :
      Motion sight ({ sight with standing := standing }.setWorker stripe .idle)
  /-- The handler returns, and the worker is to end. -/
  | depart {stripe : Nat} {sending : Sending} {standing : Standing} {why : Ending}
      (inside : sight.IsInside stripe sending)
      (loses : sight.standing.Loses (if why = .gaveUp then 1 else 0) standing) :
      Motion sight ({ sight with standing := standing }.setParting stripe (some ⟨why, .returned⟩))
  | count {stripe : Nat} {why : Ending}
      (held : sight.partings[stripe]? = some (some ⟨why, .returned⟩)) :
      Motion sight ({ sight with
        failed := sight.failed + if why = Ending.crashed then 1 else 0 }.setParting stripe
          (some ⟨why, .counted⟩))
  | report {stripe : Nat} {why : Ending}
      (held : sight.partings[stripe]? = some (some ⟨why, .counted⟩)) :
      Motion sight ({ sight with
        standing := { sight.standing with
          reported := sight.standing.reported + if why.isFailure then 1 else 0 } }.setParting stripe
            (some ⟨why, .reported⟩))
  | shut {stripe : Nat} {why : Ending}
      (held : sight.partings[stripe]? = some (some ⟨why, .reported⟩)) :
      Motion sight (sight.setParting stripe (some ⟨why, .shut⟩))
  | leave {stripe : Nat} {why : Ending}
      (held : sight.partings[stripe]? = some (some ⟨why, .shut⟩)) :
      Motion sight ((sight.setParting stripe none).setWorker stripe (.ended why))

variable {sight later : Sight} {stripes stripe : Nat}

theorem IsInside.of_loses {lost : Nat} {sending : Sending} (inside : sight.IsInside stripe sending)
    {standing : Standing} (loses : sight.standing.Loses lost standing) :
    ({ sight with standing := standing } : Sight).IsInside stripe sending :=
  ⟨(congrArg (fun roster => roster[stripe]?) loses.roster_eq).trans inside.busy, inside.stays⟩

/-! ## Who is where -/

/-- Each stripe has a worker, and one that is to end is busy until it does. -/
structure Placed (stripes : Nat) (sight : Sight) : Prop where
  roster_length : sight.standing.roster.length = stripes
  partings_length : sight.partings.length = stripes
  busy : ∀ (stripe : Nat) (parting : Parting), sight.partings[stripe]? = some (some parting) →
    ∃ sending, sight.standing.roster[stripe]? = some (Worker.busy sending)
  own : ∀ (stripe : Nat) (sending : Sending),
    sight.standing.roster[stripe]? = some (Worker.busy sending) →
    sending.IsProducers

namespace Placed

/-- Whoever is where, failures may be counted and the channel may be used. -/
theorem of_roster (placed : sight.Placed stripes) (same : later.partings = sight.partings)
    (roster_eq : later.standing.roster = sight.standing.roster) : later.Placed stripes where
  roster_length := (congrArg List.length roster_eq).trans placed.roster_length
  partings_length := (congrArg List.length same).trans placed.partings_length
  busy stripe parting held := by
    rw [roster_eq]
    exact placed.busy stripe parting (same ▸ held)
  own stripe sending held := placed.own stripe sending (roster_eq ▸ held)

theorem setWorker (placed : sight.Placed stripes) {worker : Worker Sending}
    (stays : sight.partings[stripe]? = some none)
    (own : ∀ sending, worker = .busy sending → sending.IsProducers) :
    (sight.setWorker stripe worker).Placed stripes where
  roster_length := List.length_set.trans placed.roster_length
  partings_length := placed.partings_length
  busy other parting held := by
    have different : stripe ≠ other := by
      rintro rfl
      have same := stays.symm.trans held
      cases same
    obtain ⟨sending, busy⟩ := placed.busy other parting held
    exact ⟨sending, (List.getElem?_set_ne different).trans busy⟩
  own other sending held := by
    simp only [Sight.setWorker, List.getElem?_set] at held
    split at held
    · split at held
      · exact own sending (Option.some.inj held)
      · cases held
    · exact placed.own other sending held

theorem setParting (placed : sight.Placed stripes) {parting : Option Parting}
    (busy : parting ≠ none →
      ∃ sending, sight.standing.roster[stripe]? = some (Worker.busy sending)) :
    (sight.setParting stripe parting).Placed stripes where
  roster_length := placed.roster_length
  partings_length := List.length_set.trans placed.partings_length
  busy other others held := by
    simp only [Sight.setParting, List.getElem?_set] at held
    split at held
    next same =>
      split at held
      · exact same ▸ busy (by simp [Option.some.inj held])
      · cases held
    · exact placed.busy other others held
  own := placed.own

/-- A worker that is not busy is not to end. -/
theorem stays (placed : sight.Placed stripes) {worker : Worker Sending}
    (found : sight.standing.roster[stripe]? = some worker) (calm : worker.isBusy = false) :
    sight.partings[stripe]? = some none := by
  have inRange : stripe < sight.partings.length := by
    rw [placed.partings_length, ← placed.roster_length]
    exact (List.getElem?_eq_some_iff.1 found).1
  rw [List.getElem?_eq_getElem inRange]
  cases held : sight.partings[stripe] with
  | none => rfl
  | some parting =>
      obtain ⟨sending, busy⟩ :=
        placed.busy stripe parting (List.getElem?_eq_some_iff.2 ⟨inRange, held⟩)
      obtain rfl := Option.some.inj (found.symm.trans busy)
      cases calm

end Placed

theorem Motion.placed (motion : sight.Motion later) (placed : sight.Placed stripes) :
    later.Placed stripes := by
  cases motion with
  | rest => exact placed
  | halt ticket => exact placed.of_roster rfl rfl
  | take idle own => exact placed.setWorker (placed.stays idle rfl) (by rintro _ ⟨⟩; exact own)
  | retire idle => exact placed.setWorker (placed.stays idle rfl) (by rintro _ ⟨⟩)
  | @handle stripe sending further standing inside loses own =>
      have stood : ({ sight with standing := standing } : Sight).Placed stripes :=
        placed.of_roster rfl loses.roster_eq
      exact stood.setWorker (inside.of_loses loses).stays (by rintro _ ⟨⟩; exact own)
  | @goOn stripe sending standing inside loses =>
      have stood : ({ sight with standing := standing } : Sight).Placed stripes :=
        placed.of_roster rfl loses.roster_eq
      exact stood.setWorker (inside.of_loses loses).stays (by rintro _ ⟨⟩)
  | @depart stripe sending standing why inside loses =>
      have stood : ({ sight with standing := standing } : Sight).Placed stripes :=
        placed.of_roster rfl loses.roster_eq
      exact stood.setParting fun _ => ⟨sending, (inside.of_loses loses).busy⟩
  | @count stripe why held =>
      have counted : (sight.setParting stripe (some ⟨why, .counted⟩)).Placed stripes :=
        placed.setParting fun _ => placed.busy stripe _ held
      exact counted.of_roster rfl rfl
  | @report stripe why held =>
      have reported : (sight.setParting stripe (some ⟨why, .reported⟩)).Placed stripes :=
        placed.setParting fun _ => placed.busy stripe _ held
      exact reported.of_roster rfl rfl
  | shut held => exact placed.setParting fun _ => placed.busy _ _ held
  | @leave stripe why held =>
      have left : (sight.setParting stripe none).Placed stripes :=
        placed.setParting fun some => absurd rfl some
      obtain ⟨inRange, _⟩ := List.getElem?_eq_some_iff.1 held
      exact left.setWorker (List.getElem?_set_self inRange) (by rintro _ ⟨⟩)

/-! ## What is counted -/

/-- What a stripe has added to the recoveries that failed for good. -/
def lossesAt (worker : Worker Sending) (parting : Option Parting) : Nat :=
  (if worker.hasGivenUp then 1 else 0) + if Parting.givesUp parting then 1 else 0

/-- What a stripe has added to the workers counted as crashed. -/
def crashesAt (worker : Worker Sending) (parting : Option Parting) : Nat :=
  (if worker.hasCrashed then 1 else 0) + if Parting.isCounted parting then 1 else 0

/-- What a stripe has added to the failures reported. -/
def reportsAt (worker : Worker Sending) (parting : Option Parting) : Nat :=
  (if worker.hasFailed then 1 else 0) + if Parting.isReported parting then 1 else 0

/-- The failures counted are those of the workers that have ended, and what the partings under way
have counted so far. -/
structure Tolled (sight : Sight) : Prop where
  unrecoverable_eq : sight.standing.unrecoverable =
    sight.standing.roster.countP Worker.hasGivenUp + sight.partings.countP Parting.givesUp
  failed_eq : sight.failed =
    sight.standing.roster.countP Worker.hasCrashed + sight.partings.countP Parting.isCounted
  reported_eq : sight.standing.reported =
    sight.standing.roster.countP Worker.hasFailed + sight.partings.countP Parting.isReported

namespace Tolled

variable {old worker : Worker Sending} {here parting : Option Parting}

/-- What changes at one stripe must be counted there. -/
theorem change (tolled : sight.Tolled) (found : sight.standing.roster[stripe]? = some old)
    (held : sight.partings[stripe]? = some here)
    (roster_eq : later.standing.roster = sight.standing.roster.set stripe worker)
    (partings_eq : later.partings = sight.partings.set stripe parting)
    (losses : later.standing.unrecoverable + lossesAt old here =
      sight.standing.unrecoverable + lossesAt worker parting)
    (crashes : later.failed + crashesAt old here = sight.failed + crashesAt worker parting)
    (reports : later.standing.reported + reportsAt old here =
      sight.standing.reported + reportsAt worker parting) : later.Tolled := by
  obtain ⟨unrecoverable_eq, failed_eq, reported_eq⟩ := tolled
  have workers (counts : Worker Sending → Bool) := countP_set_add counts found worker
  have partings (counts : Option Parting → Bool) := countP_set_add counts held parting
  refine ⟨?_, ?_, ?_⟩
  · have ended := workers Worker.hasGivenUp
    have leaving := partings Parting.givesUp
    rw [roster_eq, partings_eq]
    unfold lossesAt at losses
    omega
  · have ended := workers Worker.hasCrashed
    have leaving := partings Parting.isCounted
    rw [roster_eq, partings_eq]
    unfold crashesAt at crashes
    omega
  · have ended := workers Worker.hasFailed
    have leaving := partings Parting.isReported
    rw [roster_eq, partings_eq]
    unfold reportsAt at reports
    omega

/-- A leg of a parting is counted where it is gone. -/
theorem leg (tolled : sight.Tolled) {sending : Sending}
    (found : sight.standing.roster[stripe]? = some (.busy sending))
    (held : sight.partings[stripe]? = some here)
    (roster_eq : later.standing.roster = sight.standing.roster)
    (partings_eq : later.partings = sight.partings.set stripe parting)
    (losses : later.standing.unrecoverable + lossesAt (.busy sending) here =
      sight.standing.unrecoverable + lossesAt (.busy sending) parting)
    (crashes : later.failed + crashesAt (.busy sending) here =
      sight.failed + crashesAt (.busy sending) parting)
    (reports : later.standing.reported + reportsAt (.busy sending) here =
      sight.standing.reported + reportsAt (.busy sending) parting) : later.Tolled :=
  tolled.change found held (roster_eq.trans (set_of_getElem? found).symm) partings_eq losses
    crashes reports

/-- A worker that is not about to end may begin, go on or stop to work. -/
theorem setWorker (tolled : sight.Tolled) (found : sight.standing.roster[stripe]? = some old)
    (stays : sight.partings[stripe]? = some none)
    (losses : lossesAt worker none = lossesAt old none)
    (crashes : crashesAt worker none = crashesAt old none)
    (reports : reportsAt worker none = reportsAt old none) :
    (sight.setWorker stripe worker).Tolled :=
  tolled.change found stays rfl (set_of_getElem? stays).symm (congrArg _ losses.symm)
    (congrArg _ crashes.symm) (congrArg _ reports.symm)

theorem of_loses (tolled : sight.Tolled) {standing : Standing}
    (loses : sight.standing.Loses 0 standing) :
    ({ sight with standing := standing } : Sight).Tolled := by
  obtain ⟨unrecoverable_eq, failed_eq, reported_eq⟩ := tolled
  rw [← loses.roster_eq] at unrecoverable_eq failed_eq reported_eq
  exact ⟨loses.unrecoverable_eq.trans unrecoverable_eq, failed_eq,
    loses.reported_eq.trans reported_eq⟩

end Tolled

/-- Each leg of a parting counts what it says it does. -/
theorem Motion.tolled (motion : sight.Motion later) (placed : sight.Placed stripes)
    (tolled : sight.Tolled) : later.Tolled := by
  cases motion with
  | rest => exact tolled
  | halt ticket => exact ⟨tolled.unrecoverable_eq, tolled.failed_eq, tolled.reported_eq⟩
  | take idle own => exact tolled.setWorker idle (placed.stays idle rfl) rfl rfl rfl
  | retire idle => exact tolled.setWorker idle (placed.stays idle rfl) rfl rfl rfl
  | handle inside loses own =>
      have still := inside.of_loses loses
      exact (tolled.of_loses loses).setWorker still.busy still.stays rfl rfl rfl
  | goOn inside loses =>
      have still := inside.of_loses loses
      exact (tolled.of_loses loses).setWorker still.busy still.stays rfl rfl rfl
  | @depart stripe sending standing why inside loses =>
      refine tolled.leg inside.busy inside.stays loses.roster_eq rfl ?_ ?_ ?_
      · simp only [setParting, loses.unrecoverable_eq]
        cases why <;> rfl
      · cases why <;> rfl
      · simp only [setParting, loses.reported_eq]
        cases why <;> rfl
  | @count stripe why held =>
      obtain ⟨sending, busy⟩ := placed.busy stripe _ held
      refine tolled.leg busy held rfl rfl ?_ ?_ ?_
      all_goals cases why <;> rfl
  | @report stripe why held =>
      obtain ⟨sending, busy⟩ := placed.busy stripe _ held
      refine tolled.leg busy held rfl rfl ?_ ?_ ?_
      all_goals cases why <;> rfl
  | @shut stripe why held =>
      obtain ⟨sending, busy⟩ := placed.busy stripe _ held
      refine tolled.leg busy held rfl rfl ?_ ?_ ?_
      all_goals cases why <;> rfl
  | @leave stripe why held =>
      obtain ⟨sending, busy⟩ := placed.busy stripe _ held
      refine tolled.change busy held rfl rfl ?_ ?_ ?_
      all_goals cases why <;> rfl

/-! ## What is kept -/

/-- What is kept of a producer with so many stripes. -/
structure Regular (stripes threshold : Nat) (sight : Sight) : Prop where
  placed : sight.Placed stripes
  tolled : sight.Tolled
  unstopped : sight.stopper = none → sight.standing.pipeline = .running
  threshold_eq : sight.standing.threshold = threshold

theorem Motion.regular {threshold : Nat} (motion : sight.Motion later)
    (regular : sight.Regular stripes threshold) : later.Regular stripes threshold := by
  refine ⟨motion.placed regular.placed, motion.tolled regular.placed regular.tolled, ?_, ?_⟩
  · cases motion with
    | halt ticket =>
        intro unstopped
        cases first : sight.stopper <;> simp [first] at unstopped
    | handle inside loses own =>
        exact fun none => loses.pipeline_eq.trans (regular.unstopped none)
    | goOn inside loses => exact fun none => loses.pipeline_eq.trans (regular.unstopped none)
    | depart inside loses => exact fun none => loses.pipeline_eq.trans (regular.unstopped none)
    | rest | take | retire | count | report | shut | leave => exact regular.unstopped
  · cases motion with
    | handle inside loses own => exact loses.threshold_eq.trans regular.threshold_eq
    | goOn inside loses => exact loses.threshold_eq.trans regular.threshold_eq
    | depart inside loses => exact loses.threshold_eq.trans regular.threshold_eq
    | rest | halt | take | retire | count | report | shut | leave => exact regular.threshold_eq

/-! ## Calm and the end -/

/-- Whether no worker is inside its handler or about to end. -/
def isCalm (sight : Sight) : Bool :=
  sight.standing.roster.all fun worker => !worker.isBusy

/-- While no worker is busy, none is about to end. -/
theorem Placed.partings_eq (placed : sight.Placed stripes) (calm : sight.isCalm = true) :
    sight.partings = List.replicate stripes none := by
  rw [List.eq_replicate_iff]
  refine ⟨placed.partings_length, fun parting member => ?_⟩
  obtain ⟨stripe, inRange, rfl⟩ := List.getElem_of_mem member
  cases held : sight.partings[stripe] with
  | none => rfl
  | some parting =>
      obtain ⟨sending, busy⟩ :=
        placed.busy stripe parting (List.getElem?_eq_some_iff.2 ⟨inRange, held⟩)
      have calm := List.all_eq_true.1 calm _ (List.mem_of_getElem? busy)
      cases calm

/-- While no worker is busy, each worker that failed is counted once. -/
theorem Tolled.of_isCalm (tolled : sight.Tolled) (placed : sight.Placed stripes)
    (calm : sight.isCalm = true) :
    sight.standing.unrecoverable = sight.standing.roster.countP Worker.hasGivenUp ∧
      sight.failed = sight.standing.roster.countP Worker.hasCrashed ∧
      sight.standing.reported = sight.standing.roster.countP Worker.hasFailed := by
  obtain ⟨unrecoverable_eq, failed_eq, reported_eq⟩ := tolled
  rw [placed.partings_eq calm] at unrecoverable_eq failed_eq reported_eq
  simp only [List.countP_replicate, Parting.givesUp, Parting.isCounted, Parting.isReported,
    Bool.false_eq_true, ↓reduceIte, Nat.add_zero] at unrecoverable_eq failed_eq reported_eq
  exact ⟨unrecoverable_eq, failed_eq, reported_eq⟩

/-- Whether every worker has ended. -/
def allEnded (sight : Sight) : Bool :=
  sight.standing.roster.all Worker.hasEnded

/-- When every worker has ended, nothing happens any more but that somebody stops the producer
again. -/
theorem Motion.of_allEnded (motion : sight.Motion later) (placed : sight.Placed stripes)
    (ended : sight.allEnded = true) :
    later.allEnded = true ∧ later.standing.sent = sight.standing.sent ∧
      later.standing.calls = sight.standing.calls := by
  have still {stripe : Nat} {worker : Worker Sending}
      (found : sight.standing.roster[stripe]? = some worker) : worker.hasEnded = true :=
    List.all_eq_true.1 ended worker (List.mem_of_getElem? found)
  have stays {stripe : Nat} {parting : Parting}
      (held : sight.partings[stripe]? = some (some parting)) : False := by
    obtain ⟨sending, busy⟩ := placed.busy stripe parting held
    cases still busy
  cases motion with
  | rest => exact ⟨ended, rfl, rfl⟩
  | halt ticket => exact ⟨ended, rfl, rfl⟩
  | take idle own => cases still idle
  | retire idle => cases still idle
  | handle inside loses own => cases still inside.busy
  | goOn inside loses => cases still inside.busy
  | depart inside loses => cases still inside.busy
  | count held => exact (stays held).elim
  | report held => exact (stays held).elim
  | shut held => exact (stays held).elim
  | leave held => exact (stays held).elim

end Sight
end CacheSync
