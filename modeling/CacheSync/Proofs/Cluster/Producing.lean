import CacheSync.Proofs.Cluster.Sending
import CacheSync.Proofs.Cluster.Strides

/-!
# Sending is all or nothing

A producer that works on the calling thread either hands its message once to every subscriber of
every other member and counts one event as sent, or hands it to nobody and counts nothing.  Which
of the two it is, and with which error, follows from how the attempts ended.  What the channel, the
clock and the other threads do in between makes no difference.
-/

namespace CacheSync.Producing

variable {index ticket : Nat} {job : Job} {strides : List Stride} {stride : Stride}
  {before middle : Cluster} {next : Caller} {sending : Sending} {node : Node} {message : Message}

/-! ## What the strides of a sending have done -/

def attempts (strides : List Stride) : List (Except ChannelError Unit) :=
  strides.flatMap Stride.attempts

def handings (strides : List Stride) : List (Member × Message) :=
  strides.flatMap Stride.handings

/-- The event was written as a message. -/
def Written (index : Nat) (job : Job) (strides : List Stride) (message : Message) : Prop :=
  message.hash = job.hash ∧ ∃ stride ∈ strides, ∃ node, stride.before.node? index = some node ∧
    node.core.codec.encode job.event job.config.policy.includesValues = .ok message.body

/-- Nobody received anything, and nothing was counted as sent. -/
def Quiet (index : Nat) (strides : List Stride) : Prop :=
  ∀ stride ∈ strides,
    stride.handings = [] ∧ stride.before.Confined index Node.Unmoved stride.after

def Uncounted (index : Nat) (strides : List Stride) : Prop :=
  ∀ stride ∈ strides, stride.before.Uncounted index stride.after

/-- No recovery was entered. -/
def Unrecovered (index : Nat) (strides : List Stride) : Prop :=
  ∀ stride ∈ strides, stride.before.Confined index
    (fun before after => after.recoveries = before.recoveries) stride.after

/-- A course began with the cleanup of this sending. -/
def Timed (index : Nat) (strides : List Stride) (course : RecoveryCourse) : Prop :=
  ∃ stride ∈ strides, ∃ node, stride.before.node? index = some node ∧
    course.started = stride.before.clock.steady ∧
      course.deadline = stride.before.clock.deadline? node.recoveries.settings.window

/-- The first attempt lost the connection, and so many have failed since. -/
def Lost (strides : List Stride) (count : Nat) : Prop :=
  ∃ (first : ChannelError) (fails : List ChannelError),
    attempts strides = .error first :: fails.map .error ∧
      first.isConnectivity = true ∧ fails.length = count

/-- Any attempt but a first one that lost the connection was the only one. -/
def Persisted (strides : List Stride) : Prop :=
  ∀ error, (attempts strides).head? = some (.error error) → error.isConnectivity = true

/-- The channel took the message, after any number of attempts that failed. -/
def Accepted (strides : List Stride) : Prop :=
  Persisted strides ∧
    ∃ fails : List ChannelError, attempts strides = fails.map .error ++ [.ok ()]

/-- Every subscriber but those of the sender was handed the message, in order, and received it, and
the last step counted one event as sent. -/
structure Delivery (index : Nat) (job : Job) (strides : List Stride) (message : Message)
    (taken : Stride) (node : Node) (early : List Stride) (last : Stride) : Prop where
  written : Written index job strides message
  accepted : Accepted strides
  taken_mem : taken ∈ strides
  taken_eq : taken.attempts = [.ok ()]
  handed : handings strides =
    (taken.before.hub.subscriptions.filter (·.1 ≠ .node index)).map fun subscription =>
      (subscription.2, message)
  fair : ∀ stride ∈ strides, stride.Fair index
  strides_eq : strides = early ++ [last]
  uncounted : Uncounted index early
  found : last.before.node? index = some node
  counted : last.before.Confined index (Node.Counts job.config.name) last.after

def Delivered (index : Nat) (job : Job) (strides : List Stride) : Prop :=
  ∃ message taken node early last, Delivery index job strides message taken node early last

/-- How the attempts of a sending end that fails with an error. -/
inductive Failed (index : Nat) (job : Job) : List Stride → ProduceError → Prop where
  /-- There is no message, and no attempt is made. -/
  | encode {stride : Stride} {node : Node} {error : Wire.CodecError} :
      stride.before.node? index = some node →
      node.core.codec.encode job.event job.config.policy.includesValues = .error error →
      attempts [stride] = [] → Failed index job [stride] (.encode error)
  /-- The only attempt fails with the connection intact. -/
  | channel {strides : List Stride} {error : ChannelError} :
      attempts strides = [.error error] → error.isConnectivity = false →
      Unrecovered index strides → Failed index job strides (.channel error)
  /-- An attempt fails once the window has passed.  The attempts are counted in a word. -/
  | notRecoverable {early : List Stride} {last : Stride} {course : RecoveryCourse}
      {deadline : Moment} {error : ChannelError} {count : Nat} :
      Lost (early ++ [last]) count → last.attempts = [.error error] →
      Timed index early course → course.deadline = some deadline →
      deadline ≤ last.before.clock.steady →
      Failed index job (early ++ [last]) (.notRecoverable (.ofNat count)
        (last.before.clock.steady.since course.started) error.message)
  /-- The node shuts down before an attempt has succeeded. -/
  | cancelled {early : List Stride} {last : Stride} {node : Node} {count : Nat} :
      Lost (early ++ [last]) count → last.before.node? index = some node →
      node.recoveries.shutdown = true → Failed index job (early ++ [last]) .cancelled

/-! ## One more stride -/

section Concat

theorem attempts_concat (strides : List Stride) (stride : Stride) :
    attempts (strides ++ [stride]) = attempts strides ++ stride.attempts := by
  simp only [attempts, List.flatMap_append, List.flatMap_singleton]

theorem handings_concat (strides : List Stride) (stride : Stride) :
    handings (strides ++ [stride]) = handings strides ++ stride.handings := by
  simp only [handings, List.flatMap_append, List.flatMap_singleton]

theorem handings_of_quiet (quiet : Quiet index strides) : handings strides = [] :=
  List.flatMap_eq_nil_iff.2 fun stride member => (quiet stride member).1

theorem Quiet.uncounted (quiet : Quiet index strides) : Uncounted index strides :=
  fun stride member => (quiet stride member).2.uncounted

theorem Quiet.fair (quiet : Quiet index strides) : ∀ stride ∈ strides, stride.Fair index :=
  fun stride member => .quiet (quiet stride member).1 ((quiet stride member).2.mono (·.toDeaf))

theorem Written.concat (written : Written index job strides message) (stride : Stride) :
    Written index job (strides ++ [stride]) message := by
  obtain ⟨hash_eq, other, member, written⟩ := written
  exact ⟨hash_eq, other, List.mem_append_left _ member, written⟩

theorem Timed.concat {course : RecoveryCourse} (timed : Timed index strides course)
    (stride : Stride) : Timed index (strides ++ [stride]) course := by
  obtain ⟨other, member, timed⟩ := timed
  exact ⟨other, List.mem_append_left _ member, timed⟩

theorem Lost.concat {count : Nat} (lost : Lost strides count) (spared : stride.attempts = []) :
    Lost (strides ++ [stride]) count := by
  obtain ⟨first, fails, attempts_eq, lost⟩ := lost
  exact ⟨first, fails, by rw [attempts_concat, spared, List.append_nil, attempts_eq], lost⟩

theorem Lost.fail {count : Nat} (lost : Lost strides count) {error : ChannelError}
    (failed : stride.attempts = [.error error]) : Lost (strides ++ [stride]) (count + 1) := by
  obtain ⟨first, fails, attempts_eq, lost, length_eq⟩ := lost
  refine ⟨first, fails ++ [error], ?_, lost, by simp [length_eq]⟩
  rw [attempts_concat, failed, attempts_eq]
  simp

theorem Lost.persisted {count : Nat} (lost : Lost strides count) : Persisted strides := by
  obtain ⟨first, fails, attempts_eq, connectivity, _⟩ := lost
  intro error head
  rw [attempts_eq] at head
  cases head
  exact connectivity

theorem accepted_of_first (attempts_eq : attempts strides = [.ok ()]) : Accepted strides := by
  refine ⟨fun error head => ?_, [], attempts_eq⟩
  rw [attempts_eq] at head
  cases head

theorem Lost.accept {count : Nat} (lost : Lost strides count) (taken : stride.attempts = [.ok ()]) :
    Accepted (strides ++ [stride]) := by
  obtain ⟨first, fails, attempts_eq, connectivity, _⟩ := lost
  have attempts_eq : attempts (strides ++ [stride]) = (first :: fails).map .error ++ [.ok ()] := by
    rw [attempts_concat, taken, attempts_eq, List.map_cons]
  refine ⟨fun error head => ?_, _, attempts_eq⟩
  rw [attempts_eq] at head
  cases head
  exact connectivity

end Concat

/-! ## How far a sending has come -/

/-- A caller who sends on its own thread. -/
def sender (ticket index : Nat) (sending : Sending) : Caller :=
  ⟨ticket, [.send index sending], .done, true⟩

/-- A step of such a caller. -/
def strideOf (before : Cluster) (ticket index : Nat) (sending : Sending) (middle : Cluster)
    (next : Caller) : Stride :=
  ⟨before, sender ticket index sending, middle.setCaller next⟩

/-- The phase of a recovery between two attempts. -/
inductive Pausing (index : Nat) (strides : List Stride) (count : Nat) : RecoveryPhase → Prop where
  | cleaning : count = 0 → Pausing index strides count .cleaning
  | deciding {course : RecoveryCourse} : Timed index strides course →
      course.attempts = .ofNat count → Pausing index strides count (.deciding course)
  | waiting {course : RecoveryCourse} {wake : Option Moment} : Timed index strides course →
      course.attempts = .ofNat count → Pausing index strides count (.waiting course wake)

/-- The channel has taken the message, and these subscribers are left. -/
structure Spreading (index : Nat) (job : Job) (strides : List Stride) (spread : Spread) :
    Prop where
  written : Written index job strides spread.message
  accepted : Accepted strides
  taken : ∃ taken ∈ strides, taken.attempts = [.ok ()] ∧
    handings strides ++ spread.left.map (·, spread.message) =
      (taken.before.hub.targets (.node index)).map (·, spread.message)
  uncounted : Uncounted index strides
  fair : ∀ stride ∈ strides, stride.Fair index

/-- A sending that is under way, and what has been done for it. -/
inductive Going (index : Nat) (job : Job) (strides : List Stride) : Sending → Prop where
  | writing : strides = [] → Going index job strides (.ofJob job)
  | trying {message : Message} {stage : SendStage} : Quiet index strides →
      Written index job strides message → attempts strides = [] → Unrecovered index strides →
      stage = .calling message ∨ stage = .held message →
      Going index job strides ⟨job, none, stage⟩
  | rescuing {message : Message} {phase : RecoveryPhase} {count : Nat} : Quiet index strides →
      Written index job strides message → Lost strides count → Pausing index strides count phase →
      Going index job strides ⟨job, some ⟨.producer, phase⟩, .recovering message⟩
  | retrying {message : Message} {course : RecoveryCourse} {stage : SendStage} {count : Nat} :
      Quiet index strides → Written index job strides message → Lost strides count →
      Timed index strides course → course.attempts = .ofNat (count + 1) →
      stage = .calling message ∨ stage = .held message →
      Going index job strides ⟨job, some ⟨.producer, .attempting course⟩, stage⟩
  | spreading {recovery : Option RecoveryCall} {spread : Spread} :
      Spreading index job strides spread →
      Going index job strides ⟨job, recovery, .spreading spread⟩

/-- How far the call has come. -/
inductive Status (ticket index : Nat) (job : Job) (strides : List Stride) : Caller → Prop where
  | going {sending : Sending} : Going index job strides sending →
      Status ticket index job strides (sender ticket index sending)
  | sent : (∀ stride ∈ strides, stride.Fair index) → Delivered index job strides →
      Status ticket index job strides ⟨ticket, [], .done, true⟩
  | failed {error : ProduceError} : Quiet index strides → Failed index job strides error →
      Status ticket index job strides ⟨ticket, [], .unproduced error, true⟩
  | crashed : (∀ stride ∈ strides, stride.Fair index) → Uncounted index strides →
      Persisted strides → Status ticket index job strides ⟨ticket, [], .crashed, true⟩

/-! ## One step of each kind -/

section Steps

theorem attempts_strideOf :
    (strideOf before ticket index sending middle next).attempts =
      (before.attempt? index sending).toList :=
  rfl

theorem handings_strideOf :
    (strideOf before ticket index sending middle next).handings = before.handover sending :=
  rfl

theorem Quiet.concat (quiet : Quiet index strides)
    (unspread : ∀ spread, sending.stage ≠ .spreading spread)
    (stepped : (before.sendStep index sending).cluster? = some middle) (ticket : Nat)
    (next : Caller) :
    Quiet index (strides ++ [strideOf before ticket index sending middle next]) := by
  intro stride member
  rcases List.mem_append.1 member with early | late
  · exact quiet stride early
  · obtain rfl := List.mem_singleton.1 late
    refine ⟨?_, (Cluster.sendStep_confined unspread stepped).setCaller next⟩
    rw [handings_strideOf]
    unfold Cluster.handover
    split
    next spread stage => exact absurd stage (unspread _)
    next => rfl

theorem Unrecovered.concat (unrecovered : Unrecovered index strides)
    (confined : before.Confined index
      (fun before after => after.recoveries = before.recoveries) middle) (ticket : Nat)
    (sending : Sending) (next : Caller) :
    Unrecovered index (strides ++ [strideOf before ticket index sending middle next]) := by
  intro stride member
  rcases List.mem_append.1 member with early | late
  · exact unrecovered stride early
  · obtain rfl := List.mem_singleton.1 late
    exact confined.setCaller next

/-- A call of the channel enters no recovery by itself. -/
theorem Unrecovered.call (unrecovered : Unrecovered index strides)
    (found : before.node? index = some node) (channel : Channel) (ticket : Nat)
    (sending : Sending) (next : Caller) :
    Unrecovered index (strides ++ [strideOf before ticket index sending
      (before.setNode index { node with channel := channel }) next]) := by
  have confined : before.Confined index
      (fun before after => after.recoveries = before.recoveries)
      (before.setNode index { node with channel := channel }) := .setNode found rfl
  exact unrecovered.concat confined ticket sending next

/-- The channel takes the message, and nobody has it yet. -/
theorem Spreading.begin (quiet : Quiet index (strides ++ [stride]))
    (written : Written index job (strides ++ [stride]) message)
    (accepted : Accepted (strides ++ [stride])) (taken : stride.attempts = [.ok ()]) :
    Spreading index job (strides ++ [stride])
      ⟨message, stride.before.hub.targets (.node index), false⟩ where
  written := written
  accepted := accepted
  taken := ⟨stride, by simp, taken, by rw [handings_of_quiet quiet]; rfl⟩
  uncounted := quiet.uncounted
  fair := quiet.fair

theorem found_of_stepped (stepped : (before.sendStep index sending).cluster? = some middle) :
    ∃ node, before.node? index = some node := by
  cases found : before.node? index with
  | none =>
      simp only [Cluster.sendStep, found] at stepped
      cases stepped
  | some node => exact ⟨node, rfl⟩

/-- The event is written, or it cannot be. -/
theorem writing_step
    (stepped : (before.sendStep index (.ofJob job)).cluster? = some middle)
    (told : (before.sendStep index (.ofJob job)).caller? index (sender ticket index (.ofJob job)) =
      some next) :
    Status ticket index job ([] ++ [strideOf before ticket index (.ofJob job) middle next])
      next := by
  obtain ⟨node, found⟩ := found_of_stepped stepped
  have quiet : Quiet index ([] ++ [strideOf before ticket index (.ofJob job) middle next]) :=
    Quiet.concat (fun _ member => by cases member) (fun _ stage => by cases stage) stepped
      ticket next
  have untried : attempts [strideOf before ticket index (.ofJob job) middle next] = [] := by
    simp only [attempts, List.flatMap_singleton, attempts_strideOf, Cluster.attempt?, found,
      Option.bind_some, Sending.ofJob, Option.toList_none]
  simp only [Cluster.sendStep, found, Cluster.sendStepAt, Sending.ofJob] at stepped told
  cases encoded : node.core.codec.encode job.event job.config.policy.includesValues with
  | error error =>
      simp only [encoded] at stepped told
      cases told
      exact .failed quiet (.encode found encoded untried)
  | ok body =>
      simp only [encoded] at stepped told
      cases stepped
      cases told
      have written (next : Caller) : Written index job
          ([] ++ [strideOf before ticket index (.ofJob job) before next]) ⟨job.hash, body⟩ :=
        ⟨rfl, _, List.mem_singleton_self _, node, found, encoded⟩
      have unrecovered (next : Caller) : Unrecovered index
          ([] ++ [strideOf before ticket index (.ofJob job) before next]) :=
        Unrecovered.concat (fun _ member => by cases member) (.refl fun _ => rfl) ticket _ _
      exact .going (.trying quiet (written _) untried (unrecovered _) (Or.inl rfl))

theorem unspread_of_eager {stage : SendStage}
    (eager : stage = .calling message ∨ stage = .held message) :
    ∀ spread, stage ≠ .spreading spread := by
  rcases eager with rfl | rfl
  all_goals
    intro _ same
    cases same

/-- The first attempt. -/
theorem trying_step {stage : SendStage} (quiet : Quiet index strides)
    (written : Written index job strides message) (untried : attempts strides = [])
    (unrecovered : Unrecovered index strides)
    (eager : stage = .calling message ∨ stage = .held message)
    (stepped : (before.sendStep index ⟨job, none, stage⟩).cluster? = some middle)
    (told : (before.sendStep index ⟨job, none, stage⟩).caller? index
      (sender ticket index ⟨job, none, stage⟩) = some next) :
    Status ticket index job
      (strides ++ [strideOf before ticket index ⟨job, none, stage⟩ middle next]) next := by
  obtain ⟨node, found⟩ := found_of_stepped stepped
  have quiet := quiet.concat (unspread_of_eager eager) stepped ticket next
  have written := written.concat (strideOf before ticket index ⟨job, none, stage⟩ middle next)
  have attempt : before.Attempt index node ⟨job, none, stage⟩ message _ :=
    Cluster.sendStep_attempt found eager
  have attempts_eq :
      attempts (strides ++ [strideOf before ticket index ⟨job, none, stage⟩ middle next]) =
        (before.attempt? index ⟨job, none, stage⟩).toList := by
    rw [attempts_concat, untried, List.nil_append, attempts_strideOf]
  generalize before.sendStep index ⟨job, none, stage⟩ = step at attempt stepped told
  cases attempt with
  | blocked => cases stepped
  | taken sent_eq attempted =>
      cases stepped
      cases told
      rw [attempted] at attempts_eq
      exact .going (.spreading (.begin quiet written (accepted_of_first attempts_eq)
        (by rw [attempts_strideOf, attempted]; rfl)))
  | @failed channel error sent_eq attempted =>
      rw [attempted] at attempts_eq
      simp only [Cluster.sendFailed] at stepped told
      cases lost : error.isConnectivity with
      | true =>
          simp only [lost, ↓reduceIte] at stepped told
          cases stepped
          cases told
          exact .going (.rescuing quiet written ⟨error, [], attempts_eq, lost, rfl⟩ (.cleaning rfl))
      | false =>
          simp only [lost, Bool.false_eq_true, ↓reduceIte] at stepped told
          cases stepped
          cases told
          exact .failed quiet (.channel attempts_eq lost
            (unrecovered.call found channel ticket _ _))
  | @held channel sent_eq attempted =>
      cases stepped
      cases told
      rw [attempted] at attempts_eq
      exact .going (.trying quiet written attempts_eq
        (unrecovered.call found channel ticket _ _) (Or.inr rfl))
  | crashed sent_eq attempted =>
      cases stepped
      cases told
      rw [attempted] at attempts_eq
      refine .crashed quiet.fair quiet.uncounted fun error head => ?_
      rw [attempts_eq] at head
      cases head

theorem of_windowPassed {course : RecoveryCourse} {clock : Clock}
    (passed : Recoveries.windowPassed course clock = true) :
    ∃ deadline, course.deadline = some deadline ∧ deadline ≤ clock.steady := by
  unfold Recoveries.windowPassed at passed
  split at passed
  · cases passed
  next deadline deadline_eq => exact ⟨deadline, deadline_eq, of_decide_eq_true passed⟩

/-- A further attempt. -/
theorem retrying_step {stage : SendStage} {course : RecoveryCourse} {count : Nat}
    (quiet : Quiet index strides) (written : Written index job strides message)
    (lost : Lost strides count) (timed : Timed index strides course)
    (tried : course.attempts = .ofNat (count + 1))
    (eager : stage = .calling message ∨ stage = .held message)
    (shape : sending = ⟨job, some ⟨.producer, .attempting course⟩, stage⟩)
    (stepped : (before.sendStep index sending).cluster? = some middle)
    (told : (before.sendStep index sending).caller? index (sender ticket index sending) =
      some next) :
    Status ticket index job (strides ++ [strideOf before ticket index sending middle next])
      next := by
  have eager : sending.stage = .calling message ∨ sending.stage = .held message := by
    rw [shape]
    exact eager
  obtain ⟨node, found⟩ := found_of_stepped stepped
  have quiet := quiet.concat (unspread_of_eager eager) stepped ticket next
  have written := written.concat (strideOf before ticket index sending middle next)
  have attempt := Cluster.sendStep_attempt found eager
  have attempts_eq : (strideOf before ticket index sending middle next).attempts =
      (before.attempt? index sending).toList := attempts_strideOf
  generalize before.sendStep index sending = step at attempt stepped told
  subst shape
  cases attempt with
  | blocked => cases stepped
  | taken sent_eq attempted =>
      cases stepped
      cases told
      rw [attempted] at attempts_eq
      exact .going (.spreading (.begin quiet written (lost.accept attempts_eq) attempts_eq))
  | @failed channel error sent_eq attempted =>
      rw [attempted] at attempts_eq
      simp only [Cluster.sendFailed, Recoveries.fail] at stepped told
      cases passed : Recoveries.windowPassed course before.clock with
      | true =>
          simp only [passed, ↓reduceIte, Cluster.afterRecovery, Recoveries.conclude] at stepped told
          cases told
          obtain ⟨deadline, deadline_eq, late⟩ := of_windowPassed passed
          refine .failed quiet ?_
          rw [tried]
          exact .notRecoverable (lost.fail attempts_eq) attempts_eq timed deadline_eq late
      | false =>
          simp only [passed, Bool.false_eq_true, ↓reduceIte, Cluster.afterRecovery] at stepped told
          cases stepped
          cases told
          exact .going (.rescuing quiet written (lost.fail attempts_eq)
            (.waiting (timed.concat _) tried))
  | held sent_eq attempted =>
      cases stepped
      cases told
      rw [attempted] at attempts_eq
      exact .going (.retrying quiet written (lost.concat attempts_eq) (timed.concat _) tried
        (Or.inr rfl))
  | crashed sent_eq attempted =>
      cases stepped
      cases told
      rw [attempted] at attempts_eq
      exact .crashed quiet.fair quiet.uncounted (lost.concat attempts_eq).persisted

section Rescuing

variable {count : Nat} (quiet : Quiet index (strides ++ [stride]))
  (written : Written index job (strides ++ [stride]) message)
  (lost : Lost (strides ++ [stride]) count) (found : stride.before.node? index = some node)
  (of_job : sending.job = job)
include quiet written lost found of_job

/-- The channel is reset, and the course of the recovery begins. -/
theorem cleaning_step (unmade : count = 0)
    (told : (stride.before.recoverStep index node sending message ⟨.producer, .cleaning⟩).caller?
      index (sender ticket index sending) = some next) :
    Status ticket index job (strides ++ [stride]) next := by
  simp only [Cluster.recoverStep, Cluster.resetSender] at told
  subst of_job
  split at told
  · cases told
    exact .crashed quiet.fair quiet.uncounted lost.persisted
  · cases told
    exact .going (.rescuing quiet written lost
      (.deciding ⟨stride, List.mem_append_right _ (List.mem_singleton_self _), node, found, rfl,
        rfl⟩ (congrArg UInt32.ofNat unmade).symm))

/-- An attempt is called for, unless there is a shutdown. -/
theorem deciding_step {course : RecoveryCourse} (timed : Timed index strides course)
    (tried : course.attempts = .ofNat count)
    (told : (stride.before.recoverStep index node sending message
      ⟨.producer, .deciding course⟩).caller? index (sender ticket index sending) = some next) :
    Status ticket index job (strides ++ [stride]) next := by
  simp only [Cluster.recoverStep, Recoveries.decide] at told
  subst of_job
  cases shut : node.recoveries.shutdown with
  | true =>
      simp only [shut, ↓reduceIte, Recoveries.conclude, Cluster.afterRecovery] at told
      cases told
      exact .failed quiet (.cancelled lost found shut)
  | false =>
      simp only [shut, Bool.false_eq_true, ↓reduceIte, Cluster.afterRecovery] at told
      cases told
      obtain ⟨other, member, timed⟩ := timed.concat stride
      have tried : course.attempts + 1 = .ofNat (count + 1) := by
        rw [tried, UInt32.ofNat_add]
        rfl
      exact .going (.retrying quiet written lost ⟨other, member, timed⟩ tried (Or.inl rfl))

/-- A wait is over, because its time has come or because of a shutdown. -/
theorem waiting_step {course : RecoveryCourse} {wake : Option Moment}
    (timed : Timed index strides course) (tried : course.attempts = .ofNat count)
    (told : (stride.before.recoverStep index node sending message
      ⟨.producer, .waiting course wake⟩).caller? index (sender ticket index sending) = some next) :
    Status ticket index job (strides ++ [stride]) next := by
  simp only [Cluster.recoverStep, Recoveries.wake] at told
  subst of_job
  split at told
  · cases shut : node.recoveries.shutdown with
    | true =>
        simp only [shut, ↓reduceIte, Recoveries.conclude, Cluster.afterRecovery] at told
        cases told
        exact .failed quiet (.cancelled lost found shut)
    | false =>
        simp only [shut, Bool.false_eq_true, ↓reduceIte, Cluster.afterRecovery] at told
        cases told
        obtain ⟨other, member, timed⟩ := timed.concat stride
        exact .going (.rescuing quiet written lost (.deciding ⟨other, member, timed⟩ tried))
  · cases told

end Rescuing

/-- What is done between two attempts. -/
theorem rescuing_step {phase : RecoveryPhase} {count : Nat} (quiet : Quiet index strides)
    (written : Written index job strides message) (lost : Lost strides count)
    (pausing : Pausing index strides count phase)
    (shape : sending = ⟨job, some ⟨.producer, phase⟩, .recovering message⟩)
    (stepped : (before.sendStep index sending).cluster? = some middle)
    (told : (before.sendStep index sending).caller? index (sender ticket index sending) =
      some next) :
    Status ticket index job (strides ++ [strideOf before ticket index sending middle next])
      next := by
  obtain ⟨node, found⟩ := found_of_stepped stepped
  have unspread : ∀ spread, sending.stage ≠ .spreading spread := by
    intro spread stage
    rw [shape] at stage
    cases stage
  have quiet := quiet.concat unspread stepped ticket next
  have written := written.concat (strideOf before ticket index sending middle next)
  have spared : (strideOf before ticket index sending middle next).attempts = [] := by
    simp only [attempts_strideOf, Cluster.attempt?, found, Option.bind_some, shape,
      Option.toList_none]
  have lost := lost.concat spared
  have of_job : sending.job = job := by rw [shape]
  have step_eq : before.sendStep index sending =
      before.recoverStep index node sending message ⟨.producer, phase⟩ := by
    simp only [Cluster.sendStep, found, Cluster.sendStepAt, shape]
  rw [step_eq] at told
  cases pausing with
  | cleaning unmade => exact cleaning_step quiet written lost found of_job unmade told
  | deciding timed tried => exact deciding_step quiet written lost found of_job timed tried told
  | waiting timed tried => exact waiting_step quiet written lost found of_job timed tried told

theorem Uncounted.concat (uncounted : Uncounted index strides)
    (same : stride.before.Uncounted index stride.after) :
    Uncounted index (strides ++ [stride]) := by
  intro other member
  rcases List.mem_append.1 member with early | late
  · exact uncounted other early
  · exact List.mem_singleton.1 late ▸ same

theorem fair_concat (fair : ∀ stride ∈ strides, stride.Fair index) (last : stride.Fair index) :
    ∀ other ∈ strides ++ [stride], other.Fair index := by
  intro other member
  rcases List.mem_append.1 member with early | late
  · exact fair other early
  · exact List.mem_singleton.1 late ▸ last

theorem Accepted.concat (accepted : Accepted strides) (spared : stride.attempts = []) :
    Accepted (strides ++ [stride]) := by
  unfold Accepted Persisted
  rw [attempts_concat, spared, List.append_nil]
  exact accepted

/-- Another step of handing the message on, by which it goes to these. -/
theorem Spreading.concat {waited : Bool} {left : List Member}
    {spread : Spread} (spreading : Spreading index job strides spread)
    (spared : stride.attempts = [])
    (handed : spread.left.map (·, spread.message) =
      stride.handings ++ left.map (·, spread.message))
    (same : stride.before.Uncounted index stride.after) (fair : stride.Fair index) :
    Spreading index job (strides ++ [stride]) ⟨spread.message, left, waited⟩ where
  written := spreading.written.concat stride
  accepted := spreading.accepted.concat spared
  taken := by
    obtain ⟨taken, member, taken_eq, targets_eq⟩ := spreading.taken
    refine ⟨taken, List.mem_append_left _ member, taken_eq, ?_⟩
    rw [handings_concat, List.append_assoc, ← handed, targets_eq]
  uncounted := spreading.uncounted.concat same
  fair := fair_concat spreading.fair fair

/-- A member is handed the message. -/
theorem Spreading.hand {target : Member} {left : List Member} {waited : Bool} {received : Cluster}
    (spreading : Spreading index job strides ⟨message, target :: left, waited⟩)
    (spared : stride.attempts = []) (handings_eq : stride.handings = [(target, message)])
    (receives : stride.before.Receives message target received)
    (after_eq : stride.after = received.setCaller next) :
    Spreading index job (strides ++ [stride]) ⟨message, left, false⟩ := by
  have same : stride.before.Uncounted index stride.after := by
    rw [after_eq]
    exact receives.uncounted
  exact spreading.concat spared (by rw [handings_eq]; rfl) same
    (.hands handings_eq receives after_eq)

/-- The step found no room for the message. -/
theorem Spreading.wait {left : List Member} {waited : Bool}
    (spreading : Spreading index job strides ⟨message, left, waited⟩)
    (spared : stride.attempts = []) (handings_eq : stride.handings = [])
    (still : stride.before.Confined index Node.Unmoved stride.after) :
    Spreading index job (strides ++ [stride]) ⟨message, left, true⟩ :=
  spreading.concat spared (by rw [handings_eq]; rfl) still.uncounted
    (.quiet handings_eq (still.mono (·.toDeaf)))

/-- Nobody is left to be handed the message, and the step counts the event as sent. -/
theorem Spreading.finish {waited : Bool}
    (spreading : Spreading index job strides ⟨message, [], waited⟩)
    (spared : stride.attempts = []) (handings_eq : stride.handings = [])
    (found : stride.before.node? index = some node)
    (counted : stride.before.Confined index (Node.Counts job.config.name) stride.after) :
    Status ticket index job (strides ++ [stride]) ⟨ticket, [], .done, true⟩ := by
  obtain ⟨taken, member, taken_eq, targets_eq⟩ := spreading.taken
  have deaf := counted.mono fun {_ _} counts => counts.toDeaf
  have fair := fair_concat spreading.fair (.quiet handings_eq deaf)
  refine .sent fair
    ⟨message, taken, node, strides, stride, spreading.written.concat stride,
      spreading.accepted.concat spared, List.mem_append_left _ member, taken_eq, ?_, fair, rfl,
      spreading.uncounted, found, counted⟩
  rw [List.map_nil, List.append_nil] at targets_eq
  rw [handings_concat, handings_eq, List.append_nil, targets_eq, Hub.targets, List.map_map]
  rfl

/-- The last step of a sending counts its event as sent. -/
theorem sendSucceeded_counts (found : before.node? index = some node) (sending : Sending) :
    ∃ after, before.sendSucceeded index node sending = .done after (.ok ()) ∧
      before.Confined index (Node.Counts sending.job.config.name) after := by
  unfold Cluster.sendSucceeded
  refine ⟨_, rfl, .setNode found (.of_unmoved ?_ sending.job)⟩
  cases sending.recovery with
  | none => exact .refl _
  | some call =>
      exact (Node.Unmoved.of_recoveries _ _).trans
        (.markAll _ (Recoveries.marks_conclude _ call _ none))

/-- The message goes to one subscriber after the other. -/
theorem spreading_step {recovery : Option RecoveryCall} {spread : Spread}
    (spreading : Spreading index job strides spread)
    (shape : sending = ⟨job, recovery, .spreading spread⟩)
    (stepped : (before.sendStep index sending).cluster? = some middle)
    (told : (before.sendStep index sending).caller? index (sender ticket index sending) =
      some next) :
    Status ticket index job (strides ++ [strideOf before ticket index sending middle next])
      next := by
  obtain ⟨node, found⟩ := found_of_stepped stepped
  obtain ⟨message, left, waited⟩ := spread
  have spared : (strideOf before ticket index sending middle next).attempts = [] := by
    simp only [attempts_strideOf, Cluster.attempt?, found, Option.bind_some, shape,
      Option.toList_none]
  have handings_eq : (strideOf before ticket index sending middle next).handings =
      before.handover ⟨job, recovery, .spreading ⟨message, left, waited⟩⟩ := by
    rw [handings_strideOf, shape]
  simp only [Cluster.sendStep, found, Cluster.sendStepAt, shape, Cluster.spreadStep]
    at stepped told
  cases left with
  | nil =>
      obtain ⟨after, outcome, counted⟩ :=
        sendSucceeded_counts found ⟨job, recovery, .spreading ⟨message, [], waited⟩⟩
      simp only [outcome] at stepped told
      cases stepped
      cases told
      exact spreading.finish spared handings_eq found (counted.setCaller _)
  | cons target rest =>
      have receives {after : Cluster}
          (delivered : (before.deliver target message waited).cluster? = some after) :
          before.Receives message target after :=
        Cluster.deliver_receives delivered
      simp only [Cluster.handover] at handings_eq
      cases delivered : before.deliver target message waited with
      | done after =>
          simp only [delivered] at stepped told receives handings_eq
          cases stepped
          cases told
          exact .going (.spreading (spreading.hand spared handings_eq (receives rfl) rfl))
      | blocked =>
          simp only [delivered] at stepped told handings_eq
          cases waited with
          | true => cases stepped
          | false =>
              cases stepped
              cases told
              have still : before.Confined index Node.Unmoved before := .refl .refl
              exact .going (.spreading (spreading.wait spared handings_eq (still.setCaller _)))
      | crashed after =>
          simp only [delivered] at stepped told receives handings_eq
          cases stepped
          cases told
          have handed := spreading.hand spared handings_eq (receives rfl) rfl
          exact .crashed handed.fair handed.uncounted handed.accepted.1

end Steps

/-! ## A whole call -/

/-- Every step of the thread takes the call on. -/
theorem Going.step (going : Going index job strides sending)
    (stepped : (before.sendStep index sending).cluster? = some middle)
    (told : (before.sendStep index sending).caller? index (sender ticket index sending) =
      some next) :
    Status ticket index job (strides ++ [strideOf before ticket index sending middle next])
      next := by
  cases going with
  | writing none =>
      subst none
      exact writing_step stepped told
  | trying quiet written untried unrecovered eager =>
      exact trying_step quiet written untried unrecovered eager stepped told
  | rescuing quiet written lost pausing =>
      exact rescuing_step quiet written lost pausing rfl stepped told
  | retrying quiet written lost timed tried eager =>
      exact retrying_step quiet written lost timed tried eager rfl stepped told
  | spreading spreading => exact spreading_step spreading rfl stepped told

theorem status_of_walk {caller : Caller}
    (walk : Cluster.Walk ticket (sender ticket index (.ofJob job)) strides caller) :
    Status ticket index job strides caller := by
  induction walk with
  | rest => exact .going (.writing rfl)
  | step walk held stepped found inductionHypothesis =>
      cases inductionHypothesis with
      | going going =>
          obtain ⟨middle, moved, told, rfl⟩ :=
            Cluster.of_callerStep?_send held rfl rfl stepped found
          exact going.step moved told
      | sent | failed | crashed =>
          -- A call that is over takes no step.
          obtain ⟨task, rest, _, _, shape, _⟩ := Cluster.of_callerStep? held stepped
          cases shape

/-- What can be said of a call that has come this far. -/
structure AllOrNothing (index : Nat) (job : Job) (strides : List Stride) (caller : Caller) :
    Prop where
  fair : ∀ stride ∈ strides, stride.Fair index
  ends : caller.tasks = [] →
    caller.reply = .done ∨ (∃ error, caller.reply = .unproduced error) ∨ caller.reply = .crashed
  done_iff : caller.tasks = [] → (caller.reply = .done ↔ Delivered index job strides)
  failed : ∀ error, caller.reply = .unproduced error →
    Quiet index strides ∧ Failed index job strides error
  at_once : ∀ error, (attempts strides).head? = some (.error error) →
    error.isConnectivity = false →
      caller.tasks = [] ∧ caller.reply = .unproduced (.channel error) ∧
        attempts strides = [.error error] ∧ Unrecovered index strides

theorem Uncounted.not_delivered (uncounted : Uncounted index strides) :
    ¬ Delivered index job strides := by
  rintro ⟨message, taken, node, early, last, delivery⟩
  have member : last ∈ strides := by
    rw [delivery.strides_eq]
    exact List.mem_append_right _ (List.mem_singleton_self last)
  obtain ⟨changed, here, same⟩ := uncounted last member node delivery.found
  obtain ⟨other, there, counts⟩ := delivery.counted.own node delivery.found
  obtain rfl := Option.some.inj (here.symm.trans there)
  have raised := congrArg Tally.messages (same.symm.trans counts.tallied_eq)
  simp [Tally.raise] at raised

theorem Persisted.false_of_head (persisted : Persisted strides) {first : ChannelError}
    (head : (attempts strides).head? = some (.error first))
    (intact : first.isConnectivity = false) : False := by
  rw [persisted first head] at intact
  cases intact

theorem Failed.at_once {error : ProduceError} {first : ChannelError}
    (failed : Failed index job strides error)
    (head : (attempts strides).head? = some (.error first))
    (intact : first.isConnectivity = false) :
    error = .channel first ∧ attempts strides = [.error first] ∧ Unrecovered index strides := by
  cases failed with
  | encode found encoded untried =>
      rw [untried] at head
      cases head
  | channel attempts_eq intact unrecovered =>
      rw [attempts_eq] at head
      cases head
      exact ⟨rfl, attempts_eq, unrecovered⟩
  | notRecoverable lost => exact (lost.persisted.false_of_head head intact).elim
  | cancelled lost => exact (lost.persisted.false_of_head head intact).elim

theorem Going.persisted (going : Going index job strides sending) : Persisted strides := by
  intro error head
  cases going with
  | writing none =>
      subst none
      cases head
  | trying quiet written untried =>
      rw [untried] at head
      cases head
  | rescuing quiet written lost => exact lost.persisted error head
  | retrying quiet written lost => exact lost.persisted error head
  | spreading spreading => exact spreading.accepted.1 error head

theorem Going.fair (going : Going index job strides sending) :
    ∀ stride ∈ strides, stride.Fair index := by
  cases going with
  | writing none =>
      subst none
      intro _ member
      cases member
  | trying quiet => exact quiet.fair
  | rescuing quiet => exact quiet.fair
  | retrying quiet => exact quiet.fair
  | spreading spreading => exact spreading.fair

theorem Status.allOrNothing {caller : Caller} (status : Status ticket index job strides caller) :
    AllOrNothing index job strides caller := by
  cases status with
  | going going =>
      refine ⟨going.fair, ?_, ?_, ?_,
        fun _ head intact => (going.persisted.false_of_head head intact).elim⟩
      · intro other
        cases other
      · intro other
        cases other
      · intro _ other
        cases other
  | sent fair delivered =>
      obtain ⟨message, taken, node, early, last, delivery⟩ := delivered
      refine ⟨fair, fun _ => Or.inl rfl,
        fun _ => ⟨fun _ => ⟨_, _, _, _, _, delivery⟩, fun _ => rfl⟩, ?_,
        fun _ head intact => (delivery.accepted.1.false_of_head head intact).elim⟩
      intro _ other
      cases other
  | @failed error quiet failed =>
      refine ⟨quiet.fair, fun _ => Or.inr (Or.inl ⟨error, rfl⟩), fun _ => ⟨?_, ?_⟩, ?_, ?_⟩
      · intro other
        cases other
      · exact fun delivered => (quiet.uncounted.not_delivered delivered).elim
      · intro _ same
        cases same
        exact ⟨quiet, failed⟩
      · intro first head intact
        obtain ⟨rfl, only⟩ := failed.at_once head intact
        exact ⟨rfl, rfl, only⟩
  | crashed fair uncounted persisted =>
      refine ⟨fair, fun _ => Or.inr (Or.inr rfl), fun _ => ⟨?_, ?_⟩, ?_,
        fun _ head intact => (persisted.false_of_head head intact).elim⟩
      · intro other
        cases other
      · exact fun delivered => (uncounted.not_delivered delivered).elim
      · intro _ other
        cases other

/-- A producer that works on the calling thread is asked to send an event.  However far the thread
has come since, and whatever the rest of the cluster has done in between: the call has succeeded if
and only if its message was handed once to each subscriber of every other member and one event was
counted as sent; if it has failed then nobody received anything and nothing was counted, and its
error says how the attempts ended. -/
theorem allOrNothing_of_walk {start begun : Cluster} {first caller : Caller}
    (numbered : start.Numbered) (found : start.node? index = some node)
    (direct : node.producer = .direct)
    (asked : start.request? (.produce index job) = some (begun, ticket))
    (held : begun.caller? ticket = some first)
    (walk : Cluster.Walk ticket first strides caller) :
    AllOrNothing index job strides caller := by
  have first_eq : first = sender ticket index (.ofJob job) := by
    have here : (start.pass Cluster.stepTime).node? index = some node := found
    have absent : start.callers.find? (·.ticket == start.nextTicket) = none := by
      rw [List.find?_eq_none]
      intro caller member
      simpa using Nat.ne_of_lt (numbered caller member)
    simp only [Cluster.request?, Cluster.begin?, here, Option.map_some, Option.some.injEq,
      Prod.mk.injEq, Cluster.produceTask, direct] at asked
    obtain ⟨rfl, rfl⟩ := asked
    simp only [Cluster.caller?, Cluster.pass, List.find?_append, absent] at held
    simpa [sender, Cluster.isBare] using held.symm
  subst first_eq
  exact (status_of_walk walk).allOrNothing

/-- Two nodes on a hub with an observer; the first is cut off. -/
def cutOff : Cluster :=
  { Cluster.ofNodes [{ Node.sample "first" with
        channel := (Node.sample "first").channel.setConnected false }, .sample "second"] ⟨0, 0⟩ with
    hub := ((Hub.empty.subscribe .observer .observer).subscribe (.node 0) (.node 0)).subscribe
      (.node 1) (.node 1) }

/-- The clearing of a cache. -/
def clearing : Job :=
  ⟨.sample true, ⟨"users", .all, .evicted, 0, .localNode, none, none⟩⟩

/-- The first attempt and one more fail; then the connection is back. -/
def reconnected : List Cluster.Deed :=
  List.replicate 5 (.step (.caller 0)) ++ [.turn 0 (.connect true), .wait 1000000000] ++
    List.replicate 6 (.step (.caller 0))

/-- What a call has done along a course, and whether it has succeeded. -/
def succeeds (begun : Cluster) (ticket : Nat) (deeds : List Cluster.Deed)
    (attempted : List (Except ChannelError Unit)) (handed : List Member) : Bool :=
  (begun.after? deeds).any fun after => (after.caller? ticket).any fun caller =>
    let strides := begun.along (Cluster.stridesOf ticket) deeds
    caller.tasks.isEmpty && (match caller.reply with | .done => true | _ => false) &&
      decide (attempts strides = attempted) && decide ((handings strides).map (·.1) = handed)

/-- The observer and the second node are handed the message once, as soon as the channel takes
it. -/
theorem allOrNothing_of_walk_reconnected : ∃ strides caller,
    AllOrNothing 0 clearing strides caller ∧ Delivered 0 clearing strides ∧
      attempts strides = [.error .unreachable, .error .unreachable, .ok ()] ∧
        (handings strides).map (·.1) = [.observer, .node 1] := by
  obtain ⟨⟨begun, ticket⟩, asked, began⟩ := (Option.any_eq_true _ _).1 (show
    (cutOff.request? (.produce 0 clearing)).any (fun begun =>
      (begun.1.caller? begun.2).isSome && succeeds begun.1 begun.2 reconnected
        [.error .unreachable, .error .unreachable, .ok ()] [.observer, .node 1]) = true
    by decide +kernel)
  obtain ⟨held, ended⟩ := Bool.and_eq_true_iff.1 began
  obtain ⟨first, held⟩ := Option.isSome_iff_exists.1 held
  obtain ⟨after, went, ended⟩ := (Option.any_eq_true _ _).1 ended
  obtain ⟨caller, there, ended⟩ := (Option.any_eq_true _ _).1 ended
  simp only [Bool.and_eq_true, List.isEmpty_iff, decide_eq_true_eq] at ended
  obtain ⟨⟨⟨finished, replied⟩, attempts_eq⟩, handed_eq⟩ := ended
  obtain ⟨same, here, walk⟩ := Cluster.walk_of_after? held went
  obtain rfl := Option.some.inj (there.symm.trans here)
  have done : caller.reply = .done := by
    split at replied
    next done => exact done
    next => cases replied
  have result := allOrNothing_of_walk (Cluster.numbered_of_callers rfl)
    (show cutOff.node? 0 = some _ from rfl) rfl asked held walk
  exact ⟨_, _, result, (result.done_iff finished).1 done, attempts_eq, handed_eq⟩

end CacheSync.Producing
