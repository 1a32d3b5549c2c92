import CacheSync.Proofs.Cluster.Life

/-!
# What becomes of the events of a node

An event that passes the outbound filter of a node becomes a job.  The job is with a caller, in a
ring, or with a worker, until it is counted as sent or as failed.  It may also be lost: with the
thread of a caller that crashes, or with a worker that ends for good, which drops what waits in its
stripe as well.  `Shifts` says what a step moves into the books of a node and out of them.
-/

namespace CacheSync

/-- Whether a job is about an event of a cache. -/
def Job.isOf (cache : String) (job : Job) : Bool :=
  job.config.name == cache

theorem countP_singleton_isOf (cache : String) (job : Job) :
    [job].countP (Job.isOf cache) = if job.config.name = cache then 1 else 0 := by
  simp [Job.isOf, List.countP_singleton]

/-! ## Crews -/

namespace Crew

variable {α ω : Type}

/-- The jobs that wait in the rings of a producer or are with its workers. -/
def jobs : Crew Job Sending → List Job
  | .direct => []
  | .striped workers => workers.load Sending.job

/-- Each stripe of a crew is closed or a queue. -/
def Sound (crew : Crew α ω) : Prop :=
  ∀ workers, crew = .striped workers → workers.Sound

def isStriped : Crew α ω → Bool
  | .direct => false
  | .striped _ => true

/-- How many workers of a crew have ended, for whatever reason. -/
def endings : Crew α ω → Nat
  | .direct => 0
  | .striped workers => workers.endings

theorem sound_direct : (direct : Crew α ω).Sound := by
  rintro _ ⟨⟩

theorem sound_striped {workers : Workers α ω} : (striped workers).Sound ↔ workers.Sound := by
  refine ⟨fun sound => sound workers rfl, ?_⟩
  rintro sound _ ⟨⟩
  exact sound

/-- A crew that was just made has nothing to do. -/
theorem jobs_of_make {side : Side} {dispatch : Dispatch} {crew : Crew Job Sending}
    (made : make side dispatch = .ok crew) : crew.Sound ∧ crew.jobs = [] := by
  cases dispatch with
  | direct =>
      injection made with same
      exact same ▸ ⟨sound_direct, rfl⟩
  | striped stripes capacity =>
      simp only [make] at made
      cases crewed : (Workers.make side stripes capacity :
          Except ConfigError (Workers Job Sending)) with
      | error error =>
          rw [crewed] at made
          cases made
      | ok workers =>
          rw [crewed] at made
          injection made with same
          obtain ⟨sound, idle⟩ := Workers.load_of_make Sending.job crewed
          exact same ▸ ⟨sound_striped.2 sound, idle⟩

end Crew

/-! ## Tasks -/

/-- The jobs of a node that a task is to do. -/
def Task.jobs (index : Nat) : Task → List Job
  | .offer node job _ => if node = index then [job] else []
  | .send node sending => if node = index then [sending.job] else []
  | _ => []

/-- Whether a task puts a job into a ring of a node. -/
def Task.offers (index : Nat) : Task → Bool
  | .offer node _ _ => node == index
  | _ => false

def Caller.jobs (index : Nat) (caller : Caller) : List Job :=
  caller.tasks.flatMap (Task.jobs index)

def Caller.offers (index : Nat) (caller : Caller) : Bool :=
  caller.tasks.any (Task.offers index)

/-! ## The books of a node -/

namespace Node

variable {before after later : Node} {made : List Mark} {taken lost more gone : List Job}

/-- The books of a node about one cache: its events that were sent, that were not, and that its
producer has still to send. -/
def tally (node : Node) (cache : String) : Nat :=
  node.core.meter.count (.sent cache) + node.core.meter.count (.produceFailed cache) +
    node.producer.jobs.countP (Job.isOf cache)

/-- A step that takes some jobs into the books of a node and loses others. -/
structure Shifts (taken lost : List Job) (before after : Node) : Prop where
  sound : before.producer.Sound → after.producer.Sound
  tally_eq : before.producer.Sound → ∀ cache,
    after.tally cache + lost.countP (Job.isOf cache) =
      before.tally cache + taken.countP (Job.isOf cache)
  striped_eq : after.producer.isStriped = before.producer.isStriped
  endings_le : before.producer.endings ≤ after.producer.endings

namespace Shifts

theorem of_works (works : before.Works made after) (same : after.producer = before.producer)
    (counted : ∀ cache, made.count (.sent cache) + made.count (.produceFailed cache) =
      taken.countP (Job.isOf cache)) : before.Shifts taken [] after where
  sound sound := same ▸ sound
  tally_eq _ cache := by
    have sent := works.sent_eq cache
    have failed := works.failed_eq cache
    have counted := counted cache
    simp only [tally, same, List.countP_nil]
    omega
  striped_eq := by rw [same]
  endings_le := same ▸ Nat.le_refl _

theorem of_same (meter_eq : after.core.meter = before.core.meter)
    (producer_eq : after.producer = before.producer) : before.Shifts [] [] after where
  sound sound := producer_eq ▸ sound
  tally_eq _ cache := by rw [tally, meter_eq, producer_eq, tally]
  striped_eq := by rw [producer_eq]
  endings_le := producer_eq ▸ Nat.le_refl _

theorem refl (node : Node) : node.Shifts [] [] node :=
  of_same rfl rfl

theorem trans (first : before.Shifts taken lost after) (second : after.Shifts more gone later) :
    before.Shifts (taken ++ more) (lost ++ gone) later where
  sound sound := second.sound (first.sound sound)
  tally_eq sound cache := by
    have early := first.tally_eq sound cache
    have late := second.tally_eq (first.sound sound) cache
    simp only [List.countP_append]
    omega
  striped_eq := second.striped_eq.trans first.striped_eq
  endings_le := Nat.le_trans first.endings_le second.endings_le

/-- A job that is both taken in and lost does not show in the books. -/
theorem congr (shifts : before.Shifts taken lost after)
    (same : ∀ cache, taken.countP (Job.isOf cache) + gone.countP (Job.isOf cache) =
      more.countP (Job.isOf cache) + lost.countP (Job.isOf cache)) :
    before.Shifts more gone after :=
  { shifts with
    tally_eq := fun sound cache => by
      have books := shifts.tally_eq sound cache
      have same := same cache
      omega }

/-- A change of the workers of a producer. -/
theorem of_striped {workers changed : Workers Job Sending}
    (crew : before.producer = .striped workers)
    (counted : workers.Sound → changed.Sound ∧ ∀ cache,
      (changed.load Sending.job).countP (Job.isOf cache) + lost.countP (Job.isOf cache) =
        (workers.load Sending.job).countP (Job.isOf cache) + taken.countP (Job.isOf cache))
    (endings_le : workers.endings ≤ changed.endings) :
    before.Shifts taken lost { before with producer := .striped changed } where
  sound sound := Crew.sound_striped.2 (counted (sound workers crew)).1
  tally_eq sound cache := by
    have counted := (counted (sound workers crew)).2 cache
    simp only [tally, crew, Crew.jobs] at counted ⊢
    omega
  striped_eq := by
    rw [crew]
    rfl
  endings_le := by
    rw [crew]
    exact endings_le

end Shifts
end Node

namespace Cluster

variable {cluster middle after : Cluster} {watched index : Nat} {node changed : Node}
  {made : List Mark} {taken lost more gone : List Job}

/-! ## Shifts of jobs -/

/-- A step that takes some jobs into the books of the watched node and loses others. -/
def Shifts (cluster : Cluster) (watched : Nat) (taken lost : List Job) (after : Cluster) : Prop :=
  ∀ node, cluster.node? watched = some node →
    ∃ later, after.node? watched = some later ∧ node.Shifts taken lost later

theorem Works.shifts (works : cluster.Works watched made after)
    (counted : ∀ cache, made.count (.sent cache) + made.count (.produceFailed cache) =
      taken.countP (Job.isOf cache)) : cluster.Shifts watched taken [] after := by
  intro node found
  obtain ⟨later, there, works, same⟩ := works.node found
  exact ⟨later, there, .of_works works same counted⟩

/-- A step that marks nothing about events moves no job. -/
theorem Works.rests (works : cluster.Works watched [] after) :
    cluster.Shifts watched [] [] after :=
  works.shifts fun _ => rfl

/-- The marks of a step at one node, each about a job that it takes into the books of the node. -/
theorem Works.shifts_ite
    (works : cluster.Works watched (if index = watched then made else []) after)
    (counted : ∀ cache, made.count (.sent cache) + made.count (.produceFailed cache) =
      taken.countP (Job.isOf cache)) :
    cluster.Shifts watched (if index = watched then taken else []) [] after := by
  refine works.shifts fun cache => ?_
  split
  · exact counted cache
  · rfl

namespace Shifts

theorem trans (first : cluster.Shifts watched taken lost middle)
    (second : middle.Shifts watched more gone after) :
    cluster.Shifts watched (taken ++ more) (lost ++ gone) after := by
  intro node found
  obtain ⟨_, here, early⟩ := first node found
  obtain ⟨later, there, late⟩ := second _ here
  exact ⟨later, there, early.trans late⟩

theorem congr (shifts : cluster.Shifts watched taken lost after)
    (same : ∀ cache, taken.countP (Job.isOf cache) + gone.countP (Job.isOf cache) =
      more.countP (Job.isOf cache) + lost.countP (Job.isOf cache)) :
    cluster.Shifts watched more gone after := by
  intro node found
  obtain ⟨later, there, shifts⟩ := shifts node found
  exact ⟨later, there, shifts.congr same⟩

theorem of_setNode (found : cluster.node? index = some node)
    (shifts : node.Shifts taken lost changed) :
    cluster.Shifts watched (if index = watched then taken else [])
      (if index = watched then lost else []) (cluster.setNode index changed) := by
  intro other held
  rw [node?_setNode found]
  by_cases here : index = watched
  · subst here
    obtain rfl := Option.some.inj (held.symm.trans found)
    exact ⟨changed, if_pos rfl, by simpa using shifts⟩
  · rw [if_neg (Ne.symm here)]
    exact ⟨other, held, by simpa [here] using Node.Shifts.refl other⟩

/-- A change of the producer of one node. -/
theorem of_producer {workers : Workers Job Sending}
    (change : Workers Job Sending → Workers Job Sending) (taken lost : List Job)
    (found : cluster.node? index = some node) (crew : node.producer = .striped workers)
    (counted : workers.Sound → (change workers).Sound ∧ ∀ cache,
      ((change workers).load Sending.job).countP (Job.isOf cache) +
          lost.countP (Job.isOf cache) =
        (workers.load Sending.job).countP (Job.isOf cache) + taken.countP (Job.isOf cache))
    (endings_le : workers.endings ≤ (change workers).endings) :
    cluster.Shifts watched (if index = watched then taken else [])
      (if index = watched then lost else []) (cluster.modifyProducer index change) := by
  have set : cluster.modifyProducer index change =
      cluster.setNode index { node with producer := .striped (change workers) } := by
    simp only [modifyProducer, modifyNode, setNode]
    congr 1
    rw [List.modify_eq_set_getElem?]
    unfold node? at found
    simp [found, crew, Crew.modify]
  rw [set]
  exact of_setNode found (.of_striped crew counted endings_le)

end Shifts

/-! ## Workers of a producer -/

/-- Whether the worker that takes a step of a sending ends with it. -/
def SendStep.ends : SendStep → Bool
  | .done _ result => decide (verdictOf result ≠ .goOn)
  | .crashed _ => true
  | _ => false

/-- The jobs of a node that are lost with the step of one of its workers: a worker that ends takes
the job it worked on with it, and those that wait in its stripe. -/
def forfeited (cluster : Cluster) (index stripe : Nat) : List Job :=
  match (cluster.node? index).bind fun node => node.producer.workers? with
  | none => []
  | some workers =>
      match workers.work? stripe with
      | none => []
      | some sending =>
          if (cluster.sendStep index sending).ends then sending.job :: workers.dropped stripe
          else []

section Workers

variable {stripe : Nat} {workers : Workers Job Sending} {sending : Sending}

theorem node?_settleProducer (found : cluster.node? index = some node)
    (crew : node.producer = .striped workers) (verdict : Verdict) (marks : List Mark) :
    (cluster.settleProducer index stripe verdict marks).node? index =
      some { node.markAll (marks ++ Workers.verdictMarks .producer verdict) with
        producer := .striped (workers.settle stripe verdict) } := by
  simp only [settleProducer, modifyProducer, node?_modifyNode, ↓reduceIte, found, Option.map_some,
    Node.markAll, crew, Crew.modify]

/-- A verdict takes a job off a worker, and with the worker what waits for it. -/
theorem settleProducer_shifts (found : cluster.node? index = some node)
    (crew : node.producer = .striped workers) (busy : workers.work? stripe = some sending)
    (verdict : Verdict) (marks : List Mark) (taken : List Job)
    (apart : ∀ side, Mark.recoveryFailed side ∉ marks)
    (counted : ∀ cache, marks.count (.sent cache) + marks.count (.produceFailed cache) =
      taken.countP (Job.isOf cache)) :
    cluster.Shifts watched (if index = watched then taken else [])
      (if index = watched then workers.leaving Sending.job stripe sending verdict else [])
      (cluster.settleProducer index stripe verdict marks) := by
  have silent (side : Side) :
      Mark.recoveryFailed side ∉ marks ++ Workers.verdictMarks .producer verdict := by
    rw [List.mem_append, not_or]
    exact ⟨apart side, not_mem_verdictMarks _ _ _⟩
  have marked : cluster.Works watched (if index = watched then _ else [])
      (cluster.modifyNode index fun node =>
        node.markAll (marks ++ Workers.verdictMarks .producer verdict)) :=
    .of_modifyNode (fun node _ => .markAll node _ silent) fun _ => rfl
  have booked : cluster.Shifts watched (if index = watched then taken else []) [] _ :=
    marked.shifts_ite fun cache => by
      rw [← counted cache, List.count_append, List.count_append]
      cases verdict <;> simp [Workers.verdictMarks]
  have here : (cluster.modifyNode index fun node =>
      node.markAll (marks ++ Workers.verdictMarks .producer verdict)).node? index =
        some (node.markAll (marks ++ Workers.verdictMarks .producer verdict)) := by
    rw [node?_modifyNode, if_pos rfl, found]
    rfl
  have settled : Cluster.Shifts _ watched _ _ _ :=
    .of_producer (fun workers => workers.settle stripe verdict) []
      (workers.leaving Sending.job stripe sending verdict) here crew
      (fun sound => ⟨(Workers.load_settle Sending.job (fun _ => true) busy sound verdict).1,
        fun cache => (Workers.load_settle Sending.job (Job.isOf cache) busy sound verdict).2⟩)
      (Workers.countP_settle Worker.hasEnded (fun _ => rfl) busy verdict)
  refine (booked.trans settled).congr fun cache => ?_
  split <;> simp

theorem count_sentMarks (job : Job) (cache : String) :
    (Sending.sentMarks job).count (.sent cache) +
        (Sending.sentMarks job).count (.produceFailed cache) =
      [job].countP (Job.isOf cache) := by
  rw [countP_singleton_isOf]
  simp [Sending.sentMarks, List.count_cons]

/-- A worker that goes on after a failure has reported it; one that ends has not. -/
theorem count_resultMarks (job : Job) (error : ProduceError) (cache : String) :
    (resultMarks job (.error error)).count (.sent cache) +
        (resultMarks job (.error error)).count (.produceFailed cache) =
      (if verdictOf (.error error) = .goOn then [job] else []).countP (Job.isOf cache) := by
  cases error <;>
    simp [resultMarks, verdictOf, countP_singleton_isOf, List.count_singleton,
      -List.countP_singleton]

theorem countP_leaving (workers : Workers Job Sending) (stripe : Nat) (sending : Sending)
    (verdict : Verdict) (cache : String) :
    (workers.leaving Sending.job stripe sending verdict).countP (Job.isOf cache) =
      (if verdict = .goOn then [sending.job] else []).countP (Job.isOf cache) +
        (if verdict ≠ .goOn then sending.job :: workers.dropped stripe else []).countP
          (Job.isOf cache) := by
  cases verdict <;> simp [Workers.leaving]

/-- A worker counts what becomes of its job, unless it ends. -/
theorem producerWork_shifts (found : cluster.node? index = some node)
    (crew : node.producer = .striped workers) (busy : workers.work? stripe = some sending)
    (stepped : cluster.producerWork index stripe sending = some after) :
    cluster.Shifts watched []
      (if index = watched then
        if (cluster.sendStep index sending).ends then sending.job :: workers.dropped stripe else []
      else []) after := by
  have sent := cluster.sendStep_works index watched sending
  have here := cluster.sendStep_works index index sending
  -- A step of the sending leaves the workers as they are.
  have stays {middle : Cluster} {made : List Mark} (works : cluster.Works index made middle) :
      ∃ changed, middle.node? index = some changed ∧ changed.producer = .striped workers := by
    obtain ⟨changed, again, _, same⟩ := works.node found
    exact ⟨changed, again, same.trans crew⟩
  unfold producerWork at stepped
  cases outcome : cluster.sendStep index sending with
  | blocked =>
      rw [outcome] at stepped
      cases stepped
  | moved middle next =>
      rw [outcome] at stepped sent here
      injection stepped with same
      subst same
      obtain ⟨changed, found, crew⟩ := stays here.1
      have put : Cluster.Shifts _ watched _ _ _ :=
        .of_producer (fun workers => workers.setWorker stripe (.busy next)) [] [] found crew
          (fun sound => ⟨sound, fun cache =>
            Workers.load_work Sending.job (Job.isOf cache) busy here.2⟩)
          (Workers.countP_setWorker_le Worker.hasEnded (Workers.of_work? busy) rfl _)
      simpa [SendStep.ends] using sent.1.rests.trans put
  | done middle result =>
      rw [outcome] at stepped sent here
      injection stepped with same
      subst same
      cases result with
      | ok _ =>
          obtain ⟨changed, found, crew⟩ := stays here
          have booked : cluster.Shifts watched (if index = watched then _ else []) [] _ :=
            Works.shifts_ite sent (count_sentMarks sending.job)
          have settled : Cluster.Shifts _ watched _ _ _ :=
            settleProducer_shifts found crew busy .goOn [] [] (by simp) fun _ => rfl
          refine (booked.trans settled).congr fun cache => ?_
          split <;> simp [Workers.leaving, verdictOf, SendStep.ends]
      | error error =>
          obtain ⟨changed, found, crew⟩ := stays here
          have settled : Cluster.Shifts _ watched _ _ _ :=
            settleProducer_shifts found crew busy (verdictOf (.error error)) _ _
              (not_mem_resultMarks _ _) (count_resultMarks sending.job error)
          refine (sent.rests.trans settled).congr fun cache => ?_
          split
          · simp [countP_leaving, SendStep.ends]
          · rfl
  | crashed middle =>
      rw [outcome] at stepped sent here
      injection stepped with same
      subst same
      obtain ⟨changed, found, crew⟩ := stays here
      have settled : Cluster.Shifts _ watched _ _ _ :=
        settleProducer_shifts found crew busy .crashed [] [] (by simp) fun _ => rfl
      simpa [Workers.leaving, SendStep.ends] using sent.rests.trans settled

end Workers

theorem producerStep?_shifts {stripe : Nat}
    (stepped : cluster.producerStep? index stripe = some after) :
    cluster.Shifts watched [] (if index = watched then cluster.forfeited index stripe else [])
      after := by
  unfold producerStep? at stepped
  unfold forfeited
  cases held : (cluster.node? index).bind fun node => node.producer.workers? with
  | none =>
      rw [held] at stepped
      cases stepped
  | some workers =>
      obtain ⟨node, found, crew⟩ := Option.bind_eq_some_iff.1 held
      have crew := workers?_eq_some crew
      rw [held] at stepped
      dsimp only at stepped ⊢
      cases busy : workers.work? stripe with
      | some sending =>
          rw [busy] at stepped
          exact producerWork_shifts found crew busy stepped
      | none =>
          rw [busy] at stepped
          obtain ⟨later, taken, rfl⟩ := Option.map_eq_some_iff.1 stepped
          have kept (counts : Job → Bool) (sound : workers.Sound) :=
            Workers.load_take? Sending.job counts sound (fun _ => rfl) taken
          have changed : cluster.Shifts watched _ _ _ :=
            .of_producer (fun _ => later) [] [] found crew
              (fun sound => ⟨(kept (fun _ => true) sound).1, fun cache =>
                (kept (Job.isOf cache) sound).2⟩)
              (Workers.countP_take? Worker.hasEnded rfl taken)
          simpa using changed

/-- A worker that loses jobs has ended. -/
theorem endings_of_forfeited {stripe : Nat}
    (stepped : cluster.producerStep? index stripe = some after)
    (lost : cluster.forfeited index stripe ≠ []) :
    ∃ later, after.node? index = some later ∧ 0 < later.producer.endings := by
  unfold producerStep? at stepped
  unfold forfeited at lost
  cases held : (cluster.node? index).bind fun node => node.producer.workers? with
  | none => simp [held] at lost
  | some workers =>
      obtain ⟨node, found, crew⟩ := Option.bind_eq_some_iff.1 held
      have crew := workers?_eq_some crew
      rw [held] at stepped lost
      dsimp only at stepped lost
      cases busy : workers.work? stripe with
      | none => simp [busy] at lost
      | some sending =>
          simp only [busy] at stepped lost
          have here := cluster.sendStep_works index index sending
          have settled {middle : Cluster} {made : List Mark} {verdict : Verdict}
              (works : cluster.Works index made middle) (final : verdict ≠ .goOn)
              (marks : List Mark) : ∃ later,
                (middle.settleProducer index stripe verdict marks).node? index = some later ∧
                  0 < later.producer.endings := by
            obtain ⟨changed, again, _, same⟩ := works.node found
            exact ⟨_, node?_settleProducer again (same.trans crew) verdict marks,
              Workers.endings_settle_pos busy final⟩
          unfold producerWork at stepped
          cases outcome : cluster.sendStep index sending with
          | blocked => simp [outcome, SendStep.ends] at lost
          | moved middle next => simp [outcome, SendStep.ends] at lost
          | done middle result =>
              rw [outcome] at stepped here lost
              injection stepped with same
              subst same
              have final : verdictOf result ≠ .goOn := by
                intro goesOn
                simp [SendStep.ends, goesOn] at lost
              cases result with
              | ok _ => exact settled here final _
              | error _ => exact settled here final _
          | crashed middle =>
              rw [outcome] at stepped here
              injection stepped with same
              subst same
              exact settled here (by decide) _

end Cluster
end CacheSync
