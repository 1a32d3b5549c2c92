import CacheSync.Proofs.Cluster.Outbox

/-!
# The account of a node

What a node lets out is either counted as sent or as failed, still to be sent, or lost.  Every deed
of a course keeps this account, so that the counts of a node tell what it let out but for what was
lost; and nothing is lost as long as no worker of its producer has ended and no caller has crashed.
A striped producer whose worker gives up loses its events without counting them, though.
-/

namespace CacheSync

/-- An event that passes the outbound filter has its cache configured on a started node. -/
theorem Core.of_outbound {core : Core} {event : Event} {clock : Clock} {config : CacheConfig}
    (passed : (core.outbound event clock).2 = some config) :
    core.isStarted = true ∧ core.config.cache? event.cache = some config := by
  rw [outbound_snd] at passed
  unfold Frame.outbound? at passed
  split at passed
  next sent =>
    obtain ⟨configured, _⟩ := Option.filter_eq_some_iff.1 passed
    exact ⟨core.isStarted_iff.2 sent.1, configured⟩
  next => cases passed

namespace Cluster

variable {cluster middle after : Cluster} {watched index ticket : Nat} {node later : Node}
  {caller further : Caller} {task : Task} {rest : List Task}

/-! ## What a task lets out, and what is lost with its thread -/

/-- The event that a node lets out when its bus is told of it. -/
def lets (cluster : Cluster) (watched : Nat) : Task → List Event
  | .hear index event =>
      if index = watched then
        match cluster.node? index with
        | none => []
        | some node => if (node.core.outbound event cluster.clock).2.isSome then [event] else []
      else []
  | _ => []

/-- Whether the thread of a caller crashes with its next step. -/
def crashesOn (cluster : Cluster) : Task → Bool
  | .send index sending =>
      match cluster.sendStep index sending with
      | .crashed _ => true
      | _ => false
  | .spread spread =>
      match cluster.spreadStep spread with
      | .crashed _ => true
      | _ => false
  | .stop index .producer =>
      match cluster.node? index with
      | none => false
      | some node => (node.finishStop (.node index) cluster.hub).2.2
  | _ => false

/-- A step of a caller accounts for the jobs that the caller was to do. -/
structure Settles (cluster : Cluster) (watched : Nat) (node : Node) (caller : Caller) (task : Task)
    (middle : Cluster) (further : Caller) : Prop where
  moves : ∃ taken, cluster.Shifts watched taken [] middle ∧ ∀ cache,
    (further.jobs watched).countP (Job.isOf cache) + taken.countP (Job.isOf cache) +
        (if cluster.crashesOn task then caller.jobs watched else []).countP (Job.isOf cache) =
      (caller.jobs watched).countP (Job.isOf cache) +
        (cluster.lets watched task).countP (·.cache == cache)
  striped : further.offers watched = true → node.producer.isStriped = true
  reply_eq : further.reply = if cluster.crashesOn task then .crashed else caller.reply

/-- A crash takes all jobs of the caller with it. -/
theorem Settles.of_crash (works : cluster.Works watched [] middle)
    (crashes : cluster.crashesOn task = true) (silent : cluster.lets watched task = []) :
    cluster.Settles watched node caller task middle caller.crash where
  moves := by
    refine ⟨[], works.rests, fun cache => ?_⟩
    simp [Caller.jobs, Caller.crash, crashes, silent]
  striped offered := by cases offered
  reply_eq := by rw [crashes]; rfl

section Tasks

variable (shape : caller.tasks = task :: rest)
  (striped : caller.offers watched = true → node.producer.isStriped = true)

include shape striped

/-- A task that goes on as other ones, or is over, with what it lets out and the jobs that are in
the books now. -/
theorem Settles.of_over (tasks : List Task) (taken : List Job)
    (shifts : cluster.Shifts watched taken [] middle) (sound : cluster.crashesOn task = false)
    (jobs : ∀ cache, (tasks.flatMap (Task.jobs watched)).countP (Job.isOf cache) +
        taken.countP (Job.isOf cache) =
      (task.jobs watched).countP (Job.isOf cache) +
        (cluster.lets watched task).countP (·.cache == cache))
    (offers : tasks.any (Task.offers watched) = true →
      task.offers watched = true ∨ node.producer.isStriped = true) :
    cluster.Settles watched node caller task middle (caller.goOn (tasks ++ rest)) where
  moves := by
    refine ⟨taken, shifts, fun cache => ?_⟩
    have jobs := jobs cache
    simp only [Caller.jobs, Caller.goOn, shape, List.flatMap_append, List.flatMap_cons,
      List.countP_append, sound, Bool.false_eq_true, ↓reduceIte, List.countP_nil]
    omega
  striped offered := by
    simp only [Caller.offers, shape, List.any_cons] at striped
    simp only [Caller.offers, Caller.goOn, List.any_append, Bool.or_eq_true] at offered
    rcases offered with now | later
    · rcases offers now with before | here
      · exact striped (by rw [before, Bool.true_or])
      · exact here
    · exact striped (by rw [later, Bool.or_true])
  reply_eq := by rw [sound]; rfl

end Tasks

/-- The bus counts a job that was not sent. -/
theorem produceFailed_shifts (works : cluster.Works watched [] middle) (job : Job) :
    cluster.Shifts watched (if index = watched then [job] else []) []
      (middle.modifyNode index fun node => node.mark (.produceFailed job.config.name)) := by
  have marked : middle.Works watched
      (if index = watched then [.produceFailed job.config.name] else [])
      (middle.modifyNode index fun node => node.mark (.produceFailed job.config.name)) :=
    .of_modifyNode (fun node _ => .markAll node [_] (by simp)) fun _ => rfl
  refine works.rests.trans (marked.shifts_ite fun cache => ?_)
  rw [countP_singleton_isOf]
  simp [List.count_singleton]

section Steps

variable (striped : caller.offers watched = true → node.producer.isStriped = true)

include striped

theorem hearStep_settles {event : Event} (found : cluster.node? watched = some node)
    (running : node.core.isStarted = true → node.pipeline = .running)
    (consistent : node.core.config.Consistent)
    (shape : caller.tasks = .hear index event :: rest)
    (stepped : cluster.hearStep caller rest index event = some (middle, further)) :
    cluster.Settles watched node caller (.hear index event) middle further := by
  unfold hearStep at stepped
  split at stepped
  next none =>
    cases stepped
    have other : index ≠ watched := by
      rintro rfl
      rw [found] at none
      cases none
    refine .of_over shape striped [] [] (Works.refl _ watched).rests rfl ?_ (by simp)
    simp [lets, other, Task.jobs]
  next held there =>
    have decided : cluster.Works watched [] _ :=
      .setNode_unmarked there (.of_core (held.core.outbound_lasts event cluster.clock)) rfl
    dsimp only at stepped
    split at stepped
    next kept =>
      cases stepped
      refine .of_over shape striped [] [] decided.rests rfl ?_ (by simp)
      simp [lets, there, kept, Task.jobs]
    next config passed =>
      obtain ⟨started, configured⟩ := Core.of_outbound passed
      split at stepped
      next idle =>
        cases stepped
        have other : index ≠ watched := by
          rintro rfl
          obtain rfl := Option.some.inj (there.symm.trans found)
          exact idle (running started)
        refine .of_over shape striped [] [] decided.rests rfl ?_ (by simp)
        simp [lets, other, Task.jobs]
      · cases stepped
        refine .of_over shape striped [_] [] decided.rests rfl (fun cache => ?_) ?_
        · by_cases here : index = watched
          · subst here
            obtain rfl := Option.some.inj (there.symm.trans found)
            have named := consistent.name_eq configured
            cases held.producer <;>
              simp [lets, found, passed, Task.jobs, Sending.ofJob, Job.isOf, named,
                List.countP_singleton]
          · cases held.producer <;> simp [lets, here, Task.jobs]
        · intro offers
          refine Or.inr ?_
          cases crew : held.producer with
          | direct => simp [crew, Task.offers] at offers
          | striped workers =>
              have here : index = watched := by simpa [crew, Task.offers] using offers
              subst here
              obtain rfl := Option.some.inj (there.symm.trans found)
              rw [crew]
              rfl

/-- A job that is taken in is with the producer, and one that is refused is counted. -/
theorem offerStep_settles {job : Job} {waited : Bool} (loyal : caller.bare = false)
    (found : cluster.node? watched = some node)
    (shape : caller.tasks = .offer index job waited :: rest)
    (stepped : cluster.offerStep caller rest index job waited = some (middle, further)) :
    cluster.Settles watched node caller (.offer index job waited) middle further := by
  unfold offerStep at stepped
  split at stepped
  next none =>
    cases stepped
    have other : index ≠ watched := by
      rintro rfl
      rw [found, Option.bind_some] at none
      have crew := striped (by simp [Caller.offers, shape, Task.offers])
      cases producer : node.producer with
      | direct => rw [producer] at crew; cases crew
      | striped workers => rw [producer] at none; cases none
    refine .of_over shape striped [] [] (Works.refl _ watched).rests rfl ?_ (by simp)
    simp [lets, other, Task.jobs]
  next workers held =>
    obtain ⟨there, here, crew⟩ := Option.bind_eq_some_iff.1 held
    have crew := workers?_eq_some crew
    split at stepped
    next more accepted =>
      cases stepped
      have kept (counts : Job → Bool) (sound : workers.Sound) :=
        Workers.load_offer Sending.job counts sound accepted
      have added : cluster.Shifts watched _ (if index = watched then [] else []) _ :=
        .of_producer (fun _ => more) [job] [] here crew
          (fun sound => ⟨(kept (fun _ => true) sound).1, fun cache =>
            (kept (Job.isOf cache) sound).2⟩)
          (Nat.le_of_eq
            (congrArg (List.countP Worker.hasEnded) (Workers.workers_offer accepted)).symm)
      rw [ite_self] at added
      have marked (middle : Cluster) : middle.Works watched [] (middle.modifyNode index fun node =>
          markIf node waited (.ringFull .producer)) :=
        .of_modifyNode_unmarked (fun node _ => markIf_works node waited .producer) fun node => by
          unfold markIf
          split <;> rfl
      refine .of_over shape striped [] _ (added.trans (marked _).rests) rfl (fun cache => ?_)
        (by simp)
      simp only [Task.jobs, lets]
      split <;> simp
    next =>
      split at stepped
      · cases stepped
      · cases stepped
        refine .of_over shape striped [_] [] (Works.refl _ watched).rests rfl (fun cache => ?_)
          fun offers => Or.inl ?_
        · simp [Task.jobs, lets]
        · simpa [Task.offers] using offers
    next =>
      rw [notSent_of_loyal loyal] at stepped
      cases stepped
      refine .of_over shape striped [] _ (produceFailed_shifts (Works.refl _ watched) job) rfl
        (fun cache => ?_) (by simp)
      simp only [Task.jobs, lets]
      split <;> simp

/-- A sending on the thread of its caller is counted, however it ends. -/
theorem directStep_settles {sending : Sending} (loyal : caller.bare = false)
    (shape : caller.tasks = .send index sending :: rest)
    (stepped : cluster.directStep caller rest index sending = some (middle, further)) :
    cluster.Settles watched node caller (.send index sending) middle further := by
  have sent := cluster.sendStep_works index watched sending
  have counted (cache : String) : (if index = watched then [sending.job] else []).countP
      (Job.isOf cache) = ((Task.send index sending).jobs watched).countP (Job.isOf cache) +
        (cluster.lets watched (.send index sending)).countP (·.cache == cache) := rfl
  unfold directStep at stepped
  split at stepped
  next moved next outcome =>
    rw [outcome] at sent
    cases stepped
    refine .of_over shape striped [_] [] sent.1.rests ?_ (fun cache => ?_) ?_
    · simp [crashesOn, outcome]
    · simp [Task.jobs, lets, sent.2]
    · simp [Task.offers]
  · cases stepped
  next done outcome =>
    rw [outcome] at sent
    cases stepped
    refine .of_over shape striped [] _ (Works.shifts_ite sent (count_sentMarks sending.job)) ?_
      (fun cache => ?_) (by simp)
    · simp [crashesOn, outcome]
    · rw [← counted]
      exact Nat.zero_add _
  next done error outcome =>
    rw [outcome] at sent
    rw [notSent_of_loyal loyal] at stepped
    cases stepped
    refine .of_over shape striped [] _ (produceFailed_shifts sent sending.job) ?_
      (fun cache => ?_) (by simp)
    · simp [crashesOn, outcome]
    · rw [← counted]
      exact Nat.zero_add _
  next crashed outcome =>
    rw [outcome] at sent
    cases stepped
    exact .of_crash sent (by simp [crashesOn, outcome]) rfl

theorem outsideStep_settles {spread : Spread} (shape : caller.tasks = .spread spread :: rest)
    (stepped : cluster.outsideStep caller rest spread = some (middle, further)) :
    cluster.Settles watched node caller (.spread spread) middle further := by
  have handed := cluster.spreadStep_works watched spread
  unfold outsideStep at stepped
  split at stepped
  next moved next outcome =>
    rw [outcome] at handed
    cases stepped
    refine .of_over shape striped [_] [] handed.rests ?_ (fun cache => ?_) (by simp [Task.offers])
    · simp [crashesOn, outcome]
    · simp [Task.jobs, lets]
  · cases stepped
  next done outcome =>
    rw [outcome] at handed
    obtain rfl : done = cluster := handed
    cases stepped
    refine .of_over shape striped [] [] (Works.refl _ watched).rests ?_ (fun cache => ?_) (by simp)
    · simp [crashesOn, outcome]
    · simp [Task.jobs, lets]
  next crashed outcome =>
    rw [outcome] at handed
    cases stepped
    exact .of_crash handed (by simp [crashesOn, outcome]) rfl

theorem haltStep_settles (shape : caller.tasks = .halt index :: rest)
    (stepped : cluster.haltStep caller rest index = some (middle, further)) :
    cluster.Settles watched node caller (.halt index) middle further := by
  have ends : cluster.Settles watched node caller (.halt index) cluster (caller.goOn rest) :=
    .of_over shape striped [] [] (Works.refl _ watched).rests rfl (by simp [Task.jobs, lets])
      (by simp)
  unfold haltStep at stepped
  split at stepped
  · cases stepped
    exact ends
  · split at stepped
    · cases stepped
      exact ends
    · cases stepped

/-- The stop of another node does not matter. -/
theorem stopStep_settles {stage : StopStage} (other : index ≠ watched)
    (shape : caller.tasks = .stop index stage :: rest)
    (stepped : cluster.stopStep caller rest index stage = some (middle, further)) :
    cluster.Settles watched node caller (.stop index stage) middle further := by
  have works : cluster.Works watched [] middle := works_of_stopStep other stepped
  have ends (tasks : List Task) (jobless : tasks.flatMap (Task.jobs watched) = [])
      (offerless : tasks.any (Task.offers watched) = false)
      (sound : cluster.crashesOn (.stop index stage) = false) :
      cluster.Settles watched node caller (.stop index stage) middle
        (caller.goOn (tasks ++ rest)) :=
    .of_over shape striped tasks [] works.rests sound (by simp [jobless, Task.jobs, lets])
      (by simp [offerless])
  unfold stopStep at stepped
  split at stepped
  next absent =>
    cases stepped
    exact ends [] rfl rfl (by cases stage <;> simp [crashesOn, absent])
  next stopped there =>
    split at stepped
    · split at stepped
      · cases stepped
        exact ends [_] rfl rfl rfl
      · cases stepped
    · split at stepped
      · have crashes_eq : cluster.crashesOn (.stop index .producer) =
            (stopped.finishStop (.node index) cluster.hub).2.2 := by simp [crashesOn, there]
        generalize stopped.finishStop (.node index) cluster.hub = result at stepped crashes_eq
        obtain ⟨_, _, crashed⟩ := result
        cases stepped
        cases crashed with
        | true => exact .of_crash works crashes_eq rfl
        | false => exact ends [] rfl rfl crashes_eq
      · cases stepped

theorem taskStep_settles (loyal : caller.bare = false) (found : cluster.node? watched = some node)
    (running : node.core.isStarted = true → node.pipeline = .running)
    (consistent : node.core.config.Consistent) (shape : caller.tasks = task :: rest)
    (apart : task.isStopOf watched = false)
    (stepped : cluster.taskStep caller task rest = some (middle, further)) :
    cluster.Settles watched node caller task middle further := by
  cases task with
  | hear index event => exact hearStep_settles striped found running consistent shape stepped
  | offer index job waited => exact offerStep_settles striped loyal found shape stepped
  | send index sending => exact directStep_settles striped loyal shape stepped
  | spread spread => exact outsideStep_settles striped shape stepped
  | stop index stage =>
      exact stopStep_settles striped (by simpa [Task.isStopOf] using apart) shape stepped
  | halt index => exact haltStep_settles striped shape stepped

end Steps

/-! ## The account of a course -/

/-- The jobs of a node that are with callers. -/
def jobs (cluster : Cluster) (index : Nat) : List Job :=
  cluster.callers.flatMap (Caller.jobs index)

/-- The task that a thread goes on with, if it is a caller. -/
def task? (cluster : Cluster) : Deed → Option (Caller × Task)
  | .step (.caller ticket) =>
      (cluster.caller? ticket).bind fun caller => caller.tasks.head?.map fun task => (caller, task)
  | _ => none

/-- The events that a deed lets out of a node. -/
def passing (index : Nat) (cluster : Cluster) (deed : Deed) : List Event :=
  match cluster.task? deed with
  | none => []
  | some (_, task) => cluster.lets index task

/-- The jobs of a node that are lost with a deed: those of a caller that crashes, and those that go
with a worker that ends. -/
def losing (index : Nat) (cluster : Cluster) (deed : Deed) : List Job :=
  match deed with
  | .step (.producerWorker node stripe) =>
      if node = index then cluster.forfeited node stripe else []
  | _ =>
      match cluster.task? deed with
      | none => []
      | some (caller, task) => if cluster.crashesOn task then caller.jobs index else []

/-- The invariant of a node that was `origin` before the course: its account of what it has let out
and of what was lost. -/
structure Accounts (origin : Node) (passed : List Event) (lost : List Job) (index : Nat)
    (cluster : Cluster) (node : Node) : Prop where
  unstriped : node.core.lifecycle = .created → node.producer.isStriped = false
  sound : node.producer.Sound
  offered : ∀ caller ∈ cluster.callers, caller.offers index = true →
    node.producer.isStriped = true
  balanced : ∀ cache,
    node.tally cache + (cluster.jobs index).countP (Job.isOf cache) +
        lost.countP (Job.isOf cache) =
      origin.tally cache + passed.countP (·.cache == cache)
  lossless : node.producer.endings = 0 → (∀ caller ∈ cluster.callers, caller.reply ≠ .crashed) →
    lost = []

/-- The tasks of a request hold no jobs; an event becomes a job when the bus hears of it. -/
theorem jobs_of_begin? {request : Request} {begun : Begun} (bus : request.isOfBus = true)
    (began : cluster.begin? request = some begun) (index : Nat) :
    begun.tasks.flatMap (Task.jobs index) = [] ∧ begun.tasks.any (Task.offers index) = false := by
  cases request with
  | operate node cache guarded call =>
      obtain ⟨node, _, began⟩ := Option.bind_eq_some_iff.1 began
      obtain ⟨operated, _, rfl⟩ := Option.map_eq_some_iff.1 began
      exact ⟨by simp [Task.jobs], by simp [Task.offers]⟩
  | send node event =>
      cases began
      exact ⟨rfl, rfl⟩
  | receive node body =>
      obtain ⟨node, _, rfl⟩ := Option.map_eq_some_iff.1 began
      exact ⟨rfl, rfl⟩
  | deliver message =>
      cases began
      exact ⟨rfl, rfl⟩
  | start node =>
      obtain ⟨node, _, rfl⟩ := Option.map_eq_some_iff.1 began
      exact ⟨rfl, rfl⟩
  | stop node =>
      obtain ⟨node, _, rfl⟩ := Option.map_eq_some_iff.1 began
      unfold stopNode
      split <;> exact ⟨rfl, rfl⟩
  | produce node job => cases bus
  | halt node => cases bus

namespace Accounts

variable {origin : Node} {passed now : List Event} {lost taken dropped gone : List Job}

theorem of_fresh (fresh : node.Fresh) (nodes : List Node) (clock : Clock) :
    (ofNodes nodes clock).Accounts node [] [] index node := by
  have direct : node.producer = .direct := by rw [fresh.new_eq]; rfl
  refine ⟨fun _ => by rw [direct]; rfl, by rw [direct]; exact Crew.sound_direct, ?_, fun _ => rfl,
    fun _ _ => rfl⟩
  rintro caller ⟨⟩

/-- Jobs that leave the callers for the books of the node, or that are let out or lost. -/
theorem go (accounts : cluster.Accounts origin passed lost index node)
    (shifts : node.Shifts taken dropped later)
    (created : later.core.lifecycle = .created → node.core.lifecycle = .created)
    (offered : ∀ caller ∈ after.callers, caller.offers index = true →
      node.producer.isStriped = true)
    (jobs : ∀ cache, (after.jobs index).countP (Job.isOf cache) + taken.countP (Job.isOf cache) +
        gone.countP (Job.isOf cache) =
      (cluster.jobs index).countP (Job.isOf cache) + dropped.countP (Job.isOf cache) +
        now.countP (·.cache == cache))
    (lossless : later.producer.endings = 0 →
      (∀ caller ∈ after.callers, caller.reply ≠ .crashed) →
        (∀ caller ∈ cluster.callers, caller.reply ≠ .crashed) ∧ gone = []) :
    after.Accounts origin (passed ++ now) (lost ++ gone) index later where
  unstriped stage := by
    rw [shifts.striped_eq]
    exact accounts.unstriped (created stage)
  sound := shifts.sound accounts.sound
  offered caller member offers := by
    rw [shifts.striped_eq]
    exact offered caller member offers
  balanced cache := by
    have before := accounts.balanced cache
    have books := shifts.tally_eq accounts.sound cache
    have jobs := jobs cache
    simp only [List.countP_append] at books ⊢
    omega
  lossless none sound := by
    obtain ⟨before, nothing⟩ := lossless none sound
    rw [accounts.lossless (Nat.eq_zero_of_le_zero (none ▸ shifts.endings_le)) before, nothing]
    rfl

/-- A deed of which the callers know nothing. -/
theorem of_calls (accounts : cluster.Accounts origin passed lost index node)
    (shifts : node.Shifts [] gone later)
    (created : later.core.lifecycle = .created → node.core.lifecycle = .created)
    (callers_eq : after.callers = cluster.callers)
    (lossless : later.producer.endings = 0 → gone = []) :
    after.Accounts origin (passed ++ []) (lost ++ gone) index later := by
  refine accounts.go shifts created (callers_eq ▸ accounts.offered) (fun cache => ?_)
    fun none sound => ⟨callers_eq ▸ sound, lossless none⟩
  simp [jobs, callers_eq]

/-- A caller joins the others, with no job. -/
theorem enlist (accounts : cluster.Accounts origin passed lost index node)
    (shifts : node.Shifts [] [] later)
    (created : later.core.lifecycle = .created → node.core.lifecycle = .created)
    (calls_eq : middle.calls = cluster.calls) {tasks : List Task} (reply : Reply)
    (jobless : tasks.flatMap (Task.jobs index) = [])
    (offerless : tasks.any (Task.offers index) = false) :
    (middle.enlist tasks reply).Accounts origin (passed ++ []) (lost ++ []) index later := by
  obtain ⟨callers_eq, _⟩ := Prod.mk.inj calls_eq
  have member_iff (caller : Caller) : caller ∈ (middle.enlist tasks reply).callers ↔
      caller ∈ cluster.callers ∨ caller = ⟨middle.nextTicket, tasks, reply, false⟩ := by
    simp [Cluster.enlist, callers_eq]
  refine accounts.go shifts created (fun caller member offers => ?_) (fun cache => ?_)
    fun _ sound => ⟨fun caller member => sound caller ((member_iff caller).2 (Or.inl member)), rfl⟩
  · rcases (member_iff caller).1 member with early | rfl
    · exact accounts.offered caller early offers
    · rw [Caller.offers, offerless] at offers
      cases offers
  · simp [jobs, Cluster.enlist, callers_eq, Caller.jobs, jobless]

/-- A caller takes a step. -/
theorem setCaller (accounts : cluster.Accounts origin passed lost index node)
    (orderly : cluster.Orderly) (held : cluster.caller? ticket = some caller)
    (settles : cluster.Settles index node caller task middle further)
    (proceeds : cluster.Proceeds caller task rest middle further)
    (found : cluster.node? index = some node) :
    ∃ later, middle.node? index = some later ∧
      ((later.core.lifecycle = .created → node.core.lifecycle = .created) →
        (middle.setCaller further).Accounts origin (passed ++ cluster.lets index task)
          (lost ++ if cluster.crashesOn task then caller.jobs index else []) index later) := by
  obtain ⟨taken, shifts, moves⟩ := settles.moves
  obtain ⟨later, there, shifts⟩ := shifts node found
  obtain ⟨place, here, callers_eq⟩ :=
    orderly.callers_setCaller held proceeds.calls_eq proceeds.ticket_eq
  refine ⟨later, there, fun created => accounts.go shifts created (fun other member offers => ?_)
    (fun cache => ?_) fun _ sound => ?_⟩
  · rw [callers_eq] at member
    rcases List.mem_or_eq_of_mem_set member with early | rfl
    · exact accounts.offered other early offers
    · exact settles.striped offers
  · have changed := countP_flatMap_set (Job.isOf cache) (Caller.jobs index) here further
    have moves := moves cache
    simp only [jobs, callers_eq, List.countP_nil]
    omega
  · rw [callers_eq] at sound
    obtain ⟨inRange, _⟩ := List.getElem?_eq_some_iff.1 here
    have survives := sound further (List.mem_set inRange _)
    rw [settles.reply_eq] at survives
    have safe : cluster.crashesOn task = false := by
      by_contra crashes
      rw [Bool.not_eq_false] at crashes
      exact survives (if_pos crashes)
    rw [safe] at survives ⊢
    refine ⟨fun other member => ?_, rfl⟩
    obtain ⟨spot, inside, rfl⟩ := List.mem_iff_getElem.1 member
    by_cases same : place = spot
    · subst same
      rw [List.getElem?_eq_getElem inRange] at here
      rw [Option.some.inj here]
      exact survives
    · refine sound _ (List.mem_iff_getElem.2 ⟨spot, by simpa using inside, ?_⟩)
      rw [List.getElem_set_ne same]

/-- A start gives a node that was just created a crew with nothing to do. -/
theorem equip (accounts : cluster.Accounts origin passed lost index node)
    (created : node.core.lifecycle = .created) {side : Side} {dispatch : Dispatch}
    (made : Crew.make side dispatch = .ok later.producer)
    (started : later.core.lifecycle ≠ .created) (meter_eq : later.core.meter = node.core.meter) :
    cluster.Accounts origin passed lost index later := by
  have unstriped := accounts.unstriped created
  have direct : node.producer = .direct := by
    cases crew : node.producer with
    | direct => rfl
    | striped workers =>
        rw [crew] at unstriped
        cases unstriped
  obtain ⟨sound, jobless⟩ := Crew.jobs_of_make made
  refine ⟨fun stage => absurd stage started, sound, fun caller member offers => ?_, fun cache => ?_,
    fun _ => accounts.lossless (by rw [direct]; rfl)⟩
  · have striped := accounts.offered caller member offers
    rw [unstriped] at striped
    cases striped
  · have books : later.tally cache = node.tally cache := by
      rw [Node.tally, Node.tally, meter_eq, jobless, direct]
      rfl
    rw [books]
    exact accounts.balanced cache

end Accounts

/-! ## Every deed -/

theorem Passage.created_of_created {deed : Deed}
    (passage : cluster.Passage after index node later deed)
    (created : later.core.lifecycle = .created) : node.core.lifecycle = .created := by
  have forward := passage.forward
  rw [created] at forward
  cases stage : node.core.lifecycle with
  | created => rfl
  | started => simp [stage, Lifecycle.age] at forward
  | stopped => simp [stage, Lifecycle.age] at forward

theorem Passage.stopped_of_stopped {deed : Deed}
    (passage : cluster.Passage after index node later deed)
    (stopped : node.core.lifecycle = .stopped) : later.core.lifecycle = .stopped := by
  have forward := passage.forward
  rw [stopped] at forward
  cases stage : later.core.lifecycle with
  | stopped => rfl
  | created => simp [stage, Lifecycle.age] at forward
  | started => simp [stage, Lifecycle.age] at forward

/-- No turn changes the books of a node. -/
theorem turn_shifts (node : Node) (turn : Turn) : node.Shifts [] [] (node.turn turn) := by
  have registered (caches : List String) : ∀ node : Node,
      node.Shifts [] [] (caches.foldl Node.registerOn node) := by
    induction caches with
    | nil => exact .refl
    | cons cache rest inductionHypothesis =>
        intro node
        have here : node.Shifts [] [] (node.registerOn cache) := by
          unfold Node.registerOn
          split
          · exact .refl node
          · split
            · exact .refl node
            · exact .of_same rfl rfl
        exact here.trans (inductionHypothesis _)
  cases turn with
  | register =>
      change node.Shifts [] [] node.register.1
      unfold Node.register
      split
      · exact .refl node
      · exact registered _ node
  | attach cache =>
      change node.Shifts [] [] (((node.attach cache).map (·.1)).getD node)
      unfold Node.attach
      cases node.core.shelf.store? cache with
      | none => exact .refl node
      | some store => exact .of_same rfl rfl
  | create cache => exact .of_same rfl rfl
  | release => exact .of_same rfl rfl
  | connect connected => exact .of_same rfl rfl
  | extendScript fates => exact .of_same rfl rfl
  | openGate => exact .of_same rfl rfl

/-- A start leaves the books of its node, or it gives the node a crew with nothing to do. -/
theorem startNode_books (found : cluster.node? index = some node) :
    ∃ later, (cluster.startNode index node).cluster.node? index = some later ∧
      (node.Shifts [] [] later ∨ node.core.lifecycle = .created ∧ later.core.lifecycle = .started ∧
        later.core.meter = node.core.meter ∧
          Crew.make .producer node.core.config.producer = .ok later.producer) := by
  have outset := node.start_outset (.node index) cluster.hub
  unfold startNode
  generalize node.start (.node index) cluster.hub = result at outset
  cases outset with
  | failed =>
      exact ⟨_, (node?_setNode found _ index).trans (if_pos rfl), Or.inl (.of_same rfl rfl)⟩
  | joined stage opened still faults_eq producer_eq consumer_eq =>
      exact ⟨_, (node?_setNode found _ index).trans (if_pos rfl),
        Or.inr ⟨stage, rfl, rfl, producer_eq⟩⟩

/-- A stop that is not refused takes its node out of work. -/
theorem stopNode_books (found : cluster.node? index = some node) :
    ∃ later, (cluster.stopNode index node).cluster.node? index = some later ∧
      (later.core.lifecycle = .stopped ∨ later = node) := by
  unfold stopNode Node.beginStop
  cases node.core.lifecycle with
  | created => exact ⟨node, found, Or.inr rfl⟩
  | stopped => exact ⟨node, found, Or.inr rfl⟩
  | started => exact ⟨_, (node?_setNode found _ index).trans (if_pos rfl), Or.inl rfl⟩

section Deeds

variable {origin : Node} {passed : List Event} {lost : List Job} {deeds : List Deed} {deed : Deed}

theorem Accounts.ask (accounts : cluster.Accounts origin passed lost index node)
    (found : cluster.node? index = some node) {request : Request}
    (did : cluster.do? (.ask request) = some after) (here : after.node? index = some later)
    (unstopped : later.core.lifecycle ≠ .stopped)
    (created : later.core.lifecycle = .created → node.core.lifecycle = .created) :
    after.Accounts origin (passed ++ []) (lost ++ []) index later := by
  obtain ⟨bus, begun, began, rfl⟩ := of_ask did
  have calls_eq : begun.cluster.calls = (cluster.pass stepTime).calls := calls_of_begin? began
  obtain ⟨jobless, offerless⟩ := jobs_of_begin? bus began index
  have there : (cluster.pass stepTime).node? index = some node := found
  have enlisted {changed : Node} (moved : begun.cluster.node? index = some changed)
      (shifts : node.Shifts [] [] changed) : Cluster.Accounts origin (passed ++ []) (lost ++ [])
        index (begun.cluster.enlist begun.tasks begun.reply) later := by
    obtain rfl := Option.some.inj (here.symm.trans moved)
    exact accounts.enlist shifts created calls_eq _ jobless offerless
  by_cases starts : request = .start index
  · subst starts
    simp only [begin?, there, Option.map_some, Option.some.injEq] at began
    subst began
    obtain ⟨changed, moved, shifts | ⟨stage, started, meter_eq, made⟩⟩ := startNode_books there
    · exact enlisted moved shifts
    · obtain rfl := Option.some.inj (here.symm.trans moved)
      have equipped := accounts.equip stage made (by simp [started]) meter_eq
      exact equipped.enlist (.refl _) id calls_eq _ jobless offerless
  · by_cases stops : request = .stop index
    · subst stops
      simp only [begin?, there, Option.map_some, Option.some.injEq] at began
      subst began
      obtain ⟨changed, moved, stopped | rfl⟩ := stopNode_books there
      · obtain rfl := Option.some.inj (here.symm.trans moved)
        exact absurd stopped unstopped
      · exact enlisted moved (.refl _)
    · obtain ⟨changed, moved, shifts⟩ :=
        (works_of_begin? bus began starts stops).rests node there
      exact enlisted moved shifts

theorem Accounts.step (accounts : cluster.Accounts origin passed lost index node)
    (lives : cluster.Lives origin deeds index node) (orderly : cluster.Orderly)
    (consistent : origin.core.config.Consistent) (found : cluster.node? index = some node)
    (unstopped : node.core.lifecycle ≠ .stopped) {thread : Thread}
    (did : cluster.do? (.step thread) = some after) (here : after.node? index = some later)
    (created : later.core.lifecycle = .created → node.core.lifecycle = .created) :
    after.Accounts origin (passed ++ passing index cluster (.step thread))
      (lost ++ losing index cluster (.step thread)) index later := by
  obtain ⟨middle, stepped, rfl⟩ := Option.map_eq_some_iff.1 did
  have rest (works : cluster.Works index [] middle) :
      (middle.pass stepTime).Accounts origin (passed ++ []) (lost ++ []) index later := by
    obtain ⟨changed, moved, shifts⟩ := works.rests node found
    obtain rfl := Option.some.inj (here.symm.trans moved)
    exact accounts.of_calls shifts created (Prod.mk.inj works.calls_eq).1 fun _ => rfl
  cases thread with
  | consumerWorker other stripe => exact rest (consumerStep?_works stepped)
  | cleaner other => exact rest (cleanerStep?_works stepped)
  | producerWorker other stripe =>
      have stepped : cluster.producerStep? other stripe = some middle := stepped
      obtain ⟨changed, moved, shifts⟩ := producerStep?_shifts stepped node found
      obtain rfl := Option.some.inj (here.symm.trans moved)
      have retains : cluster.Retains index middle := producerStep?_retains stepped
      refine accounts.of_calls shifts created (Prod.mk.inj retains.calls_eq).1 fun none => ?_
      have losing_eq : losing index cluster (.step (.producerWorker other stripe)) =
          if other = index then cluster.forfeited other stripe else [] := rfl
      rw [losing_eq]
      by_contra lost
      by_cases same : other = index
      · subst same
        rw [if_pos rfl] at lost
        obtain ⟨last, there, positive⟩ := endings_of_forfeited stepped lost
        obtain rfl := Option.some.inj (moved.symm.trans there)
        omega
      · exact lost (if_neg same)
  | caller ticket =>
      obtain ⟨caller, task, rest, next, further, held, shape, moved, proceeds, rfl⟩ :=
        orderly.callerStep? stepped
      have loyal := orderly.loyal caller (mem_of_caller? held).1
      -- A caller that stops the node would have stopped it by now.
      have apart : task.isStopOf index = false := by
        by_contra stops
        rw [Bool.not_eq_false] at stops
        refine unstopped (lives.of_stopping ?_)
        rw [stopping, List.any_eq_true]
        exact ⟨caller, (mem_of_caller? held).1, by rw [Caller.stops, shape, List.any_cons, stops,
          Bool.true_or]⟩
      have settles : cluster.Settles index node caller task next further :=
        taskStep_settles (accounts.offered caller (mem_of_caller? held).1) loyal found
          (fun started => lives.running_iff.2 (by simpa [Core.isStarted] using started))
          (lives.config_eq ▸ consistent) shape apart moved
      obtain ⟨changed, there, settled⟩ := accounts.setCaller orderly held settles proceeds found
      obtain rfl := Option.some.inj (here.symm.trans there)
      have settled := settled created
      have now : cluster.task? (.step (.caller ticket)) = some (caller, task) := by
        simp [task?, held, shape]
      simp only [passing, losing, now]
      exact ⟨settled.unstriped, settled.sound, settled.offered, settled.balanced, settled.lossless⟩

theorem Accounts.proceed (accounts : cluster.Accounts origin passed lost index node)
    (lives : cluster.Lives origin deeds index node) (orderly : cluster.Orderly)
    (consistent : origin.core.config.Consistent) (found : cluster.node? index = some node)
    (did : cluster.do? deed = some after) (here : after.node? index = some later)
    (passage : cluster.Passage after index node later deed)
    (unstopped : later.core.lifecycle ≠ .stopped) :
    after.Accounts origin (passed ++ passing index cluster deed) (lost ++ losing index cluster deed)
      index later := by
  have created := passage.created_of_created
  have before : node.core.lifecycle ≠ .stopped := fun stopped =>
    unstopped (passage.stopped_of_stopped stopped)
  -- What is done to a node from outside happens at once, and no caller knows of it.
  have turned {change : Node → Node} {other : Nat} (shifts : node.Shifts [] [] (change node))
      (moved : after.node? index = (cluster.modifyNode other change).node? index)
      (callers_eq : after.callers = cluster.callers) :
      after.Accounts origin (passed ++ []) (lost ++ []) index later := by
    refine accounts.of_calls ?_ created callers_eq fun _ => rfl
    rw [here, node?_modifyNode] at moved
    split at moved
    next same =>
      rw [found] at moved
      rw [Option.some.inj moved]
      exact shifts
    next =>
      rw [found] at moved
      rw [Option.some.inj moved]
      exact .refl node
  cases deed with
  | ask request => exact accounts.ask found did here unstopped created
  | step thread => exact accounts.step lives orderly consistent found before did here created
  | wait nanos =>
      injection did with same
      subst same
      obtain rfl := Option.some.inj (here.symm.trans found)
      exact accounts.of_calls (.refl _) created rfl fun _ => rfl
  | turn other turn =>
      injection did with same
      subst same
      exact turned (turn_shifts node turn) rfl rfl
  | shut other =>
      injection did with same
      subst same
      have closes : node.Shifts [] []
          ((fun node : Node => { node with channel := node.channel.close }) node) :=
        .of_same rfl rfl
      exact turned closes rfl rfl

end Deeds

/-- What a node has let out over a course is counted, or still to be sent, or lost; and nothing is
lost as long as no worker of its producer has ended and no caller has crashed. -/
structure Audit (start : Cluster) (deeds : List Deed) (index : Nat) (origin : Node)
    (cluster : Cluster) (node : Node) : Prop where
  balanced : ∀ cache,
    (start.along (passing index) deeds).countP (·.cache == cache) +
        (origin.core.meter.count (.sent cache) + origin.core.meter.count (.produceFailed cache)) =
      node.core.meter.count (.sent cache) + node.core.meter.count (.produceFailed cache) +
        (node.producer.jobs ++ cluster.jobs index).countP (Job.isOf cache) +
          (start.along (losing index) deeds).countP (Job.isOf cache)
  lossless : node.producer.endings = 0 → (∀ caller ∈ cluster.callers, caller.reply ≠ .crashed) →
    start.along (losing index) deeds = []

section Courses

variable {nodes : List Node} {clock : Clock} {deeds : List Deed} {origin : Node}

theorem accounts_of_after? (found : nodes[index]? = some origin) (fresh : origin.Fresh)
    (consistent : origin.core.config.Consistent)
    (went : (ofNodes nodes clock).after? deeds = some after) :
    ∃ now, after.node? index = some now ∧ (now.core.lifecycle ≠ .stopped →
      after.Accounts origin ((ofNodes nodes clock).along (passing index) deeds)
        ((ofNodes nodes clock).along (losing index) deeds) index now) := by
  refine after?_induction
    (motive := fun deeds after => ∃ now, after.node? index = some now ∧
      (now.core.lifecycle ≠ .stopped →
        after.Accounts origin ((ofNodes nodes clock).along (passing index) deeds)
          ((ofNodes nodes clock).along (losing index) deeds) index now))
    ?_ ?_ went
  · exact ⟨origin, found, fun _ => .of_fresh fresh nodes clock⟩
  intro deeds middle after deed early reached did
  obtain ⟨now, here, accounts⟩ := reached
  obtain ⟨orderly, same, again, lives⟩ := lives_of_after? found fresh early
  obtain rfl := Option.some.inj (here.symm.trans again)
  obtain ⟨_, later, there, passage⟩ := orderly.passage did here
  refine ⟨later, there, fun unstopped => ?_⟩
  rw [along_concat _ early, along_concat _ early]
  have accounts := accounts fun stopped => unstopped (passage.stopped_of_stopped stopped)
  exact accounts.proceed lives orderly consistent here did there passage unstopped

/-- A node that was made and put to use in any way and has not been stopped: each event that it let
out was counted once as sent or as failed, unless it is still to be sent, or was lost with a worker
that ended or with a caller that crashed. -/
theorem audit_of_after? (found : nodes[index]? = some origin) (fresh : origin.Fresh)
    (validated : origin.core.config.Validated)
    (went : (ofNodes nodes clock).after? deeds = some after) :
    ∃ now, after.node? index = some now ∧ (now.core.lifecycle ≠ .stopped →
      (ofNodes nodes clock).Audit deeds index origin after now) := by
  obtain ⟨now, here, accounts⟩ := accounts_of_after? found fresh validated.consistent went
  refine ⟨now, here, fun unstopped => ⟨fun cache => ?_, (accounts unstopped).lossless⟩⟩
  have balanced := (accounts unstopped).balanced cache
  have direct : origin.producer = .direct := by rw [fresh.new_eq]; rfl
  simp only [Node.tally, direct, List.countP_append] at balanced ⊢
  have none : (Crew.direct : Crew Job Sending).jobs = [] := rfl
  rw [none, List.countP_nil] at balanced
  omega

end Courses

/-! ## An event that is not counted -/

/-- A worker gives up on an event, as the hub cannot be reached until its time is over. -/
def givenUp : List Deed :=
  [.turn 0 .register, .ask (.start 0), .turn 0 (.connect false),
    .ask (.operate 0 "users" false (.put "ada" (.text "countess") .localNode)),
    .step (.caller 1), .step (.caller 1)] ++
  List.replicate 6 (.step (.producerWorker 0 0)) ++ [.wait 100000000000] ++
  List.replicate 3 (.step (.producerWorker 0 0))

theorem novice_validated : (Node.novice "only" (.striped 1 4)).core.config.Validated := by
  refine ⟨{ BusDefinition.default with
    caches := [.sample true], producer := .striped 1 4 }, ?_, rfl⟩
  intro cache member
  rw [List.mem_singleton.1 member]
  exact ⟨⟨"users", .replicated, [], (CacheConfig.sample true).comparison⟩, rfl⟩

/-- The one event of the node is lost with the worker that gave up on it. -/
theorem audit_of_after?_givenUp : ∃ after now,
    (ofNodes [.novice "only" (.striped 1 4)] ⟨0, 0⟩).after? givenUp = some after ∧
      after.node? 0 = some now ∧ now.core.lifecycle = .started ∧
        ((ofNodes [.novice "only" (.striped 1 4)] ⟨0, 0⟩).along (losing 0) givenUp).length = 1 ∧
          (ofNodes [.novice "only" (.striped 1 4)] ⟨0, 0⟩).Audit givenUp 0
            (.novice "only" (.striped 1 4)) after now := by
  obtain ⟨after, went, holds⟩ := (Option.any_eq_true _ _).1 (show
    ((ofNodes [.novice "only" (.striped 1 4)] ⟨0, 0⟩).after? givenUp).any (fun after =>
      (after.node? 0).any fun now => decide (now.core.lifecycle = .started)) = true
    by decide +kernel)
  obtain ⟨now, here, started⟩ := (Option.any_eq_true _ _).1 holds
  have started := of_decide_eq_true started
  have placed : [Node.novice "only" (.striped 1 4)][0]? =
      some (Node.novice "only" (.striped 1 4)) := rfl
  obtain ⟨same, found, account⟩ :=
    audit_of_after? placed (Node.novice_fresh "only" _) novice_validated went
  obtain rfl := Option.some.inj (here.symm.trans found)
  exact ⟨after, now, went, here, started, by decide +kernel, account (by simp [started])⟩

/-- The event of that course was let out, is neither queued nor being sent, and shows in no count:
the number of events let out is not the increase of those sent and of those that failed. -/
theorem uncounted_givenUp : ∃ after now,
    (ofNodes [.novice "only" (.striped 1 4)] ⟨0, 0⟩).after? givenUp = some after ∧
      after.node? 0 = some now ∧ now.core.lifecycle = .started ∧
        (now.producer.jobs ++ after.jobs 0).length = 0 ∧
          ((ofNodes [.novice "only" (.striped 1 4)] ⟨0, 0⟩).along (passing 0) givenUp).countP
              (·.cache == "users") ≠
            (now.core.meter.count (.sent "users") -
                (Node.novice "only" (.striped 1 4)).core.meter.count (.sent "users")) +
              (now.core.meter.count (.produceFailed "users") -
                (Node.novice "only" (.striped 1 4)).core.meter.count (.produceFailed "users")) := by
  obtain ⟨after, went, holds⟩ := (Option.any_eq_true _ _).1 (show
    ((ofNodes [.novice "only" (.striped 1 4)] ⟨0, 0⟩).after? givenUp).any (fun after =>
      (after.node? 0).any fun now => decide (now.core.lifecycle = .started ∧
        (now.producer.jobs ++ after.jobs 0).length = 0 ∧
          ((ofNodes [.novice "only" (.striped 1 4)] ⟨0, 0⟩).along (passing 0) givenUp).countP
              (·.cache == "users") ≠
            (now.core.meter.count (.sent "users") -
                (Node.novice "only" (.striped 1 4)).core.meter.count (.sent "users")) +
              (now.core.meter.count (.produceFailed "users") -
                (Node.novice "only" (.striped 1 4)).core.meter.count (.produceFailed "users")))) =
          true
    by decide +kernel)
  obtain ⟨now, here, facts⟩ := (Option.any_eq_true _ _).1 holds
  exact ⟨after, now, went, here, of_decide_eq_true facts⟩

end Cluster
end CacheSync
