import CacheSync.Proofs.Cluster.Attempts
import CacheSync.Proofs.Cluster.Passage

/-!
# The strides of one caller

The thread of a caller goes on step by step, and by a step of a sending at most one member receives
something.  Everything else that happens in a course leaves the caller alone, so that the steps of a
caller in a course make up a walk.
-/

namespace CacheSync

namespace Stride

/-- What the attempts to send come to that a step ends. -/
def attempts (stride : Stride) : List (Except ChannelError Unit) :=
  match stride.caller.tasks with
  | .send index sending :: _ => (stride.before.attempt? index sending).toList
  | _ => []

/-- What a step of a sending hands over, and to whom. -/
def handings (stride : Stride) : List (Member × Message) :=
  match stride.caller.tasks with
  | .send _ sending :: _ => stride.before.handover sending
  | _ => []

/-- By a step of a sending of a node either nobody receives anything, or one member receives the
message that the step hands it, and nobody else receives anything. -/
inductive Fair (index : Nat) (stride : Stride) : Prop where
  | quiet : stride.handings = [] → stride.before.Confined index Node.Deaf stride.after →
      Fair index stride
  | hands {target : Member} {message : Message} {received : Cluster} {next : Caller} :
      stride.handings = [(target, message)] →
      stride.before.Receives message target received →
      stride.after = received.setCaller next → Fair index stride

end Stride

namespace Cluster

variable {cluster begun middle after : Cluster} {ticket index : Nat} {caller current next : Caller}
  {deeds : List Deed}

/-! ## Callers left alone -/

theorem notSent_calls (cluster : Cluster) (index : Nat) (caller : Caller) (job : Job)
    (error : ProduceError) :
    (cluster.notSent index caller job error).1.calls = cluster.calls ∧
      (cluster.notSent index caller job error).2.ticket = caller.ticket := by
  unfold notSent
  split <;> exact ⟨rfl, rfl⟩

theorem hearStep_calls {rest : List Task} {event : Event}
    (stepped : cluster.hearStep caller rest index event = some (after, next)) :
    after.calls = cluster.calls ∧ next.ticket = caller.ticket := by
  unfold hearStep at stepped
  split at stepped
  · cases stepped
    exact ⟨rfl, rfl⟩
  · dsimp only at stepped
    split at stepped
    · cases stepped
      exact ⟨rfl, rfl⟩
    · split at stepped
      all_goals
        cases stepped
        exact ⟨rfl, rfl⟩

theorem offerStep_calls {rest : List Task} {job : Job} {waited : Bool}
    (stepped : cluster.offerStep caller rest index job waited = some (after, next)) :
    after.calls = cluster.calls ∧ next.ticket = caller.ticket := by
  unfold offerStep at stepped
  split at stepped
  · cases stepped
    exact ⟨rfl, rfl⟩
  · split at stepped
    next =>
      cases stepped
      exact ⟨rfl, rfl⟩
    next =>
      split at stepped
      all_goals cases stepped
      exact ⟨rfl, rfl⟩
    next =>
      have untouched := cluster.notSent_calls index (caller.goOn rest) job .closed
      rw [Option.some.inj stepped] at untouched
      exact untouched

theorem directStep_calls {rest : List Task} {sending : Sending}
    (stepped : cluster.directStep caller rest index sending = some (after, next)) :
    after.calls = cluster.calls ∧ next.ticket = caller.ticket := by
  have sent := cluster.sendStep_works index index sending
  unfold directStep at stepped
  split at stepped
  next outcome =>
    rw [outcome] at sent
    cases stepped
    exact ⟨sent.1.calls_eq, rfl⟩
  next => cases stepped
  next outcome =>
    rw [outcome] at sent
    cases stepped
    exact ⟨sent.calls_eq, rfl⟩
  next middle error outcome =>
    rw [outcome] at sent
    have untouched := middle.notSent_calls index (caller.goOn rest) sending.job error
    rw [Option.some.inj stepped] at untouched
    exact ⟨untouched.1.trans sent.calls_eq, untouched.2⟩
  next outcome =>
    rw [outcome] at sent
    cases stepped
    exact ⟨sent.calls_eq, rfl⟩

/-- A step of a caller changes no other call. -/
theorem taskStep_calls {task : Task} {rest : List Task}
    (stepped : cluster.taskStep caller task rest = some (after, next)) :
    after.calls = cluster.calls ∧ next.ticket = caller.ticket := by
  cases task with
  | hear index event => exact hearStep_calls stepped
  | offer index job waited => exact offerStep_calls stepped
  | send index sending => exact directStep_calls stepped
  | spread spread =>
      obtain ⟨retains, proceeds⟩ := @outsideStep_retains _ _ 0 _ _ _ _ stepped
      exact ⟨retains.calls_eq, proceeds.ticket_eq⟩
  | stop index stage =>
      have proceeds : cluster.Proceeds caller (.stop index stage) rest after next :=
        stopStep_proceeds stepped
      exact ⟨proceeds.calls_eq, proceeds.ticket_eq⟩
  | halt index =>
      obtain ⟨retains, proceeds⟩ := @haltStep_retains _ _ 0 _ _ _ _ stepped
      exact ⟨retains.calls_eq, proceeds.ticket_eq⟩

theorem caller?_of_calls (calls_eq : after.calls = cluster.calls) (ticket : Nat) :
    after.caller? ticket = cluster.caller? ticket := by
  unfold caller?
  rw [(Prod.mk.inj calls_eq).1]

theorem caller?_setCaller_of_ne (cluster : Cluster) {changed : Caller}
    (other : changed.ticket ≠ ticket) :
    (cluster.setCaller changed).caller? ticket = cluster.caller? ticket := by
  unfold caller? setCaller
  dsimp only
  induction cluster.callers with
  | nil => rfl
  | cons first rest inductionHypothesis =>
      simp only [List.map_cons, List.find?_cons, inductionHypothesis]
      by_cases here : first.ticket = changed.ticket
      · have apart : (changed.ticket == ticket) = false := by simpa using other
        simp [here, apart]
      · rw [if_neg here]

/-- A step of a caller is one of its first task, and the caller is put back where it was. -/
theorem of_callerStep? (held : cluster.caller? ticket = some current)
    (stepped : cluster.callerStep? ticket = some after) :
    ∃ task rest middle next, current.tasks = task :: rest ∧
      cluster.taskStep current task rest = some (middle, next) ∧
        after = middle.setCaller next ∧ after.caller? ticket = some next := by
  simp only [callerStep?, held] at stepped
  split at stepped
  · cases stepped
  next task rest shape =>
    obtain ⟨⟨middle, next⟩, taken, rfl⟩ := Option.map_eq_some_iff.1 stepped
    obtain ⟨calls_eq, ticket_eq⟩ := taskStep_calls taken
    have kept : middle.caller? ticket = some current :=
      (caller?_of_calls calls_eq ticket).trans held
    exact ⟨task, rest, middle, next, shape, taken, rfl,
      caller?_setCaller kept (ticket_eq.trans (mem_of_caller? held).2)⟩

/-- A step of another thread leaves a caller alone. -/
theorem caller?_of_act? {thread : Thread} (other : thread ≠ .caller ticket)
    (acted : cluster.act? thread = some after) : after.caller? ticket = cluster.caller? ticket := by
  cases thread with
  | caller stepping =>
      have acted : cluster.callerStep? stepping = some after := acted
      cases held : cluster.caller? stepping with
      | none =>
          simp only [callerStep?, held] at acted
          cases acted
      | some caller =>
          obtain ⟨task, rest, middle, changed, _, stepped, rfl, _⟩ := of_callerStep? held acted
          obtain ⟨calls_eq, ticket_eq⟩ := taskStep_calls stepped
          have apart : changed.ticket ≠ ticket := by
            rw [ticket_eq, (mem_of_caller? held).2]
            exact fun same => other (congrArg Thread.caller same)
          exact (caller?_setCaller_of_ne middle apart).trans (caller?_of_calls calls_eq ticket)
  | producerWorker index stripe =>
      have retains : cluster.Retains 0 after := producerStep?_retains acted
      exact caller?_of_calls retains.calls_eq ticket
  | consumerWorker index stripe =>
      have works : cluster.Works 0 [] after := consumerStep?_works acted
      exact caller?_of_calls works.calls_eq ticket
  | cleaner index =>
      have works : cluster.Works 0 [] after := cleanerStep?_works acted
      exact caller?_of_calls works.calls_eq ticket

/-- A new caller comes behind the others. -/
theorem caller?_of_request? {request : Request} {given : Nat}
    (asked : cluster.request? request = some (after, given))
    (held : cluster.caller? ticket = some caller) : after.caller? ticket = some caller := by
  obtain ⟨begun, began, same⟩ := Option.map_eq_some_iff.1 asked
  cases same
  obtain ⟨callers_eq, _⟩ := Prod.mk.inj (calls_of_begin? began)
  have held : begun.cluster.callers.find? (·.ticket == ticket) = some caller :=
    callers_eq ▸ held
  simp only [caller?, List.find?_append, held, Option.some_or]

/-- Whatever is done to a cluster leaves a caller alone, unless it is a step of its own. -/
theorem caller?_of_do? {deed : Deed} (other : deed ≠ .step (.caller ticket))
    (did : cluster.do? deed = some after) (held : cluster.caller? ticket = some caller) :
    after.caller? ticket = some caller := by
  cases deed with
  | ask request =>
      simp only [do?] at did
      split at did
      · obtain ⟨⟨begun, given⟩, asked, rfl⟩ := Option.map_eq_some_iff.1 did
        exact caller?_of_request? asked held
      · cases did
  | step thread =>
      obtain ⟨middle, acted, rfl⟩ := Option.map_eq_some_iff.1 did
      have apart : thread ≠ .caller ticket := fun same => other (congrArg Deed.step same)
      exact (caller?_of_act? apart acted).trans held
  | wait nanos =>
      injection did with same
      exact same ▸ held
  | turn index turn =>
      injection did with same
      exact same ▸ held
  | shut index =>
      injection did with same
      exact same ▸ held

/-! ## Steps of a sending -/

/-- The caller after a step of its sending. -/
def SendStep.caller? (index : Nat) (caller : Caller) : SendStep → Option Caller
  | .moved _ sending => some (caller.goOn [.send index sending])
  | .blocked => none
  | .done _ (.ok ()) => some (caller.goOn [])
  | .done _ (.error error) => some { caller.goOn [] with reply := .unproduced error }
  | .crashed _ => some caller.crash

/-- A caller who uses a producer by itself and sends on its own thread. -/
theorem of_callerStep?_send {sending : Sending} (held : cluster.caller? ticket = some current)
    (bare : current.bare = true) (shape : current.tasks = [.send index sending])
    (stepped : cluster.callerStep? ticket = some after)
    (found : after.caller? ticket = some next) :
    ∃ middle, (cluster.sendStep index sending).cluster? = some middle ∧
      (cluster.sendStep index sending).caller? index current = some next ∧
        after = middle.setCaller next := by
  obtain ⟨task, rest, middle, changed, shape', taken, after_eq, there⟩ :=
    of_callerStep? held stepped
  obtain rfl := Option.some.inj (there.symm.trans found)
  rw [shape] at shape'
  cases shape'
  refine ⟨middle, ?_, ?_, after_eq⟩
  all_goals
    simp only [taskStep, directStep] at taken
    split at taken
    next outcome =>
      cases taken
      rw [outcome]
      rfl
    next => cases taken
    next outcome =>
      cases taken
      rw [outcome]
      rfl
    next outcome =>
      simp only [notSent, Caller.goOn, bare, ↓reduceIte] at taken
      cases taken
      rw [outcome]
      first | rfl | simp only [SendStep.caller?, Caller.goOn, bare]
    next outcome =>
      cases taken
      rw [outcome]
      rfl

/-! ## Walks of a course -/

/-- The step of a caller that a deed is, if it is one. -/
def stridesOf (ticket : Nat) (cluster : Cluster) (deed : Deed) : List Stride :=
  match deed with
  | .step (.caller stepping) =>
      if stepping = ticket then
        match cluster.caller? ticket, cluster.callerStep? ticket with
        | some caller, some after => [⟨cluster, caller, after⟩]
        | _, _ => []
      else []
  | _ => []

theorem stridesOf_of_ne {deed : Deed} (other : deed ≠ .step (.caller ticket)) :
    cluster.stridesOf ticket deed = [] := by
  unfold stridesOf
  split
  next stepping =>
    exact if_neg fun same => other (congrArg (Deed.step ∘ Thread.caller) same)
  next => rfl

/-- The steps of a caller in a course make up a walk. -/
theorem walk_of_after? {first : Caller} (held : begun.caller? ticket = some first)
    (went : begun.after? deeds = some after) :
    ∃ caller, after.caller? ticket = some caller ∧
      Walk ticket first (begun.along (stridesOf ticket) deeds) caller := by
  refine after?_induction (motive := fun deeds after => ∃ caller,
    after.caller? ticket = some caller ∧
      Walk ticket first (begun.along (stridesOf ticket) deeds) caller) ⟨first, held, .rest⟩ ?_ went
  intro deeds middle after deed reached walked did
  obtain ⟨current, here, walk⟩ := walked
  rw [along_concat _ reached]
  by_cases own : deed = .step (.caller ticket)
  · subst own
    obtain ⟨stepped, acted, rfl⟩ := Option.map_eq_some_iff.1 did
    have acted : middle.callerStep? ticket = some stepped := acted
    obtain ⟨_, _, _, next, _, _, _, there⟩ := of_callerStep? here acted
    have stride :
        middle.stridesOf ticket (.step (.caller ticket)) = [⟨middle, current, stepped⟩] := by
      simp only [stridesOf, ↓reduceIte, here, acted]
    rw [stride]
    exact ⟨next, there, .step walk here acted there⟩
  · rw [stridesOf_of_ne own, List.append_nil]
    exact ⟨current, caller?_of_do? own did here, walk⟩

end Cluster
end CacheSync
