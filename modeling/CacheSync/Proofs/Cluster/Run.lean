import CacheSync.Cluster.Run
import CacheSync.Proofs.Node.Replication

/-!
# The calls of a run

At any moment of a run at most one call is under way; `Busy` says which tasks it has left.
-/

namespace CacheSync.Cluster

variable {cluster : Cluster}

/-! ## Nodes put back -/

theorem node?_of_set {after : Cluster} {index : Nat} {node changed : Node}
    (found : cluster.node? index = some node)
    (nodes_eq : after.nodes = cluster.nodes.set index changed) (other : Nat) :
    after.node? other = if other = index then some changed else cluster.node? other := by
  obtain ⟨inRange, _⟩ := List.getElem?_eq_some_iff.1 found
  by_cases same : other = index
  · subst same
    simp [node?, nodes_eq, inRange]
  · simp [node?, nodes_eq, same, Ne.symm same]

theorem node?_setNode {index : Nat} {node : Node} (found : cluster.node? index = some node)
    (changed : Node) (other : Nat) : (cluster.setNode index changed).node? other =
      if other = index then some changed else cluster.node? other :=
  node?_of_set found rfl other

theorem node?_modifyNode (index : Nat) (change : Node → Node) (other : Nat) :
    (cluster.modifyNode index change).node? other =
      if other = index then (cluster.node? other).map change else cluster.node? other := by
  by_cases same : other = index
  · subst same
    simp [node?, modifyNode]
  · simp [node?, modifyNode, same, Ne.symm same]

/-! ## Calls under way -/

/-- The calls of a cluster and the ticket of the next. -/
def calls (cluster : Cluster) : List Caller × Nat :=
  (cluster.callers, cluster.nextTicket)

/-- Tickets are given out in order. -/
def Numbered (cluster : Cluster) : Prop :=
  ∀ caller ∈ cluster.callers, caller.ticket < cluster.nextTicket

theorem idle_of_callers (none : cluster.callers = []) : cluster.Idle := by
  intro caller member
  rw [none] at member
  cases member

theorem numbered_of_callers (none : cluster.callers = []) : cluster.Numbered := by
  intro caller member
  rw [none] at member
  cases member

/-- Replacing a caller changes no ticket, so it is found where the one before it was. -/
theorem caller?_setCaller {ticket : Nat} {caller changed : Caller}
    (found : cluster.caller? ticket = some caller) (ticket_eq : changed.ticket = ticket) :
    (cluster.setCaller changed).caller? ticket = some changed := by
  subst ticket_eq
  have same : caller.ticket = changed.ticket := by simpa using List.find?_some found
  have tickets : ∀ other : Caller,
      ((if other.ticket = changed.ticket then changed else other).ticket == changed.ticket) =
        (other.ticket == changed.ticket) := by
    intro other
    split
    next same => simp [same]
    next => rfl
  unfold caller? at found ⊢
  simp only [Cluster.setCaller, List.find?_map, Function.comp_def, tickets, found, Option.map_some,
    same, ↓reduceIte]

/-- The only call that may be under way is that of a ticket, and these are its tasks. -/
structure Busy (cluster : Cluster) (ticket : Nat) (tasks : List Task) : Prop where
  numbered : cluster.Numbered
  others : ∀ caller ∈ cluster.callers,
    caller.tasks = [] ∨ caller.ticket = ticket ∧ caller.tasks = tasks
  present : tasks = [] ∨ ∃ caller, cluster.caller? ticket = some caller ∧ caller.tasks = tasks

namespace Busy

variable {ticket : Nat} {tasks : List Task}

theorem of_idle (idle : cluster.Idle) (numbered : cluster.Numbered) (ticket : Nat) :
    cluster.Busy ticket [] :=
  ⟨numbered, fun caller member => Or.inl (idle caller member), Or.inl rfl⟩

theorem of_calls {other : Cluster} (busy : cluster.Busy ticket tasks)
    (calls_eq : other.calls = cluster.calls) : other.Busy ticket tasks := by
  obtain ⟨callers_eq, next_eq⟩ := Prod.mk.inj calls_eq
  obtain ⟨numbered, others, present⟩ := busy
  refine ⟨?_, ?_, ?_⟩
  · unfold Numbered
    rw [callers_eq, next_eq]
    exact numbered
  · rw [callers_eq]
    exact others
  · unfold caller?
    rw [callers_eq]
    exact present

theorem tasks_eq_nil (busy : cluster.Busy ticket tasks) (idle : cluster.Idle) : tasks = [] := by
  rcases busy.present with done | ⟨caller, found, rfl⟩
  · exact done
  · exact idle caller (List.mem_of_find?_eq_some found)

theorem idle (busy : cluster.Busy ticket []) : cluster.Idle := by
  intro caller member
  rcases busy.others caller member with done | ⟨_, done⟩
  · exact done
  · exact done

theorem setCaller (busy : cluster.Busy ticket tasks) (live : tasks ≠ []) {middle : Cluster}
    (calls_eq : middle.calls = cluster.calls) {caller : Caller}
    (ticket_eq : caller.ticket = ticket) : (middle.setCaller caller).Busy ticket caller.tasks := by
  have busy := busy.of_calls calls_eq
  subst ticket_eq
  refine ⟨?_, ?_, Or.inr ⟨caller, ?_, rfl⟩⟩
  · intro other member
    obtain ⟨before, known, rfl⟩ := List.mem_map.1 member
    have early := busy.numbered before known
    split
    next same =>
      rw [same] at early
      exact early
    next => exact early
  · intro other member
    obtain ⟨before, known, rfl⟩ := List.mem_map.1 member
    split
    next => exact Or.inr ⟨rfl, rfl⟩
    next different =>
      rcases busy.others before known with done | ⟨same, _⟩
      · exact Or.inl done
      · exact absurd same different
  · obtain ⟨before, found, _⟩ := busy.present.resolve_left live
    exact caller?_setCaller found rfl

theorem callerStep?_eq {task : Task} {rest : List Task}
    (busy : cluster.Busy ticket (task :: rest)) :
    ∃ caller, caller.ticket = ticket ∧ cluster.callerStep? ticket =
      (cluster.taskStep caller task rest).map fun (after, caller) => after.setCaller caller := by
  obtain ⟨caller, found, shape⟩ := busy.present.resolve_left (by simp)
  refine ⟨caller, by simpa using List.find?_some found, ?_⟩
  unfold callerStep?
  rw [found]
  simp only [shape]

theorem of_callerStep? (busy : cluster.Busy ticket tasks) {stepping : Nat} {after : Cluster}
    (stepped : cluster.callerStep? stepping = some after) :
    ∃ task rest caller middle changed, tasks = task :: rest ∧ caller.ticket = ticket ∧
      cluster.taskStep caller task rest = some (middle, changed) ∧
        after = middle.setCaller changed := by
  unfold callerStep? at stepped
  split at stepped
  · cases stepped
  next caller found =>
    split at stepped
    · cases stepped
    next task rest shape =>
      obtain ⟨⟨middle, changed⟩, moved, rfl⟩ := Option.map_eq_some_iff.1 stepped
      rcases busy.others caller (List.mem_of_find?_eq_some found) with done | ⟨same, left⟩
      · rw [shape] at done
        cases done
      · exact ⟨task, rest, caller, middle, changed, left.symm.trans shape, same, moved, rfl⟩

end Busy

/-! ## Steps of the other threads -/

/-- A cleaner carries out the removal that has waited longest. -/
theorem of_cleanerStep? {index : Nat} {after : Cluster}
    (stepped : cluster.cleanerStep? index = some after) :
    ∃ node cache expiration rest, cluster.node? index = some node ∧
      node.core.cleanups = (cache, expiration) :: rest ∧
        after = cluster.setNode index { node with
          core := { node.core with cleanups := rest }.cleanUp cache expiration cluster.clock } := by
  unfold cleanerStep? at stepped
  split at stepped
  · cases stepped
  next node found =>
    split at stepped
    · cases stepped
    next cache expiration rest shape =>
      injection stepped with same
      exact ⟨node, cache, expiration, rest, found, shape, same.symm⟩

/-- A producer that works on the calling thread has no workers. -/
theorem producerStep?_of_direct (index stripe : Nat)
    (direct : ∀ node, cluster.node? index = some node → node.producer = .direct) :
    cluster.producerStep? index stripe = none := by
  cases found : cluster.node? index with
  | none => simp only [producerStep?, found, Option.bind_none]
  | some node =>
      simp only [producerStep?, found, Option.bind_some, direct node found, Crew.workers?]

/-- A consumer that works on the calling thread has no workers. -/
theorem consumerStep?_of_direct (index stripe : Nat)
    (direct : ∀ node, cluster.node? index = some node → node.consumer = .direct) :
    cluster.consumerStep? index stripe = none := by
  cases found : cluster.node? index with
  | none => simp only [consumerStep?, found]
  | some node => simp only [consumerStep?, found, direct node found, Crew.workers?]

/-! ## Runs -/

theorem Run.trans {cache : String} {permits : Nat → StoreCall → Prop} {start middle after : Cluster}
    {events later : List Event} (run : Run cache permits start events middle)
    (further : Run cache permits middle later after) :
    Run cache permits start (events ++ later) after := by
  induction further with
  | refl => simpa using run
  | ask _ idle permitted asked inductionHypothesis =>
      rw [← List.append_assoc]
      exact .ask inductionHypothesis idle permitted asked
  | step _ stepped inductionHypothesis => exact .step inductionHypothesis stepped
  | wait nanos _ inductionHypothesis => exact .wait nanos inductionHypothesis

theorem Run.follow {cache : String} {permits : Nat → StoreCall → Prop} {start : Cluster}
    {events : List Event} (threads : List Thread) :
    ∀ {middle after : Cluster}, Run cache permits start events middle →
      middle.follow? threads = some after → Run cache permits start events after := by
  induction threads with
  | nil =>
      intro middle after run followed
      injection followed with same
      rw [← same]
      exact run
  | cons thread rest inductionHypothesis =>
      intro middle after run followed
      obtain ⟨next, stepped, further⟩ := Option.bind_eq_some_iff.1 followed
      exact inductionHypothesis (.step run stepped) further

/-- A request for an operation carries it out, and leaves its caller with the events to tell. -/
theorem of_request? {index : Nat} {cache : String} {guarded : Bool} {call : StoreCall}
    {after : Cluster} {ticket : Nat}
    (asked : cluster.request? (.operate index cache guarded call) = some (after, ticket)) :
    ∃ node operated, cluster.node? index = some node ∧
      node.core.operate cache guarded call (cluster.pass stepTime).clock = some operated ∧
        after.nodes = cluster.nodes.set index { node with core := operated.core } ∧
        after.hub = cluster.hub ∧
        ∃ reply, after.calls =
          (cluster.callers ++
            [⟨cluster.nextTicket, operated.heard.map (.hear index), reply, false⟩],
            cluster.nextTicket + 1) := by
  simp only [request?, begin?, Option.map_eq_some_iff, Option.bind_eq_some_iff] at asked
  obtain ⟨begun, ⟨node, found, operated, operates, rfl⟩, shape⟩ := asked
  simp only [Prod.mk.injEq] at shape
  obtain ⟨rfl, rfl⟩ := shape
  exact ⟨node, operated, found, operates, rfl, rfl, _, rfl⟩

theorem request?_operate {index : Nat} {node : Node} (found : cluster.node? index = some node)
    {cache : String} {guarded : Bool} {call : StoreCall} {operated : Core.Operated}
    (operates : node.core.operate cache guarded call (cluster.pass stepTime).clock =
      some operated) :
    ∃ begun ticket,
      cluster.request? (.operate index cache guarded call) = some (begun, ticket) := by
  have here : (cluster.pass stepTime).node? index = some node := found
  simp only [request?, begin?, here, Option.bind_some, operates, Option.map_some]
  exact ⟨_, _, rfl⟩

/-- The caller of a request is the only one under way. -/
theorem Idle.busy (idle : cluster.Idle) (numbered : cluster.Numbered) {after : Cluster}
    {tasks : List Task} {reply : Reply} {bare : Bool}
    (calls_eq : after.calls = (cluster.callers ++ [⟨cluster.nextTicket, tasks, reply, bare⟩],
      cluster.nextTicket + 1)) : after.Busy cluster.nextTicket tasks := by
  obtain ⟨callers_eq, next_eq⟩ := Prod.mk.inj calls_eq
  refine ⟨?_, ?_, Or.inr ⟨⟨cluster.nextTicket, tasks, reply, bare⟩, ?_, rfl⟩⟩
  · intro caller member
    rw [next_eq]
    rw [callers_eq] at member
    rcases List.mem_append.1 member with early | late
    · exact Nat.lt_succ_of_lt (numbered caller early)
    · rw [List.mem_singleton.1 late]
      exact Nat.lt_succ_self _
  · intro caller member
    rw [callers_eq] at member
    rcases List.mem_append.1 member with early | late
    · exact Or.inl (idle caller early)
    · rw [List.mem_singleton.1 late]
      exact Or.inr ⟨rfl, rfl⟩
  · have absent : cluster.callers.find? (·.ticket == cluster.nextTicket) = none := by
      rw [List.find?_eq_none]
      intro caller member
      simpa using Nat.ne_of_lt (numbered caller member)
    unfold caller?
    rw [callers_eq, List.find?_append, absent]
    simp

end CacheSync.Cluster
