import CacheSync.Cluster.Session
import CacheSync.Proofs.Cluster.Course
import CacheSync.Proofs.Node.Life
import Mathlib.Data.List.Nodup

/-!
# Passages of one node

What one deed of a course does to a node that is watched: it starts it, stops it, closes its
channel, or leaves it at the stage of life it is in.  `Passage` lists these cases with all that can
be said of each, and `Orderly.passage` says that there are no others.  An invariant of a node over
every course is then an invariant of its passages.
-/

namespace CacheSync

/-- Whether a caller stops a node. -/
def Caller.stops (caller : Caller) (index : Nat) : Bool :=
  caller.tasks.any (·.isStopOf index)

theorem Node.turn_keeps (node : Node) (turn : Turn) : node.Keeps (node.turn turn) := by
  cases turn with
  | register => exact node.register_keeps
  | attach cache => exact node.attach_keeps cache
  | create cache => exact .of_shelf node _ node.core.linked node.registrations
  | release => exact .of_shelf node node.core.shelf false node.registrations
  | connect connected => exact .of_channel node _ rfl rfl
  | extendScript fates => exact .of_channel node _ rfl rfl
  | openGate => exact .of_channel node _ rfl rfl

namespace Cluster

variable {cluster middle after : Cluster} {watched index ticket : Nat} {node later : Node}
  {caller further : Caller} {task : Task} {rest : List Task}

/-- Whether a stop of a node is under way. -/
def stopping (cluster : Cluster) (index : Nat) : Bool :=
  cluster.callers.any (·.stops index)

/-! ## Orderly callers -/

/-- What the callers of a cluster have in common: each has a ticket of its own and calls a bus, and
one that stops a node does nothing else. -/
structure Orderly (cluster : Cluster) : Prop where
  distinct : (cluster.callers.map (·.ticket)).Nodup
  numbered : cluster.Numbered
  loyal : ∀ caller ∈ cluster.callers, caller.bare = false
  alone : ∀ caller ∈ cluster.callers, ∀ index, caller.stops index = true →
    ∃ task, caller.tasks = [task]

theorem orderly_of_callers (none : cluster.callers = []) : cluster.Orderly := by
  refine ⟨?_, numbered_of_callers none, ?_, ?_⟩
  · rw [none]
    exact List.nodup_nil
  · intro caller member
    rw [none] at member
    cases member
  · intro caller member
    rw [none] at member
    cases member

theorem mem_of_caller? (found : cluster.caller? ticket = some caller) :
    caller ∈ cluster.callers ∧ caller.ticket = ticket :=
  ⟨List.mem_of_find?_eq_some found, by simpa using List.find?_some found⟩

namespace Orderly

theorem of_calls (orderly : cluster.Orderly) (calls_eq : after.calls = cluster.calls) :
    after.Orderly := by
  obtain ⟨callers_eq, next_eq⟩ := Prod.mk.inj calls_eq
  obtain ⟨distinct, numbered, loyal, alone⟩ := orderly
  refine ⟨callers_eq ▸ distinct, ?_, callers_eq ▸ loyal, callers_eq ▸ alone⟩
  unfold Numbered
  rw [callers_eq, next_eq]
  exact numbered

theorem eq_of_ticket (orderly : cluster.Orderly) (found : cluster.caller? ticket = some caller)
    {other : Caller} (member : other ∈ cluster.callers) (same : other.ticket = ticket) :
    other = caller := by
  obtain ⟨present, ticket_eq⟩ := mem_of_caller? found
  exact List.inj_on_of_nodup_map orderly.distinct member present (same.trans ticket_eq.symm)

/-- A caller that goes on leaves the callers orderly. -/
theorem setCaller (orderly : cluster.Orderly) (found : cluster.caller? ticket = some caller)
    (shape : caller.tasks = task :: rest)
    (proceeds : cluster.Proceeds caller task rest middle further) :
    (middle.setCaller further).Orderly := by
  obtain ⟨member, rfl⟩ := mem_of_caller? found
  have middling := orderly.of_calls proceeds.calls_eq
  obtain ⟨callers_eq, _⟩ := Prod.mk.inj proceeds.calls_eq
  have tickets : ∀ other : Caller,
      (if other.ticket = further.ticket then further else other).ticket = other.ticket := by
    intro other
    split
    next same => exact same.symm
    next => rfl
  refine ⟨?_, ?_, ?_, ?_⟩
  · simp only [Cluster.setCaller, List.map_map, Function.comp_def, tickets]
    exact middling.distinct
  · intro other present
    obtain ⟨before, known, rfl⟩ := List.mem_map.1 present
    rw [tickets]
    exact middling.numbered before known
  · intro other present
    obtain ⟨before, known, rfl⟩ := List.mem_map.1 present
    split
    · exact proceeds.bare_eq.trans (orderly.loyal caller member)
    · exact middling.loyal before known
  · intro other present index stops
    obtain ⟨before, known, rfl⟩ := List.mem_map.1 present
    split at stops
    next same =>
      rw [if_pos same]
      -- A caller that still stops a node did so before, and so it has no other task.
      rcases proceeds.tasks with none | same | ⟨next, next_eq, alike⟩
      · rw [Caller.stops, none] at stops
        cases stops
      · rw [Caller.stops, same] at stops
        obtain ⟨one, one_eq⟩ := orderly.alone caller member index (by
          rw [Caller.stops, shape, List.any_cons, stops, Bool.or_true])
        rw [shape] at one_eq
        injection one_eq with _ none
        rw [none] at stops
        cases stops
      · rw [Caller.stops, next_eq, List.any_cons, alike] at stops
        obtain ⟨one, one_eq⟩ := orderly.alone caller member index (by
          rw [Caller.stops, shape, List.any_cons, stops])
        rw [shape] at one_eq
        injection one_eq with _ none
        exact ⟨next, by rw [next_eq, none]⟩
    next other =>
      rw [if_neg other]
      exact middling.alone before known index stops

/-- A caller that goes on takes the place it had. -/
theorem callers_setCaller (orderly : cluster.Orderly)
    (found : cluster.caller? ticket = some caller) (calls_eq : middle.calls = cluster.calls)
    (ticket_eq : further.ticket = caller.ticket) :
    ∃ place : Nat, cluster.callers[place]? = some caller ∧
      (middle.setCaller further).callers = cluster.callers.set place further := by
  obtain ⟨member, rfl⟩ := mem_of_caller? found
  obtain ⟨callers_eq, _⟩ := Prod.mk.inj calls_eq
  obtain ⟨place, inRange, here⟩ := List.mem_iff_getElem.1 member
  have here : cluster.callers[place]? = some caller := by
    rw [List.getElem?_eq_getElem inRange, here]
  refine ⟨place, here, List.ext_getElem? fun other => ?_⟩
  simp only [Cluster.setCaller, callers_eq, List.getElem?_map, List.getElem?_set]
  by_cases same : place = other
  · subst same
    rw [here]
    simp [ticket_eq, inRange]
  · rw [if_neg same]
    cases there : cluster.callers[other]? with
    | none => rfl
    | some one =>
        -- Two places cannot have one ticket.
        have apart : one.ticket ≠ further.ticket := by
          intro alike
          have equal := orderly.eq_of_ticket found (List.mem_of_getElem? there)
            (alike.trans ticket_eq)
          rw [equal, ← here] at there
          exact same ((List.getElem?_inj inRange (orderly.distinct.of_map _)).1 there.symm)
        rw [Option.map_some, if_neg apart]

/-- A caller that stops a node as much as before changes nothing about which nodes are being
stopped. -/
theorem stopping_setCaller (orderly : cluster.Orderly)
    (found : cluster.caller? ticket = some caller) (calls_eq : middle.calls = cluster.calls)
    (ticket_eq : further.ticket = caller.ticket)
    (alike : further.stops index = caller.stops index) :
    (middle.setCaller further).stopping index = cluster.stopping index := by
  obtain ⟨callers_eq, _⟩ := Prod.mk.inj calls_eq
  obtain ⟨_, rfl⟩ := mem_of_caller? found
  have same : cluster.callers.map (fun other =>
      (if other.ticket = further.ticket then further else other).stops index) =
        cluster.callers.map (·.stops index) := by
    apply List.map_congr_left
    intro other member
    split
    next same => rw [orderly.eq_of_ticket found member (same.trans ticket_eq), alike]
    next => rfl
  have joined := congrArg (List.any · id) same
  simp only [List.any_map, Function.comp_def, id_eq] at joined
  simp only [stopping, Cluster.setCaller, callers_eq, List.any_map, Function.comp_def]
  exact joined

/-- A step of a caller with a task that stops no node leaves which nodes are being stopped. -/
theorem stopping_of_proceeds (orderly : cluster.Orderly)
    (found : cluster.caller? ticket = some caller) (shape : caller.tasks = task :: rest)
    (proceeds : cluster.Proceeds caller task rest middle further)
    (other : task.isStopOf index = false) :
    (middle.setCaller further).stopping index = cluster.stopping index := by
  have member := (mem_of_caller? found).1
  have silent : caller.stops index = false := by
    rw [← Bool.not_eq_true]
    intro stops
    obtain ⟨one, one_eq⟩ := orderly.alone caller member index stops
    rw [shape] at one_eq
    injection one_eq with _ none
    rw [Caller.stops, shape, none, List.any_cons, other] at stops
    cases stops
  refine orderly.stopping_setCaller found proceeds.calls_eq proceeds.ticket_eq ?_
  rw [silent]
  rw [Caller.stops, shape, List.any_cons, other, Bool.false_or] at silent
  rcases proceeds.tasks with none | same | ⟨next, next_eq, alike⟩
  · rw [Caller.stops, none]
    rfl
  · rw [Caller.stops, same, silent]
  · rw [Caller.stops, next_eq, List.any_cons, alike, other, silent]
    rfl

end Orderly

/-! ## Stopping -/

theorem stopStep_proceeds {stage : StopStage}
    (stepped : cluster.stopStep caller rest index stage = some (after, further)) :
    cluster.Proceeds caller (.stop index stage) rest after further := by
  unfold stopStep at stepped
  split at stepped
  · cases stepped
    exact .over rfl
  next node _ =>
    split at stepped
    · split at stepped
      · cases stepped
        refine .next ?_ fun _ => rfl
        rfl
      · cases stepped
    · split at stepped
      · generalize node.finishStop (.node index) cluster.hub = result at stepped
        obtain ⟨_, _, crashed⟩ := result
        cases stepped
        cases crashed with
        | true => exact .crash rfl
        | false => exact .over rfl
      · cases stepped

theorem taskStep_proceeds (loyal : caller.bare = false)
    (stepped : cluster.taskStep caller task rest = some (after, further)) :
    cluster.Proceeds caller task rest after further := by
  by_cases stops : ∃ index stage, task = .stop index stage
  · obtain ⟨index, stage, rfl⟩ := stops
    exact stopStep_proceeds stepped
  · have both : cluster.Retains 0 after ∧ cluster.Proceeds caller task rest after further :=
      taskStep_retains loyal stepped (by simpa using stops)
    exact both.2

/-! ## Subscriptions -/

theorem subscribed_of_leave_self (hub_eq : after.hub = cluster.hub.leave (.node watched)) :
    after.subscribed watched = 0 := by
  simp [subscribed, hub_eq, Hub.leave, List.countP_filter]

theorem leave_of_unsubscribed (unsubscribed : cluster.subscribed watched = 0) :
    cluster.hub.leave (.node watched) = cluster.hub := by
  unfold Hub.leave
  congr 1
  rw [List.filter_eq_self]
  intro subscription member
  have apart := List.countP_eq_zero.1 unsubscribed subscription member
  simpa using apart

theorem subscribed_of_leave_other (hub_eq : after.hub = cluster.hub.leave (.node index))
    (other : index ≠ watched) : after.subscribed watched = cluster.subscribed watched := by
  simp only [subscribed, hub_eq, Hub.leave, List.countP_filter]
  apply List.countP_congr
  intro subscription _
  simp only [ne_eq, decide_not, Bool.and_eq_true, decide_eq_true_eq, Bool.not_eq_true',
    decide_eq_false_iff_not, and_iff_left_iff_imp]
  rintro same
  simpa [same] using Ne.symm other

theorem subscribed_of_subscribe {subscriber : Member}
    (hub_eq : after.hub = cluster.hub.subscribe (.node index) subscriber) :
    after.subscribed watched = cluster.subscribed watched + if index = watched then 1 else 0 := by
  simp [subscribed, hub_eq, Hub.subscribe, List.countP_append, List.countP_singleton]

/-! ## Requests -/

/-- A caller joins the others. -/
def enlist (cluster : Cluster) (tasks : List Task) (reply : Reply) : Cluster :=
  { cluster with
    callers := cluster.callers ++ [⟨cluster.nextTicket, tasks, reply, false⟩]
    nextTicket := cluster.nextTicket + 1 }

theorem calls_of_begin? {request : Request} {begun : Begun}
    (began : cluster.begin? request = some begun) : begun.cluster.calls = cluster.calls := by
  cases request with
  | operate index cache guarded call =>
      obtain ⟨node, _, began⟩ := Option.bind_eq_some_iff.1 began
      obtain ⟨operated, _, rfl⟩ := Option.map_eq_some_iff.1 began
      rfl
  | send index event =>
      cases began
      rfl
  | receive index body =>
      obtain ⟨node, _, rfl⟩ := Option.map_eq_some_iff.1 began
      rfl
  | deliver message =>
      cases began
      rfl
  | start index =>
      obtain ⟨node, _, rfl⟩ := Option.map_eq_some_iff.1 began
      rfl
  | stop index =>
      obtain ⟨node, _, rfl⟩ := Option.map_eq_some_iff.1 began
      unfold stopNode
      split <;> rfl
  | produce index job =>
      obtain ⟨node, _, rfl⟩ := Option.map_eq_some_iff.1 began
      rfl
  | halt index =>
      obtain ⟨node, _, rfl⟩ := Option.map_eq_some_iff.1 began
      rfl

/-- A request to a bus begins, and its caller joins the others. -/
theorem of_ask {request : Request} (asked : cluster.do? (.ask request) = some after) :
    request.isOfBus = true ∧ ∃ begun, (cluster.pass stepTime).begin? request = some begun ∧
      after = begun.cluster.enlist begun.tasks begun.reply := by
  simp only [do?, request?, Option.map_map] at asked
  split at asked
  next bus =>
    obtain ⟨begun, began, rfl⟩ := Option.map_eq_some_iff.1 asked
    obtain ⟨_, next_eq⟩ := Prod.mk.inj (calls_of_begin? began)
    have loyal : isBare request = false := by cases request <;> first | rfl | cases bus
    refine ⟨bus, begun, began, ?_⟩
    simp only [Function.comp_def, enlist, next_eq, loyal, pass]
  next => cases asked

/-- The tasks of a request stop a node if it is a request for that, and are no others then. -/
theorem stops_of_begin? {request : Request} {begun : Begun}
    (began : cluster.begin? request = some begun) :
    (∀ index, begun.tasks.any (·.isStopOf index) = true → request = .stop index) ∧
      ∀ index, request = .stop index →
        begun.tasks = [] ∨ begun.tasks = [.stop index .consumer] := by
  cases request with
  | operate index cache guarded call =>
      obtain ⟨node, _, began⟩ := Option.bind_eq_some_iff.1 began
      obtain ⟨operated, _, rfl⟩ := Option.map_eq_some_iff.1 began
      exact ⟨by simp [Task.isStopOf], by simp⟩
  | send index event =>
      cases began
      exact ⟨by simp [Task.isStopOf], by simp⟩
  | receive index body =>
      obtain ⟨node, _, rfl⟩ := Option.map_eq_some_iff.1 began
      exact ⟨by simp, by simp⟩
  | deliver message =>
      cases began
      exact ⟨by simp [Task.isStopOf], by simp⟩
  | start index =>
      obtain ⟨node, _, rfl⟩ := Option.map_eq_some_iff.1 began
      exact ⟨by simp [startNode], by simp⟩
  | stop index =>
      obtain ⟨node, _, rfl⟩ := Option.map_eq_some_iff.1 began
      unfold stopNode
      split
      · exact ⟨by simp, by simp⟩
      · exact ⟨by simp [Task.isStopOf], by simp⟩
  | produce index job =>
      obtain ⟨node, _, rfl⟩ := Option.map_eq_some_iff.1 began
      refine ⟨?_, by simp⟩
      unfold produceTask
      split <;> simp [Task.isStopOf]
  | halt index =>
      obtain ⟨node, _, rfl⟩ := Option.map_eq_some_iff.1 began
      refine ⟨?_, by simp⟩
      dsimp only [haltNode]
      split <;> simp [Task.isStopOf]

/-- The new caller is the one that is found by its ticket. -/
theorem caller?_enlist (numbered : cluster.Numbered) (tasks : List Task) (reply : Reply) :
    (cluster.enlist tasks reply).caller? cluster.nextTicket =
      some ⟨cluster.nextTicket, tasks, reply, false⟩ := by
  have absent : cluster.callers.find? (·.ticket == cluster.nextTicket) = none := by
    rw [List.find?_eq_none]
    intro caller member
    simpa using Nat.ne_of_lt (numbered caller member)
  simp [caller?, enlist, List.find?_append, absent]

theorem reply_enlist (numbered : cluster.Numbered) (tasks : List Task) (reply : Reply) :
    Session.reply (cluster.enlist tasks reply) cluster.nextTicket = reply := by
  rw [Session.reply, caller?_enlist numbered]

namespace Orderly

theorem enlist (orderly : cluster.Orderly) {tasks : List Task} (reply : Reply)
    (alone : ∀ index, tasks.any (·.isStopOf index) = true → ∃ task, tasks = [task]) :
    (cluster.enlist tasks reply).Orderly := by
  refine ⟨?_, ?_, ?_, ?_⟩
  · simp only [Cluster.enlist, List.map_append, List.map_cons, List.map_nil, List.nodup_append,
      List.nodup_singleton, List.mem_singleton, true_and]
    refine ⟨orderly.distinct, ?_⟩
    rintro ticket member _ rfl same
    obtain ⟨caller, present, rfl⟩ := List.mem_map.1 member
    exact Nat.lt_irrefl _ (same ▸ orderly.numbered caller present)
  · intro caller member
    rcases List.mem_append.1 member with early | late
    · exact Nat.lt_succ_of_lt (orderly.numbered caller early)
    · rw [List.mem_singleton.1 late]
      exact Nat.lt_succ_self _
  · intro caller member
    rcases List.mem_append.1 member with early | late
    · exact orderly.loyal caller early
    · rw [List.mem_singleton.1 late]
  · intro caller member index stops
    rcases List.mem_append.1 member with early | late
    · exact orderly.alone caller early index stops
    · rw [List.mem_singleton.1 late] at stops ⊢
      exact alone index stops

theorem callerStep? (orderly : cluster.Orderly)
    (stepped : cluster.callerStep? ticket = some after) :
    ∃ caller task rest middle further, cluster.caller? ticket = some caller ∧
      caller.tasks = task :: rest ∧ cluster.taskStep caller task rest = some (middle, further) ∧
        cluster.Proceeds caller task rest middle further ∧ after = middle.setCaller further := by
  unfold Cluster.callerStep? at stepped
  split at stepped
  · cases stepped
  next caller found =>
    split at stepped
    · cases stepped
    next task rest shape =>
      obtain ⟨⟨middle, further⟩, moved, rfl⟩ := Option.map_eq_some_iff.1 stepped
      have loyal := orderly.loyal caller (mem_of_caller? found).1
      exact ⟨caller, task, rest, middle, further, found, shape, moved,
        taskStep_proceeds loyal moved, rfl⟩

end Orderly

/-! ## Passages -/

/-- What a deed does to the watched node. -/
inductive Passage (cluster after : Cluster) (watched : Nat) (node later : Node) : Deed → Prop where
  /-- The node stays at its stage of life. -/
  | keep {deed : Deed} (apart : ∀ index, deed = .shut index → index ≠ watched)
      (keeps : node.Keeps later)
      (subscribed_eq : after.subscribed watched = cluster.subscribed watched)
      (stopping_eq : after.stopping watched = cluster.stopping watched) :
      Passage cluster after watched node later deed
  | shut (later_eq : later = { node with channel := node.channel.close })
      (left : after.subscribed watched = 0)
      (stopping_eq : after.stopping watched = cluster.stopping watched) :
      Passage cluster after watched node later (.shut watched)
  /-- A start fails. -/
  | fail {channel : Channel} (created : node.core.lifecycle = .created)
      (later_eq : later = { node with channel := channel })
      (faults_eq : channel.faults = node.channel.faults)
      (closed : node.channel.closed = true → channel.closed = true)
      (subscribed : after.subscribed watched = cluster.subscribed watched ∨
        after.subscribed watched = 0)
      (stopping_eq : after.stopping watched = cluster.stopping watched) :
      Passage cluster after watched node later (.ask (.start watched))
  | start {channel : Channel} {producer : Crew Job Sending}
      {consumer : Crew (List UInt8) (List UInt8)} (created : node.core.lifecycle = .created)
      (opened : node.channel.closed = false) (still : channel.closed = false)
      (faults_eq : channel.faults = node.channel.faults)
      (later_eq : later = { node with
        core := { node.core with lifecycle := .started }
        channel := channel
        pipeline := .running
        producer := producer
        consumer := consumer })
      (joined : after.subscribed watched = cluster.subscribed watched + 1)
      (stopping_eq : after.stopping watched = cluster.stopping watched) :
      Passage cluster after watched node later (.ask (.start watched))
  /-- A stop begins. -/
  | stop (started : node.core.lifecycle = .started) (later_eq : later = { node with
        core := { node.core with lifecycle := .stopped }
        recoveries := node.recoveries.trigger
        pipeline := .taken
        consumer := node.consumer.close })
      (subscribed_eq : after.subscribed watched = cluster.subscribed watched)
      (stopping : after.stopping watched = true) :
      Passage cluster after watched node later (.ask (.stop watched))
  /-- The channel crashes at the end of a stop. -/
  | crash {ticket : Nat} {channel : Channel} (stopping : cluster.stopping watched = true)
      (later_eq : later = { node with channel := channel })
      (faults_eq : channel.faults = node.channel.faults)
      (closed : node.channel.closed = true → channel.closed = true)
      (crash : node.channel.faults.get? .close = some .crash)
      (subscribed_eq : after.subscribed watched = cluster.subscribed watched) :
      Passage cluster after watched node later (.step (.caller ticket))
  /-- A stop ends. -/
  | finish {ticket : Nat} {channel : Channel} {shelf : CacheShelf}
      (stopping : cluster.stopping watched = true)
      (later_eq : later = { node with
        core := { node.core with
          shelf := shelf
          timestamps := node.core.timestamps.clear }
        channel := channel
        registrations := [] })
      (faults_eq : channel.faults = node.channel.faults)
      (closed : node.channel.closed = true → channel.closed = true)
      (left : after.subscribed watched = 0 ∨
        after.subscribed watched = cluster.subscribed watched ∧
          node.channel.faults.get? .close ≠ none) :
      Passage cluster after watched node later (.step (.caller ticket))

theorem stopping_of_calls (calls_eq : after.calls = cluster.calls) :
    after.stopping index = cluster.stopping index := by
  unfold stopping
  rw [(Prod.mk.inj calls_eq).1]

theorem stopping_enlist {tasks : List Task} (reply : Reply)
    (none : tasks.any (·.isStopOf watched) = false) :
    (cluster.enlist tasks reply).stopping watched = cluster.stopping watched := by
  simp only [stopping, enlist, List.any_append, List.any_cons, Caller.stops, none, List.any_nil,
    Bool.or_false]

/-- The time at which a passage begins does not matter. -/
theorem Passage.of_pass {nanos : Nat} {deed : Deed}
    (passage : (cluster.pass nanos).Passage after watched node later deed) :
    cluster.Passage after watched node later deed := by
  cases passage with
  | keep apart keeps subscribed_eq stopping_eq => exact .keep apart keeps subscribed_eq stopping_eq
  | shut later_eq left stopping_eq => exact .shut later_eq left stopping_eq
  | fail created later_eq faults_eq closed subscribed stopping_eq =>
      exact .fail created later_eq faults_eq closed subscribed stopping_eq
  | start created opened still faults_eq later_eq joined stopping_eq =>
      exact .start created opened still faults_eq later_eq joined stopping_eq
  | stop started later_eq subscribed_eq stopping =>
      exact .stop started later_eq subscribed_eq stopping
  | crash stopping later_eq faults_eq closed crash subscribed_eq =>
      exact .crash stopping later_eq faults_eq closed crash subscribed_eq
  | finish stopping later_eq faults_eq closed left =>
      exact .finish stopping later_eq faults_eq closed left

/-- A step that keeps the node, seen again after something that does not touch the node. -/
theorem Retains.passage (retains : cluster.Retains watched middle)
    (found : cluster.node? watched = some node) {deed : Deed}
    (apart : ∀ index, deed = .shut index → index ≠ watched)
    (nodes_eq : after.nodes = middle.nodes) (hub_eq : after.hub = middle.hub)
    (stopping_eq : after.stopping watched = cluster.stopping watched) :
    ∃ later, after.node? watched = some later ∧
      cluster.Passage after watched node later deed := by
  obtain ⟨later, made, here, works⟩ := retains.node found
  refine ⟨later, ?_, .keep apart works.keeps ?_ stopping_eq⟩
  · rw [node?, nodes_eq]
    exact here
  · rw [subscribed_of_hub hub_eq]
    exact retains.subscribed_eq

section Requests

variable {begun : Begun}

/-- A start of the watched node succeeds or fails. -/
theorem passage_of_start (found : cluster.node? watched = some node) (reply : Reply) :
    ∃ later, ((cluster.startNode watched node).cluster.enlist [] reply).node? watched = some later ∧
      cluster.Passage ((cluster.startNode watched node).cluster.enlist [] reply) watched node later
        (.ask (.start watched)) := by
  have outset := node.start_outset (.node watched) cluster.hub
  unfold startNode
  generalize node.start (.node watched) cluster.hub = result at outset
  cases outset with
  | failed undone faults_eq closed same left =>
      refine ⟨_, (node?_setNode found _ watched).trans (if_pos rfl), ?_⟩
      rcases left with stayed | ⟨created, left⟩
      · by_cases created : node.core.lifecycle = .created
        · exact .fail created rfl faults_eq closed (Or.inl (subscribed_of_hub stayed))
            (stopping_enlist reply rfl)
        · rw [same created]
          exact .keep (by simp) (.refl node) (subscribed_of_hub stayed) (stopping_enlist reply rfl)
      · exact .fail created rfl faults_eq closed (Or.inr (subscribed_of_leave_self left))
          (stopping_enlist reply rfl)
  | joined created opened still faults_eq producer_eq consumer_eq =>
      refine ⟨_, (node?_setNode found _ watched).trans (if_pos rfl), ?_⟩
      refine .start created opened still faults_eq rfl ?_ (stopping_enlist reply rfl)
      exact (subscribed_of_subscribe rfl).trans (by simp)

theorem subscribed_start_other (other : index ≠ watched) (node : Node) :
    (cluster.startNode index node).cluster.subscribed watched = cluster.subscribed watched := by
  have outset := node.start_outset (.node index) cluster.hub
  unfold startNode
  generalize node.start (.node index) cluster.hub = result at outset
  cases outset with
  | failed undone faults_eq closed same left =>
      rcases left with stayed | ⟨_, left⟩
      · exact subscribed_of_hub stayed
      · exact subscribed_of_leave_other left other
  | joined created opened still faults_eq producer_eq consumer_eq =>
      exact (subscribed_of_subscribe rfl).trans (by simp [other])

/-- A stop of the watched node begins or is refused. -/
theorem passage_of_stop (found : cluster.node? watched = some node) (reply : Reply) :
    ∃ later, ((cluster.stopNode watched node).cluster.enlist (cluster.stopNode watched node).tasks
        reply).node? watched = some later ∧
      cluster.Passage ((cluster.stopNode watched node).cluster.enlist
        (cluster.stopNode watched node).tasks reply) watched node later (.ask (.stop watched)) := by
  unfold stopNode Node.beginStop
  cases stage : node.core.lifecycle with
  | created =>
      exact (Retains.refl cluster watched).passage found (by simp) rfl rfl
        (stopping_enlist reply rfl)
  | stopped =>
      exact (Retains.refl cluster watched).passage found (by simp) rfl rfl
        (stopping_enlist reply rfl)
  | started =>
      refine ⟨_, (node?_setNode found _ watched).trans (if_pos rfl), ?_⟩
      refine .stop stage rfl rfl ?_
      simp [stopping, enlist, Caller.stops, Task.isStopOf]

theorem node?_start_other (found : cluster.node? index = some node) (other : index ≠ watched) :
    (cluster.startNode index node).cluster.node? watched = cluster.node? watched := by
  have set := node?_setNode found (node.start (.node index) cluster.hub).1 watched
  rw [if_neg (Ne.symm other)] at set
  exact set

theorem node?_stop_other (found : cluster.node? index = some node) (other : index ≠ watched) :
    (cluster.stopNode index node).cluster.node? watched = cluster.node? watched := by
  unfold stopNode
  split
  · rfl
  · exact (node?_setNode found _ watched).trans (if_neg (Ne.symm other))

/-- A request that neither starts nor stops the watched node leaves it at work. -/
theorem works_of_begin? {request : Request} (bus : request.isOfBus = true)
    (began : cluster.begin? request = some begun) (notStart : request ≠ .start watched)
    (notStop : request ≠ .stop watched) : cluster.Works watched [] begun.cluster := by
  cases request with
  | operate index cache guarded call =>
      obtain ⟨node, found, began⟩ := Option.bind_eq_some_iff.1 began
      obtain ⟨operated, operates, rfl⟩ := Option.map_eq_some_iff.1 began
      exact .setNode_unmarked found (.of_core (Core.operate_lasts operates)) rfl
  | send index event =>
      cases began
      exact .refl cluster watched
  | receive index body =>
      obtain ⟨node, found, rfl⟩ := Option.map_eq_some_iff.1 began
      exact handle_works found body
  | deliver message =>
      cases began
      exact .refl cluster watched
  | start index =>
      have other : index ≠ watched := fun same => notStart (by rw [same])
      have calls_eq := calls_of_begin? began
      obtain ⟨node, found, rfl⟩ := Option.map_eq_some_iff.1 began
      refine .of_elsewhere other (fun place apart => ?_) (subscribed_start_other other node)
        calls_eq
      exact node?_start_other found (Ne.symm apart)
  | stop index =>
      have other : index ≠ watched := fun same => notStop (by rw [same])
      have calls_eq := calls_of_begin? began
      obtain ⟨node, found, rfl⟩ := Option.map_eq_some_iff.1 began
      refine .of_elsewhere other (fun place apart => ?_) ?_ calls_eq
      · exact node?_stop_other found (Ne.symm apart)
      · unfold stopNode
        split <;> rfl
  | produce index job => cases bus
  | halt index => cases bus

end Requests

/-! ## Steps of a stop -/

theorem closeProducer_works (node : Node) : node.Works [] node.closeProducer := by
  refine .of_producer (Nat.le_of_eq ?_)
  cases node.producer <;> rfl

theorem subscribed_finishStop_other (other : index ≠ watched) (node : Node) :
    subscribed { cluster with hub := (node.finishStop (.node index) cluster.hub).2.1 } watched =
      cluster.subscribed watched := by
  have retires := node.finishStop_retires (.node index) cluster.hub
  generalize node.finishStop (.node index) cluster.hub = result at retires
  cases retires with
  | finished faults_eq closed hub_eq =>
      rcases hub_eq with left | ⟨stayed, _⟩
      · exact subscribed_of_leave_other left other
      · exact subscribed_of_hub stayed
  | crashed => rfl

/-- A stop of another node leaves the watched one at work. -/
theorem works_of_stopStep {stage : StopStage} (other : index ≠ watched)
    (stepped : cluster.stopStep caller rest index stage = some (middle, further)) :
    cluster.Works watched [] middle := by
  have calls_eq := (stopStep_proceeds stepped).calls_eq
  unfold stopStep at stepped
  split at stepped
  · cases stepped
    exact .refl _ watched
  next node found =>
    have elsewhere (changed : Node) (place : Nat) (apart : place ≠ index) :
        (cluster.setNode index changed).node? place = cluster.node? place :=
      (node?_setNode found changed place).trans (if_neg apart)
    split at stepped
    · split at stepped
      · cases stepped
        exact .of_elsewhere other (elsewhere _) rfl calls_eq
      · cases stepped
    · split at stepped
      · cases stepped
        refine .of_elsewhere other (elsewhere _) ?_ calls_eq
        exact subscribed_finishStop_other other node
      · cases stepped

/-- A stop of the watched node closes its producer, or it ends. -/
theorem passage_of_stopStep {stage : StopStage} (orderly : cluster.Orderly)
    (held : cluster.caller? ticket = some caller)
    (shape : caller.tasks = .stop watched stage :: rest)
    (stepped : cluster.stopStep caller rest watched stage = some (middle, further))
    (found : cluster.node? watched = some node) (nanos : Nat) :
    ∃ later, ((middle.setCaller further).pass nanos).node? watched = some later ∧
      cluster.Passage ((middle.setCaller further).pass nanos) watched node later
        (.step (.caller ticket)) := by
  have proceeds := stopStep_proceeds stepped
  have stops : caller.stops watched = true := by simp [Caller.stops, shape, Task.isStopOf]
  simp only [stopStep, found] at stepped
  cases stage with
  | consumer =>
      dsimp only at stepped
      split at stepped
      · cases stepped
        have retains : cluster.Retains watched (cluster.setNode watched node.closeProducer) :=
          .of_setNode found (closeProducer_works node)
        refine retains.passage found (by simp) rfl rfl ?_
        refine orderly.stopping_setCaller held proceeds.calls_eq proceeds.ticket_eq ?_
        rw [stops]
        simp [Caller.stops, Caller.goOn, Task.isStopOf]
      · cases stepped
  | producer =>
      dsimp only at stepped
      split at stepped
      · cases stepped
        have under : cluster.stopping watched = true :=
          List.any_eq_true.2 ⟨caller, (mem_of_caller? held).1, stops⟩
        have retires := node.finishStop_retires (.node watched) cluster.hub
        generalize node.finishStop (.node watched) cluster.hub = result at retires
        refine ⟨_, (node?_setNode found _ watched).trans (if_pos rfl), ?_⟩
        cases retires with
        | finished faults_eq closed hub_eq =>
            refine .finish under rfl faults_eq closed ?_
            rcases hub_eq with left | ⟨stayed, faulty⟩
            · exact Or.inl (subscribed_of_leave_self left)
            · exact Or.inr ⟨subscribed_of_hub stayed, faulty⟩
        | crashed faults_eq closed crash => exact .crash under rfl faults_eq closed crash rfl
      · cases stepped

/-! ## Every deed -/

theorem Orderly.passage_of_callerStep? (orderly : cluster.Orderly)
    (stepped : cluster.callerStep? ticket = some after)
    (found : cluster.node? watched = some node) (nanos : Nat) :
    ∃ later, (after.pass nanos).node? watched = some later ∧
      cluster.Passage (after.pass nanos) watched node later (.step (.caller ticket)) := by
  obtain ⟨caller, task, rest, middle, further, held, shape, moved, proceeds, rfl⟩ :=
    orderly.callerStep? stepped
  by_cases stops : ∃ index stage, task = .stop index stage
  · obtain ⟨index, stage, rfl⟩ := stops
    by_cases here : index = watched
    · subst here
      exact passage_of_stopStep orderly held shape moved found nanos
    · have retains := (works_of_stopStep here moved).retains
      refine retains.passage found (by simp) rfl rfl ?_
      exact orderly.stopping_of_proceeds held shape proceeds (by simpa [Task.isStopOf] using here)
  · have loyal := orderly.loyal caller (mem_of_caller? held).1
    have retains : cluster.Retains watched middle ∧
        cluster.Proceeds caller task rest middle further :=
      taskStep_retains loyal moved (by simpa using stops)
    refine retains.1.passage found (by simp) rfl rfl ?_
    refine orderly.stopping_of_proceeds held shape proceeds ?_
    cases task <;> first | rfl | exact absurd ⟨_, _, rfl⟩ stops

theorem Orderly.passage_of_act? (orderly : cluster.Orderly) {thread : Thread}
    (stepped : cluster.act? thread = some after) (found : cluster.node? watched = some node)
    (nanos : Nat) :
    after.Orderly ∧ ∃ later, (after.pass nanos).node? watched = some later ∧
      cluster.Passage (after.pass nanos) watched node later (.step thread) := by
  have kept (retains : cluster.Retains watched after) : after.Orderly ∧ ∃ later,
      (after.pass nanos).node? watched = some later ∧
        cluster.Passage (after.pass nanos) watched node later (.step thread) :=
    ⟨orderly.of_calls retains.calls_eq,
      retains.passage found (by simp) rfl rfl (stopping_of_calls retains.calls_eq)⟩
  cases thread with
  | producerWorker index stripe => exact kept (producerStep?_retains stepped)
  | consumerWorker index stripe => exact kept (consumerStep?_works stepped).retains
  | cleaner index => exact kept (cleanerStep?_works stepped).retains
  | caller ticket =>
      obtain ⟨caller, task, rest, middle, further, held, shape, moved, proceeds, same⟩ :=
        orderly.callerStep? stepped
      refine ⟨?_, orderly.passage_of_callerStep? stepped found nanos⟩
      rw [same]
      exact orderly.setCaller held shape proceeds

theorem Orderly.passage_of_ask (orderly : cluster.Orderly) {request : Request}
    (asked : cluster.do? (.ask request) = some after) (found : cluster.node? watched = some node) :
    after.Orderly ∧ ∃ later, after.node? watched = some later ∧
      cluster.Passage after watched node later (.ask request) := by
  obtain ⟨bus, begun, began, rfl⟩ := of_ask asked
  obtain ⟨only, alone⟩ := stops_of_begin? began
  have calls_eq := calls_of_begin? began
  refine ⟨(orderly.of_calls calls_eq).enlist _ fun index stops => ?_, ?_⟩
  · rcases alone index (only index stops) with none | one
    · rw [none] at stops
      cases stops
    · exact ⟨_, one⟩
  · have here : (cluster.pass stepTime).node? watched = some node := found
    by_cases starts : request = .start watched
    · subst starts
      simp only [begin?, here, Option.map_some, Option.some.injEq] at began
      subst began
      obtain ⟨later, there, passage⟩ := passage_of_start here _
      exact ⟨later, there, passage.of_pass⟩
    · by_cases stops : request = .stop watched
      · subst stops
        simp only [begin?, here, Option.map_some, Option.some.injEq] at began
        subst began
        obtain ⟨later, there, passage⟩ := passage_of_stop here _
        exact ⟨later, there, passage.of_pass⟩
      · have retains := (works_of_begin? bus began starts stops).retains
        have silent : begun.tasks.any (·.isStopOf watched) = false := by
          rw [← Bool.not_eq_true]
          exact fun some => stops (only watched some)
        have still := (stopping_enlist begun.reply silent).trans (stopping_of_calls calls_eq)
        have passed : ∃ later,
            (begun.cluster.enlist begun.tasks begun.reply).node? watched = some later ∧
              (cluster.pass stepTime).Passage (begun.cluster.enlist begun.tasks begun.reply) watched
                node later (.ask request) :=
          retains.passage here (by simp) rfl rfl still
        obtain ⟨later, there, passage⟩ := passed
        exact ⟨later, there, passage.of_pass⟩

/-- Every deed leaves the callers orderly, and is a passage of the watched node. -/
theorem Orderly.passage (orderly : cluster.Orderly) {deed : Deed}
    (did : cluster.do? deed = some after) (found : cluster.node? watched = some node) :
    after.Orderly ∧ ∃ later, after.node? watched = some later ∧
      cluster.Passage after watched node later deed := by
  cases deed with
  | ask request => exact orderly.passage_of_ask did found
  | step thread =>
      obtain ⟨middle, stepped, rfl⟩ := Option.map_eq_some_iff.1 did
      obtain ⟨still, passage⟩ := orderly.passage_of_act? stepped found stepTime
      exact ⟨still.of_calls rfl, passage⟩
  | wait nanos =>
      injection did with same
      subst same
      exact ⟨orderly.of_calls rfl,
        (Retains.refl cluster watched).passage found (by simp) rfl rfl rfl⟩
  | turn index turn =>
      injection did with same
      subst same
      refine ⟨orderly.of_calls rfl, ?_⟩
      rw [node?_modifyNode]
      by_cases here : watched = index
      · subst here
        exact ⟨node.turn turn, by simp [found], .keep (by simp) (node.turn_keeps turn) rfl rfl⟩
      · exact ⟨node, by simp [here, found], .keep (by simp) (.refl node) rfl rfl⟩
  | shut index =>
      injection did with same
      subst same
      refine ⟨orderly.of_calls rfl, ?_⟩
      have shut : (cluster.shut index).node? watched =
          if watched = index then (cluster.node? watched).map fun node =>
            { node with channel := node.channel.close }
          else cluster.node? watched :=
        node?_modifyNode index _ watched
      by_cases here : index = watched
      · subst here
        rw [if_pos rfl, found] at shut
        exact ⟨_, shut, .shut rfl (subscribed_of_leave_self rfl) rfl⟩
      · rw [if_neg (Ne.symm here), found] at shut
        refine ⟨node, shut, .keep ?_ (.refl node) (subscribed_of_leave_other rfl here) rfl⟩
        rintro _ ⟨⟩
        exact here

end Cluster
end CacheSync
