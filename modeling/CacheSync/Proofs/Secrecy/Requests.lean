import CacheSync.Proofs.Secrecy.Threads

/-!
# Deeds that differ in values

A deed done to one of two alike clusters, and another that differs from it at most in values done to
the other cluster, are both possible or neither is, and leave the clusters alike.  So do whole
courses of such deeds.
-/

namespace CacheSync

/-! ## Requests and turns -/

/-- Two requests to a bus that differ at most in values. -/
inductive Request.Alike : Request → Request → Prop where
  | operate (node : Nat) (cache : String) (guarded : Bool) {call another : StoreCall}
      (calls : call.Alike another) :
      Alike (.operate node cache guarded call) (.operate node cache guarded another)
  | send (node : Nat) {event other : Event} (events : event.Alike other) :
      Alike (.send node event) (.send node other)
  | receive (node : Nat) {body another : List UInt8} (bodies : Wire.Alike body another) :
      Alike (.receive node body) (.receive node another)
  | deliver {message another : Message} (messages : message.Alike another) :
      Alike (.deliver message) (.deliver another)
  | start (node : Nat) : Alike (.start node) (.start node)
  | stop (node : Nat) : Alike (.stop node) (.stop node)

theorem Node.Alike.turn {first second : Node} (alike : first.Alike second) (turn : Turn) :
    (first.turn turn).Alike (second.turn turn) := by
  cases turn with
  | register => exact alike.register
  | attach cache => exact alike.attach cache
  | create cache =>
      obtain ⟨⟨shelves, discreet⟩, producers, consumers⟩ := alike
      exact .intro (.intro (shelves.create cache) discreet) producers consumers
  | release =>
      obtain ⟨⟨shelves, discreet⟩, producers, consumers⟩ := alike
      exact .intro (.intro shelves discreet) producers consumers
  | connect connected =>
      obtain ⟨cores, producers, consumers⟩ := alike
      exact .intro cores producers consumers
  | extendScript fates =>
      obtain ⟨cores, producers, consumers⟩ := alike
      exact .intro cores producers consumers
  | openGate =>
      obtain ⟨cores, producers, consumers⟩ := alike
      exact .intro cores producers consumers

namespace Cluster

/-! ## Deeds -/

/-- Two deeds that differ at most in values. -/
inductive Deed.Alike : Deed → Deed → Prop where
  | ask {request other : Request} (requests : request.Alike other) :
      Alike (.ask request) (.ask other)
  | step (thread : Thread) : Alike (.step thread) (.step thread)
  | wait (nanos : Nat) : Alike (.wait nanos) (.wait nanos)
  | turn (node : Nat) (turn : Turn) : Alike (.turn node turn) (.turn node turn)
  | shut (node : Nat) : Alike (.shut node) (.shut node)

/-- Two requests that have begun, and of which alike tasks are left. -/
structure Begun.Alike (first second : Begun) : Prop where
  clusters : first.cluster.Alike second.cluster
  tasks : List.Forall₂ Task.Alike first.tasks second.tasks

namespace Alike

variable {first second : Cluster}

theorem startNode (alike : first.Alike second) (index : Nat) {node other : Node}
    (nodes : node.Alike other) :
    (first.startNode index node).Alike (second.startNode index other) := by
  obtain ⟨started, same⟩ := nodes.start (.node index) first.hub
  unfold Cluster.startNode
  rw [alike.hub_eq]
  generalize node.start (.node index) first.hub = outcome at started same
  generalize other.start (.node index) first.hub = result at started same
  obtain ⟨begun, hub, answer⟩ := outcome
  obtain ⟨begins, _, _⟩ := result
  cases same
  exact ⟨(alike.setNode index started).withHub hub, .nil⟩

theorem stopNode (alike : first.Alike second) (index : Nat) {node other : Node}
    (nodes : node.Alike other) :
    (first.stopNode index node).Alike (second.stopNode index other) := by
  have stopping := nodes.beginStop
  unfold Cluster.stopNode
  generalize node.beginStop = outcome at stopping
  generalize other.beginStop = result at stopping
  cases stopping with
  | failed error => exact ⟨alike, .nil⟩
  | done nodes => exact ⟨alike.setNode index nodes, .cons (.stop index .consumer) .nil⟩

/-- What is asked of both clusters begins in both or in neither. -/
theorem begin? (alike : first.Alike second) {request other : Request}
    (requests : request.Alike other) :
    Option.Rel Begun.Alike (first.begin? request) (second.begin? other) := by
  cases requests with
  | send index events => exact .some ⟨alike, .cons (.hear index events) .nil⟩
  | deliver messages =>
      unfold Cluster.begin?
      rw [alike.hub_eq]
      exact .some ⟨alike, .cons (.spread (.intro messages _ _)) .nil⟩
  | operate index cache guarded calls =>
      unfold Cluster.begin?
      rw [alike.clock_eq]
      refine rel_bind (alike.nodes index) fun _ _ nodes =>
        rel_map (nodes.core.operate calls cache guarded first.clock) fun _ _ same =>
          ⟨alike.setNode index (nodes.withCore same.core), ?_⟩
      exact List.rel_map (fun _ _ events => .hear index events) same.heard
  | receive index bodies =>
      exact rel_map (alike.nodes index) fun _ _ nodes =>
        ⟨(alike.handle index nodes bodies).1, .nil⟩
  | start index =>
      exact rel_map (alike.nodes index) fun _ _ nodes => alike.startNode index nodes
  | stop index =>
      exact rel_map (alike.nodes index) fun _ _ nodes => alike.stopNode index nodes

theorem request? (alike : first.Alike second) {request other : Request}
    (requests : request.Alike other) :
    Option.Rel Alike ((first.request? request).map (·.1)) ((second.request? other).map (·.1)) := by
  have bare_eq : isBare other = isBare request := by cases requests <;> rfl
  have passed := alike.pass stepTime
  unfold Cluster.request?
  rcases eq_none_or_eq_some_of_rel (passed.begin? requests) with
    ⟨none, absent⟩ | ⟨begun, another, began, begins, same⟩
  · rw [none, absent]
    exact .none
  · rw [began, begins, alike.next_eq, bare_eq]
    refine .some ⟨same.clusters.clock_eq, same.clusters.nodes, same.clusters.hub_eq, ?_, rfl⟩
    exact List.rel_append same.clusters.callers (.cons ⟨rfl, same.tasks, rfl⟩ .nil)

theorem shut (alike : first.Alike second) (index : Nat) :
    (first.shut index).Alike (second.shut index) := by
  have closed := alike.modifyNode index fun node other (nodes : node.Alike other) =>
    show Node.Alike { node with channel := node.channel.close }
      { other with channel := other.channel.close } from
    nodes.channel_eq ▸ nodes.withChannel _
  unfold Cluster.shut
  rw [alike.hub_eq]
  exact closed.withHub _

/-- A deed that is possible in one cluster is possible in the other. -/
theorem do? (alike : first.Alike second) {deed other : Deed} (deeds : deed.Alike other) :
    Option.Rel Alike (first.do? deed) (second.do? other) := by
  cases deeds with
  | @ask request other requests =>
      have isOfBus_eq : other.isOfBus = request.isOfBus := by cases requests <;> rfl
      unfold Cluster.do?
      dsimp only
      rw [isOfBus_eq]
      split
      · exact alike.request? requests
      · exact .none
  | step thread => exact alike.step? thread
  | wait nanos => exact .some (alike.pass nanos)
  | turn index turn => exact .some (alike.modifyNode index fun _ _ nodes => nodes.turn turn)
  | shut index => exact .some (alike.shut index)

theorem after? {deeds others : List Deed} (same : List.Forall₂ Deed.Alike deeds others) :
    ∀ {first second : Cluster}, first.Alike second →
      Option.Rel Alike (first.after? deeds) (second.after? others) := by
  induction same with
  | nil => exact .some
  | cons deed _ inductionHypothesis =>
      intro first second alike
      exact rel_bind (alike.do? deed) fun _ _ alike => inductionHypothesis alike

end Alike
end Cluster
end CacheSync
