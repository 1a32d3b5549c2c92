import CacheSync.Proofs.Coherence.Route

/-!
# Nodes with striped pipelines

A node with a striped producer leads, and a node with a striped consumer follows.  `Leader` and
`Follower` say which events wait in the stripes of either, or are being worked on by the worker of
their stripe, and each step of one of the two adds an event behind those of its stripe, takes the
first of a stripe away, or leaves them all.
-/

namespace CacheSync

open StripedRing (stripeAmong)

/-! ## The two nodes -/

namespace Sending

/-- The event of a sending that has not reached the follower. -/
def carried (follower : Nat) (sending : Sending) : List Event :=
  match sending.stage with
  | .spreading spread => if .node follower ∈ spread.left then [sending.job.event] else []
  | _ => [sending.job.event]

/-- A sending over a good channel, which reaches the follower at most once and never the leader. -/
inductive Fits (leader follower : Nat) : Sending → Prop where
  | encoding {job : Job} : job.config.policy = .replicated → Fits leader follower (.ofJob job)
  | calling {job : Job} :
      Fits leader follower (.calling job ⟨job.hash, Wire.encode job.event true⟩)
  | spreading {job : Job} {left : List Member} {waited : Bool} :
      left.count (.node follower) ≤ 1 → .node leader ∉ left →
      Fits leader follower
        (.spreading job ⟨⟨job.hash, Wire.encode job.event true⟩, left, waited⟩)

end Sending

namespace Node

/-- One stripe of a leader: the jobs that wait, the sending of its worker, and the events of
both. -/
structure Lane (leader follower : Nat) (jobs : List Job) (sending : Option Sending)
    (events : List Event) : Prop where
  replicated : ∀ job ∈ jobs, job.config.policy = .replicated
  fits : ∀ one, sending = some one → one.Fits leader follower
  events_eq : sending.toList.flatMap (Sending.carried follower) ++ jobs.map (·.event) = events

/-- A node that leads: it has a striped producer, and its consumer has no work. -/
structure Leader (node : Node) (cache : String) (leader follower outs : Nat)
    (leaving : Nat → List Event) (here : Contents) : Prop where
  mirrors : node.Mirrors cache
  still : node.consumer.Still
  held_eq : node.core.held cache = here
  striped : ∃ workers jobs sendings, node.producer = .striped workers ∧
    workers.Shows outs jobs sendings ∧
      ∀ stripe, Lane leader follower (jobs stripe) (sendings stripe) (leaving stripe)

/-- A node that follows: it has a striped consumer, and its producer has no work. -/
structure Follower (node : Node) (cache : String) (ins : Nat) (arriving : Nat → List Event)
    (there : Contents) : Prop where
  mirrors : node.core.frame.Mirrors cache
  still : node.producer.Still
  held_eq : node.core.held cache = there
  striped : ∃ workers, node.consumer = .striped workers ∧
    workers.Serves ins (List.map (Wire.encode · true) ∘ arriving)

variable {node changed : Node} {cache : String} {leader follower outs ins : Nat}
  {queue : Nat → List Event} {held : Contents}

/-- What a node leads with does not depend on the rest of it. -/
theorem Leader.of_parts (leads : node.Leader cache leader follower outs queue held)
    {here : Contents} (frame_eq : changed.core.frame = node.core.frame)
    (held_eq : changed.core.held cache = here)
    (pipeline_eq : changed.pipeline = node.pipeline) (carries : changed.channel.Carries)
    (crews_eq : changed.producer = node.producer ∧ changed.consumer = node.consumer) :
    changed.Leader cache leader follower outs queue here where
  mirrors := leads.mirrors.of_frame frame_eq pipeline_eq carries
  still := by
    rw [crews_eq.2]
    exact leads.still
  held_eq := held_eq
  striped := by
    rw [crews_eq.1]
    exact leads.striped

/-- What a node follows with does not depend on the rest of it. -/
theorem Follower.of_parts (follows : node.Follower cache ins queue held)
    (frame_eq : changed.core.frame = node.core.frame)
    (held_eq : changed.core.held cache = node.core.held cache)
    (crews_eq : changed.producer = node.producer ∧ changed.consumer = node.consumer) :
    changed.Follower cache ins queue held where
  mirrors := by
    rw [frame_eq]
    exact follows.mirrors
  still := by
    rw [crews_eq.1]
    exact follows.still
  held_eq := held_eq.trans follows.held_eq
  striped := by
    rw [crews_eq.2]
    exact follows.striped

/-! ## Steps of the leader's producer -/

variable {producers producers' : Workers Job Sending}

theorem Leader.lanes (leads : node.Leader cache leader follower outs queue held)
    (shape : node.producer = .striped producers) :
    ∃ jobs sendings, producers.Shows outs jobs sendings ∧
      ∀ stripe, Lane leader follower (jobs stripe) (sendings stripe) (queue stripe) := by
  obtain ⟨workers, jobs, sendings, shape', shown, lanes⟩ := leads.striped
  rw [shape] at shape'
  injection shape' with same
  rw [same]
  exact ⟨jobs, sendings, shown, lanes⟩

theorem Leader.setProducer (leads : node.Leader cache leader follower outs queue held)
    {jobs : Nat → List Job} {sendings : Nat → Option Sending} {leaving : Nat → List Event}
    (shown : producers.Shows outs jobs sendings)
    (lanes : ∀ stripe, Lane leader follower (jobs stripe) (sendings stripe) (leaving stripe)) :
    ({ node with producer := .striped producers } : Node).Leader cache leader follower outs leaving
      held where
  mirrors := leads.mirrors.of_frame rfl rfl leads.mirrors.carries
  still := leads.still
  held_eq := leads.held_eq
  striped := ⟨producers, jobs, sendings, rfl, shown, lanes⟩

/-- A worker of a leader is done with a stage of its sending, or with all of it. -/
theorem Leader.setSending (leads : node.Leader cache leader follower outs queue held)
    (shape : node.producer = .striped producers) {stripe : Nat} {sending : Sending}
    (busy : producers.work? stripe = some sending) :
    sending.Fits leader follower ∧
      ∃ rest, queue stripe = sending.carried follower ++ rest ∧
        ∀ next : Option Sending, (∀ other, next = some other → other.Fits leader follower) →
          ({ node with producer := .striped (producers.setWorker stripe (.ofWork? next)) } :
            Node).Leader cache leader follower outs
              (Function.update queue stripe
                (next.toList.flatMap (Sending.carried follower) ++ rest))
              held := by
  obtain ⟨jobs, sendings, shown, lanes⟩ := leads.lanes shape
  have inRange := shown.inRange_of_work? busy
  rw [shown.work?_eq inRange] at busy
  have lane := lanes stripe
  refine ⟨lane.fits sending busy, (jobs stripe).map (·.event), ?_, ?_⟩
  · rw [← lane.events_eq, busy]
    simp
  · intro next fit
    exact leads.setProducer (shown.setWorker inRange next)
      (forall_update (fun stripe => Lane leader follower (jobs stripe)) lanes
        ⟨lane.replicated, fit, rfl⟩)

theorem Leader.take (leads : node.Leader cache leader follower outs queue held)
    (shape : node.producer = .striped producers) {stripe : Nat}
    (taken : producers.take? Sending.ofJob stripe = some producers') :
    ({ node with producer := .striped producers' } : Node).Leader cache leader follower outs queue
      held := by
  obtain ⟨jobs, sendings, shown, lanes⟩ := leads.lanes shape
  obtain ⟨job, rest, _, idle, waiting, shown⟩ := shown.of_take? taken
  have lane := lanes stripe
  rw [idle, waiting] at lane
  refine leads.setProducer shown
    (forall_update (fun stripe jobs sending => Lane leader follower jobs sending (queue stripe))
      lanes ⟨?_, ?_, ?_⟩)
  · exact fun other member => lane.replicated other (List.mem_cons_of_mem job member)
  · intro other this
    injection this with this
    rw [← this]
    exact .encoding (lane.replicated job List.mem_cons_self)
  · rw [← lane.events_eq]
    rfl

/-- A leader takes a job in, unless the stripe of the job is full. -/
theorem Leader.offer (leads : node.Leader cache leader follower outs queue held)
    (shape : node.producer = .striped producers) {job : Job}
    (replicated : job.config.policy = .replicated) :
    producers.offer job.hash job = .full ∨
      ∃ after, producers.offer job.hash job = .accepted after ∧
        ({ node with producer := .striped after } : Node).Leader cache leader follower outs
          (Function.update queue (stripeAmong outs job.hash)
            (queue (stripeAmong outs job.hash) ++ [job.event])) held := by
  obtain ⟨jobs, sendings, shown, lanes⟩ := leads.lanes shape
  rcases shown.offer job.hash job with full | ⟨after, accepted, shown⟩
  · exact Or.inl full
  · have lane := lanes (stripeAmong outs job.hash)
    refine Or.inr ⟨after, accepted, leads.setProducer shown
      (forall_update (fun stripe jobs => Lane leader follower jobs (sendings stripe)) lanes
        ⟨?_, lane.fits, ?_⟩)⟩
    · intro other member
      rcases List.mem_append.1 member with early | late
      · exact lane.replicated other early
      · rw [List.mem_singleton.1 late]
        exact replicated
    · rw [← lane.events_eq, List.map_append, List.append_assoc]
      rfl

/-! ## Steps of the follower's consumer -/

variable {consumers consumers' : Workers (List UInt8) (List UInt8)}

theorem Follower.serves (follows : node.Follower cache ins queue held)
    (shape : node.consumer = .striped consumers) :
    consumers.Serves ins (List.map (Wire.encode · true) ∘ queue) := by
  obtain ⟨workers, shape', serves⟩ := follows.striped
  rw [shape] at shape'
  injection shape' with same
  rw [same]
  exact serves

/-- A follower takes a message in, unless the stripe of the message is full. -/
theorem Follower.offer (follows : node.Follower cache ins queue held)
    (shape : node.consumer = .striped consumers) (event : Event) :
    consumers.offer event.hash (Wire.encode event true) = .full ∨
      ∃ after, consumers.offer event.hash (Wire.encode event true) = .accepted after ∧
        ({ node with consumer := .striped after } : Node).Follower cache ins
          (Function.update queue (stripeAmong ins event.hash)
            (queue (stripeAmong ins event.hash) ++ [event])) held := by
  rcases (follows.serves shape).offer event.hash (Wire.encode event true) with
    full | ⟨after, accepted, serves⟩
  · exact Or.inl full
  · refine Or.inr ⟨after, accepted, follows.mirrors, follows.still, follows.held_eq, after, rfl, ?_⟩
    rw [Function.comp_update, List.map_append]
    exact serves

theorem Follower.take (follows : node.Follower cache ins queue held)
    (shape : node.consumer = .striped consumers) {stripe : Nat}
    (taken : consumers.take? id stripe = some consumers') :
    ({ node with consumer := .striped consumers' } : Node).Follower cache ins queue held :=
  ⟨follows.mirrors, follows.still, follows.held_eq, consumers', rfl,
    (follows.serves shape).take taken⟩

/-- A worker of a follower is busy with the message of the first event of its stripe. -/
theorem Follower.handle (follows : node.Follower cache ins queue held)
    (shape : node.consumer = .striped consumers) {stripe : Nat} {body : List UInt8}
    (busy : consumers.work? stripe = some body) :
    ∃ event rest, queue stripe = event :: rest ∧ body = Wire.encode event true ∧
      ∀ core : Core, core.frame = node.core.frame →
        ({ node with
            core := core
            consumer := .striped (consumers.settle stripe .goOn) } : Node).Follower cache ins
              (Function.update queue stripe rest) (core.held cache) := by
  obtain ⟨bodies, queued, serves⟩ := (follows.serves shape).settle busy
  obtain ⟨event, rest, queue_eq, rfl, rfl⟩ := List.map_eq_cons_iff.1 queued
  refine ⟨event, rest, queue_eq, rfl, ?_⟩
  intro core frame_eq
  refine ⟨?_, follows.still, rfl, _, rfl, ?_⟩
  · rw [frame_eq]
    exact follows.mirrors
  · rw [Function.comp_update]
    exact serves

end Node

end CacheSync
