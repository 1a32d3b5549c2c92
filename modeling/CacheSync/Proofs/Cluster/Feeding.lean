import CacheSync.Cluster.Feeding
import CacheSync.Proofs.Cluster.Sending
import CacheSync.Proofs.Node.Independent
import CacheSync.Proofs.Ring.Queue

/-!
# Consumers that end alike

A consumer on the calling thread handles each as it comes; the workers of a
striped consumer handle those of every stripe in turn, and the stripes in any order.  As messages of
different stripes are about different caches or keys, their events commute, and both consumers leave
the same view once all messages are handled.
-/

namespace CacheSync

open StripedRing (stripeAmong)

namespace Cluster

theorem Feed.follow {index : Nat} {start : Cluster} (feedings : List Feeding) :
    ∀ {messages : List Message} {middle after : Cluster}, Feed index start messages middle →
      middle.feedAll? index feedings = some after →
        Feed index start (messages ++ feedings.flatMap Feeding.messages) after := by
  induction feedings with
  | nil =>
      intro messages middle after feed followed
      injection followed with same
      rw [← same]
      simpa using feed
  | cons feeding rest inductionHypothesis =>
      intro messages middle after feed followed
      unfold feedAll? at followed
      split at followed
      next spared =>
        obtain ⟨next, fed, further⟩ := Option.bind_eq_some_iff.1 followed
        rw [List.flatMap_cons, ← List.append_assoc]
        exact inductionHypothesis (.step feed spared fed) further
      next => cases followed

end Cluster

/-! ## What has been handled -/

namespace Frame

/-- What some messages make of a view, one after another. -/
def receiveAll (frame : Frame) (messages : List Message) (view : View) : View :=
  messages.foldl (fun view message => frame.receiveBody message.body view) view

/-- A message that carries the routing hash of its event, which is not about every key of a
replicated cache.  A message that cannot be read may carry any hash. -/
def Addresses (frame : Frame) (message : Message) : Prop :=
  ∀ event : Event, Wire.decode message.body = .ok event →
    message.hash = event.hash ∧ frame.Narrow event

variable {frame : Frame} {first second : Message}

/-- Messages of different hashes commute. -/
theorem receiveBody_comm (consistent : frame.config.Consistent) (toFirst : frame.Addresses first)
    (toSecond : frame.Addresses second) (apart : first.hash ≠ second.hash) (view : View) :
    frame.receiveBody second.body (frame.receiveBody first.body view) =
      frame.receiveBody first.body (frame.receiveBody second.body view) := by
  unfold receiveBody
  cases readFirst : Wire.decode first.body with
  | error error => rfl
  | ok one =>
      cases readSecond : Wire.decode second.body with
      | error error => rfl
      | ok other =>
          obtain ⟨hashFirst, narrowFirst⟩ := toFirst one readFirst
          obtain ⟨hashSecond, narrowSecond⟩ := toSecond other readSecond
          refine receive_comm consistent narrowFirst narrowSecond ?_ view
          rintro ⟨sameCache, sameKey⟩
          rw [hashFirst, hashSecond, Event.hash, Event.hash, sameCache, sameKey] at apart
          exact apart rfl

/-- Only the order of the messages of each stripe matters. -/
theorem receiveAll_eq (consistent : frame.config.Consistent) (stripes : Nat)
    {delivered handled : List Message} (addressed : ∀ message ∈ delivered, frame.Addresses message)
    (same : ∀ stripe, handled.filter (stripeAmong stripes ·.hash = stripe) =
      delivered.filter (stripeAmong stripes ·.hash = stripe)) (view : View) :
    frame.receiveAll handled view = frame.receiveAll delivered view := by
  refine (foldl_eq_of_routes (fun message => stripeAmong stripes message.hash) ?_
    (fun stripe => (same stripe).symm) view).symm
  intro one member other memberToo different view
  refine receiveBody_comm consistent (addressed one member) (addressed other memberToo) ?_ view
  intro sameHash
  exact different (by rw [sameHash])

end Frame

/-- A core that has handled some messages since it showed a view. -/
structure Core.Past (core : Core) (frame : Frame) (initial : View) (handled : List Message) :
    Prop where
  frame_eq : core.frame = frame
  view_eq : core.view = frame.receiveAll handled initial

theorem Core.Past.receive {core : Core} {frame : Frame} {initial : View} {handled : List Message}
    (past : core.Past frame initial handled) (started : frame.lifecycle = .started)
    (crashless : frame.Crashless) (message : Message) {clock : Clock}
    (left : core.purgesOn message.body clock = false) :
    (core.receive message.body clock).crashed = false ∧
      (core.receive message.body clock).core.Past frame initial (handled ++ [message]) := by
  have running : core.lifecycle = .started := by
    rw [← past.frame_eq] at started
    exact started
  have received : (core.receive message.body clock).Shows core.frame
      (core.frame.receiveBody message.body core.view) :=
    receive_shows (by rw [past.frame_eq]; exact crashless) (by simp [isStarted, running]) left
  refine ⟨received.crashed_eq, received.frame_eq.trans past.frame_eq, ?_⟩
  rw [received.view_eq, past.frame_eq, past.view_eq]
  simp [Frame.receiveAll]

/-! ## Two kinds of consumers -/

namespace Node

/-- A node with a consumer on the calling thread, which has handled some messages. -/
structure Handles (node : Node) (frame : Frame) (initial : View) (delivered : List Message) :
    Prop where
  direct : node.consumer = .direct
  past : node.core.Past frame initial delivered

/-- A node with a striped consumer, which has been handed some messages: those of each stripe are
handled, or wait, in the order they came in. -/
def Drains (node : Node) (frame : Frame) (initial : View) (stripes : Nat)
    (delivered : List Message) : Prop :=
  ∃ workers pending handled, node.consumer = .striped workers ∧
    workers.Serves stripes (List.map Message.body ∘ pending) ∧
      node.core.Past frame initial handled ∧
        ∀ stripe, handled.filter (stripeAmong stripes ·.hash = stripe) ++ pending stripe =
          delivered.filter (stripeAmong stripes ·.hash = stripe)

variable {node : Node} {frame : Frame} {initial : View} {stripes : Nat} {delivered : List Message}

theorem Drains.of_make {capacity : Nat}
    (made : Crew.make .consumer (.striped stripes capacity) = .ok node.consumer) :
    node.Drains node.core.frame node.core.view stripes [] := by
  obtain ⟨workers, shape, shown⟩ := Crew.shows_of_make made
  exact ⟨workers, fun _ => [], [], shape, .of_shows shown, ⟨rfl, rfl⟩, fun _ => rfl⟩

variable {workers after : Workers (List UInt8) (List UInt8)}

theorem Drains.parts (drains : node.Drains frame initial stripes delivered)
    (shape : node.consumer = .striped workers) :
    ∃ pending handled, workers.Serves stripes (List.map Message.body ∘ pending) ∧
      node.core.Past frame initial handled ∧
        ∀ stripe, handled.filter (stripeAmong stripes ·.hash = stripe) ++ pending stripe =
          delivered.filter (stripeAmong stripes ·.hash = stripe) := by
  obtain ⟨workers', pending, handled, shape', parts⟩ := drains
  rw [shape] at shape'
  injection shape' with same
  rw [same]
  exact ⟨pending, handled, parts⟩

/-- A striped consumer takes a message in, unless its stripe is full. -/
theorem Drains.offer (drains : node.Drains frame initial stripes delivered)
    (shape : node.consumer = .striped workers) (message : Message) :
    workers.offer message.hash message.body = .full ∨
      ∃ after, workers.offer message.hash message.body = .accepted after ∧
        ({ node with consumer := .striped after } : Node).Drains frame initial stripes
          (delivered ++ [message]) := by
  obtain ⟨pending, handled, serves, past, order⟩ := drains.parts shape
  rcases serves.offer message.hash message.body with full | ⟨after, accepted, serves⟩
  · exact Or.inl full
  · let stripe := stripeAmong stripes message.hash
    refine Or.inr ⟨after, accepted, after,
      Function.update pending stripe (pending stripe ++ [message]), handled, rfl, ?_, past, ?_⟩
    · rw [Function.comp_update, List.map_append]
      exact serves
    · intro other
      rw [List.filter_append, ← order other]
      by_cases here : other = stripe
      · subst here
        simp [stripe]
      · simp [here, stripe, Ne.symm here]

/-- What is only reported of a node changes nothing. -/
theorem Drains.markIf (drains : node.Drains frame initial stripes delivered) (applies : Bool)
    (mark : Mark) : (Cluster.markIf node applies mark).Drains frame initial stripes delivered := by
  obtain ⟨workers, pending, handled, shape, serves, past, order⟩ := drains
  cases applies with
  | false => exact ⟨workers, pending, handled, shape, serves, past, order⟩
  | true => exact ⟨workers, pending, handled, shape, serves, ⟨past.frame_eq, past.view_eq⟩, order⟩

/-- A worker that takes a message up changes nothing. -/
theorem Drains.take (drains : node.Drains frame initial stripes delivered)
    (shape : node.consumer = .striped workers) {stripe : Nat}
    (taken : workers.take? id stripe = some after) :
    ({ node with consumer := .striped after } : Node).Drains frame initial stripes delivered := by
  obtain ⟨pending, handled, serves, past, order⟩ := drains.parts shape
  exact ⟨after, pending, handled, rfl, serves.take taken, past, order⟩

theorem Drains.handle (drains : node.Drains frame initial stripes delivered)
    (shape : node.consumer = .striped workers) (started : frame.lifecycle = .started)
    (crashless : frame.Crashless) {stripe : Nat} {body : List UInt8}
    (busy : workers.work? stripe = some body) {clock : Clock}
    (left : node.core.purgesOn body clock = false) :
    (node.core.receive body clock).crashed = false ∧
      ({ node with
          core := (node.core.receive body clock).core
          consumer := .striped (workers.settle stripe .goOn) } : Node).Drains frame initial stripes
            delivered := by
  obtain ⟨pending, handled, serves, past, order⟩ := drains.parts shape
  obtain ⟨bodies, queued, serves⟩ := serves.settle busy
  obtain ⟨message, rest, pending_eq, rfl, rfl⟩ := List.map_eq_cons_iff.1 queued
  obtain ⟨crashed_eq, past⟩ := past.receive started crashless message left
  refine ⟨crashed_eq, _, Function.update pending stripe rest, handled ++ [message], rfl, ?_, past,
    ?_⟩
  · rw [Function.comp_update]
    exact serves
  · have member : message ∈ delivered.filter (stripeAmong stripes ·.hash = stripe) := by
      rw [← order stripe, pending_eq]
      simp
    have routed : stripeAmong stripes message.hash = stripe := by
      simpa using (List.mem_filter.1 member).2
    intro other
    rw [List.filter_append, ← order other]
    by_cases here : other = stripe
    · subst here
      simp [routed, pending_eq]
    · simp [here, routed, Ne.symm here]

/-- When nothing is left to do, all messages are handled, those of each stripe in order. -/
theorem Drains.view_eq (drains : node.Drains frame initial stripes delivered)
    (quiet : node.consumer.Quiet) (consistent : frame.config.Consistent)
    (addressed : ∀ message ∈ delivered, frame.Addresses message) :
    node.core.view = frame.receiveAll delivered initial := by
  obtain ⟨workers, pending, handled, shape, serves, past, order⟩ := drains
  rw [shape] at quiet
  rw [past.view_eq]
  refine Frame.receiveAll_eq consistent stripes addressed (fun stripe => ?_) initial
  rw [← order stripe]
  cases known : delivered.filter (stripeAmong stripes ·.hash = stripe) with
  | nil =>
      have none := order stripe
      rw [known] at none
      rw [(List.append_eq_nil_iff.1 none).2, List.append_nil]
  | cons message rest =>
      have member : message ∈ delivered.filter (stripeAmong stripes ·.hash = stripe) := by
        rw [known]
        exact List.mem_cons_self
      have routed : stripeAmong stripes message.hash = stripe := by
        simpa using (List.mem_filter.1 member).2
      have empty := serves.of_quiet quiet message.hash
      rw [routed] at empty
      rw [List.map_eq_nil_iff.1 empty, List.append_nil]

end Node

namespace Cluster

variable {cluster after : Cluster} {index : Nat} {node : Node} {frame : Frame} {initial : View}
  {stripes : Nat} {delivered : List Message} {feeding : Feeding}

theorem purgesOn_of_spares (found : cluster.node? index = some node) (body : List UInt8)
    (handled : feeding.handled? node = some body) (spared : cluster.spares index feeding = true) :
    node.core.purgesOn body cluster.clock = false := by
  simpa [spares, found, handled] using spared

/-- A consumer on the calling thread handles each message as it comes. -/
theorem fed_handles (found : cluster.node? index = some node)
    (handles : node.Handles frame initial delivered) (started : frame.lifecycle = .started)
    (crashless : frame.Crashless) (spared : cluster.spares index feeding = true)
    (fed : cluster.fed? index feeding = some after) :
    ∃ changed, after.node? index = some changed ∧
      changed.Handles frame initial (delivered ++ feeding.messages) := by
  cases feeding with
  | work stripe => simp [fed?, consumerStep?, found, handles.direct, Crew.workers?] at fed
  | hand message waited =>
      have left := purgesOn_of_spares found message.body
        (by simp [Feeding.handled?, handles.direct]) spared
      obtain ⟨crashed_eq, past⟩ := handles.past.receive started crashless message left
      simp only [fed?, deliver_direct found handles.direct message waited crashed_eq,
        Option.some.injEq] at fed
      rw [← fed, node?_setNode found, if_pos rfl]
      exact ⟨_, rfl, handles.direct, past⟩

/-- The messages of each stripe of a striped consumer stay in order. -/
theorem fed_drains (found : cluster.node? index = some node)
    (drains : node.Drains frame initial stripes delivered) (started : frame.lifecycle = .started)
    (crashless : frame.Crashless) (spared : cluster.spares index feeding = true)
    (fed : cluster.fed? index feeding = some after) :
    ∃ changed, after.node? index = some changed ∧
      changed.Drains frame initial stripes (delivered ++ feeding.messages) := by
  obtain ⟨workers, _, _, shape, _⟩ := id drains
  cases feeding with
  | hand message waited =>
      rcases drains.offer shape message with full | ⟨taken, accepted, drains⟩
      · simp [fed?, deliver_full found shape message full] at fed
      · simp only [fed?, deliver_accepted found shape message accepted, Option.some.injEq] at fed
        rw [← fed, node?_setNode found, if_pos rfl]
        exact ⟨_, rfl, drains.markIf waited _⟩
  | work stripe =>
      rw [Feeding.messages, List.append_nil]
      simp only [fed?, consumerStep?, found, shape, Crew.workers?] at fed
      cases busy : workers.work? stripe with
      | some body =>
          simp only [busy, Option.some.injEq] at fed
          have left := purgesOn_of_spares found body
            (by simp [Feeding.handled?, shape, busy]) spared
          obtain ⟨crashed_eq, handled⟩ := drains.handle shape started crashless busy left
          rw [← fed, node?_consumerWork found shape crashed_eq, if_pos rfl]
          exact ⟨_, rfl, handled⟩
      | none =>
          simp only [busy, Option.map_eq_some_iff] at fed
          obtain ⟨taken, takes, rfl⟩ := fed
          rw [node?_modifyConsumer found shape, if_pos rfl]
          exact ⟨_, rfl, drains.take shape takes⟩

/-! ## Runs -/

variable {start : Cluster} {messages : List Message}

theorem Feed.handles (feed : Feed index start messages after)
    (found : start.node? index = some node) (handles : node.Handles frame initial [])
    (started : frame.lifecycle = .started) (crashless : frame.Crashless) :
    ∃ changed, after.node? index = some changed ∧ changed.Handles frame initial messages := by
  induction feed with
  | refl => exact ⟨node, found, handles⟩
  | step _ spared fed inductionHypothesis =>
      obtain ⟨middle, foundMiddle, handles⟩ := inductionHypothesis
      exact fed_handles foundMiddle handles started crashless spared fed
  | wait _ _ inductionHypothesis => exact inductionHypothesis

theorem Feed.drains (feed : Feed index start messages after)
    (found : start.node? index = some node) (drains : node.Drains frame initial stripes [])
    (started : frame.lifecycle = .started) (crashless : frame.Crashless) :
    ∃ changed, after.node? index = some changed ∧
      changed.Drains frame initial stripes messages := by
  induction feed with
  | refl => exact ⟨node, found, drains⟩
  | step _ spared fed inductionHypothesis =>
      obtain ⟨middle, foundMiddle, drains⟩ := inductionHypothesis
      exact fed_drains foundMiddle drains started crashless spared fed
  | wait _ _ inductionHypothesis => exact inductionHypothesis

/-- Two nodes with the same started core, one with a striped consumer, the other with one on the
calling thread. -/
structure Rivals (node other : Node) : Prop where
  core_eq : other.core = node.core
  started : node.core.isStarted = true
  validated : node.core.config.Validated
  crashless : node.core.frame.Crashless
  striped : ∃ stripes capacity, Crew.make .consumer (.striped stripes capacity) = .ok node.consumer
  direct : other.consumer = .direct

/-- Fed with the same messages, a striped consumer that has nothing left to do and a consumer on
the calling thread leave the same contents and the same recorded times. -/
theorem view_eq_of_feeds {start other : Cluster} {final : Cluster} {first second : Node}
    (rivals : Rivals first second) (found : start.node? index = some first)
    (foundOther : other.node? index = some second)
    (addressed : ∀ message ∈ messages, first.core.frame.Addresses message)
    (feed : Feed index start messages after) (feedOther : Feed index other messages final)
    (quiet : ∀ node, after.node? index = some node → node.consumer.Quiet) :
    ∃ changed changedOther, after.node? index = some changed ∧
      final.node? index = some changedOther ∧ changed.core.view = changedOther.core.view := by
  obtain ⟨stripes, capacity, made⟩ := rivals.striped
  have running : first.core.lifecycle = .started := by
    simpa [Core.isStarted] using rivals.started
  have started : first.core.frame.lifecycle = .started := running
  obtain ⟨changed, there, drains⟩ := feed.drains found (Node.Drains.of_make made) started
    rivals.crashless
  have past : second.core.Past first.core.frame first.core.view [] := by
    rw [rivals.core_eq]
    exact ⟨rfl, rfl⟩
  obtain ⟨changedOther, thereOther, handles⟩ := feedOther.handles foundOther
    ⟨rivals.direct, past⟩ started rivals.crashless
  refine ⟨changed, changedOther, there, thereOther, ?_⟩
  have consistent : first.core.frame.config.Consistent := rivals.validated.consistent
  rw [drains.view_eq (quiet changed there) consistent addressed, handles.past.view_eq]

/-- A consumer of four stripes, each with room for eight messages. -/
def stripedSample : Crew (List UInt8) (List UInt8) :=
  .striped (.ofRing ⟨.consumer, Array.replicate 4 (.ofCapacity 8)⟩)

/-- A node that compares times. -/
def fedNode (consumer : Crew (List UInt8) (List UInt8)) : Node :=
  { Node.sample "first" with core := .sample true, consumer := consumer }

/-- The node alone. -/
def fedSample (consumer : Crew (List UInt8) (List UInt8)) : Cluster :=
  ofNodes [fedNode consumer] ⟨0, 0⟩

theorem rivals_sample : Rivals (fedNode stripedSample) (fedNode .direct) :=
  ⟨rfl, rfl, BusConfig.sample_validated true, fun _ => Guard.crashless_none, ⟨4, 8, rfl⟩, rfl⟩

/-- Two messages are handled in the order they came in, and in the other one. -/
theorem view_eq_of_feeds_pair : ∃ messages after final changed changedOther,
    Feed 0 (fedSample stripedSample) messages after ∧ Feed 0 (fedSample .direct) messages final ∧
      after.node? 0 = some changed ∧ final.node? 0 = some changedOther ∧
        changed.core.view = changedOther.core.view := by
  let ada : Event := .added "users" "ada" (.text "countess") 1000
  let bob : Event := .added "users" "bob" (.text "builder") 2000
  let messageOf := fun event : Event => (⟨event.hash, Wire.encode event true⟩ : Message)
  obtain ⟨after, fed⟩ := Option.isSome_iff_exists.1 (show
    (((fedSample stripedSample).feedAll? 0 [.hand (messageOf ada) false,
      .hand (messageOf bob) false, .work 3, .work 3, .work 0, .work 0]).filter fun after =>
        after.nodes.all fun node => node.consumer.Quiet).isSome = true
    by decide +kernel)
  obtain ⟨fed, quiet⟩ := Option.filter_eq_some_iff.1 fed
  obtain ⟨final, fedOther⟩ := Option.isSome_iff_exists.1 (show
    ((fedSample .direct).feedAll? 0 [.hand (messageOf ada) false,
      .hand (messageOf bob) false]).isSome = true
    by decide +kernel)
  have feed := Feed.follow _ .refl fed
  have feedOther := Feed.follow _ .refl fedOther
  have addresses : ∀ event : Event, event.time.InCalendar → event.isPortable = true →
      event.key ≠ .all → (fedNode stripedSample).core.frame.Addresses (messageOf event) := by
    intro event dated portable keyed read decoded
    rw [Wire.decode_encode dated fun _ => portable] at decoded
    injection decoded with arrived
    rw [← arrived]
    exact ⟨rfl, fun _ _ _ => keyed⟩
  have addressed : ∀ message ∈ [messageOf ada, messageOf bob],
      (fedNode stripedSample).core.frame.Addresses message := by
    simp only [List.forall_mem_cons]
    exact ⟨addresses ada (by decide) (by decide) (by decide),
      addresses bob (by decide) (by decide) (by decide), by simp⟩
  obtain ⟨changed, changedOther, there, thereOther, same⟩ :=
    view_eq_of_feeds rivals_sample rfl rfl addressed feed feedOther (by
      intro node found
      simpa using List.all_eq_true.1 quiet node (List.mem_of_getElem? found))
  exact ⟨_, after, final, changed, changedOther, feed, feedOther, there, thereOther, same⟩

end Cluster

end CacheSync
