import CacheSync.Proofs.Node.Working
import CacheSync.Proofs.Ring.Load

/-!
# The life of a node

A start takes a node that was just created to work, or it fails and leaves everything but the
channel as it was.  A stop takes it out of work; when its workers have ended, its channel leaves
the hub and its timestamp records are gone.  Everything else keeps the stage of the node's life:
`Node.Keeps` says what such a step has in common with one that does nothing.
-/

namespace CacheSync

namespace Node

variable {node before after later : Node} {member : Member} {hub : Hub Member Member}

/-- What a step leaves of a node at one stage of its life. -/
structure Keeps (before after : Node) : Prop where
  lifecycle_eq : after.core.lifecycle = before.core.lifecycle
  config_eq : after.core.config = before.core.config
  pipeline_eq : after.pipeline = before.pipeline
  cachesHealth_eq : after.cachesHealth = before.cachesHealth
  closed_eq : after.channel.closed = before.channel.closed
  faults_eq : after.channel.faults = before.channel.faults
  crashes_le : ∀ side, before.crashes side ≤ after.crashes side
  unrecorded : before.core.isStarted = false → before.core.timestamps.tables = .empty →
    after.core.timestamps.tables = .empty
  unrecoverable_le : ∀ side,
    before.ledger.unrecoverable.get side ≤ after.ledger.unrecoverable.get side
  balanced : ∀ side,
    after.ledger.unrecoverable.get side + before.core.meter.count (.recoveryFailed side) =
      before.ledger.unrecoverable.get side + after.core.meter.count (.recoveryFailed side)

theorem Works.keeps {made : List Mark} (works : before.Works made after) : before.Keeps after where
  lifecycle_eq := congrArg Frame.lifecycle works.frame_eq
  config_eq := congrArg Frame.config works.frame_eq
  pipeline_eq := works.pipeline_eq
  cachesHealth_eq := works.cachesHealth_eq
  closed_eq := works.closed_eq
  faults_eq := works.faults_eq
  crashes_le := works.crashes_le
  unrecorded := works.unrecorded
  unrecoverable_le := works.unrecoverable_le
  balanced := works.balanced

namespace Keeps

theorem refl (node : Node) : node.Keeps node :=
  (Works.refl node).keeps

theorem trans (first : before.Keeps after) (second : after.Keeps later) : before.Keeps later where
  lifecycle_eq := second.lifecycle_eq.trans first.lifecycle_eq
  config_eq := second.config_eq.trans first.config_eq
  pipeline_eq := second.pipeline_eq.trans first.pipeline_eq
  cachesHealth_eq := second.cachesHealth_eq.trans first.cachesHealth_eq
  closed_eq := second.closed_eq.trans first.closed_eq
  faults_eq := second.faults_eq.trans first.faults_eq
  crashes_le side := Nat.le_trans (first.crashes_le side) (second.crashes_le side)
  unrecorded idle none := by
    have still : after.core.isStarted = false := by
      rw [Core.isStarted, first.lifecycle_eq]
      exact idle
    exact second.unrecorded still (first.unrecorded idle none)
  unrecoverable_le side :=
    Nat.le_trans (first.unrecoverable_le side) (second.unrecoverable_le side)
  balanced side := by
    have early := first.balanced side
    have late := second.balanced side
    omega

theorem of_channel (node : Node) (channel : Channel)
    (closed_eq : channel.closed = node.channel.closed)
    (faults_eq : channel.faults = node.channel.faults) :
    node.Keeps { node with channel := channel } :=
  (Works.of_channel closed_eq faults_eq).keeps

/-- The caches, the listeners and who holds the node do not matter. -/
theorem of_shelf (node : Node) (shelf : CacheShelf) (linked : Bool)
    (registrations : List Registration) :
    node.Keeps { node with
      core := { node.core with shelf := shelf, linked := linked }
      registrations := registrations } :=
  { refl node with
    crashes_le := fun side => by cases side <;> exact Nat.le_refl _ }

end Keeps

/-! ## Turns -/

theorem registerOn_keeps (node : Node) (cache : String) : node.Keeps (node.registerOn cache) := by
  unfold registerOn
  split
  · exact .refl node
  · split
    · exact .refl node
    · exact .of_shelf node _ node.core.linked _

theorem foldl_registerOn_keeps (caches : List String) :
    ∀ node : Node, node.Keeps (caches.foldl registerOn node) := by
  induction caches with
  | nil => exact .refl
  | cons cache rest inductionHypothesis =>
      intro node
      exact (node.registerOn_keeps cache).trans (inductionHypothesis _)

theorem register_keeps (node : Node) : node.Keeps node.register.1 := by
  unfold register
  split
  · exact .refl node
  · exact foldl_registerOn_keeps _ node

theorem attach_keeps (node : Node) (cache : String) :
    node.Keeps (((node.attach cache).map (·.1)).getD node) := by
  unfold attach
  cases node.core.shelf.store? cache with
  | none => exact .refl node
  | some store => exact .of_shelf node _ node.core.linked _

/-! ## Closing the channel -/

/-- Closing the channel changes nothing else, and leaves the hub unless it fails. -/
theorem closeChannel_spec (node : Node) (member : Member) (hub : Hub Member Member) :
    ∃ channel left crashed,
      node.closeChannel member hub = ({ node with channel := channel }, left, crashed) ∧
      channel.faults = node.channel.faults ∧
      (node.channel.closed = true → channel.closed = true) ∧
      (left = hub.leave member ∨ left = hub ∧ node.channel.faults.get? .close ≠ none) ∧
      (crashed = true → left = hub ∧ node.channel.faults.get? .close = some .crash) := by
  unfold closeChannel
  dsimp only
  cases fault : node.channel.faults.get? .close with
  | none =>
      exact ⟨(node.channel.log .close).close, _, _, rfl, rfl, fun _ => rfl, Or.inl rfl, nofun⟩
  | some fault =>
      refine ⟨node.channel.log .close, _, _, rfl, rfl, id, Or.inr ⟨rfl, by simp⟩, fun crash => ?_⟩
      rw [of_decide_eq_true crash]
      exact ⟨rfl, rfl⟩

/-! ## Starting -/

/-- A start has made these crews, or it has failed or crashed. -/
inductive Outset (node : Node) (member : Member) (hub : Hub Member Member) :
    Node × Hub Member Member × BusOutcome → Prop where
  | failed {channel : Channel} {after : Hub Member Member} {outcome : BusOutcome}
      (undone : outcome ≠ .done)
      (faults_eq : channel.faults = node.channel.faults)
      (closed : node.channel.closed = true → channel.closed = true)
      (same : node.core.lifecycle ≠ .created → channel = node.channel)
      (hub_eq : after = hub ∨ node.core.lifecycle = .created ∧ after = hub.leave member) :
      Outset node member hub ({ node with channel := channel }, after, outcome)
  | joined {channel : Channel} {producer : Crew Job Sending}
      {consumer : Crew (List UInt8) (List UInt8)} (created : node.core.lifecycle = .created)
      (opened : node.channel.closed = false) (still : channel.closed = false)
      (faults_eq : channel.faults = node.channel.faults)
      (producer_eq : Crew.make .producer node.core.config.producer = .ok producer)
      (consumer_eq : Crew.make .consumer node.core.config.consumer = .ok consumer) :
      Outset node member hub
        ({ node with
            core := { node.core with lifecycle := .started }
            channel := channel
            pipeline := .running
            producer := producer
            consumer := consumer },
          hub.subscribe member member, .done)

theorem of_activate (active : node.activate = .ok after) :
    node.channel.closed = false ∧ ∃ channel, after = { node with channel := channel } ∧
      channel.closed = false ∧ channel.faults = node.channel.faults := by
  unfold activate Channel.activate at active
  split at active
  · cases active
  · split at active
    · cases active
    next opened =>
      injection active with same
      rw [Bool.not_eq_true] at opened
      exact ⟨opened, _, same.symm, opened, rfl⟩

theorem of_subscribe {joined : Hub Member Member}
    (subscribed : node.subscribe member hub = .ok joined) :
    joined = hub.subscribe member member := by
  unfold subscribe Channel.open? at subscribed
  split at subscribed
  · cases subscribed
  · split at subscribed
    · cases subscribed
    · injection subscribed with same
      exact same.symm

theorem of_withCrews (crewed : node.withCrews = .ok after) :
    ∃ producer consumer, Crew.make .producer node.core.config.producer = .ok producer ∧
      Crew.make .consumer node.core.config.consumer = .ok consumer ∧
        after = { node with producer := producer, consumer := consumer } := by
  unfold withCrews at crewed
  cases producer_eq : (Crew.make .producer node.core.config.producer :
      Except ConfigError (Crew Job Sending)) with
  | error error =>
      rw [producer_eq] at crewed
      cases crewed
  | ok producer =>
      cases consumer_eq : (Crew.make .consumer node.core.config.consumer :
          Except ConfigError (Crew (List UInt8) (List UInt8))) with
      | error error =>
          rw [producer_eq, consumer_eq] at crewed
          cases crewed
      | ok consumer =>
          rw [producer_eq, consumer_eq] at crewed
          injection crewed with same
          exact ⟨producer, consumer, rfl, rfl, same.symm⟩

theorem giveUp_outset (created : node.core.lifecycle = .created)
    (opened : node.channel.closed = false) {channel : Channel}
    (faults_eq : channel.faults = node.channel.faults) (error : BusError) :
    node.Outset member hub
      (({ node with channel := channel } : Node).giveUp member hub error) := by
  obtain ⟨closed, after, crashed, closed_eq, faults, _, left, _⟩ :=
    closeChannel_spec { node with channel := channel } member hub
  unfold giveUp
  rw [closed_eq]
  refine .failed (by cases crashed <;> nofun) (faults.trans faults_eq) (by simp [opened])
    (absurd created) ?_
  rcases left with left | ⟨stayed, _⟩
  · exact Or.inr ⟨created, left⟩
  · exact Or.inl stayed

theorem join_outset (created : node.core.lifecycle = .created)
    (opened : node.channel.closed = false) : node.Outset member hub (node.join member hub) := by
  unfold join
  cases crewed : node.withCrews with
  | error error => exact giveUp_outset created opened rfl _
  | ok made =>
      obtain ⟨producer, consumer, producer_eq, consumer_eq, rfl⟩ := of_withCrews crewed
      dsimp only
      cases subscribed : node.subscribe member hub with
      | error fault =>
          have faults_eq : (node.channel.log .subscribe).faults = node.channel.faults := rfl
          cases fault with
          | crash => exact .failed nofun faults_eq id (absurd created) (Or.inl rfl)
          | error error => exact giveUp_outset created opened faults_eq _
      | ok joined =>
          rw [of_subscribe subscribed]
          exact .joined created opened opened rfl producer_eq consumer_eq

/-- An outset from an open channel may have begun with another open channel. -/
theorem Outset.of_channel {channel : Channel}
    {result : Node × Hub Member Member × BusOutcome}
    (outset : ({ node with channel := channel } : Node).Outset member hub result)
    (created : node.core.lifecycle = .created) (opened : node.channel.closed = false)
    (faults_eq : channel.faults = node.channel.faults) : node.Outset member hub result := by
  cases outset with
  | failed undone faults _ _ left =>
      exact .failed undone (faults.trans faults_eq) (by simp [opened]) (absurd created) left
  | joined _ _ still faults producer_eq consumer_eq =>
      exact .joined created opened still (faults.trans faults_eq) producer_eq consumer_eq

theorem start_outset (node : Node) (member : Member) (hub : Hub Member Member) :
    node.Outset member hub (node.start member hub) := by
  unfold start
  cases stage : node.core.lifecycle with
  | started => exact .failed nofun rfl id (fun _ => rfl) (Or.inl rfl)
  | stopped => exact .failed nofun rfl id (fun _ => rfl) (Or.inl rfl)
  | created =>
      dsimp only
      cases active : node.activate with
      | error fault =>
          exact .failed (by cases fault <;> nofun) rfl id (absurd stage) (Or.inl rfl)
      | ok activated =>
          obtain ⟨opened, channel, rfl, still, faults_eq⟩ := of_activate active
          have joined :
              ({ node with channel := channel.log .activate } : Node).Outset member hub _ :=
            join_outset stage still
          exact joined.of_channel stage opened faults_eq

/-! ## Stopping -/

/-- A stop has come to its end: the listeners of the node are off its caches and its records are
gone.  If its channel has crashed they are still there. -/
inductive Retires (node : Node) (member : Member) (hub : Hub Member Member) :
    Node × Hub Member Member × Bool → Prop where
  | finished {channel : Channel} {left : Hub Member Member}
      (faults_eq : channel.faults = node.channel.faults)
      (closed : node.channel.closed = true → channel.closed = true)
      (hub_eq : left = hub.leave member ∨ left = hub ∧ node.channel.faults.get? .close ≠ none) :
      Retires node member hub (({ node with channel := channel } : Node).forget, left, false)
  | crashed {channel : Channel} (faults_eq : channel.faults = node.channel.faults)
      (closed : node.channel.closed = true → channel.closed = true)
      (crash : node.channel.faults.get? .close = some .crash) :
      Retires node member hub ({ node with channel := channel }, hub, true)

theorem finishStop_retires (node : Node) (member : Member) (hub : Hub Member Member) :
    node.Retires member hub (node.finishStop member hub) := by
  obtain ⟨channel, left, crashed, closed_eq, faults_eq, closed, hub_eq, crash⟩ :=
    closeChannel_spec node member hub
  unfold finishStop
  rw [closed_eq]
  cases crashed with
  | false => exact .finished faults_eq closed hub_eq
  | true =>
      obtain ⟨rfl, fault⟩ := crash rfl
      exact .crashed faults_eq closed fault

end Node
end CacheSync
