import CacheSync.Proofs.Cluster.Working

/-!
# Attempts to send

A step of a sending hands its message to a subscriber, or counts it as sent, or does neither.  A
step that does neither is `Confined` to its own node, which receives nothing by it.  What an attempt
to give the message to the channel comes to is read off the channel that the attempt meets.
-/

namespace CacheSync

/-! ## What a node counts of its sendings -/

/-- Whether a mark says that an event was sent, or how long that took. -/
def Mark.isOfSent : Mark → Bool
  | .sent _ => true
  | .produced => true
  | _ => false

/-- How many messages a node has sent: by its channel, by the durations recorded, and by the cache
of the event. -/
@[ext]
structure Tally where
  messages : Nat
  durations : Nat
  events : String → Nat

/-- One more event of a cache. -/
def Tally.raise (tally : Tally) (cache : String) : Tally where
  messages := tally.messages + 1
  durations := tally.durations + 1
  events other := tally.events other + if other = cache then 1 else 0

namespace Node

variable {node changed before after later : Node}

def tallied (node : Node) : Tally where
  messages := node.channel.sent
  durations := node.core.meter.count .produced
  events cache := node.core.meter.count (.sent cache)

theorem tallied_eq (sent_eq : after.channel.sent = before.channel.sent)
    (count_eq : ∀ mark, mark.isOfSent = true →
      after.core.meter.count mark = before.core.meter.count mark) :
    after.tallied = before.tallied :=
  Tally.ext sent_eq (count_eq .produced rfl) (funext fun cache => count_eq (.sent cache) rfl)

/-- What a step leaves of a node that receives nothing. -/
structure Deaf (before after : Node) : Prop where
  shelf_eq : after.core.shelf = before.core.shelf
  timestamps_eq : after.core.timestamps = before.core.timestamps
  consumer_eq : after.consumer = before.consumer

/-- What a step leaves of a node that receives nothing and counts nothing as sent. -/
structure Unmoved (before after : Node) : Prop extends before.Deaf after where
  tallied_eq : after.tallied = before.tallied

/-- What a step leaves of a node that receives nothing and counts one event as sent. -/
structure Counts (cache : String) (before after : Node) : Prop extends before.Deaf after where
  tallied_eq : after.tallied = before.tallied.raise cache

namespace Unmoved

theorem refl (node : Node) : node.Unmoved node :=
  ⟨⟨rfl, rfl, rfl⟩, rfl⟩

theorem trans (first : before.Unmoved after) (second : after.Unmoved later) :
    before.Unmoved later where
  tallied_eq := second.tallied_eq.trans first.tallied_eq
  shelf_eq := second.shelf_eq.trans first.shelf_eq
  timestamps_eq := second.timestamps_eq.trans first.timestamps_eq
  consumer_eq := second.consumer_eq.trans first.consumer_eq

theorem of_channel (node : Node) {channel : Channel} (sent_eq : channel.sent = node.channel.sent) :
    node.Unmoved { node with channel := channel } :=
  ⟨⟨rfl, rfl, rfl⟩, Node.tallied_eq sent_eq fun _ _ => rfl⟩

theorem markAll (node : Node) {marks : List Mark}
    (apart : ∀ mark ∈ marks, mark.isOfSent = false) : node.Unmoved (node.markAll marks) where
  tallied_eq := by
    refine Node.tallied_eq rfl fun mark sent => ?_
    have absent : mark ∉ marks := by
      intro member
      rw [apart mark member] at sent
      cases sent
    simp [Node.markAll, Core.markAll, List.count_eq_zero.2 absent]
  shelf_eq := rfl
  timestamps_eq := rfl
  consumer_eq := rfl

theorem of_recoveries (node : Node) (recoveries : Recoveries) :
    node.Unmoved { node with recoveries := recoveries } :=
  ⟨⟨rfl, rfl, rfl⟩, rfl⟩

end Unmoved

theorem Counts.of_unmoved
    (unmoved : { node with channel := node.channel.countSent }.Unmoved changed) (job : Job) :
    node.Counts job.config.name (changed.markAll (Sending.sentMarks job)) where
  shelf_eq := unmoved.shelf_eq
  timestamps_eq := unmoved.timestamps_eq
  consumer_eq := unmoved.consumer_eq
  tallied_eq := by
    have tallied_eq := unmoved.tallied_eq
    have messages := congrArg Tally.messages tallied_eq
    have durations := congrArg Tally.durations tallied_eq
    have events (cache : String) := congrArg (Tally.events · cache) tallied_eq
    simp only [tallied, Channel.countSent] at messages durations events
    refine Tally.ext messages ?_ (funext fun cache => ?_)
    · simp [tallied, Tally.raise, markAll, Core.markAll, Sending.sentMarks, durations]
    · simp only [tallied, Tally.raise, markAll, Core.markAll, Sending.sentMarks,
        Meter.count_markAll, events]
      by_cases same : cache = job.config.name
      · simp [same]
      · simp [same, Ne.symm same]

end Node

/-! ## Receiving -/

namespace Core

variable {mark : Mark}

theorem count_record_of_sent (sent : mark.isOfSent = true) (core : Core) (config : CacheConfig)
    (event : Event) (clock : Clock) :
    (core.record config event clock).1.meter.count mark = core.meter.count mark := by
  unfold record
  split
  · rfl
  · dsimp only
    unfold TimestampStore.reportSave
    split
    · have different : Mark.timestampsCleaned event.cache ≠ mark := by
        rintro rfl
        cases sent
      simp only [TimestampStore.reportCleanup, Meter.count_read, Meter.count_mark, different,
        ↓reduceIte, Nat.add_zero]
    · rfl

theorem count_mark_of_sent (sent : mark.isOfSent = true) (core : Core) {made : Mark}
    (other : made.isOfSent = false) :
    (core.mark made).meter.count mark = core.meter.count mark := by
  have different : made ≠ mark := by
    rintro rfl
    rw [other] at sent
    cases sent
  simp only [Core.mark, Meter.count_mark, different, ↓reduceIte, Nat.add_zero]

/-- A node that receives a message counts nothing as sent. -/
theorem count_receive_of_sent (sent : mark.isOfSent = true) (core : Core) (body : List UInt8)
    (clock : Clock) : (core.receive body clock).core.meter.count mark = core.meter.count mark := by
  have fate := core.receive_fate body clock
  have received : (core.mark .received).meter.count mark = core.meter.count mark :=
    count_mark_of_sent sent core rfl
  generalize core.receive body clock = handled at fate
  cases fate with
  | ignored stopped => rfl
  | undecodable started read => exact (count_mark_of_sent sent _ rfl).trans received
  | unconfigured started read unknown => exact received
  | @stale event config recorded started read configured saved =>
      have counted := count_record_of_sent sent (core.mark .received) config event clock
      rw [saved] at counted
      exact ((count_mark_of_sent sent _ rfl).trans counted).trans received
  | @applied event config recorded started read configured saved =>
      have counted := count_record_of_sent sent (core.mark .received) config event clock
      rw [saved] at counted
      have apart : mark.isOfApplying = false := by
        cases mark <;> first | rfl | cases sent
      exact (((recorded.spread_spares config event clock).count_eq mark apart).trans
        counted).trans received

end Core

namespace Node

variable {before after : Node} {message : Message} {clock : Clock}

/-- What a node becomes that is handed a message. -/
inductive Receives (message : Message) (clock : Clock) (before after : Node) : Prop where
  /-- It handles the message on the thread of the sender. -/
  | handles : before.consumer = .direct →
      after = { before with core := (before.core.receive message.body clock).core } →
      Receives message clock before after
  /-- It keeps the message for the worker of its stripe, and tells if there was no room at first. -/
  | keeps {workers more : Workers (List UInt8) (List UInt8)} {meter : Meter} :
      before.consumer = .striped workers → workers.Gains message.hash message.body more →
      meter = before.core.meter ∨ meter = before.core.meter.mark (.ringFull .consumer) →
      after = { before with
        consumer := .striped more, core := { before.core with meter := meter } } →
      Receives message clock before after
  /-- The stripe is closed, and the message counts as dropped. -/
  | drops {workers : Workers (List UInt8) (List UInt8)} : before.consumer = .striped workers →
      (∀ one, workers.ring.rings[workers.ring.stripeFor message.hash]? = some one →
        one.closed = true) →
      after = before.mark (.dropped .consumer) → Receives message clock before after

theorem Receives.tallied_eq (receives : before.Receives message clock after) :
    after.tallied = before.tallied := by
  cases receives with
  | handles direct same =>
      exact same ▸ Node.tallied_eq rfl fun _ sent =>
        Core.count_receive_of_sent sent before.core message.body clock
  | keeps striped gains meter same =>
      refine same ▸ Node.tallied_eq rfl fun _ sent => ?_
      rcases meter with rfl | rfl
      · rfl
      · exact Core.count_mark_of_sent sent before.core rfl
  | drops striped closed same =>
      exact same ▸ Node.tallied_eq rfl fun _ sent => Core.count_mark_of_sent sent before.core rfl

end Node

/-! ## Recovering -/

namespace Recoveries

variable (recoveries : Recoveries) (call : RecoveryCall) (course : RecoveryCourse) (clock : Clock)

theorem marks_conclude (failure : Option RecoveryError) :
    ∀ mark ∈ (recoveries.conclude call failure clock).marks, mark.isOfSent = false := by
  rcases failure with _ | _ | _ <;> simp [conclude, Mark.isOfSent]

theorem marks_decide :
    ∀ mark ∈ (recoveries.decide call course clock).marks, mark.isOfSent = false := by
  unfold decide
  split
  · exact recoveries.marks_conclude call clock _
  · simp [Mark.isOfSent]

theorem marks_wake :
    ∀ mark ∈ (recoveries.wake call course clock).marks, mark.isOfSent = false := by
  unfold wake
  split
  · exact recoveries.marks_conclude call clock _
  · simp

theorem marks_fail (error : String) (draw : Binary64.Ratio) :
    ∀ mark ∈ (recoveries.fail call course error draw clock).marks, mark.isOfSent = false := by
  unfold fail
  split
  · exact recoveries.marks_conclude call clock _
  · simp

end Recoveries

theorem Channel.nextFate_eq (channel : Channel) :
    ∃ script, channel.nextFate.1 = { channel with script := script } := by
  unfold nextFate
  split
  · exact ⟨channel.script, rfl⟩
  · split
    · exact ⟨channel.script, rfl⟩
    · exact ⟨_, rfl⟩

namespace Cluster

variable {cluster middle after : Cluster} {index : Nat} {node changed later : Node}

/-! ## Attempts and deliveries -/

/-- What the attempt comes to that a step of a sending ends, if it ends one: the channel takes the
message or fails.  An attempt that is held at the gate ends when the gate is open. -/
def attempt? (cluster : Cluster) (index : Nat) (sending : Sending) :
    Option (Except ChannelError Unit) :=
  (cluster.node? index).bind fun node =>
    match sending.stage with
    | .calling _ =>
        match node.channel.nextFate.2 with
        | .proceed => some node.channel.ready
        | .fail (.error error) => some (.error error)
        | .fail .crash => none
        | .hold => none
    | .held _ => if node.channel.gateOpen then some node.channel.ready else none
    | _ => none

/-- Whom a step of a sending hands its message to. -/
def handover (cluster : Cluster) (sending : Sending) : List (Member × Message) :=
  match sending.stage with
  | .spreading ⟨message, target :: _, waited⟩ =>
      match cluster.deliver target message waited with
      | .blocked => []
      | _ => [(target, message)]
  | _ => []

/-- The cluster after a step of a sending. -/
def SendStep.cluster? : SendStep → Option Cluster
  | .moved after _ => some after
  | .blocked => none
  | .done after _ => some after
  | .crashed after => some after

/-! ## Steps that concern one node -/

/-- What a step leaves that changes one node, in this way, and nothing beside it. -/
structure Confined (cluster : Cluster) (index : Nat) (alters : Node → Node → Prop)
    (after : Cluster) : Prop where
  hub_eq : after.hub = cluster.hub
  seen_eq : after.seen = cluster.seen
  others_eq : ∀ other, other ≠ index → after.node? other = cluster.node? other
  own : ∀ node, cluster.node? index = some node →
    ∃ changed, after.node? index = some changed ∧ alters node changed

namespace Confined

variable {alters weaker : Node → Node → Prop}

theorem mono (confined : cluster.Confined index alters after)
    (weakens : ∀ {before after}, alters before after → weaker before after) :
    cluster.Confined index weaker after where
  hub_eq := confined.hub_eq
  seen_eq := confined.seen_eq
  others_eq := confined.others_eq
  own node found := by
    obtain ⟨changed, here, altered⟩ := confined.own node found
    exact ⟨changed, here, weakens altered⟩

theorem refl (reflexive : ∀ node, alters node node) : cluster.Confined index alters cluster :=
  ⟨rfl, rfl, fun _ _ => rfl, fun node found => ⟨node, found, reflexive node⟩⟩

theorem setNode (found : cluster.node? index = some node) (altered : alters node changed) :
    cluster.Confined index alters (cluster.setNode index changed) where
  hub_eq := rfl
  seen_eq := rfl
  others_eq other different := by rw [node?_setNode found, if_neg different]
  own other held := by
    obtain rfl := Option.some.inj (held.symm.trans found)
    exact ⟨changed, by rw [node?_setNode found, if_pos rfl], altered⟩

theorem recoverWith (found : cluster.node? index = some node) (unmoved : node.Unmoved changed)
    {step : RecoveryStep} (apart : ∀ mark ∈ step.marks, mark.isOfSent = false) :
    cluster.Confined index Node.Unmoved (cluster.recoverWith index changed step) :=
  .setNode found ((unmoved.trans (.of_recoveries _ _)).trans (.markAll _ apart))

theorem setCaller (confined : cluster.Confined index alters after) (caller : Caller) :
    cluster.Confined index alters (after.setCaller caller) :=
  ⟨confined.hub_eq, confined.seen_eq, confined.others_eq, confined.own⟩

end Confined

section Stages

variable {sending : Sending} {message : Message}

/-- What a step of a sending comes to that is about to give its message to the channel. -/
inductive Attempt (cluster : Cluster) (index : Nat) (node : Node) (sending : Sending)
    (message : Message) : SendStep → Prop where
  | taken {channel : Channel} : channel.sent = node.channel.sent →
      cluster.attempt? index sending = some (.ok ()) →
      Attempt cluster index node sending message
        (.moved (cluster.setNode index { node with channel := channel })
          (sending.atStage (.spreading ⟨message, cluster.hub.targets (.node index), false⟩)))
  | failed {channel : Channel} {error : ChannelError} : channel.sent = node.channel.sent →
      cluster.attempt? index sending = some (.error error) →
      Attempt cluster index node sending message
        (cluster.sendFailed index { node with channel := channel } sending message error)
  | held {channel : Channel} : channel.sent = node.channel.sent →
      cluster.attempt? index sending = none →
      Attempt cluster index node sending message
        (.moved (cluster.setNode index { node with channel := channel })
          (sending.atStage (.held message)))
  | blocked : Attempt cluster index node sending message .blocked
  | crashed {channel : Channel} : channel.sent = node.channel.sent →
      cluster.attempt? index sending = none →
      Attempt cluster index node sending message
        (.crashed (cluster.setNode index { node with channel := channel }))

theorem transmit_attempt {channel : Channel} (sent_eq : channel.sent = node.channel.sent)
    (attempted : cluster.attempt? index sending = some channel.ready) (message : Message) :
    cluster.Attempt index node sending message
      (cluster.transmit index { node with channel := channel } sending message) := by
  unfold transmit
  cases ready : channel.ready with
  | error error => exact .failed sent_eq (ready ▸ attempted)
  | ok taken => exact .taken sent_eq (ready ▸ attempted)

theorem sendStep_attempt (found : cluster.node? index = some node)
    (stage : sending.stage = .calling message ∨ sending.stage = .held message) :
    cluster.Attempt index node sending message (cluster.sendStep index sending) := by
  unfold sendStep sendStepAt
  simp only [found]
  rcases stage with calling | held
  · have same : (node.channel.log .send).nextFate.2 = node.channel.nextFate.2 := by
      unfold Channel.nextFate Channel.log
      dsimp only
      split
      · rfl
      · split <;> rfl
    obtain ⟨script, channel_eq⟩ := (node.channel.log .send).nextFate_eq
    simp only [calling, callChannel, channel_eq, same]
    have attempted : cluster.attempt? index sending =
        match node.channel.nextFate.2 with
        | .proceed => some node.channel.ready
        | .fail (.error error) => some (.error error)
        | .fail .crash => none
        | .hold => none := by
      simp only [attempt?, found, Option.bind_some, calling]
    cases fate : node.channel.nextFate.2 with
    | proceed =>
        simp only [fate] at attempted
        exact @transmit_attempt cluster index node sending
          { node.channel.log .send with script := script } rfl attempted message
    | hold =>
        simp only [fate] at attempted
        exact .held rfl attempted
    | fail fault =>
        simp only [fate] at attempted
        cases fault with
        | error error => exact .failed rfl attempted
        | crash => exact .crashed rfl attempted
  · simp only [held]
    cases opened : node.channel.gateOpen with
    | false => exact .blocked
    | true =>
        have attempted : cluster.attempt? index sending = some node.channel.ready := by
          simp only [attempt?, found, Option.bind_some, held, opened, ↓reduceIte]
        exact transmit_attempt rfl attempted message

theorem cluster?_afterRecovery (sending : Sending) (call : RecoveryCall) (stage : SendStage) :
    (middle.afterRecovery sending call stage).cluster? = some middle := by
  unfold afterRecovery
  split <;> rfl

theorem sendFailed_confined (found : cluster.node? index = some node)
    (unmoved : node.Unmoved changed) {error : ChannelError}
    (stepped : (cluster.sendFailed index changed sending message error).cluster? = some after) :
    cluster.Confined index Node.Unmoved after := by
  unfold sendFailed at stepped
  cases entered : sending.recovery with
  | none =>
      simp only [entered] at stepped
      split at stepped
      · injection stepped with same
        exact same ▸ .setNode found (unmoved.trans (.of_recoveries _ _))
      · injection stepped with same
        exact same ▸ .setNode found unmoved
  | some call =>
      simp only [entered] at stepped
      split at stepped
      · rw [cluster?_afterRecovery] at stepped
        injection stepped with same
        exact same ▸ .recoverWith found unmoved (Recoveries.marks_fail _ _ _ _ _ _)
      · injection stepped with same
        exact same ▸ .setNode found unmoved

theorem Attempt.confined (found : cluster.node? index = some node) {step : SendStep}
    (attempt : cluster.Attempt index node sending message step)
    (stepped : step.cluster? = some after) : cluster.Confined index Node.Unmoved after := by
  cases attempt with
  | failed sent_eq => exact sendFailed_confined found (.of_channel node sent_eq) stepped
  | blocked => cases stepped
  | taken sent_eq | held sent_eq | crashed sent_eq =>
      injection stepped with same
      exact same ▸ .setNode found (.of_channel node sent_eq)

theorem recoverStep_confined (found : cluster.node? index = some node) {call : RecoveryCall}
    (stepped : (cluster.recoverStep index node sending message call).cluster? = some after) :
    cluster.Confined index Node.Unmoved after := by
  unfold recoverStep at stepped
  cases phase : call.phase with
  | cleaning =>
      simp only [phase, resetSender] at stepped
      split at stepped
      all_goals
        injection stepped with same
        exact same ▸ .setNode found (.of_channel node rfl)
  | deciding course =>
      simp only [phase, cluster?_afterRecovery] at stepped
      injection stepped with same
      exact same ▸ .recoverWith found (.refl node) (Recoveries.marks_decide _ _ _ _)
  | waiting course wake =>
      simp only [phase] at stepped
      split at stepped
      · rw [cluster?_afterRecovery] at stepped
        injection stepped with same
        exact same ▸ .recoverWith found (.refl node) (Recoveries.marks_wake _ _ _ _)
      · cases stepped
  | attempting course =>
      simp only [phase] at stepped
      injection stepped with same
      exact same ▸ .refl .refl
  | ended failure =>
      simp only [phase] at stepped
      cases stepped

/-- Until the channel has taken the message, the steps of a sending concern its node alone. -/
theorem sendStep_confined (unspread : ∀ spread, sending.stage ≠ .spreading spread)
    (stepped : (cluster.sendStep index sending).cluster? = some after) :
    cluster.Confined index Node.Unmoved after := by
  cases found : cluster.node? index with
  | none =>
      simp only [sendStep, found] at stepped
      cases stepped
  | some node =>
      cases stage : sending.stage with
      | encoding =>
          simp only [sendStep, found, sendStepAt, stage] at stepped
          split at stepped
          all_goals
            injection stepped with same
            exact same ▸ .refl .refl
      | calling message => exact (sendStep_attempt found (Or.inl stage)).confined found stepped
      | held message => exact (sendStep_attempt found (Or.inr stage)).confined found stepped
      | spreading spread => exact absurd stage (unspread spread)
      | recovering message =>
          simp only [sendStep, found, sendStepAt, stage] at stepped
          split at stepped
          · cases stepped
          · exact recoverStep_confined found stepped

end Stages

/-! ## Deliveries -/

/-- What a step leaves by which a node counts nothing as sent. -/
def Uncounted (cluster : Cluster) (index : Nat) (after : Cluster) : Prop :=
  ∀ node, cluster.node? index = some node →
    ∃ changed, after.node? index = some changed ∧ changed.tallied = node.tallied

theorem Confined.uncounted (confined : cluster.Confined index Node.Unmoved after) :
    cluster.Uncounted index after := by
  intro node found
  obtain ⟨changed, here, unmoved⟩ := confined.own node found
  exact ⟨changed, here, unmoved.tallied_eq⟩

theorem Uncounted.setNode {place : Nat} (found : cluster.node? place = some node)
    (same : changed.tallied = node.tallied) :
    cluster.Uncounted index (cluster.setNode place changed) := by
  intro other held
  rw [node?_setNode found]
  split
  next here =>
    rw [here, found] at held
    injection held with same_node
    exact ⟨changed, rfl, same_node ▸ same⟩
  next => exact ⟨other, held, rfl⟩

/-- Handing a message over, whatever comes of it. -/
def Handover.cluster? : Handover → Option Cluster
  | .done after => some after
  | .blocked => none
  | .crashed after => some after

/-- What becomes of a cluster in which a member is handed a message. -/
inductive Receives (cluster : Cluster) (message : Message) : Member → Cluster → Prop where
  /-- The observer sees the message. -/
  | observer : cluster.Receives message .observer { cluster with seen := message :: cluster.seen }
  | outsider : cluster.Receives message .outsider cluster
  | node {place : Nat} {node changed : Node} : cluster.node? place = some node →
      node.Receives message cluster.clock changed →
      cluster.Receives message (.node place) (cluster.setNode place changed)
  | absent {place : Nat} : cluster.node? place = none →
      cluster.Receives message (.node place) cluster

/-- Whoever is handed a message receives it. -/
theorem deliver_receives {target : Member} {message : Message} {waited : Bool}
    (delivered : (cluster.deliver target message waited).cluster? = some after) :
    cluster.Receives message target after := by
  unfold deliver at delivered
  cases target with
  | observer =>
      injection delivered with same
      exact same ▸ .observer
  | outsider =>
      injection delivered with same
      exact same ▸ .outsider
  | node place =>
      dsimp only at delivered
      split at delivered
      next absent =>
        injection delivered with same
        exact same ▸ .absent absent
      next node found =>
        unfold deliverTo at delivered
        split at delivered
        next direct =>
          have handled : cluster.Receives message (.node place)
              (cluster.handle place node message.body).1 :=
            .node found (.handles direct rfl)
          dsimp only at delivered
          split at delivered
          all_goals
            injection delivered with same
            exact same ▸ handled
        next workers striped =>
          split at delivered
          next => cases delivered
          next refused =>
            injection delivered with same
            exact same ▸ .node found
              (.drops striped (fun _ there => Workers.closed_of_offer refused there) rfl)
          next more accepted =>
            injection delivered with same
            have gains := Workers.gains_of_offer accepted
            cases waited with
            | true => exact same ▸ .node found (.keeps striped gains (Or.inr rfl) rfl)
            | false => exact same ▸ .node found (.keeps striped gains (Or.inl rfl) rfl)

theorem Receives.uncounted {target : Member} {message : Message}
    (receives : cluster.Receives message target after) : cluster.Uncounted index after := by
  cases receives with
  | observer => exact fun node found => ⟨node, found, rfl⟩
  | outsider => exact fun node found => ⟨node, found, rfl⟩
  | absent => exact fun node found => ⟨node, found, rfl⟩
  | node found receives => exact .setNode found receives.tallied_eq

end Cluster
end CacheSync
