import CacheSync.Cache.Apply
import CacheSync.Cache.Call
import CacheSync.Cache.Shelf
import CacheSync.Timestamps
import CacheSync.Wire.Decode
import CacheSync.Wire.Encode

/-!
# The core of a node

The core decides which local events leave the node, and what a message from another node changes.

`Core.outbound` keeps events of remote origin back, so applying a message never sends another
one.  `Core.receive` meets one of four fates: the message cannot be read, its cache is not
configured, it is older than what is recorded, or it is applied to its cache and to the aliases of
that cache.
-/

namespace CacheSync

/-- The life of a node only moves forward. -/
inductive Lifecycle where
  | created
  | started
  | stopped
  deriving DecidableEq

/-- How a node writes messages. -/
inductive Codec where
  | plain
  /-- Events of one key cannot be written. -/
  | refusing (key : String) (error : Wire.CodecError)

namespace Codec

def encode (codec : Codec) (event : Event) (includeValues : Bool) :
    Except Wire.CodecError (List UInt8) :=
  match codec with
  | .plain => .ok (Wire.encode event includeValues)
  | .refusing key error =>
      if event.key = .entry key then .error error else .ok (Wire.encode event includeValues)

end Codec

/-- An event to be sent, with the configuration of its cache. -/
structure Job where
  config : CacheConfig
  event : Event

/-- What the two sides of a node share. -/
structure Core where
  config : BusConfig
  codec : Codec
  lifecycle : Lifecycle
  shelf : CacheShelf
  timestamps : TimestampStore
  /-- The removals of timestamp records that have begun and are still to be carried out. -/
  cleanups : List (String × Duration)
  /-- Whether somebody still holds the node.  Its listeners are silent otherwise. -/
  linked : Bool
  meter : Meter

namespace Core

def new (config : BusConfig) (codec : Codec) (shelf : CacheShelf) : Core :=
  ⟨config, codec, .created, shelf, .new config.cleanup, [], true, .empty⟩

def isStarted (core : Core) : Bool :=
  core.lifecycle == .started

def mark (core : Core) (mark : Mark) : Core :=
  { core with meter := core.meter.mark mark }

def markAll (core : Core) (marks : List Mark) : Core :=
  { core with meter := core.meter.markAll marks }

/-! ## Timestamp records -/

def scheduled : TimestampStore.FollowUp → List (String × Duration)
  | .scheduled cache expiration => [(cache, expiration)]
  | _ => []

/-- Record the time of an event if its cache compares timestamps.  The answer says whether the
event is news. -/
def record (core : Core) (config : CacheConfig) (event : Event) (clock : Clock) : Core × Bool :=
  match config.comparison with
  | none => (core, true)
  | some comparison =>
      let saved := core.timestamps.save event comparison clock
      ({ core with
          timestamps := saved.store
          cleanups := core.cleanups ++ scheduled saved.followUp
          meter := TimestampStore.reportSave core.meter event.cache saved.followUp },
        saved.accepted)

def cleanUp (core : Core) (cache : String) (expiration : Duration) (clock : Clock) : Core :=
  let cleanup := core.timestamps.finishCleanup cache expiration clock
  { core with
    timestamps := cleanup.store
    meter := TimestampStore.reportCleanup core.meter cache cleanup.remaining }

/-! ## The way out -/

/-- Decide about a local event: the answer is the configuration to send it by, if it is to be
sent. -/
def outbound (core : Core) (event : Event) (clock : Clock) : Core × Option CacheConfig :=
  if !core.isStarted then (core, none)
  else
    match core.config.cache? event.cache with
    | none => (core, none)
    | some config =>
        if event.origin.isRemote then (core.mark (.suppressed config.name), none)
        else
          let (recorded, _) := core.record config event clock
          if config.policy.propagates event.kind then (recorded, some config)
          else (recorded.mark (.filtered config.name), none)

/-! ## The listeners of the node -/

/-- How many listeners of a store belong to the bus of the node. -/
def ears (core : Core) (store : Store) : Nat :=
  if core.linked then store.listeners.countP (·.audience = .bus) else 0

/-- What the bus hears of a change, once for each of its listeners. -/
def heard (core : Core) {α : Type} (change : Change α) : List Event :=
  match change.event with
  | none => []
  | some event => List.replicate (core.ears change.store) event

/-- The bus hears of an event that it will not send. -/
def overhear (core : Core) (event : Event) (clock : Clock) : Core :=
  (core.outbound event clock).1

/-- The bus hears of an event on the thread that applies a message, and may have a job for it. -/
def relay (core : Core) (event : Event) (clock : Clock) : Core × List Job :=
  (core.overhear event clock,
    ((core.outbound event clock).2.map fun config => ⟨config, event⟩).toList)

def relayAll (core : Core) (events : List Event) (clock : Clock) : Core × List Job :=
  match events with
  | [] => (core, [])
  | event :: rest =>
      let (after, jobs) := core.relay event clock
      let (last, more) := after.relayAll rest clock
      (last, jobs ++ more)

/-! ## The way in

Handling a message changes caches, and the bus hears of the changes.  What is handled comes with
the jobs that this makes for the bus. -/

/-- A core after some work, and whether the thread that did it has crashed. -/
structure Handled where
  core : Core
  crashed : Bool

/-- Go on with the work unless the thread has crashed. -/
def goOn (done : Handled × List Job) (work : Core → Handled × List Job) : Handled × List Job :=
  if done.1.crashed then done
  else
    let (last, more) := work done.1.core
    (last, done.2 ++ more)

def outcomeMark (cache : String) (outcome : Outcome) : Mark :=
  match outcome with
  | .failed => .applyFailed cache
  | _ => .applied cache

/-- Apply an event to one cache, if it is there. -/
def applyToRelaying (core : Core) (cache : String) (policy : Policy) (event : Event)
    (clock : Clock) : Handled × List Job :=
  match core.shelf.store? cache with
  | none => (⟨core, false⟩, [])
  | some store =>
      match (core.shelf.guard cache).apply policy store event clock.wall with
      | none => (⟨core, true⟩, [])
      | some change =>
          let changed : Core := { core with shelf := core.shelf.setStore change.store }
          let (told, jobs) := changed.relayAll (core.heard change) clock
          (⟨told.mark (outcomeMark cache change.answer), false⟩, jobs)

def invalidateAllRelaying (core : Core) (caches : List String) (event : Event) (clock : Clock) :
    Handled × List Job :=
  match caches with
  | [] => (⟨core, false⟩, [])
  | cache :: rest =>
      goOn (core.applyToRelaying cache .invalidated event clock) fun core =>
        core.invalidateAllRelaying rest event clock

/-- Apply an event to its cache and invalidate it in the aliases. -/
def spreadRelaying (core : Core) (config : CacheConfig) (event : Event) (clock : Clock) :
    Handled × List Job :=
  goOn (core.applyToRelaying config.name config.policy event clock) fun core =>
    core.invalidateAllRelaying config.aliases event clock

/-- Apply an event of a configured cache, unless it is stale. -/
def acceptRelaying (core : Core) (config : CacheConfig) (event : Event) (clock : Clock) :
    Handled × List Job :=
  let (recorded, news) := core.record config event clock
  if !news then (⟨recorded.mark (.stale config.name), false⟩, [])
  else recorded.spreadRelaying config event clock

/-- Handle a message from another node. -/
def receiveRelaying (core : Core) (body : List UInt8) (clock : Clock) : Handled × List Job :=
  if !core.isStarted then (⟨core, false⟩, [])
  else
    let received := core.mark .received
    match Wire.decode body with
    | .error _ => (⟨received.mark .undecodable, false⟩, [])
    | .ok event =>
        match core.config.cache? event.cache with
        | none => (⟨received, false⟩, [])
        | some config => received.acceptRelaying config event clock

/-! As `receiveRelaying_eq` shows, there never is such a job.  What follows leaves the jobs out. -/

def applyTo (core : Core) (cache : String) (policy : Policy) (event : Event) (clock : Clock) :
    Handled :=
  (core.applyToRelaying cache policy event clock).1

def invalidateAll (core : Core) (caches : List String) (event : Event) (clock : Clock) : Handled :=
  (core.invalidateAllRelaying caches event clock).1

def spread (core : Core) (config : CacheConfig) (event : Event) (clock : Clock) : Handled :=
  (core.spreadRelaying config event clock).1

def accept (core : Core) (config : CacheConfig) (event : Event) (clock : Clock) : Handled :=
  (core.acceptRelaying config event clock).1

def receive (core : Core) (body : List UInt8) (clock : Clock) : Handled :=
  (core.receiveRelaying body clock).1

/-! ## Operations of the application -/

/-- What an operation of the application leaves behind. -/
structure Operated where
  core : Core
  answer : Except Stop StoreAnswer
  /-- What the bus of the node hears of it. -/
  heard : List Event

/-- Carry out an operation on a cache, behind its guard if so asked.  There is no answer if there is
no such cache. -/
def operate (core : Core) (cache : String) (guarded : Bool) (call : StoreCall) (clock : Clock) :
    Option Operated :=
  (core.shelf.store? cache).map fun store =>
    let guard := if guarded then core.shelf.guard cache else .none
    match guard.perform store call clock.wall with
    | .error stop => ⟨core, .error stop, []⟩
    | .ok change =>
        ⟨{ core with shelf := core.shelf.setStore change.store }, .ok change.answer,
          core.heard change⟩

/-- The event of an operation on a cache that nothing refuses, if it makes one. -/
def emitted (core : Core) (cache : String) (call : StoreCall) (now : Moment) : List Event :=
  match core.shelf.store? cache with
  | none => []
  | some store => (store.perform call now).event.toList

/-! ## Facts -/

@[simp]
theorem shelf_mark (core : Core) (made : Mark) : (core.mark made).shelf = core.shelf := rfl

@[simp]
theorem lifecycle_mark (core : Core) (made : Mark) :
    (core.mark made).lifecycle = core.lifecycle := rfl

theorem relayAll_fst (events : List Event) (clock : Clock) :
    ∀ core : Core, (core.relayAll events clock).1 =
      events.foldl (fun core event => core.overhear event clock) core := by
  induction events with
  | nil =>
      intro core
      rfl
  | cons event rest inductionHypothesis =>
      intro core
      exact inductionHypothesis _

theorem goOn_fst (done : Handled × List Job) (work : Core → Handled × List Job) :
    (goOn done work).1 = if done.1.crashed then done.1 else (work done.1.core).1 := by
  unfold goOn
  split <;> rfl

section WayIn

variable {core : Core} {cache : String} {policy : Policy} {store : Store} {config : CacheConfig}
  {event : Event} {body : List UInt8} {clock : Clock}

theorem applyTo_of_absent (absent : core.shelf.store? cache = none) :
    core.applyTo cache policy event clock = ⟨core, false⟩ := by
  simp only [applyTo, applyToRelaying, absent]

theorem applyTo_of_crash (found : core.shelf.store? cache = some store)
    (crashes : (core.shelf.guard cache).apply policy store event clock.wall = none) :
    core.applyTo cache policy event clock = ⟨core, true⟩ := by
  simp only [applyTo, applyToRelaying, found, crashes]

theorem applyTo_of_change {change : Change Outcome} (found : core.shelf.store? cache = some store)
    (applied : (core.shelf.guard cache).apply policy store event clock.wall = some change) :
    core.applyTo cache policy event clock =
      let changed : Core := { core with shelf := core.shelf.setStore change.store }
      let told := (core.heard change).foldl (fun core event => core.overhear event clock) changed
      ⟨told.mark (outcomeMark cache change.answer), false⟩ := by
  simp only [applyTo, applyToRelaying, found, applied, relayAll_fst]

theorem invalidateAll_cons (core : Core) (cache : String) (rest : List String) (event : Event)
    (clock : Clock) :
    core.invalidateAll (cache :: rest) event clock =
      let handled := core.applyTo cache .invalidated event clock
      if handled.crashed then handled else handled.core.invalidateAll rest event clock :=
  goOn_fst _ _

theorem spread_eq_invalidateAll (core : Core) (config : CacheConfig) (event : Event)
    (clock : Clock) :
    core.spread config event clock =
      let handled := core.applyTo config.name config.policy event clock
      if handled.crashed then handled else handled.core.invalidateAll config.aliases event clock :=
  goOn_fst _ _

theorem accept_eq_spread (core : Core) (config : CacheConfig) (event : Event) (clock : Clock) :
    core.accept config event clock =
      let recorded := core.record config event clock
      if recorded.2 then recorded.1.spread config event clock
      else ⟨recorded.1.mark (.stale config.name), false⟩ := by
  unfold accept acceptRelaying
  cases core.record config event clock with
  | mk recorded news => cases news <;> rfl

theorem receive_of_idle (idle : core.isStarted = false) (body : List UInt8) (clock : Clock) :
    core.receive body clock = ⟨core, false⟩ := by
  simp only [receive, receiveRelaying, idle, Bool.not_false, ↓reduceIte]

theorem receive_of_undecodable {fault : Wire.CodecError} (started : core.isStarted = true)
    (unread : Wire.decode body = .error fault) :
    core.receive body clock = ⟨(core.mark .received).mark .undecodable, false⟩ := by
  simp only [receive, receiveRelaying, started, unread, Bool.not_true, Bool.false_eq_true,
    ↓reduceIte]

theorem receive_of_unconfigured (started : core.isStarted = true)
    (read : Wire.decode body = .ok event) (unconfigured : core.config.cache? event.cache = none) :
    core.receive body clock = ⟨core.mark .received, false⟩ := by
  simp only [receive, receiveRelaying, started, read, unconfigured, Bool.not_true,
    Bool.false_eq_true, ↓reduceIte]

theorem receive_eq_accept (started : core.isStarted = true) (read : Wire.decode body = .ok event)
    (configured : core.config.cache? event.cache = some config) :
    core.receive body clock = (core.mark .received).accept config event clock := by
  simp only [receive, receiveRelaying, started, read, configured, Bool.not_true,
    Bool.false_eq_true, ↓reduceIte]
  rfl

end WayIn

/-- An event of remote origin is never sent. -/
theorem outbound_of_remote (core : Core) {event : Event} (clock : Clock)
    (remote : event.origin = .remoteNode) : (core.outbound event clock).2 = none := by
  unfold outbound
  split
  · rfl
  · split
    · rfl
    · simp [remote, Origin.isRemote]

/-! ## What is sent and what is removed meanwhile -/

/-- What a node sends of an event that its bus hears: the node afterwards, and the message if it
lets one out. -/
def post (core : Core) (event : Event) (clock : Clock) : Core × Option (List UInt8) :=
  let (decided, config?) := core.outbound event clock
  (decided, config?.bind fun config =>
    (decided.codec.encode event config.policy.includesValues).toOption)

/-- Whether recording the time of an event removes old records on the same thread. -/
def purges (core : Core) (event : Event) (clock : Clock) : Bool :=
  match core.config.cache? event.cache with
  | none => false
  | some config =>
      match config.comparison with
      | none => false
      | some comparison => (core.timestamps.save event comparison clock).followUp.isCleaned

/-- Whether handling a message removes old timestamp records on the same thread. -/
def purgesOn (core : Core) (body : List UInt8) (clock : Clock) : Bool :=
  match Wire.decode body with
  | .error _ => false
  | .ok event => core.purges event clock

end Core

/-! ## What happens to a core -/

/-- What happens to the core of a node. -/
inductive Deed where
  | send (event : Event) (clock : Clock)
  | receive (body : List UInt8) (clock : Clock)
  | cleanUp (cache : String) (expiration : Duration) (clock : Clock)

namespace Core

def undergo (core : Core) : Deed → Core
  | .send event clock => (core.outbound event clock).1
  | .receive body clock => (core.receive body clock).core
  | .cleanUp cache expiration clock => core.cleanUp cache expiration clock

def undergoAll (core : Core) (deeds : List Deed) : Core :=
  deeds.foldl undergo core

/-- Messages arrive one after the other, each at its own time. -/
def receiveAll (core : Core) (arrivals : List (List UInt8 × Clock)) : Core :=
  arrivals.foldl (fun core arrival => (core.receive arrival.1 arrival.2).core) core

end Core
end CacheSync
