import CacheSync.Proofs.Cluster.NoEcho
import CacheSync.Proofs.Node.Invalidation

/-!
# How far an invalidation reaches

A node alters a cache that all nodes invalidate.  Once the call is over, every other node has
dropped what the alteration has put out of date, in the cache and in its aliases, and holds all else
as before; the node itself holds something else in that cache only.  An alias that is configured
itself, with aliases of its own, carries an invalidation no further.
-/

namespace CacheSync

theorem Frame.Invalidates.message?_eq {frame : Frame} {config : CacheConfig}
    (invalidates : frame.Invalidates config) (started : frame.lifecycle = .started) {event : Event}
    (of : event.cache = config.name) (made : event.origin = .localNode) :
    frame.message? event =
      if config.policy.propagates event.kind then some ⟨event.hash, Wire.encode event false⟩
      else none := by
  rw [Frame.message?, Frame.outbound?, if_pos ⟨started, made⟩, of, invalidates.configured,
    Option.filter_some]
  split
  · rw [Option.map_some, invalidates.invalidated]
    rfl
  · rfl

/-- The message of an event drops its keys in the cache and its aliases. -/
theorem Frame.Invalidates.heldAfter_eq {frame : Frame} {config : CacheConfig}
    (invalidates : frame.Invalidates config) {event : Event} (of : event.cache = config.name)
    (dated : event.time.InCalendar) (held : String → Contents) (name entry : String) :
    frame.heldAfter (Wire.encode event false) held name entry =
      if (name ∈ config.name :: config.aliases ∧ event.Concerns entry) ∧ frame.has name = true then
        none
      else held name entry := by
  have read : Wire.decode (Wire.encode event false) = .ok event.withoutValues.delivered :=
    Wire.decode_encode dated nofun
  have ofThere : event.withoutValues.delivered.cache = config.name := of
  simp only [Frame.heldAfter, read]
  exact invalidates.effect_eq ofThere name entry (held name entry)

namespace Cluster

variable {start cluster begun after : Cluster} {config : CacheConfig} {index : Nat} {call : StoreCall}

/-- Every node invalidates a cache with the same aliases. -/
def Sharing (cluster : Cluster) (config : CacheConfig) : Prop :=
  ∀ {index : Nat} {node : Node}, cluster.node? index = some node →
    node.core.frame.Invalidates config

/-! ## What a node has taken -/

/-- A node holds what the messages it has taken have made of what it held. -/
def Followed (start : Cluster) (index : Nat) (taken : List Message) (core : Core) : Prop :=
  ∀ node, start.node? index = some node →
    core.held =
      taken.foldl (fun held message => node.core.frame.heldAfter message.body held) node.core.held

theorem Trading.followed_lasting (trading : start.Trading)
    (uncompared : ∀ {index : Nat} {node : Node}, start.node? index = some node →
      node.core.frame.Uncompared) : start.Lasting start.Followed where
  stands stands followed node began := by
    rw [stands.held_eq]
    exact followed node began
  receive {index taken core node} began frame_eq followed message clock node' began' := by
    obtain rfl := Option.some.inj (began.symm.trans began')
    have trades := trading.trades began
    rw [List.foldl_append, ← followed node began, ← frame_eq]
    exact Core.held_receive_of_uncompared (frame_eq ▸ trades.started) (frame_eq ▸ trades.crashless)
      (frame_eq ▸ uncompared began) message.body clock

/-! ## An operation under way -/

/-- An operation that has begun: one cache of one node is altered, and the other nodes are owed the
message of it, if it is to be sent. -/
structure Altered (cluster : Cluster) (config : CacheConfig) (index : Nat) (call : StoreCall)
    (now : Moment) (operated : Core.Operated) (node : Node) (begun : Cluster) : Prop where
  found : cluster.node? index = some node
  trading : begun.Trading
  sharing : begun.Sharing config
  nodes_eq : begun.nodes = cluster.nodes.set index { node with core := operated.core }
  hears : operated.core.frame.HearsOnce config.name
  alters : operated.Alters node.core config.name call now
  busy : begun.Busy cluster.nextTicket (operated.heard.map (.hear index))

theorem altered_of_request? (trading : cluster.Trading) (sharing : cluster.Sharing config)
    (idle : cluster.Idle) (numbered : cluster.Numbered) {node : Node}
    (found : cluster.node? index = some node) (hears : node.core.frame.HearsOnce config.name)
    (guarded : Bool) (call : StoreCall) :
    ∃ begun ticket operated,
      cluster.request? (.operate index config.name guarded call) = some (begun, ticket) ∧
        cluster.Altered config index call (cluster.pass stepTime).clock.wall operated node begun := by
  have free := (sharing found).free config.name List.mem_cons_self
  obtain ⟨operated, operates, alters⟩ :=
    Core.operate_alters hears free guarded call (cluster.pass stepTime).clock
  obtain ⟨begun, ticket, asked⟩ := request?_operate found operates
  obtain ⟨node', operated', found', operates', nodes_eq, hub_eq, _, calls_eq⟩ := of_request? asked
  obtain rfl := Option.some.inj (found.symm.trans found')
  obtain rfl := Option.some.inj (operates.symm.trans operates')
  have tradingNow := trading.setCore found nodes_eq hub_eq alters.frame_eq
  have sharingNow : begun.Sharing config := by
    intro other changed held
    rw [node?_of_set found nodes_eq] at held
    split at held
    next =>
      injection held with this
      rw [← this, alters.frame_eq]
      exact sharing found
    next => exact sharing held
  exact ⟨begun, ticket, operated, asked, found, tradingNow, sharingNow, nodes_eq,
    alters.frame_eq ▸ hears, alters, idle.busy numbered calls_eq⟩

namespace Altered

variable {now : Moment} {operated : Core.Operated} {node : Node}

theorem here (altered : cluster.Altered config index call now operated node begun) :
    begun.node? index = some { node with core := operated.core } := by
  rw [node?_of_set altered.found altered.nodes_eq, if_pos rfl]

theorem elsewhere (altered : cluster.Altered config index call now operated node begun)
    {other : Nat} (different : other ≠ index) : begun.node? other = cluster.node? other := by
  rw [node?_of_set altered.found altered.nodes_eq, if_neg different]

/-- What is owed for the event of the operation, if it made one. -/
theorem post?_eq (altered : cluster.Altered config index call now operated node begun)
    {event : Event} (of : event.cache = config.name) (made : event.origin = .localNode) :
    begun.post? index event =
      if config.policy.propagates event.kind then some ⟨event.hash, Wire.encode event false⟩
      else none := by
  have ears : operated.core.frame.ears event.cache = 1 := by
    rw [of]
    exact Frame.ears_of_hearsOnce altered.hears
  rw [post?, altered.here, Option.bind_some, ears, if_pos Nat.zero_lt_one]
  exact (altered.sharing altered.here).message?_eq (altered.trading.trades altered.here).started of
    made

theorem lasting (altered : cluster.Altered config index call now operated node begun) :
    begun.Lasting begun.Followed :=
  altered.trading.followed_lasting fun found => (altered.sharing found).uncompared

/-- The books of an operation that has begun: the message of its event is owed. -/
theorem books (altered : cluster.Altered config index call now operated node begun) :
    begun.Books begun.Followed ⟨operated.heard.map (index, ·), [], []⟩ begun cluster.nextTicket
      (operated.heard.map (.hear index)) where
  ledger := by
    refine .refl altered.trading ?_
    intro other before found before' began
    obtain rfl := Option.some.inj (found.symm.trans began)
    rfl
  busy := altered.busy
  progress := by
    refine ⟨.whole (begun.posts (operated.heard.map (index, ·))), ?_, rfl, fun _ _ => rfl⟩
    rcases altered.alters.told with ⟨silent, _⟩ | ⟨event, heard, _, of, _, _⟩
    · rw [silent]
      exact .nothing
    · have ears : operated.core.frame.ears event.cache = 1 := by
        rw [of]
        exact Frame.ears_of_hearsOnce altered.hears
      have posted : begun.post? index event = operated.core.frame.message? event := by
        rw [post?, altered.here, Option.bind_some, ears, if_pos Nat.zero_lt_one]
      rw [heard, List.map_singleton, List.map_singleton, posts_singleton, posted]
      exact .errand altered.here (.hear event)

/-- Once the call is over, every node has followed the messages for it. -/
theorem followed (altered : cluster.Altered config index call now operated node begun)
    {events : List Event} {final : Cluster}
    (run : Run config.name (fun _ _ => False) begun events final) (rest : final.Idle) {other : Nat}
    {before : Node} (began : begun.node? other = some before) :
    ∃ changed, final.node? other = some changed ∧ changed.core.held =
      (logBeside other (begun.posts (operated.heard.map (index, ·)))).foldl
        (fun held message => before.core.frame.heldAfter message.body held) before.core.held := by
  obtain ⟨changed, there, held_eq⟩ := Books.kept_of_run altered.lasting run altered.books rest began
  exact ⟨changed, there, held_eq before began⟩

/-- The node that was asked takes no message of its own. -/
theorem held_here (altered : cluster.Altered config index call now operated node begun)
    (made : call.origin = .localNode) {events : List Event} {final : Cluster}
    (run : Run config.name (fun _ _ => False) begun events final) (rest : final.Idle) :
    ∃ changed, final.node? index = some changed ∧ changed.core.held = operated.core.held := by
  obtain ⟨changed, there, held_eq⟩ := altered.followed run rest altered.here
  refine ⟨changed, there, held_eq.trans ?_⟩
  rcases altered.alters.told with ⟨silent, _⟩ | ⟨event, heard, _, of, origin, _⟩
  · rw [silent]
    rfl
  · rw [heard, List.map_singleton, posts_singleton, altered.post?_eq of (origin.trans made)]
    split
    · rw [Option.toList_some, List.map_singleton, logBeside_singleton, if_pos rfl]
      rfl
    · rfl

/-- Another node drops what is out of date, in the cache and its aliases. -/
theorem held_elsewhere (altered : cluster.Altered config index call now operated node begun)
    (made : call.origin = .localNode) (dated : now.InCalendar) {events : List Event}
    {final : Cluster} (run : Run config.name (fun _ _ => False) begun events final)
    (rest : final.Idle) {other : Nat} (different : other ≠ index) {before : Node}
    (began : cluster.node? other = some before) :
    ∃ changed, final.node? other = some changed ∧ ∀ name entry, changed.core.held name entry =
      if name ∈ config.name :: config.aliases ∧
          (call.alteration (node.core.held config.name)).outdates entry = true then none
      else before.core.held name entry := by
  have begins := (altered.elsewhere different).trans began
  obtain ⟨changed, there, held_eq⟩ := altered.followed run rest begins
  refine ⟨changed, there, fun name entry => ?_⟩
  rw [held_eq]
  rcases altered.alters.told with ⟨silent, untold⟩ | ⟨event, heard, told, of, origin, time⟩
  · have current := Alteration.outdates_of_silent untold entry
    rw [silent, if_neg fun both => absurd both.2 (by simp [current])]
    rfl
  · rw [heard, List.map_singleton, posts_singleton, altered.post?_eq of (origin.trans made),
      (altered.sharing begins).invalidated]
    by_cases sent : Policy.invalidated.propagates event.kind = true
    · rw [if_pos sent, Option.toList_some, List.map_singleton, logBeside_singleton,
        if_neg (Ne.symm different), List.foldl_cons, List.foldl_nil,
        (altered.sharing begins).heldAfter_eq of (time ▸ dated)]
      simp only [Alteration.outdates_iff_of_told told, sent, true_and]
      by_cases present : before.core.frame.has name = true
      · simp only [present, and_true]
      · -- A cache that is not there holds nothing to drop.
        have absent := Core.held_of_absent (Bool.eq_false_iff.2 present) entry
        rw [absent, ite_self, ite_self]
    · have kept : ¬ (call.alteration (node.core.held config.name)).outdates entry = true :=
        fun outdated => sent ((Alteration.outdates_iff_of_told told entry).1 outdated).1
      rw [if_neg sent, if_neg fun both => kept both.2]
      rfl

end Altered

/-- An operation on a cache that all nodes invalidate comes to its end, whatever else goes on.  Then
the cache of the node that was asked is altered as the call says, and none of its other caches.
Every other node has dropped what is out of date, in the cache and its aliases, and no more. -/
theorem invalidated_of_operate (trading : cluster.Trading) (sharing : cluster.Sharing config)
    (idle : cluster.Idle) (numbered : cluster.Numbered)
    (dated : (cluster.pass stepTime).clock.wall.InCalendar) {node : Node}
    (found : cluster.node? index = some node) (hears : node.core.frame.HearsOnce config.name)
    (guarded : Bool) {call : StoreCall} (made : call.origin = .localNode) :
    ∃ begun ticket,
      cluster.request? (.operate index config.name guarded call) = some (begun, ticket) ∧
      (∃ final, Run config.name (fun _ _ => False) begun [] final ∧ final.Idle) ∧
        ∀ final, Run config.name (fun _ _ => False) begun [] final → final.Idle →
          (∃ changed, final.node? index = some changed ∧
            (call.alteration (node.core.held config.name)).Describes (node.core.held config.name)
              (changed.core.held config.name) ∧
            ∀ name, name ≠ config.name → changed.core.held name = node.core.held name) ∧
          ∀ other before, other ≠ index → cluster.node? other = some before →
            ∃ changed, final.node? other = some changed ∧
              ∀ name entry, changed.core.held name entry =
                if name ∈ config.name :: config.aliases ∧
                    (call.alteration (node.core.held config.name)).outdates entry = true then none
                else before.core.held name entry := by
  obtain ⟨begun, ticket, operated, asked, altered⟩ :=
    altered_of_request? trading sharing idle numbered found hears guarded call
  have comesToRest := Books.exists_run altered.lasting altered.books config.name
  refine ⟨begun, ticket, asked, comesToRest, fun final run rest => ⟨?_, ?_⟩⟩
  · obtain ⟨changed, there, held_eq⟩ := altered.held_here made run rest
    refine ⟨changed, there, ?_, fun name different => ?_⟩
    · rw [held_eq]
      exact altered.alters.describes
    · rw [held_eq]
      exact altered.alters.others_eq name different
  · intro other before different began
    exact altered.held_elsewhere made dated run rest different began

/-! ## Two nodes with entries -/

/-- A cache with two entries that a bus listens to. -/
def stockedStore (name : String) : Store :=
  (((Store.ofName name).listen .bus).1.set "ada" (.text "countess")).set "bob" (.text "builder")

/-- A node with two caches that are aliases of each other, both of them stocked. -/
def stockedNode (name : String) : Node :=
  { Node.new name { Core.new entwinedConfig .plain
        ((CacheShelf.empty.setStore (stockedStore "users")).setStore (stockedStore "names")) with
      lifecycle := .started }
      { Channel.plain with active := true } .up with pipeline := .running }

theorem entwinedConfig_uncompared {name : String} {config : CacheConfig}
    (found : entwinedConfig.cache? name = some config) : config.comparison = none := by
  simp only [entwinedConfig, BusConfig.cache?, Table.get?_insert] at found
  split at found
  · obtain rfl := Option.some.inj found
    rfl
  split at found
  · obtain rfl := Option.some.inj found
    rfl
  · cases found

theorem stockedNode_invalidates (name : String) :
    (stockedNode name).core.frame.Invalidates ⟨"users", .invalidated, ["names"], none⟩ where
  configured := rfl
  invalidated := rfl
  uncompared := entwinedConfig_uncompared
  free := fun _ _ => rfl

theorem stockedNode_trades (name : String) : (stockedNode name).Trades where
  started := rfl
  plain := rfl
  crashless := fun _ => Guard.crashless_none
  running := rfl
  producer_eq := rfl
  consumer_eq := rfl
  carries := ⟨rfl, rfl, rfl⟩

def stocked : Cluster :=
  couple (stockedNode "first") (stockedNode "second")

theorem stocked_trading : stocked.Trading :=
  couple_trading (stockedNode_trades "first") (stockedNode_trades "second")

theorem stocked_sharing : stocked.Sharing ⟨"users", .invalidated, ["names"], none⟩ := by
  intro index node found
  rcases eq_of_couple found with rfl | rfl
  · exact stockedNode_invalidates "first"
  · exact stockedNode_invalidates "second"

/-- One node replaces an entry.  The other drops it, in the alias too, and keeps the other entry. -/
theorem invalidated_of_operate_stocked :
    ∃ begun ticket final changed peer,
      stocked.request? (.operate 0 "users" true (.put "ada" (.text "lady") .localNode)) =
        some (begun, ticket) ∧
      Run "users" (fun _ _ => False) begun [] final ∧ final.Idle ∧
        final.node? 0 = some changed ∧ changed.core.held "names" "ada" = some (.text "countess") ∧
        final.node? 1 = some peer ∧ peer.core.held "users" "ada" = none ∧
          peer.core.held "names" "ada" = none ∧
            peer.core.held "names" "bob" = some (.text "builder") := by
  obtain ⟨begun, ticket, asked, ⟨final, run, rest⟩, holds⟩ :=
    invalidated_of_operate stocked_trading stocked_sharing (idle_of_callers rfl)
      (numbered_of_callers rfl) (by decide) (show stocked.node? 0 = some (stockedNode "first") from rfl)
      ⟨rfl, _, rfl, rfl⟩ true (show (StoreCall.put "ada" (.text "lady") .localNode).origin = _ from rfl)
  obtain ⟨⟨changed, here, _, others⟩, elsewhere⟩ := holds final run rest
  obtain ⟨peer, there, held⟩ := elsewhere 1 (stockedNode "second") (by decide) rfl
  refine ⟨begun, ticket, final, changed, peer, asked, run, rest, here, ?_, there, ?_, ?_, ?_⟩
  · rw [others "names" (by decide)]
    rfl
  · exact (held "users" "ada").trans rfl
  · exact (held "names" "ada").trans rfl
  · exact (held "names" "bob").trans rfl

end Cluster

end CacheSync
