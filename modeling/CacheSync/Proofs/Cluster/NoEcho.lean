import CacheSync.Proofs.Cluster.Traffic

/-!
# Applying never sends

Nodes that work on the calling thread are asked for any operations on any caches, one after the
other.  Every event that an operation of the application makes is handed over as its policy says,
and every other node takes its message once.  Nothing else is ever handed over: what a message
changes at another node, in its cache or in an alias, is of remote origin and stays there.
-/

namespace CacheSync.Cluster

variable {start cluster after : Cluster} {account : Account}

/-- The event of an operation that is asked for now, if it makes one, with its node. -/
def announcing (cluster : Cluster) (index : Nat) (cache : String) (guarded : Bool)
    (call : StoreCall) : List (Nat × Event) :=
  match cluster.node? index with
  | none => []
  | some node =>
      (node.core.announced cache guarded call (cluster.pass stepTime).clock).map (index, ·)

/-- The states that are reached by operations on any caches, with their accounts. -/
inductive Traffic (start : Cluster) : Account → Cluster → Prop where
  | refl : Traffic start ⟨[], [], []⟩ start
  | ask {account : Account} {middle after : Cluster} {index : Nat} {cache : String}
      {guarded : Bool} {call : StoreCall} {ticket : Nat} :
      Traffic start account middle →
      middle.Idle →
      middle.request? (.operate index cache guarded call) = some (after, ticket) →
      Traffic start
        { account with
          announced := account.announced ++ middle.announcing index cache guarded call }
        after
  | step {account : Account} {middle after : Cluster} {thread : Thread} :
      Traffic start account middle →
      middle.step? thread = some after →
      Traffic start (account.step middle thread) after
  | wait {account : Account} {middle : Cluster} (nanos : Nat) :
      Traffic start account middle →
      Traffic start account (middle.pass nanos)

theorem Traffic.follow (threads : List Thread) :
    ∀ {account : Account} {middle after : Cluster}, Traffic start account middle →
      middle.follow? threads = some after →
        ∃ later, Traffic start later after ∧ later.announced = account.announced := by
  induction threads with
  | nil =>
      intro account middle after traffic followed
      injection followed with same
      exact ⟨account, same ▸ traffic, rfl⟩
  | cons thread rest inductionHypothesis =>
      intro account middle after traffic followed
      obtain ⟨next, stepped, further⟩ := Option.bind_eq_some_iff.1 followed
      obtain ⟨later, reached, same⟩ := inductionHypothesis (.step traffic stepped) further
      exact ⟨later, reached, same⟩

/-- No bus hears of a change more than once. -/
def Listening (cluster : Cluster) : Prop :=
  ∀ {index : Nat} {node : Node}, cluster.node? index = some node →
    ∀ cache, node.core.frame.ears cache ≤ 1

/-- A node has counted every message it has taken. -/
def Counted (start : Cluster) (index : Nat) (taken : List Message) (core : Core) : Prop :=
  ∀ node, start.node? index = some node →
    core.meter.count .received = node.core.meter.count .received + taken.length

theorem Trading.counted_lasting (trading : start.Trading) : start.Lasting start.Counted where
  stands stands counted node began := by
    rw [stands.received_eq]
    exact counted node began
  receive {index taken core node} began frame_eq counted message clock node' began' := by
    have started : core.isStarted = true := by
      rw [Core.isStarted_iff, frame_eq]
      exact (trading.trades began).started
    rw [Core.receive_received started, counted node' began', List.length_append,
      List.length_singleton, Nat.add_assoc]

/-- An operation leaves the message of its event to be sent, if its bus hears of it. -/
theorem Books.ask {ticket : Nat} {tasks : List Task}
    (books : start.Books start.Counted account cluster ticket tasks) (listening : start.Listening)
    (idle : cluster.Idle) {index : Nat} {cache : String} {guarded : Bool} {call : StoreCall}
    {next : Nat}
    (asked : cluster.request? (.operate index cache guarded call) = some (after, next)) :
    ∃ ticket tasks, start.Books start.Counted
      { account with
        announced := account.announced ++ cluster.announcing index cache guarded call }
      after ticket tasks := by
  obtain ⟨now, operated, found, operates, nodes_eq, hub_eq, reply, calls_eq⟩ :=
    of_request? asked
  obtain ⟨node, began, entry⟩ := books.ledger.entry found
  obtain ⟨handed, taken⟩ := books.balanced idle
  have announces := Core.operate_announces operates
  have announcing_eq : cluster.announcing index cache guarded call =
      (now.core.announced cache guarded call (cluster.pass stepTime).clock).map (index, ·) := by
    simp only [announcing, found]
  have errand := errand_of_announces began entry.frame_eq announces
    (listening began cache) announces.once
  rw [← announcing_eq] at errand
  refine ⟨_, _, ?_, idle.busy books.busy.numbered calls_eq, _, .errand began errand, ⟨?_, ?_⟩⟩
  · refine books.ledger.setCore found nodes_eq hub_eq announces.frame_eq ?_
    intro taken counted
    unfold Counted
    rw [announces.meter_eq]
    exact counted
  · rw [posts_append, ← handed]
    rfl
  · intro other inRange
    rw [posts_append, logBeside_append, ← taken other inRange]
    rfl

theorem Traffic.books (traffic : Traffic start account after) (trading : start.Trading)
    (listening : start.Listening) (idle : start.Idle) (numbered : start.Numbered) :
    ∃ ticket tasks, start.Books start.Counted account after ticket tasks := by
  have lasting := trading.counted_lasting
  induction traffic with
  | refl =>
      refine ⟨0, [], .refl trading ?_, .of_idle idle numbered 0, _, .nothing, rfl, fun _ _ => rfl⟩
      intro index node found other began
      obtain rfl := Option.some.inj (found.symm.trans began)
      rfl
  | ask _ rest asked inductionHypothesis =>
      obtain ⟨_, _, books⟩ := inductionHypothesis
      exact books.ask listening rest asked
  | step _ stepped inductionHypothesis =>
      obtain ⟨ticket, _, books⟩ := inductionHypothesis
      exact ⟨ticket, books.step lasting stepped⟩
  | wait nanos _ inductionHypothesis =>
      obtain ⟨ticket, tasks, books⟩ := inductionHypothesis
      exact ⟨ticket, tasks, books.pass lasting nanos⟩

/-! ## What is sent -/

/-- A node sends the message of an event if the event propagates. -/
theorem isSome_post? (trading : start.Trading) (listening : start.Listening) {index : Nat}
    {node : Node} (began : start.node? index = some node) (event : Event) :
    (start.post? index event).isSome = node.core.frame.propagates event := by
  have started := (trading.trades began).started
  rw [post?, began, Option.bind_some, Frame.propagates]
  rcases Nat.le_one_iff_eq_zero_or_eq_one.1 (listening began event.cache) with deaf | hears
  · rw [deaf]
    rfl
  · rw [hears, if_pos Nat.zero_lt_one, Frame.message?, Option.isSome_map, Frame.outbound?]
    cases event.origin with
    | remoteNode =>
        rw [if_neg (by simp)]
        rfl
    | localNode =>
        rw [if_pos ⟨started, rfl⟩, Option.isSome_filter]
        rfl

/-- Every message of a node is that of one of its own events that propagates. -/
theorem length_logOf_posts (trading : start.Trading) (listening : start.Listening) {index : Nat}
    {node : Node} (began : start.node? index = some node) (announced : List (Nat × Event)) :
    (logOf index (start.posts announced)).length =
      (logOf index announced).countP node.core.frame.propagates := by
  induction announced with
  | nil => rfl
  | cons entry rest inductionHypothesis =>
      obtain ⟨other, event⟩ := entry
      have split : (other, event) :: rest = [(other, event)] ++ rest := rfl
      rw [split, posts_append, logOf_append, logOf_append, List.length_append, List.countP_append,
        inductionHypothesis, posts_singleton, logOf_singleton]
      congr 1
      by_cases same : other = index
      · subst same
        rw [if_pos rfl, List.countP_singleton, ← isSome_post? trading listening began]
        cases start.post? other event <;> simp [logOf_singleton]
      · rw [if_neg same]
        cases start.post? other event <;> simp [logOf_singleton, same]

/-- What a node has sent and received of the messages for the events announced. -/
structure Even (start : Cluster) (account : Account) (index : Nat) (node changed : Node) :
    Prop where
  sent_eq : changed.channel.sent = node.channel.sent + (logOf index account.handed).length
  received_eq : changed.core.meter.count .received =
    node.core.meter.count .received + (logOf index account.taken).length
  taken : logOf index account.taken <+: logBeside index (start.posts account.announced)
  silent : ∀ body clock,
    changed.core.receiveRelaying body clock = (changed.core.receive body clock, [])

/-- Every operation comes to its end.  At any moment the messages handed over are those of the
first events announced, and when no operation is under way, of all: every node has sent one for
each of its own events that propagate, and has received each of the others' once. -/
theorem even_of_traffic (traffic : Traffic start account after) (trading : start.Trading)
    (listening : start.Listening) (idle : start.Idle) (numbered : start.Numbered) :
    (∃ threads final, after.follow? threads = some final ∧ final.Idle) ∧
      account.handed <+: start.posts account.announced ∧
        (after.Idle → account.handed = start.posts account.announced) ∧
          ∀ index node, start.node? index = some node →
            ∃ changed, after.node? index = some changed ∧
              start.Even account index node changed ∧
                (after.Idle →
                  changed.channel.sent = node.channel.sent +
                    (logOf index account.announced).countP node.core.frame.propagates ∧
                  logOf index account.taken =
                    logBeside index (start.posts account.announced)) := by
  obtain ⟨ticket, tasks, books⟩ := traffic.books trading listening idle numbered
  obtain ⟨owing, due, balance⟩ := books.progress
  refine ⟨books.finishes trading.counted_lasting _ (Nat.lt_succ_self _),
    ⟨_, balance.handed⟩, fun rest => (books.balanced rest).1, ?_⟩
  intro index node began
  obtain ⟨inRange, _⟩ := List.getElem?_eq_some_iff.1 began
  obtain ⟨changed, found, _⟩ := books.ledger.present began
  obtain ⟨before, begins, entry⟩ := books.ledger.entry found
  obtain rfl := Option.some.inj (began.symm.trans begins)
  refine ⟨changed, found, ⟨entry.sent_eq, entry.kept node began, ⟨_, balance.taken index inRange⟩,
    changed.core.receiveRelaying_eq⟩, fun rest => ⟨?_, (books.balanced rest).2 index inRange⟩⟩
  rw [entry.sent_eq, (books.balanced rest).1, length_logOf_posts trading listening began]

/-! ## Two caches that are aliases of each other -/

/-- Two invalidated caches, each an alias of the other. -/
def entwinedConfig : BusConfig :=
  { BusDefinition.default.bare with
    caches := (Table.empty.insert "users" ⟨"users", .invalidated, ["names"], none⟩).insert "names"
      ⟨"names", .invalidated, ["users"], none⟩ }

/-- A started node with these caches.  Its bus listens to both. -/
def entwinedNode (name : String) : Node :=
  let shelf := (CacheShelf.empty.setStore ((Store.ofName "users").listen .bus).1).setStore
    ((Store.ofName "names").listen .bus).1
  { Node.new name { Core.new entwinedConfig .plain shelf with lifecycle := .started }
      { Channel.plain with active := true } .up with pipeline := .running }

theorem entwinedNode_trades (name : String) : (entwinedNode name).Trades where
  started := rfl
  plain := rfl
  crashless := fun _ => Guard.crashless_none
  running := rfl
  producer_eq := rfl
  consumer_eq := rfl
  carries := ⟨rfl, rfl, rfl⟩

theorem entwinedNode_listens (name cache : String) :
    (entwinedNode name).core.frame.ears cache ≤ 1 := by
  have linked : (entwinedNode name).core.frame.linked = true := rfl
  have listening : (entwinedNode name).core.frame.listeners cache =
      if cache = "names" ∨ cache = "users" then some [⟨1, .bus⟩] else none := by
    simp only [entwinedNode, Node.new, Core.frame, Core.new, CacheShelf.store?_setStore,
      Store.listen, Store.ofName]
    by_cases second : cache = "names"
    · simp [second]
    · by_cases first : cache = "users"
      · simp [first]
      · simp only [first, second, ↓reduceIte, or_self]
        rfl
  rw [Frame.ears, if_pos linked, listening]
  split
  · exact Nat.le_refl 1
  · exact Nat.zero_le 1

/-- Two of these nodes on a hub. -/
def entwined : Cluster :=
  { ofNodes [entwinedNode "first", entwinedNode "second"] ⟨0, 0⟩ with
    hub := (Hub.empty.subscribe (.node 0) (.node 0)).subscribe (.node 1) (.node 1) }

theorem eq_of_entwined {index : Nat} {node : Node} (found : entwined.node? index = some node) :
    ∃ name, node = entwinedNode name := by
  have among : node = entwinedNode "first" ∨ node = entwinedNode "second" := eq_of_couple found
  rcases among with same | same
  · exact ⟨_, same⟩
  · exact ⟨_, same⟩

theorem entwined_trading : entwined.Trading :=
  couple_trading (entwinedNode_trades "first") (entwinedNode_trades "second")

theorem entwined_listening : entwined.Listening := by
  intro index node found cache
  obtain ⟨name, rfl⟩ := eq_of_entwined found
  exact entwinedNode_listens name cache

/-- One node clears a cache, and the other clears both. -/
theorem even_of_traffic_entwined : ∃ account after, Traffic entwined account after ∧
    (account.announced.map fun entry => (entry.1, entry.2.cache, entry.2.kind)) =
      [(0, "users", .evicted)] ∧
    after.Idle ∧ account.handed.length = 1 ∧
    (∃ threads final, after.follow? threads = some final ∧ final.Idle) ∧
      account.handed <+: entwined.posts account.announced ∧
        (after.Idle → account.handed = entwined.posts account.announced) ∧
          ∀ index node, entwined.node? index = some node →
            ∃ changed, after.node? index = some changed ∧
              entwined.Even account index node changed ∧
                (after.Idle →
                  changed.channel.sent = node.channel.sent +
                    (logOf index account.announced).countP node.core.frame.propagates ∧
                  logOf index account.taken =
                    logBeside index (entwined.posts account.announced)) := by
  have idle : entwined.Idle := idle_of_callers rfl
  have numbered : entwined.Numbered := numbered_of_callers rfl
  obtain ⟨after, carried, rest⟩ := (Option.any_eq_true _ _).1 (show
    (((entwined.request? (.operate 0 "users" true (.clear .localNode))).bind
      fun begun => begun.1.follow? (List.replicate 5 (.caller begun.2))).any fun after =>
        after.callers.all (·.tasks.isEmpty)) = true
    by decide +kernel)
  simp only [List.all_eq_true, List.isEmpty_iff] at rest
  obtain ⟨⟨begun, ticket⟩, asked, followed⟩ := Option.bind_eq_some_iff.1 carried
  obtain ⟨account, traffic, announced⟩ := (Traffic.refl.ask idle asked).follow _ followed
  have even := even_of_traffic traffic entwined_trading entwined_listening idle numbered
  refine ⟨account, after, traffic, ?_, rest, ?_, even⟩
  · rw [announced]
    decide +kernel
  · rw [even.2.2.1 rest, announced]
    decide +kernel

end CacheSync.Cluster
