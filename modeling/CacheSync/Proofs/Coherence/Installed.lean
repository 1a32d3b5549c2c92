import CacheSync.Proofs.Cluster.Traffic
import CacheSync.Proofs.Coherence.Replicated
import CacheSync.Proofs.Coherence.Route

/-!
# Writes that are installed

A node writes a value under a key of a replicated cache, and all nodes held the same before.  Once
the call is over, the other nodes hold the value too, and nothing else has changed anywhere.  The
exception is a JSON null: a message brings it across as no value, so other nodes drop the entry
when a null is written, and also when the entry that a write replaces was a null.
-/

namespace CacheSync

open Json (Value)

/-- What another node holds after a write over what it held before. -/
def Json.Value.installed (value : Value) (before : Option Value) : Option Value :=
  if value.isNull || before.any Value.isNull then none else some value

/-- A value is installed exactly if neither it nor what it replaces is a null. -/
theorem Json.Value.installed_eq_some_iff {value : Value} {before : Option Value} :
    value.installed before = some value ↔
      value.isNull = false ∧ before.any Value.isNull = false := by
  unfold installed
  cases value.isNull <;> cases before.any Value.isNull <;> simp

namespace Guard

variable {event : Event} {cache key : String} {value : Value} {held : Contents}

/-- A value that replaces a null does not find what it expects, for the null has not come across. -/
theorem applied_of_old_null (one : event.key = .entry key) (new : event.delivered.new = some value)
    {old : Value} (expected : event.old = some old) (current : held key = some old)
    (isNull : old.isNull = true) :
    Guard.none.applied .replicated event.delivered held key = .none := by
  have lost : event.delivered.old = .none := by
    simp only [Event.delivered, expected, Option.bind_some, Value.delivered?, isNull, ↓reduceIte]
  have deliveredOne : event.delivered.key = .entry key := one
  simp only [applied, deliveredOne, new, allows_none, ↓reduceIte, current, lost, Store.joined,
    takeIfExpected]

/-- A node that holds what was overwritten installs the new value. -/
theorem applied_of_written (sendable : event.Sendable cache) (one : event.key = .entry key)
    (new_eq : event.new = some value) (old_eq : event.old = held key) :
    Guard.none.applied .replicated event.delivered held key = value.installed (held key) := by
  have arrives : event.delivered.new = value.delivered? := by
    simp only [Event.delivered, new_eq, Option.bind_some]
  cases null : value.isNull with
  | true =>
      have deliveredOne : event.delivered.key = .entry key := one
      have lost : event.delivered.new = .none := by
        rw [arrives, Value.delivered?, if_pos null]
      simp only [applied, deliveredOne, lost, dropped, allows_none, ↓reduceIte, Value.installed,
        null, Bool.true_or]
  | false =>
      have kept : event.delivered.new = some value := by
        rw [arrives, Value.delivered?, null]
        rfl
      cases nullBefore : (held key).any Value.isNull with
      | true =>
          obtain ⟨old, before, isNull⟩ := (Option.any_eq_true _ _).1 nullBefore
          rw [applied_of_old_null one kept (old_eq.trans before) before isNull]
          simp only [Value.installed, nullBefore, Bool.or_true, ↓reduceIte]
      | false =>
          have nullFree : event.isNullFree = true := by
            rw [Event.isNullFree, new_eq, old_eq, Option.all_some, null]
            cases before : held key with
            | none => rfl
            | some old =>
                rw [before, Option.any_some] at nullBefore
                rw [Option.all_some, nullBefore]
                rfl
          obtain ⟨faithfulOld, faithfulNew⟩ := Event.delivered_of_isNullFree nullFree
          have faithful : event.Faithful cache := ⟨sendable, ⟨key, one⟩, faithfulOld, faithfulNew⟩
          rw [applied_of_expected faithful one old_eq, new_eq,
            Value.installed_eq_some_iff.2 ⟨null, nullBefore⟩]

end Guard

/-- A node has written a value and tells its bus so. -/
structure Core.Operated.Writes (operated : Core.Operated) (core : Core) (cache key : String)
    (value : Value) (now : Moment) (event : Event) : Prop where
  frame_eq : operated.core.frame = core.frame
  heard_eq : operated.heard = [event]
  of : event.cache = cache
  one : event.key = .entry key
  made : event.origin = .localNode
  time_eq : event.time = now
  old_eq : event.old = core.held cache key
  new_eq : event.new = some value
  held_eq : ∀ other entry, operated.core.held other entry =
    if other = cache ∧ entry = key then some value else core.held other entry

namespace Core

variable {core : Core} {cache : String} {config : CacheConfig}

theorem emitted_put (present : core.frame.has cache = true) (key : String) (value : Value)
    (now : Moment) : ∃ event, core.emitted cache (.put key value .localNode) now = [event] ∧
      event.new = some value := by
  rw [has_frame, Option.isSome_iff_exists] at present
  obtain ⟨store, found⟩ := present
  rw [emitted, found]
  exact ⟨_, rfl, rfl⟩

theorem operate_writes (replicates : core.frame.Replicates cache config)
    (hears : core.frame.HearsOnce cache) (guarded : Bool) (key : String) (value : Value)
    (clock : Clock) :
    ∃ operated event, core.operate cache guarded (.put key value .localNode) clock = some operated ∧
      operated.Writes core cache key value clock.wall event := by
  obtain ⟨operated, operates, follows⟩ :=
    operate_follows replicates hears guarded (.put key value .localNode) clock
  obtain ⟨event, emitted_eq, new_eq⟩ := emitted_put replicates.present key value clock.wall
  have heard_eq := follows.heard_eq.trans emitted_eq
  rcases follows.told with ⟨silent, _⟩ | ⟨told, heard, of, one, made, time_eq, tells⟩
  · rw [silent] at heard_eq
    cases heard_eq
  · rw [heard_eq] at heard
    obtain rfl := List.singleton_inj.1 heard
    obtain ⟨old_eq, after⟩ := (Event.tells_entry one).1 tells
    refine ⟨operated, event, operates, follows.frame_eq, heard_eq, of, one, made, time_eq, old_eq,
      new_eq, ?_⟩
    intro other entry
    by_cases same : other = cache
    · subst same
      rw [after entry, new_eq]
      simp only [true_and]
    · rw [follows.others_eq other same, if_neg fun both => same both.1]

end Core

namespace Cluster

variable {start cluster after : Cluster} {cache : String} {event : Event} {message : Message}

/-- Every node replicates a cache without comparing times, and is told of its changes once. -/
def Reflecting (cluster : Cluster) (cache : String) : Prop :=
  ∀ {index : Nat} {node : Node}, cluster.node? index = some node → node.Mirrors cache

/-- A node holds what it held until it has taken the message of an event, and then what the event
makes of that. -/
def Installing (start : Cluster) (cache : String) (event : Event) (message : Message) (index : Nat)
    (taken : List Message) (core : Core) : Prop :=
  ∀ node, start.node? index = some node →
    (taken = [] → core.held = node.core.held) ∧
      (taken = [message] → core.held =
        (node.core.frame.apply cache .replicated event.delivered node.core.view).held)

theorem Reflecting.installing_lasting (reflecting : start.Reflecting cache)
    (sendable : event.Sendable cache) (body : message.body = Wire.encode event true) :
    start.Lasting (start.Installing cache event message) where
  stands stands installing node began := by
    rw [stands.held_eq]
    exact installing node began
  receive {index taken core node} began frame_eq installing latest clock other began' := by
    obtain rfl := Option.some.inj (began.symm.trans began')
    refine ⟨fun none => absurd none (List.append_ne_nil_of_right_ne_nil _ (List.cons_ne_nil _ _)),
      fun one => ?_⟩
    have split : taken ++ [latest] = [] ++ [message] := one
    obtain ⟨rfl, last⟩ := List.append_inj' split rfl
    obtain rfl := List.singleton_inj.1 last
    obtain ⟨config, replicates, uncompared⟩ := (reflecting began).mirrors
    have read : Wire.decode latest.body = .ok event.delivered := by
      rw [body]
      exact Wire.decode_encode sendable.dated fun _ => sendable.portable
    have handled := Core.receive_of_uncompared (frame_eq ▸ replicates) uncompared read sendable.of
      clock
    have held_eq : core.view.held = node.core.view.held := (installing node began).1 rfl
    have contents := congrArg View.held handled.view_eq
    rw [frame_eq] at contents
    simp only [Frame.apply, held_eq] at contents
    exact contents

end Cluster

/-! ## A write -/

theorem Frame.message?_of_replicates {frame : Frame} {cache : String} {config : CacheConfig}
    (replicates : frame.Replicates cache config) {event : Event} (of : event.cache = cache)
    (made : event.origin = .localNode) :
    frame.message? event = some ⟨event.hash, Wire.encode event true⟩ := by
  have outbound : frame.outbound? event = some config := by
    rw [Frame.outbound?, if_pos ⟨replicates.started, made⟩, of, replicates.configured,
      Option.filter_some, replicates.replicated]
    rfl
  rw [Frame.message?, outbound, Option.map_some, replicates.replicated]
  rfl

namespace Cluster

variable {cluster begun after : Cluster} {cache key : String} {value : Value} {event : Event}

/-- A write that has begun: the node that was asked holds the value, and its message is owed to all
others. -/
structure Wrote (cluster : Cluster) (index : Nat) (cache key : String) (value : Value)
    (event : Event) (begun : Cluster) : Prop where
  trading : begun.Trading
  reflecting : begun.Reflecting cache
  sendable : event.Sendable cache
  nodes : ∀ other node, cluster.node? other = some node → ∃ changed,
    begun.node? other = some changed ∧
      ∀ name entry, changed.core.held name entry =
        if other = index ∧ name = cache ∧ entry = key then some value
        else node.core.held name entry
  one : event.key = .entry key
  new_eq : event.new = some value
  old_eq : ∀ node, cluster.node? index = some node → event.old = node.core.held cache key
  asked : ∃ node, begun.node? index = some node ∧
    node.core.frame.message? event = some ⟨event.hash, Wire.encode event true⟩
  posts_eq : begun.posts [(index, event)] = [(index, ⟨event.hash, Wire.encode event true⟩)]
  busy : begun.Busy cluster.nextTicket [.hear index event]

theorem Reflecting.of_set (reflecting : cluster.Reflecting cache) {index : Nat} {node : Node}
    {core : Core} (found : cluster.node? index = some node)
    (nodes_eq : begun.nodes = cluster.nodes.set index { node with core := core })
    (frame_eq : core.frame = node.core.frame) : begun.Reflecting cache := by
  intro other changed held
  rw [node?_of_set found nodes_eq] at held
  split at held
  next =>
    injection held with this
    subst this
    have mirrors := reflecting found
    exact mirrors.of_frame frame_eq rfl mirrors.carries
  next => exact reflecting held

/-- Only the node that was asked holds something else, and only of the key. -/
theorem held_of_writes {index : Nat} {node : Node} {operated : Core.Operated} {now : Moment}
    (writes : operated.Writes node.core cache key value now event)
    (found : cluster.node? index = some node)
    (nodes_eq : begun.nodes = cluster.nodes.set index { node with core := operated.core })
    {other : Nat} {before : Node} (began : cluster.node? other = some before) :
    ∃ changed, begun.node? other = some changed ∧
      ∀ name entry, changed.core.held name entry =
        if other = index ∧ name = cache ∧ entry = key then some value
        else before.core.held name entry := by
  rw [node?_of_set found nodes_eq]
  by_cases same : other = index
  · subst same
    obtain rfl := Option.some.inj (found.symm.trans began)
    refine ⟨_, if_pos rfl, fun name entry => ?_⟩
    simp only [writes.held_eq, true_and]
  · refine ⟨before, ?_, fun name entry => ?_⟩
    · rw [if_neg same]
      exact began
    · rw [if_neg fun both => same both.1]

theorem wrote_of_request? (trading : cluster.Trading) (reflecting : cluster.Reflecting cache)
    (idle : cluster.Idle) (numbered : cluster.Numbered)
    (dated : (cluster.pass stepTime).clock.wall.InCalendar) {index : Nat}
    (inRange : index < cluster.nodes.length) (guarded : Bool) (key : String)
    (portable : value.isPortable = true)
    (portableBefore : ∀ node, cluster.node? index = some node →
      (node.core.held cache key).all Value.isPortable = true) :
    ∃ begun ticket event, cluster.request?
      (.operate index cache guarded (.put key value .localNode)) = some (begun, ticket) ∧
        cluster.Wrote index cache key value event begun := by
  have found : cluster.node? index = some cluster.nodes[index] := List.getElem?_eq_getElem inRange
  generalize cluster.nodes[index] = node at found
  have mirrors := reflecting found
  obtain ⟨config, replicates, uncompared⟩ := mirrors.mirrors
  obtain ⟨operated, event, operates, writes⟩ :=
    Core.operate_writes replicates mirrors.hears guarded key value (cluster.pass stepTime).clock
  obtain ⟨begun, ticket, asked⟩ := request?_operate found operates
  refine ⟨begun, ticket, event, asked, ?_⟩
  obtain ⟨node', operated', found', operates', nodes_eq, hub_eq, reply, calls_eq⟩ :=
    of_request? asked
  obtain rfl := Option.some.inj (found.symm.trans found')
  obtain rfl := Option.some.inj (operates.symm.trans operates')
  have here : begun.node? index = some { node with core := operated.core } := by
    rw [node?_of_set found nodes_eq, if_pos rfl]
  have spoken : operated.core.frame.message? event =
      some ⟨event.hash, Wire.encode event true⟩ := by
    rw [writes.frame_eq]
    exact Frame.message?_of_replicates replicates writes.of writes.made
  have hears : operated.core.frame.ears event.cache = 1 := by
    rw [writes.frame_eq, writes.of]
    exact Frame.ears_of_hearsOnce mirrors.hears
  have sendable : event.Sendable cache := by
    refine ⟨writes.of, writes.made, ?_, writes.time_eq ▸ dated⟩
    rw [Event.isPortable, writes.old_eq, writes.new_eq, portableBefore node found,
      Option.all_some, portable]
    rfl
  have busy := idle.busy numbered calls_eq
  rw [writes.heard_eq] at busy
  exact
    { trading := trading.setCore found nodes_eq hub_eq writes.frame_eq
      reflecting := Reflecting.of_set reflecting found nodes_eq writes.frame_eq
      sendable := sendable
      nodes := fun _ _ began => held_of_writes writes found nodes_eq began
      one := writes.one
      new_eq := writes.new_eq
      old_eq := fun _ began => Option.some.inj (found.symm.trans began) ▸ writes.old_eq
      asked := ⟨_, here, spoken⟩
      posts_eq := by
        rw [posts_singleton, post?, here, Option.bind_some, hears, if_pos Nat.zero_lt_one, spoken]
        rfl
      busy := busy }

theorem Wrote.lasting {index : Nat} (wrote : cluster.Wrote index cache key value event begun) :
    begun.Lasting (begun.Installing cache event ⟨event.hash, Wire.encode event true⟩) :=
  Reflecting.installing_lasting wrote.reflecting wrote.sendable rfl

/-- The books of a write that has begun: its message is owed. -/
theorem Wrote.books {index : Nat} (wrote : cluster.Wrote index cache key value event begun) :
    begun.Books (begun.Installing cache event ⟨event.hash, Wire.encode event true⟩)
      ⟨[(index, event)], [], []⟩ begun cluster.nextTicket [.hear index event] where
  ledger := by
    refine .refl wrote.trading ?_
    intro other node found before began
    obtain rfl := Option.some.inj (found.symm.trans began)
    refine ⟨fun _ => rfl, fun none => ?_⟩
    cases none
  busy := wrote.busy
  progress := by
    obtain ⟨node, found, spoken⟩ := wrote.asked
    have owing : (node.core.frame.message? event).toList.map (index, ·) =
        begun.posts [(index, event)] := by
      rw [spoken, wrote.posts_eq]
      rfl
    exact ⟨_, .errand found (.hear event), owing, fun _ _ => by rw [← owing]; rfl⟩

/-- A node that takes the message of a write installs the value, and changes nothing else. -/
theorem Wrote.installs {index : Nat} (wrote : cluster.Wrote index cache key value event begun)
    {core : Core} (mirrors : core.frame.Mirrors cache)
    (expected : event.old = core.held cache key) (name entry : String) :
    (core.frame.apply cache .replicated event.delivered core.view).held name entry =
      if name = cache ∧ entry = key then value.installed (core.held cache key)
      else core.held name entry := by
  obtain ⟨config, replicates, _⟩ := mirrors
  rw [Core.held_apply_of_replicates replicates]
  by_cases same : name = cache
  · subst same
    rw [if_pos rfl]
    by_cases here : entry = key
    · subst here
      rw [if_pos ⟨rfl, rfl⟩]
      exact Guard.applied_of_written wrote.sendable wrote.one wrote.new_eq expected
    · rw [if_neg fun both => here both.2, Guard.applied_delivered_of_not_concerns]
      · rfl
      · rw [Event.concerns_entry wrote.one]
        exact here
  · rw [if_neg same, if_neg fun both => same both.1]
    rfl

/-- Once the call is over, every node has what it is to have. -/
theorem Wrote.held_eq {index : Nat} (wrote : cluster.Wrote index cache key value event begun)
    {events : List Event} {final : Cluster} (run : Run cache (fun _ _ => False) begun events final)
    (rest : final.Idle) {other : Nat} {node : Node} (began : cluster.node? other = some node)
    (expected : event.old = node.core.held cache key) :
    ∃ changed, final.node? other = some changed ∧ ∀ name entry, changed.core.held name entry =
      if name = cache ∧ entry = key then
        if other = index then some value else value.installed (node.core.held cache key)
      else node.core.held name entry := by
  obtain ⟨middle, found, contents⟩ := wrote.nodes other node began
  obtain ⟨changed, there, installing⟩ := Books.kept_of_run wrote.lasting run wrote.books rest found
  have kept := installing middle found
  rw [wrote.posts_eq, logBeside_singleton] at kept
  refine ⟨changed, there, fun name entry => ?_⟩
  by_cases same : other = index
  · subst same
    rw [if_pos rfl] at kept
    rw [kept.1 rfl, contents]
    simp only [true_and, ↓reduceIte]
  · rw [if_neg (Ne.symm same)] at kept
    have before : middle.core.held = node.core.held := by
      funext name entry
      rw [contents, if_neg fun both => same both.1]
    rw [kept.2 rfl, wrote.installs (wrote.reflecting found).mirrors (before ▸ expected), before,
      if_neg same]

/-- A write comes to its end, whatever else goes on.  Then the node that was asked holds the value,
every other node has installed it, and nothing else has changed on any node. -/
theorem installed_of_put (trading : cluster.Trading) (reflecting : cluster.Reflecting cache)
    (idle : cluster.Idle) (numbered : cluster.Numbered)
    (dated : (cluster.pass stepTime).clock.wall.InCalendar) {index : Nat}
    (inRange : index < cluster.nodes.length) (guarded : Bool) (key : String) {value : Value}
    (portable : value.isPortable = true) {before : Option Value}
    (portableBefore : before.all Value.isPortable = true)
    (agree : ∀ other node, cluster.node? other = some node → node.core.held cache key = before) :
    ∃ begun ticket, cluster.request?
        (.operate index cache guarded (.put key value .localNode)) = some (begun, ticket) ∧
      (∃ final, Run cache (fun _ _ => False) begun [] final ∧ final.Idle) ∧
        ∀ final, Run cache (fun _ _ => False) begun [] final → final.Idle →
          ∀ other node, cluster.node? other = some node → ∃ changed,
            final.node? other = some changed ∧
              ∀ name entry, changed.core.held name entry =
                if name = cache ∧ entry = key then
                  if other = index then some value else value.installed before
                else node.core.held name entry := by
  obtain ⟨begun, ticket, event, asked, wrote⟩ := wrote_of_request? trading reflecting idle numbered
    dated inRange guarded key portable fun node found => (agree index node found) ▸ portableBefore
  refine ⟨begun, ticket, asked, ?_, ?_⟩
  · obtain ⟨threads, final, followed, rest⟩ :=
      Books.finishes wrote.lasting _ wrote.books (Nat.lt_succ_self _)
    exact ⟨final, Run.refl.follow threads followed, rest⟩
  · intro final run rest other node began
    have old_eq := wrote.old_eq _ (List.getElem?_eq_getElem inRange)
    rw [agree index _ (List.getElem?_eq_getElem inRange), ← agree other node began] at old_eq
    rw [← agree other node began]
    exact wrote.held_eq run rest began old_eq

theorem pair_trading : pair.Trading where
  trades found := by
    have direct := pair_mirroring.direct found
    obtain ⟨config, replicates, _⟩ := direct.mirrors
    exact
      { started := replicates.started
        plain := replicates.plain
        crashless := replicates.crashless
        running := direct.running
        producer_eq := direct.producer_eq
        consumer_eq := direct.consumer_eq
        carries := direct.carries }
  diagonal := by decide
  subscribed := by decide

/-- Two nodes that held nothing both hold a text once one of them has put it. -/
theorem installed_of_put_pair :
    ∃ begun ticket final, pair.request?
        (.operate 0 "users" true (.put "ada" (.text "countess") .localNode)) =
          some (begun, ticket) ∧
      Run "users" (fun _ _ => False) begun [] final ∧ final.Idle ∧
        ∀ other node, pair.node? other = some node → ∃ changed,
          final.node? other = some changed ∧
            changed.core.held "users" "ada" = some (.text "countess") := by
  have idle : pair.Idle := idle_of_callers rfl
  have numbered : pair.Numbered := numbered_of_callers rfl
  have empty : ∀ other node, pair.node? other = some node →
      node.core.held "users" "ada" = none := by
    intro other node found
    obtain ⟨name, rfl⟩ := eq_sample_of_pair found
    rfl
  obtain ⟨begun, ticket, asked, ⟨final, run, rest⟩, holds⟩ :=
    installed_of_put pair_trading (fun found => (pair_mirroring.direct found).toMirrors) idle
      numbered (by decide) (show 0 < pair.nodes.length by decide) true "ada"
      (show (Value.text "countess").isPortable = true by decide) rfl empty
  refine ⟨begun, ticket, final, asked, run, rest, fun other node found => ?_⟩
  obtain ⟨changed, there, held⟩ := holds final run rest other node found
  have present : (Value.text "countess").installed none = some (.text "countess") :=
    Value.installed_eq_some_iff.2 ⟨rfl, rfl⟩
  refine ⟨changed, there, ?_⟩
  rw [held, if_pos ⟨rfl, rfl⟩, present, ite_self]

/-- Two nodes held nothing, and one of them puts a null.  The other still holds nothing then. -/
theorem not_installed_of_null :
    ∃ begun ticket final peer,
      pair.request? (.operate 0 "users" true (.put "ada" .null .localNode)) =
        some (begun, ticket) ∧
      Run "users" (fun _ _ => False) begun [] final ∧ final.Idle ∧
        final.node? 1 = some peer ∧ peer.core.held "users" "ada" = none := by
  obtain ⟨peer, carried⟩ := Option.isSome_iff_exists.1 (show
    ((pair.request? (.operate 0 "users" true (.put "ada" .null .localNode))).bind fun begun =>
      (begun.1.follow? (List.replicate 6 (.caller begun.2))).bind fun final =>
        (final.node? 1).filter fun peer =>
          final.callers.all (·.isFinished) && (peer.core.held "users" "ada").isNone).isSome = true
    by decide +kernel)
  obtain ⟨⟨begun, ticket⟩, asked, carried⟩ := Option.bind_eq_some_iff.1 carried
  obtain ⟨final, followed, carried⟩ := Option.bind_eq_some_iff.1 carried
  obtain ⟨found, holds⟩ := Option.filter_eq_some_iff.1 carried
  obtain ⟨finished, nothing⟩ := Bool.and_eq_true_iff.1 holds
  refine ⟨begun, ticket, final, peer, asked, Run.refl.follow _ followed, ?_, found, ?_⟩
  · intro caller member
    exact List.isEmpty_iff.1 (List.all_eq_true.1 finished caller member)
  · exact Option.isNone_iff_eq_none.1 nothing

end Cluster

end CacheSync
