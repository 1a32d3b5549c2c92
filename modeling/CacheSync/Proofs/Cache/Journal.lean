import CacheSync.Proofs.Cache.Outcomes

/-!
# The journal of a store

A listener receives the events of a store one after the other.  `Event.replay` folds what it has
received over an empty cache and knows no more than the events tell.  Whatever is asked of a store
that was empty at first, the replay is what the store holds; and the event and the answer of a
call are what the call makes of the replay.
-/

namespace CacheSync

open Json (Value)

/-! ## Replays -/

namespace Event

/-- What an event makes of the contents before it: a key takes its new value or is dropped, or all
keys are. -/
def amend (event : Event) (held : Contents) : Contents :=
  match event.key, event.kind with
  | .all, _ => fun _ => none
  | .entry key, .added => fun other => if other = key then event.new else held other
  | .entry key, .updated => fun other => if other = key then event.new else held other
  | .entry key, .evicted => fun other => if other = key then none else held other
  | .entry key, .expired => fun other => if other = key then none else held other

def amendAll (events : List Event) (held : Contents) : Contents :=
  events.foldl (fun held event => event.amend held) held

/-- The contents that events tell of, the earliest first. -/
def replay (events : List Event) : Contents :=
  amendAll events fun _ => none

theorem replay_append (events more : List Event) :
    replay (events ++ more) = amendAll more (replay events) :=
  List.foldl_append

variable {event : Event} {before after : Contents} {alteration : Alteration} {key : String}

theorem new_eq_none_of_gone (about : event.key = .entry key) (tells : event.Tells before after)
    (gone : after key = none) : event.new = none := by
  rw [← tells.after_of_concerns (Or.inr about), gone]

/-- An event that tells of an alteration, and of its kind, is all there is to know of it. -/
theorem amend_of_told (tells : event.Tells before after)
    (describes : alteration.Describes before after)
    (told : alteration.told? = some (event.key, event.kind)) : event.amend before = after := by
  cases alteration with
  | nothing => cases told
  | cleared =>
      obtain ⟨about, _⟩ := Prod.mk.inj (Option.some.inj told)
      funext key
      rw [amend, ← about, describes key]
  | added key =>
      obtain ⟨about, kind⟩ := Prod.mk.inj (Option.some.inj told)
      funext other
      rw [amend, ← about, ← kind]
      exact (((tells_entry about.symm).1 tells).2 other).symm
  | replaced key =>
      obtain ⟨about, kind⟩ := Prod.mk.inj (Option.some.inj told)
      funext other
      rw [amend, ← about, ← kind]
      exact (((tells_entry about.symm).1 tells).2 other).symm
  | removed key =>
      obtain ⟨about, kind⟩ := Prod.mk.inj (Option.some.inj told)
      funext other
      rw [amend, ← about, ← kind, ((tells_entry about.symm).1 tells).2 other,
        new_eq_none_of_gone about.symm tells describes.2.1]
  | expired key =>
      obtain ⟨about, kind⟩ := Prod.mk.inj (Option.some.inj told)
      funext other
      rw [amend, ← about, ← kind, ((tells_entry about.symm).1 tells).2 other,
        new_eq_none_of_gone about.symm tells describes.2.1]

/-- Only an addition finds nothing under its key. -/
theorem before_eq_none_iff (describes : alteration.Describes before after)
    (told : alteration.told? = some (.entry key, event.kind)) :
    before key = none ↔ event.kind = .added := by
  have present {held : Option Value} (some : held.isSome = true) (kind : event.kind ≠ .added) :
      held = none ↔ event.kind = .added :=
    iff_of_false (Option.isSome_iff_ne_none.1 some) kind
  cases alteration with
  | nothing => cases told
  | cleared => cases told
  | added other =>
      obtain ⟨about, kind⟩ := Prod.mk.inj (Option.some.inj told)
      cases about
      exact iff_of_true describes.1 kind.symm
  | replaced other =>
      obtain ⟨about, kind⟩ := Prod.mk.inj (Option.some.inj told)
      cases about
      exact present describes.1 (kind ▸ nofun)
  | removed other =>
      obtain ⟨about, kind⟩ := Prod.mk.inj (Option.some.inj told)
      cases about
      exact present describes.1 (kind ▸ nofun)
  | expired other =>
      obtain ⟨about, kind⟩ := Prod.mk.inj (Option.some.inj told)
      cases about
      exact present describes.1 (kind ▸ nofun)

end Event

/-! ## What a call makes of the contents -/

namespace StoreCall

/-- Whether a call stores a value in a cache with these contents. -/
def stores (call : StoreCall) (held : Contents) : Bool :=
  match call with
  | .put _ _ _ => true
  | .putIfAbsent key _ _ => (held key).isNone
  | .merge key value remap _ => (Store.joined value remap (held key)).isSome
  | .computeIfAbsent key _ _ => (held key).isNone
  | .evict _ _ => false
  | .remove _ _ => false
  | .clear _ => false
  | .expire _ => false

/-- What a key holds after a call about it, from what it held before. -/
def leaves (call : StoreCall) (current : Option Value) : Option Value :=
  match call with
  | .put _ value _ => some value
  | .putIfAbsent _ value _ => current.or (some value)
  | .merge _ value remap _ => Store.joined value remap current
  | .computeIfAbsent key compute _ => current.or (some (compute key))
  | .evict _ _ => none
  | .remove _ _ => none
  | .clear _ => none
  | .expire _ => none

/-- The contents after a call, from the contents before it. -/
def result (call : StoreCall) (held : Contents) : Contents :=
  match call.key with
  | .all => fun _ => none
  | .entry key => fun other => if other = key then call.leaves (held key) else held other

/-- The answer of a call is what its key held before, or what it holds now. -/
def Answers (call : StoreCall) (before after : Contents) (answer : StoreAnswer) : Prop :=
  match call with
  | .put key _ _ => answer = .value (before key)
  | .putIfAbsent key _ _ => answer = .value (before key)
  | .evict _ _ => answer = .done
  | .remove key _ => answer = .value (before key)
  | .clear _ => answer = .done
  | .merge key _ _ _ => answer = .value (after key)
  | .computeIfAbsent key _ _ => ∃ value, after key = some value ∧
      answer = .computed value (if (before key).isSome then 0 else 1)
  | .expire key => answer = .value (before key)

variable (call : StoreCall) (held : Contents)

theorem stores_iff : call.stores held = true ↔
    ∃ key, call.alteration held = .added key ∨ call.alteration held = .replaced key := by
  cases call with
  | put key value origin =>
      cases current : held key <;> simp [stores, alteration, current]
  | putIfAbsent key value origin =>
      cases current : held key <;> simp [stores, alteration, current]
  | computeIfAbsent key compute origin =>
      cases current : held key <;> simp [stores, alteration, current]
  | evict key origin => cases current : held key <;> simp [stores, alteration, current]
  | remove key origin => cases current : held key <;> simp [stores, alteration, current]
  | expire key => cases current : held key <;> simp [stores, alteration, current]
  | clear origin => simp [stores, alteration]
  | merge key value remap origin =>
      cases current : held key with
      | none => simp [stores, alteration, Store.joined, current]
      | some old =>
          cases next : remap old value <;>
            simp [stores, alteration, Store.joined, current, next]

theorem alteration_eq_cleared_iff : call.alteration held = .cleared ↔ call.key = .all := by
  cases call with
  | clear origin => simp [alteration, key]
  | merge one value remap origin =>
      cases current : held one with
      | none => simp [alteration, key, current]
      | some old => cases next : remap old value <;> simp [alteration, key, current, next]
  | put one value origin => cases current : held one <;> simp [alteration, key, current]
  | putIfAbsent one value origin => cases current : held one <;> simp [alteration, key, current]
  | computeIfAbsent one compute origin =>
      cases current : held one <;> simp [alteration, key, current]
  | evict one origin => cases current : held one <;> simp [alteration, key, current]
  | remove one origin => cases current : held one <;> simp [alteration, key, current]
  | expire one => cases current : held one <;> simp [alteration, key, current]

/-- A call has nothing to tell exactly if it neither stores nor clears and nothing is missing
afterwards. -/
theorem alteration_eq_nothing_iff {after : Contents}
    (describes : (call.alteration held).Describes held after) :
    call.alteration held = .nothing ↔
      call.key ≠ .all ∧ call.stores held = false ∧ after = held := by
  have changed {key : String} (present : (held key).isSome = true) (gone : after key = none) :
      after ≠ held := by
    rintro rfl
    rw [gone] at present
    cases present
  have cleared := call.alteration_eq_cleared_iff held
  have stored := call.stores_iff held
  generalize call.alteration held = alteration at *
  cases alteration with
  | nothing =>
      have keyed : call.key ≠ .all := fun all => nomatch cleared.2 all
      have idle : call.stores held = false := by
        rw [← Bool.not_eq_true, stored]
        rintro ⟨_, same | same⟩ <;> cases same
      exact iff_of_true rfl ⟨keyed, idle, describes⟩
  | cleared => exact iff_of_false nofun fun idle => idle.1 (cleared.1 rfl)
  | added key =>
      have stores := stored.2 ⟨key, Or.inl rfl⟩
      exact iff_of_false nofun fun idle => Bool.false_ne_true (idle.2.1.symm.trans stores)
  | replaced key =>
      have stores := stored.2 ⟨key, Or.inr rfl⟩
      exact iff_of_false nofun fun idle => Bool.false_ne_true (idle.2.1.symm.trans stores)
  | removed key =>
      exact iff_of_false nofun fun idle => changed describes.1 describes.2.1 idle.2.2
  | expired key =>
      exact iff_of_false nofun fun idle => changed describes.1 describes.2.1 idle.2.2

end StoreCall

namespace Store

variable (store : Store) (now : Moment)

theorem get?_dropAs (kind : EventKind) (key : String) (origin : Origin) (other : String) :
    (dropAs kind store key origin now).store.get? other =
      if other = key then none else store.get? other := by
  unfold dropAs
  cases held : store.get? key with
  | some old => exact store.get?_unset key other
  | none =>
      by_cases same : other = key
      · rw [if_pos same, same, held]
      · rw [if_neg same]

theorem answer_dropAs (kind : EventKind) (key : String) (origin : Origin) :
    (dropAs kind store key origin now).answer = store.get? key := by
  unfold dropAs
  cases held : store.get? key with
  | none => rfl
  | some old => rfl

/-- A store does with a call what the call makes of its contents. -/
theorem get?_perform (call : StoreCall) :
    (store.perform call now).store.get? = call.result store.get? := by
  funext other
  cases call with
  | put key value origin => exact store.get?_set key value other
  | clear origin => rfl
  | evict key origin => exact store.get?_evict key origin now other
  | remove key origin => exact store.get?_dropAs now .evicted key origin other
  | expire key => exact store.get?_dropAs now .expired key .localNode other
  | merge key value remap origin => exact store.get?_merge key origin now value remap other
  | putIfAbsent key value origin =>
      simp only [perform, Change.map, putIfAbsent, StoreCall.result, StoreCall.key,
        StoreCall.leaves]
      cases held : store.get? key with
      | none => simpa using store.get?_set key value other
      | some current =>
          by_cases same : other = key
          · simp [same, held]
          · simp [same]
  | computeIfAbsent key compute origin =>
      simp only [perform, Change.map, computeIfAbsent, StoreCall.result, StoreCall.key,
        StoreCall.leaves]
      cases held : store.get? key with
      | none => simpa using store.get?_set key (compute key) other
      | some current =>
          by_cases same : other = key
          · simp [same, held]
          · simp [same]

theorem answers_perform (call : StoreCall) :
    call.Answers store.get? (store.perform call now).store.get?
      (store.perform call now).answer := by
  cases call with
  | put key value origin => rfl
  | clear origin => rfl
  | evict key origin => rfl
  | remove key origin =>
      exact congrArg StoreAnswer.value (store.answer_dropAs now .evicted key origin)
  | expire key =>
      exact congrArg StoreAnswer.value (store.answer_dropAs now .expired key .localNode)
  | putIfAbsent key value origin =>
      simp only [StoreCall.Answers, perform, Change.map, putIfAbsent]
      cases held : store.get? key with
      | none => rfl
      | some current => rfl
  | merge key value remap origin =>
      have after := store.get?_merge key origin now value remap key
      rw [if_pos rfl, ← store.answer_merge key origin now value remap] at after
      exact congrArg StoreAnswer.value after.symm
  | computeIfAbsent key compute origin =>
      simp only [StoreCall.Answers, perform, Change.map, computeIfAbsent]
      cases held : store.get? key with
      | none => exact ⟨compute key, by rw [get?_set, if_pos rfl], rfl⟩
      | some current => exact ⟨current, held, rfl⟩

end Store

/-! ## What a listener receives -/

/-- A store has one listener of an identifier. -/
def Store.Tells (store : Store) (listener : Nat) : Prop :=
  store.listeners.countP (·.id = listener) = 1

theorem Change.received_eq {α : Type} {change : Change α} {listener : Nat}
    (listening : change.store.Tells listener) :
    change.received listener = change.event.toList := by
  unfold received deliveries
  cases change.event with
  | none => rfl
  | some event =>
      have one : (change.store.listeners.filter (·.id = listener)).length = 1 := by
        rw [← List.countP_eq_length_filter]
        exact listening
      obtain ⟨sole, alone⟩ := List.length_eq_one_iff.1 one
      have kept : change.store.listeners.filter
          ((fun sent : Listener × Event => decide (sent.1.id = listener)) ∘
            fun listener => (listener, event)) = [sole] := alone
      rw [Option.toList_some, List.flatMap_singleton, List.filter_map, kept]
      rfl

/-- What a listener learns of a call: its event and its answer, against the contents that the
listener knew of. -/
structure Change.Faithful (change : Change StoreAnswer) (call : StoreCall) (listener : Nat)
    (held : Contents) : Prop where
  result_eq : change.store.get? = call.result held
  amends : Event.amendAll (change.received listener) held = change.store.get?
  once : (change.received listener).length ≤ 1
  silent : change.received listener = [] ↔
    call.key ≠ .all ∧ call.stores held = false ∧ change.store.get? = held
  told : ∀ event ∈ change.received listener, event.key = call.key ∧ event.origin = call.origin
  old : ∀ event ∈ change.received listener, ∀ key, event.key = .entry key →
    event.old = held key ∧ (event.old = none ↔ event.kind = .added)
  answers : call.Answers held change.store.get? change.answer

theorem Store.faithful_perform {store : Store} {listener : Nat} (listening : store.Tells listener)
    (call : StoreCall) (now : Moment) :
    (store.perform call now).Faithful call listener store.get? := by
  have sound := store.sound_perform now call
  have alters := store.alters_perform now call
  have received : (store.perform call now).received listener =
      (store.perform call now).event.toList := by
    apply Change.received_eq
    unfold Tells
    rw [sound.listeners_eq]
    exact listening
  have nothing := call.alteration_eq_nothing_iff store.get? alters.describes
  refine ⟨store.get?_perform now call, ?_, ?_, ?_, ?_, ?_, store.answers_perform now call⟩
  all_goals rw [received]
  case refine_1 =>
    cases emitted : (store.perform call now).event with
    | none => exact (sound.silent emitted).symm
    | some event =>
        have told := alters.told
        rw [emitted] at told
        obtain ⟨_, _, _, _, tells⟩ := sound.told event emitted
        exact Event.amend_of_told tells alters.describes told.symm
  case refine_2 =>
    cases (store.perform call now).event with
    | none => exact Nat.zero_le 1
    | some event => exact Nat.le_refl 1
  case refine_3 =>
    rw [← nothing, Option.toList_eq_nil_iff]
    have told := alters.told
    constructor
    · intro silent
      rw [silent] at told
      generalize call.alteration store.get? = alteration at told
      cases alteration <;> first | rfl | cases told
    · intro idle
      rw [idle] at told
      exact Option.map_eq_none_iff.1 told
  case refine_4 =>
    intro event member
    obtain ⟨_, about, origin, _⟩ := sound.told event (Option.mem_toList.1 member)
    exact ⟨about, origin⟩
  case refine_5 =>
    intro event member key about
    have emitted := Option.mem_toList.1 member
    obtain ⟨_, _, _, _, tells⟩ := sound.told event emitted
    have old := ((Event.tells_entry about).1 tells).1
    have told := alters.told
    rw [emitted, Option.map_some, about] at told
    refine ⟨old, ?_⟩
    rw [old]
    exact Event.before_eq_none_iff alters.describes told.symm

/-! ## Journals -/

namespace Journal

variable {journal : Journal} {listener : Nat}

/-- The journal tells what the store holds, and goes on to do so whatever is called next. -/
structure Faithful (journal : Journal) (listener : Nat) : Prop where
  replay_eq : Event.replay journal.received = journal.store.get?
  next : ∀ call now, (journal.store.perform call now).Faithful call listener
    (Event.replay journal.received)

theorem enter_replay (listening : journal.store.Tells listener)
    (replayed : Event.replay journal.received = journal.store.get?)
    (entry : StoreCall × Moment) :
    (journal.enter listener entry).store.Tells listener ∧
      Event.replay (journal.enter listener entry).received =
        (journal.enter listener entry).store.get? := by
  have faithful := Store.faithful_perform listening entry.1 entry.2
  constructor
  · have kept := (journal.store.sound_perform entry.2 entry.1).listeners_eq
    unfold Store.Tells enter
    rw [kept]
    exact listening
  · unfold enter
    rw [Event.replay_append, replayed]
    exact faithful.amends

theorem enterAll_replay (entries : List (StoreCall × Moment)) :
    ∀ journal : Journal, journal.store.Tells listener →
      Event.replay journal.received = journal.store.get? →
      (journal.enterAll listener entries).store.Tells listener ∧
        Event.replay (journal.enterAll listener entries).received =
          (journal.enterAll listener entries).store.get? := by
  induction entries with
  | nil =>
      intro journal listening replayed
      exact ⟨listening, replayed⟩
  | cons entry rest inductionHypothesis =>
      intro journal listening replayed
      obtain ⟨stillListening, stillReplayed⟩ := enter_replay listening replayed entry
      exact inductionHypothesis (journal.enter listener entry) stillListening stillReplayed

/-- Whatever is asked of a store that was empty when a listener came, the events that the listener
has received replay to what the store holds.  The next event tells what was held before, and the
next answer agrees with the replay. -/
theorem faithful_of_enterAll {store : Store} (listening : store.Tells listener)
    (empty : ∀ key, store.get? key = none) (entries : List (StoreCall × Moment)) :
    ((⟨store, []⟩ : Journal).enterAll listener entries).Faithful listener := by
  have replayed : Event.replay [] = store.get? := funext fun key => (empty key).symm
  obtain ⟨stillListening, stillReplayed⟩ :=
    enterAll_replay entries ⟨store, []⟩ listening replayed
  refine ⟨stillReplayed, ?_⟩
  intro call now
  rw [stillReplayed]
  exact Store.faithful_perform stillListening call now

/-- The second of two listeners follows a value that is put, replaced, and dropped by a merge. -/
theorem faithful_of_enterAll_dropped :
    let store := (((Store.ofName "users").listen .bus).1.listen (.observer "audit")).1
    let entries : List (StoreCall × Moment) :=
      [(.put "ada" (.text "countess") .localNode, 1), (.put "ada" (.text "lady") .remoteNode, 2),
        (.merge "ada" (.text "count") (fun _ _ => none) .localNode, 3), (.expire "ada", 4)]
    let journal := (⟨store, []⟩ : Journal).enterAll 2 entries
    store.Tells 2 ∧ (∀ key, store.get? key = none) ∧
      journal.received.map (·.kind) = [.added, .updated, .evicted] ∧
      Event.replay journal.received "ada" = none ∧
      ((journal.store.perform (.put "ada" (.text "x") .localNode) 5).received 2).length ≤ 1 := by
  intro store entries journal
  have listening : store.Tells 2 := rfl
  have empty : ∀ key, store.get? key = none := fun _ => rfl
  have faithful := faithful_of_enterAll listening empty entries
  refine ⟨listening, empty, by decide +kernel, ?_, (faithful.next _ _).once⟩
  rw [faithful.replay_eq]
  decide +kernel

end Journal
end CacheSync
