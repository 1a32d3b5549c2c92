import CacheSync.Node.Core
import CacheSync.Node.Sending

/-!
# What may differ in values

Two runs of a node are compared that differ in nothing but the values of its caches.  Of each kind
of data, `Alike` relates what the two runs hold: events whose values may differ, bodies that are
read as such events, stores that hold the same keys, and calls on them that write other values.  An
operation on a store takes alike stores to alike ones, and the events that tell of it are alike.
-/

namespace CacheSync

open Json (Value)

/-- Two related options are both empty or hold related values. -/
theorem eq_none_or_eq_some_of_rel {α β : Type} {related : α → β → Prop} {first : Option α}
    {second : Option β} (rel : Option.Rel related first second) :
    (first = none ∧ second = none) ∨
      ∃ one other, first = some one ∧ second = some other ∧ related one other := by
  cases rel with
  | none => exact Or.inl ⟨rfl, rfl⟩
  | some same => exact Or.inr ⟨_, _, rfl, rfl, same⟩

section Options

variable {α β γ δ : Type} {related : α → β → Prop} {results : γ → δ → Prop}

theorem rel_bind {first : Option α} {second : Option β} (rel : Option.Rel related first second)
    {f : α → Option γ} {g : β → Option δ}
    (after : ∀ one other, related one other → Option.Rel results (f one) (g other)) :
    Option.Rel results (first.bind f) (second.bind g) := by
  cases rel with
  | none => exact .none
  | some same => exact after _ _ same

theorem rel_map {first : Option α} {second : Option β} (rel : Option.Rel related first second)
    {f : α → γ} {g : β → δ} (after : ∀ one other, related one other → results (f one) (g other)) :
    Option.Rel results (first.map f) (second.map g) := by
  cases rel with
  | none => exact .none
  | some same => exact .some (after _ _ same)

theorem map_eq_of_rel {first : Option α} {second : Option β} (rel : Option.Rel related first second)
    {f : α → γ} {g : β → γ} (same : ∀ one other, related one other → g other = f one) :
    second.map g = first.map f := by
  cases rel with
  | none => rfl
  | some alike => exact congrArg some (same _ _ alike)

theorem isSome_eq_of_rel {first : Option α} {second : Option β}
    (rel : Option.Rel related first second) : second.isSome = first.isSome := by
  cases rel <;> rfl

end Options

section Lists

variable {α : Type} {related : α → α → Prop} {first second : List α}

theorem length_eq_of_rel (rel : ∀ place : Nat, Option.Rel related first[place]? second[place]?) :
    second.length = first.length := by
  have none_iff (place : Nat) : first.length ≤ place ↔ second.length ≤ place := by
    rw [← List.getElem?_eq_none_iff, ← List.getElem?_eq_none_iff]
    rcases eq_none_or_eq_some_of_rel (rel place) with ⟨none, absent⟩ | ⟨_, _, present, some, _⟩
    · simp [none, absent]
    · simp [present, some]
  exact Nat.le_antisymm ((none_iff _).1 (Nat.le_refl _)) ((none_iff _).2 (Nat.le_refl _))

theorem rel_set (rel : ∀ place : Nat, Option.Rel related first[place]? second[place]?) (place : Nat)
    {one other : α} (same : related one other) (spot : Nat) :
    Option.Rel related (first.set place one)[spot]? (second.set place other)[spot]? := by
  simp only [List.getElem?_set, length_eq_of_rel rel]
  split
  · split
    · exact .some same
    · exact .none
  · exact rel spot

end Lists

/-- Two outcomes of what may fail: both fail in the same way, or neither does. -/
inductive Outcomes {ε α β : Type} (related : α → β → Prop) : Except ε α → Except ε β → Prop where
  | failed (error : ε) : Outcomes related (.error error) (.error error)
  | done {result : α} {other : β} (same : related result other) :
      Outcomes related (.ok result) (.ok other)

/-! ## Events and bodies -/

/-- Two events that differ at most in their values. -/
def Event.Alike (first second : Event) : Prop :=
  first.withoutValues = second.withoutValues

namespace Event.Alike

variable {first second : Event}

theorem refl (event : Event) : event.Alike event :=
  rfl

theorem exists_eq (alike : first.Alike second) :
    ∃ old new, second = { first with old := old, new := new } :=
  ⟨second.old, second.new, by
    obtain ⟨cache, key, kind, time, origin, old, new⟩ := first
    obtain ⟨_, _, _, _, _, old', new'⟩ := second
    simp_all [Event.Alike, withoutValues]⟩

theorem cache_eq (alike : first.Alike second) : second.cache = first.cache :=
  (congrArg Event.cache alike).symm

theorem key_eq (alike : first.Alike second) : second.key = first.key :=
  (congrArg Event.key alike).symm

theorem kind_eq (alike : first.Alike second) : second.kind = first.kind :=
  (congrArg Event.kind alike).symm

theorem time_eq (alike : first.Alike second) : second.time = first.time :=
  (congrArg Event.time alike).symm

theorem origin_eq (alike : first.Alike second) : second.origin = first.origin :=
  (congrArg Event.origin alike).symm

theorem hash_eq (alike : first.Alike second) : second.hash = first.hash := by
  rw [hash, hash, alike.cache_eq, alike.key_eq]

/-- Alike events have the same message when their values are left out. -/
theorem encode_eq (alike : first.Alike second) (codec : Codec) :
    codec.encode second false = codec.encode first false := by
  have written : Wire.encode second false = Wire.encode first false := by
    simp only [Wire.encode, Bool.false_eq_true, ↓reduceIte, alike.symm]
  cases codec with
  | plain => simp only [Codec.encode, written]
  | refusing key error => simp only [Codec.encode, written, alike.key_eq]

end Event.Alike

/-- What is read in a body but for the values. -/
def Wire.reading (body : List UInt8) : Option Event :=
  (Wire.decode body).toOption.map Event.withoutValues

/-- Two bodies in which the same is read but for the values. -/
def Wire.Alike (first second : List UInt8) : Prop :=
  Wire.reading first = Wire.reading second

/-- Neither of two alike bodies can be read, or both are read as alike events. -/
theorem Wire.Alike.decode {first second : List UInt8} (alike : Wire.Alike first second) :
    (∃ refusal other, Wire.decode first = .error refusal ∧ Wire.decode second = .error other) ∨
      ∃ event other, Wire.decode first = .ok event ∧ Wire.decode second = .ok other ∧
        event.Alike other := by
  unfold Wire.Alike reading at alike
  cases here : Wire.decode first <;> cases there : Wire.decode second <;> rw [here, there] at alike
  case error.error refusal other => exact Or.inl ⟨refusal, other, rfl, rfl⟩
  case ok.ok event other => exact Or.inr ⟨event, other, rfl, rfl, Option.some.inj alike⟩
  all_goals cases alike

/-- Two messages with alike bodies. -/
structure Message.Alike (first second : Message) : Prop where
  hash_eq : second.hash = first.hash
  body : Wire.Alike first.body second.body

theorem Message.Alike.refl (message : Message) : message.Alike message :=
  ⟨rfl, rfl⟩

/-- Two jobs for an invalidated cache, whose events differ at most in their values. -/
structure Job.Alike (first second : Job) : Prop where
  config_eq : second.config = first.config
  discreet : first.config.policy = .invalidated
  event : first.event.Alike second.event

/-! ## Stores -/

/-- Two stores that hold the same keys. -/
structure Store.Alike (first second : Store) : Prop where
  name_eq : second.name = first.name
  held_eq : ∀ key, (second.get? key).isSome = (first.get? key).isSome
  listeners_eq : second.listeners = first.listeners
  next_eq : second.nextListener = first.nextListener

/-- Two changes that leave alike stores and are told of by alike events. -/
structure Change.Alike {α β : Type} (first : Change α) (second : Change β) : Prop where
  store : first.store.Alike second.store
  event : Option.Rel Event.Alike first.event second.event

theorem Change.Alike.map {α β γ δ : Type} {first : Change α} {second : Change β}
    (alike : first.Alike second) (f : α → γ) (g : β → δ) :
    (first.map f).Alike (second.map g) :=
  ⟨alike.store, alike.event⟩

/-- Two ways to join values that look at none: both always keep the entry, or both always drop
it. -/
inductive Remap.Alike (first second : Remap) : Prop where
  | keep (first_keeps : ∀ current incoming, (first current incoming).isSome = true)
      (second_keeps : ∀ current incoming, (second current incoming).isSome = true)
  | drop (first_drops : ∀ current incoming, first current incoming = none)
      (second_drops : ∀ current incoming, second current incoming = none)

/-- Two calls that differ at most in the values they write. -/
inductive StoreCall.Alike : StoreCall → StoreCall → Prop where
  | put (key : String) (value other : Value) (origin : Origin) :
      Alike (.put key value origin) (.put key other origin)
  | putIfAbsent (key : String) (value other : Value) (origin : Origin) :
      Alike (.putIfAbsent key value origin) (.putIfAbsent key other origin)
  | evict (key : String) (origin : Origin) : Alike (.evict key origin) (.evict key origin)
  | remove (key : String) (origin : Origin) : Alike (.remove key origin) (.remove key origin)
  | clear (origin : Origin) : Alike (.clear origin) (.clear origin)
  | merge (key : String) (value other : Value) {remap another : Remap}
      (steady : remap.Alike another) (origin : Origin) :
      Alike (.merge key value remap origin) (.merge key other another origin)
  | computeIfAbsent (key : String) (compute another : String → Value) (origin : Origin) :
      Alike (.computeIfAbsent key compute origin) (.computeIfAbsent key another origin)
  | expire (key : String) : Alike (.expire key) (.expire key)

namespace Store.Alike

variable {first second : Store} {key : String} {now : Moment} {origin : Origin}

theorem eventOf (alike : first.Alike second) (key : String) (kind : EventKind) (now : Moment)
    (origin : Origin) (old new old' new' : Option Value) :
    (first.eventOf key kind now origin old new).Alike
      (second.eventOf key kind now origin old' new') := by
  simp only [Event.Alike, Event.withoutValues, Store.eventOf, alike.name_eq]

theorem set (alike : first.Alike second) (key : String) (value other : Value) :
    (first.set key value).Alike (second.set key other) where
  name_eq := alike.name_eq
  held_eq held := by
    simp only [get?, Store.set, Table.get?_insert]
    split
    · rfl
    · exact alike.held_eq held
  listeners_eq := alike.listeners_eq
  next_eq := alike.next_eq

theorem unset (alike : first.Alike second) (key : String) :
    (first.unset key).Alike (second.unset key) where
  name_eq := alike.name_eq
  held_eq held := by
    simp only [get?, Store.unset, Table.get?_erase]
    split
    · rfl
    · exact alike.held_eq held
  listeners_eq := alike.listeners_eq
  next_eq := alike.next_eq

/-- A key is held in both stores or in neither. -/
theorem held (alike : first.Alike second) (key : String) :
    (first.get? key = none ∧ second.get? key = none) ∨
      ∃ value other, first.get? key = some value ∧ second.get? key = some other := by
  have held_eq := alike.held_eq key
  cases here : first.get? key with
  | none =>
      rw [here, Option.isSome_none, Option.isSome_eq_false_iff,
        Option.isNone_iff_eq_none] at held_eq
      exact Or.inl ⟨rfl, held_eq⟩
  | some value =>
      rw [here, Option.isSome_some] at held_eq
      obtain ⟨other, there⟩ := Option.isSome_iff_exists.1 held_eq
      exact Or.inr ⟨value, other, rfl, there⟩

theorem dropAs (alike : first.Alike second) (kind : EventKind) (key : String) (origin : Origin)
    (now : Moment) :
    (first.dropAs kind key origin now).Alike (second.dropAs kind key origin now) := by
  unfold Store.dropAs
  rcases alike.held key with ⟨absent, none⟩ | ⟨value, other, present, some⟩
  · rw [absent, none]
    exact ⟨alike, .none⟩
  · rw [present, some]
    exact ⟨alike.unset key, .some (alike.eventOf ..)⟩

theorem clear (alike : first.Alike second) (origin : Origin) (now : Moment) :
    (first.clear origin now).Alike (second.clear origin now) where
  store := ⟨alike.name_eq, fun _ => rfl, alike.listeners_eq, alike.next_eq⟩
  event := .some (by simp only [Event.Alike, Event.withoutValues, alike.name_eq])

theorem merge (alike : first.Alike second) (key : String) (value other : Value)
    {remap another : Remap} (steady : remap.Alike another) (origin : Origin) (now : Moment) :
    (first.merge key value remap origin now).Alike
      (second.merge key other another origin now) := by
  unfold Store.merge
  rcases alike.held key with ⟨absent, none⟩ | ⟨current, holding, present, some⟩
  · rw [absent, none]
    exact ⟨alike.set key _ _, .some (alike.eventOf ..)⟩
  · rw [present, some]
    -- What is kept may differ, but not whether something is.
    cases steady with
    | keep first_keeps second_keeps =>
        obtain ⟨next, joined⟩ := Option.isSome_iff_exists.1 (first_keeps current value)
        obtain ⟨after, united⟩ := Option.isSome_iff_exists.1 (second_keeps holding other)
        simp only [joined, united]
        exact ⟨alike.set key _ _, .some (alike.eventOf ..)⟩
    | drop first_drops second_drops =>
        simp only [first_drops, second_drops]
        exact ⟨alike.unset key, .some (alike.eventOf ..)⟩

/-- What a call does to alike stores. -/
theorem perform (alike : first.Alike second) {call other : StoreCall} (same : call.Alike other)
    (now : Moment) : (first.perform call now).Alike (second.perform other now) := by
  cases same with
  | put key value other origin =>
      refine ⟨alike.set key _ _, .some ?_⟩
      simp only [Event.Alike, Event.withoutValues, Store.eventOf, alike.name_eq, alike.held_eq]
  | putIfAbsent key value other origin =>
      unfold Store.perform Store.putIfAbsent
      rcases alike.held key with ⟨absent, none⟩ | ⟨current, holding, present, some⟩
      · simp only [absent, none]
        exact ⟨alike.set key _ _, .some (alike.eventOf ..)⟩
      · simp only [present, some]
        exact ⟨alike, .none⟩
  | evict key origin =>
      have dropped := alike.dropAs .evicted key origin now
      exact ⟨dropped.store, dropped.event⟩
  | remove key origin => exact (alike.dropAs .evicted key origin now).map _ _
  | clear origin =>
      have cleared := alike.clear origin now
      exact ⟨cleared.store, cleared.event⟩
  | merge key value other steady origin =>
      exact (alike.merge key value other steady origin now).map _ _
  | computeIfAbsent key compute another origin =>
      unfold Store.perform Store.computeIfAbsent
      rcases alike.held key with ⟨absent, none⟩ | ⟨current, holding, present, some⟩
      · simp only [absent, none]
        exact ⟨alike.set key _ _, .some (alike.eventOf ..)⟩
      · simp only [present, some]
        exact ⟨alike, .none⟩
  | expire key => exact (alike.dropAs .expired key .localNode now).map _ _

theorem listen (alike : first.Alike second) (audience : Audience) :
    (first.listen audience).1.Alike (second.listen audience).1 ∧
      (second.listen audience).2 = (first.listen audience).2 := by
  refine ⟨⟨alike.name_eq, alike.held_eq, ?_, ?_⟩, alike.next_eq⟩
  · simp only [Store.listen, alike.listeners_eq, alike.next_eq]
  · simp only [Store.listen, alike.next_eq]

theorem unlisten (alike : first.Alike second) (id : Nat) :
    (first.unlisten id).1.Alike (second.unlisten id).1 := by
  refine ⟨alike.name_eq, alike.held_eq, ?_, alike.next_eq⟩
  simp only [Store.unlisten, alike.listeners_eq]

end Store.Alike

/-! ## Guards -/

/-- Two alike changes with the same answer. -/
structure Change.Matches {α : Type} (first second : Change α) : Prop
    extends first.Alike second where
  answer_eq : second.answer = first.answer

namespace Guard

variable {first second : Store}

theorem run_alike {α β : Type} {related : Change α → Change β → Prop} (alike : first.Alike second)
    (guard : Guard) (operation : Operation) (act : Store → Change α) (other : Store → Change β)
    (same : related (act first) (other second)) :
    Outcomes related (guard.run first operation act) (guard.run second operation other) := by
  unfold run
  rw [alike.name_eq]
  split
  · exact .done same
  · exact .failed _

theorem perform_alike (alike : first.Alike second) (guard : Guard) {call other : StoreCall}
    (same : call.Alike other) (now : Moment) :
    Outcomes Change.Alike (guard.perform first call now) (guard.perform second other now) := by
  have done := alike.perform same now
  have operation_eq : other.operation? = call.operation? := by cases same <;> rfl
  unfold perform
  rw [operation_eq]
  split
  · exact .done done
  · exact run_alike alike guard _ _ _ done

/-- Invalidation looks at the key of an event only. -/
theorem invalidate_alike (alike : first.Alike second) (guard : Guard) {event other : Event}
    (same : event.Alike other) (now : Moment) :
    Outcomes Change.Matches (guard.invalidate first event now)
      (guard.invalidate second other now) := by
  unfold invalidate
  rw [same.key_eq]
  split
  · have ran := run_alike alike guard .clear (fun store => store.clear .remoteNode now)
      (fun store => store.clear .remoteNode now) (alike.clear .remoteNode now)
    generalize guard.run first .clear _ = one at ran
    generalize guard.run second .clear _ = another at ran
    cases ran with
    | failed stop => exact .failed stop
    | done cleared => exact .done ⟨cleared.map _ _, rfl⟩
  next key _ =>
    have dropped := alike.dropAs .evicted key .remoteNode now
    have evicted : (first.evict key .remoteNode now).Alike (second.evict key .remoteNode now) :=
      ⟨dropped.store, dropped.event⟩
    have ran := run_alike alike guard .evict (fun store => store.evict key .remoteNode now)
      (fun store => store.evict key .remoteNode now) evicted
    generalize guard.run first .evict _ = one at ran
    generalize guard.run second .evict _ = another at ran
    cases ran with
    | failed stop => exact .failed stop
    | done evicted => exact .done ⟨evicted.map _ _, rfl⟩

theorem apply_alike (alike : first.Alike second) (guard : Guard) {event other : Event}
    (same : event.Alike other) (now : Moment) :
    Option.Rel Change.Matches (Guard.apply guard .invalidated first event now)
      (Guard.apply guard .invalidated second other now) := by
  have invalidated := invalidate_alike alike guard same now
  unfold Guard.apply Guard.applyAcross
  dsimp only
  generalize guard.invalidate first event now = one at invalidated
  generalize guard.invalidate second other now = another at invalidated
  cases invalidated with
  | failed stop =>
      cases stop with
      | failed error => exact .some ⟨⟨alike, .none⟩, rfl⟩
      | crashed => exact .none
  | done changed => exact .some changed

end Guard

/-! ## Shelves -/

/-- Two shelves with alike caches behind the same guards. -/
structure CacheShelf.Alike (first second : CacheShelf) : Prop where
  store? : ∀ name, Option.Rel Store.Alike (first.store? name) (second.store? name)
  guards_eq : second.guards = first.guards

namespace CacheShelf.Alike

variable {first second : CacheShelf}

theorem guard_eq (alike : first.Alike second) (name : String) :
    second.guard name = first.guard name := by
  rw [guard, guard, alike.guards_eq]

theorem setStore (alike : first.Alike second) {store other : Store} (same : store.Alike other) :
    (first.setStore store).Alike (second.setStore other) where
  store? name := by
    rw [store?_setStore, store?_setStore, same.name_eq]
    split
    · exact .some same
    · exact alike.store? name
  guards_eq := alike.guards_eq

theorem create (alike : first.Alike second) (name : String) :
    (first.create name).Alike (second.create name) := by
  have made : (Store.ofName name).Alike (Store.ofName name) := ⟨rfl, fun _ => rfl, rfl, rfl⟩
  have held := alike.store? name
  have contains_eq : second.stores.contains name = first.stores.contains name := by
    exact isSome_eq_of_rel held
  unfold CacheShelf.create
  rw [contains_eq]
  split
  · exact alike
  · exact alike.setStore made

end CacheShelf.Alike

end CacheSync
