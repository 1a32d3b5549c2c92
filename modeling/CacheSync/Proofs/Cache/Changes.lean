import CacheSync.Cache.Apply
import CacheSync.Cache.Call

/-!
# Changes of a store

What an operation leaves behind is told by its event: `Event.Tells` relates the contents before
and after to the old and the new value.  Every operation of an application is sound in this sense,
and so is every application of an event from another node, of which `Guard.applied` says what it
makes of the contents.
-/

namespace CacheSync

open Json (Value)

/-- The entries of a cache as a function of their keys. -/
abbrev Contents := String → Option Value

/-! ## What an event tells -/

namespace Event

/-- An event tells of a change: of which entry it is, what that held before, and what it holds now,
or that every entry is gone. -/
def Tells (event : Event) (before after : Contents) : Prop :=
  match event.key with
  | .all => event.old = none ∧ event.new = none ∧ ∀ key, after key = none
  | .entry key =>
      event.old = before key ∧
        ∀ other, after other = if other = key then event.new else before other

theorem tells_all {event : Event} {before after : Contents} (wildcard : event.key = .all) :
    event.Tells before after ↔
      event.old = none ∧ event.new = none ∧ ∀ key, after key = none := by
  simp [Tells, wildcard]

theorem tells_entry {event : Event} {before after : Contents} {key : String}
    (one : event.key = .entry key) :
    event.Tells before after ↔
      event.old = before key ∧
        ∀ other, after other = if other = key then event.new else before other := by
  simp [Tells, one]

/-- The keys an event is about. -/
def Concerns (event : Event) (key : String) : Prop :=
  event.key = .all ∨ event.key = .entry key

instance (event : Event) (key : String) : Decidable (event.Concerns key) :=
  inferInstanceAs (Decidable (_ ∨ _))

theorem exists_entry {event : Event} (keyed : event.key ≠ .all) :
    ∃ key, event.key = .entry key := by
  cases shape : event.key with
  | all => exact absurd shape keyed
  | entry key => exact ⟨key, rfl⟩

theorem concerns_entry {event : Event} {key : String} (one : event.key = .entry key)
    (other : String) : event.Concerns other ↔ other = key := by
  simp [Concerns, one, eq_comm (a := other)]

theorem Tells.after_of_concerns {event : Event} {before after : Contents} {key : String}
    (tells : event.Tells before after) (concerned : event.Concerns key) :
    after key = event.new := by
  rcases concerned with wildcard | one
  · obtain ⟨_, new, gone⟩ := (tells_all wildcard).1 tells
    rw [new, gone key]
  · simpa using ((tells_entry one).1 tells).2 key

/-- A key that an event does not concern holds what it held. -/
theorem Tells.after_of_not_concerns {event : Event} {before after : Contents} {key : String}
    (tells : event.Tells before after) (untouched : ¬ event.Concerns key) :
    after key = before key := by
  cases shape : event.key with
  | all => exact absurd (Or.inl shape) untouched
  | entry one =>
      have different : key ≠ one := by
        rintro rfl
        exact untouched (Or.inr shape)
      simpa [different] using ((tells_entry shape).1 tells).2 key

end Event

/-! ## Sound changes -/

namespace Store

theorem get?_set (store : Store) (key : String) (value : Value) (other : String) :
    (store.set key value).get? other = if other = key then some value else store.get? other := by
  simp [get?, set]

theorem get?_unset (store : Store) (key other : String) :
    (store.unset key).get? other = if other = key then none else store.get? other := by
  simp [get?, unset]

end Store

/-- A change is sound if it is what its event tells, and none without an event. -/
structure Change.Sound {α : Type} (change : Change α) (store : Store) (about : EntryKey)
    (origin : Origin) (now : Moment) : Prop where
  name_eq : change.store.name = store.name
  listeners_eq : change.store.listeners = store.listeners
  silent : change.event = none → change.store.get? = store.get?
  told : ∀ event, change.event = some event →
    event.cache = store.name ∧ event.key = about ∧ event.origin = origin ∧ event.time = now ∧
      event.Tells store.get? change.store.get?

namespace Change.Sound

variable {α β : Type} {store : Store} {about : EntryKey} {origin : Origin} {now : Moment}

theorem map {change : Change α} (sound : change.Sound store about origin now) (f : α → β) :
    (change.map f).Sound store about origin now :=
  ⟨sound.name_eq, sound.listeners_eq, sound.silent, sound.told⟩

theorem unchanged (answer : α) :
    (⟨store, answer, none⟩ : Change α).Sound store about origin now :=
  ⟨rfl, rfl, fun _ => rfl, fun _ told => by cases told⟩

theorem set (key : String) (value : Value) (kind : EventKind) (answer : α) {old : Option Value}
    (held : store.get? key = old) :
    (⟨store.set key value, answer,
      some (store.eventOf key kind now origin old (some value))⟩ : Change α).Sound
        store (.entry key) origin now := by
  refine ⟨rfl, rfl, by simp, ?_⟩
  intro event told
  injection told with shape
  subst shape
  refine ⟨rfl, rfl, rfl, rfl, (Event.tells_entry rfl).2 ⟨held.symm, ?_⟩⟩
  intro other
  exact store.get?_set key value other

theorem unset (key : String) (kind : EventKind) (answer : α) {old : Option Value}
    (held : store.get? key = old) :
    (⟨store.unset key, answer, some (store.eventOf key kind now origin old none)⟩ :
      Change α).Sound store (.entry key) origin now := by
  refine ⟨rfl, rfl, by simp, ?_⟩
  intro event told
  injection told with shape
  subst shape
  refine ⟨rfl, rfl, rfl, rfl, (Event.tells_entry rfl).2 ⟨held.symm, ?_⟩⟩
  intro other
  exact store.get?_unset key other

theorem cleared (answer : α) :
    (⟨{ store with entries := .empty }, answer,
      some ⟨store.name, .all, .evicted, now, origin, none, none⟩⟩ : Change α).Sound
        store .all origin now := by
  refine ⟨rfl, rfl, by simp, ?_⟩
  intro event told
  injection told with shape
  subst shape
  exact ⟨rfl, rfl, rfl, rfl, (Event.tells_all rfl).2 ⟨rfl, rfl, fun _ => rfl⟩⟩

end Change.Sound

namespace Store

variable (store : Store) (key : String) (origin : Origin) (now : Moment)

theorem sound_put (value : Value) :
    (store.put key value origin now).Sound store (.entry key) origin now :=
  .set key value _ _ rfl

theorem sound_putIfAbsent (value : Value) :
    (store.putIfAbsent key value origin now).Sound store (.entry key) origin now := by
  unfold putIfAbsent
  split
  · exact .unchanged _
  next absent => exact .set key value _ _ absent

theorem sound_dropAs (kind : EventKind) :
    (dropAs kind store key origin now).Sound store (.entry key) origin now := by
  unfold dropAs
  split
  · exact .unchanged _
  next held => exact .unset key kind _ held

theorem sound_evict : (store.evict key origin now).Sound store (.entry key) origin now :=
  (store.sound_dropAs key origin now .evicted).map fun _ => ()

theorem sound_clear : (store.clear origin now).Sound store .all origin now :=
  .cleared ()

theorem sound_merge (value : Value) (remap : Remap) :
    (store.merge key value remap origin now).Sound store (.entry key) origin now := by
  unfold merge
  split
  next absent => exact .set key value _ _ absent
  next held =>
    split
    next next _ => exact .set key next _ _ held
    next => exact .unset key _ _ held

theorem sound_computeIfAbsent (compute : String → Value) :
    (store.computeIfAbsent key compute origin now).Sound store (.entry key) origin now := by
  unfold computeIfAbsent
  split
  · exact .unchanged _
  next absent => exact .set key (compute key) _ _ absent

/-- Every operation of an application is what its event tells. -/
theorem sound_perform (call : StoreCall) :
    (store.perform call now).Sound store call.key call.origin now := by
  cases call with
  | put key value origin => exact (store.sound_put key origin now value).map _
  | putIfAbsent key value origin => exact (store.sound_putIfAbsent key origin now value).map _
  | evict key origin => exact (store.sound_evict key origin now).map fun _ => StoreAnswer.done
  | remove key origin => exact (store.sound_dropAs key origin now .evicted).map _
  | clear origin => exact (store.sound_clear origin now).map fun _ => StoreAnswer.done
  | merge key value remap origin => exact (store.sound_merge key origin now value remap).map _
  | computeIfAbsent key compute origin =>
      exact (store.sound_computeIfAbsent key origin now compute).map fun value =>
        StoreAnswer.computed value (if (store.get? key).isSome then 0 else 1)
  | expire key => exact (store.sound_dropAs key .localNode now .expired).map _

/-! ## The contents after the operations of the bus -/

theorem get?_evict (other : String) :
    (store.evict key origin now).store.get? other =
      if other = key then none else store.get? other := by
  unfold evict remove dropAs
  cases held : store.get? key with
  | none =>
      by_cases same : other = key
      · subst same
        simp [held]
      · simp [same]
  | some old => exact store.get?_unset key other

/-- What a key holds after a merge: the incoming value if it held nothing, and otherwise what the
join of both says. -/
def joined (value : Value) (remap : Remap) : Option Value → Option Value
  | none => some value
  | some current => remap current value

theorem get?_merge (value : Value) (remap : Remap) (other : String) :
    (store.merge key value remap origin now).store.get? other =
      if other = key then joined value remap (store.get? key) else store.get? other := by
  unfold merge
  cases held : store.get? key with
  | none => exact store.get?_set key value other
  | some old =>
      dsimp only
      cases next : remap old value with
      | none => simpa [joined, next] using store.get?_unset key other
      | some found => simpa [joined, next] using store.get?_set key found other

end Store

/-! ## Applying an event -/

namespace Guard

/-- Whether a guard lets an operation through. -/
def allows (guard : Guard) (operation : Operation) : Bool :=
  (guard.get? operation).isNone

/-- No refusal of a guard ends the thread of the caller. -/
def Crashless (guard : Guard) : Prop :=
  ∀ operation, guard.get? operation ≠ some .crash

theorem crashless_none : Guard.none.Crashless := by
  intro operation
  simp [Guard.none]

/-- The contents after an invalidation. -/
def dropped (guard : Guard) (key : EntryKey) (held : Contents) : Contents :=
  match key with
  | .all => if guard.allows .clear then fun _ => Option.none else held
  | .entry key =>
      if guard.allows .evict then fun other => if other = key then Option.none else held other
      else held

/-- The contents after an event is applied by a policy. -/
def applied (guard : Guard) (policy : Policy) (event : Event) (held : Contents) : Contents :=
  match policy, event.key, event.new with
  | .replicated, .entry key, some value =>
      if guard.allows .merge then fun other =>
        if other = key then Store.joined value (takeIfExpected event.old) (held key)
        else held other
      else guard.dropped event.key held
  | _, _, _ => guard.dropped event.key held

theorem run_of_allows {α : Type} {guard : Guard} {store : Store} {operation : Operation}
    {act : Store → Change α} (allowed : guard.allows operation = true) :
    guard.run store operation act = .ok (act store) := by
  have free : guard.get? operation = Option.none := by simpa [allows] using allowed
  simp [run, stop?, free]

theorem run_of_not_allows {α : Type} {guard : Guard} (store : Store) {operation : Operation}
    (act : Store → Change α) (crashless : guard.Crashless)
    (refused : guard.allows operation = false) :
    ∃ error, guard.run store operation act = .error (.failed error) := by
  have never := crashless operation
  cases held : guard.get? operation with
  | none => simp [allows, held] at refused
  | some refusal =>
      cases refusal with
      | unavailable => exact ⟨.unavailable store.name, by simp [run, stop?, held]⟩
      | rejected reason =>
          exact ⟨.rejected store.name operation reason, by simp [run, stop?, held]⟩
      | crash => exact absurd held never

variable {guard : Guard} (store : Store) (event : Event) (now : Moment)

/-- An invalidation drops what it is about, or fails and leaves the contents. -/
theorem invalidate_cases (crashless : guard.Crashless) :
    (∃ change, guard.invalidate store event now = .ok change ∧
        change.Sound store event.key .remoteNode now ∧
        change.store.get? = guard.dropped event.key store.get?) ∨
      (∃ error, guard.invalidate store event now = .error (.failed error)) ∧
        guard.dropped event.key store.get? = store.get? := by
  unfold invalidate
  cases shape : event.key with
  | all =>
      dsimp only
      cases allowed : guard.allows .clear with
      | true =>
          refine Or.inl ⟨_, by rw [run_of_allows allowed]; rfl,
            (store.sound_clear .remoteNode now).map _, ?_⟩
          simp only [dropped, allowed, ↓reduceIte]
          rfl
      | false =>
          obtain ⟨error, failed⟩ := run_of_not_allows store
            (fun store => store.clear .remoteNode now) crashless allowed
          exact Or.inr ⟨⟨error, by rw [failed]; rfl⟩, by simp [dropped, allowed]⟩
  | entry key =>
      dsimp only
      cases allowed : guard.allows .evict with
      | true =>
          refine Or.inl ⟨_, by rw [run_of_allows allowed]; rfl,
            (store.sound_evict key .remoteNode now).map _, ?_⟩
          funext other
          simp only [dropped, allowed, ↓reduceIte]
          exact store.get?_evict key .remoteNode now other
      | false =>
          obtain ⟨error, failed⟩ := run_of_not_allows store
            (fun store => store.evict key .remoteNode now) crashless allowed
          exact Or.inr ⟨⟨error, by rw [failed]; rfl⟩, by simp [dropped, allowed]⟩

/-- A replication installs the new value or, without a key or a new value, invalidates; where the
merge is refused it fails. -/
theorem replicate_cases (crashless : guard.Crashless) :
    (∃ change, guard.replicate store event now = .ok change ∧
        change.Sound store event.key .remoteNode now ∧
        change.store.get? = guard.applied .replicated event store.get?) ∨
      (∃ error, guard.replicate store event now = .error (.failed error)) ∧
        guard.applied .replicated event store.get? = guard.dropped event.key store.get? := by
  cases shape : event.key with
  | all =>
      have same : guard.replicate store event now = guard.invalidate store event now := by
        simp [replicate, shape]
      rw [same]
      rcases invalidate_cases store event now crashless with done | failed
      · simpa [applied, shape] using Or.inl done
      · exact Or.inr ⟨failed.1, by simp [applied, shape]⟩
  | entry key =>
      cases new : event.new with
      | none =>
          have same : guard.replicate store event now = guard.invalidate store event now := by
            simp [replicate, shape, new]
          rw [same]
          rcases invalidate_cases store event now crashless with done | failed
          · simpa [applied, shape, new] using Or.inl done
          · exact Or.inr ⟨failed.1, by simp [applied, shape, new]⟩
      | some value =>
          simp only [replicate, shape, new]
          cases allowed : guard.allows .merge with
          | true =>
              refine Or.inl ⟨_, by rw [run_of_allows allowed]; rfl,
                (store.sound_merge key .remoteNode now value _).map _, ?_⟩
              funext other
              simp only [applied, shape, new, allowed, ↓reduceIte]
              exact store.get?_merge key .remoteNode now value (takeIfExpected event.old) other
          | false =>
              obtain ⟨error, failed⟩ := run_of_not_allows store
                (fun store => store.merge key value (takeIfExpected event.old) .remoteNode now)
                crashless allowed
              exact Or.inr ⟨⟨error, by rw [failed]; rfl⟩, by simp [applied, shape, new, allowed]⟩

/-- Applying an event changes the contents as `Guard.applied` says, and its own event is of remote
origin. -/
theorem apply_spec (crashless : guard.Crashless) (policy : Policy) :
    ∃ change, guard.apply policy store event now = some change ∧
      change.Sound store event.key .remoteNode now ∧
      change.store.get? = guard.applied policy event store.get? := by
  cases policy with
  | invalidated =>
      rcases invalidate_cases store event now crashless with
        ⟨change, done, sound, contents⟩ | ⟨⟨error, failed⟩, contents⟩
      · exact ⟨change, by simp [apply, applyAcross, done], sound, contents⟩
      · refine ⟨⟨store, .failed, .none⟩, ?_, .unchanged _, contents.symm⟩
        simp [apply, applyAcross, failed]
  | replicated =>
      rcases replicate_cases store event now crashless with
        ⟨change, done, sound, contents⟩ | ⟨⟨error, failed⟩, fallback⟩
      · exact ⟨change, by simp [apply, applyAcross, done], sound, contents⟩
      · rw [fallback]
        rcases invalidate_cases store event now crashless with
          ⟨change, done, sound, contents⟩ | ⟨⟨error, failedAgain⟩, contents⟩
        · refine ⟨change.map fun _ => .downgraded, ?_, sound.map _, contents⟩
          simp [apply, applyAcross, failed, done, Except.map]
        · refine ⟨⟨store, .failed, .none⟩, ?_, .unchanged _, contents.symm⟩
          simp [apply, applyAcross, failed, failedAgain, Except.map]

end Guard

end CacheSync
