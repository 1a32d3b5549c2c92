import CacheSync.Proofs.Cache.Changes

/-!
# What an operation alters

An operation on a store adds, replaces, removes or expires one entry, or clears all of them, or
finds nothing to do.  `StoreCall.alteration` tells which it is from the contents before, and
`Store.alters_perform` that the operation does just that and that its event says so.
-/

namespace CacheSync

open Json (Value)

/-- What an operation does to the entries of its cache. -/
inductive Alteration where
  | nothing
  | added (key : String)
  | replaced (key : String)
  | removed (key : String)
  | expired (key : String)
  | cleared
  deriving DecidableEq

/-- What a call does to a cache with these contents. -/
def StoreCall.alteration (call : StoreCall) (held : Contents) : Alteration :=
  match call with
  | .put key _ _ => if (held key).isSome then .replaced key else .added key
  | .putIfAbsent key _ _ => if (held key).isSome then .nothing else .added key
  | .evict key _ => if (held key).isSome then .removed key else .nothing
  | .remove key _ => if (held key).isSome then .removed key else .nothing
  | .clear _ => .cleared
  | .merge key value remap _ =>
      match held key with
      | none => .added key
      | some current => if (remap current value).isSome then .replaced key else .removed key
  | .computeIfAbsent key _ _ => if (held key).isSome then .nothing else .added key
  | .expire key => if (held key).isSome then .expired key else .nothing

namespace Alteration

/-- All entries but that of a key are as they were. -/
def SameBeside (key : String) (before after : Contents) : Prop :=
  ∀ other, other ≠ key → after other = before other

/-- The contents before and after an alteration. -/
def Describes (before after : Contents) : Alteration → Prop
  | .nothing => after = before
  | .added key => before key = none ∧ (after key).isSome = true ∧ SameBeside key before after
  | .replaced key =>
      (before key).isSome = true ∧ (after key).isSome = true ∧ SameBeside key before after
  | .removed key => (before key).isSome = true ∧ after key = none ∧ SameBeside key before after
  | .expired key => (before key).isSome = true ∧ after key = none ∧ SameBeside key before after
  | .cleared => ∀ key, after key = none

/-- The key and the kind that the event of an alteration has, if it is told at all. -/
def told? : Alteration → Option (EntryKey × EventKind)
  | .nothing => none
  | .added key => some (.entry key, .added)
  | .replaced key => some (.entry key, .updated)
  | .removed key => some (.entry key, .evicted)
  | .expired key => some (.entry key, .expired)
  | .cleared => some (.all, .evicted)

/-- Whether an alteration puts out of date what others hold of an entry. -/
def outdates (entry : String) : Alteration → Bool
  | .nothing => false
  | .added _ => false
  | .replaced key => entry = key
  | .removed key => entry = key
  | .expired _ => false
  | .cleared => true

theorem outdates_of_silent {alteration : Alteration} (silent : alteration.told? = none)
    (entry : String) : alteration.outdates entry = false := by
  cases alteration with
  | nothing => rfl
  | added key => cases silent
  | replaced key => cases silent
  | removed key => cases silent
  | expired key => cases silent
  | cleared => cases silent

/-- The entries that are out of date are those of the event, if an invalidated cache sends it. -/
theorem outdates_iff_of_told {alteration : Alteration} {event : Event}
    (told : alteration.told? = some (event.key, event.kind)) (entry : String) :
    alteration.outdates entry = true ↔
      Policy.invalidated.propagates event.kind = true ∧ event.Concerns entry := by
  cases alteration with
  | nothing => cases told
  | added key =>
      obtain ⟨_, kind⟩ := Prod.mk.inj (Option.some.inj told)
      simp [outdates, Policy.propagates, ← kind]
  | replaced key =>
      obtain ⟨about, kind⟩ := Prod.mk.inj (Option.some.inj told)
      simp [outdates, Policy.propagates, ← kind, Event.concerns_entry about.symm]
  | removed key =>
      obtain ⟨about, kind⟩ := Prod.mk.inj (Option.some.inj told)
      simp [outdates, Policy.propagates, ← kind, Event.concerns_entry about.symm]
  | expired key =>
      obtain ⟨_, kind⟩ := Prod.mk.inj (Option.some.inj told)
      simp [outdates, Policy.propagates, ← kind]
  | cleared =>
      obtain ⟨about, kind⟩ := Prod.mk.inj (Option.some.inj told)
      simp [outdates, Policy.propagates, ← kind, Event.Concerns, ← about]

theorem sameBeside_set (store : Store) (key : String) (value : Value) :
    SameBeside key store.get? (store.set key value).get? := by
  intro other different
  rw [Store.get?_set, if_neg different]

theorem sameBeside_unset (store : Store) (key : String) :
    SameBeside key store.get? (store.unset key).get? := by
  intro other different
  rw [Store.get?_unset, if_neg different]

end Alteration

/-- A change does to a store what an alteration says, and its event tells so. -/
structure Change.Alters {α : Type} (change : Change α) (store : Store) (alteration : Alteration) :
    Prop where
  describes : alteration.Describes store.get? change.store.get?
  told : change.event.map (fun event => (event.key, event.kind)) = alteration.told?

namespace Change.Alters

variable {α β : Type} {store : Store} {key : String} {value : Value} {now : Moment}
  {origin : Origin} {old new : Option Value}

theorem map {change : Change α} {alteration : Alteration} (alters : change.Alters store alteration)
    (f : α → β) : (change.map f).Alters store alteration :=
  ⟨alters.describes, alters.told⟩

theorem unchanged (answer : α) : (⟨store, answer, none⟩ : Change α).Alters store .nothing :=
  ⟨rfl, rfl⟩

theorem added (absent : store.get? key = none) (answer : α) :
    (⟨store.set key value, answer, some (store.eventOf key .added now origin old new)⟩ :
      Change α).Alters store (.added key) where
  describes := by
    have present : ((store.set key value).get? key).isSome = true := by
      rw [Store.get?_set, if_pos rfl]
      rfl
    exact ⟨absent, present, Alteration.sameBeside_set store key value⟩
  told := rfl

theorem replaced {current : Value} (before : store.get? key = some current) (answer : α) :
    (⟨store.set key value, answer, some (store.eventOf key .updated now origin old new)⟩ :
      Change α).Alters store (.replaced key) where
  describes := by
    have presentBefore : (store.get? key).isSome = true := by rw [before]; rfl
    have present : ((store.set key value).get? key).isSome = true := by
      rw [Store.get?_set, if_pos rfl]
      rfl
    exact ⟨presentBefore, present, Alteration.sameBeside_set store key value⟩
  told := rfl

theorem describes_unset {current : Value} (before : store.get? key = some current) :
    (Alteration.removed key).Describes store.get? (store.unset key).get? := by
  have presentBefore : (store.get? key).isSome = true := by rw [before]; rfl
  have gone : (store.unset key).get? key = none := by rw [Store.get?_unset, if_pos rfl]
  exact ⟨presentBefore, gone, Alteration.sameBeside_unset store key⟩

theorem removed {current : Value} (before : store.get? key = some current) (answer : α) :
    (⟨store.unset key, answer, some (store.eventOf key .evicted now origin old new)⟩ :
      Change α).Alters store (.removed key) :=
  ⟨describes_unset before, rfl⟩

theorem expired {current : Value} (before : store.get? key = some current) (answer : α) :
    (⟨store.unset key, answer, some (store.eventOf key .expired now origin old new)⟩ :
      Change α).Alters store (.expired key) :=
  ⟨describes_unset before, rfl⟩

end Change.Alters

namespace Store

variable (store : Store) (key : String) (value : Value) (origin : Origin) (now : Moment)

/-- A value that is put replaces one or is added. -/
theorem alters_put :
    (store.put key value origin now).Alters store
      (if (store.get? key).isSome then .replaced key else .added key) := by
  unfold put
  cases held : store.get? key with
  | none => exact .added held _
  | some current => exact .replaced held _

/-- A value that is put where none is held is added. -/
theorem alters_putIfAbsent :
    (store.putIfAbsent key value origin now).Alters store
      (if (store.get? key).isSome then .nothing else .added key) := by
  unfold putIfAbsent
  cases held : store.get? key with
  | none => exact .added held _
  | some current => exact .unchanged _

theorem alters_remove :
    (store.remove key origin now).Alters store
      (if (store.get? key).isSome then .removed key else .nothing) := by
  unfold remove dropAs
  cases held : store.get? key with
  | none => exact .unchanged _
  | some current => exact .removed held _

theorem alters_expire :
    (store.expire key now).Alters store
      (if (store.get? key).isSome then .expired key else .nothing) := by
  unfold expire dropAs
  cases held : store.get? key with
  | none => exact .unchanged _
  | some current => exact .expired held _

/-- A merge adds the value, or replaces what is held by the join of both, or removes it if there is
no join. -/
theorem alters_merge (remap : Remap) :
    (store.merge key value remap origin now).Alters store
      ((StoreCall.merge key value remap origin).alteration store.get?) := by
  unfold merge
  cases held : store.get? key with
  | none =>
      simp only [StoreCall.alteration, held]
      exact .added held _
  | some current =>
      cases joined : remap current value with
      | none =>
          simp only [StoreCall.alteration, held, joined, Option.isSome_none, Bool.false_eq_true,
            ↓reduceIte]
          exact .removed held _
      | some next =>
          simp only [StoreCall.alteration, held, joined, Option.isSome_some, ↓reduceIte]
          exact .replaced held _

theorem alters_computeIfAbsent (compute : String → Value) :
    (store.computeIfAbsent key compute origin now).Alters store
      (if (store.get? key).isSome then .nothing else .added key) := by
  unfold computeIfAbsent
  cases held : store.get? key with
  | none => exact .added held _
  | some current => exact .unchanged _

/-- Every operation of an application alters its store as the call and the contents say. -/
theorem alters_perform (call : StoreCall) :
    (store.perform call now).Alters store (call.alteration store.get?) := by
  cases call with
  | put key value origin => exact (store.alters_put key value origin now).map _
  | putIfAbsent key value origin => exact (store.alters_putIfAbsent key value origin now).map _
  | evict key origin => exact (store.alters_remove key origin now).map fun _ => StoreAnswer.done
  | remove key origin => exact (store.alters_remove key origin now).map _
  | clear origin => exact ⟨fun _ => rfl, rfl⟩
  | merge key value remap origin => exact (store.alters_merge key value origin now remap).map _
  | computeIfAbsent key compute origin =>
      exact (store.alters_computeIfAbsent key origin now compute).map fun value =>
        StoreAnswer.computed value (if (store.get? key).isSome then 0 else 1)
  | expire key => exact (store.alters_expire key now).map _

end Store

end CacheSync
