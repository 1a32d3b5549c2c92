import CacheSync.Proofs.Cache.Alterations

/-!
# What an outcome tells

To apply an event from another node, a cache is asked for one operation, and where replication
fails for a second one.  Its guard may refuse either, and by the time of the second it may refuse
others than before: `Guard.applyAcross` takes the guards of both attempts.  The caller learns no
more than an `Outcome`; `Outcome.Describes` says what this tells of the entries, and every
application is described by its outcome.
-/

namespace CacheSync

open Json (Value)
open Alteration (SameBeside)

/-! ## Entries that are gone -/

/-- Nothing is held under a key, and every other entry is as it was; for all keys, nothing is held
at all. -/
def EntryKey.Gone (before after : Contents) : EntryKey → Prop
  | .all => ∀ key, after key = none
  | .entry key => after key = none ∧ SameBeside key before after

/-- A key holds a value now, and every other entry is as it was. -/
def Installed (key : String) (value : Value) (before after : Contents) : Prop :=
  after key = some value ∧ SameBeside key before after

namespace Outcome

/-- What an outcome tells of the contents before and after the application of an event. -/
def Describes (event : Event) (before after : Contents) : Outcome → Prop
  | .cleared => event.key = .all ∧ event.key.Gone before after
  | .evicted => event.key ≠ .all ∧ event.key.Gone before after
  | .inserted => ∃ key value, event.key = .entry key ∧ event.new = some value ∧
      before key = none ∧ Installed key value before after
  | .replaced => ∃ key value held, event.key = .entry key ∧ event.new = some value ∧
      before key = some held ∧ Event.sameValue (some held) event.old = true ∧
      Installed key value before after
  | .desynchronized => event.key ≠ .all ∧ event.key.Gone before after
  | .downgraded => event.key.Gone before after
  | .failed => after = before

end Outcome

/-- A change is what its outcome tells, made as a change of another node. -/
structure Change.Truthful (change : Change Outcome) (store : Store) (event : Event) : Prop where
  describes : change.answer.Describes event store.get? change.store.get?
  unchanged : change.answer = .failed → change.store = store
  remote : ∀ told, change.event = some told → told.origin = .remoteNode

/-- The operation by which a policy applies an event. -/
def Policy.operation (policy : Policy) (event : Event) : Operation :=
  match policy, event.key, event.new with
  | .replicated, .entry _, some _ => .merge
  | _, .entry _, _ => .evict
  | _, .all, _ => .clear

namespace Policy

theorem operation_eq_merge_iff (policy : Policy) (event : Event) :
    policy.operation event = .merge ↔
      policy = .replicated ∧ ∃ key value, event.key = .entry key ∧ event.new = some value := by
  unfold operation
  cases policy <;> cases event.key <;> cases event.new <;> simp

/-- An event that is not merged is applied alike by either policy. -/
theorem operation_of_ne_merge {policy : Policy} {event : Event}
    (otherwise : policy.operation event ≠ .merge) :
    policy.operation event = invalidated.operation event := by
  revert otherwise
  unfold operation
  cases policy <;> cases event.key <;> cases event.new <;> simp

end Policy

/-! ## Merges of expected values -/

/-- The join takes the incoming value where the expected one is held. -/
theorem Guard.takeIfExpected_of_same {expected : Option Value} {held : Value} (incoming : Value)
    (same : Event.sameValue (some held) expected = true) :
    takeIfExpected expected held incoming = some incoming := by
  cases expected with
  | none => cases same
  | some value => exact if_pos same

theorem Guard.takeIfExpected_of_not_same {expected : Option Value} {held : Value}
    (incoming : Value) (differs : Event.sameValue (some held) expected = false) :
    takeIfExpected expected held incoming = Option.none := by
  cases expected with
  | none => rfl
  | some value => exact if_neg (Bool.not_eq_true _ ▸ differs)

theorem Store.answer_merge (store : Store) (key : String) (origin : Origin) (now : Moment)
    (value : Value) (remap : Remap) :
    (store.merge key value remap origin now).answer =
      joined value remap (store.get? key) := by
  unfold merge
  cases held : store.get? key with
  | none => rfl
  | some old =>
      cases next : remap old value with
      | none => simp only [joined, next]
      | some found => simp only [joined, next]

/-! ## One attempt -/

namespace Guard

variable {guard later : Guard} (store : Store) (event : Event) (now : Moment)

/-- The key of an event holds something else than the event's old value, and a merge finds it. -/
def Diverges (guard : Guard) (policy : Policy) (store : Store) (event : Event) : Prop :=
  policy = .replicated ∧ guard.allows .merge = true ∧
    ∃ key held, event.key = .entry key ∧ event.new.isSome = true ∧
      store.get? key = some held ∧ Event.sameValue (some held) event.old = false

theorem remote_of_sound {α : Type} {change : Change α} {store : Store} {about : EntryKey}
    {now : Moment} (sound : change.Sound store about .remoteNode now) :
    ∀ told, change.event = some told → told.origin = .remoteNode := by
  intro told emitted
  obtain ⟨_, _, origin, _⟩ := sound.told told emitted
  exact origin

/-- What a guard does not refuse is done. -/
theorem run_cases {α : Type} (crashless : guard.Crashless) (operation : Operation)
    (act : Store → Change α) :
    (guard.allows operation = true ∧ guard.run store operation act = .ok (act store)) ∨
      (guard.allows operation = false ∧
        ∃ error, guard.run store operation act = .error (.failed error)) := by
  cases allowed : guard.allows operation with
  | true => exact Or.inl ⟨rfl, run_of_allows allowed⟩
  | false => exact Or.inr ⟨rfl, run_of_not_allows store act crashless allowed⟩

/-- An invalidation leaves nothing of what the event is about, unless it is refused. -/
theorem invalidate_attempt (crashless : guard.Crashless) :
    (guard.allows (Policy.invalidated.operation event) = true ∧
      ∃ change, guard.invalidate store event now = .ok change ∧
        change.Truthful store event ∧ event.key.Gone store.get? change.store.get? ∧
        change.answer ≠ .failed ∧ change.answer ≠ .desynchronized) ∨
      (guard.allows (Policy.invalidated.operation event) = false ∧
        ∃ error, guard.invalidate store event now = .error (.failed error)) := by
  unfold invalidate Policy.operation
  cases about : event.key with
  | all =>
      have gone : event.key.Gone store.get? (store.clear .remoteNode now).store.get? := by
        rw [about]
        exact fun _ => rfl
      rcases run_cases store crashless .clear fun store => store.clear .remoteNode now with
        ⟨allowed, done⟩ | ⟨refused, error, failed⟩
      · have sound := (store.sound_clear .remoteNode now).map fun _ => Outcome.cleared
        refine Or.inl ⟨allowed, _, by simp only [done, Except.map]; rfl, ?_⟩
        exact ⟨⟨⟨about, gone⟩, nofun, remote_of_sound sound⟩, about ▸ gone, nofun, nofun⟩
      · exact Or.inr ⟨refused, error, by simp only [failed, Except.map]⟩
  | entry key =>
      have evicted := store.get?_evict key .remoteNode now
      have gone : event.key.Gone store.get? (store.evict key .remoteNode now).store.get? := by
        rw [about]
        constructor
        · rw [evicted, if_pos rfl]
        · intro other different
          rw [evicted, if_neg different]
      have keyed : event.key ≠ .all := by
        rw [about]
        exact EntryKey.noConfusion
      rcases run_cases store crashless .evict fun store => store.evict key .remoteNode now with
        ⟨allowed, done⟩ | ⟨refused, error, failed⟩
      · have sound := (store.sound_evict key .remoteNode now).map fun _ => Outcome.evicted
        refine Or.inl ⟨allowed, _, by simp only [done, Except.map]; rfl, ?_⟩
        exact ⟨⟨⟨keyed, gone⟩, nofun, remote_of_sound sound⟩, about ▸ gone, nofun, nofun⟩
      · exact Or.inr ⟨refused, error, by simp only [failed, Except.map]⟩

/-- A merge finds nothing, the expected value or another one, and its answer tells which. -/
theorem merge_cases (key : String) (value : Value) (expected : Option Value)
    {merged : Change (Option Value)}
    (change : store.merge key value (takeIfExpected expected) .remoteNode now = merged) :
    (store.get? key = Option.none ∧ merged.answer = some value ∧
        Installed key value store.get? merged.store.get?) ∨
      (∃ held, store.get? key = some held ∧ Event.sameValue (some held) expected = true ∧
        merged.answer = some value ∧ Installed key value store.get? merged.store.get?) ∨
      ∃ held, store.get? key = some held ∧ Event.sameValue (some held) expected = false ∧
        merged.answer = Option.none ∧
        (EntryKey.entry key).Gone store.get? merged.store.get? := by
  have answer := store.answer_merge key .remoteNode now value (takeIfExpected expected)
  have after := store.get?_merge key .remoteNode now value (takeIfExpected expected)
  rw [change] at answer after
  have atKey : merged.store.get? key = merged.answer := by rw [after, if_pos rfl, answer]
  have beside : SameBeside key store.get? merged.store.get? := by
    intro other different
    rw [after, if_neg different]
  cases held : store.get? key with
  | none =>
      have taken : merged.answer = some value := by rw [answer, held]; rfl
      exact Or.inl ⟨rfl, taken, atKey.trans taken, beside⟩
  | some current =>
      have join : merged.answer = takeIfExpected expected current value := by rw [answer, held]; rfl
      cases same : Event.sameValue (some current) expected with
      | true =>
          have taken : merged.answer = some value := join.trans (takeIfExpected_of_same value same)
          exact Or.inr (Or.inl ⟨current, rfl, same, taken, atKey.trans taken, beside⟩)
      | false =>
          have dropped : merged.answer = Option.none :=
            join.trans (takeIfExpected_of_not_same value same)
          exact Or.inr (Or.inr ⟨current, rfl, same, dropped, atKey.trans dropped, beside⟩)

/-- A merge installs the new value where the old one is held or nothing is, and drops what is held
otherwise; its outcome says which. -/
theorem truthful_merge {key : String} {value : Value} (about : event.key = .entry key)
    (new : event.new = some value) {merged : Change (Option Value)}
    (change : store.merge key value (takeIfExpected event.old) .remoteNode now = merged)
    {outcome : Outcome}
    (answered : replicationOutcome (store.get? key).isSome merged.answer.isSome = outcome) :
    (merged.map fun _ => outcome).Truthful store event ∧ outcome ≠ .failed ∧
      (outcome = .desynchronized ↔ ∃ held, store.get? key = some held ∧
        Event.sameValue (some held) event.old = false) := by
  have remote : ∀ told, merged.event = some told → told.origin = .remoteNode := by
    rw [← change]
    exact remote_of_sound (store.sound_merge key .remoteNode now value _)
  rcases merge_cases store now key value event.old change with
    ⟨absent, taken, installed⟩ | ⟨held, before, same, taken, installed⟩ |
    ⟨held, before, differs, dropped, gone⟩
  · rw [absent, taken] at answered
    subst answered
    refine ⟨⟨⟨key, value, about, new, absent, installed⟩, nofun, remote⟩, nofun, ?_⟩
    apply iff_of_false nofun
    rintro ⟨held, before, _⟩
    exact Option.some_ne_none held (before.symm.trans absent)
  · rw [before, taken] at answered
    subst answered
    refine ⟨⟨⟨key, value, held, about, new, before, same, installed⟩, nofun, remote⟩, nofun, ?_⟩
    apply iff_of_false nofun
    rintro ⟨other, beforeToo, differs⟩
    rw [Option.some.inj (before.symm.trans beforeToo), differs] at same
    cases same
  · rw [before, dropped] at answered
    subst answered
    have keyed : event.key ≠ .all := by
      rw [about]
      exact EntryKey.noConfusion
    refine ⟨⟨⟨keyed, about ▸ gone⟩, nofun, remote⟩, nofun, ?_⟩
    exact iff_of_true rfl ⟨held, before, differs⟩

theorem merge_attempt (crashless : guard.Crashless) {key : String} {value : Value}
    (about : event.key = .entry key) (new : event.new = some value) :
    (guard.allows .merge = true ∧
      ∃ change, guard.replicate store event now = .ok change ∧ change.Truthful store event ∧
        change.answer ≠ .failed ∧
        (change.answer = .desynchronized ↔ ∃ held, store.get? key = some held ∧
          Event.sameValue (some held) event.old = false)) ∨
      (guard.allows .merge = false ∧
        ∃ error, guard.replicate store event now = .error (.failed error)) := by
  unfold replicate
  rw [about, new]
  dsimp only
  rcases run_cases store crashless .merge fun store =>
      store.merge key value (takeIfExpected event.old) .remoteNode now with
    ⟨allowed, done⟩ | ⟨refused, error, failed⟩
  · have truthful := truthful_merge store event now about new rfl rfl
    exact Or.inl ⟨allowed, _, by simp only [done, Except.map]; rfl, truthful⟩
  · exact Or.inr ⟨refused, error, by simp only [failed, Except.map]⟩

/-- The attempt that a policy makes first. -/
def attempt (guard : Guard) (policy : Policy) (store : Store) (event : Event) (now : Moment) :
    Except Stop (Change Outcome) :=
  match policy with
  | .invalidated => guard.invalidate store event now
  | .replicated => guard.replicate store event now

/-- An event that is not merged is invalidated. -/
theorem attempt_of_ne_merge {policy : Policy} (otherwise : policy.operation event ≠ .merge) :
    guard.attempt policy store event now = guard.invalidate store event now := by
  cases policy with
  | invalidated => rfl
  | replicated =>
      unfold attempt replicate
      cases about : event.key with
      | all => rfl
      | entry key =>
          cases new : event.new with
          | none => rfl
          | some value =>
              have merges := (Policy.replicated.operation_eq_merge_iff event).2
                ⟨rfl, key, value, about, new⟩
              exact absurd merges otherwise

theorem Diverges.operation_eq {policy : Policy} {store : Store} {event : Event}
    (diverges : guard.Diverges policy store event) : policy.operation event = .merge := by
  obtain ⟨replicated, _, key, _, about, new, _⟩ := diverges
  obtain ⟨value, given⟩ := Option.isSome_iff_exists.1 new
  exact (policy.operation_eq_merge_iff event).2 ⟨replicated, key, value, about, given⟩

/-- The first attempt is truthful unless it is refused, and finds what diverges. -/
theorem attempt_cases (policy : Policy) (crashless : guard.Crashless) :
    (guard.allows (policy.operation event) = true ∧
      ∃ change, guard.attempt policy store event now = .ok change ∧ change.Truthful store event ∧
        change.answer ≠ .failed ∧
        (change.answer = .desynchronized ↔ guard.Diverges policy store event)) ∨
      (guard.allows (policy.operation event) = false ∧
        ∃ error, guard.attempt policy store event now = .error (.failed error)) := by
  -- Only a merge differs from an invalidation, whatever the policy.
  by_cases merges : policy.operation event = .merge
  · obtain ⟨replicated, key, value, about, new⟩ := (policy.operation_eq_merge_iff event).1 merges
    rw [merges, replicated]
    rcases merge_attempt store event now crashless about new with
      ⟨allowed, change, done, truthful, succeeded, diverged⟩ | refused
    · refine Or.inl ⟨allowed, change, done, truthful, succeeded, diverged.trans ?_⟩
      constructor
      · rintro ⟨held, before, differs⟩
        exact ⟨rfl, allowed, key, held, about, by rw [new]; rfl, before, differs⟩
      · rintro ⟨_, _, other, held, aboutToo, _, before, differs⟩
        have same : key = other := EntryKey.entry.inj (about.symm.trans aboutToo)
        exact ⟨held, same ▸ before, differs⟩
    · exact Or.inr refused
  · rw [attempt_of_ne_merge store event now merges, Policy.operation_of_ne_merge merges]
    rcases invalidate_attempt store event now crashless with
      ⟨allowed, change, done, truthful, _, succeeded, converged⟩ | refused
    · refine Or.inl ⟨allowed, change, done, truthful, succeeded, ?_⟩
      exact iff_of_false converged fun diverges => merges diverges.operation_eq
    · exact Or.inr refused

theorem applyAcross_of_ok {policy : Policy} {change : Change Outcome}
    (done : guard.attempt policy store event now = .ok change) :
    guard.applyAcross later policy store event now = some change := by
  cases policy with
  | invalidated =>
      have attempted : guard.invalidate store event now = .ok change := done
      simp only [applyAcross, attempted]
  | replicated =>
      have attempted : guard.replicate store event now = .ok change := done
      simp only [applyAcross, attempted]

/-- Where the first attempt is refused, a replication still drops what the event is about if the
second one is not; otherwise the store stays as it was. -/
theorem applyAcross_of_failed {policy : Policy} {error : CacheError}
    (crashlessThen : later.Crashless)
    (failed : guard.attempt policy store event now = .error (.failed error)) :
    ∃ change, guard.applyAcross later policy store event now = some change ∧
      change.Truthful store event ∧ change.answer ≠ .desynchronized ∧
      (change.answer = .failed ↔ policy = .replicated →
        later.allows (Policy.invalidated.operation event) = false) := by
  have unapplied : (⟨store, .failed, Option.none⟩ : Change Outcome).Truthful store event := by
    refine ⟨rfl, fun _ => rfl, ?_⟩
    intro told reported
    cases reported
  have decided : Outcome.failed ≠ .desynchronized ∧ Outcome.downgraded ≠ .desynchronized ∧
      Outcome.downgraded ≠ .failed := by decide
  obtain ⟨gaveUp, withdrew, recovered⟩ := decided
  cases policy with
  | invalidated =>
      have refused : guard.invalidate store event now = .error (.failed error) := failed
      have settled : guard.applyAcross later .invalidated store event now =
          some ⟨store, .failed, Option.none⟩ := by
        simp only [applyAcross, refused]
      refine ⟨_, settled, unapplied, gaveUp, iff_of_true rfl ?_⟩
      intro replicates
      cases replicates
  | replicated =>
      have refused : guard.replicate store event now = .error (.failed error) := failed
      rcases invalidate_attempt store event now crashlessThen with
        ⟨allowed, change, done, truthful, gone, _⟩ | ⟨refusedAgain, again, failedAgain⟩
      · have fallen : guard.applyAcross later .replicated store event now =
            some (change.map fun _ => .downgraded) := by
          simp only [applyAcross, refused, done, Except.map]
        refine ⟨_, fallen, ⟨gone, fun failed => absurd failed recovered, truthful.remote⟩,
          withdrew, ?_⟩
        apply iff_of_false
        · exact recovered
        · intro refusedThen
          rw [refusedThen rfl] at allowed
          cases allowed
      · have unsettled : guard.applyAcross later .replicated store event now =
            some ⟨store, .failed, Option.none⟩ := by
          simp only [applyAcross, refused, failedAgain, Except.map]
        exact ⟨_, unsettled, unapplied, gaveUp, iff_of_true rfl fun _ => refusedAgain⟩

/-- However a cache refuses what it is asked for, the outcome of an application tells what was made
of the entries: nothing stale stays behind a success. -/
theorem truthful_of_applyAcross (policy : Policy) (crashless : guard.Crashless)
    (crashlessThen : later.Crashless) :
    guard.apply policy store event now = guard.applyAcross guard policy store event now ∧
      ∃ change, guard.applyAcross later policy store event now = some change ∧
        change.Truthful store event ∧
        (change.answer = .desynchronized ↔ guard.Diverges policy store event) ∧
        (change.answer = .failed ↔ guard.allows (policy.operation event) = false ∧
          (policy = .replicated →
            later.allows (Policy.invalidated.operation event) = false)) := by
  refine ⟨rfl, ?_⟩
  rcases attempt_cases store event now policy crashless with
    ⟨allowed, change, done, truthful, succeeded, diverged⟩ | ⟨refused, error, failed⟩
  · refine ⟨change, applyAcross_of_ok store event now done, truthful, diverged, ?_⟩
    apply iff_of_false succeeded
    rintro ⟨refused, _⟩
    rw [refused] at allowed
    cases allowed
  · obtain ⟨change, applied, truthful, found, unapplied⟩ :=
      applyAcross_of_failed store event now crashlessThen failed
    have alike : ¬ guard.Diverges policy store event := by
      intro diverges
      rw [diverges.operation_eq, diverges.2.1] at refused
      cases refused
    refine ⟨change, applied, truthful, iff_of_false found alike, unapplied.trans ?_⟩
    exact ⟨fun refusedThen => ⟨refused, refusedThen⟩, And.right⟩

/-- A guard that refuses merges alone. -/
def mergeless : Guard :=
  Guard.none.insert .merge .unavailable

theorem mergeless_crashless : mergeless.Crashless := by
  intro operation
  cases operation <;> decide

/-- Where a merge is refused, a replicated entry is dropped and the entry beside it stays. -/
theorem truthful_of_applyAcross_mergeless :
    let store := ((Store.ofName "users").set "k" (.text "x")).set "other" (.text "y")
    let event := Event.updated "users" "k" (.text "x") (.text "z") 7
    mergeless.Crashless ∧ ∃ change, mergeless.apply .replicated store event 9 = some change ∧
      change.answer = .downgraded ∧ change.store.get? "k" = Option.none ∧
      change.store.get? "other" = store.get? "other" := by
  intro store event
  obtain ⟨same, change, applied, truthful, -, -⟩ :=
    truthful_of_applyAcross store event 9 .replicated mergeless_crashless mergeless_crashless
  have settled : (mergeless.applyAcross mergeless .replicated store event 9).map (·.answer) =
      some .downgraded := rfl
  have downgraded : change.answer = .downgraded := by
    rw [applied] at settled
    exact Option.some.inj settled
  have told := truthful.describes
  rw [downgraded] at told
  obtain ⟨gone, beside⟩ := told
  exact ⟨mergeless_crashless, change, same.trans applied, downgraded, gone,
    beside "other" (by decide)⟩

end Guard
end CacheSync
