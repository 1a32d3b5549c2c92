import CacheSync.Proofs.Cache.Outcomes
import CacheSync.Proofs.Node.Independent
import CacheSync.Proofs.Node.Working

/-!
# Applying an event to many caches

An accepted event goes to the cache that it names and then to the aliases of that cache; each of
them is a `Target`.  A target whose cache is missing is passed over.  At every other one the event
is applied or counted as a failure, and a failure keeps none of the later targets from their turn.
Only a cache that crashes does, since it ends the thread.
-/

namespace CacheSync

/-! ## One cache, whatever its guard refuses -/

namespace Guard

/-- Whether an operation ends the thread that asks for it. -/
def crashes (guard : Guard) (operation : Operation) : Bool :=
  guard.get? operation == some .crash

/-- Whether the application of an event ends its thread: at the operation of the policy, or at the
invalidation that a failure of it leads to. -/
def ends (guard : Guard) (policy : Policy) (event : Event) : Bool :=
  guard.crashes (policy.operation event) ||
    !guard.allows (policy.operation event) && guard.crashes (Policy.invalidated.operation event)

/-- Whether an event can be applied in neither way. -/
def refuses (guard : Guard) (policy : Policy) (event : Event) : Bool :=
  !guard.allows (policy.operation event) && !guard.allows (Policy.invalidated.operation event)

/-- How an operation comes out that a guard may refuse. -/
inductive Attempt (guard : Guard) (operation : Operation) (Done : Change Outcome → Prop) :
    Except Stop (Change Outcome) → Prop where
  | done {change : Change Outcome} : guard.allows operation = true → Done change →
      Attempt guard operation Done (.ok change)
  | failed (error : CacheError) : guard.allows operation = false →
      guard.crashes operation = false → Attempt guard operation Done (.error (.failed error))
  | crashed : guard.crashes operation = true → Attempt guard operation Done (.error .crashed)

variable {guard : Guard} {policy : Policy} {operation : Operation} {Done : Change Outcome → Prop}
  (store : Store) (event : Event) (now : Moment)

theorem crashes_of_allows (allowed : guard.allows operation = true) :
    guard.crashes operation = false := by
  have free : guard.get? operation = .none := by simpa [allows] using allowed
  simp [crashes, free]

theorem attempt_run {α : Type} (act : Store → Change α) (finish : Change α → Change Outcome)
    (met : guard.allows operation = true → Done (finish (act store))) :
    guard.Attempt operation Done ((guard.run store operation act).map finish) := by
  unfold run stop?
  cases held : guard.get? operation with
  | none =>
      have allowed : guard.allows operation = true := by simp [allows, held]
      exact .done allowed (met allowed)
  | some refusal =>
      have refused : guard.allows operation = false := by simp [allows, held]
      cases refusal with
      | unavailable => exact .failed _ refused (by simp [crashes, held])
      | rejected reason => exact .failed _ refused (by simp [crashes, held])
      | crash => exact .crashed (by simp [crashes, held])

/-- What an application leaves behind that did not end its thread. -/
structure Applies (guard : Guard) (policy : Policy) (store : Store) (event : Event) (now : Moment)
    (change : Change Outcome) : Prop where
  sound : change.Sound store event.key .remoteNode now
  contents : change.store.get? = guard.applied policy event store.get?
  failed_iff : change.answer = .failed ↔ guard.refuses policy event = true

theorem applies_of_allows (guard : Guard) (policy : Policy) {change : Change Outcome}
    (allowed : guard.allows (policy.operation event) = true)
    (sound : change.Sound store event.key .remoteNode now)
    (contents : change.store.get? = guard.applied policy event store.get?)
    (done : change.answer ≠ .failed) : guard.Applies policy store event now change :=
  ⟨sound, contents, iff_of_false done (by simp [refuses, allowed])⟩

theorem dropped_of_refused
    (refused : guard.allows (Policy.invalidated.operation event) = false) (held : Contents) :
    guard.dropped event.key held = held := by
  unfold Policy.operation at refused
  unfold dropped
  cases about : event.key with
  | all =>
      rw [about] at refused
      exact if_neg (Bool.not_eq_true _ ▸ refused)
  | entry key =>
      rw [about] at refused
      exact if_neg (Bool.not_eq_true _ ▸ refused)

/-- Where the operation of a policy is refused, the event is an invalidation. -/
theorem applied_of_refused (refused : guard.allows (policy.operation event) = false)
    (held : Contents) : guard.applied policy event held = guard.dropped event.key held := by
  unfold Policy.operation at refused
  unfold applied
  cases policy with
  | invalidated => rfl
  | replicated =>
      cases about : event.key with
      | all => rfl
      | entry key =>
          cases new : event.new with
          | none => rfl
          | some value =>
              rw [about, new] at refused
              exact if_neg (Bool.not_eq_true _ ▸ refused)

theorem attempt_invalidate :
    guard.Attempt (Policy.invalidated.operation event)
      (guard.Applies .invalidated store event now) (guard.invalidate store event now) := by
  have applies {change : Change Outcome} :=
    @applies_of_allows store event now guard .invalidated change
  unfold invalidate Policy.operation
  unfold Policy.operation at applies
  cases about : event.key with
  | all =>
      rw [about] at applies
      apply attempt_run
      intro allowed
      refine applies allowed ((store.sound_clear .remoteNode now).map _) ?_ Outcome.noConfusion
      simp only [applied, dropped, about, allowed, ↓reduceIte]
      rfl
  | entry key =>
      rw [about] at applies
      apply attempt_run
      intro allowed
      refine applies allowed ((store.sound_evict key .remoteNode now).map _) ?_ Outcome.noConfusion
      funext other
      simp only [applied, dropped, about, allowed, ↓reduceIte]
      exact store.get?_evict key .remoteNode now other

theorem replicationOutcome_ne_failed (before after : Bool) :
    replicationOutcome before after ≠ .failed := by
  cases before <;> cases after <;> nofun

/-- An event without a value to merge is an invalidation by either policy. -/
theorem attempt_replicate_of_none
    (same : Policy.replicated.operation event = Policy.invalidated.operation event)
    (contents : guard.applied .replicated event store.get? =
      guard.applied .invalidated event store.get?) :
    guard.Attempt (Policy.replicated.operation event) (guard.Applies .replicated store event now)
      (guard.invalidate store event now) := by
  rw [same]
  have attempt := guard.attempt_invalidate store event now
  generalize guard.invalidate store event now = made at attempt
  cases attempt with
  | failed error refused calm => exact .failed error refused calm
  | crashed crash => exact .crashed crash
  | done allowed applies =>
      refine .done allowed ⟨applies.sound, applies.contents.trans contents.symm, ?_⟩
      rw [applies.failed_iff, refuses, refuses, same]

theorem attempt_replicate :
    guard.Attempt (Policy.replicated.operation event) (guard.Applies .replicated store event now)
      (guard.replicate store event now) := by
  unfold replicate
  cases about : event.key with
  | all =>
      apply attempt_replicate_of_none
      · simp only [Policy.operation, about]
      · simp only [applied, about]
  | entry key =>
      cases new : event.new with
      | none =>
          apply attempt_replicate_of_none
          · simp only [Policy.operation, about, new]
          · simp only [applied, about, new]
      | some value =>
          have merged : Policy.replicated.operation event = .merge := by
            simp only [Policy.operation, about, new]
          have applies {change : Change Outcome} :=
            @applies_of_allows store event now guard .replicated change
          rw [merged, about] at applies
          rw [merged]
          apply attempt_run
          intro allowed
          refine applies allowed ((store.sound_merge key .remoteNode now value _).map _) ?_
            (replicationOutcome_ne_failed _ _)
          funext other
          simp only [applied, about, new, allowed, ↓reduceIte]
          exact store.get?_merge key .remoteNode now value (takeIfExpected event.old) other

theorem ends_eq_false (calm : guard.crashes (policy.operation event) = false)
    (calmAgain : guard.crashes (Policy.invalidated.operation event) = false) :
    guard.ends policy event = false := by
  rw [ends, calm, calmAgain, Bool.and_false, Bool.or_false]

theorem ends_of_allows (allowed : guard.allows (policy.operation event) = true) :
    guard.ends policy event = false := by
  rw [ends, crashes_of_allows allowed, allowed, Bool.not_true, Bool.false_and, Bool.or_false]

theorem ends_of_crashes (crash : guard.crashes (policy.operation event) = true) :
    guard.ends policy event = true := by
  rw [ends, crash, Bool.true_or]

/-- An application ends its thread, or leaves behind what the guard makes of the contents. -/
theorem apply_cases (guard : Guard) (policy : Policy) :
    (guard.ends policy event = true ∧ guard.apply policy store event now = .none) ∨
      (guard.ends policy event = false ∧ ∃ change,
        guard.apply policy store event now = some change ∧
          guard.Applies policy store event now change) := by
  have failed (refused : guard.refuses policy event = true) :
      guard.Applies policy store event now ⟨store, .failed, .none⟩ := by
    simp only [refuses, Bool.and_eq_true, Bool.not_eq_eq_eq_not, Bool.not_true] at refused
    refine ⟨.unchanged _, ?_, iff_of_true rfl (by simp [refuses, refused])⟩
    rw [applied_of_refused event refused.1, dropped_of_refused event refused.2]
  cases policy with
  | invalidated =>
      have attempt := guard.attempt_invalidate store event now
      unfold apply applyAcross
      generalize guard.invalidate store event now = made at attempt
      cases attempt with
      | done allowed applies => exact Or.inr ⟨ends_of_allows event allowed, _, rfl, applies⟩
      | crashed crash => exact Or.inl ⟨ends_of_crashes event crash, rfl⟩
      | failed error refused calm =>
          refine Or.inr ⟨ends_eq_false event calm calm, _, rfl, failed ?_⟩
          rw [refuses, refused]
          rfl
  | replicated =>
      have attempt := guard.attempt_replicate store event now
      have again := guard.attempt_invalidate store event now
      unfold apply applyAcross
      generalize guard.replicate store event now = made at attempt
      generalize guard.invalidate store event now = fallback at again
      cases attempt with
      | done allowed applies => exact Or.inr ⟨ends_of_allows event allowed, _, rfl, applies⟩
      | crashed crash => exact Or.inl ⟨ends_of_crashes event crash, rfl⟩
      | failed error refused calm =>
          cases again with
          | crashed crash =>
              refine Or.inl ⟨?_, rfl⟩
              rw [ends, refused, crash]
              exact Bool.or_true _
          | failed error refusedAgain calmAgain =>
              refine Or.inr ⟨ends_eq_false event calm calmAgain, _, rfl, failed ?_⟩
              rw [refuses, refused, refusedAgain]
              rfl
          | done allowedAgain applies =>
              have calmAgain := crashes_of_allows allowedAgain
              refine Or.inr
                ⟨ends_eq_false event calm calmAgain, _, rfl, applies.sound.map _, ?_, ?_⟩
              · rw [applied_of_refused event refused]
                exact applies.contents
              · refine iff_of_false nofun ?_
                rw [refuses, refused, allowedAgain]
                exact Bool.false_ne_true

end Guard

/-! ## Targets -/

/-- A cache that an event is to be applied to, and by which policy. -/
structure Target where
  cache : String
  policy : Policy

def CacheConfig.targets (config : CacheConfig) : List Target :=
  ⟨config.name, config.policy⟩ :: config.aliases.map fun name => ⟨name, .invalidated⟩

/-- Whether a mark says what became of an event at a cache. -/
def Mark.isOutcome : Mark → Bool
  | .applied _ => true
  | .applyFailed _ => true
  | _ => false

namespace Frame

/-- Whether the application of an event to a target ends the thread. -/
def ends (frame : Frame) (event : Event) (target : Target) : Bool :=
  (frame.guard target.cache).ends target.policy event

def refuses (frame : Frame) (event : Event) (target : Target) : Bool :=
  (frame.guard target.cache).refuses target.policy event

/-- The targets whose caches are there. -/
def present (frame : Frame) (targets : List Target) : List Target :=
  targets.filter fun target => frame.has target.cache

/-- The targets that an event gets to and comes back from. -/
def reached (frame : Frame) (event : Event) (targets : List Target) : List Target :=
  (frame.present targets).takeWhile fun target => !frame.ends event target

/-- What is counted of a target that an event gets to. -/
def outcome (frame : Frame) (event : Event) (target : Target) : Mark :=
  if frame.refuses event target then .applyFailed target.cache else .applied target.cache

def applyTarget (frame : Frame) (event : Event) (view : View) (target : Target) : View :=
  frame.apply target.cache target.policy event view

variable (frame : Frame) (event : Event) (target : Target) (rest : List Target)

theorem present_cons_of_missing (missing : frame.has target.cache = false) :
    frame.present (target :: rest) = frame.present rest := by
  simp only [present, List.filter_cons, missing, Bool.false_eq_true, ↓reduceIte]

theorem present_cons_of_there (there : frame.has target.cache = true) :
    frame.present (target :: rest) = target :: frame.present rest := by
  simp only [present, List.filter_cons, there, ↓reduceIte]

theorem reached_cons_of_missing (missing : frame.has target.cache = false) :
    frame.reached event (target :: rest) = frame.reached event rest := by
  rw [reached, present_cons_of_missing _ _ _ missing, reached]

theorem reached_cons_of_ends (there : frame.has target.cache = true)
    (ends : frame.ends event target = true) : frame.reached event (target :: rest) = [] := by
  rw [reached, present_cons_of_there _ _ _ there, List.takeWhile_cons_of_neg (by simp [ends])]

theorem reached_cons_of_calm (there : frame.has target.cache = true)
    (calm : frame.ends event target = false) :
    frame.reached event (target :: rest) = target :: frame.reached event rest := by
  rw [reached, present_cons_of_there _ _ _ there, List.takeWhile_cons_of_pos (by simp [calm]),
    reached]

theorem mem_of_mem_reached {targets : List Target} (member : target ∈ frame.reached event targets) :
    target ∈ targets ∧ frame.has target.cache = true :=
  List.mem_filter.1 ((List.takeWhile_sublist _).subset member)

/-- Without a crash every target is reached whose cache is there. -/
theorem reached_eq_present {targets : List Target}
    (calm : (frame.present targets).any (frame.ends event) = false) :
    frame.reached event targets = frame.present targets := by
  unfold reached
  generalize frame.present targets = there at calm
  induction there with
  | nil => rfl
  | cons target rest inductionHypothesis =>
      rw [List.any_cons, Bool.or_eq_false_iff] at calm
      rw [List.takeWhile_cons_of_pos (by simp [calm.1]), inductionHypothesis calm.2]

theorem isOutcome_outcome : (frame.outcome event target).isOutcome = true := by
  unfold outcome
  split
  · rfl
  · rfl

end Frame

/-! ## What is counted -/

namespace Core

/-- What has been counted of events at caches, the earliest first. -/
def outcomes (core : Core) : List Mark :=
  core.meter.marks.reverse.filter Mark.isOutcome

theorem count_outcomes (core : Core) {mark : Mark} (isOutcome : mark.isOutcome = true) :
    core.meter.count mark = core.outcomes.count mark := by
  unfold outcomes
  rw [List.count_filter isOutcome, List.count_reverse]
  rfl

theorem outcomes_mark (core : Core) (made : Mark) :
    (core.mark made).outcomes = core.outcomes ++ [made].filter Mark.isOutcome := by
  unfold outcomes mark Meter.mark
  rw [List.reverse_cons, List.filter_append]

theorem outcomes_overhear (core : Core) {event : Event} (clock : Clock)
    (remote : event.origin = .remoteNode) :
    (core.overhear event clock).outcomes = core.outcomes := by
  unfold overhear outbound
  split
  · rfl
  · split
    · rfl
    next config _ =>
      simp only [remote, Origin.isRemote, ↓reduceIte]
      exact (core.outcomes_mark _).trans (List.append_nil _)

theorem outcomes_foldl_overhear (events : List Event) (clock : Clock) :
    ∀ core : Core, (∀ event ∈ events, event.origin = .remoteNode) →
      (events.foldl (fun core event => core.overhear event clock) core).outcomes =
        core.outcomes := by
  induction events with
  | nil =>
      intro core _
      rfl
  | cons event rest inductionHypothesis =>
      intro core remote
      have others : ∀ other ∈ rest, other.origin = .remoteNode :=
        fun other member => remote other (List.mem_cons_of_mem event member)
      rw [List.foldl_cons, inductionHypothesis _ others,
        core.outcomes_overhear clock (remote event List.mem_cons_self)]

/-! ## One target after the other -/

/-- Apply an event to its targets, until one of them ends the thread. -/
def applyAll (core : Core) (targets : List Target) (event : Event) (clock : Clock) : Handled :=
  match targets with
  | [] => ⟨core, false⟩
  | target :: rest =>
      let handled := core.applyTo target.cache target.policy event clock
      if handled.crashed then handled else handled.core.applyAll rest event clock

theorem invalidateAll_eq (aliases : List String) (event : Event) (clock : Clock) :
    ∀ core : Core, core.invalidateAll aliases event clock =
      core.applyAll (aliases.map fun name => ⟨name, .invalidated⟩) event clock := by
  induction aliases with
  | nil =>
      intro core
      rfl
  | cons cache rest inductionHypothesis =>
      intro core
      simp only [invalidateAll_cons, List.map_cons, applyAll, inductionHypothesis]

theorem spread_eq (core : Core) (config : CacheConfig) (event : Event) (clock : Clock) :
    core.spread config event clock = core.applyAll config.targets event clock := by
  simp only [spread_eq_invalidateAll, CacheConfig.targets, applyAll, invalidateAll_eq]

/-- The application of an event came as far as some targets and made of the core what it makes of
them in turn. -/
structure Handled.Passes (handled : Handled) (core : Core) (event : Event) (targets : List Target) :
    Prop where
  spares : core.Spares handled.core
  outcomes_eq : handled.core.outcomes = core.outcomes ++ targets.map (core.frame.outcome event)
  view_eq : handled.core.view = targets.foldl (core.frame.applyTarget event) core.view

/-- A target ends the thread, or the event passes it with its own outcome. -/
theorem applyTo_cases (core : Core) (target : Target) (event : Event) (clock : Clock)
    (there : core.frame.has target.cache = true) :
    (core.frame.ends event target = true ∧
        core.applyTo target.cache target.policy event clock = ⟨core, true⟩) ∨
      (core.frame.ends event target = false ∧
        (core.applyTo target.cache target.policy event clock).crashed = false ∧
        (core.applyTo target.cache target.policy event clock).Passes core event [target]) := by
  have spares := core.applyTo_spares target.cache target.policy event clock
  obtain ⟨store, found⟩ := Option.isSome_iff_exists.1 (has_frame ▸ there)
  rcases Guard.apply_cases store event clock.wall (core.shelf.guard target.cache)
      target.policy with ⟨ends, applied⟩ | ⟨calm, change, applied, applies⟩
  · exact Or.inl ⟨ends, applyTo_of_crash found applied⟩
  · rw [applyTo_of_change found applied] at spares ⊢
    have remote : ∀ told ∈ core.heard change, told.origin = .remoteNode :=
      fun told member => origin_of_heard applies.sound member
    refine Or.inr ⟨calm, rfl, spares, ?_, ?_⟩
    · have mark : outcomeMark target.cache change.answer = core.frame.outcome event target := by
        unfold outcomeMark Frame.outcome
        by_cases refused : core.frame.refuses event target = true
        · rw [if_pos refused, applies.failed_iff.2 refused]
        · rw [if_neg refused]
          have succeeded : change.answer ≠ .failed := fun failed =>
            refused (applies.failed_iff.1 failed)
          split
          next failed => exact absurd failed succeeded
          next => rfl
      have counted := core.frame.isOutcome_outcome event target
      rw [outcomes_mark, outcomes_foldl_overhear _ _ _ remote, mark,
        List.filter_cons_of_pos counted]
      rfl
    · obtain ⟨_, sameView⟩ := foldl_overhear_of_remote (core.heard change) clock
        { core with shelf := core.shelf.setStore change.store } remote
      refine sameView.trans ?_
      ext1
      · funext other
        simp only [view, held_setStore found applies.sound.name_eq, List.foldl_cons,
          List.foldl_nil, Frame.applyTarget, Frame.apply, there, and_true, applies.contents,
          held_of_store? found]
        rfl
      · rfl

theorem applyTo_of_missing {core : Core} {target : Target} (event : Event) (clock : Clock)
    (missing : core.frame.has target.cache = false) :
    core.applyTo target.cache target.policy event clock = ⟨core, false⟩ := by
  have absent : core.shelf.store? target.cache = none := by
    rw [← Option.isNone_iff_eq_none, ← Option.not_isSome, ← has_frame, missing]
    rfl
  exact applyTo_of_absent absent

theorem Handled.Passes.append {first second : Handled} {core : Core} {event : Event}
    {targets others : List Target} (passes : first.Passes core event targets)
    (passesOn : second.Passes first.core event others) :
    second.Passes core event (targets ++ others) where
  spares := passes.spares.trans passesOn.spares
  outcomes_eq := by
    rw [passesOn.outcomes_eq, passes.outcomes_eq, passes.spares.frame_eq, List.map_append,
      List.append_assoc]
  view_eq := by
    rw [passesOn.view_eq, passes.view_eq, passes.spares.frame_eq, List.foldl_append]

/-- An event passes the targets before the first that ends the thread. -/
theorem applyAll_passes (targets : List Target) (event : Event) (clock : Clock) :
    ∀ core : Core,
      (core.applyAll targets event clock).crashed =
          (core.frame.present targets).any (core.frame.ends event) ∧
        (core.applyAll targets event clock).Passes core event
          (core.frame.reached event targets) := by
  induction targets with
  | nil =>
      intro core
      exact ⟨rfl, .refl core, (List.append_nil _).symm, rfl⟩
  | cons target rest inductionHypothesis =>
      intro core
      unfold applyAll
      cases there : core.frame.has target.cache with
      | false =>
          rw [applyTo_of_missing event clock there, Frame.reached_cons_of_missing _ _ _ _ there,
            Frame.present_cons_of_missing _ _ _ there]
          exact inductionHypothesis core
      | true =>
          rw [Frame.present_cons_of_there _ _ _ there, List.any_cons]
          rcases core.applyTo_cases target event clock there with
            ⟨ends, crashed⟩ | ⟨calm, finished, passes⟩
          · rw [crashed, Frame.reached_cons_of_ends _ _ _ _ there ends, ends, Bool.true_or]
            exact ⟨rfl, .refl core, (List.append_nil _).symm, rfl⟩
          · obtain ⟨crashed, passesOn⟩ :=
              inductionHypothesis (core.applyTo target.cache target.policy event clock).core
            rw [passes.spares.frame_eq] at crashed passesOn
            rw [Frame.reached_cons_of_calm _ _ _ _ there calm, calm, Bool.false_or]
            simp only [finished, Bool.false_eq_true, ↓reduceIte]
            exact ⟨crashed, passes.append passesOn⟩

end Core
end CacheSync
