import CacheSync.Proofs.Config.Validated
import CacheSync.Proofs.Recovery.Backoff
import CacheSync.Ring.Striped
import Mathlib.Logic.Unique

/-!
# Rules on the parts of a configuration

A cache, the dispatch of a side and the settings of recovery are each checked rule by rule, the
first flaw found being the answer.  Here every such check is equivalent to its rules taken together:
`CacheConfig.Sound`, `Dispatch.Shaped` and `RecoverySettings.Valid`.
-/

namespace CacheSync

/-- Two steps succeed exactly if the first does, and then the second. -/
theorem bind_eq_ok_iff {fault α β : Type} {step : Except fault α} {next : α → Except fault β}
    {last : β} :
    (step >>= next) = .ok last ↔ ∃ found, step = .ok found ∧ next found = .ok last := by
  cases step with
  | error fault => exact ⟨fun done => (by cases done), fun ⟨_, read, _⟩ => (by cases read)⟩
  | ok found =>
      constructor
      · exact fun done => ⟨found, rfl, done⟩
      · rintro ⟨_, ⟨⟩, done⟩
        exact done

/-! ## One cache -/

namespace Comparison

/-- Both parameters of a comparison are positive. -/
def Positive (comparison : Comparison) : Prop :=
  0 < comparison.probableCount ∧ 0 < comparison.expiration.nanos

theorem check_eq_ok_iff {cache : String} {comparison : Comparison} :
    comparison.check cache = .ok () ↔ comparison.Positive := by
  unfold check Positive Duration.isZero
  split
  next none => simp [none]
  next some =>
    split
    next soon => simpa using fun _ => Nat.le_zero.2 (by simpa using soon)
    next later =>
      simp only [beq_iff_eq] at later
      simp only [true_iff]
      omega

end Comparison

namespace CacheConfig

/-- The rules that concern one cache alone. -/
structure Sound (cache : CacheConfig) : Prop where
  named : cache.name ≠ ""
  plain_of_replicated : cache.policy = .replicated → cache.aliases = []
  aliases_named : ∀ aliasName ∈ cache.aliases, aliasName ≠ ""
  foreign : cache.name ∉ cache.aliases
  nodup : cache.aliases.Nodup
  comparable : ∀ comparison ∈ cache.comparison, comparison.Positive

end CacheConfig

namespace CacheDefinition

/-- A cache as it is written down, without the blanks around its names. -/
def trimmed (definition : CacheDefinition) : CacheConfig where
  name := Text.trim definition.name
  policy := definition.policy
  aliases := definition.aliases.map Text.trim
  comparison := definition.comparison

theorem aliasFlaw?_eq_none_iff {name aliasName : String} {before : List String} :
    aliasFlaw? name before aliasName = none ↔
      aliasName ≠ "" ∧ aliasName ≠ name ∧ aliasName ∉ before := by
  unfold aliasFlaw?
  split
  next empty => simp [empty]
  next named =>
    split
    next own => simp [own]
    next foreign =>
      split
      next again => simp [again]
      next fresh => simp [named, foreign, fresh]

theorem checkAliases_eq_ok_iff {name : String} (aliases : List String) :
    ∀ before : List String, checkAliases name before aliases = .ok () ↔
      (∀ aliasName ∈ aliases, aliasName ≠ "" ∧ aliasName ≠ name ∧ aliasName ∉ before) ∧
        aliases.Nodup := by
  induction aliases with
  | nil => simp [checkAliases]
  | cons first rest inductionHypothesis =>
      intro before
      unfold checkAliases
      cases flaw : aliasFlaw? name before first with
      | some found =>
          have flawed : ¬(first ≠ "" ∧ first ≠ name ∧ first ∉ before) := by
            rw [← aliasFlaw?_eq_none_iff, flaw]
            simp
          simp only [reduceCtorEq, false_iff]
          exact fun sound => flawed (sound.1 first List.mem_cons_self)
      | none =>
          have sound := aliasFlaw?_eq_none_iff.1 flaw
          simp only [inductionHypothesis, List.forall_mem_cons, List.mem_append,
            List.mem_singleton, not_or, List.nodup_cons]
          constructor
          · rintro ⟨others, nodup⟩
            exact ⟨⟨sound, fun aliasName later => ⟨(others aliasName later).1,
              (others aliasName later).2.1, (others aliasName later).2.2.1⟩⟩,
              fun again => (others first again).2.2.2 rfl, nodup⟩
          · rintro ⟨⟨_, others⟩, fresh, nodup⟩
            refine ⟨fun aliasName later => ?_, nodup⟩
            obtain ⟨named, foreign, early⟩ := others aliasName later
            exact ⟨named, foreign, early, fun same => fresh (same ▸ later)⟩

theorem checkComparison_eq_ok_iff {name : String} {comparison : Option Comparison} :
    checkComparison name comparison = .ok () ↔ ∀ found ∈ comparison, found.Positive := by
  cases comparison with
  | none => simp [checkComparison]
  | some found => simp [checkComparison, Comparison.check_eq_ok_iff]

/-- A definition is accepted by itself exactly if what it says without blanks is sound. -/
theorem build_eq_ok_iff {definition : CacheDefinition} {cache : CacheConfig} :
    definition.build = .ok cache ↔ definition.trimmed = cache ∧ cache.Sound := by
  have rules : definition.trimmed.Sound ↔
      Text.trim definition.name ≠ "" ∧
        ¬(definition.policy = .replicated ∧ definition.aliases ≠ []) ∧
          checkAliases (Text.trim definition.name) [] (definition.aliases.map Text.trim) = .ok () ∧
            checkComparison (Text.trim definition.name) definition.comparison = .ok () := by
    rw [checkAliases_eq_ok_iff, checkComparison_eq_ok_iff]
    constructor
    · intro sound
      have plain := sound.plain_of_replicated
      refine ⟨sound.named, ?_, ⟨?_, sound.nodup⟩, sound.comparable⟩
      · rintro ⟨replicated, aliased⟩
        exact aliased (by simpa [trimmed] using plain replicated)
      · intro aliasName member
        have foreign : aliasName ≠ Text.trim definition.name := by
          rintro rfl
          exact sound.foreign member
        exact ⟨sound.aliases_named aliasName member, foreign, List.not_mem_nil⟩
    · rintro ⟨named, plain, ⟨others, nodup⟩, comparable⟩
      refine ⟨named, fun replicated => ?_, fun aliasName member => (others aliasName member).1,
        fun own => (others _ own).2.1 rfl, nodup, comparable⟩
      have none : definition.aliases = [] :=
        Decidable.byContradiction fun aliased => plain ⟨replicated, aliased⟩
      simp [trimmed, none]
  have built : definition.build = .ok cache ↔
      definition.trimmed = cache ∧ definition.trimmed.Sound := by
    rw [rules]
    unfold build
    dsimp only
    split
    next empty => simp [empty]
    next named =>
      split
      next aliased => simp [aliased]
      next plain =>
        simp only [bind_eq_ok_iff, Unique.exists_iff, PUnit.default_eq_unit]
        simp only [ne_eq, named, not_false_eq_true, true_and]
        constructor
        · rintro ⟨aliases, comparison, same⟩
          injection same with same
          exact ⟨same, plain, aliases, comparison⟩
        · rintro ⟨same, _, aliases, comparison⟩
          exact ⟨aliases, comparison, congrArg Except.ok same⟩
  rw [built]
  constructor
  · rintro ⟨rfl, sound⟩
    exact ⟨rfl, sound⟩
  · rintro ⟨rfl, sound⟩
    exact ⟨rfl, sound⟩

theorem mapM_build_eq_ok_iff {definitions : List CacheDefinition} {caches : List CacheConfig} :
    definitions.mapM build = .ok caches ↔
      definitions.map trimmed = caches ∧ ∀ cache ∈ caches, cache.Sound := by
  induction definitions generalizing caches with
  | nil =>
      constructor
      · rintro ⟨⟩
        exact ⟨rfl, nofun⟩
      · rintro ⟨rfl, _⟩
        rfl
  | cons first rest inductionHypothesis =>
      simp only [List.mapM_cons, bind_eq_ok_iff, build_eq_ok_iff, inductionHypothesis,
        List.map_cons]
      constructor
      · rintro ⟨cache, ⟨rfl, sound⟩, others, ⟨rfl, allSound⟩, same⟩
        injection same with same
        subst same
        exact ⟨rfl, List.forall_mem_cons.2 ⟨sound, allSound⟩⟩
      · rintro ⟨rfl, sound⟩
        obtain ⟨firstSound, restSound⟩ := List.forall_mem_cons.1 sound
        exact ⟨_, ⟨rfl, firstSound⟩, _, ⟨rfl, restSound⟩, rfl⟩

end CacheDefinition

/-! ## Dispatch and recovery -/

namespace Dispatch

/-- The numbers of a striped side are powers of two. -/
def Shaped : Dispatch → Prop
  | .direct => True
  | .striped stripes capacity => (∃ k, stripes = Nat.pow 2 k) ∧ ∃ k, capacity = Nat.pow 2 k

theorem checkShape_eq_ok_iff {side : Side} {stripes capacity : Nat} :
    checkShape side stripes capacity = .ok () ↔ (striped stripes capacity).Shaped := by
  unfold checkShape
  simp only [Shaped, ← isPowerOfTwo_iff]
  cases isPowerOfTwo stripes <;> cases isPowerOfTwo capacity <;> simp

theorem check_eq_ok_iff {side : Side} {dispatch : Dispatch} :
    dispatch.check side = .ok () ↔ dispatch.Shaped := by
  cases dispatch with
  | direct => exact ⟨fun _ => trivial, fun _ => rfl⟩
  | striped stripes capacity => exact checkShape_eq_ok_iff

/-- The rings of a striped side can be made, one for each stripe. -/
def HasRings (side : Side) (dispatch : Dispatch) : Prop :=
  ∀ (α : Type) (stripes capacity : Nat), dispatch = .striped stripes capacity →
    ∃ ring : StripedRing α, StripedRing.make side stripes capacity = .ok ring ∧
      ring.stripeCount = stripes

theorem Shaped.hasRings {dispatch : Dispatch} (shaped : dispatch.Shaped) (side : Side) :
    dispatch.HasRings side := by
  rintro α stripes capacity rfl
  refine ⟨⟨side, Array.replicate stripes (.ofCapacity capacity)⟩, ?_, Array.size_replicate⟩
  rw [StripedRing.make, checkShape_eq_ok_iff.2 shaped]
  rfl

end Dispatch

namespace RecoverySettings

/-- Settings with which a recovery makes sense. -/
structure Valid (settings : RecoverySettings) : Prop extends settings.Checked where
  jitter_nonneg : (Binary64.zero false).le settings.jitter = true
  jitter_le_one : settings.jitter.le (.ofNat 1) = true

theorem check_eq_ok_iff {settings : RecoverySettings} :
    settings.check = .ok () ↔ settings.Valid := by
  constructor
  · intro passed
    have checked := checked_of_check passed
    have jitter : ((Binary64.zero false).le settings.jitter &&
        settings.jitter.le (.ofNat 1)) = true := by
      cases bounded : (Binary64.zero false).le settings.jitter &&
          settings.jitter.le (.ofNat 1) with
      | true => rfl
      | false =>
          unfold check flaw? at passed
          rw [bounded] at passed
          grind
    exact ⟨checked, (Bool.and_eq_true_iff.1 jitter).1, (Bool.and_eq_true_iff.1 jitter).2⟩
  · intro valid
    have initial : settings.initialBackoff.isZero = false := by
      simpa [Duration.isZero] using Nat.ne_of_gt valid.initial_pos
    have window : settings.window.isZero = false := by
      simpa [Duration.isZero] using Nat.ne_of_gt valid.window_pos
    simp [check, flaw?, initial, window, Nat.not_lt.2 valid.initial_le_max, valid.finite,
      valid.one_le, valid.jitter_nonneg, valid.jitter_le_one]

end RecoverySettings

end CacheSync
