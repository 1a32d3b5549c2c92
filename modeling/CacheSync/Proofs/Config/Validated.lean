import CacheSync.Config.Bus

/-!
# Validated configurations

A configuration is validated if it was built from checked caches.  Of what the checks enforce, the
theory of coherence uses three rules: every cache is found under its own name, a replicated cache
has no aliases, and no alias names a replicated cache.  The aliases of one cache are also distinct
from each other and from its name.
-/

namespace CacheSync

namespace Table

variable {κ ν : Type} [DecidableEq κ]

theorem lookup_isSome_iff {key : κ} {pairs : List (κ × ν)} :
    (lookup key pairs).isSome = true ↔ key ∈ pairs.map (·.1) := by
  induction pairs with
  | nil => simp [lookup]
  | cons pair rest inductionHypothesis =>
      unfold lookup
      split
      next same => simp [same]
      next other => simp [inductionHypothesis, Ne.symm other]

theorem contains_iff {table : Table κ ν} {key : κ} :
    table.contains key = true ↔ key ∈ table.keys :=
  lookup_isSome_iff

theorem mem_pairs_of_lookup {key : κ} {value : ν} {pairs : List (κ × ν)}
    (held : lookup key pairs = some value) : (key, value) ∈ pairs := by
  induction pairs with
  | nil => cases held
  | cons pair rest inductionHypothesis =>
      unfold lookup at held
      split at held
      next same =>
        injection held with value
        rw [← same, ← value]
        exact List.mem_cons_self
      next => exact List.mem_cons_of_mem pair (inductionHypothesis held)

theorem mem_values_of_get? {table : Table κ ν} {key : κ} {value : ν}
    (held : table.get? key = some value) : value ∈ table.values :=
  List.mem_map.2 ⟨(key, value), mem_pairs_of_lookup held, rfl⟩

end Table

namespace BusConfig

/-- The configuration was built from caches that were themselves checked. -/
def Validated (config : BusConfig) : Prop :=
  ∃ bus : BusDefinition,
    (∀ cache ∈ bus.caches, ∃ definition : CacheDefinition, definition.build = .ok cache) ∧
      bus.build = .ok config

/-- The rules that tie the caches of a configuration together. -/
structure Consistent (config : BusConfig) : Prop where
  name_eq : ∀ {name : String} {cache : CacheConfig},
    config.cache? name = some cache → cache.name = name
  aliases_eq_nil : ∀ {name : String} {cache : CacheConfig},
    config.cache? name = some cache → cache.policy = .replicated → cache.aliases = []
  target_invalidated : ∀ {name aliasName : String} {cache target : CacheConfig},
    config.cache? name = some cache → aliasName ∈ cache.aliases →
      config.cache? aliasName = some target → target.policy = .invalidated

end BusConfig

/-! ## What the checks enforce -/

theorem CacheDefinition.aliases_of_build {definition : CacheDefinition} {cache : CacheConfig}
    (built : definition.build = .ok cache) (replicated : cache.policy = .replicated) :
    cache.aliases = [] := by
  unfold build at built
  dsimp only at built
  split at built
  · cases built
  · split at built
    · cases built
    · next allowed =>
        simp only [bind, Except.bind] at built
        split at built
        · cases built
        · split at built
          · cases built
          · injection built with shape
            subst shape
            have none : definition.aliases = [] := by
              apply Decidable.byContradiction
              intro some
              exact allowed ⟨replicated, some⟩
            exact List.map_eq_nil_iff.2 none

namespace BusDefinition

theorem get?_indexCaches (caches : List CacheConfig) :
    ∀ {index indexed : Table String CacheConfig},
      indexCaches index caches = .ok indexed →
        ∀ {name : String} {cache : CacheConfig}, indexed.get? name = some cache →
          index.get? name = some cache ∨ cache ∈ caches ∧ cache.name = name := by
  induction caches with
  | nil =>
      intro index indexed built name cache held
      injection built with same
      subst same
      exact Or.inl held
  | cons first rest inductionHypothesis =>
      intro index indexed built name cache held
      unfold indexCaches at built
      split at built
      · cases built
      · rcases inductionHypothesis built held with early | ⟨later, named⟩
        · rw [Table.get?_insert] at early
          split at early
          next same =>
            injection early with found
            subst found
            exact Or.inr ⟨List.mem_cons_self, same.symm⟩
          next => exact Or.inl early
        · exact Or.inr ⟨List.mem_cons_of_mem first later, named⟩

theorem targetAllowed_of_claimAliases {caches : Table String CacheConfig} {cache : CacheConfig}
    (aliases : List String) :
    ∀ {owners claimed : Table String CacheConfig},
      claimAliases caches cache owners aliases = .ok claimed →
        ∀ aliasName ∈ aliases, targetAllowed caches aliasName = true := by
  induction aliases with
  | nil => simp
  | cons first rest inductionHypothesis =>
      intro owners claimed built aliasName member
      unfold claimAliases at built
      split at built
      · cases built
      · split at built
        next allowed =>
          rcases List.mem_cons.1 member with rfl | later
          · exact allowed
          · exact inductionHypothesis built aliasName later
        next => cases built

theorem targetAllowed_of_indexAliases {caches : Table String CacheConfig}
    (configs : List CacheConfig) :
    ∀ {owners indexed : Table String CacheConfig},
      indexAliases caches owners configs = .ok indexed →
        ∀ cache ∈ configs, ∀ aliasName ∈ cache.aliases, targetAllowed caches aliasName = true := by
  induction configs with
  | nil => simp
  | cons first rest inductionHypothesis =>
      intro owners indexed built cache member
      simp only [indexAliases, bind, Except.bind] at built
      split at built
      · cases built
      · next claimed =>
          rcases List.mem_cons.1 member with rfl | later
          · exact targetAllowed_of_claimAliases cache.aliases claimed
          · exact inductionHypothesis built cache later

theorem indexes_of_build {bus : BusDefinition} {config : BusConfig}
    (built : bus.build = .ok config) :
    indexCaches .empty bus.caches = .ok config.caches ∧
      indexAliases config.caches .empty config.caches.values = .ok config.aliasOwners := by
  simp only [build, bind, Except.bind] at built
  split at built
  · cases built
  split at built
  · cases built
  split at built
  · cases built
  split at built
  · cases built
  split at built
  · cases built
  next caches indexed =>
    split at built
    · cases built
    next owners claimed =>
      injection built with shape
      subst shape
      exact ⟨indexed, claimed⟩

end BusDefinition

theorem BusConfig.Validated.consistent {config : BusConfig} (validated : config.Validated) :
    config.Consistent := by
  obtain ⟨bus, checked, built⟩ := validated
  obtain ⟨indexed, claimed⟩ := BusDefinition.indexes_of_build built
  have found : ∀ {name : String} {cache : CacheConfig}, config.cache? name = some cache →
      cache ∈ bus.caches ∧ cache.name = name := by
    intro name cache held
    rcases BusDefinition.get?_indexCaches bus.caches indexed held with early | later
    · cases early
    · exact later
  refine ⟨fun held => (found held).2, ?_, ?_⟩
  · intro name cache held replicated
    obtain ⟨definition, built⟩ := checked cache (found held).1
    exact CacheDefinition.aliases_of_build built replicated
  · intro name aliasName cache target held member targetHeld
    have allowed := BusDefinition.targetAllowed_of_indexAliases _ claimed cache
      (Table.mem_values_of_get? held) aliasName member
    have lookup : config.caches.get? aliasName = some target := targetHeld
    simpa [BusDefinition.targetAllowed, lookup] using allowed

/-! ## Aliases of one cache -/

namespace CacheDefinition

theorem fresh_of_aliasFlaw? {name aliasName : String} {before : List String}
    (sound : aliasFlaw? name before aliasName = none) :
    aliasName ≠ name ∧ aliasName ∉ before := by
  unfold aliasFlaw? at sound
  split at sound
  · cases sound
  split at sound
  · cases sound
  next foreign =>
    split at sound
    · cases sound
    next fresh => exact ⟨foreign, fresh⟩

theorem nodup_of_checkAliases {name : String} (aliases : List String) :
    ∀ before : List String, checkAliases name before aliases = .ok () →
      (∀ aliasName ∈ aliases, aliasName ≠ name ∧ aliasName ∉ before) ∧ aliases.Nodup := by
  induction aliases with
  | nil =>
      intro before _
      exact ⟨nofun, .nil⟩
  | cons first rest inductionHypothesis =>
      intro before passed
      unfold checkAliases at passed
      cases flaw : aliasFlaw? name before first with
      | some found =>
          rw [flaw] at passed
          cases passed
      | none =>
          rw [flaw] at passed
          obtain ⟨own, repeated⟩ := fresh_of_aliasFlaw? flaw
          obtain ⟨others, nodup⟩ := inductionHypothesis (before ++ [first]) passed
          constructor
          · intro aliasName member
            rcases List.mem_cons.1 member with rfl | later
            · exact ⟨own, repeated⟩
            · obtain ⟨foreign, fresh⟩ := others aliasName later
              exact ⟨foreign, fun early => fresh (List.mem_append_left _ early)⟩
          · refine List.nodup_cons.2 ⟨?_, nodup⟩
            intro again
            exact (others first again).2 (List.mem_append_right _ (List.mem_singleton.2 rfl))

/-- The aliases of a cache are distinct from each other and from its name. -/
theorem nodup_of_build {definition : CacheDefinition} {cache : CacheConfig}
    (built : definition.build = .ok cache) : (cache.name :: cache.aliases).Nodup := by
  unfold build at built
  dsimp only at built
  split at built
  · cases built
  · split at built
    · cases built
    · simp only [bind, Except.bind] at built
      split at built
      · cases built
      next checked =>
        split at built
        · cases built
        · injection built with shape
          subst shape
          obtain ⟨distinct, nodup⟩ := nodup_of_checkAliases _ [] checked
          refine List.nodup_cons.2 ⟨?_, nodup⟩
          intro own
          exact (distinct _ own).1 rfl

end CacheDefinition

theorem BusConfig.Validated.nodup {config : BusConfig} (validated : config.Validated)
    {name : String} {cache : CacheConfig} (held : config.cache? name = some cache) :
    (cache.name :: cache.aliases).Nodup := by
  obtain ⟨bus, checked, built⟩ := validated
  obtain ⟨indexed, _⟩ := BusDefinition.indexes_of_build built
  rcases BusDefinition.get?_indexCaches bus.caches indexed held with early | ⟨listed, _⟩
  · cases early
  · obtain ⟨definition, builtCache⟩ := checked cache listed
    exact CacheDefinition.nodup_of_build builtCache

end CacheSync
