import CacheSync.Proofs.Config.Rules
import Mathlib.Data.List.Nodup
import Mathlib.Data.List.Perm.Basic

/-!
# Accepted configurations

A configuration is built cache by cache and alias by alias, and the first flaw found ends it.  What
is accepted does not depend on the order: `exists_build_iff` says by rules on all definitions at
once which configurations are built, and `Indexes` what is then looked up.  The rules that span
caches come down to one statement on the list of all aliases.
-/

namespace CacheSync

/-! ## The index of caches -/

namespace Table

variable {κ ν : Type} [DecidableEq κ]

theorem put_of_absent {key : κ} {value : ν} {pairs : List (κ × ν)}
    (absent : key ∉ pairs.map (·.1)) : put key value pairs = pairs ++ [(key, value)] := by
  induction pairs with
  | nil => rfl
  | cons pair rest inductionHypothesis =>
      simp only [List.map_cons, List.mem_cons, not_or] at absent
      rw [put, if_neg (Ne.symm absent.1), inductionHypothesis absent.2, List.cons_append]

/-- A new key comes in behind the others. -/
theorem values_insert_of_absent {table : Table κ ν} {key : κ} {value : ν}
    (absent : table.contains key = false) :
    (table.insert key value).values = table.values ++ [value] := by
  have fresh : key ∉ table.pairs.map (·.1) := by
    intro present
    rw [contains_iff.2 present] at absent
    cases absent
  simp [insert, values, put_of_absent fresh]

end Table

namespace BusDefinition

/-- Caches are indexed exactly if their names are new and distinct. -/
theorem exists_indexCaches_iff (caches : List CacheConfig) :
    ∀ index : Table String CacheConfig,
      (∃ indexed, indexCaches index caches = .ok indexed) ↔
        (caches.map (·.name)).Nodup ∧ ∀ cache ∈ caches, index.contains cache.name = false := by
  induction caches with
  | nil => simp [indexCaches]
  | cons first rest inductionHypothesis =>
      intro index
      unfold indexCaches
      cases known : index.contains first.name with
      | true => simp [known]
      | false =>
          have others (cache : CacheConfig) :
              (index.insert first.name first).contains cache.name = false ↔
                cache.name ≠ first.name ∧ index.contains cache.name = false := by
            unfold Table.contains
            rw [Table.get?_insert]
            split
            next same => simp [same]
            next other => simp [other]
          simp only [Bool.false_eq_true, ↓reduceIte, inductionHypothesis, others, List.map_cons,
            List.nodup_cons, List.mem_map, List.forall_mem_cons, known, true_and, not_exists,
            not_and]
          constructor
          · rintro ⟨nodup, fresh⟩
            exact ⟨⟨fun cache later => (fresh cache later).1, nodup⟩,
              fun cache later => (fresh cache later).2⟩
          · rintro ⟨⟨distinct, nodup⟩, fresh⟩
            exact ⟨nodup, fun cache later => ⟨distinct cache later, fresh cache later⟩⟩

/-- The index lists the caches in their order, and finds each of them. -/
theorem of_indexCaches (caches : List CacheConfig) :
    ∀ {index indexed : Table String CacheConfig}, indexCaches index caches = .ok indexed →
      indexed.values = index.values ++ caches ∧
        ∀ {name : String} {cache : CacheConfig}, index.get? name = some cache →
          indexed.get? name = some cache := by
  induction caches with
  | nil =>
      rintro index indexed ⟨⟩
      exact ⟨(List.append_nil _).symm, id⟩
  | cons first rest inductionHypothesis =>
      intro index indexed built
      unfold indexCaches at built
      split at built
      next => cases built
      next absent =>
        rw [Bool.not_eq_true] at absent
        obtain ⟨values, kept⟩ := inductionHypothesis built
        rw [Table.values_insert_of_absent absent, List.append_assoc, List.singleton_append]
          at values
        refine ⟨values, fun held => kept ?_⟩
        rw [Table.get?_insert]
        split
        next same =>
          subst same
          simp [Table.contains, held] at absent
        next => exact held

theorem get?_of_indexCaches (caches : List CacheConfig) :
    ∀ {index indexed : Table String CacheConfig}, indexCaches index caches = .ok indexed →
      ∀ cache ∈ caches, indexed.get? cache.name = some cache := by
  induction caches with
  | nil => exact fun _ _ => nofun
  | cons first rest inductionHypothesis =>
      intro index indexed built cache member
      unfold indexCaches at built
      split at built
      next => cases built
      next =>
        rcases List.mem_cons.1 member with rfl | later
        · exact (of_indexCaches rest built).2 (by simp)
        · exact inductionHypothesis built cache later

theorem get?_indexCaches_empty_iff {caches : List CacheConfig} {indexed : Table String CacheConfig}
    (built : indexCaches .empty caches = .ok indexed) {name : String} {cache : CacheConfig} :
    indexed.get? name = some cache ↔ cache ∈ caches ∧ cache.name = name := by
  constructor
  · intro held
    rcases get?_indexCaches caches built held with early | found
    · cases early
    · exact found
  · rintro ⟨member, rfl⟩
    exact get?_of_indexCaches caches built cache member

/-! ## The index of aliases -/

variable {caches : Table String CacheConfig}

theorem exists_claimAliases_iff (cache : CacheConfig) (aliases : List String) :
    ∀ owners : Table String CacheConfig,
      (∃ claimed, claimAliases caches cache owners aliases = .ok claimed) ↔
        aliases.Nodup ∧ ∀ aliasName ∈ aliases,
          owners.get? aliasName = none ∧ targetAllowed caches aliasName = true := by
  induction aliases with
  | nil => simp [claimAliases]
  | cons first rest inductionHypothesis =>
      intro owners
      unfold claimAliases
      cases known : owners.get? first with
      | some owner => simp [Table.contains, known]
      | none =>
          cases allowed : targetAllowed caches first with
          | false => simp [Table.contains, known, allowed]
          | true =>
              simp only [Table.contains, known, Option.isSome_none, Bool.false_eq_true, ↓reduceIte,
                inductionHypothesis, Table.get?_insert, List.nodup_cons, List.forall_mem_cons,
                allowed, and_self, true_and]
              constructor
              · rintro ⟨nodup, others⟩
                refine ⟨⟨fun again => ?_, nodup⟩, fun aliasName later => ?_⟩
                · simpa using (others first again).1
                · have fresh := others aliasName later
                  split at fresh
                  · simp at fresh
                  · exact fresh
              · rintro ⟨⟨distinct, nodup⟩, others⟩
                refine ⟨nodup, fun aliasName later => ?_⟩
                have other : aliasName ≠ first := by
                  rintro rfl
                  exact distinct later
                rw [if_neg other]
                exact others aliasName later

theorem get?_claimAliases_iff (cache : CacheConfig) (aliases : List String) :
    ∀ {owners claimed : Table String CacheConfig},
      claimAliases caches cache owners aliases = .ok claimed →
        ∀ {aliasName : String} {owner : CacheConfig}, claimed.get? aliasName = some owner ↔
          owners.get? aliasName = some owner ∨ owner = cache ∧ aliasName ∈ aliases := by
  induction aliases with
  | nil =>
      rintro owners claimed ⟨⟩
      simp
  | cons first rest inductionHypothesis =>
      intro owners claimed built aliasName owner
      unfold claimAliases at built
      split at built
      next => cases built
      next absent =>
        split at built
        next =>
          rw [inductionHypothesis built, Table.get?_insert]
          simp only [Table.contains, Bool.not_eq_true, Option.isSome_eq_false_iff,
            Option.isNone_iff_eq_none] at absent
          split
          next same =>
            subst same
            simp only [Option.some.injEq, absent, reduceCtorEq, false_or, List.mem_cons, true_or,
              and_true]
            exact ⟨fun found => found.elim Eq.symm And.left, fun same => Or.inl same.symm⟩
          next other => simp [other]
        next => cases built

theorem exists_indexAliases_iff (configs : List CacheConfig) :
    ∀ owners : Table String CacheConfig,
      (∃ indexed, indexAliases caches owners configs = .ok indexed) ↔
        (configs.flatMap (·.aliases)).Nodup ∧ ∀ aliasName ∈ configs.flatMap (·.aliases),
          owners.get? aliasName = none ∧ targetAllowed caches aliasName = true := by
  induction configs with
  | nil => simp [indexAliases]
  | cons first rest inductionHypothesis =>
      intro owners
      have firstClaims := @exists_claimAliases_iff caches first first.aliases owners
      simp only [indexAliases, bind_eq_ok_iff, List.flatMap_cons, List.nodup_append,
        List.forall_mem_append]
      constructor
      · rintro ⟨indexed, claimed, early, late⟩
        obtain ⟨nodup, fresh⟩ := firstClaims.1 ⟨claimed, early⟩
        obtain ⟨restNodup, restFresh⟩ := (inductionHypothesis claimed).1 ⟨indexed, late⟩
        have unclaimed (aliasName : String) (later : aliasName ∈ rest.flatMap (·.aliases)) :
            owners.get? aliasName = none ∧ aliasName ∉ first.aliases := by
          have free := (restFresh aliasName later).1
          constructor
          · refine Option.eq_none_iff_forall_not_mem.2 fun owner held => ?_
            rw [(get?_claimAliases_iff first _ early).2 (Or.inl held)] at free
            cases free
          · intro own
            rw [(get?_claimAliases_iff first _ early).2 (Or.inr ⟨rfl, own⟩)] at free
            cases free
        refine ⟨⟨nodup, restNodup, ?_⟩, fresh, fun aliasName later =>
          ⟨(unclaimed aliasName later).1, (restFresh aliasName later).2⟩⟩
        rintro aliasName own other later rfl
        exact (unclaimed aliasName later).2 own
      · rintro ⟨⟨nodup, restNodup, apart⟩, fresh, restFresh⟩
        obtain ⟨claimed, early⟩ := firstClaims.2 ⟨nodup, fresh⟩
        have unclaimed (aliasName : String) (later : aliasName ∈ rest.flatMap (·.aliases)) :
            claimed.get? aliasName = none := by
          refine Option.eq_none_iff_forall_not_mem.2 fun owner held => ?_
          rcases (get?_claimAliases_iff first _ early).1 held with before | ⟨_, own⟩
          · rw [(restFresh aliasName later).1] at before
            cases before
          · exact apart aliasName own aliasName later rfl
        obtain ⟨indexed, late⟩ := (inductionHypothesis claimed).2
          ⟨restNodup, fun aliasName later =>
            ⟨unclaimed aliasName later, (restFresh aliasName later).2⟩⟩
        exact ⟨indexed, claimed, early, late⟩

theorem get?_indexAliases_iff (configs : List CacheConfig) :
    ∀ {owners indexed : Table String CacheConfig},
      indexAliases caches owners configs = .ok indexed →
        ∀ {aliasName : String} {owner : CacheConfig}, indexed.get? aliasName = some owner ↔
          owners.get? aliasName = some owner ∨ owner ∈ configs ∧ aliasName ∈ owner.aliases := by
  induction configs with
  | nil =>
      rintro owners indexed ⟨⟩
      simp
  | cons first rest inductionHypothesis =>
      intro owners indexed built aliasName owner
      obtain ⟨claimed, early, late⟩ := bind_eq_ok_iff.1 built
      rw [inductionHypothesis late, get?_claimAliases_iff first _ early, List.mem_cons]
      constructor
      · rintro ((before | ⟨rfl, own⟩) | ⟨later, own⟩)
        · exact Or.inl before
        · exact Or.inr ⟨Or.inl rfl, own⟩
        · exact Or.inr ⟨Or.inr later, own⟩
      · rintro (before | ⟨rfl | later, own⟩)
        · exact Or.inl (Or.inl before)
        · exact Or.inl (Or.inr ⟨rfl, own⟩)
        · exact Or.inr ⟨later, own⟩

/-- Every alias may be claimed exactly if none of them names a replicated cache. -/
theorem targetAllowed_iff {listed : List CacheConfig}
    (built : indexCaches .empty listed = .ok caches) {aliases : List String} :
    (∀ aliasName ∈ aliases, targetAllowed caches aliasName = true) ↔
      ∀ cache ∈ listed, cache.policy = .replicated → cache.name ∉ aliases := by
  constructor
  · intro allowed cache member replicated named
    have target := allowed cache.name named
    simp [targetAllowed, (get?_indexCaches_empty_iff built).2 ⟨member, rfl⟩, replicated] at target
  · intro apart aliasName named
    unfold targetAllowed
    cases held : caches.get? aliasName with
    | none => rfl
    | some target =>
        obtain ⟨member, rfl⟩ := (get?_indexCaches_empty_iff built).1 held
        cases policy : target.policy with
        | invalidated => simp [policy]
        | replicated => exact absurd named (apart target member policy)

end BusDefinition

/-! ## Whole configurations -/

/-- The rules of a configuration, on all its caches at once. -/
structure BusDefinition.Consistent (settings : BusDefinition) (caches : List CacheConfig) :
    Prop where
  named : ∀ cache ∈ caches, cache.name ≠ ""
  distinct : (caches.map (·.name)).Nodup
  plain_of_replicated : ∀ cache ∈ caches, cache.policy = .replicated → cache.aliases = []
  aliases_named : ∀ cache ∈ caches, ∀ aliasName ∈ cache.aliases, aliasName ≠ ""
  foreign : ∀ cache ∈ caches, cache.name ∉ cache.aliases
  /-- No alias is listed twice, be it by one cache or by two. -/
  once : (caches.flatMap (·.aliases)).Nodup
  target_invalidated : ∀ cache ∈ caches, cache.policy = .replicated →
    cache.name ∉ caches.flatMap (·.aliases)
  comparable : ∀ cache ∈ caches, ∀ comparison ∈ cache.comparison, comparison.Positive
  producer : settings.producer.Shaped
  consumer : settings.consumer.Shaped
  recovery : settings.recovery.Valid
  threshold : 1 ≤ settings.threshold

namespace BusDefinition

/-- Build a configuration, but let the caches claim their aliases in an order of one's own. -/
def buildIn (arrange : List CacheConfig → List CacheConfig) (definition : BusDefinition) :
    Except ConfigError BusConfig := do
  definition.producer.check .producer
  definition.consumer.check .consumer
  definition.recovery.check
  checkThreshold definition.threshold
  let caches ← indexCaches .empty definition.caches
  let owners ← indexAliases caches .empty (arrange caches.values)
  .ok { definition.bare with caches := caches, aliasOwners := owners }

theorem buildIn_id (definition : BusDefinition) : definition.buildIn id = definition.build := rfl

/-- Check every cache by itself, and build a configuration of them with the other settings. -/
def buildFrom (arrange : List CacheConfig → List CacheConfig)
    (definitions : List CacheDefinition) (settings : BusDefinition) :
    Except ConfigError BusConfig := do
  let caches ← definitions.mapM CacheDefinition.build
  { settings with caches := caches }.buildIn arrange

theorem checkThreshold_eq_ok_iff {threshold : Nat} :
    checkThreshold threshold = .ok () ↔ 1 ≤ threshold := by
  unfold checkThreshold
  split
  next none => simp [none]
  next some =>
    simp only [true_iff]
    omega

end BusDefinition

/-- What is found in a configuration of some caches. -/
structure BusConfig.Indexes (config : BusConfig) (caches : List CacheConfig)
    (settings : BusDefinition) : Prop where
  cache_iff : ∀ {name : String} {cache : CacheConfig},
    config.cache? name = some cache ↔ cache ∈ caches ∧ cache.name = name
  owner_iff : ∀ {aliasName : String} {cache : CacheConfig},
    config.aliasOwner? aliasName = some cache ↔ cache ∈ caches ∧ aliasName ∈ cache.aliases
  producer_rings : config.producer.HasRings .producer
  consumer_rings : config.consumer.HasRings .consumer
  /-- Everything else is as it was written down. -/
  others : { config with caches := .empty, aliasOwners := .empty } = settings.bare

/-- Two configurations find the same under every name. -/
structure BusConfig.FindsAs (config other : BusConfig) : Prop where
  cache? : ∀ name, config.cache? name = other.cache? name
  aliasOwner? : ∀ aliasName, config.aliasOwner? aliasName = other.aliasOwner? aliasName

namespace BusConfig.Indexes

variable {config other : BusConfig} {caches permuted : List CacheConfig} {settings : BusDefinition}

/-- What is found does not depend on the order of the caches. -/
theorem findsAs (indexes : config.Indexes caches settings)
    (otherIndexes : other.Indexes permuted settings) (perm : permuted.Perm caches) :
    config.FindsAs other where
  cache? name := by
    refine Option.ext fun cache => ?_
    rw [indexes.cache_iff, otherIndexes.cache_iff, perm.mem_iff]
  aliasOwner? aliasName := by
    refine Option.ext fun cache => ?_
    rw [indexes.owner_iff, otherIndexes.owner_iff, perm.mem_iff]

end BusConfig.Indexes

namespace BusDefinition

variable {settings : BusDefinition} {caches : List CacheConfig}
  {arrange : List CacheConfig → List CacheConfig}

theorem Consistent.of_perm (consistent : settings.Consistent caches) {permuted : List CacheConfig}
    (perm : permuted.Perm caches) : settings.Consistent permuted where
  named cache member := consistent.named cache (perm.mem_iff.1 member)
  distinct := (perm.map _).nodup_iff.2 consistent.distinct
  plain_of_replicated cache member := consistent.plain_of_replicated cache (perm.mem_iff.1 member)
  aliases_named cache member := consistent.aliases_named cache (perm.mem_iff.1 member)
  foreign cache member := consistent.foreign cache (perm.mem_iff.1 member)
  once := (perm.flatMap_right _).nodup_iff.2 consistent.once
  target_invalidated cache member replicated named :=
    consistent.target_invalidated cache (perm.mem_iff.1 member) replicated
      ((perm.flatMap_right _).mem_iff.1 named)
  comparable cache member := consistent.comparable cache (perm.mem_iff.1 member)
  producer := consistent.producer
  consumer := consistent.consumer
  recovery := consistent.recovery
  threshold := consistent.threshold

theorem Consistent.sound (consistent : settings.Consistent caches) :
    ∀ cache ∈ caches, cache.Sound := by
  intro cache member
  have nodup : cache.aliases.Nodup := (List.nodup_flatMap.1 consistent.once).1 cache member
  exact
    { named := consistent.named cache member
      plain_of_replicated := consistent.plain_of_replicated cache member
      aliases_named := consistent.aliases_named cache member
      foreign := consistent.foreign cache member
      nodup := nodup
      comparable := consistent.comparable cache member }

/-- A configuration is built from its parts, in whatever order the aliases are claimed. -/
theorem buildFrom_eq_ok_iff {definitions : List CacheDefinition} {config : BusConfig} :
    buildFrom arrange definitions settings = .ok config ↔
      ∃ index owners, (∀ cache ∈ definitions.map CacheDefinition.trimmed, cache.Sound) ∧
        settings.producer.Shaped ∧ settings.consumer.Shaped ∧ settings.recovery.Valid ∧
          1 ≤ settings.threshold ∧
            indexCaches .empty (definitions.map CacheDefinition.trimmed) = .ok index ∧
              indexAliases index .empty (arrange index.values) = .ok owners ∧
                { settings.bare with caches := index, aliasOwners := owners } = config := by
  simp only [buildFrom, buildIn, bind_eq_ok_iff, CacheDefinition.mapM_build_eq_ok_iff,
    Unique.exists_iff, PUnit.default_eq_unit, Dispatch.check_eq_ok_iff,
    RecoverySettings.check_eq_ok_iff, checkThreshold_eq_ok_iff]
  constructor
  · rintro ⟨caches, ⟨rfl, sound⟩, producer, consumer, recovery, threshold, index, indexed, owners,
      claimed, same⟩
    injection same with same
    exact ⟨index, owners, sound, producer, consumer, recovery, threshold, indexed, claimed, same⟩
  · rintro ⟨index, owners, sound, producer, consumer, recovery, threshold, indexed, claimed, same⟩
    exact ⟨_, ⟨rfl, sound⟩, producer, consumer, recovery, threshold, index, indexed, owners,
      claimed, congrArg Except.ok same⟩

section

variable (fair : ∀ listed, (arrange listed).Perm listed) (definitions : List CacheDefinition)
include fair

theorem exists_build_iff :
    (∃ config, buildFrom arrange definitions settings = .ok config) ↔
      settings.Consistent (definitions.map CacheDefinition.trimmed) := by
  simp only [buildFrom_eq_ok_iff]
  generalize definitions.map CacheDefinition.trimmed = caches
  have arranged : ∀ index : Table String CacheConfig, indexCaches .empty caches = .ok index →
      (arrange index.values).Perm caches := by
    intro index indexed
    have values := (of_indexCaches caches indexed).1
    rw [show index.values = caches from values]
    exact fair caches
  constructor
  · rintro ⟨config, index, owners, sound, producer, consumer, recovery, threshold, indexed, claimed,
      _⟩
    have perm := (arranged index indexed).flatMap_right (·.aliases)
    obtain ⟨once, claims⟩ := (exists_indexAliases_iff _ .empty).1 ⟨owners, claimed⟩
    exact
      { named := fun cache member => (sound cache member).named
        distinct := ((exists_indexCaches_iff caches .empty).1 ⟨index, indexed⟩).1
        plain_of_replicated := fun cache member => (sound cache member).plain_of_replicated
        aliases_named := fun cache member => (sound cache member).aliases_named
        foreign := fun cache member => (sound cache member).foreign
        once := perm.nodup_iff.1 once
        target_invalidated := (targetAllowed_iff indexed).1 fun aliasName member =>
          (claims aliasName (perm.mem_iff.2 member)).2
        comparable := fun cache member => (sound cache member).comparable
        producer, consumer, recovery, threshold }
  · intro consistent
    obtain ⟨index, indexed⟩ := (exists_indexCaches_iff caches .empty).2
      ⟨consistent.distinct, fun _ _ => rfl⟩
    have perm := (arranged index indexed).flatMap_right (·.aliases)
    have allowed := (targetAllowed_iff indexed).2 consistent.target_invalidated
    obtain ⟨owners, claimed⟩ := (exists_indexAliases_iff (arrange index.values) .empty).2
      ⟨perm.nodup_iff.2 consistent.once, fun aliasName member =>
        ⟨rfl, allowed aliasName (perm.mem_iff.1 member)⟩⟩
    exact ⟨_, index, owners, consistent.sound, consistent.producer, consistent.consumer,
      consistent.recovery, consistent.threshold, indexed, claimed, rfl⟩

theorem indexes_of_buildFrom {config : BusConfig}
    (built : buildFrom arrange definitions settings = .ok config) :
    config.Indexes (definitions.map CacheDefinition.trimmed) settings := by
  obtain ⟨index, owners, _, producer, consumer, _, _, indexed, claimed, rfl⟩ :=
    buildFrom_eq_ok_iff.1 built
  have values := (of_indexCaches _ indexed).1
  refine ⟨get?_indexCaches_empty_iff indexed, ?_, producer.hasRings _, consumer.hasRings _, rfl⟩
  intro aliasName cache
  have owned : owners.get? aliasName = some cache ↔ _ := get?_indexAliases_iff _ claimed
  rw [(fair index.values).mem_iff, show index.values = _ from values] at owned
  exact owned.trans (or_iff_right nofun)

/-- Definitions are accepted exactly if they are consistent once blanks are cut off.  What is then
found is what they say, and neither the order of the definitions nor the one in which their aliases
are claimed makes a difference. -/
theorem accepts_iff_consistent (settings : BusDefinition) :
    ((∃ config, buildFrom arrange definitions settings = .ok config) ↔
        settings.Consistent (definitions.map CacheDefinition.trimmed)) ∧
      (∀ config, buildFrom arrange definitions settings = .ok config →
        config.Indexes (definitions.map CacheDefinition.trimmed) settings) ∧
      ∀ (permuted : List CacheDefinition) (rearrange : List CacheConfig → List CacheConfig),
        permuted.Perm definitions → (∀ listed, (rearrange listed).Perm listed) →
          ((∃ config, buildFrom arrange definitions settings = .ok config) ↔
              ∃ config, buildFrom rearrange permuted settings = .ok config) ∧
            ∀ config other, buildFrom arrange definitions settings = .ok config →
              buildFrom rearrange permuted settings = .ok other → config.FindsAs other := by
  refine ⟨exists_build_iff fair definitions,
    fun config built => indexes_of_buildFrom fair definitions built, ?_⟩
  intro permuted rearrange perm refair
  have trimmedPerm := perm.map CacheDefinition.trimmed
  constructor
  · rw [exists_build_iff fair, exists_build_iff refair]
    exact ⟨fun consistent => consistent.of_perm trimmedPerm,
      fun consistent => consistent.of_perm trimmedPerm.symm⟩
  · intro config other built otherBuilt
    exact (indexes_of_buildFrom fair definitions built).findsAs
      (indexes_of_buildFrom refair permuted otherBuilt) trimmedPerm

end

/-- Two caches, one with blanks around its name and its aliases. -/
def mixedDefinitions : List CacheDefinition :=
  [⟨" users\t", .invalidated, ["people\u3000", "staff"], some .default⟩,
    ⟨"orders", .replicated, [], none⟩]

def mixedSettings : BusDefinition :=
  { default with producer := .striped 4 8 }

theorem accepts_iff_consistent_mixed :
    (∀ listed : List CacheConfig, listed.reverse.Perm listed) ∧
      mixedSettings.Consistent (mixedDefinitions.map CacheDefinition.trimmed) ∧
        ∃ config, buildFrom List.reverse mixedDefinitions mixedSettings = .ok config ∧
          config.Indexes (mixedDefinitions.map CacheDefinition.trimmed) mixedSettings := by
  have fair : ∀ listed : List CacheConfig, listed.reverse.Perm listed := List.reverse_perm
  obtain ⟨accepted, indexes, _⟩ := accepts_iff_consistent fair mixedDefinitions mixedSettings
  have builds : (buildFrom List.reverse mixedDefinitions mixedSettings).toOption.isSome = true := by
    decide +kernel
  cases built : buildFrom List.reverse mixedDefinitions mixedSettings with
  | error error =>
      rw [built] at builds
      cases builds
  | ok config => exact ⟨fair, accepted.1 ⟨config, built⟩, config, rfl, indexes config built⟩

end BusDefinition
end CacheSync
