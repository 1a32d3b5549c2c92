import CacheSync.Proofs.Timestamps.Saving

/-!
# Removing old records

A removal forgets the recorded times before its bound, for all keys of its cache and no others.
What a record then still says about the times that were offered for its key is `Tracks`: it is the
latest of them, apart from some that a bound is above.  So an event that is above all bounds is
news exactly if it is later than everything offered before, whatever was forgotten.
-/

namespace CacheSync

namespace TimestampStore

variable (store : TimestampStore) (cache other key otherKey : String) (micros : Int)
  (comparison : Comparison) (expiration : Duration) (clock : Clock)

/-! ## Recorded times after a removal -/

theorem last?_finishCleanup :
    (store.finishCleanup cache expiration clock).store.last? other key =
      if other = cache then
        (store.last? cache key).filter (CacheRecords.cutoff expiration clock ≤ ·)
      else store.last? other key := by
  unfold finishCleanup
  cases held : store.tables.get? cache with
  | none =>
      by_cases same : other = cache
      · subst same
        simp [last?, held]
      · simp [same]
  | some records =>
      dsimp only
      rw [last?_insert]
      by_cases same : other = cache
      · subst same
        simp [last?, held, CacheRecords.purge]
      · simp [same]

/-- A removal that is carried out at once forgets the times before its bound. -/
theorem startCleanup_of_cleaned {records : CacheRecords}
    (cleaned : (store.startCleanup cache records expiration clock).2.isCleaned = true) :
    (store.startCleanup cache records expiration clock).1 =
      (store.finishCleanup cache expiration clock).store := by
  unfold startCleanup at cleaned ⊢
  by_cases running : records.cleaning = true
  · simp [running, FollowUp.isCleaned] at cleaned
  · by_cases background : store.settings.background = true
    · simp [running, background, FollowUp.isCleaned] at cleaned
    · simp only [running, background, Bool.false_eq_true, ↓reduceIte]

/-- A save that removes old records has recorded its event before. -/
theorem last?_saveKey_of_cleaned
    (cleaned : (store.saveKey cache key micros comparison clock).followUp.isCleaned = true) :
    (store.saveKey cache key micros comparison clock).store.last? cache otherKey =
      (if otherKey = key ∧ store.isNews cache key micros = true then some micros
        else store.last? cache otherKey).filter
          (CacheRecords.cutoff comparison.expiration clock ≤ ·) := by
  have saved := store.last?_insert_save cache key micros clock cache otherKey
  simp only [true_and] at saved
  unfold saveKey at cleaned ⊢
  dsimp only at cleaned ⊢
  split
  next due =>
    rw [if_pos due] at cleaned
    rw [startCleanup_of_cleaned _ _ _ _ cleaned, last?_finishCleanup, if_pos rfl, saved]
  next early =>
    rw [if_neg early] at cleaned
    cases cleaned

/-- A save changes nothing that is recorded of another cache. -/
theorem last?_saveKey_of_ne (different : other ≠ cache) :
    (store.saveKey cache key micros comparison clock).store.last? other otherKey =
      store.last? other otherKey := by
  have saved := store.last?_insert_save cache key micros clock other otherKey
  simp only [different, false_and, ↓reduceIte] at saved
  cases cleaned : (store.saveKey cache key micros comparison clock).followUp.isCleaned with
  | false =>
      rw [last?_saveKey _ _ _ _ _ _ cleaned, if_neg fun same => different same.1]
  | true =>
      unfold saveKey at cleaned ⊢
      dsimp only at cleaned ⊢
      split
      next due =>
        rw [if_pos due] at cleaned
        rw [startCleanup_of_cleaned _ _ _ _ cleaned, last?_finishCleanup, if_neg different, saved]
      next => exact saved

/-! ## What a record tells of the past -/

/-- What is recorded is the latest of the times offered, except those below some bound. -/
def Tracks (recorded : Option Int) (offers bounds : List Int) : Prop :=
  match recorded with
  | none => ∀ offer ∈ offers, ∃ bound ∈ bounds, offer < bound
  | some latest => latest ∈ offers ∧
      ∀ offer ∈ offers, offer ≤ latest ∨ ∃ bound ∈ bounds, offer < bound

/-- Whether a time is later than what is recorded. -/
def isLater (recorded : Option Int) (time : Int) : Bool :=
  match recorded with
  | none => true
  | some latest => latest < time

namespace Tracks

variable {recorded : Option Int} {offers bounds : List Int}

theorem nil : Tracks none [] [] := by
  intro offer member
  cases member

/-- Above all bounds, to be later than the record is to be later than everything offered. -/
theorem isLater_iff (tracks : Tracks recorded offers bounds) {time : Int}
    (above : ∀ bound ∈ bounds, bound ≤ time) :
    isLater recorded time = true ↔ ∀ offer ∈ offers, offer < time := by
  have forgotten {offer : Int} (below : ∃ bound ∈ bounds, offer < bound) : offer < time := by
    obtain ⟨bound, member, less⟩ := below
    have reached := above bound member
    omega
  cases recorded with
  | none =>
      apply iff_of_true rfl
      intro offer member
      exact forgotten (tracks offer member)
  | some latest =>
      obtain ⟨offered, greatest⟩ := tracks
      simp only [isLater, decide_eq_true_eq]
      constructor
      · intro later offer member
        rcases greatest offer member with atMost | below
        · omega
        · exact forgotten below
      · intro all
        exact all latest offered

/-- Another time is offered, and recorded if it is later than the record. -/
theorem offer (tracks : Tracks recorded offers bounds) (time : Int) :
    Tracks (if isLater recorded time = true then some time else recorded) (offers ++ [time])
      bounds := by
  cases recorded with
  | none =>
      refine ⟨List.mem_append_right _ (List.mem_singleton.2 rfl), ?_⟩
      intro offer member
      rcases List.mem_append.1 member with before | last
      · exact Or.inr (tracks offer before)
      · rw [List.mem_singleton.1 last]
        exact Or.inl (Int.le_refl time)
  | some latest =>
      obtain ⟨offered, greatest⟩ := tracks
      by_cases later : latest < time
      · rw [if_pos (by simpa [isLater] using later)]
        refine ⟨List.mem_append_right _ (List.mem_singleton.2 rfl), ?_⟩
        intro offer member
        rcases List.mem_append.1 member with before | last
        · rcases greatest offer before with atMost | below
          · exact Or.inl (by omega)
          · exact Or.inr below
        · rw [List.mem_singleton.1 last]
          exact Or.inl (Int.le_refl time)
      · rw [if_neg (by simpa [isLater] using later)]
        refine ⟨List.mem_append_left _ offered, ?_⟩
        intro offer member
        rcases List.mem_append.1 member with before | last
        · exact greatest offer before
        · rw [List.mem_singleton.1 last]
          exact Or.inl (by omega)

/-- A removal forgets the record if it is before its bound. -/
theorem remove (tracks : Tracks recorded offers bounds) (bound : Int) :
    Tracks (recorded.filter (bound ≤ ·)) offers (bounds ++ [bound]) := by
  have earlier {offer : Int} (below : ∃ bound ∈ bounds, offer < bound) :
      ∃ one ∈ bounds ++ [bound], offer < one := by
    obtain ⟨one, member, less⟩ := below
    exact ⟨one, List.mem_append_left _ member, less⟩
  cases recorded with
  | none =>
      intro offer member
      exact earlier (tracks offer member)
  | some latest =>
      obtain ⟨offered, greatest⟩ := tracks
      by_cases kept : bound ≤ latest
      · simp only [Option.filter_some, kept, decide_true, ↓reduceIte]
        refine ⟨offered, ?_⟩
        intro offer member
        rcases greatest offer member with atMost | below
        · exact Or.inl atMost
        · exact Or.inr (earlier below)
      · simp only [Option.filter_some, kept, decide_false, Bool.false_eq_true, ↓reduceIte]
        intro offer member
        rcases greatest offer member with atMost | below
        · refine ⟨bound, List.mem_append_right _ (List.mem_singleton.2 rfl), ?_⟩
          omega
        · exact earlier below

end Tracks

/-- A save offers its time for its own key, and a removal that follows at once sets a bound for
every key. -/
theorem Tracks.saveKey {offers bounds : List Int}
    (tracks : Tracks (store.last? cache otherKey) offers bounds) :
    Tracks ((store.saveKey cache key micros comparison clock).store.last? cache otherKey)
      (offers ++ if otherKey = key then [micros] else [])
      (bounds ++ if (store.saveKey cache key micros comparison clock).followUp.isCleaned = true
        then [CacheRecords.cutoff comparison.expiration clock] else []) := by
  have saved : Tracks
      (if otherKey = key ∧ store.isNews cache key micros = true then some micros
        else store.last? cache otherKey)
      (offers ++ if otherKey = key then [micros] else []) bounds := by
    by_cases same : otherKey = key
    · subst same
      simp only [true_and, ↓reduceIte]
      exact tracks.offer micros
    · simpa only [same, false_and, ↓reduceIte, List.append_nil] using tracks
  cases cleaned : (store.saveKey cache key micros comparison clock).followUp.isCleaned with
  | false =>
      rw [last?_saveKey _ _ _ _ _ _ cleaned]
      simpa using saved
  | true =>
      rw [last?_saveKey_of_cleaned _ _ _ _ _ _ _ cleaned]
      exact saved.remove _

end TimestampStore

end CacheSync
