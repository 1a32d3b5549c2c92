import CacheSync.Proofs.Config.Validated
import CacheSync.Proofs.Timestamps.Removal

/-!
# Records do not depend on the order of arrival

A `Deed` is what can be done with the records of a node.  After any deeds, the records of a cache
from a floor upwards are the latest of the times saved for each key, unless a removal had a bound
above the floor; which saves were accepted on the way, and which records were removed and came
back, does not matter.  So two runs that save the same events, in whatever order, agree.
-/

namespace CacheSync

theorem Table.mem_pairs_iff {κ ν : Type} [DecidableEq κ] (table : Table κ ν) (key : κ)
    (value : ν) : (key, value) ∈ table.pairs ↔ table.get? key = some value := by
  refine ⟨fun member => ?_, mem_pairs_of_lookup⟩
  obtain ⟨pairs, nodup⟩ := table
  unfold get?
  induction pairs with
  | nil => cases member
  | cons pair rest inductionHypothesis =>
      simp only [List.map_cons, List.nodup_cons] at nodup
      unfold lookup
      rcases List.mem_cons.1 member with first | later
      · rw [← first, if_pos rfl]
      · have different : pair.1 ≠ key := by
          rintro rfl
          exact nodup.1 (List.mem_map.2 ⟨_, later, rfl⟩)
        rw [if_neg different]
        exact inductionHypothesis nodup.2 later

namespace TimestampStore

/-! ## Deeds -/

/-- The events about a single entry of a cache that a deed saves. -/
def Deed.saved (cache : String) : Deed → List Event
  | .save event _ _ => if event.cache = cache ∧ event.key ≠ .all then [event] else []
  | _ => []

/-- The bound of the removal that a deed carries out for a cache, if it does. -/
def boundsOf (store : TimestampStore) (cache : String) : Deed → List Int
  | .save event comparison clock =>
      if event.cache = cache ∧ (store.save event comparison clock).followUp.isCleaned = true then
        [CacheRecords.cutoff comparison.expiration clock]
      else []
  | .cleanUp name expiration clock =>
      if name = cache ∧ (store.cleanup? name expiration clock).isSome = true then
        [CacheRecords.cutoff expiration clock]
      else []
  | .finish name expiration clock =>
      if name = cache then [CacheRecords.cutoff expiration clock] else []
  | .clear => []

/-- The bounds of all removals of a cache in the course of some deeds. -/
def bounds (store : TimestampStore) (cache : String) : List Deed → List Int
  | [] => []
  | deed :: rest => store.boundsOf cache deed ++ (store.undergo deed).bounds cache rest

/-- The times of the events about a key. -/
def timesOf (key : String) (events : List Event) : List Int :=
  (events.filter fun event => event.key = .entry key).map Event.micros

/-- The latest time of the events about a key. -/
def latest? (key : String) (events : List Event) : Option Int :=
  (timesOf key events).max?

/-- The records of a cache, as pairs of a key and a time. -/
def records (store : TimestampStore) (cache : String) : List (String × Int) :=
  match store.tables.get? cache with
  | none => []
  | some records => records.latest.pairs

theorem mem_records (store : TimestampStore) (cache key : String) (time : Int) :
    (key, time) ∈ store.records cache ↔ store.last? cache key = some time := by
  unfold records last?
  cases store.tables.get? cache with
  | none => simp
  | some records => exact records.latest.mem_pairs_iff key time

theorem nodup_records (store : TimestampStore) (cache : String) : (store.records cache).Nodup := by
  unfold records
  cases store.tables.get? cache with
  | none => exact List.nodup_nil
  | some records => exact List.Pairwise.of_map _ (fun _ _ => mt (congrArg _)) records.latest.nodup

/-! ## What a run leaves recorded -/

/-- A removal that is not refused is carried out. -/
theorem eq_finishCleanup_of_cleanup? {store : TimestampStore} {cache : String}
    {expiration : Duration} {clock : Clock} {cleanup : Cleanup}
    (done : store.cleanup? cache expiration clock = some cleanup) :
    cleanup = store.finishCleanup cache expiration clock := by
  unfold cleanup? at done
  split at done
  · cases done
  next =>
    split at done
    · cases done
    · exact (Option.some.inj done).symm

variable {store : TimestampStore} {cache key : String} {offers bounds : List Int} {floor : Int}

theorem timesOf_singleton {event : Event} {one : String} (about : event.key = .entry one) :
    timesOf key [event] = if key = one then [event.micros] else [] := by
  by_cases same : key = one
  · simp [timesOf, about, same]
  · have different : one ≠ key := Ne.symm same
    simp [timesOf, about, same, different]

theorem finishCleanup_tracks (name : String) (expiration : Duration) (clock : Clock)
    (tracks : Tracks (store.last? cache key) offers bounds) :
    Tracks ((store.finishCleanup name expiration clock).store.last? cache key) offers
      (bounds ++ if name = cache then [CacheRecords.cutoff expiration clock] else []) := by
  rw [last?_finishCleanup]
  by_cases same : name = cache
  · rw [if_pos same.symm, if_pos same, same]
    exact tracks.remove _
  · rw [if_neg (Ne.symm same), if_neg same, List.append_nil]
    exact tracks

/-- A deed offers the times it saves, and the bounds of its removals are the only ones added. -/
theorem undergo_tracks {deed : Deed} (kept : deed ≠ .clear)
    (tracks : Tracks (store.last? cache key) offers bounds) :
    Tracks ((store.undergo deed).last? cache key) (offers ++ timesOf key (deed.saved cache))
      (bounds ++ store.boundsOf cache deed) := by
  cases deed with
  | clear => exact absurd rfl kept
  | save event comparison clock =>
      cases about : event.key with
      | all =>
          have saved := store.save_all about comparison clock
          simpa [undergo, Deed.saved, boundsOf, saved, about, timesOf, FollowUp.isCleaned]
            using tracks
      | entry one =>
          have saved := store.save_entry about comparison clock
          by_cases same : event.cache = cache
          · have offered := Tracks.saveKey store cache one key event.micros comparison clock tracks
            rw [← timesOf_singleton about] at offered
            simpa [undergo, Deed.saved, boundsOf, saved, about, same] using offered
          · have untouched := store.last?_saveKey_of_ne event.cache cache one key event.micros
              comparison clock (Ne.symm same)
            simpa [undergo, Deed.saved, boundsOf, saved, same, timesOf, untouched] using tracks
  | cleanUp name expiration clock =>
      have offered : timesOf key (Deed.saved cache (.cleanUp name expiration clock)) = [] := rfl
      rw [offered, List.append_nil]
      cases done : store.cleanup? name expiration clock with
      | none => simpa [undergo, boundsOf, done] using tracks
      | some cleanup =>
          have removed := finishCleanup_tracks name expiration clock tracks
          rw [← eq_finishCleanup_of_cleanup? done] at removed
          simpa [undergo, boundsOf, done] using removed
  | finish name expiration clock =>
      have offered : timesOf key (Deed.saved cache (.finish name expiration clock)) = [] := rfl
      rw [offered, List.append_nil]
      exact finishCleanup_tracks name expiration clock tracks

theorem undergoAll_tracks {deeds : List Deed} (kept : .clear ∉ deeds)
    (tracks : Tracks (store.last? cache key) offers bounds) :
    Tracks ((store.undergoAll deeds).last? cache key)
      (offers ++ timesOf key (deeds.flatMap (Deed.saved cache)))
      (bounds ++ store.bounds cache deeds) := by
  -- What came before is all in the lists of offers and bounds, so these vary with the store.
  induction deeds generalizing store offers bounds with
  | nil => simpa [timesOf, TimestampStore.bounds, undergoAll] using tracks
  | cons deed rest inductionHypothesis =>
      have first : deed ≠ .clear := by
        rintro rfl
        exact kept List.mem_cons_self
      have later : .clear ∉ rest := fun member => kept (List.mem_cons_of_mem deed member)
      have rested := inductionHypothesis later (undergo_tracks first tracks)
      simpa [timesOf, TimestampStore.bounds, undergoAll] using rested

theorem Tracks.max?_eq {offers bounds : List Int} {latest : Int}
    (tracks : Tracks (some latest) offers bounds) (low : ∀ bound ∈ bounds, bound ≤ latest) :
    offers.max? = some latest := by
  obtain ⟨offered, greatest⟩ := tracks
  refine List.max?_eq_some_iff.2 ⟨offered, ?_⟩
  intro offer member
  rcases greatest offer member with atMost | ⟨bound, inForce, less⟩
  · exact atMost
  · have reached := low bound inForce
    omega

theorem filter_eq_none {recorded : Option Int}
    (below : ∀ time, recorded = some time → time < floor) :
    recorded.filter (floor ≤ ·) = none := by
  refine Option.filter_eq_none_iff.2 ?_
  intro time held
  have low := below time held
  simpa using low

/-- Where no removal reached above a floor, a record is the latest of the times offered, as far as
these are not below the floor. -/
theorem Tracks.filter_eq {recorded : Option Int} (tracks : Tracks recorded offers bounds)
    (low : ∀ bound ∈ bounds, bound ≤ floor) :
    recorded.filter (floor ≤ ·) = offers.max?.filter (floor ≤ ·) := by
  cases recorded with
  | none =>
      refine (filter_eq_none ?_).symm
      intro latest greatest
      obtain ⟨bound, inForce, less⟩ := tracks latest (List.max?_mem greatest)
      have reached := low bound inForce
      omega
  | some latest =>
      -- Above the floor the record is the latest time; below it, no time offered reaches the floor.
      by_cases above : floor ≤ latest
      · rw [tracks.max?_eq fun bound inForce => Int.le_trans (low bound inForce) above]
      · have below : ∀ offer ∈ offers, offer < floor := by
          intro offer member
          rcases tracks.2 offer member with atMost | ⟨bound, inForce, less⟩
          · omega
          · have reached := low bound inForce
            omega
        have recordedBelow : ∀ time, some latest = some time → time < floor :=
          fun time held => below time (Option.some.inj held ▸ tracks.1)
        rw [filter_eq_none recordedBelow,
          filter_eq_none fun time greatest => below time (List.max?_mem greatest)]

/-- Where nothing was removed, a record is the latest of the times offered. -/
theorem Tracks.eq_max? {recorded : Option Int} (tracks : Tracks recorded offers []) :
    recorded = offers.max? := by
  cases recorded with
  | none =>
      cases greatest : offers.max? with
      | none => rfl
      | some latest =>
          obtain ⟨_, inForce, _⟩ := tracks latest (List.max?_mem greatest)
          cases inForce
  | some latest => exact (tracks.max?_eq nofun).symm

/-! ## Any order -/

theorem latest?_perm {first second : List Event} (same : first.Perm second) (key : String) :
    latest? key first = latest? key second := by
  have times : (timesOf key first).Perm (timesOf key second) := (same.filter _).map _
  ext latest
  unfold latest?
  rw [List.max?_eq_some_iff, List.max?_eq_some_iff, times.mem_iff]
  exact and_congr_right fun _ => forall_congr' fun time => by rw [times.mem_iff]

/-- Two runs that agree on the time of every key, as far as a test lets it through, have the same
records that pass the test. -/
theorem perm_records {first second : TimestampStore} (test : Int → Bool)
    (agree : ∀ key, (first.last? cache key).filter test = (second.last? cache key).filter test) :
    ((first.records cache).filter (test ·.2)).Perm ((second.records cache).filter (test ·.2)) := by
  have kept (store : TimestampStore) (key : String) (time : Int) :
      (key, time) ∈ (store.records cache).filter (test ·.2) ↔
        (store.last? cache key).filter test = some time := by
    rw [List.mem_filter, mem_records, Option.filter_eq_some_iff]
  refine (List.perm_ext_iff_of_nodup ((first.nodup_records cache).filter _)
    ((second.nodup_records cache).filter _)).2 ?_
  rintro ⟨key, time⟩
  rw [kept first, kept second, agree key]

section FromEmpty

variable (settings : CleanupSettings) {deeds : List Deed} (uncleared : .clear ∉ deeds)
include uncleared

theorem new_tracks (cache key : String) :
    Tracks (((new settings).undergoAll deeds).last? cache key)
      (timesOf key (deeds.flatMap (Deed.saved cache))) ((new settings).bounds cache deeds) := by
  have nothing : Tracks ((new settings).last? cache key) [] [] := Tracks.nil
  simpa only [List.nil_append] using undergoAll_tracks uncleared nothing

theorem filter_last?_undergoAll (low : ∀ bound ∈ (new settings).bounds cache deeds, bound ≤ floor)
    (key : String) :
    (((new settings).undergoAll deeds).last? cache key).filter (floor ≤ ·) =
      (latest? key (deeds.flatMap (Deed.saved cache))).filter (floor ≤ ·) :=
  (new_tracks settings uncleared cache key).filter_eq low

theorem last?_undergoAll (nothing : (new settings).bounds cache deeds = []) (key : String) :
    ((new settings).undergoAll deeds).last? cache key =
      latest? key (deeds.flatMap (Deed.saved cache)) := by
  have tracks := new_tracks settings uncleared cache key
  rw [nothing] at tracks
  exact tracks.eq_max?

end FromEmpty

theorem mem_records_iff_of_filter_eq {recorded : Option Int}
    (agree : (store.last? cache key).filter (floor ≤ ·) = recorded.filter (floor ≤ ·)) {time : Int}
    (above : floor ≤ time) : (key, time) ∈ store.records cache ↔ recorded = some time := by
  have passes (found : Option Int) : found.filter (floor ≤ ·) = some time ↔ found = some time := by
    rw [Option.filter_eq_some_iff, decide_eq_true above]
    exact and_iff_left rfl
  rw [mem_records, ← passes, agree, passes]

/-- The records of a cache do not depend on the order in which events are saved, nor on what else
is done in between: from a floor upwards that no removal reached above they are the latest times of
the events, and all records are if nothing was removed. -/
theorem records_of_saved_perm {first second : List Deed} (settings otherSettings : CleanupSettings)
    (same : (first.flatMap (Deed.saved cache)).Perm (second.flatMap (Deed.saved cache)))
    (unclearedFirst : .clear ∉ first) (unclearedSecond : .clear ∉ second)
    (lowFirst : ∀ bound ∈ (new settings).bounds cache first, bound ≤ floor)
    (lowSecond : ∀ bound ∈ (new otherSettings).bounds cache second, bound ≤ floor) :
    let one := (new settings).undergoAll first
    let other := (new otherSettings).undergoAll second
    let latest key := latest? key (first.flatMap (Deed.saved cache))
    ((one.records cache).filter (floor ≤ ·.2)).Perm ((other.records cache).filter (floor ≤ ·.2)) ∧
      (∀ key time, floor ≤ time →
        ((key, time) ∈ one.records cache ↔ latest key = some time) ∧
          ((key, time) ∈ other.records cache ↔ latest key = some time)) ∧
      ((new settings).bounds cache first = [] → (new otherSettings).bounds cache second = [] →
        (one.records cache).Perm (other.records cache) ∧
          ∀ key, one.last? cache key = latest key ∧ other.last? cache key = latest key) := by
  intro one other latest
  have alike : ∀ key, latest? key (second.flatMap (Deed.saved cache)) = latest key :=
    fun key => (latest?_perm same key).symm
  have fromFloor : ∀ key, (one.last? cache key).filter (floor ≤ ·) =
      (latest key).filter (floor ≤ ·) :=
    filter_last?_undergoAll settings unclearedFirst lowFirst
  have otherFromFloor : ∀ key, (other.last? cache key).filter (floor ≤ ·) =
      (latest key).filter (floor ≤ ·) := by
    intro key
    rw [← alike]
    exact filter_last?_undergoAll otherSettings unclearedSecond lowSecond key
  refine ⟨?_, ?_, ?_⟩
  · exact perm_records (floor ≤ ·) fun key => (fromFloor key).trans (otherFromFloor key).symm
  · intro key time above
    exact ⟨mem_records_iff_of_filter_eq (fromFloor key) above,
      mem_records_iff_of_filter_eq (otherFromFloor key) above⟩
  · intro nothing nothingToo
    have whole : ∀ key, one.last? cache key = latest key :=
      last?_undergoAll settings unclearedFirst nothing
    have otherWhole : ∀ key, other.last? cache key = latest key := fun key =>
      (last?_undergoAll otherSettings unclearedSecond nothingToo key).trans (alike key)
    have agree : ∀ key, (one.last? cache key).filter (fun _ => true) =
        (other.last? cache key).filter fun _ => true := by
      intro key
      rw [whole key, otherWhole key]
    have all := perm_records (fun _ => true) agree
    rw [List.filter_eq_self.2 fun _ _ => rfl, List.filter_eq_self.2 fun _ _ => rfl] at all
    exact ⟨all, fun key => ⟨whole key, otherWhole key⟩⟩

/-- The save of an eviction. -/
def Deed.saving (cache key : String) (time : Moment) : Deed :=
  .save (.evicted cache key time) .default ⟨time, 0⟩

/-- One run removes an early record between the saves; the other saves the same events backwards
among those of another cache. -/
theorem records_of_saved_perm_backwards :
    let first : List Deed := [.saving "users" "bob" 3000, .cleanUp "users" ⟨1000⟩ ⟨5000, 0⟩,
      .saving "users" "ada" 9000, .saving "users" "ada" 5000]
    let second : List Deed := [.saving "users" "ada" 5000, .saving "orders" "ada" 20000,
      .saving "users" "ada" 9000, .saving "users" "bob" 3000]
    (first.flatMap (Deed.saved "users")).Perm (second.flatMap (Deed.saved "users")) ∧
      ((new .default).undergoAll first).last? "users" "bob" = none ∧
      ((new .default).undergoAll second).last? "users" "bob" = some 3 ∧
      ("ada", 9) ∈ ((new .default).undergoAll first).records "users" ∧
      ("ada", 9) ∈ ((new .default).undergoAll second).records "users" := by
  intro first second
  have same : (first.flatMap (Deed.saved "users")).Perm
      (second.flatMap (Deed.saved "users")) := by
    have backwards : second.flatMap (Deed.saved "users") =
        (first.flatMap (Deed.saved "users")).reverse := rfl
    rw [backwards]
    exact (List.reverse_perm _).symm
  have uncleared : .clear ∉ first ∧ .clear ∉ second := by simp [first, second, Deed.saving]
  have lowFirst : ∀ bound ∈ (new .default).bounds "users" first, bound ≤ 4 := by
    decide +kernel
  have lowSecond : ∀ bound ∈ (new .default).bounds "users" second, bound ≤ 4 := by
    decide +kernel
  have alike := (records_of_saved_perm .default .default same uncleared.1 uncleared.2 lowFirst
    lowSecond).2.1 "ada" 9 (by decide)
  exact ⟨same, by decide +kernel, by decide +kernel, alike.1.2 (by decide +kernel),
    alike.2.2 (by decide +kernel)⟩

end TimestampStore
end CacheSync
