import CacheSync.Proofs.Node.Latest
import CacheSync.Proofs.Node.Spreading

/-!
# The fate of a message

A started node counts each message once, and then one of four things becomes of it, which its
`Reception` says beforehand.  `Core.Meets` says for each of them what changes in the core and what
does not.  Over any sequence of messages the counters are therefore the numbers of their fates.
-/

namespace CacheSync

/-- What is to become of a message. -/
inductive Reception where
  /-- It cannot be read. -/
  | undecodable
  /-- Its cache is not configured, though it may be an alias. -/
  | unconfigured (event : Event)
  /-- It is no later than what is recorded. -/
  | stale (event : Event) (config : CacheConfig)
  | accepted (event : Event) (config : CacheConfig)

namespace Reception

def isUndecodable : Reception → Bool
  | .undecodable => true
  | _ => false

def isUnconfigured : Reception → Bool
  | .unconfigured _ => true
  | _ => false

def isStale : Reception → Bool
  | .stale _ _ => true
  | _ => false

def isStaleOf (cache : String) : Reception → Bool
  | .stale _ config => config.name = cache
  | _ => false

def isAccepted : Reception → Bool
  | .accepted _ _ => true
  | _ => false

/-- Whether a message gets to a cache, by its name or by an alias. -/
def reaches (frame : Frame) (cache : String) : Reception → Bool
  | .accepted event config => (frame.reached event config.targets).any fun target =>
      target.cache = cache
  | _ => false

/-- The fates of messages add up to their number. -/
theorem length_eq (receptions : List Reception) :
    receptions.length = receptions.countP isUndecodable + receptions.countP isUnconfigured +
      receptions.countP isStale + receptions.countP isAccepted := by
  induction receptions with
  | nil => rfl
  | cons reception rest inductionHypothesis =>
      simp only [List.length_cons, List.countP_cons, inductionHypothesis]
      cases reception <;>
        simp only [isUndecodable, isUnconfigured, isStale, isAccepted, Bool.false_eq_true,
          ↓reduceIte] <;>
        omega

end Reception

/-! ## Targets with names of their own -/

namespace Frame

variable (frame : Frame) (event : Event) {targets : List Target} {target : Target} {cache : String}

theorem count_outcome_of_absent (absent : ∀ target ∈ targets, target.cache ≠ cache) {mark : Mark}
    (about : mark = .applied cache ∨ mark = .applyFailed cache) :
    (targets.map (frame.outcome event)).count mark = 0 := by
  rw [List.count_eq_zero]
  intro member
  obtain ⟨target, listed, same⟩ := List.mem_map.1 member
  apply absent target listed
  unfold outcome at same
  split at same
  · rcases about with rfl | rfl
    · cases same
    · cases same
      rfl
  · rcases about with rfl | rfl
    · cases same
      rfl
    · cases same

/-- Where no two targets are one cache, the others are other caches. -/
theorem exists_split (nodup : (targets.map (·.cache)).Nodup) (member : target ∈ targets) :
    ∃ before behind, targets = before ++ target :: behind ∧
      ∀ other ∈ before ++ behind, other.cache ≠ target.cache := by
  obtain ⟨before, behind, rfl⟩ := List.append_of_mem member
  rw [List.map_append, List.map_cons, List.nodup_append, List.nodup_cons] at nodup
  obtain ⟨_, ⟨fresh, _⟩, apart⟩ := nodup
  refine ⟨before, behind, rfl, ?_⟩
  intro other listed same
  rcases List.mem_append.1 listed with early | late
  · exact apart other.cache (List.mem_map_of_mem early) target.cache List.mem_cons_self same
  · exact fresh (same ▸ List.mem_map_of_mem late)

/-- Where no two targets are one cache, each counts once, for its own outcome. -/
theorem count_outcome_of_mem (nodup : (targets.map (·.cache)).Nodup) (member : target ∈ targets)
    {mark : Mark} (about : mark = .applied target.cache ∨ mark = .applyFailed target.cache) :
    (targets.map (frame.outcome event)).count mark =
      if frame.outcome event target = mark then 1 else 0 := by
  obtain ⟨before, behind, rfl, absent⟩ := exists_split nodup member
  have none := frame.count_outcome_of_absent event absent about
  rw [List.map_append, List.count_append] at none
  rw [List.map_append, List.map_cons, List.count_append, List.count_cons]
  simp only [beq_iff_eq]
  omega

theorem held_foldl_applyTarget_of_absent (absent : ∀ target ∈ targets, target.cache ≠ cache) :
    ∀ view : View, (targets.foldl (frame.applyTarget event) view).held cache = view.held cache := by
  induction targets with
  | nil =>
      intro view
      rfl
  | cons target rest inductionHypothesis =>
      intro view
      have others : ∀ other ∈ rest, other.cache ≠ cache :=
        fun other member => absent other (List.mem_cons_of_mem target member)
      have different : ¬(cache = target.cache ∧ frame.has target.cache = true) :=
        fun same => absent target List.mem_cons_self same.1.symm
      rw [List.foldl_cons, inductionHypothesis others]
      exact if_neg different

theorem held_foldl_applyTarget_of_mem (nodup : (targets.map (·.cache)).Nodup)
    (member : target ∈ targets) (there : frame.has target.cache = true) (view : View) :
    (targets.foldl (frame.applyTarget event) view).held target.cache =
      (frame.guard target.cache).applied target.policy event (view.held target.cache) := by
  obtain ⟨before, behind, rfl, absent⟩ := exists_split nodup member
  rw [List.foldl_append, List.foldl_cons, held_foldl_applyTarget_of_absent]
  · unfold applyTarget apply
    dsimp only
    rw [if_pos ⟨rfl, there⟩]
    congr 1
    apply held_foldl_applyTarget_of_absent
    exact fun other listed => absent other (List.mem_append_left _ listed)
  · exact fun other listed => absent other (List.mem_append_right _ listed)

theorem nodup_reached (event : Event) {config : CacheConfig}
    (nodup : (config.name :: config.aliases).Nodup) :
    ((frame.reached event config.targets).map (·.cache)).Nodup := by
  have names : config.targets.map (·.cache) = config.name :: config.aliases := by
    simp [CacheConfig.targets, Function.comp_def]
  have sublist : (frame.reached event config.targets).Sublist config.targets :=
    (List.takeWhile_sublist _).trans List.filter_sublist
  rw [← names] at nodup
  exact nodup.sublist (sublist.map _)

end Frame

namespace Core

variable {core before after later : Core} {handled : Handled} {event : Event}
  {config : CacheConfig} {clock : Clock} {body : List UInt8}

/-! ## Recording a time -/

/-- How often a mark was made from one core to another. -/
def Rises (before after : Core) (mark : Mark) (times : Nat) : Prop :=
  after.meter.count mark = before.meter.count mark + times

/-- What is counted when the time of an event is saved. -/
def cleaned (core : Core) (event : Event) (clock : Clock) : List Mark :=
  if core.purges event clock then [.timestampsCleaned event.cache] else []

/-- What is counted of an event of a configured cache before it is decided about. -/
def noticed (core : Core) (event : Event) (clock : Clock) : List Mark :=
  .received :: core.cleaned event clock

theorem count_noticed (core : Core) (event : Event) (clock : Clock) (mark : Mark)
    (other : ∀ cache, mark ≠ .timestampsCleaned cache) :
    (core.noticed event clock).count mark = if mark = .received then 1 else 0 := by
  unfold noticed cleaned
  split
  · simp [List.count_cons, (other event.cache).symm, eq_comm (a := mark)]
  · simp [List.count_cons, eq_comm (a := mark)]

theorem count_record (core : Core) (clock : Clock)
    (configured : core.config.cache? event.cache = some config) (mark : Mark) :
    core.Rises (core.record config event clock).1 mark ((core.cleaned event clock).count mark) := by
  unfold Rises cleaned purges record
  rw [configured]
  cases compared : config.comparison with
  | none => simp [compared]
  | some comparison =>
      simp only [compared]
      cases (core.timestamps.save event comparison clock).followUp with
      | none => simp [TimestampStore.reportSave, TimestampStore.FollowUp.isCleaned]
      | scheduled cache expiration =>
          simp [TimestampStore.reportSave, TimestampStore.FollowUp.isCleaned]
      | cleaned remaining =>
          simp [TimestampStore.reportSave, TimestampStore.FollowUp.isCleaned,
            TimestampStore.reportCleanup, List.count_singleton]

/-- The time of an event is compared before anything is removed. -/
theorem record_accepts : (core.record config event clock).2 =
    Frame.accepts config event core.view := by
  unfold Frame.accepts
  cases compared : config.comparison with
  | none => simp [record, compared]
  | some comparison =>
      rw [record_news clock compared, Option.isNone_some, Bool.false_or, View.isNews]
      rfl

/-- A stale event leaves the recorded times, but for those that are removed with it. -/
theorem recorded_of_stale (clock : Clock)
    (configured : core.config.cache? event.cache = some config)
    (stale : Frame.accepts config event core.view = false) (cache key : String) :
    (core.record config event clock).1.timestamps.last? cache key =
        core.timestamps.last? cache key ∨
      core.purges event clock = true ∧ cache = event.cache ∧
        (core.record config event clock).1.timestamps.last? cache key = none := by
  cases compared : config.comparison with
  | none => exact Or.inl (by simp only [record, compared])
  | some comparison =>
      simp only [Frame.accepts, Bool.or_eq_false_iff] at stale
      cases about : event.key with
      | all =>
          have news : core.view.isNews event = true := by simp only [View.isNews, about]
          rw [news] at stale
          cases stale.2
      | entry one =>
          have old : core.timestamps.isNews event.cache one event.micros = false := by
            have seen := stale.2
            unfold View.isNews at seen
            rw [about] at seen
            exact seen
          simp only [record, compared, purges, configured,
            TimestampStore.save_entry _ about]
          by_cases here : cache = event.cache
          · subst here
            cases purged : (core.timestamps.saveKey event.cache one event.micros comparison
                clock).followUp.isCleaned with
            | false =>
                left
                rw [TimestampStore.last?_saveKey _ _ _ _ _ _ purged, old]
                simp
            | true =>
                rw [TimestampStore.last?_saveKey_of_cleaned _ _ _ _ _ _ _ purged, old]
                simp only [Bool.false_eq_true, and_false, ↓reduceIte, true_and]
                cases core.timestamps.last? event.cache key with
                | none => exact Or.inl rfl
                | some time =>
                    by_cases kept : CacheRecords.cutoff comparison.expiration clock ≤ time
                    · exact Or.inl (by simp [kept])
                    · exact Or.inr (by simpa using kept)
          · exact Or.inl (TimestampStore.last?_saveKey_of_ne _ _ _ _ _ _ _ _ here)

/-! ## What each fate does -/

/-- What is to become of a message at a started core. -/
def reception (core : Core) (body : List UInt8) : Reception :=
  match Wire.decode body with
  | .error _ => .undecodable
  | .ok event =>
      match core.config.cache? event.cache with
      | none => .unconfigured event
      | some config =>
          if Frame.accepts config event core.view then .accepted event config
          else .stale event config

/-- A stale event was counted, and no cache has changed. -/
structure Handled.Rejects (handled : Handled) (core : Core) (event : Event) (config : CacheConfig)
    (clock : Clock) : Prop where
  crashed_eq : handled.crashed = false
  frame_eq : handled.core.frame = core.frame
  shelf_eq : handled.core.shelf = core.shelf
  rises : ∀ mark, core.Rises handled.core mark
    ((Mark.stale config.name :: core.noticed event clock).count mark)
  recorded : ∀ cache key, handled.core.timestamps.last? cache key =
      core.timestamps.last? cache key ∨
    core.purges event clock = true ∧ cache = event.cache ∧
      handled.core.timestamps.last? cache key = none

/-- An accepted event was applied to its targets one after the other, as far as no cache has ended
the thread, and was counted once at each. -/
structure Handled.Accepts (handled : Handled) (core : Core) (event : Event) (config : CacheConfig)
    (clock : Clock) : Prop where
  crashed_eq : handled.crashed =
    (core.frame.present config.targets).any (core.frame.ends event)
  reached_eq : handled.crashed = false →
    core.frame.reached event config.targets = core.frame.present config.targets
  frame_eq : handled.core.frame = core.frame
  timestamps_eq : handled.core.timestamps = (core.record config event clock).1.timestamps
  rises : ∀ mark, mark.isOfApplying = false →
    core.Rises handled.core mark ((core.noticed event clock).count mark)
  outcomes_eq : handled.core.outcomes =
    core.outcomes ++ (core.frame.reached event config.targets).map (core.frame.outcome event)
  once : ∀ target ∈ core.frame.reached event config.targets,
    core.Rises handled.core (.applied target.cache)
        (if core.frame.refuses event target then 0 else 1) ∧
      core.Rises handled.core (.applyFailed target.cache)
        (if core.frame.refuses event target then 1 else 0)
  elsewhere : ∀ cache,
    (∀ target ∈ core.frame.reached event config.targets, target.cache ≠ cache) →
      core.Rises handled.core (.applied cache) 0 ∧ core.Rises handled.core (.applyFailed cache) 0
  held_eq : ∀ target ∈ core.frame.reached event config.targets,
    handled.core.held target.cache =
      (core.frame.guard target.cache).applied target.policy event (core.held target.cache)
  dropped : handled.crashed = false → ∀ name ∈ config.aliases, core.frame.has name = true →
    handled.core.held name = (core.frame.guard name).dropped event.key (core.held name)
  changed : ∀ cache key, handled.core.held cache key ≠ core.held cache key →
    event.Concerns key ∧
      ∃ target ∈ core.frame.reached event config.targets, target.cache = cache

/-- What a message leaves behind, by what is to become of it. -/
def Meets (core : Core) (clock : Clock) (handled : Handled) : Reception → Prop
  | .undecodable => handled = ⟨core.markAll [.received, .undecodable], false⟩
  | .unconfigured _ => handled = ⟨core.mark .received, false⟩
  | .stale event config => handled.Rejects core event config clock
  | .accepted event config => handled.Accepts core event config clock

theorem record_mark (core : Core) (made : Mark) (config : CacheConfig) (event : Event)
    (clock : Clock) :
    ((core.mark made).record config event clock).1.timestamps =
      (core.record config event clock).1.timestamps := by
  unfold record
  cases config.comparison with
  | none => rfl
  | some comparison => rfl

theorem rises_mark (core : Core) (made mark : Mark) :
    core.Rises (core.mark made) mark ([made].count mark) := by
  simp [Rises, Core.mark, List.count_singleton]

theorem Rises.trans {mark : Mark} {times timesMore : Nat}
    (rises : before.Rises after mark times) (risesOn : after.Rises later mark timesMore) :
    before.Rises later mark (times + timesMore) := by
  unfold Rises at *
  omega

/-- The message and the saving of its time are counted. -/
theorem rises_record (clock : Clock)
    (configured : core.config.cache? event.cache = some config) (mark : Mark) :
    core.Rises ((core.mark .received).record config event clock).1 mark
      ((core.noticed event clock).count mark) := by
  have received := core.rises_mark .received mark
  have recorded := (core.mark .received).count_record clock configured mark
  have counted := received.trans recorded
  unfold noticed
  rw [List.count_cons, Nat.add_comm]
  rw [List.count_singleton] at counted
  exact counted

theorem rejects_of_stale (clock : Clock)
    (configured : core.config.cache? event.cache = some config)
    (stale : Frame.accepts config event core.view = false) :
    Handled.Rejects ⟨((core.mark .received).record config event clock).1.mark (.stale config.name),
      false⟩ core event config clock := by
  have stands := (core.mark .received).record_stands config event clock
  refine ⟨rfl, stands.frame_eq, stands.shelf_eq, ?_, ?_⟩
  · intro mark
    have counted := (rises_record clock configured mark).trans
      (rises_mark _ (.stale config.name) mark)
    rw [List.count_singleton] at counted
    rw [List.count_cons]
    exact counted
  · intro cache key
    have recorded := recorded_of_stale clock configured stale cache key
    rw [← core.record_mark .received] at recorded
    exact recorded

theorem outcomes_record (core : Core) (config : CacheConfig) (event : Event) (clock : Clock) :
    (core.record config event clock).1.outcomes = core.outcomes := by
  unfold record
  cases config.comparison with
  | none => rfl
  | some comparison =>
      dsimp only
      cases (core.timestamps.save event comparison clock).followUp with
      | none => rfl
      | scheduled cache expiration => rfl
      | cleaned remaining =>
          exact (core.outcomes_mark (.timestampsCleaned event.cache)).trans (List.append_nil _)

section Counted

variable {targets : List Target}
  (told : after.outcomes = before.outcomes ++ targets.map (before.frame.outcome event))
include told

theorem rises_of_told (mark : Mark) (isOutcome : mark.isOutcome = true) :
    before.Rises after mark ((targets.map (before.frame.outcome event)).count mark) := by
  rw [Rises, count_outcomes _ isOutcome, count_outcomes _ isOutcome, told, List.count_append]

theorem once_of_told (nodup : (targets.map (·.cache)).Nodup) {target : Target}
    (member : target ∈ targets) :
    before.Rises after (.applied target.cache)
        (if before.frame.refuses event target then 0 else 1) ∧
      before.Rises after (.applyFailed target.cache)
        (if before.frame.refuses event target then 1 else 0) := by
  have applied := rises_of_told told (.applied target.cache) rfl
  have failed := rises_of_told told (.applyFailed target.cache) rfl
  rw [before.frame.count_outcome_of_mem event nodup member (Or.inl rfl)] at applied
  rw [before.frame.count_outcome_of_mem event nodup member (Or.inr rfl)] at failed
  unfold Frame.outcome at applied failed
  by_cases refused : before.frame.refuses event target = true
  · simp only [refused, ↓reduceIte, reduceCtorEq] at applied failed ⊢
    exact ⟨applied, failed⟩
  · simp only [refused, ↓reduceIte, reduceCtorEq] at applied failed ⊢
    exact ⟨applied, failed⟩

theorem elsewhere_of_told {cache : String} (absent : ∀ target ∈ targets, target.cache ≠ cache) :
    before.Rises after (.applied cache) 0 ∧ before.Rises after (.applyFailed cache) 0 := by
  have applied := rises_of_told told (.applied cache) rfl
  have failed := rises_of_told told (.applyFailed cache) rfl
  rw [before.frame.count_outcome_of_absent event absent (Or.inl rfl)] at applied
  rw [before.frame.count_outcome_of_absent event absent (Or.inr rfl)] at failed
  exact ⟨applied, failed⟩

end Counted

/-- The contents of a core, from those of the caches that an event has reached. -/
structure Follows (after before : Core) (event : Event) (targets : List Target) : Prop where
  held_eq : ∀ target ∈ targets, after.held target.cache =
    (before.frame.guard target.cache).applied target.policy event (before.held target.cache)
  kept : ∀ cache, (∀ target ∈ targets, target.cache ≠ cache) → after.held cache = before.held cache

theorem Follows.changed {targets : List Target} (follows : after.Follows before event targets)
    {cache key : String} (differs : after.held cache key ≠ before.held cache key) :
    event.Concerns key ∧ ∃ target ∈ targets, target.cache = cache := by
  by_cases listed : ∃ target ∈ targets, target.cache = cache
  · refine ⟨?_, listed⟩
    obtain ⟨target, member, rfl⟩ := listed
    apply Decidable.byContradiction
    intro untouched
    obtain ⟨one, about⟩ := Event.exists_entry fun all => untouched (Or.inl all)
    have different : key ≠ one := by
      rintro rfl
      exact untouched (Or.inr about)
    apply differs
    rw [follows.held_eq target member]
    exact Guard.applied_of_other _ _ about different _
  · refine absurd (congrFun (follows.kept cache ?_) key) differs
    intro target member same
    exact listed ⟨target, member, same⟩

theorem accepts_of_news (clock : Clock)
    (configured : core.config.cache? event.cache = some config)
    (nodup : (config.name :: config.aliases).Nodup) :
    (((core.mark .received).record config event clock).1.spread config event clock).Accepts core
      event config clock := by
  have stands := (core.mark .received).record_stands config event clock
  have frame_eq : ((core.mark .received).record config event clock).1.frame = core.frame :=
    stands.frame_eq
  have held_eq : ((core.mark .received).record config event clock).1.held = core.held :=
    stands.held_eq
  have outcomes_eq : ((core.mark .received).record config event clock).1.outcomes =
      core.outcomes :=
    ((core.mark .received).outcomes_record config event clock).trans
      ((core.outcomes_mark .received).trans (List.append_nil _))
  have timestamps_eq := core.record_mark .received config event clock
  have counted := rises_record clock configured
  have distinct := core.frame.nodup_reached event nodup
  generalize ((core.mark .received).record config event clock).1 = recorded at *
  rw [spread_eq]
  obtain ⟨crashed, passes⟩ := applyAll_passes config.targets event clock recorded
  rw [frame_eq] at crashed passes
  generalize recorded.applyAll config.targets event clock = handled at *
  have told := passes.outcomes_eq
  rw [outcomes_eq, frame_eq] at told
  have contents (cache : String) :
      handled.core.held cache = ((core.frame.reached event config.targets).foldl
        (core.frame.applyTarget event) recorded.view).held cache := by
    have seen := congrArg (fun view : View => view.held cache) passes.view_eq
    rw [frame_eq] at seen
    exact seen
  have follows : handled.core.Follows core event (core.frame.reached event config.targets) := by
    constructor
    · intro target member
      obtain ⟨_, there⟩ := core.frame.mem_of_mem_reached event target member
      rw [contents, core.frame.held_foldl_applyTarget_of_mem event distinct member there, ← held_eq]
      rfl
    · intro cache absent
      rw [contents, core.frame.held_foldl_applyTarget_of_absent event absent, ← held_eq]
      rfl
  have complete (calm : handled.crashed = false) :=
    core.frame.reached_eq_present event (crashed ▸ calm)
  refine ⟨crashed, complete, passes.spares.frame_eq.trans frame_eq,
    passes.spares.timestamps_eq.trans timestamps_eq, ?_, told,
    fun target member => once_of_told told distinct member,
    fun cache absent => elsewhere_of_told told absent, follows.held_eq, ?_,
    fun cache key differs => follows.changed differs⟩
  · intro mark other
    rw [Rises, passes.spares.count_eq mark other]
    exact counted mark
  · intro calm name isAlias there
    have listed : (⟨name, .invalidated⟩ : Target) ∈ core.frame.reached event config.targets := by
      rw [complete calm]
      refine List.mem_filter.2 ⟨List.mem_cons_of_mem _ ?_, there⟩
      exact List.mem_map_of_mem isAlias
    exact follows.held_eq _ listed

/-- Whatever is received, it meets the fate that was to be expected. -/
theorem receive_meets (started : core.isStarted = true) (validated : core.config.Validated)
    (body : List UInt8) (clock : Clock) :
    core.Meets clock (core.receive body clock) (core.reception body) := by
  have accepts (event : Event) (config : CacheConfig) :
      ((core.mark .received).record config event clock).2 =
        Frame.accepts config event core.view :=
    record_accepts
  have fate := core.receive_fate body clock
  unfold reception
  generalize core.receive body clock = handled at fate
  cases fate with
  | ignored stopped =>
      rw [started] at stopped
      cases stopped
  | undecodable _ read =>
      rw [read]
      rfl
  | unconfigured _ read unknown =>
      simp only [read, unknown]
      rfl
  | @stale event config recorded _ read configured saved =>
      have news := accepts event config
      have rejects := rejects_of_stale clock configured (news ▸ saved ▸ rfl)
      rw [saved] at news rejects
      simp only [read, configured, ← news, Bool.false_eq_true, ↓reduceIte]
      exact rejects
  | @applied event config recorded _ read configured saved =>
      have news := accepts event config
      have accepted := accepts_of_news clock configured (validated.nodup configured)
      rw [saved] at news accepted
      simp only [read, configured, ← news, ↓reduceIte]
      exact accepted

/-! ## Many messages -/

def receptions (core : Core) : List (List UInt8 × Clock) → List Reception
  | [] => []
  | arrival :: rest =>
      core.reception arrival.1 :: (core.receive arrival.1 arrival.2).core.receptions rest

/-- The counters have risen by the numbers of fates. -/
structure Tallies (before after : Core) (receptions : List Reception) : Prop where
  frame_eq : after.frame = before.frame
  received : before.Rises after .received receptions.length
  undecodable : before.Rises after .undecodable (receptions.countP (·.isUndecodable))
  stale : ∀ cache, before.Rises after (.stale cache) (receptions.countP (·.isStaleOf cache))
  outcomes : ∀ cache, after.meter.count (.applied cache) + after.meter.count (.applyFailed cache) =
    before.meter.count (.applied cache) + before.meter.count (.applyFailed cache) +
      receptions.countP (·.reaches before.frame cache)

theorem Tallies.refl (core : Core) : core.Tallies core [] :=
  ⟨rfl, rfl, rfl, fun _ => rfl, fun _ => rfl⟩

theorem Tallies.append {receptions more : List Reception}
    (tallies : before.Tallies after receptions) (goesOn : after.Tallies later more) :
    before.Tallies later (receptions ++ more) where
  frame_eq := goesOn.frame_eq.trans tallies.frame_eq
  received := by
    rw [List.length_append]
    exact tallies.received.trans goesOn.received
  undecodable := by
    rw [List.countP_append]
    exact tallies.undecodable.trans goesOn.undecodable
  stale cache := by
    rw [List.countP_append]
    exact (tallies.stale cache).trans (goesOn.stale cache)
  outcomes cache := by
    have first := tallies.outcomes cache
    have second := goesOn.outcomes cache
    rw [tallies.frame_eq] at second
    rw [List.countP_append]
    omega

theorem tallies_of_rejects (rejects : handled.Rejects core event config clock) :
    core.Tallies handled.core [.stale event config] where
  frame_eq := rejects.frame_eq
  received := by
    have counted := rejects.rises .received
    rw [List.count_cons, count_noticed _ _ _ .received (by simp)] at counted
    exact counted
  undecodable := by
    have counted := rejects.rises .undecodable
    rw [List.count_cons, count_noticed _ _ _ .undecodable (by simp)] at counted
    exact counted
  stale cache := by
    have counted := rejects.rises (.stale cache)
    rw [List.count_cons, count_noticed _ _ _ (.stale cache) (by simp)] at counted
    simpa [Reception.isStaleOf] using counted
  outcomes cache := by
    have applied := rejects.rises (.applied cache)
    have failed := rejects.rises (.applyFailed cache)
    rw [List.count_cons, count_noticed _ _ _ (.applied cache) (by simp)] at applied
    rw [List.count_cons, count_noticed _ _ _ (.applyFailed cache) (by simp)] at failed
    simp only [Rises, reduceCtorEq, ↓reduceIte, beq_iff_eq, Nat.add_zero] at applied failed
    rw [applied, failed]
    rfl

theorem tallies_of_accepts (accepts : handled.Accepts core event config clock) :
    core.Tallies handled.core [.accepted event config] where
  frame_eq := accepts.frame_eq
  received := by
    have counted := accepts.rises .received rfl
    rw [count_noticed _ _ _ .received (by simp)] at counted
    exact counted
  undecodable := by
    have counted := accepts.rises .undecodable rfl
    rw [count_noticed _ _ _ .undecodable (by simp)] at counted
    exact counted
  stale cache := by
    have counted := accepts.rises (.stale cache) rfl
    rw [count_noticed _ _ _ (.stale cache) (by simp)] at counted
    exact counted
  outcomes cache := by
    by_cases reached : ∃ target ∈ core.frame.reached event config.targets, target.cache = cache
    · have counts : Reception.reaches core.frame cache (.accepted event config) = true := by
        simpa [Reception.reaches] using reached
      obtain ⟨target, member, rfl⟩ := reached
      obtain ⟨applied, failed⟩ := accepts.once target member
      rw [List.countP_singleton, if_pos counts]
      unfold Rises at applied failed
      split at applied
      next refused =>
        rw [if_pos refused] at failed
        omega
      next done =>
        rw [if_neg done] at failed
        omega
    · have counts : ¬Reception.reaches core.frame cache (.accepted event config) = true := by
        simpa [Reception.reaches] using reached
      obtain ⟨applied, failed⟩ := accepts.elsewhere cache fun target member same =>
        reached ⟨target, member, same⟩
      rw [List.countP_singleton, if_neg counts]
      unfold Rises at applied failed
      omega

theorem tallies_receive (started : core.isStarted = true) (validated : core.config.Validated)
    (body : List UInt8) (clock : Clock) :
    core.Tallies (core.receive body clock).core [core.reception body] := by
  have meets := receive_meets started validated body clock
  generalize core.receive body clock = handled at meets
  cases fate : core.reception body with
  | stale event config =>
      rw [fate] at meets
      exact tallies_of_rejects meets
  | accepted event config =>
      rw [fate] at meets
      exact tallies_of_accepts meets
  | undecodable =>
      rw [fate] at meets
      obtain rfl : handled = _ := meets
      refine ⟨rfl, ?_, ?_, fun cache => ?_, fun cache => ?_⟩ <;>
        simp [Rises, markAll, Reception.isUndecodable, Reception.isStaleOf, Reception.reaches]
  | unconfigured event =>
      rw [fate] at meets
      obtain rfl : handled = _ := meets
      refine ⟨rfl, ?_, ?_, fun cache => ?_, fun cache => ?_⟩ <;>
        simp [Rises, Core.mark, Reception.isUndecodable, Reception.isStaleOf, Reception.reaches]

theorem tallies_receiveAll (arrivals : List (List UInt8 × Clock)) :
    ∀ core : Core, core.isStarted = true → core.config.Validated →
      core.Tallies (core.receiveAll arrivals) (core.receptions arrivals) := by
  induction arrivals with
  | nil =>
      intro core _ _
      exact .refl core
  | cons arrival rest inductionHypothesis =>
      intro core started validated
      have first := tallies_receive started validated arrival.1 arrival.2
      have frame := core.receive_frame arrival.1 arrival.2
      exact first.append (inductionHypothesis (core.receive arrival.1 arrival.2).core
        ((isStarted_of_frame frame).trans started) (config_of_frame frame ▸ validated))

/-- After any messages, the counters of a started core have risen by the numbers of their fates,
and the next message meets its own. -/
structure Accounts (before after : Core) (receptions : List Reception) : Prop where
  tallies : before.Tallies after receptions
  sum : before.Rises after .received (receptions.countP (·.isUndecodable) +
    receptions.countP (·.isUnconfigured) + receptions.countP (·.isStale) +
      receptions.countP (·.isAccepted))
  next : ∀ body clock, after.Meets clock (after.receive body clock) (after.reception body)

theorem accounts_of_receiveAll (started : core.isStarted = true)
    (validated : core.config.Validated) (arrivals : List (List UInt8 × Clock)) :
    core.Accounts (core.receiveAll arrivals) (core.receptions arrivals) := by
  have tallies := tallies_receiveAll arrivals core started validated
  refine ⟨tallies, ?_, ?_⟩
  · rw [← Reception.length_eq]
    exact tallies.received
  · exact receive_meets ((isStarted_of_frame tallies.frame_eq).trans started)
      (config_of_frame tallies.frame_eq ▸ validated)

end Core

/-! ## A cache with aliases -/

def CacheConfig.shared : CacheConfig :=
  ⟨"users", .invalidated, ["people", "folk"], some .default⟩

def BusConfig.shared : BusConfig :=
  { BusDefinition.default.bare with
    caches := Table.empty.insert "users" .shared
    aliasOwners := (Table.empty.insert "people" .shared).insert "folk" .shared }

theorem BusConfig.shared_validated : shared.Validated := by
  refine ⟨{ BusDefinition.default with caches := [.shared] }, ?_, rfl⟩
  intro cache member
  rw [List.mem_singleton.1 member]
  exact ⟨⟨"users", .invalidated, ["people", "folk"], some .default⟩, rfl⟩

namespace Core

/-- A started node without the cache that it is configured for, but with both aliases.  From one of
them nothing can be evicted. -/
def shared : Core :=
  { new .shared .plain
      (((CacheShelf.empty.create "people").create "folk").setGuard "folk"
        (Table.empty.insert .evict .unavailable)) with
    lifecycle := .started }

/-- One message cannot be read, one is of an alias, one is applied where it can be, and one comes
again. -/
theorem accounts_of_receiveAll_shared :
    let body := Wire.encode (evicting 4000) false
    let arrivals : List (List UInt8 × Clock) :=
      [([0x7b], ⟨1, 0⟩), (Wire.encode { evicting 4000 with cache := "people" } false, ⟨2, 0⟩),
        (body, ⟨3, 0⟩), (body, ⟨4, 0⟩)]
    let after := shared.receiveAll arrivals
    shared.isStarted = true ∧ shared.config.Validated ∧
      after.meter.count .received = 4 ∧ after.meter.count .undecodable = 1 ∧
        after.meter.count (.stale "users") = 1 ∧ after.meter.count (.applied "people") = 1 ∧
          after.outcomes = [.applied "people", .applyFailed "folk"] ∧
            after.Meets ⟨5, 0⟩ (after.receive body ⟨5, 0⟩) (after.reception body) := by
  intro body arrivals after
  have started : shared.isStarted = true := rfl
  have accounts := accounts_of_receiveAll started BusConfig.shared_validated arrivals
  refine ⟨started, BusConfig.shared_validated, accounts.tallies.received,
    Eq.trans accounts.tallies.undecodable (by decide +kernel),
    Eq.trans (accounts.tallies.stale "users") (by decide +kernel), by decide +kernel,
    by decide +kernel, accounts.next body ⟨5, 0⟩⟩

end Core
end CacheSync
