import CacheSync.Proofs.Config.Validated
import CacheSync.Proofs.Node.View

/-!
# Independent events

An event acts on each key of each cache by itself, and it is taken or not by the recorded time of
its own key.  Most of what it does is to drop keys, in any order with the same result; only to its
own key of a replicated cache does it do anything else, and no event of another cache or key
reaches that: no alias names a replicated cache.  So events of different caches or keys commute,
wildcards of replicated caches apart.
-/

namespace CacheSync

open Json (Value)

/-! ## One key of one cache -/

namespace Guard

/-- Whether an invalidation drops a key. -/
def drops (guard : Guard) (about : EntryKey) (key : String) : Bool :=
  match about with
  | .all => guard.allows .clear
  | .entry one => key = one && guard.allows .evict

theorem dropped_eq (guard : Guard) (about : EntryKey) (held : Contents) (key : String) :
    guard.dropped about held key = if guard.drops about key then .none else held key := by
  cases about with
  | all =>
      by_cases allowed : guard.allows .clear = true
      · simp only [dropped, drops, allowed, ↓reduceIte]
      · simp only [dropped, drops, allowed, Bool.false_eq_true, ↓reduceIte]
  | entry one =>
      by_cases allowed : guard.allows .evict = true
      · simp only [dropped, drops, allowed, Bool.and_true, decide_eq_true_eq, ↓reduceIte]
      · simp only [dropped, drops, allowed, Bool.and_false, Bool.false_eq_true, ↓reduceIte]

theorem applied_of_invalidated (guard : Guard) (event : Event) (held : Contents) (key : String) :
    guard.applied .invalidated event held key =
      if guard.drops event.key key then .none else held key :=
  guard.dropped_eq event.key held key

theorem applied_of_value (guard : Guard) {event : Event} {one : String} {value : Value}
    (about : event.key = .entry one) (new : event.new = some value) (held : Contents)
    (key : String) :
    guard.applied .replicated event held key =
      if guard.allows .merge then
        if key = one then Store.joined value (takeIfExpected event.old) (held one) else held key
      else if guard.drops event.key key then .none else held key := by
  rw [← dropped_eq]
  by_cases allowed : guard.allows .merge = true
  · simp only [applied, about, new, allowed, ↓reduceIte]
  · simp only [applied, about, new, allowed, Bool.false_eq_true, ↓reduceIte]

/-- Without a new value, or a key, an event of a replicated cache drops keys. -/
theorem applied_of_no_value (guard : Guard) {event : Event} (held : Contents) (key : String)
    (none : event.key = .all ∨ event.new = .none) :
    guard.applied .replicated event held key =
      if guard.drops event.key key then .none else held key := by
  rw [← dropped_eq]
  rcases none with wildcard | gone
  · simp only [applied, wildcard]
  · cases about : event.key with
    | all => simp only [applied, about]
    | entry one => simp only [applied, about, gone]

/-- What an event makes of a key depends on the value of the key alone. -/
theorem applied_congr (guard : Guard) (policy : Policy) (event : Event) (held other : Contents)
    {key : String} (same : held key = other key) :
    guard.applied policy event held key = guard.applied policy event other key := by
  cases policy with
  | invalidated => rw [applied_of_invalidated, applied_of_invalidated, same]
  | replicated =>
      cases about : event.key with
      | all =>
          rw [applied_of_no_value _ _ _ (Or.inl about), applied_of_no_value _ _ _ (Or.inl about),
            same]
      | entry one =>
          cases new : event.new with
          | none =>
              rw [applied_of_no_value _ _ _ (Or.inr new), applied_of_no_value _ _ _ (Or.inr new),
                same]
          | some value =>
              rw [applied_of_value _ about new, applied_of_value _ about new, same]
              by_cases here : key = one
              · rw [← here, same]
              · simp only [here, ↓reduceIte]

/-- An event leaves the keys that it is not about, whatever the guard refuses. -/
theorem applied_of_other (guard : Guard) (policy : Policy) {event : Event} {one key : String}
    (about : event.key = .entry one) (different : key ≠ one) (held : Contents) :
    guard.applied policy event held key = held key := by
  have kept : guard.drops event.key key = false := by simp [drops, about, different]
  cases policy with
  | invalidated => simp only [applied_of_invalidated, kept, Bool.false_eq_true, ↓reduceIte]
  | replicated =>
      cases new : event.new with
      | none =>
          simp only [applied_of_no_value _ _ _ (Or.inr new), kept, Bool.false_eq_true, ↓reduceIte]
      | some value =>
          simp only [applied_of_value _ about new, different, kept, Bool.false_eq_true,
            ↓reduceIte, ite_self]

end Guard

namespace Frame

variable {frame : Frame} {event : Event} {cache key : String}

/-- What an event of a configured cache makes of the value of one key of any cache. -/
def turned (frame : Frame) (config : CacheConfig) (event : Event) (cache key : String)
    (value : Option Value) : Option Value :=
  if cache ∈ config.aliases ∧ frame.has cache = true ∧
      (frame.guard cache).drops event.key key = true then none
  else if cache = config.name ∧ frame.has cache = true then
    (frame.guard cache).applied config.policy event (fun _ => value) key
  else value

theorem held_apply (frame : Frame) (name : String) (policy : Policy) (event : Event) (view : View)
    (cache key : String) : (frame.apply name policy event view).held cache key =
      if cache = name ∧ frame.has name = true then
        (frame.guard name).applied policy event (view.held name) key
      else view.held cache key := by
  unfold apply
  dsimp only
  split
  · rfl
  · rfl

theorem held_foldl_invalidated (frame : Frame) (event : Event) (cache key : String)
    (aliases : List String) : ∀ view : View,
      (aliases.foldl (fun view name => frame.apply name .invalidated event view) view).held cache
          key =
        if cache ∈ aliases ∧ frame.has cache = true ∧
          (frame.guard cache).drops event.key key = true then none
        else view.held cache key := by
  induction aliases with
  | nil => simp
  | cons first rest inductionHypothesis =>
      intro view
      rw [List.foldl_cons, inductionHypothesis]
      rw [held_apply, Guard.applied_of_invalidated]
      by_cases here : cache = first
      · subst here
        by_cases present : frame.has cache = true
        · by_cases gone : (frame.guard cache).drops event.key key = true
          · simp [present, gone]
          · simp [gone]
        · simp [present]
      · simp [here]

theorem held_spread (frame : Frame) (config : CacheConfig) (event : Event) (view : View)
    (cache key : String) :
    (frame.spread config event view).held cache key =
      frame.turned config event cache key (view.held cache key) := by
  unfold spread turned
  rw [held_foldl_invalidated, held_apply]
  by_cases here : cache = config.name
  · subst here
    rw [Guard.applied_congr (frame.guard config.name) config.policy event (view.held config.name)
      (fun _ => view.held config.name key) rfl]
  · simp only [here, false_and, ↓reduceIte]

/-- What an event makes of the value of one key of any cache, if it is taken. -/
def effect (frame : Frame) (event : Event) (cache key : String) (value : Option Value) :
    Option Value :=
  match frame.config.cache? event.cache with
  | none => value
  | some config => frame.turned config event cache key value

/-- Whether an event is applied. -/
def takes (frame : Frame) (event : Event) (view : View) : Bool :=
  match frame.config.cache? event.cache with
  | none => false
  | some config => accepts config event view

/-- Whether the time of an event is recorded. -/
def records (frame : Frame) (event : Event) (view : View) : Bool :=
  match frame.config.cache? event.cache with
  | none => false
  | some config => config.comparison.isSome && view.isNews event

theorem held_receive (frame : Frame) (event : Event) (view : View) (cache key : String) :
    (frame.receive event view).held cache key =
      if frame.takes event view then frame.effect event cache key (view.held cache key)
      else view.held cache key := by
  unfold receive takes effect
  cases found : frame.config.cache? event.cache with
  | none => rfl
  | some config =>
      dsimp only
      by_cases taken : accepts config event view = true
      · have same : (note config event view).held = view.held := by
          unfold note
          split
          · rfl
          · rfl
        simp only [taken, ↓reduceIte, held_spread, same]
      · simp only [taken, Bool.false_eq_true, ↓reduceIte]

theorem recorded_foldl_apply (frame : Frame) (policy : Policy) (event : Event)
    (aliases : List String) : ∀ view : View,
      (aliases.foldl (fun view name => frame.apply name policy event view) view).recorded =
        view.recorded := by
  induction aliases with
  | nil => exact fun _ => rfl
  | cons first rest inductionHypothesis =>
      intro view
      rw [List.foldl_cons, inductionHypothesis]
      rfl

theorem recorded_receive (frame : Frame) (event : Event) (view : View) (cache key : String) :
    (frame.receive event view).recorded cache key =
      if frame.records event view = true ∧ cache = event.cache ∧ event.key = .entry key then
        some event.micros
      else view.recorded cache key := by
  unfold receive records
  cases found : frame.config.cache? event.cache with
  | none => simp
  | some config =>
      dsimp only
      have spread_eq : ∀ noted : View,
          (frame.spread config event noted).recorded = noted.recorded :=
        fun noted => recorded_foldl_apply frame .invalidated event config.aliases _
      by_cases compared : config.comparison.isSome = true
      · by_cases news : view.isNews event = true
        · simp [accepts, note, compared, news, spread_eq, View.saved]
        · have stale : accepts config event view = false := by
            simp [accepts, Option.isNone_eq_false_iff.2 compared, news]
          simp [stale, news]
      · have free : config.comparison.isNone = true := by simpa using compared
        simp [accepts, note, compared, free, spread_eq]

/-! ## Events that do not meet -/

/-- An event that is not about every key of a replicated cache. -/
def Narrow (frame : Frame) (event : Event) : Prop :=
  ∀ config : CacheConfig, frame.config.cache? event.cache = some config →
    config.policy = .replicated → event.key ≠ .all

/-- Whether a cache is configured as replicated. -/
def Replicated (frame : Frame) (cache : String) : Prop :=
  ∃ config : CacheConfig, frame.config.cache? cache = some config ∧ config.policy = .replicated

/-- An event drops a key of a cache that is not replicated, or leaves it. -/
theorem effect_cases (consistent : frame.config.Consistent) (event : Event) {cache : String}
    (free : ¬ frame.Replicated cache) (key : String) :
    (∀ value, frame.effect event cache key value = none) ∨
      ∀ value, frame.effect event cache key value = value := by
  unfold effect
  cases found : frame.config.cache? event.cache with
  | none => exact Or.inr fun _ => rfl
  | some config =>
      dsimp only [turned]
      by_cases reached : cache ∈ config.aliases ∧ frame.has cache = true ∧
          (frame.guard cache).drops event.key key = true
      · exact Or.inl fun _ => if_pos reached
      · by_cases own : cache = config.name ∧ frame.has cache = true
        · cases policy : config.policy with
          | replicated =>
              rw [← consistent.name_eq found, ← own.1] at found
              exact absurd ⟨config, found, policy⟩ free
          | invalidated =>
              by_cases gone : (frame.guard cache).drops event.key key = true
              · refine Or.inl fun _ => ?_
                rw [if_neg reached, if_pos own, Guard.applied_of_invalidated, if_pos gone]
              · refine Or.inr fun _ => ?_
                rw [if_neg reached, if_pos own, Guard.applied_of_invalidated, if_neg gone]
        · exact Or.inr fun _ => by rw [if_neg reached, if_neg own]

/-- A key of a replicated cache is left by every event but its own. -/
theorem effect_of_replicated (consistent : frame.config.Consistent) (narrow : frame.Narrow event)
    (replicated : frame.Replicated cache)
    (other : ¬ (event.cache = cache ∧ event.key = .entry key)) (value : Option Value) :
    frame.effect event cache key value = value := by
  obtain ⟨target, targeted, policy⟩ := replicated
  unfold effect
  cases found : frame.config.cache? event.cache with
  | none => rfl
  | some config =>
      dsimp only [turned]
      have unreached : ¬ (cache ∈ config.aliases ∧ frame.has cache = true ∧
          (frame.guard cache).drops event.key key = true) := by
        rintro ⟨named, _⟩
        have invalidated := consistent.target_invalidated found named targeted
        rw [policy] at invalidated
        cases invalidated
      rw [if_neg unreached]
      split
      next own =>
        have same : event.cache = cache := by rw [own.1, consistent.name_eq found]
        rw [same, targeted] at found
        injection found with found
        rw [← found]
        cases about : event.key with
        | all => exact absurd about (narrow target (by rw [same]; exact targeted) policy)
        | entry one =>
            have different : key ≠ one := by
              rintro rfl
              exact other ⟨same, about⟩
            exact Guard.applied_of_other _ _ about different _
      next => rfl

variable {first second : Event}

/-- Two events of different caches or keys do not meet at any key. -/
theorem effect_comm (consistent : frame.config.Consistent) (narrowFirst : frame.Narrow first)
    (narrowSecond : frame.Narrow second)
    (apart : ¬ (first.cache = second.cache ∧ first.key = second.key)) (cache key : String)
    (value : Option Value) :
    frame.effect first cache key (frame.effect second cache key value) =
      frame.effect second cache key (frame.effect first cache key value) := by
  by_cases replicated : frame.Replicated cache
  · by_cases own : first.cache = cache ∧ first.key = .entry key
    · have other : ¬ (second.cache = cache ∧ second.key = .entry key) := by
        rintro ⟨ofSecond, aboutSecond⟩
        exact apart ⟨own.1.trans ofSecond.symm, own.2.trans aboutSecond.symm⟩
      have leaves := effect_of_replicated consistent narrowSecond replicated other
      rw [leaves, leaves]
    · have leaves := effect_of_replicated consistent narrowFirst replicated own
      rw [leaves, leaves]
  · rcases effect_cases consistent first replicated key with gone | left
    · rcases effect_cases consistent second replicated key with goneToo | leftToo
      · rw [gone, goneToo]
      · rw [gone, leftToo, gone]
    · rw [left, left]

/-- What is recorded for other caches and keys does not matter to an event. -/
theorem takes_congr (event : Event) {view other : View}
    (same : ∀ key, event.key = .entry key →
      view.recorded event.cache key = other.recorded event.cache key) :
    frame.takes event view = frame.takes event other ∧
      frame.records event view = frame.records event other := by
  have news : view.isNews event = other.isNews event := by
    unfold View.isNews
    cases about : event.key with
    | all => rfl
    | entry key =>
        dsimp only
        rw [same key about]
  unfold takes records accepts
  rw [news]
  exact ⟨rfl, rfl⟩

/-- Events of different caches or keys commute. -/
theorem receive_comm (consistent : frame.config.Consistent) (narrowFirst : frame.Narrow first)
    (narrowSecond : frame.Narrow second)
    (apart : ¬ (first.cache = second.cache ∧ first.key = second.key)) (view : View) :
    frame.receive second (frame.receive first view) =
      frame.receive first (frame.receive second view) := by
  have unaware : ∀ {one other : Event}, ¬ (one.cache = other.cache ∧ one.key = other.key) →
      frame.takes one (frame.receive other view) = frame.takes one view ∧
        frame.records one (frame.receive other view) = frame.records one view := by
    intro one other apart
    refine takes_congr one fun key about => ?_
    rw [recorded_receive, if_neg]
    rintro ⟨_, of, aboutOther⟩
    exact apart ⟨of, about.trans aboutOther.symm⟩
  obtain ⟨takesFirst, recordsFirst⟩ := unaware apart
  obtain ⟨takesSecond, recordsSecond⟩ := unaware fun same => apart ⟨same.1.symm, same.2.symm⟩
  ext1
  · funext cache key
    simp only [held_receive, takesFirst, takesSecond]
    cases frame.takes first view with
    | false => simp
    | true =>
        cases frame.takes second view with
        | false => simp
        | true => 
            simp only [↓reduceIte]
            exact (effect_comm consistent narrowFirst narrowSecond apart cache key _).symm
  · funext cache key
    simp only [recorded_receive, recordsFirst, recordsSecond]
    by_cases ownFirst : frame.records first view = true ∧ cache = first.cache ∧
        first.key = .entry key
    · by_cases ownSecond : frame.records second view = true ∧ cache = second.cache ∧
          second.key = .entry key
      · exact absurd ⟨ownFirst.2.1.symm.trans ownSecond.2.1,
          ownFirst.2.2.trans ownSecond.2.2.symm⟩ apart
      · rw [if_neg ownSecond, if_pos ownFirst, if_pos ownFirst]
    · rw [if_neg ownFirst, if_neg ownFirst]

end Frame

/-! ## Orders of events -/

section Orders

variable {α σ : Type} {act : σ → α → σ}

/-- An item that commutes with all before it may come first. -/
theorem foldl_move_to_front {item : α} {before : List α}
    (crossings : ∀ other ∈ before, ∀ state,
      act (act state other) item = act (act state item) other) :
    ∀ state, act (before.foldl act state) item = before.foldl act (act state item) := by
  induction before with
  | nil => exact fun _ => rfl
  | cons head rest inductionHypothesis =>
      intro state
      rw [List.foldl_cons, List.foldl_cons, ← crossings head List.mem_cons_self]
      exact inductionHypothesis (fun other member =>
        crossings other (List.mem_cons_of_mem head member)) _

/-- Where items of different routes commute, only the order on each route matters. -/
theorem foldl_eq_of_routes (route : α → Nat) {first : List α} :
    ∀ {second : List α},
      (∀ one ∈ first, ∀ other ∈ first, route one ≠ route other → ∀ state,
        act (act state one) other = act (act state other) one) →
      (∀ place, first.filter (route · = place) = second.filter (route · = place)) →
        ∀ state, first.foldl act state = second.foldl act state := by
  induction first with
  | nil =>
      intro second _ same state
      cases second with
      | nil => rfl
      | cons head rest =>
          have routed := same (route head)
          simp at routed
  | cons head rest inductionHypothesis =>
      intro second commutes same state
      have routed := same (route head)
      rw [List.filter_cons_of_pos (by simp)] at routed
      obtain ⟨before, behind, rfl, others, _, behind_eq⟩ := List.filter_eq_cons_iff.1 routed.symm
      have known : ∀ other ∈ before, other ∈ head :: rest := by
        intro other member
        have found : other ∈ (head :: rest).filter (route · = route other) := by
          rw [same]
          simp [member]
        exact (List.mem_filter.1 found).1
      have crossings : ∀ other ∈ before, ∀ state,
          act (act state other) head = act (act state head) other := by
        intro other member
        have different : route other ≠ route head := by simpa using others other member
        exact commutes other (known other member) head List.mem_cons_self different
      rw [List.foldl_append, List.foldl_cons, List.foldl_cons, foldl_move_to_front crossings,
        ← List.foldl_append]
      refine inductionHypothesis ?_ ?_ _
      · intro one member other memberToo
        exact commutes one (List.mem_cons_of_mem head member) other
          (List.mem_cons_of_mem head memberToo)
      · intro place
        have routes := same place
        rw [List.filter_append, List.filter_cons, List.filter_cons] at routes
        rw [List.filter_append]
        by_cases here : route head = place
        · subst here
          have none : before.filter (route · = route head) = [] := by
            rw [List.filter_eq_nil_iff]
            simpa using others
          simpa [none] using routes
        · simpa [here] using routes

end Orders

end CacheSync
