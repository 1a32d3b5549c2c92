import CacheSync.Node.Exchange
import CacheSync.Proofs.Node.Comparing

/-!
# Convergence under any delivery order

If the times of all events are distinct and compared, then what a node holds of a key depends on the
latest event that has reached it, and so all nodes agree on a key of which nothing is on its way,
in whatever order the copies are delivered.

`Exchange.Sound` is the invariant: everything on its way was logged, every event of the log is on
its way to a node or a time no earlier is recorded there, and beside each recorded time the node
holds what the event of that time left.
-/

namespace CacheSync

open Json (Value)

namespace Exchange

/-- The latest event that concerns a key. -/
def latest? (exchange : Exchange) (key : String) : Option Event :=
  (exchange.log.filter fun event => event.Concerns key).getLast?

/-- A message that concerns a key is on its way. -/
def Pending (exchange : Exchange) (key : String) : Prop :=
  ∃ flight ∈ exchange.flights, ∃ event, Wire.decode flight.body = .ok event ∧ event.Concerns key

/-! ## What is asked of the events -/

/-- A time is recorded for a key before the first step. -/
def Inherits (start : Exchange) (cache key : String) (recorded : Int) : Prop :=
  ∃ core ∈ start.cores, core.view.recorded cache key = some recorded

/-- The events of a log can be sent, and each is later than those before it and than the times that
were recorded before the first step, of which a fresh node has none. -/
structure Orderly (cache : String) (start : Exchange) (log : List Event) : Prop where
  portable : ∀ event ∈ log, event.isPortable = true
  dated : ∀ event ∈ log, event.time.InCalendar
  increasing : log.Pairwise fun earlier later => earlier.micros < later.micros
  later : ∀ event ∈ log, ∀ {key : String} {recorded : Int}, Inherits start cache key recorded →
    recorded < event.micros

namespace Orderly

variable {cache : String} {start : Exchange} {log rest : List Event}

theorem of_append (orderly : Orderly cache start (log ++ rest)) : Orderly cache start log where
  portable event member := orderly.portable event (List.mem_append_left rest member)
  dated event member := orderly.dated event (List.mem_append_left rest member)
  increasing := (List.pairwise_append.1 orderly.increasing).1
  later event member := orderly.later event (List.mem_append_left rest member)

theorem decode_encode (orderly : Orderly cache start log) {event : Event} (member : event ∈ log) :
    Wire.decode (Wire.encode event true) = .ok event.delivered :=
  Wire.decode_encode (orderly.dated event member) fun _ => orderly.portable event member

/-- Events with the same message have the same key and the same time. -/
theorem same_of_encode (orderly : Orderly cache start log) {event other : Event}
    (member : event ∈ log) (logged : other ∈ log)
    (same : Wire.encode event true = Wire.encode other true) :
    event.key = other.key ∧ event.micros = other.micros := by
  have delivered : event.delivered = other.delivered := by
    have read := orderly.decode_encode member
    rw [same, orderly.decode_encode logged] at read
    exact (Except.ok.inj read).symm
  constructor
  · rw [← event.key_delivered, delivered, other.key_delivered]
  · rw [← event.micros_delivered (orderly.dated event member), delivered,
      other.micros_delivered (orderly.dated other logged)]

end Orderly

/-! ## The invariant -/

/-- A recorded time is inherited, or that of an event of which the new value or none is held. -/
def Recalls (cache : String) (start : Exchange) (log : List Event) (view : View) (key : String)
    (recorded : Int) : Prop :=
  Inherits start cache key recorded ∨
    ∃ event ∈ log, event.key = .entry key ∧ event.micros = recorded ∧
      (view.held cache key = none ∨ view.held cache key = event.new)

theorem Recalls.append {cache : String} {start : Exchange} {log : List Event} {view : View}
    {key : String} {recorded : Int} (recalls : Recalls cache start log view key recorded)
    (added : List Event) : Recalls cache start (log ++ added) view key recorded := by
  rcases recalls with inherited | ⟨event, logged, rest⟩
  · exact Or.inl inherited
  · exact Or.inr ⟨event, List.mem_append_left added logged, rest⟩

structure Sound (cache : String) (start exchange : Exchange) : Prop where
  compares : ∀ {index : Nat} {core : Core}, exchange.cores[index]? = some core →
    core.frame.Compares cache
  logged : ∀ event ∈ exchange.log, event.cache = cache ∧ event.key ≠ .all
  flown : ∀ flight ∈ exchange.flights, ∃ event ∈ exchange.log, flight.body = Wire.encode event true
  reached : ∀ event ∈ exchange.log, ∀ {key : String}, event.key = .entry key →
    ∀ {index : Nat} {core : Core}, exchange.cores[index]? = some core →
      ⟨index, Wire.encode event true⟩ ∈ exchange.flights ∨
        ∃ recorded, core.view.recorded cache key = some recorded ∧ event.micros ≤ recorded
  recorded : ∀ {index : Nat} {core : Core}, exchange.cores[index]? = some core →
    ∀ {key : String} {recorded : Int}, core.view.recorded cache key = some recorded →
      Recalls cache start exchange.log core.view key recorded

variable {cache : String} {start exchange : Exchange}

theorem core_setCore {index other : Nat} {core found : Core}
    (held : (exchange.setCore index core).cores[other]? = some found) :
    other = index ∧ found = core ∨ other ≠ index ∧ exchange.cores[other]? = some found := by
  simp only [setCore, List.getElem?_set] at held
  split at held
  next same =>
    split at held
    · injection held with found
      exact Or.inl ⟨same.symm, found.symm⟩
    · cases held
  next different => exact Or.inr ⟨fun same => different same.symm, held⟩

namespace Sound

/-- Before the first step nothing was logged and nothing is on its way. -/
theorem initial (compares : ∀ core ∈ start.cores, core.frame.Compares cache)
    (quiet : start.flights = []) (fresh : start.log = []) : Sound cache start start where
  compares found := compares _ (List.mem_of_getElem? found)
  logged := by simp [fresh]
  flown := by simp [quiet]
  reached := by simp [fresh]
  recorded found := fun held => Or.inl ⟨_, List.mem_of_getElem? found, held⟩

theorem setCore_of_same (sound : Sound cache start exchange) {index : Nat} {core after : Core}
    (found : exchange.cores[index]? = some core) (frame_eq : after.frame = core.frame)
    (view_eq : after.view = core.view) :
    Sound cache start (exchange.setCore index after) where
  compares held := by
    rcases core_setCore held with ⟨_, rfl⟩ | ⟨_, held⟩
    · rw [frame_eq]
      exact sound.compares found
    · exact sound.compares held
  logged := sound.logged
  flown := sound.flown
  reached event member key one index core held := by
    rcases core_setCore held with ⟨rfl, rfl⟩ | ⟨_, held⟩
    · rw [view_eq]
      exact sound.reached event member one found
    · exact sound.reached event member one held
  recorded held := by
    intro key recorded
    rcases core_setCore held with ⟨_, rfl⟩ | ⟨_, held⟩
    · rw [view_eq]
      exact sound.recorded found
    · exact sound.recorded held

/-- A node takes over an event, which it has just sent or which was in the log before. -/
theorem takeOver (sound : Sound cache start exchange) {index : Nat} {core after : Core}
    {event : Event} {key : String} (found : exchange.cores[index]? = some core)
    (frame_eq : after.frame = core.frame) (of : event.cache = cache)
    (took : after.view.TookOver core.view event key) (added : List Event) (copied : List Flight)
    (only : ∀ other ∈ added, other = event) (member : event ∈ exchange.log ++ added)
    (bodies : ∀ flight ∈ copied, flight.body = Wire.encode event true)
    (spread : event ∈ added → ∀ {other : Nat} {held : Core}, other ≠ index →
      exchange.cores[other]? = some held → ⟨other, Wire.encode event true⟩ ∈ copied) :
    Sound cache start ⟨exchange.cores.set index after, exchange.flights ++ copied,
      exchange.log ++ added⟩ where
  compares held := by
    rcases core_setCore held with ⟨_, rfl⟩ | ⟨_, held⟩
    · rw [frame_eq]
      exact sound.compares found
    · exact sound.compares held
  logged other known := by
    rcases List.mem_append.1 known with early | late
    · exact sound.logged other early
    · rw [only other late]
      exact ⟨of, by simp [took.one]⟩
  flown flight known := by
    rcases List.mem_append.1 known with early | late
    · obtain ⟨sent, logged, body⟩ := sound.flown flight early
      exact ⟨sent, List.mem_append_left added logged, body⟩
    · exact ⟨event, member, bodies flight late⟩
  reached other known name one index' core' held := by
    subst of
    rcases core_setCore held with ⟨rfl, rfl⟩ | ⟨different, held⟩
    · rcases List.mem_append.1 known with early | late
      · rcases sound.reached other early one found with flies | ⟨recorded, already, notEarlier⟩
        · exact Or.inl (List.mem_append_left copied flies)
        · obtain ⟨later, now, grown⟩ := took.grows already
          exact Or.inr ⟨later, now, Int.le_trans notEarlier grown⟩
      · rw [only other late, took.one] at one
        rw [only other late, ← EntryKey.entry.inj one]
        exact Or.inr ⟨event.micros, took.recorded_eq, Int.le_refl _⟩
    · rcases List.mem_append.1 known with early | late
      · rcases sound.reached other early one held with flies | already
        · exact Or.inl (List.mem_append_left copied flies)
        · exact Or.inr already
      · have same := only other late
        subst same
        exact Or.inl (List.mem_append_right _ (spread late different held))
  recorded held := by
    intro name recorded shown
    subst of
    rcases core_setCore held with ⟨_, rfl⟩ | ⟨_, held⟩
    · by_cases same : name = key
      · subst same
        rw [took.recorded_eq] at shown
        exact Or.inr ⟨event, member, took.one, Option.some.inj shown, took.held_cases⟩
      · rw [took.recorded_others name same] at shown
        have recalls := sound.recorded found shown
        unfold Recalls at recalls ⊢
        rw [took.held_others name same]
        exact Recalls.append recalls added
    · exact (sound.recorded held shown).append added

theorem drop (sound : Sound cache start exchange) {before behind : List Flight} {flight : Flight}
    (flights : exchange.flights = before ++ flight :: behind)
    (landed : ∀ event ∈ exchange.log, flight.body = Wire.encode event true →
      ∀ {key : String}, event.key = .entry key →
        ∀ {core : Core}, exchange.cores[flight.target]? = some core →
          ∃ recorded, core.view.recorded cache key = some recorded ∧ event.micros ≤ recorded) :
    Sound cache start { exchange with flights := before ++ behind } where
  compares := sound.compares
  logged := sound.logged
  flown other known := by
    refine sound.flown other ?_
    rw [flights]
    rcases List.mem_append.1 known with early | late
    · exact List.mem_append_left _ early
    · exact List.mem_append_right _ (List.mem_cons_of_mem flight late)
  reached event known key one index core held := by
    rcases sound.reached event known one held with flies | already
    · rw [flights] at flies
      rcases List.mem_append.1 flies with early | late
      · exact Or.inl (List.mem_append_left behind early)
      · rcases List.mem_cons.1 late with this | later
        · subst this
          exact Or.inr (landed event known rfl one held)
        · exact Or.inl (List.mem_append_right before later)
    · exact Or.inr already
  recorded := sound.recorded

/-! ## Steps -/

theorem deliver (sound : Sound cache start exchange) (orderly : Orderly cache start exchange.log)
    {before behind : List Flight} {flight : Flight} {core : Core} {clock : Clock}
    (flights : exchange.flights = before ++ flight :: behind)
    (found : exchange.cores[flight.target]? = some core)
    (left : core.purgesOn flight.body clock = false) :
    Sound cache start
      { exchange.setCore flight.target (core.receive flight.body clock).core with
        flights := before ++ behind } := by
  obtain ⟨event, member, body⟩ := sound.flown flight (by simp [flights])
  obtain ⟨of, keyed⟩ := sound.logged event member
  obtain ⟨key, one⟩ := Event.exists_entry keyed
  have read : Wire.decode flight.body = .ok event.delivered := by
    rw [body]
    exact orderly.decode_encode member
  obtain ⟨frame_eq, outcome⟩ := Core.receive_cases (sound.compares found) of one
    (orderly.dated event member) read left
  generalize (core.receive flight.body clock).core = after at frame_eq outcome ⊢
  -- Either way a time no earlier than that of the event is recorded then.
  have settled : Sound cache start (exchange.setCore flight.target after) ∧
      ∃ recorded, after.view.recorded cache key = some recorded ∧ event.micros ≤ recorded := by
    rcases outcome with took | ⟨view_eq, recorded⟩
    · have sound' := sound.takeOver found frame_eq of took [] []
        (by simp) (by simpa using member) (by simp) (by simp)
      subst of
      refine ⟨?_, event.micros, took.recorded_eq, Int.le_refl _⟩
      simpa [setCore] using sound'
    · rw [view_eq]
      exact ⟨sound.setCore_of_same found frame_eq view_eq, recorded⟩
  obtain ⟨sound', recorded⟩ := settled
  refine sound'.drop flights ?_
  intro other logged same name oneOther core' held
  obtain ⟨sameKey, sameMicros⟩ := orderly.same_of_encode logged member (same.symm.trans body)
  rw [sameKey, one] at oneOther
  rw [sameMicros, ← EntryKey.entry.inj oneOther]
  rcases core_setCore held with ⟨_, rfl⟩ | ⟨different, _⟩
  · exact recorded
  · exact absurd rfl different

/-- Every recorded time is earlier than an event that comes after all others. -/
theorem newer (sound : Sound cache start exchange) {event : Event}
    (orderly : Orderly cache start (exchange.log ++ [event])) {index : Nat} {core : Core}
    (found : exchange.cores[index]? = some core) {key : String} {recorded : Int}
    (held : core.view.recorded cache key = some recorded) : recorded < event.micros := by
  rcases sound.recorded found held with inherited | ⟨earlier, member, _, rfl, _⟩
  · exact orderly.later event (by simp) inherited
  · exact (List.pairwise_append.1 orderly.increasing).2.2 earlier member event (by simp)

/-- What a sent event adds: one copy for every other node, and itself to the log. -/
theorem send_eq {index : Nat} {core operated posted : Core} {event : Event} {clock : Clock}
    {body : List UInt8} (found : exchange.cores[index]? = some core)
    (posts : operated.post event clock = (posted, some body)) :
    (exchange.setCore index operated).send index event clock =
      ⟨exchange.cores.set index posted, exchange.flights ++ exchange.copies index body,
        exchange.log ++ [event]⟩ := by
  obtain ⟨inRange, _⟩ := List.getElem?_eq_some_iff.1 found
  have here : (exchange.setCore index operated).cores[index]? = some operated := by
    simp [setCore, inRange]
  unfold send
  rw [here]
  simp only [posts, setCore, copies, List.set_set, List.length_set, Option.toList_some,
    List.flatMap_cons, List.flatMap_nil, List.append_nil]

theorem operate (sound : Sound cache start exchange) {index : Nat} {core : Core} {guarded : Bool}
    {call : StoreCall} {clock : Clock} {operated : Core.Operated}
    (found : exchange.cores[index]? = some core) (made : call.origin = .localNode)
    (keyed : call.key ≠ .all) (operates : core.operate cache guarded call clock = some operated)
    (left : ∀ event ∈ operated.heard, operated.core.purges event clock = false)
    (orderly : Orderly cache start (exchange.log ++ operated.heard)) :
    Sound cache start
      (operated.heard.foldl (fun exchange event => exchange.send index event clock)
        (exchange.setCore index operated.core)) := by
  have compares := sound.compares found
  obtain ⟨config, replicates, _, hears⟩ := compares
  obtain ⟨performed, performs, follows⟩ :=
    Core.operate_follows replicates hears guarded call clock
  obtain rfl : performed = operated := Option.some.inj (performs.symm.trans operates)
  rcases follows.told with ⟨silent, same⟩ | ⟨event, heard, of, about, origin, _, tells⟩
  · have view_eq : performed.core.view = core.view := by
      ext1
      · funext other
        by_cases this : other = cache
        · subst this
          exact same
        · exact follows.others_eq other this
      · simp only [Core.view, follows.recorded_eq]
    rw [silent]
    exact sound.setCore_of_same found follows.frame_eq view_eq
  · rw [heard] at orderly ⊢
    obtain ⟨key, one⟩ := Event.exists_entry (about ▸ keyed)
    obtain ⟨after, posts, frame_eq, took⟩ := Core.post_takes (sound.compares found) of one
      (origin.trans made) follows.frame_eq follows.recorded_eq tells
      (fun recorded held => sound.newer orderly found held)
      (left event (by simp [heard]))
    simp only [List.foldl_cons, List.foldl_nil, send_eq found posts]
    refine sound.takeOver found frame_eq of took [event] _ (by simp) (by simp) ?_ ?_
    · intro flight member
      simp only [copies, List.mem_map] at member
      obtain ⟨_, _, rfl⟩ := member
      rfl
    · intro _ other held different there
      obtain ⟨inRange, _⟩ := List.getElem?_eq_some_iff.1 there
      simp only [copies, List.mem_map, List.mem_filter, List.mem_range, decide_eq_true_eq]
      exact ⟨other, ⟨inRange, different⟩, rfl⟩

end Sound

theorem log_send {index : Nat} (inRange : index < exchange.cores.length) (event : Event)
    (clock : Clock) :
    (exchange.send index event clock).log = exchange.log ++ [event] ∧
      (exchange.send index event clock).cores.length = exchange.cores.length := by
  unfold send
  rw [List.getElem?_eq_getElem inRange]
  simp

theorem log_foldl_send (events : List Event) (index : Nat) (clock : Clock) :
    ∀ exchange : Exchange, index < exchange.cores.length →
      (events.foldl (fun exchange event => exchange.send index event clock) exchange).log =
        exchange.log ++ events := by
  induction events with
  | nil => simp
  | cons event rest inductionHypothesis =>
      intro exchange inRange
      obtain ⟨log, length⟩ := log_send inRange event clock
      rw [List.foldl_cons, inductionHypothesis _ (by rw [length]; exact inRange), log,
        List.append_assoc, List.singleton_append]

/-- A step adds to the log, and keeps the invariant if the log stays in order. -/
theorem Step.sound (start : Exchange) {after : Exchange} (step : Step cache exchange after) :
    ∃ added, after.log = exchange.log ++ added ∧
      (Orderly cache start (exchange.log ++ added) → Sound cache start exchange →
        Sound cache start after) := by
  cases step with
  | @operate index core guarded call clock operated found made keyed operates left =>
      obtain ⟨inRange, _⟩ := List.getElem?_eq_some_iff.1 found
      refine ⟨operated.heard, ?_, ?_⟩
      · exact log_foldl_send _ index clock _ (by simpa [setCore] using inRange)
      · intro orderly sound
        exact sound.operate found made keyed operates left orderly
  | deliver flights found left =>
      refine ⟨[], by simp [setCore], ?_⟩
      intro orderly sound
      rw [List.append_nil] at orderly
      exact sound.deliver orderly flights found left

theorem Run.sound {after : Exchange} (run : Run cache start after)
    (compares : ∀ core ∈ start.cores, core.frame.Compares cache) (quiet : start.flights = [])
    (fresh : start.log = []) (orderly : Orderly cache start after.log) :
    Sound cache start after := by
  induction run with
  | refl => exact Sound.initial compares quiet fresh
  | step _ step inductionHypothesis =>
      obtain ⟨added, log_eq, sound⟩ := step.sound start
      rw [log_eq] at orderly
      exact sound orderly (inductionHypothesis orderly.of_append)

/-! ## Convergence -/

/-- No event of a key comes after the latest. -/
theorem latest_spec {key : String} {latest event : Event}
    (increasing : exchange.log.Pairwise fun earlier later => earlier.micros < later.micros)
    (last : exchange.latest? key = some latest) (member : event ∈ exchange.log)
    (concerned : event.Concerns key) : event = latest ∨ event.micros < latest.micros := by
  obtain ⟨before, shape⟩ := List.getLast?_eq_some_iff.1 last
  have ordered := increasing.filter fun event => decide (event.Concerns key)
  rw [shape] at ordered
  have among : event ∈ before ++ [latest] := by
    rw [← shape]
    exact List.mem_filter.2 ⟨member, by simpa using concerned⟩
  rcases List.mem_append.1 among with early | same
  · exact Or.inr ((List.pairwise_append.1 ordered).2.2 event early latest (by simp))
  · exact Or.inl (List.mem_singleton.1 same)

/-- Nodes that compare times agree on every key that an event concerned and of which nothing is on
its way: each holds the new value of the latest event, or none. -/
theorem converges {after : Exchange} (run : Run cache start after)
    (compares : ∀ core ∈ start.cores, core.frame.Compares cache) (quiet : start.flights = [])
    (fresh : start.log = []) (orderly : Orderly cache start after.log) {key : String}
    (concerned : ∃ event ∈ after.log, event.Concerns key)
    (landed : ¬ after.Pending key) :
    ∃ latest, after.latest? key = some latest ∧
      (∀ core ∈ after.cores, core.held cache key = none ∨ core.held cache key = latest.new) ∧
        (latest.new = none → ∀ core ∈ after.cores, core.held cache key = none) := by
  have sound := run.sound compares quiet fresh orderly
  obtain ⟨event, member, about⟩ := concerned
  obtain ⟨latest, last⟩ : ∃ latest, after.latest? key = some latest := by
    have among : event ∈ after.log.filter fun event => event.Concerns key :=
      List.mem_filter.2 ⟨member, by simpa using about⟩
    exact ⟨_, List.getLast?_eq_some_getLast (List.ne_nil_of_mem among)⟩
  have among := List.mem_of_getLast? last
  obtain ⟨logged, concerns⟩ := List.mem_filter.1 among
  have concerns : latest.Concerns key := by simpa using concerns
  have one : latest.key = .entry key :=
    concerns.resolve_left (sound.logged latest logged).2
  have agrees : ∀ core ∈ after.cores,
      core.held cache key = none ∨ core.held cache key = latest.new := by
    intro core member
    obtain ⟨index, found⟩ := List.getElem?_of_mem member
    rcases sound.reached latest logged one found with flies | ⟨recorded, shown, notEarlier⟩
    · exact absurd ⟨_, flies, _, orderly.decode_encode logged, concerns⟩ landed
    · rcases sound.recorded found shown with inherited | ⟨event, known, about, time, held⟩
      · have := orderly.later latest logged inherited
        omega
      · rcases latest_spec orderly.increasing last known (Or.inr about) with rfl | earlier
        · exact held
        · omega
  refine ⟨latest, last, agrees, ?_⟩
  intro gone core member
  rcases agrees core member with none | new
  · exact none
  · exact new.trans gone

/-- Two nodes before the first step. -/
def pair : Exchange :=
  ⟨[.sample true, .sample true], [], []⟩

/-- Both nodes put a value of the same key, and the message of the later put arrives first.  It meets
another value than its own old one, so the first node keeps none. -/
theorem converges_pair : ∃ after, Run "users" pair after ∧
    after.log.length = 2 ∧ after.flights = [] ∧
    (after.cores.map fun core => (core.held "users" "ada").map (·.same (.text "author"))) =
      [none, some true] ∧
    ∃ latest, after.latest? "ada" = some latest ∧
      (∀ core ∈ after.cores, core.held "users" "ada" = none ∨
        core.held "users" "ada" = latest.new) ∧
        (latest.new = none → ∀ core ∈ after.cores, core.held "users" "ada" = none) := by
  have first := Run.step (@Run.refl "users" pair) (@Step.operate "users" pair 0 _ false
    (.put "ada" (.text "countess") .localNode) ⟨0, 0⟩ _ rfl rfl (by decide) rfl
    (by decide +kernel))
  have second := Run.step first (@Step.operate "users" _ 1 _ false
    (.put "ada" (.text "author") .localNode) ⟨2000, 0⟩ _ rfl rfl (by decide) rfl
    (by decide +kernel))
  have third := Run.step second (@Step.deliver "users" _ [_] [] _ _ ⟨4000, 0⟩ rfl rfl
    (by decide +kernel))
  have run := Run.step third (@Step.deliver "users" _ [] [] _ _ ⟨5000, 0⟩ rfl rfl
    (by decide +kernel))
  refine ⟨_, run, by decide +kernel, by decide +kernel, by decide +kernel, converges run ?_ rfl rfl ⟨?_, ?_, ?_, ?_⟩ ?_ ?_⟩
  · intro core member
    have same : core = .sample true := by simpa [pair] using member
    subst same
    exact ⟨_, Core.sample_replicates true, rfl, Core.sample_hearsOnce true⟩
  · decide +kernel
  · decide +kernel
  · decide +kernel
  · rintro event _ key recorded ⟨core, member, shown⟩
    have same : core = .sample true := by simpa [pair] using member
    subst same
    cases shown
  · decide +kernel
  · rintro ⟨flight, member, _⟩
    cases member

end Exchange

end CacheSync
