import CacheSync.Proofs.Ring.Stripes
import CacheSync.Ring.Shift

/-!
# What holds of a shift

What can be said of a shift is said stripe by stripe.  An `Outlook` is what there is to see of one
stripe; a step makes one `Move` there and changes the outlook of no other stripe.
-/

namespace CacheSync

namespace Worker

variable {ω : Type}

/-- Whether a worker is past closing its stripe. -/
def isGone : Worker (Duty ω) → Bool
  | .busy (.leaving _) => true
  | .ended _ => true
  | _ => false

/-- Whether a crash has ended a worker's work. -/
def isLost : Worker (Duty ω) → Bool
  | .busy (.stopping .crashed) => true
  | .busy (.leaving .crashed) => true
  | .ended .crashed => true
  | _ => false

/-- Whether a worker is between its last item and its end. -/
def isOnItsWayOut : Worker (Duty ω) → Bool
  | .busy (.stopping _) => true
  | .busy (.leaving _) => true
  | _ => false

end Worker

namespace Shift

open StripedRing (size_setRing size_closeStripe)

variable {α ω : Type} {start : α → ω} {shift next after : Shift α ω} {actor : Actor}

/-- The items accepted by a stripe, with their hashes. -/
def acceptedBy (shift : Shift α ω) (stripe : Nat) : List (UInt64 × α) :=
  shift.accepted.filter fun offer => shift.workers.ring.stripeFor offer.1 == stripe

/-- The items that the worker of a stripe has taken. -/
def takenFrom (shift : Shift α ω) (stripe : Nat) : List α :=
  (shift.taken.filter fun one => one.1 == stripe).map Prod.snd

/-! ## The outlook of a stripe -/

/-- What there is to see of one stripe. -/
structure Outlook (α ω : Type) where
  ring? : Option (Ring α)
  worker? : Option (Worker (Duty ω))
  taken : List α
  accepted : List (UInt64 × α)

def outlook (shift : Shift α ω) (stripe : Nat) : Outlook α ω :=
  ⟨shift.workers.ring.rings[stripe]?, shift.workers.workers[stripe]?, shift.takenFrom stripe,
    shift.acceptedBy stripe⟩

/-- What a step changes in the outlook of its stripe. -/
inductive Move : Outlook α ω → Outlook α ω → Prop where
  | rest (view : Outlook α ω) : Move view view
  | accepted {view : Outlook α ω} {ring after : Ring α} {item : α} (hash : UInt64)
      (found : view.ring? = some ring) (offered : ring.offer item = .accepted after) :
      Move view { view with ring? := some after, accepted := view.accepted ++ [(hash, item)] }
  | taken {view : Outlook α ω} {ring after : Ring α} {item : α} (work : ω)
      (found : view.ring? = some ring) (polled : ring.poll = .taken item after) :
      Move view { view with
        ring? := some after
        worker? := some (.busy (.handling work))
        taken := view.taken ++ [item] }
  | retired {view : Outlook α ω} {ring : Ring α}
      (found : view.ring? = some ring) (polled : ring.poll = .closed) :
      Move view { view with worker? := some (.ended .closed) }
  | worked {view : Outlook α ω} {worker : Worker (Duty ω)} (here : worker.isGone = false) :
      Move view { view with worker? := some worker }
  | shut {view : Outlook α ω} {ring : Ring α} (why : Ending) (found : view.ring? = some ring) :
      Move view { view with
        ring? := some ring.close
        worker? := some (.busy (.leaving why)) }
  | left {view : Outlook α ω} {why : Ending}
      (leaving : view.worker? = some (.busy (.leaving why))) :
      Move view { view with worker? := some (.ended why) }
  | closed {view : Outlook α ω} {ring : Ring α} (found : view.ring? = some ring) :
      Move view { view with ring? := some ring.close }

section Updates

variable (shift : Shift α ω) {stripe : Nat}

theorem outlook_setWorker (inRange : stripe < shift.workers.workers.length)
    (worker : Worker (Duty ω)) (failed : Nat) :
    outlook { shift with
        workers := shift.workers.setWorker stripe worker
        failed := failed } =
      Function.update shift.outlook stripe
        { shift.outlook stripe with worker? := some worker } := by
  funext other
  by_cases same : other = stripe
  · subst same
    simp [outlook, Workers.setWorker, takenFrom, acceptedBy, inRange]
  · simp [outlook, Workers.setWorker, takenFrom, acceptedBy, same, Ne.symm same]

theorem outlook_setRing (inRange : stripe < shift.workers.ring.rings.size) (ring : Ring α)
    (waiting : List (UInt64 × α)) :
    outlook { shift with
        workers := { shift.workers with ring := shift.workers.ring.setRing stripe ring }
        waiting := waiting } =
      Function.update shift.outlook stripe { shift.outlook stripe with ring? := some ring } := by
  have sameStripe (hash : UInt64) : (shift.workers.ring.setRing stripe ring).stripeFor hash =
      shift.workers.ring.stripeFor hash := by
    simp [StripedRing.stripeFor, StripedRing.stripeCount, StripedRing.setRing]
  funext other
  by_cases same : other = stripe
  · subst same
    simp only [outlook, takenFrom, acceptedBy, sameStripe, Function.update_self]
    simp [StripedRing.setRing, inRange]
  · simp only [outlook, takenFrom, acceptedBy, sameStripe, Function.update_of_ne same]
    simp [StripedRing.setRing, Array.getElem?_setIfInBounds_ne (Ne.symm same)]

theorem outlook_accepted (hash : UInt64) (item : α)
    (routed : shift.workers.ring.stripeFor hash = stripe) :
    outlook { shift with accepted := shift.accepted ++ [(hash, item)] } =
      Function.update shift.outlook stripe { shift.outlook stripe with
        accepted := (shift.outlook stripe).accepted ++ [(hash, item)] } := by
  funext other
  by_cases same : other = stripe
  · subst same
    simp [outlook, takenFrom, acceptedBy, routed]
  · simp [outlook, takenFrom, acceptedBy, routed, same, Ne.symm same]

theorem outlook_taken (item : α) :
    outlook { shift with taken := shift.taken ++ [(stripe, item)] } =
      Function.update shift.outlook stripe { shift.outlook stripe with
        taken := (shift.outlook stripe).taken ++ [item] } := by
  funext other
  by_cases same : other = stripe
  · subst same
    simp [outlook, takenFrom, acceptedBy]
  · simp [outlook, takenFrom, acceptedBy, same, Ne.symm same]

end Updates

/-! ## One step -/

/-- A ring and a worker for each of so many stripes. -/
structure Sized (shift : Shift α ω) (stripes : Nat) : Prop where
  rings_size : shift.workers.ring.rings.size = stripes
  workers_length : shift.workers.workers.length = stripes

theorem Sized.ring_of_worker {stripes stripe : Nat} {worker : Worker (Duty ω)}
    (sized : shift.Sized stripes) (found : shift.workers.workers[stripe]? = some worker) :
    ∃ ring, shift.workers.ring.rings[stripe]? = some ring := by
  have inRange : stripe < shift.workers.ring.rings.size := by
    rw [sized.rings_size, ← sized.workers_length]
    exact (List.getElem?_eq_some_iff.1 found).1
  exact ⟨_, Array.getElem?_eq_getElem inRange⟩

theorem Step.sized {stripes : Nat} (step : Step start actor shift next)
    (sized : shift.Sized stripes) : next.Sized stripes := by
  obtain ⟨rings_size, workers_length⟩ := sized
  have setWorker (w : Workers α (Duty ω)) (stripe : Nat) (worker : Worker (Duty ω)) :
      (w.setWorker stripe worker).workers.length = w.workers.length := List.length_set
  cases step with
  | call _ hash item => exact ⟨rings_size, workers_length⟩
  | refuse waiting_eq offered => exact ⟨rings_size, workers_length⟩
  | accept waiting_eq offered =>
      obtain ⟨one, after, _, _, rfl⟩ := Workers.of_offer offered
      exact ⟨(size_setRing _ _ _).trans rings_size, workers_length⟩
  | take polled took =>
      obtain ⟨one, after, _, _, rfl⟩ := Workers.of_take?_taken took polled
      exact ⟨(size_setRing _ _ _).trans rings_size, (setWorker _ _ _).trans workers_length⟩
  | retire polled took =>
      rw [Workers.of_take?_closed took polled]
      exact ⟨rings_size, (setWorker _ _ _).trans workers_length⟩
  | handle busy later => exact ⟨rings_size, (setWorker _ _ _).trans workers_length⟩
  | goOn busy => exact ⟨rings_size, (setWorker _ _ _).trans workers_length⟩
  | report busy ends => exact ⟨rings_size, (setWorker _ _ _).trans workers_length⟩
  | leave busy => exact ⟨rings_size, (setWorker _ _ _).trans workers_length⟩
  | shut busy =>
      exact ⟨(size_closeStripe _ _).trans rings_size, (setWorker _ _ _).trans workers_length⟩
  | close _ stripe => exact ⟨(size_closeStripe _ _).trans rings_size, workers_length⟩

/-- The outlook of one stripe makes a move, and that of no other stripe changes. -/
def MovesAt (shift next : Shift α ω) (stripe : Nat) : Prop :=
  ∃ view, Move (shift.outlook stripe) view ∧
    next.outlook = Function.update shift.outlook stripe view

section Moves

variable {stripe : Nat} {hash : UInt64} {item : α} {w : Workers α (Duty ω)}

theorem ring_lt {ring : Ring α} (found : shift.workers.ring.rings[stripe]? = some ring) :
    stripe < shift.workers.ring.rings.size :=
  (Array.getElem?_eq_some_iff.1 found).1

theorem worker_lt {worker : Worker (Duty ω)}
    (found : shift.workers.workers[stripe]? = some worker) :
    stripe < shift.workers.workers.length :=
  (List.getElem?_eq_some_iff.1 found).1

theorem movesAt_of_outlook (same : next.outlook = shift.outlook) (stripe : Nat) :
    shift.MovesAt next stripe :=
  ⟨_, .rest _, same.trans (Function.update_eq_self stripe shift.outlook).symm⟩

/-- The item of an accepted offer goes into the ring of its stripe. -/
theorem movesAt_of_accept (offered : shift.workers.offer hash item = .accepted w)
    (waiting : List (UInt64 × α)) :
    shift.MovesAt { shift with
      workers := w
      waiting := waiting
      accepted := shift.accepted ++ [(hash, item)] } (shift.workers.ring.stripeFor hash) := by
  obtain ⟨one, after, found, outcome, rfl⟩ := Workers.of_offer offered
  refine ⟨_, .accepted hash found outcome, ?_⟩
  let grown : Shift α ω := { shift with
    workers := { shift.workers with
      ring := shift.workers.ring.setRing (shift.workers.ring.stripeFor hash) after }
    waiting := waiting }
  have routed : grown.workers.ring.stripeFor hash = shift.workers.ring.stripeFor hash := by
    simp only [grown, StripedRing.stripeFor, StripedRing.stripeCount, size_setRing]
  have grown_eq : grown.outlook = _ := outlook_setRing shift (ring_lt found) after waiting
  refine (outlook_accepted grown hash item routed).trans ?_
  rw [grown_eq, Function.update_self, Function.update_idem]

/-- A worker takes an item out of the ring and begins to handle it. -/
theorem movesAt_of_take {ring : StripedRing α}
    (polled : shift.workers.ring.poll stripe = .taken item ring)
    (took : shift.workers.take? (fun item => .handling (start item)) stripe = some w) :
    shift.MovesAt { shift with workers := w, taken := shift.taken ++ [(stripe, item)] }
      stripe := by
  have idle := Workers.idle_of_take? took
  obtain ⟨one, after, found, outcome, rfl⟩ := Workers.of_take?_taken took polled
  refine ⟨_, .taken (start item) found outcome, ?_⟩
  let rid : Shift α ω := { shift with
    workers := { shift.workers with ring := shift.workers.ring.setRing stripe after } }
  let busy : Shift α ω := { rid with
    workers := rid.workers.setWorker stripe (.busy (.handling (start item))) }
  have rid_eq : rid.outlook = _ := outlook_setRing shift (ring_lt found) after shift.waiting
  have busy_eq : busy.outlook = _ := outlook_setWorker rid (worker_lt idle) _ _
  rw [rid_eq, Function.update_self, Function.update_idem] at busy_eq
  refine (outlook_taken busy item).trans ?_
  rw [busy_eq, Function.update_self, Function.update_idem]

theorem movesAt_of_retire {stripes : Nat} (sized : shift.Sized stripes)
    (polled : shift.workers.ring.poll stripe = .closed)
    (took : shift.workers.take? (fun item => .handling (start item)) stripe = some w) :
    shift.MovesAt { shift with workers := w } stripe := by
  have idle := Workers.idle_of_take? took
  obtain ⟨ring, found⟩ := sized.ring_of_worker idle
  rw [Workers.of_take?_closed took polled]
  exact ⟨_, .retired found ((StripedRing.poll_of_some found).1 polled),
    outlook_setWorker shift (worker_lt idle) (.ended .closed) shift.failed⟩

/-- A worker that is not gone does something else now. -/
theorem movesAt_setWorker {duty : Duty ω} (busy : shift.workers.work? stripe = some duty)
    {worker : Worker (Duty ω)} (here : worker.isGone = false) (failed : Nat) :
    shift.MovesAt { shift with
      workers := shift.workers.setWorker stripe worker
      failed := failed } stripe :=
  ⟨_, .worked here, outlook_setWorker shift (worker_lt (Workers.of_work? busy)) worker failed⟩

theorem movesAt_of_shut {stripes : Nat} (sized : shift.Sized stripes) {why : Ending}
    (busy : shift.workers.work? stripe = some (.stopping why)) :
    shift.MovesAt { shift with
      workers := { shift.workers with
        ring := shift.workers.ring.closeStripe stripe }.setWorker stripe (.busy (.leaving why)) }
      stripe := by
  have here := Workers.of_work? busy
  obtain ⟨ring, found⟩ := sized.ring_of_worker here
  rw [StripedRing.closeStripe_of_some found]
  refine ⟨_, .shut why found, ?_⟩
  let closed : Shift α ω := { shift with
    workers := { shift.workers with ring := shift.workers.ring.setRing stripe ring.close } }
  have closed_eq : closed.outlook = _ :=
    outlook_setRing shift (ring_lt found) ring.close shift.waiting
  refine (outlook_setWorker closed (worker_lt here) _ _).trans ?_
  rw [closed_eq, Function.update_self, Function.update_idem]

theorem movesAt_of_leave {why : Ending}
    (busy : shift.workers.work? stripe = some (.leaving why)) :
    shift.MovesAt { shift with workers := shift.workers.setWorker stripe (.ended why) } stripe := by
  have leaving := Workers.of_work? busy
  exact ⟨_, .left leaving, outlook_setWorker shift (worker_lt leaving) (.ended why) shift.failed⟩

/-- A shutdown closes the ring of a stripe, if there is that stripe. -/
theorem movesAt_of_close (shift : Shift α ω) (stripe : Nat) :
    shift.MovesAt { shift with
      workers := { shift.workers with ring := shift.workers.ring.closeStripe stripe } } stripe := by
  cases found : shift.workers.ring.rings[stripe]? with
  | none =>
      have same : shift.workers.ring.closeStripe stripe = shift.workers.ring := by
        simp only [StripedRing.closeStripe, found]
      rw [same]
      exact movesAt_of_outlook rfl stripe
  | some ring =>
      rw [StripedRing.closeStripe_of_some found]
      exact ⟨_, .closed found, outlook_setRing shift (ring_lt found) ring.close shift.waiting⟩

end Moves

/-- A step makes a move at one stripe, that of the worker if a worker takes it, and nothing changes
at any other. -/
theorem Step.moves {stripes : Nat} (step : Step start actor shift next)
    (sized : shift.Sized stripes) :
    ∃ stripe, (∀ other, actor = .worker other → stripe = other) ∧ shift.MovesAt next stripe := by
  cases step with
  | call _ hash item => exact ⟨0, nofun, movesAt_of_outlook rfl 0⟩
  | refuse waiting_eq offered => exact ⟨0, nofun, movesAt_of_outlook rfl 0⟩
  | accept waiting_eq offered => exact ⟨_, nofun, movesAt_of_accept offered _⟩
  | take polled took => exact ⟨_, fun _ => Actor.worker.inj, movesAt_of_take polled took⟩
  | retire polled took => exact ⟨_, fun _ => Actor.worker.inj, movesAt_of_retire sized polled took⟩
  | handle busy later =>
      exact ⟨_, fun _ => Actor.worker.inj, movesAt_setWorker busy rfl shift.failed⟩
  | goOn busy => exact ⟨_, fun _ => Actor.worker.inj, movesAt_setWorker busy rfl shift.failed⟩
  | report busy ends => exact ⟨_, fun _ => Actor.worker.inj, movesAt_setWorker busy rfl _⟩
  | shut busy => exact ⟨_, fun _ => Actor.worker.inj, movesAt_of_shut sized busy⟩
  | leave busy => exact ⟨_, fun _ => Actor.worker.inj, movesAt_of_leave busy⟩
  | close _ stripe => exact ⟨stripe, nofun, movesAt_of_close shift stripe⟩

/-! ## What holds of every stripe -/

/-- The ring of a stripe is there and closed. -/
def Outlook.IsShut (view : Outlook α ω) : Prop :=
  ∃ ring, view.ring? = some ring ∧ ring.closed = true

/-- What holds of every outlook. -/
structure Outlook.Sound (view : Outlook α ω) : Prop where
  inOrder : view.taken <+: view.accepted.map Prod.snd
  complete : ∀ ring, view.ring? = some ring → ring.closed = false →
    ∃ queued, ring.Holds queued ∧ view.taken ++ queued = view.accepted.map Prod.snd
  gone : ∀ worker, view.worker? = some worker → worker.isGone = true → view.IsShut

namespace Outlook.Sound

variable {view : Outlook α ω} {ring after : Ring α} {item : α}

theorem accept (sound : view.Sound) (hash : UInt64) (found : view.ring? = some ring)
    (offered : ring.offer item = .accepted after) :
    Sound { view with ring? := some after, accepted := view.accepted ++ [(hash, item)] } := by
  have opened : ring.closed = false := Ring.opened_of_offer offered
  obtain ⟨queued, holds, shown⟩ := sound.complete ring found opened
  refine ⟨?_, ?_, ?_⟩
  · rw [List.map_append]
    exact sound.inOrder.trans (List.prefix_append _ _)
  · rintro _ ⟨⟩ _
    refine ⟨_, holds.of_offer offered, ?_⟩
    rw [List.map_append, ← shown, List.append_assoc]
    rfl
  · -- Where the worker has gone, the ring would have been closed.
    intro worker here isGone
    obtain ⟨one, here, closed⟩ := sound.gone worker here isGone
    rw [found] at here
    injection here with same
    rw [← same, opened] at closed
    cases closed

theorem take (sound : view.Sound) (work : ω) (found : view.ring? = some ring)
    (polled : ring.poll = .taken item after) :
    Sound { view with
      ring? := some after
      worker? := some (.busy (.handling work))
      taken := view.taken ++ [item] } := by
  obtain ⟨queued, holds, shown⟩ := sound.complete ring found (Ring.opened_of_poll polled)
  obtain ⟨behind, rfl, kept⟩ := holds.of_poll polled
  have shown : (view.taken ++ [item]) ++ behind = view.accepted.map Prod.snd := by
    rw [← shown, List.append_assoc]
    rfl
  refine ⟨⟨behind, shown⟩, ?_, ?_⟩
  · rintro _ ⟨⟩ _
    exact ⟨behind, kept, shown⟩
  · rintro _ ⟨⟩ isGone
    cases isGone

/-- Only a closed ring says so: the poll of an open one finds an item or waits. -/
theorem isShut_of_poll (sound : view.Sound) (found : view.ring? = some ring)
    (polled : ring.poll = .closed) : view.IsShut := by
  refine ⟨ring, found, ?_⟩
  by_contra opened
  obtain ⟨queued, holds, _⟩ := sound.complete ring found (Bool.eq_false_iff.2 opened)
  exact holds.poll_ne_closed polled

theorem close (sound : view.Sound) (ring : Ring α) (worker? : Option (Worker (Duty ω))) :
    Sound { view with ring? := some ring.close, worker? := worker? } := by
  refine ⟨sound.inOrder, ?_, fun _ _ _ => ⟨_, rfl, rfl⟩⟩
  rintro _ ⟨⟩ opened
  cases opened

end Outlook.Sound

namespace Move

variable {view later : Outlook α ω}

/-- A stripe that is shut stays so, and accepts nothing. -/
theorem isShut (move : Move view later) (shut : view.IsShut) :
    later.IsShut ∧ later.accepted = view.accepted := by
  obtain ⟨ring, here, closed⟩ := shut
  cases move with
  | rest => exact ⟨⟨ring, here, closed⟩, rfl⟩
  | accepted hash found offered =>
      rw [found] at here
      injection here with same
      rw [← same, Ring.opened_of_offer offered] at closed
      cases closed
  | taken work found polled =>
      rw [found] at here
      injection here with same
      rw [← same, Ring.opened_of_poll polled] at closed
      cases closed
  | retired found polled => exact ⟨⟨ring, here, closed⟩, rfl⟩
  | worked stays => exact ⟨⟨ring, here, closed⟩, rfl⟩
  | shut why found => exact ⟨⟨_, rfl, rfl⟩, rfl⟩
  | left leaving => exact ⟨⟨ring, here, closed⟩, rfl⟩
  | closed found => exact ⟨⟨_, rfl, rfl⟩, rfl⟩

theorem sound (move : Move view later) (sound : view.Sound) : later.Sound := by
  cases move with
  | rest => exact sound
  | accepted hash found offered => exact sound.accept hash found offered
  | taken work found polled => exact sound.take work found polled
  | retired found polled =>
      exact ⟨sound.inOrder, sound.complete, fun _ _ _ => sound.isShut_of_poll found polled⟩
  | worked stays =>
      refine ⟨sound.inOrder, sound.complete, ?_⟩
      rintro _ ⟨⟩ isGone
      rw [stays] at isGone
      cases isGone
  | shut why found => exact sound.close _ _
  | left leaving => exact ⟨sound.inOrder, sound.complete, fun _ _ _ => sound.gone _ leaving rfl⟩
  | closed found => exact sound.close _ _

end Move

/-! ## Crashes are counted -/

/-- The number of failed workers is that of the workers whose work a crash has ended. -/
def Counted (shift : Shift α ω) : Prop :=
  shift.failed = shift.workers.workers.countP Worker.isLost

theorem Step.counted (step : Step start actor shift next) (counted : shift.Counted) :
    next.Counted := by
  have swap {stripe : Nat} {old new : Worker (Duty ω)}
      (found : shift.workers.workers[stripe]? = some old) (alike : new.isLost = old.isLost) :
      shift.failed = (shift.workers.workers.set stripe new).countP Worker.isLost := by
    have changed := countP_set_add Worker.isLost found new
    rw [alike] at changed
    exact counted.trans (Nat.add_right_cancel changed).symm
  cases step with
  | call _ hash item => exact counted
  | refuse waiting_eq offered => exact counted
  | accept waiting_eq offered =>
      obtain ⟨one, after, _, _, rfl⟩ := Workers.of_offer offered
      exact counted
  | take polled took =>
      have idle := Workers.idle_of_take? took
      obtain ⟨one, after, _, _, rfl⟩ := Workers.of_take?_taken took polled
      exact swap idle rfl
  | retire polled took =>
      have idle := Workers.idle_of_take? took
      rw [Workers.of_take?_closed took polled]
      exact swap idle rfl
  | handle busy later => exact swap (Workers.of_work? busy) rfl
  | goOn busy => exact swap (Workers.of_work? busy) rfl
  | @report _ stripe work verdict why busy ends =>
      have worker := Workers.of_work? busy
      cases verdict with
      | goOn => cases ends
      | giveUp => cases ends; exact swap worker rfl
      | cancelled => cases ends; exact swap worker rfl
      | crashed =>
          cases ends
          have changed := countP_set_add Worker.isLost worker (.busy (.stopping .crashed))
          exact (congrArg (· + 1) counted).trans changed.symm
  | @shut _ stripe why busy => exact swap (Workers.of_work? busy) (by cases why <;> rfl)
  | @leave _ stripe why busy => exact swap (Workers.of_work? busy) (by cases why <;> rfl)
  | close _ stripe => exact counted

/-! ## Runs -/

/-- The invariant of a shift. -/
structure Regular (stripes : Nat) (shift : Shift α ω) : Prop where
  sized : shift.Sized stripes
  sound : ∀ stripe, stripe < stripes → (shift.outlook stripe).Sound
  counted : shift.Counted

theorem regular_of_make {side : Side} {stripes capacity : Nat} {w : Workers α (Duty ω)}
    (made : Workers.make side stripes capacity = .ok w) : (opening w).Regular stripes := by
  have shown := Workers.shows_of_make made
  refine ⟨⟨shown.rings_size, shown.workers_length⟩, ?_, ?_⟩
  · intro stripe inRange
    obtain ⟨ring, found, holds⟩ := shown.rings stripe inRange
    refine ⟨List.nil_prefix, ?_, ?_⟩
    · intro one here _
      have here : w.ring.rings[stripe]? = some one := here
      rw [found] at here
      injection here with same
      exact ⟨[], same ▸ holds, rfl⟩
    · intro worker here isGone
      have here : w.workers[stripe]? = some worker := here
      rw [shown.workers stripe inRange] at here
      injection here with same
      rw [← same] at isGone
      cases isGone
  · have idle : w.workers.countP Worker.isLost = 0 := by
      rw [List.countP_eq_zero]
      intro worker member
      obtain ⟨stripe, inRange, found⟩ := List.mem_iff_getElem.1 member
      have idle := shown.workers stripe (shown.workers_length ▸ inRange)
      rw [List.getElem?_eq_getElem inRange, found] at idle
      injection idle with idle
      rw [idle]
      exact Bool.false_ne_true
    exact idle.symm

theorem Step.regular {stripes : Nat} (step : Step start actor shift next)
    (regular : shift.Regular stripes) : next.Regular stripes := by
  obtain ⟨moved, _, view, move, next_eq⟩ := step.moves regular.sized
  refine ⟨step.sized regular.sized, ?_, step.counted regular.counted⟩
  intro stripe inRange
  rw [next_eq]
  by_cases here : stripe = moved
  · subst here
    rw [Function.update_self]
    exact move.sound (regular.sound stripe inRange)
  · rw [Function.update_of_ne here]
    exact regular.sound stripe inRange

theorem Run.regular {stripes : Nat} (run : Run start shift after)
    (regular : shift.Regular stripes) : after.Regular stripes := by
  induction run with
  | refl => exact regular
  | tail _ last inductionHypothesis =>
      obtain ⟨_, step⟩ := last
      exact step.regular inductionHypothesis

theorem Run.isShut {stripes : Nat} (run : Run start shift after)
    (regular : shift.Regular stripes) {stripe : Nat} (shut : (shift.outlook stripe).IsShut) :
    (after.outlook stripe).IsShut ∧ after.acceptedBy stripe = shift.acceptedBy stripe := by
  induction run with
  | refl => exact ⟨shut, rfl⟩
  | tail before last inductionHypothesis =>
      obtain ⟨_, step⟩ := last
      obtain ⟨moved, _, view, move, next_eq⟩ := step.moves (Run.regular before regular).sized
      have same := congrFun next_eq stripe
      by_cases here : stripe = moved
      · subst here
        rw [Function.update_self] at same
        obtain ⟨later, accepted⟩ := move.isShut inductionHypothesis.1
        refine ⟨same ▸ later, ?_⟩
        exact (congrArg Outlook.accepted same).trans (accepted.trans inductionHypothesis.2)
      · rw [Function.update_of_ne here] at same
        refine ⟨same ▸ inductionHypothesis.1, ?_⟩
        exact (congrArg Outlook.accepted same).trans inductionHypothesis.2

/-- Every offer to a stripe that is shut finds it closed. -/
theorem offer_of_isShut {hash : UInt64}
    (shut : (shift.outlook (shift.workers.ring.stripeFor hash)).IsShut) (item : α) :
    shift.workers.offer hash item = .closed := by
  obtain ⟨ring, found, closed⟩ := shut
  have found : shift.workers.ring.rings[shift.workers.ring.stripeFor hash]? = some ring := found
  simp only [Workers.offer, StripedRing.offer, found, Ring.offer, closed, ↓reduceIte]

/-- What those who offer items can rely on. -/
structure Orderly (start : α → ω) (stripes : Nat) (shift : Shift α ω) : Prop where
  sized : shift.Sized stripes
  /-- A worker takes the items its stripe has accepted, in their order and each once. -/
  inOrder : ∀ stripe, stripe < stripes →
    shift.takenFrom stripe <+: (shift.acceptedBy stripe).map Prod.snd
  routed : ∀ stripe, ∀ offer ∈ shift.acceptedBy stripe, offer.1.toNat % stripes = stripe
  /-- An open stripe holds what it has accepted and its worker has not taken. -/
  complete : ∀ (stripe : Nat) (ring : Ring α), shift.workers.ring.rings[stripe]? = some ring →
    ring.closed = false → ∃ queued, ring.Holds queued ∧
      shift.takenFrom stripe ++ queued = (shift.acceptedBy stripe).map Prod.snd
  /-- Where the worker has left, nothing is accepted any more: an offer that is made later or still
  waits finds the stripe closed and can return. -/
  abandoned : ∀ stripe why, shift.workers.workers[stripe]? = some (.ended why) →
    (∃ ring, shift.workers.ring.rings[stripe]? = some ring ∧ ring.closed = true) ∧
    ∀ after, Run start shift after → after.acceptedBy stripe = shift.acceptedBy stripe ∧
      ∀ (hash : UInt64) (item : α), hash.toNat % stripes = stripe →
        after.workers.offer hash item = .closed ∧
        ((hash, item) ∈ after.waiting →
          ∃ next, Step start .caller after next ∧ (hash, item) ∈ next.refused)
  /-- What the worker of a stripe does, its verdicts included, is nothing to the other stripes. -/
  apart : ∀ stripe next, Step start (.worker stripe) shift next →
    ∀ other, other ≠ stripe → next.outlook other = shift.outlook other
  counted : shift.failed = shift.workers.workers.countP Worker.isLost
  /-- A worker that is on its way out is within its handle step, of which to count a crash, to
  report, to close the stripe and to leave are the parts (`settle_eq_of_ending`).  Only states
  within such a step are left out: there the count may be ahead of the workers that have ended. -/
  crashes : (∀ worker ∈ shift.workers.workers, worker.isOnItsWayOut = false) →
    shift.failed = shift.workers.crashes

theorem Regular.orderly {stripes : Nat} (regular : shift.Regular stripes)
    (power : isPowerOfTwo stripes = true) (start : α → ω) : shift.Orderly start stripes := by
  have stripeFor_eq {shift : Shift α ω} (sized : shift.Sized stripes) (hash : UInt64) :
      shift.workers.ring.stripeFor hash = hash.toNat % stripes := by
    rw [StripedRing.stripeFor, StripedRing.stripeCount, sized.rings_size,
      StripedRing.stripeAmong_eq_mod power]
  refine ⟨regular.sized, fun stripe inRange => (regular.sound stripe inRange).inOrder, ?_, ?_, ?_,
    ?_, regular.counted, ?_⟩
  · intro stripe offer member
    have routed := (List.mem_filter.1 member).2
    rw [stripeFor_eq regular.sized, beq_iff_eq] at routed
    exact routed
  · intro stripe ring found opened
    have inRange : stripe < stripes := by
      rw [← regular.sized.rings_size]
      exact (Array.getElem?_eq_some_iff.1 found).1
    exact (regular.sound stripe inRange).complete ring found opened
  · intro stripe why ended
    have inRange : stripe < stripes := by
      rw [← regular.sized.workers_length]
      exact (List.getElem?_eq_some_iff.1 ended).1
    have shut : (shift.outlook stripe).IsShut :=
      (regular.sound stripe inRange).gone _ ended rfl
    refine ⟨shut, ?_⟩
    intro after run
    obtain ⟨stillShut, accepted⟩ := run.isShut regular shut
    refine ⟨accepted, ?_⟩
    intro hash item routed
    have refused : after.workers.offer hash item = .closed := by
      apply offer_of_isShut
      rw [stripeFor_eq (run.regular regular).sized, routed]
      exact stillShut
    refine ⟨refused, ?_⟩
    intro waiting
    obtain ⟨before, later, waiting_eq⟩ := List.append_of_mem waiting
    exact ⟨_, .refuse waiting_eq refused, List.mem_append_right _ (List.mem_singleton.2 rfl)⟩
  · intro stripe next step other apart
    obtain ⟨moved, own, view, _, next_eq⟩ := step.moves regular.sized
    have here : moved = stripe := own stripe rfl
    rw [next_eq, Function.update_of_ne (here ▸ apart)]
  · intro settled
    have counted : shift.failed = _ := regular.counted
    rw [counted]
    apply List.countP_congr
    intro worker member
    have settled := settled worker member
    cases worker with
    | idle => rfl
    | ended why => cases why <;> rfl
    | busy duty =>
        cases duty with
        | handling work => rfl
        | stopping why => cases settled
        | leaving why => cases settled

/-- Whatever callers, workers and shutdowns do, in any order, each worker takes the items of its
stripe in order and once, no open stripe is without a worker, and crashes are counted. -/
theorem orderly_of_run {side : Side} {stripes capacity : Nat} {w : Workers α (Duty ω)}
    (made : Workers.make side stripes capacity = .ok w) (run : Run start (opening w) shift) :
    shift.Orderly start stripes := by
  have power : isPowerOfTwo stripes = true := by
    by_contra odd
    rw [Bool.not_eq_true] at odd
    unfold Workers.make StripedRing.make Dispatch.checkShape at made
    simp [odd, bind, Except.bind, Except.map] at made
  exact (run.regular (regular_of_make made)).orderly power start

/-- The workers of two stripes that were just made. -/
def twoWorkers : Workers Nat (Duty Nat) :=
  .ofRing ⟨.producer, #[.ofCapacity 2, .ofCapacity 2]⟩

/-- The second of two workers crashes on the first item it takes while another one waits. -/
theorem orderly_of_run_crash : Workers.make .producer 2 2 = .ok twoWorkers ∧
    ∃ shift : Shift Nat Nat, Run id (opening twoWorkers) shift ∧
      shift.takenFrom 1 = [7] ∧ shift.acceptedBy 1 = [(1, 7), (3, 8)] ∧ shift.failed = 1 ∧
      shift.workers.workers[1]? = some (.ended .crashed) ∧ shift.Orderly id 2 := by
  have made : Workers.make .producer 2 2 = .ok twoWorkers := rfl
  have run : ∃ shift : Shift Nat Nat, Run id (opening twoWorkers) shift ∧
      shift.takenFrom 1 = [7] ∧ shift.acceptedBy 1 = [(1, 7), (3, 8)] ∧ shift.failed = 1 ∧
      shift.workers.workers[1]? = some (.ended .crashed) := by
    have run : Run id (opening twoWorkers) _ := .single ⟨_, .call _ 1 7⟩
    have run := run.tail ⟨_, .call _ 3 8⟩
    have run := run.tail ⟨_, @Step.accept _ _ _ _ 1 7 [] [(3, 8)] _ rfl rfl⟩
    have run := run.tail ⟨_, @Step.accept _ _ _ _ 3 8 [] [] _ rfl rfl⟩
    have run := run.tail ⟨_, @Step.take _ _ _ _ 1 _ _ _ rfl rfl⟩
    have run := run.tail ⟨_, @Step.report _ _ _ _ 1 _ .crashed _ rfl rfl⟩
    have run := run.tail ⟨_, @Step.shut _ _ _ _ 1 _ rfl⟩
    have run := run.tail ⟨_, @Step.leave _ _ _ _ 1 _ rfl⟩
    refine ⟨_, run, ?_⟩
    exact ⟨rfl, rfl, rfl, rfl⟩
  obtain ⟨shift, run, taken, accepted, failed, ended⟩ := run
  exact ⟨made, shift, run, taken, accepted, failed, ended, orderly_of_run made run⟩

/-! ## The steps of a verdict and of a shutdown -/

/-- To report, to close the stripe and to leave is what a worker does on a verdict to end. -/
theorem settle_eq_of_ending {w : Workers α (Duty ω)} {stripe : Nat} {verdict : Verdict}
    {why : Ending} (ends : verdict.ending? = some why) :
    (({ w.setWorker stripe (.busy (.stopping why)) with
        ring := w.ring.closeStripe stripe }.setWorker stripe (.busy (.leaving why))).setWorker
      stripe (.ended why)) = w.settle stripe verdict := by
  have ended : w.settle stripe verdict = w.endWorker stripe why := by
    cases verdict with
    | goOn => cases ends
    | giveUp => cases ends; rfl
    | cancelled => cases ends; rfl
    | crashed => cases ends; rfl
  rw [ended]
  simp only [Workers.endWorker, Workers.setWorker, List.set_set]

/-- A shutdown closes the stripes one after the other. -/
theorem run_close (shift : Shift α ω) :
    Run start shift { shift with workers := shift.workers.close } := by
  have run (count : Nat) : Run start shift { shift with
      workers := { shift.workers with
        ring := (List.range count).foldl StripedRing.closeStripe shift.workers.ring } } := by
    induction count with
    | zero => exact .refl
    | succ count inductionHypothesis =>
        rw [List.range_succ, List.foldl_append]
        exact inductionHypothesis.tail ⟨_, .close _ count⟩
  have all := run shift.workers.ring.stripeCount
  rw [StripedRing.foldl_closeStripe] at all
  exact all

end Shift
end CacheSync
