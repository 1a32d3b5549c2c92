import CacheSync.Node.Core

/-!
# Nodes that exchange messages

Nodes exchange messages through a medium that keeps every copy until it is delivered and delivers
the copies in any order.
-/

namespace CacheSync

/-- A copy of a message on its way to a node. -/
structure Flight where
  target : Nat
  body : List UInt8

/-- Nodes, the copies on their way between them, and the events sent so far, the earliest first. -/
structure Exchange where
  cores : List Core
  flights : List Flight
  log : List Event

namespace Exchange

/-- One copy of a message for every node but its sender. -/
def copies (exchange : Exchange) (sender : Nat) (body : List UInt8) : List Flight :=
  ((List.range exchange.cores.length).filter (· ≠ sender)).map fun target => ⟨target, body⟩

/-- A node sends an event that its bus hears. -/
def send (exchange : Exchange) (index : Nat) (event : Event) (clock : Clock) : Exchange :=
  match exchange.cores[index]? with
  | none => exchange
  | some core =>
      let (posted, body?) := core.post event clock
      { cores := exchange.cores.set index posted
        flights := exchange.flights ++ body?.toList.flatMap (exchange.copies index)
        log := exchange.log ++ [event] }

/-- A node after some work. -/
def setCore (exchange : Exchange) (index : Nat) (core : Core) : Exchange :=
  { exchange with cores := exchange.cores.set index core }

/-- One step: an operation of the application of a node on a cache, whose event is sent, or the
delivery of one copy.  No step removes records of times. -/
inductive Step (cache : String) : Exchange → Exchange → Prop where
  | operate {exchange : Exchange} {index : Nat} {core : Core} {guarded : Bool} {call : StoreCall}
      {clock : Clock} {operated : Core.Operated} :
      exchange.cores[index]? = some core →
      call.origin = .localNode →
      call.key ≠ .all →
      core.operate cache guarded call clock = some operated →
      (∀ event ∈ operated.heard, operated.core.purges event clock = false) →
      Step cache exchange
        (operated.heard.foldl (fun exchange event => exchange.send index event clock)
          (exchange.setCore index operated.core))
  | deliver {exchange : Exchange} {before behind : List Flight} {flight : Flight} {core : Core}
      {clock : Clock} :
      exchange.flights = before ++ flight :: behind →
      exchange.cores[flight.target]? = some core →
      core.purgesOn flight.body clock = false →
      Step cache exchange
        { exchange.setCore flight.target (core.receive flight.body clock).core with
          flights := before ++ behind }

/-- Any number of steps. -/
inductive Run (cache : String) (start : Exchange) : Exchange → Prop where
  | refl : Run cache start start
  | step {middle after : Exchange} :
      Run cache start middle → Step cache middle after → Run cache start after

end Exchange
end CacheSync
