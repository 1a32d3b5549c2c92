import CacheSync.Side
import CacheSync.Time.Moment

/-!
# The recovery ledger

A node counts, for each of its sides, how many threads are recovering the channel and how many
recoveries have failed for good.  It also counts the recoveries that a shutdown cut short, and
remembers whether the latest recovery followed too closely on the one before.
-/

namespace CacheSync

/-- One number for each side. -/
structure PerSide where
  producer : Nat
  consumer : Nat
  deriving DecidableEq

namespace PerSide

def zero : PerSide :=
  ⟨0, 0⟩

def get (counts : PerSide) : Side → Nat
  | .producer => counts.producer
  | .consumer => counts.consumer

def modify (counts : PerSide) (change : Nat → Nat) : Side → PerSide
  | .producer => { counts with producer := change counts.producer }
  | .consumer => { counts with consumer := change counts.consumer }

@[simp]
theorem get_modify (counts : PerSide) (change : Nat → Nat) (changed side : Side) :
    (counts.modify change changed).get side =
      if side = changed then change (counts.get side) else counts.get side := by
  cases changed <;> cases side <;> rfl

end PerSide

structure Ledger where
  recovering : PerSide
  unrecoverable : PerSide
  /-- Recoveries that a shutdown cut short. -/
  interrupted : Nat
  /-- Whether the latest recovery began within its window after the end of the one before. -/
  starved : Bool
  lastEnd : Option Moment
  deriving DecidableEq

namespace Ledger

def empty : Ledger :=
  ⟨.zero, .zero, 0, false, none⟩

/-- A recovery begins. -/
def enter (ledger : Ledger) (side : Side) (window : Duration) (now : Moment) : Ledger :=
  { ledger with
    recovering := ledger.recovering.modify (· + 1) side
    starved :=
      match ledger.lastEnd with
      | none => false
      | some ended => (now.since ended).nanos < window.nanos }

def leave (ledger : Ledger) (side : Side) (now : Moment) : Ledger :=
  { ledger with
    recovering := ledger.recovering.modify (· - 1) side
    lastEnd := some now }

def countUnrecoverable (ledger : Ledger) (side : Side) : Ledger :=
  { ledger with unrecoverable := ledger.unrecoverable.modify (· + 1) side }

def countInterrupted (ledger : Ledger) : Ledger :=
  { ledger with interrupted := ledger.interrupted + 1 }

end Ledger
end CacheSync
