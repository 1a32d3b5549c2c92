import CacheSync.Config.Error

/-!
# Dispatch

A side of a node does its work on the calling thread, or hands it to one worker for each of a
number of stripes, through a ring of bounded capacity.  Both numbers are powers of two.
-/

namespace CacheSync

def isPowerOfTwo (n : Nat) : Bool :=
  n != 0 && Nat.pow 2 (Nat.log2 n) == n

theorem isPowerOfTwo_iff (n : Nat) : isPowerOfTwo n = true ↔ ∃ k, n = Nat.pow 2 k := by
  constructor
  · intro h
    simp only [isPowerOfTwo, Bool.and_eq_true, beq_iff_eq] at h
    exact ⟨n.log2, h.2.symm⟩
  · rintro ⟨k, rfl⟩
    simp [isPowerOfTwo, Nat.log2_two_pow]

/-- How a side of a node is run. -/
inductive Dispatch where
  /-- On the calling thread. -/
  | direct
  /-- By a worker for each stripe. -/
  | striped (stripes capacity : Nat)
  deriving DecidableEq

namespace Dispatch

/-- The capacity of a ring when none is given. -/
def defaultCapacity : Nat := 1024

/-- The number of stripes when none is given. -/
def defaultStripes : Nat := 4

def checkShape (side : Side) (stripes capacity : Nat) : Except ConfigError Unit :=
  if !isPowerOfTwo stripes then .error (.invalidStripes side stripes)
  else if !isPowerOfTwo capacity then .error (.invalidCapacity side capacity)
  else .ok ()

def check (side : Side) : Dispatch → Except ConfigError Unit
  | .direct => .ok ()
  | .striped stripes capacity => checkShape side stripes capacity

end Dispatch
end CacheSync
