/-!
# Words

The limits of the integers that a word of 64 bits holds, with and without a sign.  A count that is
kept in a word of 32 bits starts again at zero when the word is full.
-/

namespace CacheSync

/-- A word is read as the number it holds. -/
instance coeToNat : Coe UInt32 Nat :=
  ⟨UInt32.toNat⟩

namespace Word

/-- Words without a sign are below this bound. -/
def bound : Nat := 18446744073709551616

/-- The least integer of a word with a sign. -/
def least : Int := -9223372036854775808

/-- The greatest integer of a word with a sign. -/
def greatest : Int := 9223372036854775807

def fits (n : Int) : Bool :=
  decide (least ≤ n) && decide (n ≤ greatest)

example : bound = Nat.pow 2 64 := rfl
example : greatest - least + 1 = bound := rfl

end Word
end CacheSync
