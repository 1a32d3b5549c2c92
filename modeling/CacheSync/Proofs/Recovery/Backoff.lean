import CacheSync.Recovery.Call
import Mathlib.Algebra.Group.Nat.Defs

/-!
# Backoffs

The waits between the attempts of a recovery grow from the initial one to the longest one.  A wait
is multiplied exactly and rounded to the nearest nanosecond; rounding keeps the order of ratios and
leaves integers, so no wait is shorter than the one before, and none is shortened by its random
part.  Where the multiplier is an integer nothing is rounded, and to cap every product is to cap
the last one.
-/

namespace CacheSync

/-! ## Rounding -/

namespace Binary64.Ratio

/-- One ratio is no greater than another. -/
def AtMost (a b : Ratio) : Prop :=
  a.num * b.den ≤ b.num * a.den

instance (a b : Ratio) : Decidable (a.AtMost b) :=
  inferInstanceAs (Decidable (_ ≤ _))

/-- A ratio is rounded to an integer that is no farther than a half. -/
theorem round_near (a : Ratio) (positive : 0 < a.den) :
    2 * (a.round * a.den) ≤ 2 * a.num + a.den ∧ 2 * a.num ≤ 2 * (a.round * a.den) + a.den := by
  have division := Nat.div_add_mod' a.num a.den
  have rest := Nat.mod_lt a.num positive
  unfold round
  dsimp only
  generalize a.num / a.den = quotient at *
  generalize a.num % a.den = remainder at *
  have next : (quotient + 1) * a.den = quotient * a.den + a.den := Nat.succ_mul quotient a.den
  split
  · omega
  · split
    · omega
    · rcases Nat.mod_two_eq_zero_or_one quotient with even | odd
      · rw [even, Nat.add_zero]
        omega
      · rw [odd]
        omega

/-- Halfway between two integers a ratio is rounded to the even one. -/
theorem round_half {a : Ratio} (positive : 0 < a.den) {n : Nat}
    (half : 2 * a.num = 2 * (n * a.den) + a.den) : a.round = n + n % 2 := by
  have division := Nat.div_add_mod' a.num a.den
  have rest := Nat.mod_lt a.num positive
  have quotient : a.num / a.den = n := by
    apply Nat.div_eq_of_lt_le
    · omega
    · rw [Nat.succ_mul]
      omega
  unfold round
  dsimp only
  rw [quotient] at division ⊢
  rw [if_neg (by omega), if_neg (by omega)]

theorem round_le_round {a b : Ratio} (positive : 0 < a.den) (positive' : 0 < b.den)
    (atMost : a.AtMost b) : a.round ≤ b.round := by
  obtain ⟨above, _⟩ := a.round_near positive
  obtain ⟨_, below⟩ := b.round_near positive'
  apply Nat.le_of_not_lt
  intro less
  -- Only a ratio halfway between two integers could be rounded past a greater one.
  have step : (b.round + 1) * a.den ≤ a.round * a.den := Nat.mul_le_mul_right a.den less
  rw [Nat.succ_mul] at step
  have crossed : 2 * a.num * b.den ≤ (2 * (b.round * a.den) + a.den) * b.den := calc
    2 * a.num * b.den = 2 * (a.num * b.den) := Nat.mul_assoc 2 a.num b.den
    _ ≤ 2 * (b.num * a.den) := Nat.mul_le_mul_left 2 atMost
    _ = 2 * b.num * a.den := (Nat.mul_assoc 2 b.num a.den).symm
    _ ≤ (2 * (b.round * b.den) + b.den) * a.den := Nat.mul_le_mul_right a.den below
    _ = (2 * (b.round * a.den) + a.den) * b.den := by grind
  have halfway : 2 * a.num = 2 * (b.round * a.den) + a.den := by
    have atMostHalf := Nat.le_of_mul_le_mul_right crossed positive'
    omega
  have crossed' : (2 * (b.round * b.den) + b.den) * a.den ≤ 2 * b.num * a.den := calc
    (2 * (b.round * b.den) + b.den) * a.den = 2 * a.num * b.den := by grind
    _ = 2 * (a.num * b.den) := Nat.mul_assoc 2 a.num b.den
    _ ≤ 2 * (b.num * a.den) := Nat.mul_le_mul_left 2 atMost
    _ = 2 * b.num * a.den := (Nat.mul_assoc 2 b.num a.den).symm
  have halfway' : 2 * b.num = 2 * (b.round * b.den) + b.den := by
    have atLeastHalf := Nat.le_of_mul_le_mul_right crossed' positive
    omega
  have even := round_half positive halfway
  have even' := round_half positive' halfway'
  omega

/-- An integer is left as it is. -/
theorem round_of_multiple {a : Ratio} (positive : 0 < a.den) {n : Nat}
    (multiple : a.num = n * a.den) : a.round = n := by
  unfold round
  dsimp only
  rw [multiple, Nat.mul_mod_left, Nat.mul_div_cancel n positive, if_pos (by omega)]

/-- One more than a ratio. -/
def onePlus (a : Ratio) : Ratio :=
  ⟨a.den + a.num, a.den⟩

theorem onePlus_atMost {a b : Ratio} (atMost : a.AtMost b) : a.onePlus.AtMost b.onePlus := by
  unfold AtMost onePlus at *
  dsimp only
  rw [Nat.add_mul, Nat.add_mul, Nat.mul_comm b.den a.den]
  omega

theorem den_scale_pos {a : Ratio} {base : Nat} (positive : 0 < a.den) (basePositive : 0 < base)
    (exponent : Int) : 0 < (a.scale base exponent).den := by
  cases exponent with
  | ofNat n => exact positive
  | negSucc n => exact Nat.mul_pos positive (Nat.pow_pos basePositive)

end Binary64.Ratio

namespace Binary64

/-- A number that is an integer. -/
def IsInteger (x : Binary64) (m : Nat) : Prop :=
  x.toRatio.num = m * x.toRatio.den

instance (x : Binary64) (m : Nat) : Decidable (x.IsInteger m) :=
  inferInstanceAs (Decidable (_ = _))

theorem toRatio_den_pos (x : Binary64) : 0 < x.toRatio.den :=
  Ratio.den_scale_pos Nat.one_pos Nat.two_pos x.exponent

/-- The bits of a number that is at least one. -/
theorem exponentField_of_one_le {x : Binary64} (least : (ofNat 1).le x = true) :
    x.negative = false ∧ 1023 ≤ x.exponentField := by
  have one : (ofNat 1).rank = 1023 * 4503599627370496 := by decide +kernel
  simp only [le, one, Bool.and_eq_true, decide_eq_true_eq] at least
  have rank := least.2
  unfold Binary64.rank at rank
  split at rank
  · omega
  next positive =>
    refine ⟨Bool.not_eq_true _ ▸ positive, ?_⟩
    unfold exponentField hiddenBit
    omega

/-- What is at least one as a number is so as a ratio. -/
theorem den_le_num_of_one_le {x : Binary64} (least : (ofNat 1).le x = true) :
    x.toRatio.den ≤ x.toRatio.num := by
  obtain ⟨_, field⟩ := exponentField_of_one_le least
  have significand : 2 ^ 52 ≤ x.significand := by
    unfold significand hiddenBit
    rw [if_neg (by omega)]
    omega
  have exponent : -52 ≤ x.exponent := by
    unfold exponent
    rw [if_neg (by omega)]
    omega
  unfold toRatio
  cases shape : x.exponent with
  | ofNat n =>
      have positive : 0 < x.significand := by omega
      exact Nat.mul_pos positive (Nat.pow_pos Nat.two_pos)
  | negSucc n =>
      have short : n + 1 ≤ 52 := by omega
      calc
        1 * 2 ^ (n + 1) = 2 ^ (n + 1) := Nat.one_mul _
        _ ≤ 2 ^ 52 := Nat.pow_le_pow_right Nat.two_pos short
        _ ≤ x.significand := significand

end Binary64

/-! ## Scaled durations -/

namespace Duration

variable {d : Duration} {ratio other : Binary64.Ratio}

theorem scaleBy_le_scaleBy (positive : 0 < ratio.den) (positive' : 0 < other.den)
    (atMost : ratio.AtMost other) : (d.scaleBy ratio).nanos ≤ (d.scaleBy other).nanos := by
  have rounded : ((Binary64.Ratio.ofNat d.nanos).mul ratio).round ≤
      ((Binary64.Ratio.ofNat d.nanos).mul other).round := by
    apply Binary64.Ratio.round_le_round
    · exact Nat.mul_pos Nat.one_pos positive
    · exact Nat.mul_pos Nat.one_pos positive'
    · have scaled := Nat.mul_le_mul_left d.nanos atMost
      unfold Binary64.Ratio.AtMost Binary64.Ratio.mul Binary64.Ratio.ofNat
      simp only [Nat.one_mul, Nat.mul_assoc]
      exact scaled
  unfold scaleBy
  dsimp only
  omega

/-- An integer multiple is exact, up to the longest duration. -/
theorem scaleBy_of_multiple (positive : 0 < ratio.den) {m : Nat}
    (multiple : ratio.num = m * ratio.den) :
    (d.scaleBy ratio).nanos = min longest.nanos (d.nanos * m) := by
  have exact : ((Binary64.Ratio.ofNat d.nanos).mul ratio).round = d.nanos * m := by
    apply Binary64.Ratio.round_of_multiple
    · exact Nat.mul_pos Nat.one_pos positive
    · unfold Binary64.Ratio.mul Binary64.Ratio.ofNat
      simp only [Nat.one_mul, multiple, Nat.mul_assoc]
  unfold scaleBy
  rw [exact]

/-- What is scaled by at least one does not become shorter. -/
theorem le_scaleBy (positive : 0 < ratio.den) (grows : ratio.den ≤ ratio.num)
    (fits : d.nanos ≤ longest.nanos) : d.nanos ≤ (d.scaleBy ratio).nanos := by
  have unscaled : (d.scaleBy (.ofNat 1)).nanos = min longest.nanos (d.nanos * 1) :=
    scaleBy_of_multiple Nat.one_pos (Nat.mul_one 1).symm
  have atMost : (Binary64.Ratio.ofNat 1).AtMost ratio := by
    unfold Binary64.Ratio.AtMost Binary64.Ratio.ofNat
    dsimp only
    omega
  have longer := scaleBy_le_scaleBy (d := d) Nat.one_pos positive atMost
  omega

theorem scale_eq_scaleBy {factor : Binary64} (finite : factor.isFinite = true)
    (positive : factor.negative = false) : d.scale factor = d.scaleBy factor.toRatio := by
  unfold scale
  rw [finite, positive]
  rfl

end Duration

/-! ## Checked settings -/

namespace RecoverySettings

variable {settings : RecoverySettings}

/-- What the check of the settings has found. -/
structure Checked (settings : RecoverySettings) : Prop where
  initial_pos : 0 < settings.initialBackoff.nanos
  initial_le_max : settings.initialBackoff.nanos ≤ settings.maxBackoff.nanos
  finite : settings.multiplier.isFinite = true
  one_le : (Binary64.ofNat 1).le settings.multiplier = true
  window_pos : 0 < settings.window.nanos

theorem checked_of_check (passed : settings.check = .ok ()) : settings.Checked := by
  unfold check flaw? Duration.isZero at passed
  split at passed
  · cases passed
  next none =>
    split at none
    · cases none
    next initial =>
      split at none
      · cases none
      next longest =>
        split at none
        · cases none
        next multiplier =>
          split at none
          · cases none
          · split at none
            · cases none
            next window =>
              simp only [beq_iff_eq] at initial window
              simp only [Bool.or_eq_true, Bool.not_eq_eq_eq_not, Bool.not_true, not_or,
                Bool.not_eq_false] at multiplier
              exact ⟨by omega, by omega, multiplier.1, multiplier.2, by omega⟩

/-! ## The schedule -/

/-- The waits of a recovery without their random parts. -/
def backoff (settings : RecoverySettings) : Nat → Duration
  | 0 => settings.initialBackoff
  | n + 1 => settings.nextBackoff (settings.backoff n)

/-- The longest that a wait may become by its random part. -/
def longestWait (settings : RecoverySettings) (wait : Duration) : Duration :=
  wait.scaleBy settings.jitter.toRatio.onePlus

/-- Whether a random part may be drawn. -/
def InRange (settings : RecoverySettings) (draw : Binary64.Ratio) : Prop :=
  0 < draw.den ∧ draw.AtMost settings.jitter.toRatio

instance (settings : RecoverySettings) (draw : Binary64.Ratio) :
    Decidable (settings.InRange draw) :=
  inferInstanceAs (Decidable (_ ∧ _))

namespace Checked

variable (checked : settings.Checked) (fits : settings.maxBackoff.nanos ≤ Duration.longest.nanos)
include checked

theorem nextBackoff_eq (wait : Duration) : settings.nextBackoff wait =
    (wait.scaleBy settings.multiplier.toRatio).shorter settings.maxBackoff := by
  obtain ⟨positive, _⟩ := Binary64.exponentField_of_one_le checked.one_le
  rw [nextBackoff, Duration.scale_eq_scaleBy checked.finite positive]

theorem backoff_le_max (n : Nat) : (settings.backoff n).nanos ≤ settings.maxBackoff.nanos := by
  cases n with
  | zero => exact checked.initial_le_max
  | succ n => exact Nat.min_le_right _ _

include fits

theorem backoff_le_succ (n : Nat) :
    (settings.backoff n).nanos ≤ (settings.backoff (n + 1)).nanos := by
  have capped := checked.backoff_le_max n
  have grows := Binary64.den_le_num_of_one_le checked.one_le
  have longer := Duration.le_scaleBy (d := settings.backoff n)
    settings.multiplier.toRatio_den_pos grows (by omega)
  rw [backoff, checked.nextBackoff_eq, Duration.shorter]
  dsimp only
  omega

theorem initial_le_backoff (n : Nat) :
    settings.initialBackoff.nanos ≤ (settings.backoff n).nanos := by
  induction n with
  | zero => exact Nat.le_refl _
  | succ n inductionHypothesis =>
      exact Nat.le_trans inductionHypothesis (checked.backoff_le_succ fits n)

/-- By an integer the waits grow geometrically up to the longest one. -/
theorem backoff_of_integer {m : Nat} (integer : settings.multiplier.IsInteger m) (n : Nat) :
    (settings.backoff n).nanos =
      min (settings.initialBackoff.nanos * m ^ n) settings.maxBackoff.nanos := by
  have capped := checked.initial_le_max
  have positive : 0 < m := by
    have grows := Binary64.den_le_num_of_one_le checked.one_le
    have den := settings.multiplier.toRatio_den_pos
    apply Nat.pos_of_ne_zero
    rintro rfl
    rw [integer, Nat.zero_mul] at grows
    omega
  induction n with
  | zero =>
      rw [backoff, Nat.pow_zero]
      omega
  | succ n inductionHypothesis =>
      have product := Duration.scaleBy_of_multiple (d := settings.backoff n)
        settings.multiplier.toRatio_den_pos integer
      rw [backoff, checked.nextBackoff_eq, Duration.shorter, product, inductionHypothesis,
        Nat.pow_succ, ← Nat.mul_assoc]
      dsimp only
      rw [← Nat.mul_min_mul_right]
      have capAgain : settings.maxBackoff.nanos ≤ settings.maxBackoff.nanos * m :=
        Nat.le_mul_of_pos_right _ positive
      omega

end Checked

/-- The random part makes a wait longer, within its range. -/
theorem jittered_between (fits : settings.maxBackoff.nanos ≤ Duration.longest.nanos)
    {draw : Binary64.Ratio} (inRange : settings.InRange draw)
    {wait : Duration} (short : wait.nanos ≤ settings.maxBackoff.nanos) :
    wait.nanos ≤ (settings.jittered draw wait).nanos ∧
      (settings.jittered draw wait).nanos ≤ (settings.longestWait wait).nanos := by
  have den := settings.jitter.toRatio_den_pos
  obtain ⟨drawDen, atMost⟩ := inRange
  unfold jittered longestWait
  split
  · exact ⟨Nat.le_refl _, Duration.le_scaleBy den (Nat.le_add_right _ _) (by omega)⟩
  · have lengthened : 0 < draw.onePlus.den := drawDen
    exact ⟨Duration.le_scaleBy lengthened (Nat.le_add_right _ _) (by omega),
      Duration.scaleBy_le_scaleBy lengthened den (Binary64.Ratio.onePlus_atMost atMost)⟩

end RecoverySettings
end CacheSync
