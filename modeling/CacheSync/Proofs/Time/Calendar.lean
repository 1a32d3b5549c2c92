import CacheSync.Time.Clock

/-!
# Moments of the calendar

A wall clock shows dates of the years -9999 to 9999 and no others, and a message carries the time of
its event as such a date.  The moments of these years are those that reach another node.
-/

namespace CacheSync

namespace Moment

/-- The moments of the years -9999 to 9999. -/
def InCalendar (moment : Moment) : Prop :=
  earliestMicros * 1000 ≤ moment ∧ moment < (latestMicros + 1) * 1000

instance (moment : Moment) : Decidable moment.InCalendar :=
  inferInstanceAs (Decidable (_ ∧ _))

theorem tdiv_mem {moment : Moment} (dated : moment.InCalendar) :
    earliestMicros ≤ Int.tdiv moment 1000 ∧ Int.tdiv moment 1000 ≤ latestMicros := by
  have low : earliestMicros ≤ Int.tdiv moment 1000 := Int.le_tdiv_of_mul_le (by decide) dated.1
  have high : Int.tdiv moment 1000 ≤ Int.tdiv ((latestMicros + 1) * 1000 - 1) 1000 :=
    Int.tdiv_le_tdiv (by decide) (Int.le_sub_one_of_lt dated.2)
  have last : Int.tdiv ((latestMicros + 1) * 1000 - 1) 1000 = latestMicros := by decide
  rw [last] at high
  exact ⟨low, high⟩

/-- The microseconds of a moment of the calendar fit a word. -/
theorem toMicros_eq_tdiv {moment : Moment} (dated : moment.InCalendar) :
    moment.toMicros = Int.tdiv moment 1000 := by
  have range := tdiv_mem dated
  simp only [toMicros, clamp, earliestMicros, latestMicros, Word.least, Word.greatest] at *
  omega

theorem toMicros_mem {moment : Moment} (dated : moment.InCalendar) :
    earliestMicros ≤ moment.toMicros ∧ moment.toMicros ≤ latestMicros := by
  rw [toMicros_eq_tdiv dated]
  exact tdiv_mem dated

/-- A moment of the calendar is read back from its microseconds, cut to a whole one. -/
theorem ofMicros?_toMicros {moment : Moment} (dated : moment.InCalendar) :
    ofMicros? moment.toMicros = some (moment.toMicros * 1000) := by
  simp [ofMicros?, toMicros_mem dated]

/-- A moment that is read from microseconds is a whole microsecond of the calendar. -/
theorem whole_of_ofMicros? {micros : Int} {moment : Moment}
    (timed : ofMicros? micros = some moment) :
    ∃ whole, earliestMicros ≤ whole ∧ whole ≤ latestMicros ∧ moment = whole * 1000 := by
  unfold ofMicros? at timed
  split at timed
  next inRange =>
    cases timed
    exact ⟨micros, inRange.1, inRange.2, rfl⟩
  next => cases timed

theorem inCalendar_of_whole {micros : Int} (low : earliestMicros ≤ micros)
    (high : micros ≤ latestMicros) : InCalendar (micros * 1000) := by
  have notBefore : earliestMicros * 1000 ≤ micros * 1000 :=
    Int.mul_le_mul_of_nonneg_right low (by decide)
  have notAfter : micros * 1000 < (latestMicros + 1) * 1000 :=
    Int.mul_lt_mul_of_pos_right (Int.lt_add_one_of_le high) (by decide)
  exact ⟨notBefore, notAfter⟩

/-- A whole microsecond of the calendar is not cut any further. -/
theorem toMicros_of_whole {micros : Int} (low : earliestMicros ≤ micros)
    (high : micros ≤ latestMicros) : toMicros (micros * 1000) = micros := by
  have whole : Int.tdiv (micros * 1000) 1000 = micros := Int.mul_tdiv_cancel micros (by decide)
  simp only [toMicros, whole, clamp, earliestMicros, latestMicros, Word.least, Word.greatest] at *
  omega

end Moment

end CacheSync
