import Mathlib.Data.Int.Log
import Mathlib.Data.Rat.Floor
import SentinelAI.Models.Rounding

/-
  `timedelta(seconds=…)`. Whole seconds are kept exactly; a fraction is multiplied by a million
  as a float, and the product rounded half to even to a microsecond. A timedelta spans less
  than a billion days, and more seconds are an `OverflowError`: `ResetTime` carries the proof
  that its seconds are not too many.
-/

namespace SentinelAI

/-- The float nearest to a number that is not beyond the floats, ties to even: 53 bits from the
    first one on, and none below `2⁻¹⁰⁷⁴`. -/
def nearestFloat (q : ℚ) : ℚ :=
  let ulp : ℚ := 2 ^ max (Int.log 2 |q| - 52) (-1074)
  roundHalfEven (q / ulp) * ulp

/-- `timedelta(seconds=seconds)`, in microseconds. -/
def timedeltaOfSeconds (seconds : ℚ) : Int :=
  let whole := truncToInt seconds
  whole * 1000000 + roundHalfEven (nearestFloat ((seconds - whole) * 1000000))

/-- The days of a timedelta have at most nine digits. -/
def TimedeltaHolds (seconds : ℚ) : Prop :=
  (timedeltaOfSeconds seconds / 86400000000).natAbs ≤ 999999999

instance (seconds : ℚ) : Decidable (TimedeltaHolds seconds) :=
  inferInstanceAs (Decidable (_ ≤ _))

-- 6.549999999999999e-05 s: the float product is 65.5 and the exact one is below
example : timedeltaOfSeconds (2416523473655951 / 36893488147419103232) = 66 := by decide +kernel

/-! ## Exact cases -/

theorem nearestFloat_zero : nearestFloat 0 = 0 := by
  unfold nearestFloat
  have hzero : roundHalfEven 0 = 0 := roundHalfEven_intCast 0
  simp only [zero_div, hzero, Int.cast_zero, zero_mul]

theorem truncToInt_intCast (n : Int) : truncToInt n = n := by
  unfold truncToInt
  split
  · exact Rat.floor_intCast n
  · rw [← Int.cast_neg, Rat.floor_intCast, neg_neg]

/-- Whole seconds are exact. -/
theorem timedeltaOfSeconds_intCast (n : Int) : timedeltaOfSeconds n = n * 1000000 := by
  have hround : roundHalfEven 0 = 0 := roundHalfEven_intCast 0
  unfold timedeltaOfSeconds
  rw [truncToInt_intCast]
  simp only [sub_self, zero_mul, nearestFloat_zero, hround, add_zero]

/-! ## Reset times -/

/-- Seconds a timedelta holds. -/
structure ResetTime where
  seconds : ℚ
  held : TimedeltaHolds seconds
  deriving DecidableEq

namespace ResetTime

/-- The microseconds of its timedelta. -/
def delta (r : ResetTime) : Int := timedeltaOfSeconds r.seconds

/-- A number of whole seconds. -/
def ofWhole (n : Nat) (h : n < 86400000000000 := by decide) : ResetTime where
  seconds := n
  held := by
    have hexact : timedeltaOfSeconds (n : ℚ) = n * 1000000 := timedeltaOfSeconds_intCast n
    unfold TimedeltaHolds
    rw [hexact]
    omega

/-- Thirty seconds, the default of `reset_after_seconds`. -/
def thirtySeconds : ResetTime := .ofWhole 30

end ResetTime

end SentinelAI
