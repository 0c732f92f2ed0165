import Mathlib.Tactic.Linarith
import SentinelAI.Models.Domain

/-
  The order facts about `round` and `int` that the scores and the clocks rest on: both are
  monotone, and an integer bound on the number is one on the result.
-/

namespace SentinelAI

/-! ## `round` -/

theorem floor_le_roundHalfEven (q : ℚ) : q.floor ≤ roundHalfEven q := by
  unfold roundHalfEven
  dsimp only
  split
  · exact le_refl _
  · split
    · omega
    · split <;> omega

theorem roundHalfEven_le_floor_succ (q : ℚ) : roundHalfEven q ≤ q.floor + 1 := by
  unfold roundHalfEven
  dsimp only
  split
  · omega
  · split
    · exact le_refl _
    · split <;> omega

/-- Past the middle, up. -/
theorem roundHalfEven_of_half_lt {q : ℚ} (h : 1 / 2 < q - q.floor) :
    roundHalfEven q = q.floor + 1 := by
  unfold roundHalfEven
  dsimp only
  rw [if_neg (not_lt.mpr (le_of_lt h)), if_pos h]

/-- Before the middle, down. -/
theorem roundHalfEven_of_lt_half {q : ℚ} (h : q - q.floor < 1 / 2) : roundHalfEven q = q.floor := by
  unfold roundHalfEven
  dsimp only
  rw [if_pos h]

theorem roundHalfEven_mono {p q : ℚ} (h : p ≤ q) : roundHalfEven p ≤ roundHalfEven q := by
  have hp := roundHalfEven_le_floor_succ p
  have hq := floor_le_roundHalfEven q
  rcases lt_or_eq_of_le (Rat.floor_monotone h) with hlt | heq
  · omega
  · -- between the same two integers
    rcases lt_trichotomy (p - p.floor) (1 / 2) with hlow | hmid | hhigh
    · rw [roundHalfEven_of_lt_half hlow, heq]
      exact hq
    · rcases lt_or_eq_of_le h with hpq | rfl
      · have hupper : 1 / 2 < q - q.floor := by
          rw [← heq, ← hmid]
          exact sub_lt_sub_right hpq _
        rw [roundHalfEven_of_half_lt hupper, ← heq]
        exact hp
      · exact le_refl _
    · have hupper : 1 / 2 < q - q.floor := by
        rw [← heq]
        exact lt_of_lt_of_le hhigh (sub_le_sub_right h _)
      rw [roundHalfEven_of_half_lt hupper, ← heq]
      exact hp

theorem roundHalfEven_intCast (n : Int) : roundHalfEven n = n := by
  have hfloor : (n : ℚ).floor = n := Rat.floor_intCast n
  have hlow : (n : ℚ) - ((n : ℚ).floor : ℚ) < 1 / 2 := by
    rw [hfloor, sub_self]
    norm_num
  rw [roundHalfEven_of_lt_half hlow, hfloor]

theorem roundHalfEven_le {q : ℚ} {n : Int} (h : q ≤ n) : roundHalfEven q ≤ n := by
  have hmono := roundHalfEven_mono h
  rwa [roundHalfEven_intCast] at hmono

theorem succ_le_roundHalfEven {q : ℚ} {n : Int} (h : (n : ℚ) + 1 / 2 < q) :
    n + 1 ≤ roundHalfEven q := by
  have hn : n ≤ q.floor := Rat.le_floor_iff.mpr (by linarith)
  rcases lt_or_eq_of_le hn with hlt | rfl
  · have := floor_le_roundHalfEven q
    omega
  · rw [roundHalfEven_of_half_lt (by linarith)]

/-! ## `int` -/

theorem truncToInt_mono {p q : ℚ} (h : p ≤ q) : truncToInt p ≤ truncToInt q := by
  unfold truncToInt
  by_cases hp : 0 ≤ p
  · rw [if_pos hp, if_pos (le_trans hp h)]
    exact Rat.floor_monotone h
  · rw [if_neg hp]
    have hneg : 0 ≤ (-p).floor := Rat.le_floor_iff.mpr (by push_cast; linarith)
    by_cases hq : 0 ≤ q
    · rw [if_pos hq]
      have hpos : 0 ≤ q.floor := Rat.le_floor_iff.mpr (by exact_mod_cast hq)
      omega
    · rw [if_neg hq]
      have := Rat.floor_monotone (neg_le_neg h)
      omega

theorem truncToInt_nonneg {q : ℚ} (h : 0 ≤ q) : 0 ≤ truncToInt q := by
  have hmono := truncToInt_mono h
  rwa [show truncToInt 0 = 0 from rfl] at hmono

end SentinelAI
