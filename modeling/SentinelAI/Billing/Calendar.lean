import SentinelAI.Services.Quotas

/-
  The calendar month of the quota window. Later instants have no earlier month start, so what
  counts in the month of an instant counted in the month of every instant before it since the
  event.
-/

namespace SentinelAI

/-! ## Days, years and months of an era

An era has 400 years, of 146097 days, and starts on 1 March; so does each of its years. -/

/-- The year of a day of an era. -/
def yearOfEra (doe : Int) : Int := (doe - doe / 1460 + doe / 36524 - doe / 146096) / 365

/-- The days of an era before a year of it. -/
def yearStart (year : Int) : Int := 365 * year + year / 4 - year / 100

/-- The days of a year before the month of a day of it. -/
def monthOffset (doy : Int) : Int := (153 * ((5 * doy + 2) / 153) + 2) / 5

/-- The first day of the month of a day. -/
def firstOfMonth (days : Int) : Int := days - (dayOfMonth days - 1)

theorem yearStart_mono {y y' : Int} (h : y ≤ y') : yearStart y ≤ yearStart y' := by
  unfold yearStart
  omega

theorem monthOffset_mono {d d' : Int} (h : d ≤ d') : monthOffset d ≤ monthOffset d' := by
  unfold monthOffset
  omega

theorem monthOffset_le (d : Int) : monthOffset d ≤ d := by
  unfold monthOffset
  omega

theorem yearOfEra_mono {doe doe' : Int} (h0 : 0 ≤ doe) (h : doe ≤ doe') (h1 : doe' < 146097) :
    yearOfEra doe ≤ yearOfEra doe' := by
  obtain rfl | hlt := Int.le_iff_eq_or_lt.mp h
  · exact Int.le_refl _
  have hlast : doe / 146096 = 0 := by omega
  have hlast' : doe' / 146096 ≤ 1 := by omega
  have hcentury : doe / 36524 ≤ doe' / 36524 := by omega
  have hfours : doe + 1 - doe / 1460 + doe' / 146096 ≤ doe' - doe' / 1460 + 1 := by omega
  exact Int.ediv_le_ediv (by decide) (by omega)

/-- A day lies in its year. The last day of an era is the leap day of its last year. -/
theorem yearOfEra_spec {doe : Int} (h0 : 0 ≤ doe) (h1 : doe < 146096) :
    yearStart (yearOfEra doe) ≤ doe ∧ doe < yearStart (yearOfEra doe + 1) := by
  have hcentury : doe / 36524 = 0 ∨ doe / 36524 = 1 ∨ doe / 36524 = 2 ∨ doe / 36524 = 3 := by omega
  have hlast : doe / 146096 = 0 := by omega
  obtain ⟨n, hn⟩ : ∃ n, n = yearOfEra doe := ⟨_, rfl⟩
  rw [← hn]
  unfold yearOfEra at hn
  unfold yearStart
  rw [hlast] at hn
  have hsame : n / 100 = doe / 36524 := by
    rcases hcentury with hc | hc | hc | hc <;> rw [hc] at hn ⊢ <;> omega
  have hleap : (n + 1) / 4 = n / 4 ∨ (n + 1) / 4 = n / 4 + 1 ∧ n = 4 * (n / 4) + 3 := by omega
  have hturn : (n + 1) / 100 = n / 100 ∨
      (n + 1) / 100 = n / 100 + 1 ∧ n = 100 * (n / 100) + 99 := by omega
  constructor
  · rcases hcentury with hc | hc | hc | hc <;> rw [hc] at hn hsame <;> omega
  · rcases hcentury with hc | hc | hc | hc <;> rw [hc] at hn hsame <;>
      rcases hleap with hleap | hleap <;> rcases hturn with hturn | hturn <;> omega

theorem yearStart_le {doe : Int} (h0 : 0 ≤ doe) (h1 : doe < 146097) :
    yearStart (yearOfEra doe) ≤ doe := by
  by_cases hlast : doe = 146096
  · subst hlast
    decide
  · exact (yearOfEra_spec h0 (by omega)).1

theorem firstOfMonth_eq (days : Int) :
    firstOfMonth days = (days + 719468) / 146097 * 146097 - 719468 +
      yearStart (yearOfEra ((days + 719468) % 146097)) +
      monthOffset ((days + 719468) % 146097 -
        yearStart (yearOfEra ((days + 719468) % 146097))) := by
  have hday : dayOfMonth days = (days + 719468) % 146097 -
      yearStart (yearOfEra ((days + 719468) % 146097)) -
      monthOffset ((days + 719468) % 146097 -
        yearStart (yearOfEra ((days + 719468) % 146097))) + 1 := rfl
  have hera := Int.mul_ediv_add_emod (days + 719468) 146097
  unfold firstOfMonth
  rw [hday]
  omega

/-- The first of the month of a later day is not earlier. -/
theorem firstOfMonth_mono {d d' : Int} (h : d ≤ d') : firstOfMonth d ≤ firstOfMonth d' := by
  rw [firstOfMonth_eq, firstOfMonth_eq]
  obtain ⟨x, hx⟩ : ∃ x, x = d + 719468 := ⟨_, rfl⟩
  obtain ⟨x', hx'⟩ : ∃ x', x' = d' + 719468 := ⟨_, rfl⟩
  rw [← hx, ← hx']
  have hdoe := Int.emod_nonneg x (show (146097 : Int) ≠ 0 by decide)
  have hdoe' := Int.emod_nonneg x' (show (146097 : Int) ≠ 0 by decide)
  have hlt := Int.emod_lt_of_pos x (show (0 : Int) < 146097 by decide)
  have hlt' := Int.emod_lt_of_pos x' (show (0 : Int) < 146097 by decide)
  have hstart := yearStart_le hdoe hlt
  have hstart' := yearStart_le hdoe' hlt'
  have hoff := monthOffset_le (x % 146097 - yearStart (yearOfEra (x % 146097)))
  have hoff' : 0 ≤ monthOffset (x' % 146097 - yearStart (yearOfEra (x' % 146097))) := by
    unfold monthOffset
    omega
  have hyear' : 0 ≤ yearStart (yearOfEra (x' % 146097)) := by
    unfold yearStart yearOfEra
    omega
  by_cases hera : x / 146097 = x' / 146097
  · have hle : x % 146097 ≤ x' % 146097 := by omega
    have hyears := yearOfEra_mono hdoe hle hlt'
    by_cases hsame : yearOfEra (x % 146097) = yearOfEra (x' % 146097)
    · -- the same year: the days of the year decide
      have hmono := monthOffset_mono (show x % 146097 - yearStart (yearOfEra (x' % 146097)) ≤
        x' % 146097 - yearStart (yearOfEra (x' % 146097)) by omega)
      rw [hera, hsame]
      omega
    · -- an earlier year ends before the later one starts
      have hday : x % 146097 ≠ 146096 := by
        intro hlast
        have : x' % 146097 = 146096 := by omega
        rw [hlast, this] at hsame
        exact hsame rfl
      have hend := (yearOfEra_spec hdoe (by omega)).2
      have hnext := yearStart_mono (show yearOfEra (x % 146097) + 1 ≤ yearOfEra (x' % 146097) by
        omega)
      omega
  · -- an earlier era ends before the later one starts
    have hlater : x / 146097 < x' / 146097 := by omega
    omega

theorem monthStart_mono {now now' : Time} (h : now ≤ now') : monthStart now ≤ monthStart now' := by
  have hdays : now / 86400000000 ≤ now' / 86400000000 := Int.ediv_le_ediv (by decide) h
  have hfirst : firstOfMonth (now / 86400000000) ≤ firstOfMonth (now' / 86400000000) :=
    firstOfMonth_mono hdays
  exact Int.mul_le_mul_of_nonneg_right hfirst (by decide)

end SentinelAI
