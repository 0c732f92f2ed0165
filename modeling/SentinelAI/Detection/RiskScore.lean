import Mathlib.Tactic.NormNum
import SentinelAI.Models.Rounding
import SentinelAI.Db.Repositories
import SentinelAI.Services.Correlation

/-
  The order of risk scores. `_risk_from` weighs the severity, scales it by the triage confidence
  and the enrichment's boost, truncates and clamps; each of these is monotone, so the score is.
  A false positive is scored by its severity alone, below what a true positive of any
  confidence gets from a third of the boost on.
-/

namespace SentinelAI

/-- `sev_weight` -/
def severityWeight : Severity → ℚ
  | .info => 10
  | .low => 30
  | .medium => 55
  | .high => 80
  | .critical => 95

theorem severityWeight_nonneg (s : Severity) : 0 ≤ severityWeight s := by
  cases s <;> norm_num [severityWeight]

theorem severityWeight_le (s : Severity) : severityWeight s ≤ 95 := by
  cases s <;> norm_num [severityWeight]

theorem severityWeight_mono {s s' : Severity} (h : severityOrder s ≤ severityOrder s') :
    severityWeight s ≤ severityWeight s' := by
  cases s <;> cases s' <;> first
    | exact absurd h (by decide)
    | norm_num [severityWeight]

/-- The boost `_risk_from` reads off the enrichment. -/
def riskBoostOf (d : Detection) : ℚ := d.enrichment.riskBoost.getD 1

/-- The share of the weight that a true positive of this confidence is scored by. -/
def certainty (confidence : ℚ) : ℚ := 3 / 5 + 2 / 5 * confidence

theorem certainty_ge {confidence : ℚ} (h : 0 ≤ confidence) : 3 / 5 ≤ certainty confidence := by
  unfold certainty
  linarith

theorem certainty_mono {c c' : ℚ} (h : c ≤ c') : certainty c ≤ certainty c' := by
  unfold certainty
  linarith

/-- The weight scaled, truncated and capped. -/
def scored (weight factor boost : ℚ) : Int := min 100 (truncToInt (weight * factor * boost))

theorem scored_mono {w w' f f' b b' : ℚ} (hw₀ : 0 ≤ w) (hf₀ : 0 ≤ f) (hb₀ : 0 ≤ b) (hw : w ≤ w')
    (hf : f ≤ f') (hb : b ≤ b') : scored w f b ≤ scored w' f' b' := by
  have hweighted : w * f ≤ w' * f' := mul_le_mul hw hf hf₀ (le_trans hw₀ hw)
  have hboosted : w * f * b ≤ w' * f' * b' :=
    mul_le_mul hweighted hb hb₀ (le_trans (mul_nonneg hw₀ hf₀) hweighted)
  exact min_le_min_left 100 (truncToInt_mono hboosted)

theorem scored_bounded {w f b : ℚ} (hw : 0 ≤ w) (hf : 0 ≤ f) (hb : 0 ≤ b) :
    0 ≤ scored w f b ∧ scored w f b ≤ 100 :=
  ⟨le_min (by decide) (truncToInt_nonneg (mul_nonneg (mul_nonneg hw hf) hb)), min_le_left _ _⟩

/-- The score under a false positive. -/
def dismissed (weight : ℚ) : Int := max 0 (truncToInt (weight * (1 / 5)))

theorem dismissed_mono {w w' : ℚ} (h : w ≤ w') : dismissed w ≤ dismissed w' :=
  max_le_max_left 0 (truncToInt_mono (mul_le_mul_of_nonneg_right h (by norm_num)))

theorem dismissed_eq {w : ℚ} (h : 0 ≤ w) : dismissed w = truncToInt (w * (1 / 5)) :=
  max_eq_right (truncToInt_nonneg (mul_nonneg h (by norm_num)))

theorem dismissed_le (s : Severity) : dismissed (severityWeight s) ≤ 100 :=
  le_trans (dismissed_mono (severityWeight_le s)) (by decide +kernel)

/-! ## The branches of `_risk_from` -/

section

variable {inv : Investigation} {v : TriageVerdict}

theorem riskFrom_untriaged (h : inv.verdict = none) :
    riskFrom inv = scored (severityWeight inv.detection.severity) 1 (riskBoostOf inv.detection) := by
  unfold riskFrom scored
  rw [h, mul_one]
  cases inv.detection.severity <;> rfl

theorem riskFrom_positive (h : inv.verdict = some v) (hv : v.isTruePositive = true) :
    riskFrom inv = scored (severityWeight inv.detection.severity) (certainty v.confidence)
      (riskBoostOf inv.detection) := by
  unfold riskFrom scored
  rw [h]
  dsimp only
  rw [hv]
  cases inv.detection.severity <;> rfl

theorem riskFrom_dismissed (h : inv.verdict = some v) (hv : v.isTruePositive = false) :
    riskFrom inv = dismissed (severityWeight inv.detection.severity) := by
  unfold riskFrom dismissed
  rw [h]
  dsimp only
  rw [hv]
  cases inv.detection.severity <;> rfl

theorem riskFrom_bounded (hboost : 0 ≤ riskBoostOf inv.detection) :
    0 ≤ riskFrom inv ∧ riskFrom inv ≤ 100 := by
  have hweight := severityWeight_nonneg inv.detection.severity
  cases hverdict : inv.verdict with
  | none =>
    rw [riskFrom_untriaged hverdict]
    exact scored_bounded hweight zero_le_one hboost
  | some v =>
    cases hv : v.isTruePositive with
    | true =>
      rw [riskFrom_positive hverdict hv]
      have hcertain := certainty_ge v.confidence_ge
      exact scored_bounded hweight (by linarith) hboost
    | false =>
      rw [riskFrom_dismissed hverdict hv]
      exact ⟨le_max_left _ _, dismissed_le inv.detection.severity⟩

end

/-- Nothing in the first investigation is scored higher than in the second: severity, confidence
    and boost, under verdicts with the same flag. -/
structure ScoredBelow (inv inv' : Investigation) : Prop where
  flag : inv.verdict.map TriageVerdict.isTruePositive = inv'.verdict.map TriageVerdict.isTruePositive
  severity : severityOrder inv.detection.severity ≤ severityOrder inv'.detection.severity
  confidence : ∀ v v', inv.verdict = some v → inv'.verdict = some v' → v.confidence ≤ v'.confidence
  boost : riskBoostOf inv.detection ≤ riskBoostOf inv'.detection

theorem riskFrom_mono {inv inv' : Investigation} (h : ScoredBelow inv inv')
    (hboost : 0 ≤ riskBoostOf inv.detection) : riskFrom inv ≤ riskFrom inv' := by
  have hweight₀ := severityWeight_nonneg inv.detection.severity
  have hweight := severityWeight_mono h.severity
  have hflag := h.flag
  cases hverdict : inv.verdict with
  | none =>
    rw [hverdict] at hflag
    have hverdict' : inv'.verdict = none := Option.map_eq_none_iff.mp hflag.symm
    rw [riskFrom_untriaged hverdict, riskFrom_untriaged hverdict']
    exact scored_mono hweight₀ zero_le_one hboost hweight le_rfl h.boost
  | some v =>
    rw [hverdict] at hflag
    obtain ⟨v', hverdict', hsame⟩ := Option.map_eq_some_iff.mp hflag.symm
    cases hv : v.isTruePositive with
    | true =>
      rw [riskFrom_positive hverdict hv, riskFrom_positive hverdict' (hsame.trans hv)]
      have hcertain := certainty_ge v.confidence_ge
      exact scored_mono hweight₀ (by linarith) hboost hweight
        (certainty_mono (h.confidence v v' hverdict hverdict')) h.boost
    | false =>
      rw [riskFrom_dismissed hverdict hv, riskFrom_dismissed hverdict' (hsame.trans hv)]
      exact dismissed_mono hweight

/-- From a third of the boost on, dismissing a detection never raises its score. -/
theorem riskFrom_dismissed_le {inv : Investigation} {fp tp : TriageVerdict}
    (hboost : 1 / 3 ≤ riskBoostOf inv.detection) (hfp : fp.isTruePositive = false)
    (htp : tp.isTruePositive = true) :
    riskFrom { inv with verdict := some fp } ≤ riskFrom { inv with verdict := some tp } := by
  have hweight := severityWeight_nonneg inv.detection.severity
  have hcertain := certainty_ge tp.confidence_ge
  rw [riskFrom_dismissed rfl hfp, riskFrom_positive rfl htp]
  refine le_min (dismissed_le _) ?_
  rw [dismissed_eq hweight]
  have hshare : 1 / 5 ≤ certainty tp.confidence * riskBoostOf inv.detection := by
    have hproduct := mul_le_mul hcertain hboost (by norm_num) (by linarith)
    linarith
  refine truncToInt_mono ?_
  show severityWeight inv.detection.severity * (1 / 5) ≤
    severityWeight inv.detection.severity * certainty tp.confidence * riskBoostOf inv.detection
  rw [mul_assoc]
  exact mul_le_mul_of_nonneg_left hshare hweight

/-- The risk score of every investigation whose boost is absent or not negative: it is between 0
    and 100, grows with severity, confidence and boost while the verdict's flag is the same,
    and from a boost of a third on is no higher under a false positive than under a true
    one. -/
theorem risk_score_ordered :
    (∀ inv : Investigation, 0 ≤ riskBoostOf inv.detection →
      0 ≤ riskFrom inv ∧ riskFrom inv ≤ 100) ∧
    (∀ inv inv' : Investigation, 0 ≤ riskBoostOf inv.detection → ScoredBelow inv inv' →
      riskFrom inv ≤ riskFrom inv') ∧
    ∀ (inv : Investigation) (fp tp : TriageVerdict), 1 / 3 ≤ riskBoostOf inv.detection →
      fp.isTruePositive = false → tp.isTruePositive = true →
        riskFrom { inv with verdict := some fp } ≤ riskFrom { inv with verdict := some tp } :=
  ⟨fun _ hboost => riskFrom_bounded hboost, fun _ _ hboost h => riskFrom_mono h hboost,
    fun _ _ _ hboost hfp htp => riskFrom_dismissed_le hboost hfp htp⟩

end SentinelAI
