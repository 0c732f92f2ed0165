import SentinelAI.Db.Repositories
import SentinelAI.Models.Rounding

/-
  What the SLA flags say. `compute_sla` takes datetimes that may be naive, as SQLite returns
  them, and reads those as UTC. A flag is up only while the case is unhandled, and then it
  compares the elapsed minutes to one decimal with the target: up to the target it is down, and
  from three seconds past it on it is up (`sla_flags`). Between the two the rounding decides.
-/

namespace SentinelAI

open Lib

/-- A `datetime`: what its wall clock shows, and how far that is from UTC unless it is naive. -/
structure Datetime where
  wall : Time
  utcoffset : Option Int := none
  deriving DecidableEq, Repr

namespace Datetime

/-- `_aware` -/
def aware (dt : Datetime) : Datetime :=
  match dt.utcoffset with
  | some _ => dt
  | none => { dt with utcoffset := some 0 }

/-- `datetime.now(UTC)` -/
def utc (now : Time) : Datetime := { wall := now, utcoffset := some 0 }

/-- The instant meant, a naive datetime read as UTC. -/
def instant (dt : Datetime) : Time := dt.wall - dt.utcoffset.getD 0

/-- `b - a` of aware datetimes. -/
def sub (b a : Datetime) : Int :=
  (b.wall - b.utcoffset.getD 0) - (a.wall - a.utcoffset.getD 0)

theorem instant_aware (dt : Datetime) : dt.aware.instant = dt.instant := by
  obtain ⟨wall, utcoffset⟩ := dt
  cases utcoffset <;> rfl

theorem sub_eq (b a : Datetime) : b.sub a = b.instant - a.instant := rfl

end Datetime

/-- `_minutes` -/
def minutesBetween (a b : Datetime) : ℚ := roundTo 1 ((b.aware.sub a.aware : Int) / 60000000)

/-- `compute_sla` as it is called; `clock` is what `datetime.now(UTC)` would give. -/
def computeSlaOf (createdAt : Datetime) (acknowledgedAt containedAt now : Option Datetime)
    (clock : Time) : Sla :=
  let now := now.getD (.utc clock)
  let createdAt := createdAt.aware
  let acknowledgedAt := acknowledgedAt.map Datetime.aware
  let containedAt := containedAt.map Datetime.aware
  let ackElapsed := minutesBetween createdAt (acknowledgedAt.getD now)
  let containElapsed := minutesBetween createdAt (containedAt.getD now)
  { ackTargetMin := slaAcknowledgeMin
    ackElapsedMin := ackElapsed
    ackBreached := acknowledgedAt.isNone && decide (slaAcknowledgeMin < ackElapsed)
    containTargetMin := slaContainMin
    containElapsedMin := containElapsed
    containBreached := containedAt.isNone && decide (slaContainMin < containElapsed) }

theorem minutesBetween_eq (a b : Datetime) :
    minutesBetween a b = elapsedMinutes a.instant b.instant := by
  unfold minutesBetween elapsedMinutes
  rw [Datetime.sub_eq, Datetime.instant_aware, Datetime.instant_aware]

/-- On datetimes, `compute_sla` is what it is on the instants they mean. -/
theorem computeSlaOf_eq (createdAt : Datetime) (acknowledgedAt containedAt now : Option Datetime)
    (clock : Time) :
    computeSlaOf createdAt acknowledgedAt containedAt now clock =
      computeSla createdAt.instant (acknowledgedAt.map Datetime.instant)
        (containedAt.map Datetime.instant) (now.getD (.utc clock)).instant := by
  have hstamp : ∀ stamp : Option Datetime,
      ((stamp.map Datetime.aware).getD (now.getD (.utc clock))).instant =
        (stamp.map Datetime.instant).getD (now.getD (.utc clock)).instant := by
    intro stamp
    cases stamp with
    | none => rfl
    | some dt => exact dt.instant_aware
  unfold computeSlaOf computeSla
  simp only [minutesBetween_eq, Datetime.instant_aware, hstamp, Option.isNone_map]

/-! ## The flags -/

/-- Half of the tenth of a minute the elapsed time is rounded to, in microseconds. -/
def roundingMargin : Int := 3000000

theorem elapsedMinutes_le {created now : Time} {target : Int}
    (h : now - created ≤ minutes target) : elapsedMinutes created now ≤ target := by
  have hscaled : ((now - created : Int) : ℚ) / 60000000 * (10 ^ 1 : Nat) ≤ (target * 10 : Int) := by
    have hcast : ((now - created : Int) : ℚ) ≤ (target * 60000000 : Int) := by exact_mod_cast h
    push_cast at hcast ⊢
    linarith
  have hrounded := roundHalfEven_le hscaled
  have hcast : ((roundHalfEven (((now - created : Int) : ℚ) / 60000000 * (10 ^ 1 : Nat)) : Int) : ℚ) ≤
      (target * 10 : Int) := by
    exact_mod_cast hrounded
  unfold elapsedMinutes roundTo
  push_cast at hcast ⊢
  linarith

theorem lt_elapsedMinutes {created now : Time} {target : Int}
    (h : minutes target + roundingMargin < now - created) : (target : ℚ) < elapsedMinutes created now := by
  have hscaled : ((target * 10 : Int) : ℚ) + 1 / 2 <
      ((now - created : Int) : ℚ) / 60000000 * (10 ^ 1 : Nat) := by
    have hcast : ((target * 60000000 + 3000000 : Int) : ℚ) < ((now - created : Int) : ℚ) := by
      exact_mod_cast h
    push_cast at hcast ⊢
    linarith
  have hrounded := succ_le_roundHalfEven hscaled
  have hcast : ((target * 10 + 1 : Int) : ℚ) ≤
      (roundHalfEven (((now - created : Int) : ℚ) / 60000000 * (10 ^ 1 : Nat)) : Int) := by
    exact_mod_cast hrounded
  unfold elapsedMinutes roundTo
  push_cast at hcast ⊢
  linarith

/-- What a flag says of a case created then and handled then, if at all: it is down once the case
    is handled and up to the target, and up from three seconds past the target on. -/
structure FlagSays (target : Int) (created : Time) (handled : Option Time) (now : Time)
    (breached : Bool) : Prop where
  down : handled.isSome = true → breached = false
  inTime : handled = none → now - created ≤ minutes target → breached = false
  overdue : handled = none → minutes target + roundingMargin < now - created → breached = true

theorem flagSays (target : Int) (created : Time) (handled : Option Time) (now : Time) :
    FlagSays target created handled now (handled.isNone &&
      decide ((target : ℚ) < elapsedMinutes created (handled.getD now))) := by
  constructor
  · intro h
    cases handled with
    | none => cases h
    | some t => rfl
  · rintro rfl h
    exact decide_eq_false (not_lt.mpr (elapsedMinutes_le h))
  · rintro rfl h
    exact decide_eq_true (lt_elapsedMinutes h)

/-- The two flags of `compute_sla`, for every combination of stamps, naive or aware. -/
theorem sla_flags (createdAt : Datetime) (acknowledgedAt containedAt now : Option Datetime)
    (clock : Time) :
    FlagSays 15 createdAt.instant (acknowledgedAt.map Datetime.instant)
      (now.getD (.utc clock)).instant
      (computeSlaOf createdAt acknowledgedAt containedAt now clock).ackBreached ∧
    FlagSays 60 createdAt.instant (containedAt.map Datetime.instant)
      (now.getD (.utc clock)).instant
      (computeSlaOf createdAt acknowledgedAt containedAt now clock).containBreached := by
  rw [computeSlaOf_eq]
  exact ⟨flagSays slaAcknowledgeMin .., flagSays slaContainMin ..⟩

/-- A case acknowledged after sixteen minutes is no breach any more. -/
theorem sla_breach_forgotten :
    ¬ ∀ (createdAt now : Datetime) (acknowledgedAt containedAt : Option Datetime),
      (∀ t ∈ acknowledgedAt, createdAt.instant ≤ t.instant ∧ t.instant ≤ now.instant) →
      (∀ t ∈ containedAt, createdAt.instant ≤ t.instant ∧ t.instant ≤ now.instant) →
      ((computeSlaOf createdAt acknowledgedAt containedAt (some now) 0).ackBreached = true ↔
        minutes 15 < (acknowledgedAt.getD now).instant - createdAt.instant) ∧
      ((computeSlaOf createdAt acknowledgedAt containedAt (some now) 0).containBreached = true ↔
        minutes 60 < (containedAt.getD now).instant - createdAt.instant) := by
  intro h
  have hlate := (h (.utc 0) (.utc (minutes 20)) (some (.utc (minutes 16))) none
    (by decide) (by decide)).1.mpr (by decide)
  have hdown : (computeSlaOf (.utc 0) (some (.utc (minutes 16))) none
      (some (.utc (minutes 20))) 0).ackBreached = false := by
    decide +kernel
  rw [hdown] at hlate
  cases hlate

/-- The flags of the `sla` method are those of the stored stamps. -/
theorem CaseWorkflowMixin.sla_says {env : Env} {tenantId invId : String} {s t : Session} {r : Sla}
    (h : (CaseWorkflowMixin.sla env tenantId invId).run s = .ok (some r) t) :
    ∃ row, s.db.investigations.find? invId = some row ∧ row.tenantId = tenantId ∧
      FlagSays 15 row.createdAt row.acknowledgedAt (env.now s.ticks) r.ackBreached ∧
      FlagSays 60 row.createdAt row.containedAt (env.now s.ticks) r.containBreached := by
  unfold CaseWorkflowMixin.sla at h
  rw [run_bind_ok (InvestigationRepository.getRow_run ..)] at h
  cases hrow : (s.db.investigations.find? invId).filter fun r => r.tenantId == tenantId with
  | none =>
    rw [hrow] at h
    cases h
  | some row =>
    rw [hrow] at h
    cases h
    obtain ⟨hfind, htenant⟩ := Option.filter_eq_some_iff.mp hrow
    exact ⟨row, hfind, by simpa using htenant, flagSays slaAcknowledgeMin ..,
      flagSays slaContainMin ..⟩

end SentinelAI
