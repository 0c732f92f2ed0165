import SentinelAI.Billing.UsageSteps

/-
  The monthly quota of model calls. Nothing checks it: an investigation run is refused for
  the searches of the month alone, whatever it is going to ask of the model. The quota holds
  over a run of requests exactly when no investigation run that the search quota lets through
  finds more detections than the month has model calls left.
-/

namespace SentinelAI

open Lib

section

variable (rt : Runtime) (tenantId plan : String) (now : Time)

/-- The monthly model calls of the plan. -/
def modelCallLimit : Int := (quotaFor plan).modelCallsPerMonth

/-- A request in the calendar month of `now`, the tenant being on the plan. -/
def SteppedInMonth (w : World) (e : Event) (w' : World) : Prop :=
  Stepped rt w e w' ∧ (∀ i, monthStart (e.env.now i) = monthStart now) ∧
    planAt w.db tenantId = plan ∧ planAt w'.db tenantId = plan

/-- The detections of an investigation run do not fit into the month. -/
def PastLimit (w : World) (e : Event) : Prop :=
  modelCallLimit plan <
    monthToDate w.db tenantId kindModelCall now + detectionsFound rt w.db e.env tenantId

/-- The request keeps the tenant within its model calls, and is refused before any work if it
    is an investigation run that would take the tenant past them. -/
structure ModelQuotaHeld (w : World) (e : Event) : Prop where
  within : monthToDate (step rt w e).db tenantId kindModelCall now ≤ modelCallLimit plan
  refused : ∀ p orch, RunReaches rt w e p orch → p.tenantId = tenantId →
    PastLimit rt tenantId plan now w e → ∃ detail, TurnedAway rt w e (.http 429 detail)

/-- No investigation run that the search quota lets through would take the tenant past its
    model calls. -/
def SearchesBindFirst (w : World) (e : Event) : Prop :=
  ∀ p orch, RunReaches rt w e p orch → p.tenantId = tenantId →
    SearchAllowed w.db tenantId (e.env.now 1) → ¬ PastLimit rt tenantId plan now w e

variable {rt tenantId plan now} {w w' : World} {e : Event}

theorem modelCallLimit_nonneg (hfinite : modelCallLimit plan ≠ unlimited) :
    0 ≤ modelCallLimit plan := by
  unfold modelCallLimit quotaFor unlimited at *
  split
  · decide
  · split
    · decide
    · split
      · simp_all
      · decide

/-- A step adds to the tenant's model calls at most the detections of a run that was let
    through. -/
theorem modelCalls_step (rt : Runtime) (tenantId : String) (now : Time) (w : World) (e : Event) :
    (∃ p orch, RunReaches rt w e p orch ∧ p.tenantId = tenantId ∧
      SearchAllowed w.db tenantId (e.env.now 1) ∧
      monthToDate (step rt w e).db tenantId kindModelCall now ≤
        monthToDate w.db tenantId kindModelCall now + detectionsFound rt w.db e.env tenantId) ∨
    monthToDate (step rt w e).db tenantId kindModelCall now =
      monthToDate w.db tenantId kindModelCall now := by
  unfold monthToDate
  obtain ⟨p, orch, as, invs, l, u, t, hreach, hallowed, hdone⟩ | ⟨tenant, actionType, at_, husage⟩ |
    hsame := step_usage rt w e
  · obtain ⟨i, j, husage⟩ := hdone.usage
    have hsearch : (kindSearch == kindModelCall) = false := by decide
    rw [quantityOf_congr husage, quantityOf_runEvents]
    by_cases hp : p.tenantId = tenantId
    · subst hp
      left
      refine ⟨p, orch, hreach, rfl, hallowed, ?_⟩
      rw [hreach.found hdone.answered, ← hdone.ran.count]
      simp only [ofKind_usageRow, hsearch, Bool.and_false, Bool.false_and, Bool.false_eq_true,
        if_false, add_zero]
      split <;> omega
    · right
      have hother : (p.tenantId == tenantId) = false := beq_eq_false_iff_ne.mpr hp
      simp [hother]
  · right
    have haction : (kindAction == kindModelCall) = false := by decide
    rw [quantityOf_congr husage, quantityOf_addUsage]
    simp [actionEvent, haction]
  · right
    exact quantityOf_congr hsame _

/-- Detections of a run that gets to its body took searches, even if the run then raises. -/
theorem detections_searched {p : Principal} {orch : Orchestrator} (h : RunReaches rt w e p orch)
    (hallowed : SearchAllowed w.db p.tenantId (e.env.now 1))
    (hfound : 0 < detectionsFound rt w.db e.env p.tenantId) : searchCalls rt w e ≠ [] := by
  cases has : answers e.env orch.splunk 0 (enabledRules (disabledAt w.db p.tenantId)) with
  | none =>
    rw [detectionsFound, h.clients.splunk] at hfound
    dsimp only at hfound
    rw [has] at hfound
    exact absurd hfound (Nat.lt_irrefl 0)
  | some as =>
    rw [h.found has] at hfound
    rw [h.searchCalls hallowed has]
    obtain ⟨a, ha, _⟩ := List.countP_pos_iff.mp hfound
    have hattempts := ((answers_rules has).2 a ha).1
    intro hnone
    have hcalls := List.flatMap_eq_nil_iff.mp hnone a ha
    unfold RuleAnswer.calls at hcalls
    rw [List.replicate_eq_nil_iff] at hcalls
    omega

/-- Within the quota so far, a request holds it exactly when the searches of the month refuse
    what would take the tenant past its model calls. -/
theorem modelQuotaHeld_iff
    (hw : monthToDate w.db tenantId kindModelCall now ≤ modelCallLimit plan) :
    ModelQuotaHeld rt tenantId plan now w e ↔ SearchesBindFirst rt tenantId plan now w e := by
  constructor
  · rintro hheld p orch hreach rfl hallowed hpast
    obtain ⟨detail, haway⟩ := hheld.refused p orch hreach rfl hpast
    have hfound : 0 < detectionsFound rt w.db e.env p.tenantId := by
      unfold PastLimit at hpast
      omega
    exact detections_searched hreach hallowed hfound haway.searches
  · intro hbind
    constructor
    · obtain ⟨p, orch, hreach, rfl, hallowed, hle⟩ | hsame :=
        modelCalls_step rt tenantId now w e
      · have hfits := hbind p orch hreach rfl hallowed
        unfold PastLimit at hfits
        omega
      · omega
    · rintro p orch hreach rfl hpast
      have hspent : ¬ SearchAllowed w.db p.tenantId (e.env.now 1) :=
        fun hallowed => hbind p orch hreach rfl hallowed hpast
      exact ⟨_, hreach.turnedAway hspent⟩

/-- Over every run of requests in one month, on one finite plan and from no model calls: each
    request holds the quota of model calls, exactly when at each the search quota refuses what
    would take the tenant past it. -/
theorem model_quota_iff (rt : Runtime) (tenantId plan : String) (now : Time) (w w' : World)
    (es : List Event) (hfinite : modelCallLimit plan ≠ unlimited)
    (hzero : monthToDate w.db tenantId kindModelCall now = 0) :
    Steps (Guarded (SteppedInMonth rt tenantId plan now) (ModelQuotaHeld rt tenantId plan now))
        w es w' ↔
      Steps (Guarded (SteppedInMonth rt tenantId plan now)
        (SearchesBindFirst rt tenantId plan now)) w es w' := by
  have hlimit := modelCallLimit_nonneg hfinite
  refine Steps.guarded_iff
    (I := fun v => monthToDate v.db tenantId kindModelCall now ≤ modelCallLimit plan)
    (fun v e _ _ hv => modelQuotaHeld_iff hv) ?_ (by omega)
  rintro v e v' ⟨rfl, _⟩ _ hheld
  exact hheld.within

end

/-! ## Eleven runs on the free plan -/

/-- Busy runs stay in the month and leave the plan. -/
theorem steps_busyRuns {w : World} {plan : String} (hplan : planAt w.db "t1" = plan)
    (ks : List Nat) : Steps (SteppedInMonth shortDigest "t1" plan 0) w (ks.map busyRun)
      (run shortDigest w (ks.map busyRun)) := by
  induction ks generalizing w with
  | nil => exact Steps.nil w
  | cons k ks ih =>
    have hkept : (step shortDigest w (busyRun k)).db.tenants = w.db.tenants :=
      step_kept .tenants (by simp [busyRun, writes])
    have hplan' : planAt (step shortDigest w (busyRun k)).db "t1" = plan := by
      rw [← hplan, planAt, planAt, hkept]
    exact Steps.cons ⟨rfl, fun _ => rfl, hplan, hplan'⟩ (ih hplan')

/-- One run of the free plan. -/
theorem model_quota_iff_free :
    Steps (Guarded (SteppedInMonth shortDigest "t1" "free" 0)
        (ModelQuotaHeld shortDigest "t1" "free" 0)) (initech "free") [busyRun 0]
        (run shortDigest (initech "free") [busyRun 0]) ↔
      Steps (Guarded (SteppedInMonth shortDigest "t1" "free" 0)
        (SearchesBindFirst shortDigest "t1" "free" 0)) (initech "free") [busyRun 0]
        (run shortDigest (initech "free") [busyRun 0]) :=
  model_quota_iff shortDigest "t1" "free" 0 (initech "free")
    (run shortDigest (initech "free") [busyRun 0]) [busyRun 0] (by decide) (by decide)

/-- Eleven runs of five detections each meter fifty-five model calls, of the fifty there are. -/
theorem model_quota_overrun :
    ¬ ∀ (rt : Runtime) (tenantId plan : String) (now : Time) (w w' : World) (es : List Event),
      modelCallLimit plan ≠ unlimited → monthToDate w.db tenantId kindModelCall now = 0 →
      Steps (SteppedInMonth rt tenantId plan now) w es w' →
      Steps (Guarded (SteppedInMonth rt tenantId plan now) (ModelQuotaHeld rt tenantId plan now))
        w es w' := by
  intro h
  have hsteps := steps_busyRuns (w := initech "free") rfl (List.range 11)
  have hheld := h shortDigest "t1" "free" 0 _ _ _ (by decide) (by decide) hsteps
  have hwithin := hheld.inv
    (I := fun v => monthToDate v.db "t1" kindModelCall 0 ≤ modelCallLimit "free")
    (fun v e v' hstep _ => by
      obtain ⟨⟨rfl, _⟩, hquota⟩ := hstep
      exact hquota.within) (by decide)
  revert hwithin
  decide +kernel

end SentinelAI
