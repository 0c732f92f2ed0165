import SentinelAI.Billing.Calendar
import SentinelAI.Billing.UsageSteps
import SentinelAI.Detection.EnabledRules

/-
  The monthly search quota over runs of requests. An investigation run is refused before any
  work when the rules it would search for do not fit into the tenant's month; one that is let
  through leaves the tenant's month within the plan in force when it was, on whichever side
  of a month's turn its searches are recorded.
-/

namespace SentinelAI

open Lib

/-- The month of a later instant has no more of the usage there is. -/
theorem monthToDate_le {db : Database} (h : NonnegUsage db) (tenantId kind : String)
    {now now' : Time} (hle : now ≤ now') :
    monthToDate db tenantId kind now' ≤ monthToDate db tenantId kind now := by
  refine quantityOf_mono h fun r hr => ?_
  have hstart := monthStart_mono hle
  simp only [Bool.and_eq_true, decide_eq_true_eq] at hr ⊢
  exact ⟨hr.1, hstart.trans hr.2⟩

/-- A run that is let through leaves the month within the limit it was checked against. -/
theorem RunReaches.within_limit {rt : Runtime} {w : World} {e : Event} {p : Principal}
    {orch : Orchestrator} (h : RunReaches rt w e p orch) (hw : NonnegUsage w.db)
    (hallowed : SearchAllowed w.db p.tenantId (e.env.now 1))
    (hfinite : (quotaFor (planAt w.db p.tenantId)).searchesPerMonth ≠ unlimited)
    {now : Time} (hnow : e.env.now 1 ≤ now) :
    monthToDate (step rt w e).db p.tenantId kindSearch now ≤
      (quotaFor (planAt w.db p.tenantId)).searchesPerMonth := by
  have hbefore := monthToDate_le hw p.tenantId kindSearch hnow
  have hwanted : 0 ≤ wanted w.db p.tenantId := Int.natCast_nonneg _
  have hfits : monthToDate w.db p.tenantId kindSearch (e.env.now 1) + wanted w.db p.tenantId ≤
      (quotaFor (planAt w.db p.tenantId)).searchesPerMonth := by
    obtain hunlimited | hle := hallowed
    · exact absurd hunlimited hfinite
    · exact hle
  obtain ⟨as, invs, l, u, t, hdone⟩ | hsame := h.completes_or
  · obtain ⟨i, j, husage⟩ := hdone.usage
    have hafter : monthToDate (step rt w e).db p.tenantId kindSearch now =
        monthToDate w.db p.tenantId kindSearch now +
          if monthStart now ≤ e.env.now i then wanted w.db p.tenantId else 0 := by
      have hkind : (kindModelCall == kindSearch) = false := by decide
      unfold monthToDate
      rw [quantityOf_congr husage, quantityOf_runEvents]
      simp [hkind]
    rw [hafter]
    split <;> omega
  · rw [hsame]
    omega

/-- After every run of requests, for every next investigation run that gets to its body:
    let through, it leaves the tenant's searches within the limit of the plan in force, from
    the check on; refused, it is answered 429 and has done and changed nothing. -/
theorem search_quota_held (rt : Runtime) (w : World) (es : List Event) (e : Event) (p : Principal)
    (orch : Orchestrator) (hw : NonnegUsage w.db) (h : RunReaches rt (run rt w es) e p orch) :
    (SearchAllowed (run rt w es).db p.tenantId (e.env.now 1) →
      (quotaFor (planAt (run rt w es).db p.tenantId)).searchesPerMonth ≠ unlimited →
      ∀ now, e.env.now 1 ≤ now →
        monthToDate (step rt (run rt w es) e).db p.tenantId kindSearch now ≤
          (quotaFor (planAt (run rt w es).db p.tenantId)).searchesPerMonth) ∧
    (¬ SearchAllowed (run rt w es).db p.tenantId (e.env.now 1) →
      TurnedAway rt (run rt w es) e (quotaRefusal (run rt w es).db p.tenantId (e.env.now 1))) := by
  have hreached := nonnegUsage_run rt hw es
  constructor
  · intro hallowed hfinite now hnow
    exact h.within_limit hreached hallowed hfinite hnow
  · intro hspent
    exact h.turnedAway hspent

/-- A run after a toggle, on the free plan. -/
theorem search_quota_held_free :
    (SearchAllowed (run .plain (initech "free") [toggleR001 false]).db "t1" 0 →
      (quotaFor (planAt (run .plain (initech "free") [toggleR001 false]).db "t1")).searchesPerMonth ≠
        unlimited → ∀ now, 0 ≤ now →
        monthToDate (step .plain (run .plain (initech "free") [toggleR001 false])
          investigationRun).db "t1" kindSearch now ≤
          (quotaFor (planAt (run .plain (initech "free") [toggleR001 false]).db "t1")).searchesPerMonth) ∧
    (¬ SearchAllowed (run .plain (initech "free") [toggleR001 false]).db "t1" 0 →
      TurnedAway .plain (run .plain (initech "free") [toggleR001 false]) investigationRun
        (quotaRefusal (run .plain (initech "free") [toggleR001 false]).db "t1" 0)) := by
  have hadmitted : Admitted (run .plain (initech "free") [toggleR001 false]).db
      (run .plain (initech "free") [toggleR001 false]).issued 0 (.bearer adminToken)
      .investigationRun adminToken.principal :=
    ⟨adminToken, ⟨rfl, by decide, by decide, by decide, by decide, by decide⟩, rfl, by decide⟩
  exact search_quota_held .plain (initech "free") [toggleR001 false] investigationRun
    adminToken.principal ⟨.managed, .managed⟩ (fun r hr => absurd hr List.not_mem_nil)
    ⟨⟨_, rfl, hadmitted⟩, ⟨by decide, by decide⟩⟩

end SentinelAI
