import Mathlib.Algebra.Order.BigOperators.Group.List
import SentinelAI.Detection.Routing
import SentinelAI.Security.CaseSteps

/-
  The usage events a request stores: those of a completed investigation run, the one of an
  executed action, and of no other request any.
-/

namespace SentinelAI

open Lib

/-- Only investigation runs and executions write usage events. -/
theorem usage_writes {q : Request} (h : .usageEvents ∈ writes q) :
    (∃ auth, q = .runInvestigations auth) ∨
      ∃ auth invId i, q = .case auth invId (.execute i) := by
  cases q with
  | runInvestigations auth => exact Or.inl ⟨auth, rfl⟩
  | case auth invId r =>
    cases r with
    | execute i => exact Or.inr ⟨auth, invId, i, rfl⟩
    | _ => simp [writes] at h
  | admin auth r => cases r <;> simp [writes] at h
  | provider auth r => cases r <;> simp [writes] at h
  | _ => simp [writes] at h

/-- The event of an executed action. -/
def actionEvent (rt : Runtime) (tenantId actionType : String) (now : Time) : UsageEventRow :=
  MeteringService.usageRow rt tenantId kindAction 1 actionType now

section

variable {rt : Runtime} {w : World} {e : Event}

/-- What follows an execution meters it. -/
theorem afterExecution_usage {env : Env} {p : Principal} {invId : String} {i : Int}
    {a : IncidentAction} {s t : Session}
    (h : (Routes.afterExecution rt env p invId i a).run s = .ok () t) :
    t.db.usageEvents =
      (s.db.addUsage [actionEvent rt p.tenantId a.actionType (env.now s.ticks)]).usageEvents := by
  have hrecord := MeteringService.record_run rt env p.tenantId 1 a.actionType
    (show kindAction ∈ validKinds by decide) s
  unfold Routes.afterExecution at h
  rw [run_bind_ok hrecord] at h
  obtain ⟨_, u, haudit, h⟩ := run_bind_eq_ok.mp h
  have haudits (entry) : Touches [Resource.auditLog] (AuditService.recordEntry rt env entry) := by
    grind
  have hu := (haudits _).moves.of_ok haudit .usageEvents (by decide)
  obtain ⟨_, v, halert, hret⟩ := run_bind_eq_ok.mp h
  cases hret
  have htouches : Touches [Resource.captured] (NotificationService.alertActionExecuted env
      p.tenantId a.actionType a.target
      (if a.executionStatus.getD "" == "" then "unknown" else a.executionStatus.getD "")) := by
    grind [NotificationService.alertActionExecuted]
  have hv := htouches.moves.of_ok halert .usageEvents (by decide)
  exact hv.1.trans hu.1

/-- An answered execution meters one action for the tenant of the case. -/
theorem executed_usage {invId : String} {i : Int} {row : InvestigationRow} {a : IncidentAction}
    (h : Reaches w e invId i row a) (hs : succeeds rt w e = true) :
    ∃ now, (step rt w e).db.usageEvents =
      (w.db.addUsage [actionEvent rt row.tenantId a.actionType now]).usageEvents := by
  obtain ⟨body, t', hok⟩ := (succeeds_iff rt w e).mp hs
  obtain ⟨ex, _, herr⟩ | ⟨r, p, _, htenant, ⟨t, hafter, hh⟩ | ⟨ex, t, _, herr⟩⟩ :=
    h.handled_cases rt
  · cases hok.symm.trans herr
  · have husage := afterExecution_usage hafter
    refine ⟨e.env.now (executedSession w e i row a r).ticks, ?_⟩
    rw [step_eq, hh, htenant]
    exact husage
  · cases hok.symm.trans herr

/-- An answered request is a completed run, an executed action, or meters nothing. -/
theorem answered_cases (hs : succeeds rt w e = true) :
    (∃ p orch as invs l u t, RunReaches rt w e p orch ∧
      SearchAllowed w.db p.tenantId (e.env.now 1) ∧ RunCompletes rt w e p orch as invs l u t) ∨
    (∃ invId i row a now, Reaches w e invId i row a ∧ (step rt w e).db.usageEvents =
      (w.db.addUsage [actionEvent rt row.tenantId a.actionType now]).usageEvents) ∨
    (.usageEvents ∉ writes e.request ∧ (step rt w e).db.usageEvents = w.db.usageEvents) := by
  by_cases hwrites : Resource.usageEvents ∈ writes e.request
  · obtain ⟨auth, he⟩ | ⟨auth, invId, i, he⟩ := usage_writes hwrites
    · exact Or.inl (completes_of_succeeds he hs)
    · obtain ⟨row, a, hreach⟩ | ⟨_, hfails, _⟩ := reaches_or rt (w := w) he
      · obtain ⟨now, husage⟩ := executed_usage hreach hs
        exact Or.inr (Or.inl ⟨invId, i, row, a, now, hreach, husage⟩)
      · rw [hfails] at hs
        cases hs
  · exact Or.inr (Or.inr ⟨hwrites, step_kept .usageEvents hwrites⟩)

/-- The usage events of a step are those of a completed run or of an executed action. -/
theorem step_usage (rt : Runtime) (w : World) (e : Event) :
    (∃ p orch as invs l u t, RunReaches rt w e p orch ∧
      SearchAllowed w.db p.tenantId (e.env.now 1) ∧ RunCompletes rt w e p orch as invs l u t) ∨
    (∃ tenantId actionType now, (step rt w e).db.usageEvents =
      (w.db.addUsage [actionEvent rt tenantId actionType now]).usageEvents) ∨
    (step rt w e).db.usageEvents = w.db.usageEvents := by
  by_cases hs : succeeds rt w e = true
  · obtain hrun | ⟨_, _, row, a, now, _, husage⟩ | ⟨_, hsame⟩ := answered_cases hs
    · exact Or.inl hrun
    · exact Or.inr (Or.inl ⟨row.tenantId, a.actionType, now, husage⟩)
    · exact Or.inr (Or.inr hsame)
  · right
    right
    by_cases hwrites : Resource.usageEvents ∈ writes e.request
    · have hcommitted : .committed ∉ footprint e.request := by
        intro hc
        obtain ⟨body, hlogin⟩ := committed_footprint hc
        rw [hlogin] at hwrites
        simp [writes] at hwrites
      obtain ⟨body, t, hok, _⟩ | ⟨_, hdb⟩ := step_db rt hcommitted
      · exact absurd ((succeeds_iff rt w e).mpr ⟨body, t, hok⟩) hs
      · exact congrArg Database.usageEvents hdb
    · exact step_kept .usageEvents hwrites

end

/-! ## Sums after a step -/

/-- A run's events count where they are selected. -/
theorem quantityOf_runEvents (db : Database) (rt : Runtime) (tenantId : String) (n : Int)
    (count : Nat) (searched triaged : Time) (p : UsageEventRow → Bool) :
    quantityOf (db.addUsage (Routes.runEvents rt tenantId n count searched triaged)) p =
      quantityOf db p +
      (if p (MeteringService.usageRow rt tenantId kindSearch n "detection run" searched) then n
        else 0) +
      (if p (MeteringService.usageRow rt tenantId kindModelCall count "triage" triaged) then
        (count : Int) else 0) := by
  have hsum (r : UsageEventRow) (rows : List UsageEventRow) :
      (((r :: rows).filter p).map UsageEventRow.quantity).sum =
        (if p r then r.quantity else 0) + ((rows.filter p).map UsageEventRow.quantity).sum := by
    rw [List.filter_cons]
    split <;> simp
  rw [quantityOf_addUsage, Routes.runEvents, hsum, ← add_assoc]
  congr 1
  cases count with
  | zero => simp
  | succ count =>
    rw [if_neg (Nat.succ_ne_zero count), hsum]
    simp [MeteringService.usageRow]

/-- An event counts for a tenant's kind if it is the tenant's and of that kind. -/
@[simp] theorem ofKind_usageRow (rt : Runtime) (tenantId tenantId' kind kind' : String)
    (quantity : Int) (detail : String) (now : Time) :
    ofKind tenantId kind (MeteringService.usageRow rt tenantId' kind' quantity detail now) =
      (tenantId' == tenantId && kind' == kind) := by
  simp [ofKind, MeteringService.usageRow]

@[simp] theorem usageRow_createdAt (rt : Runtime) (tenantId kind : String) (quantity : Int)
    (detail : String) (now : Time) :
    (MeteringService.usageRow rt tenantId kind quantity detail now).createdAt = now := by
  simp [MeteringService.usageRow]

/-! ## What the quota refuses -/

/-- A request that is refused before any work: it changes nothing, sends no search and asks
    for no completion. -/
structure TurnedAway (rt : Runtime) (w : World) (e : Event) (ex : Exc) : Prop where
  answered : ∃ t, respond rt w e = .error ex t
  unchanged : step rt w e = w
  searches : searchCalls rt w e = []
  completions : modelCalls rt w e = []

theorem turnedAway_of_handled {rt : Runtime} {w : World} {e : Event} {ex : Exc}
    (h : handled rt w e = .error ex w.session.ticked.ticked) : TurnedAway rt w e ex := by
  constructor
  · refine ⟨w.session.ticked.ticked, ?_⟩
    unfold handled at h
    unfold respond
    rw [EStateM.run_bind, h]
  · rw [step_eq, h]
    rfl
  · rw [searchCalls_eq, h]
    rfl
  · rw [modelCalls_eq, h]
    rfl

/-- An investigation run that the tenant's month has no searches left for is refused with
    status 429. -/
theorem RunReaches.turnedAway {rt : Runtime} {w : World} {e : Event} {p : Principal}
    {orch : Orchestrator} (h : RunReaches rt w e p orch)
    (hspent : ¬ SearchAllowed w.db p.tenantId (e.env.now 1)) :
    TurnedAway rt w e (quotaRefusal w.db p.tenantId (e.env.now 1)) := by
  obtain ⟨_, herr⟩ | ⟨hallowed, _⟩ := h.outcome
  · exact turnedAway_of_handled herr
  · exact absurd hallowed hspent

/-- A run that does not complete leaves the rows. -/
theorem RunReaches.completes_or {rt : Runtime} {w : World} {e : Event} {p : Principal}
    {orch : Orchestrator} (h : RunReaches rt w e p orch) :
    (∃ as invs l u t, RunCompletes rt w e p orch as invs l u t) ∨ (step rt w e).db = w.db := by
  obtain ⟨auth, he, _⟩ := h.admitted
  have hcommitted : .committed ∉ footprint e.request := by
    rw [he]
    simp [footprint]
  obtain ⟨hspent, _⟩ | ⟨_, hdone | ⟨ex, t, herr⟩⟩ := h.outcome
  · exact Or.inr (congrArg World.db (h.turnedAway hspent).unchanged)
  · exact Or.inl hdone
  · exact Or.inr (raised rt hcommitted herr).2

/-! ## Usage is never negative -/

/-- No usage event has a negative quantity. -/
def NonnegUsage (db : Database) : Prop :=
  ∀ r ∈ db.usageEvents.rows, 0 ≤ r.2.quantity

theorem nonnegUsage_addUsage {db : Database} (h : NonnegUsage db) {rows : List UsageEventRow}
    (hrows : ∀ r ∈ rows, 0 ≤ r.quantity) : NonnegUsage (db.addUsage rows) := by
  induction rows generalizing db with
  | nil => exact h
  | cons r rows ih =>
    have hins : NonnegUsage (db.addUsage [r]) := by
      intro r' hr'
      obtain hold | hnew := List.mem_append.mp hr'
      · exact h r' hold
      · rw [List.mem_singleton.mp hnew]
        exact hrows r List.mem_cons_self
    exact ih hins fun r' hr' => hrows r' (List.mem_cons_of_mem r hr')

theorem nonnegUsage_congr {db db' : Database} (h : NonnegUsage db)
    (hsame : db'.usageEvents = db.usageEvents) : NonnegUsage db' := by
  unfold NonnegUsage
  rw [hsame]
  exact h

theorem nonneg_runEvents (rt : Runtime) (db : Database) (tenantId : String) (count : Nat)
    (searched triaged : Time) : ∀ r ∈ Routes.runEvents rt tenantId (wanted db tenantId) count
      searched triaged, 0 ≤ r.quantity := by
  intro r hr
  obtain rfl | hmodel := List.mem_cons.mp hr
  · exact Int.natCast_nonneg _
  · split at hmodel
    · cases hmodel
    · rw [List.mem_singleton.mp hmodel]
      exact Int.natCast_nonneg _

theorem nonnegUsage_step (rt : Runtime) {w : World} (h : NonnegUsage w.db) (e : Event) :
    NonnegUsage (step rt w e).db := by
  obtain ⟨p, orch, as, invs, l, u, t, _, _, hdone⟩ | ⟨tenantId, actionType, now, husage⟩ | hsame :=
    step_usage rt w e
  · obtain ⟨i, j, husage⟩ := hdone.usage
    exact nonnegUsage_congr (nonnegUsage_addUsage h (nonneg_runEvents rt w.db _ _ _ _)) husage
  · refine nonnegUsage_congr (nonnegUsage_addUsage h fun r hr => ?_) husage
    rw [List.mem_singleton.mp hr]
    exact Int.zero_le_ofNat 1
  · exact nonnegUsage_congr h hsame

theorem nonnegUsage_run (rt : Runtime) {w : World} (h : NonnegUsage w.db) (es : List Event) :
    NonnegUsage (run rt w es).db := by
  induction es generalizing w with
  | nil => exact h
  | cons e es ih => exact ih (nonnegUsage_step rt h e)

/-- A smaller selection counts for no more. -/
theorem quantityOf_mono {db : Database} (h : NonnegUsage db) {p q : UsageEventRow → Bool}
    (hpq : ∀ r, p r = true → q r = true) : quantityOf db p ≤ quantityOf db q := by
  have hsub : db.usageEvents.select p = (db.usageEvents.select q).filter p := by
    unfold AutoTable.select
    rw [List.filter_filter]
    refine List.filter_congr fun r _ => ?_
    by_cases hp : p r <;> simp [hp, hpq r]
  unfold quantityOf
  rw [hsub]
  have hnonneg : ∀ r ∈ db.usageEvents.select q, 0 ≤ r.quantity := by
    intro r hr
    obtain ⟨r', hr', rfl⟩ := List.mem_map.mp (List.mem_of_mem_filter hr)
    exact h r' hr'
  refine List.Sublist.sum_le_sum (List.filter_sublist.map _) fun n hn => ?_
  obtain ⟨r, hr, rfl⟩ := List.mem_map.mp hn
  exact hnonneg r hr

end SentinelAI
