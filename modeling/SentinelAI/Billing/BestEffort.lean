import SentinelAI.Security.ExternalEffects
import SentinelAI.Security.Refusals

/-
  Metering that raises.

  `metering.py` asks the callers of `record` to wrap it, "so a metering failure can't fail an
  investigation"; `run_investigations` and `execute_action` call it unwrapped. `Metered` holds
  the two routes with a record call that may raise at each place they meter. A call that is
  reached and raises turns the answer into a 500 and rolls the request back.
-/

namespace SentinelAI

open Lib

/-- What the record calls raise: exceptions of the store, no answers. -/
structure MeteringFaults where
  search : Option Exc := none
  modelCall : Option Exc := none
  action : Option Exc := none
  own : ∀ ex, search = some ex ∨ modelCall = some ex ∨ action = some ex → ¬ Refusal ex

/-- Every record call succeeds. -/
def MeteringFaults.none : MeteringFaults where
  own := by simp

/-- What the client gets for a request. -/
inductive Response where
  | body (b : Body)
  | refused (status : Nat) (detail : ErrorDetail)
  | serverError

/-- FastAPI answers an exception that is no `HTTPException` with a 500. -/
def Exc.response : Exc → Response
  | .http status detail => .refused status detail
  | _ => .serverError

def responseOf : EStateM.Result Exc Session Body → Response
  | .ok b _ => .body b
  | .error ex _ => ex.response

/-! ## The routes with faults -/

namespace Metered

variable (f : MeteringFaults) (rt : Runtime) (env : Env)

/-- The model calls' part of the metering in `run_investigations`. -/
def meterModelCalls (tenantId : String) (investigations : List Investigation) : ApiM Unit := do
  if !investigations.isEmpty then
    raiseFault f.modelCall
    let _ ← MeteringService.record rt env tenantId kindModelCall (investigations.length : Int)
      "triage"

/-- `run_investigations` once the pipeline has returned. -/
def afterPipeline (principal : Principal) (enabledRuleCount : Int)
    (investigations : List Investigation) : ApiM Routes.InvestigationList := do
  raiseFault f.search
  let _ ← MeteringService.record rt env principal.tenantId kindSearch enabledRuleCount "detection run"
  meterModelCalls f rt env principal.tenantId investigations
  investigations.forM (Routes.saveInvestigation rt env principal)
  Routes.refreshIncidents rt env principal

/-- The body of `run_investigations`, its dependencies resolved. -/
def runInvestigationsFor (principal : Principal) (orch : Orchestrator) :
    ApiM Routes.InvestigationList := do
  let disabled ← RuleStateRepository.disabledRuleIds principal.tenantId
  let enabledRuleCount : Int := (defaultRules.countP fun r => !disabled.contains r.ruleId : Nat)
  let tenant ← TenantRepository.get principal.tenantId
  let plan := (tenant.map TenantRow.plan).getD "free"
  Routes.checkSearchQuota env principal.tenantId plan enabledRuleCount
  let investigations ← orch.runFullPipeline rt env disabled
  afterPipeline f rt env principal enabledRuleCount investigations

def runInvestigations (auth : Authorization) : ApiM Routes.InvestigationList := do
  let principal ← Deps.require env auth .investigationRun
  let orch ← Deps.getTenantOrchestrator rt principal
  runInvestigationsFor f rt env principal orch

def executeAction (auth : Authorization) (invId : String) (i : Int) : ApiM Investigation :=
  Faulty.executeAction { metering := f.action } rt env auth invId i

/-- Every request; the others meter nothing. -/
def handle : Request → ApiM Body
  | .runInvestigations auth => .investigations <$> runInvestigations f rt env auth
  | .case auth invId (.execute i) => .investigation <$> executeAction f rt env auth invId i
  | q => SentinelAI.handle rt env q

/-- The request in its own session, with `get_session`'s commit on success. -/
def respond (w : World) (e : Event) : EStateM.Result Exc Session Body :=
  (do
    let body ← handle f rt e.env e.request
    commit
    return body : ApiM Body).run w.session

/-- Without faults it is the service's own request. -/
theorem handle_none (q : Request) : handle .none rt env q = SentinelAI.handle rt env q := by
  cases q with
  | case auth invId r => cases r <;> rfl
  | _ => rfl

end Metered

/-- The rows agree in all tables but `usage_events`. -/
def SameButUsage (db db' : Database) : Prop := { db with usageEvents := db'.usageEvents } = db'

/-- The faults do not show: the answer is the one without them, and so are the committed rows
    of all tables but `usage_events`. -/
structure BestEffort (f : MeteringFaults) (rt : Runtime) (w : World) (e : Event) : Prop where
  response : responseOf (Metered.respond f rt w e) = responseOf (respond rt w e)
  rows : SameButUsage (stateOf (Metered.respond f rt w e)).committed
    (stateOf (respond rt w e)).committed

/-- A record call that a run with these investigations makes raises. -/
def MeteringFaults.HitsRun (f : MeteringFaults) (invs : List Investigation) : Prop :=
  f.search ≠ .none ∨ invs ≠ [] ∧ f.modelCall ≠ .none

/-- A record call that raises breaks a request that would have been answered. -/
inductive Breaks (f : MeteringFaults) (rt : Runtime) (w : World) (e : Event) : Prop
  /-- An investigation run that the quota lets through, whose pipeline returns, and whose
      investigations and incidents could be stored and announced. -/
  | run {p : Principal} {orch : Orchestrator} {invs : List Investigation}
      {l : Routes.InvestigationList} {u t : Session} (hreach : RunReaches rt w e p orch)
      (hallowed : SearchAllowed w.db p.tenantId (e.env.now 1))
      (hpipe : (orch.runFullPipeline rt e.env (disabledAt w.db p.tenantId)).run
        w.session.ticked.ticked = .ok invs u)
      (hraise : f.HitsRun invs)
      (hstore : (Routes.afterPipeline rt e.env p (wanted w.db p.tenantId) invs).run u = .ok l t)
  /-- The execution of an approved action that its connector answers and every channel
      takes. -/
  | execute {auth : Authorization} {p : Principal} {invId : String} {i : Int}
      {row : InvestigationRow} {a : IncidentAction} {r : ExecutionResult}
      (he : e.request = .case auth invId (.execute i))
      (hp : Admitted w.db w.issued (e.env.now 0) auth .actionApprove p)
      (hrow : ownRow w.db p.tenantId invId = some row) (ha : executableAction i row = .ok a)
      (hr : executorResult e.env.connectors a.actionType a.target = .ok r)
      (hraise : f.action ≠ none) (hnote : Announced e.env (executionNote row a r))

/-! ## Comparing two runs -/

theorem response_of_own {ex : Exc} (h : ¬ Refusal ex) : ex.response = .serverError := by
  cases ex with
  | http status detail => exact absurd trivial h
  | _ => rfl

section

variable {f : MeteringFaults} {rt : Runtime} {w : World} {e : Event}

theorem sameButUsage_refl (db : Database) : SameButUsage db db := rfl

/-- Handlers that run alike. -/
theorem bestEffort_of_run_eq (h : (Metered.handle f rt e.env e.request).run w.session =
    handled rt w e) : BestEffort f rt w e := by
  have hresp : Metered.respond f rt w e = respond rt w e := by
    show ((Metered.handle f rt e.env e.request) >>= fun body => do
      commit
      return body : ApiM Body).run w.session = _
    rw [EStateM.run_bind, h]
    exact (EStateM.run_bind ..).symm
  constructor
  · rw [hresp]
  · rw [hresp]
    exact sameButUsage_refl _

/-- Handlers that both raise an exception no client sees, having committed the same. -/
theorem bestEffort_of_raises {ex ex' : Exc} {t t' : Session}
    (hf : (Metered.handle f rt e.env e.request).run w.session = .error ex t)
    (h : handled rt w e = .error ex' t') (hex : ¬ Refusal ex) (hex' : ¬ Refusal ex')
    (hcommitted : t.committed = t'.committed) : BestEffort f rt w e := by
  have hfaulty : Metered.respond f rt w e = .error ex t := run_bind_error hf
  have hplain : respond rt w e = .error ex' t' := run_bind_error h
  constructor
  · rw [hfaulty, hplain]
    exact (response_of_own hex).trans (response_of_own hex').symm
  · rw [hfaulty, hplain]
    show SameButUsage t.committed t'.committed
    rw [hcommitted]
    exact sameButUsage_refl _

/-- A handler that raises where the other returns. -/
theorem not_bestEffort {ex : Exc} {t t' : Session} {b : Body}
    (hf : (Metered.handle f rt e.env e.request).run w.session = .error ex t)
    (h : handled rt w e = .ok b t') : ¬ BestEffort f rt w e := by
  intro hbest
  have hfaulty : Metered.respond f rt w e = .error ex t := run_bind_error hf
  have hplain : respond rt w e = .ok b { t' with committed := t'.db } := run_bind_ok h
  have hresponse := hbest.response
  rw [hfaulty, hplain] at hresponse
  cases ex <;> cases hresponse

end

/-! ## Investigation runs -/

section

variable {f : MeteringFaults} {rt : Runtime} {w : World} {e : Event}

namespace Metered

/-- With no failing call on its way, what follows the pipeline is the service's own. -/
theorem afterPipeline_run_eq {env : Env} {p : Principal} {n : Int} {invs : List Investigation}
    (h : ¬ f.HitsRun invs) :
    afterPipeline f rt env p n invs = Routes.afterPipeline rt env p n invs := by
  have hsearch : f.search = .none := by
    by_contra hne
    exact h (Or.inl hne)
  have hmodel : meterModelCalls f rt env p.tenantId invs =
      Routes.meterModelCalls rt env p.tenantId invs := by
    unfold meterModelCalls Routes.meterModelCalls
    cases invs with
    | nil => rfl
    | cons inv invs =>
      have hcall : f.modelCall = .none := by
        by_contra hne
        exact h (Or.inr ⟨by simp, hne⟩)
      rw [hcall]
      rfl
  unfold afterPipeline Routes.afterPipeline
  rw [hsearch, hmodel]
  rfl

/-- A failing call ends the request with an exception of the store, nothing committed. -/
theorem afterPipeline_raises (rt : Runtime) (env : Env) (p : Principal) (n : Int)
    {invs : List Investigation} (h : f.HitsRun invs) (s : Session) :
    ∃ ex t, (afterPipeline f rt env p n invs).run s = .error ex t ∧ ¬ Refusal ex ∧
      t.committed = s.committed := by
  unfold afterPipeline
  cases hsearch : f.search with
  | some ex => exact ⟨ex, s, rfl, f.own ex (Or.inl hsearch), rfl⟩
  | none =>
    obtain hne | ⟨hinvs, hne⟩ := h
    · exact absurd hsearch hne
    obtain ⟨ex, hcall⟩ := Option.ne_none_iff_exists'.mp hne
    obtain ⟨row, u, hrecord, hu⟩ : ∃ row u, (MeteringService.record rt env p.tenantId kindSearch n
        "detection run").run s = .ok row u ∧ u.committed = s.committed := ⟨_, _, rfl, rfl⟩
    have hmeter : (meterModelCalls f rt env p.tenantId invs).run u = .error ex u := by
      unfold meterModelCalls
      cases invs with
      | nil => exact absurd rfl hinvs
      | cons inv invs =>
        rw [hcall]
        rfl
    have hpassed : (raiseFault (.none : Option Exc)).run s = .ok () s := rfl
    refine ⟨ex, u, ?_, f.own ex (Or.inr (Or.inl hcall)), hu⟩
    rw [run_bind_ok hpassed, run_bind_ok hrecord]
    exact run_bind_error hmeter

/-- The body of an investigation run with faults. -/
theorem runInvestigationsFor_run (env : Env) (p : Principal) (orch : Orchestrator) (s : Session) :
    (runInvestigationsFor f rt env p orch).run s =
      if SearchAllowed s.db p.tenantId (env.now s.ticks) then
        (orch.runFullPipeline rt env (disabledAt s.db p.tenantId) >>=
          afterPipeline f rt env p (wanted s.db p.tenantId)).run s.ticked
      else .error (quotaRefusal s.db p.tenantId (env.now s.ticks)) s.ticked :=
  Routes.quotaChecked_run rt env p orch (afterPipeline f rt env p) s

/-- An investigation run with faults gets as far as the one without. -/
theorem run_of_reaches {p : Principal} {orch : Orchestrator} (h : RunReaches rt w e p orch) :
    (handle f rt e.env e.request).run w.session =
      if SearchAllowed w.db p.tenantId (e.env.now 1) then
        (Body.investigations <$> (orch.runFullPipeline rt e.env (disabledAt w.db p.tenantId) >>=
          afterPipeline f rt e.env p (wanted w.db p.tenantId))).run w.session.ticked.ticked
      else .error (quotaRefusal w.db p.tenantId (e.env.now 1)) w.session.ticked.ticked := by
  obtain ⟨auth, he, hadm⟩ := h.admitted
  have hp : (Deps.require e.env auth .investigationRun).run w.session = .ok p w.session.ticked :=
    require_eq_ok.mpr ⟨hadm, rfl⟩
  have horch : (Deps.getTenantOrchestrator rt p).run w.session.ticked =
      .ok orch w.session.ticked := getTenantOrchestrator_eq_ok.mpr ⟨h.clients, rfl⟩
  have hbody : (runInvestigations f rt e.env auth).run w.session =
      if SearchAllowed w.db p.tenantId (e.env.now 1) then
        (orch.runFullPipeline rt e.env (disabledAt w.db p.tenantId) >>=
          afterPipeline f rt e.env p (wanted w.db p.tenantId)).run w.session.ticked.ticked
      else .error (quotaRefusal w.db p.tenantId (e.env.now 1)) w.session.ticked.ticked := by
    unfold runInvestigations
    rw [run_bind_ok hp, run_bind_ok horch]
    exact runInvestigationsFor_run e.env p orch w.session.ticked
  rw [he]
  show (Body.investigations <$> runInvestigations f rt e.env auth).run w.session = _
  rw [run_map, hbody]
  by_cases hallowed : SearchAllowed w.db p.tenantId (e.env.now 1)
  · rw [if_pos hallowed, if_pos hallowed, run_map]
  · rw [if_neg hallowed, if_neg hallowed]

/-- A run that gets nowhere is the service's own. -/
theorem run_of_not_reaches {auth : Authorization} (he : e.request = .runInvestigations auth)
    (h : ∀ p orch, ¬ RunReaches rt w e p orch) :
    (handle f rt e.env e.request).run w.session = handled rt w e := by
  unfold handled
  rw [he]
  show (Body.investigations <$> runInvestigations f rt e.env auth).run w.session =
    (Body.investigations <$> Routes.runInvestigations rt e.env auth).run w.session
  rw [run_map, run_map]
  have hsame : (runInvestigations f rt e.env auth).run w.session =
      (Routes.runInvestigations rt e.env auth).run w.session := by
    refine run_bind_congr fun p t hp => run_bind_congr fun orch u horch => ?_
    obtain ⟨hadm, rfl⟩ := require_eq_ok.mp hp
    obtain ⟨hclients, rfl⟩ := getTenantOrchestrator_eq_ok.mp horch
    exact absurd ⟨⟨auth, he, hadm⟩, hclients⟩ (h p orch)
  rw [hsame]

end Metered

/-- An investigation run breaks where one of its record calls raises and nothing else does. -/
theorem run_best_effort {auth : Authorization} (henv : NoRefusals e.env)
    (he : e.request = .runInvestigations auth) (h : ¬ Breaks f rt w e) : BestEffort f rt w e := by
  by_cases hreach : ∃ p orch, RunReaches rt w e p orch
  · obtain ⟨p, orch, hreach⟩ := hreach
    have hfaulty := Metered.run_of_reaches (f := f) hreach
    have hplain := hreach.handled_run
    by_cases hallowed : SearchAllowed w.db p.tenantId (e.env.now 1)
    · rw [if_pos hallowed, run_map, EStateM.run_bind] at hfaulty hplain
      cases hpipe : (orch.runFullPipeline rt e.env (disabledAt w.db p.tenantId)).run
          w.session.ticked.ticked with
      | error ex u =>
        rw [hpipe] at hfaulty hplain
        exact bestEffort_of_run_eq (hfaulty.trans hplain.symm)
      | ok invs u =>
        rw [hpipe] at hfaulty hplain
        dsimp only at hfaulty hplain
        by_cases hhit : f.HitsRun invs
        · obtain ⟨ex, t, hraised, hown, hcommitted⟩ := Metered.afterPipeline_raises rt e.env p
            (wanted w.db p.tenantId) hhit u
          rw [hraised] at hfaulty
          cases hstore : (Routes.afterPipeline rt e.env p (wanted w.db p.tenantId) invs).run u with
          | ok l t' => exact absurd (Breaks.run hreach hallowed hpipe hhit hstore) h
          | error ex' t' =>
            rw [hstore] at hplain
            have hown' := Routes.afterPipeline_avoids rt henv.channels p _ invs u ex' t' hstore
            have hkept := (Routes.afterPipeline_touches rt e.env p (wanted w.db p.tenantId)
              invs).same (p := .committed) (by decide) u
            rw [hstore] at hkept
            exact bestEffort_of_raises hfaulty hplain hown hown' (hcommitted.trans hkept.symm)
        · rw [Metered.afterPipeline_run_eq hhit] at hfaulty
          exact bestEffort_of_run_eq (hfaulty.trans hplain.symm)
    · rw [if_neg hallowed] at hfaulty hplain
      exact bestEffort_of_run_eq (hfaulty.trans hplain.symm)
  · refine bestEffort_of_run_eq (Metered.run_of_not_reaches he fun p orch hr => ?_)
    exact hreach ⟨p, orch, hr⟩

/-- A broken investigation run raises, and would have been answered. -/
theorem run_broken {p : Principal} {orch : Orchestrator} {invs : List Investigation}
    {l : Routes.InvestigationList} {u t : Session} (hreach : RunReaches rt w e p orch)
    (hallowed : SearchAllowed w.db p.tenantId (e.env.now 1))
    (hpipe : (orch.runFullPipeline rt e.env (disabledAt w.db p.tenantId)).run
      w.session.ticked.ticked = .ok invs u) (hhit : f.HitsRun invs)
    (hstore : (Routes.afterPipeline rt e.env p (wanted w.db p.tenantId) invs).run u = .ok l t) :
    ¬ BestEffort f rt w e := by
  have hfaulty := Metered.run_of_reaches (f := f) hreach
  have hplain := hreach.handled_run
  rw [if_pos hallowed, run_map, run_bind_ok hpipe] at hfaulty hplain
  obtain ⟨ex, t', hraised, _⟩ := Metered.afterPipeline_raises rt e.env p
    (wanted w.db p.tenantId) hhit u
  rw [hraised] at hfaulty
  rw [hstore] at hplain
  exact not_bestEffort hfaulty hplain

/-! ## Executions -/

namespace Metered

/-- The route's store is the service's own: it meters nothing. -/
theorem executeAction_eq (env : Env) (auth : Authorization) (invId : String) (i : Int) :
    executeAction f rt env auth invId i = (do
      let principal ← Deps.require env auth .actionApprove
      match ← InvestigationRepository.executeAction env principal.tenantId invId i with
      | .error e => throw (Routes.executeError e)
      | .ok inv =>
        let executed ← orRaise (.other "IndexError") (actionAt inv i)
        Faulty.afterExecution { metering := f.action } rt env principal invId i executed
        return inv) := rfl

variable {auth : Authorization} {invId : String} {i : Int}

/-- An execution whose action record succeeds is the service's own. -/
theorem execute_of_none (he : e.request = .case auth invId (.execute i)) (h : f.action = .none) :
    (handle f rt e.env e.request).run w.session = handled rt w e := by
  unfold handled
  rw [he]
  show (Body.investigation <$> executeAction f rt e.env auth invId i).run w.session = _
  unfold executeAction
  rw [h, Faulty.executeAction_none]
  rfl

/-- So is one that no connector answers. -/
theorem execute_of_unanswered (he : e.request = .case auth invId (.execute i))
    (h : ∀ p row a r, Admitted w.db w.issued (e.env.now 0) auth .actionApprove p →
      ownRow w.db p.tenantId invId = some row → executableAction i row = .ok a →
      executorResult e.env.connectors a.actionType a.target ≠ .ok r) :
    (handle f rt e.env e.request).run w.session = handled rt w e := by
  unfold handled
  rw [he]
  show (Body.investigation <$> executeAction f rt e.env auth invId i).run w.session =
    (Body.investigation <$> Routes.executeAction rt e.env auth invId i).run w.session
  have hsame : (executeAction f rt e.env auth invId i).run w.session =
      (Routes.executeAction rt e.env auth invId i).run w.session := by
    rw [executeAction_eq]
    refine run_bind_congr fun p t hp => run_bind_congr fun res u hres => ?_
    obtain ⟨hadm, rfl⟩ := require_eq_ok.mp hp
    cases res with
    | error ce => rfl
    | ok inv =>
      rw [InvestigationRepository.executeAction_run] at hres
      cases hrow : ownRow w.session.ticked.db p.tenantId invId with
      | none =>
        rw [hrow] at hres
        cases hres
      | some row =>
        cases ha : executableAction i row with
        | error ce =>
          simp only [hrow, ha] at hres
          cases hres
        | ok a =>
          cases hr : executorResult e.env.connectors a.actionType a.target with
          | error ex =>
            simp only [hrow, ha, hr] at hres
            cases hres
          | ok r => exact absurd hr (h p row a r hadm hrow ha)
  rw [run_map, run_map, hsame]

/-- An execution the connector answers, its action record raising. -/
theorem execute_raises (rt : Runtime) {p : Principal} {row : InvestigationRow} {a : IncidentAction}
    {r : ExecutionResult} {ex : Exc} (he : e.request = .case auth invId (.execute i))
    (hp : Admitted w.db w.issued (e.env.now 0) auth .actionApprove p)
    (hrow : ownRow w.db p.tenantId invId = some row) (ha : executableAction i row = .ok a)
    (hr : executorResult e.env.connectors a.actionType a.target = .ok r)
    (hraise : f.action = some ex) :
    ∃ t, (handle f rt e.env e.request).run w.session = .error ex t ∧ t.committed = w.db := by
  have hrun := Faulty.executeAction_run { metering := f.action } rt (s := w.session) hp hrow ha hr
  rw [he]
  show ∃ t, (Body.investigation <$> executeAction f rt e.env auth invId i).run w.session = _ ∧ _
  unfold executeAction
  rw [run_map, hrun, hraise]
  exact ⟨_, rfl, rfl⟩

end Metered

/-- An execution breaks where its record call raises and no channel does. -/
theorem execute_best_effort {auth : Authorization} {invId : String} {i : Int}
    (henv : NoRefusals e.env) (he : e.request = .case auth invId (.execute i))
    (h : ¬ Breaks f rt w e) : BestEffort f rt w e := by
  cases hraise : f.action with
  | none => exact bestEffort_of_run_eq (Metered.execute_of_none he hraise)
  | some ex =>
    by_cases hanswer : ∃ p row a r, Admitted w.db w.issued (e.env.now 0) auth .actionApprove p ∧
        ownRow w.db p.tenantId invId = some row ∧ executableAction i row = .ok a ∧
        executorResult e.env.connectors a.actionType a.target = .ok r
    · obtain ⟨p, row, a, r, hp, hrow, ha, hr⟩ := hanswer
      obtain ⟨t, hfaulty, hcommitted⟩ :=
        Metered.execute_raises rt he hp hrow ha hr hraise
      have hnote : ¬ Announced e.env (executionNote row a r) := fun hnote =>
        h (Breaks.execute he hp hrow ha hr (by simp [hraise]) hnote)
      have hreach : Reaches w e invId i row a := ⟨auth, p, he, hp, hrow, ha⟩
      obtain ⟨ex', hr', _⟩ | ⟨r', p', hr', hp', hafter⟩ := hreach.handled_cases rt
      · cases hr.symm.trans hr'
      cases hr.symm.trans hr'
      obtain ⟨t', hres, _⟩ | ⟨ex', t', hres, hplain⟩ := hafter
      · exact absurd ((afterExecution_returns_iff rt e.env p' invId i row a r _ hp').mp
          ⟨(), t', hres⟩) hnote
      · have hown := Routes.afterExecution_avoids rt henv p' invId i _ _ ex' t' hres
        have hkept := (Routes.afterExecution_touches (F := ([] : List Part)) rt e.env p' invId i
          (a.executedWith r)).same (p := .committed) (by decide) (executedSession w e i row a r)
        rw [hres] at hkept
        exact bestEffort_of_raises hfaulty hplain (f.own ex (Or.inr (Or.inr hraise))) hown
          (hcommitted.trans hkept.symm)
    · refine bestEffort_of_run_eq (Metered.execute_of_unanswered he ?_)
      intro p row a r hp hrow ha hr
      exact hanswer ⟨p, row, a, r, hp, hrow, ha, hr⟩

/-- A broken execution raises, and would have been answered. -/
theorem execute_broken {auth : Authorization} {p : Principal} {invId : String} {i : Int}
    {row : InvestigationRow} {a : IncidentAction} {r : ExecutionResult}
    (he : e.request = .case auth invId (.execute i))
    (hp : Admitted w.db w.issued (e.env.now 0) auth .actionApprove p)
    (hrow : ownRow w.db p.tenantId invId = some row) (ha : executableAction i row = .ok a)
    (hr : executorResult e.env.connectors a.actionType a.target = .ok r)
    (hraise : f.action ≠ none) (hnote : Announced e.env (executionNote row a r)) :
    ¬ BestEffort f rt w e := by
  obtain ⟨ex, hsome⟩ := Option.ne_none_iff_exists'.mp hraise
  obtain ⟨t, hfaulty, _⟩ := Metered.execute_raises rt he hp hrow ha hr hsome
  have hreach : Reaches w e invId i row a := ⟨auth, p, he, hp, hrow, ha⟩
  obtain ⟨_, ⟨_, _, _, hs, _⟩ | ⟨hno, _⟩⟩ := hreach.step rt
  · obtain ⟨b, t', hplain⟩ := (succeeds_iff rt w e).mp hs
    exact not_bestEffort hfaulty hplain
  · exact absurd hnote (hno r hr)

end

/-! ## Best effort -/

theorem Breaks.not_bestEffort {f : MeteringFaults} {rt : Runtime} {w : World} {e : Event}
    (h : Breaks f rt w e) : ¬ BestEffort f rt w e := by
  cases h with
  | run hreach hallowed hpipe hhit hstore => exact run_broken hreach hallowed hpipe hhit hstore
  | execute he hp hrow ha hr hraise hnote => exact execute_broken he hp hrow ha hr hraise hnote

/-- A request whose record calls may raise is answered, and stored outside `usage_events`, as
    it is when they succeed, exactly if none that raises is reached or something else that the
    request does raises anyway. -/
theorem best_effort_iff (f : MeteringFaults) (rt : Runtime) (w : World) (e : Event)
    (henv : NoRefusals e.env) : BestEffort f rt w e ↔ ¬ Breaks f rt w e := by
  constructor
  · exact fun hbest hbreaks => hbreaks.not_bestEffort hbest
  · intro h
    cases he : e.request with
    | runInvestigations auth => exact run_best_effort henv he h
    | case auth invId r =>
      cases r with
      | execute i => exact execute_best_effort henv he h
      | _ =>
        refine bestEffort_of_run_eq ?_
        unfold handled
        rw [he]
        rfl
    | _ =>
      refine bestEffort_of_run_eq ?_
      unfold handled
      rw [he]
      rfl

/-! ## A record call that raises -/

/-- The insert of an action's usage event fails. -/
def actionFault : MeteringFaults where
  action := some (.other "OperationalError")
  own ex h := by
    obtain h | h | h := h
    · cases h
    · cases h
    · cases h
      exact id

/-- The insert of a model call's usage event fails. -/
def modelCallFault : MeteringFaults where
  modelCall := some (.other "OperationalError")
  own ex h := by
    obtain h | h | h := h
    · cases h
    · cases h
      exact id
    · cases h

theorem noRefusals_execute : NoRefusals (executeOver [.capture]).env where
  search _ _ _ _ _ ex h := by
    cases h
    exact id
  complete _ _ _ _ ex h := by
    cases h
    exact id
  connectors := (noRefusals_admin (.read .missing .users)).connectors
  channels send hsend := by cases List.mem_singleton.mp hsend

theorem isolate_breaks :
    Breaks actionFault .plain (caseWorld [approvedAction]) (executeOver [.capture]) := by
  have hrow : ownRow (caseWorld [approvedAction]).db responderToken.principal.tenantId "INV-1" =
      some (openCase [approvedAction]) := by decide
  refine Breaks.execute (a := approvedAction) (r := isolated) rfl
    (caseWorld_admitted (r := .execute 0) (by decide)) hrow (by decide) rfl (by decide) ?_
  intro send hsend
  cases List.mem_singleton.mp hsend

/-- The execution of an approved action breaks with its own record call, and not with another. -/
theorem best_effort_iff_isolate :
    ¬ BestEffort actionFault .plain (caseWorld [approvedAction]) (executeOver [.capture]) ∧
      BestEffort modelCallFault .plain (caseWorld [approvedAction]) (executeOver [.capture]) := by
  constructor
  · intro h
    exact (best_effort_iff actionFault .plain (caseWorld [approvedAction]) (executeOver [.capture])
      noRefusals_execute).mp h isolate_breaks
  · refine (best_effort_iff modelCallFault .plain (caseWorld [approvedAction])
      (executeOver [.capture]) noRefusals_execute).mpr ?_
    rintro (⟨hreach, _, _, _, _⟩ | ⟨_, _, _, _, _, hraise, _⟩)
    · obtain ⟨auth, he, _⟩ := hreach.admitted
      cases he
    · exact hraise rfl

/-- The host is isolated, the insert of its usage event fails, and the request is answered with
    a 500. -/
theorem metering_breaks_execution :
    ¬ ∀ (f : MeteringFaults) (rt : Runtime) (w : World) (e : Event), NoRefusals e.env →
      ((∃ auth, e.request = .runInvestigations auth) ∨
        ∃ auth invId i, e.request = .case auth invId (.execute i)) →
      BestEffort f rt w e := by
  intro h
  exact isolate_breaks.not_bestEffort (h actionFault .plain (caseWorld [approvedAction])
    (executeOver [.capture]) noRefusals_execute (Or.inr ⟨_, _, _, rfl⟩))

end SentinelAI
