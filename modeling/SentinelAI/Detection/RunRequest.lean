import SentinelAI.Billing.Usage
import SentinelAI.Detection.Searches
import SentinelAI.Security.Admission

/-
  `/investigations/run` taken apart: the callers it gets to, the quota it checks, and what
  the pipeline behind the check does when it returns.

  Everything here is read off the world before the request and the answers of its
  environment: the tenant's credentials decide the clients, its rule states the rules, its
  plan and usage the quota, and Splunk's answers how many investigations there are.
-/

namespace SentinelAI

open Lib

/-! ## The pipeline -/

namespace TriageAgent

/-- However triage ends, it has asked the model once. -/
theorem triage_state (rt : Runtime) (env : Env) (model : AIModel) (d : Detection) (s : Session) :
    stateOf ((triage rt env model d).run s) =
      { s with completions := s.completions ++ [model] } := by
  let s' : Session := { s with completions := s.completions ++ [model] }
  have hcomplete : (model.complete env system (prompt d)).run s =
      (ofExcept (env.complete model s.completions.length system (prompt d))).run s' := rfl
  have hjson : ∃ r, (attempt (completeJson rt env model system (prompt d))).run s = .ok r s' := by
    rw [attempt_run]
    unfold completeJson
    rw [EStateM.run_bind, hcomplete, ofExcept_run]
    cases env.complete model s.completions.length system (prompt d) with
    | error e => exact ⟨_, rfl⟩
    | ok text =>
      dsimp only
      cases rt.jsonLoads text with
      | ok v => exact ⟨_, rfl⟩
      | error name => exact ⟨_, rfl⟩
  obtain ⟨r, hr⟩ := hjson
  unfold triage
  rw [run_bind_ok hr]
  cases r with
  | error e => cases e <;> rfl
  | ok v =>
    cases v with
    | obj data =>
      show stateOf ((ofExcept _).run s') = s'
      rw [ofExcept_run]
      cases verdictOf rt d data <;> rfl
    | _ => rfl

end TriageAgent

/-- The ids of the investigations a request creates, from its `k`-th uuid on. -/
def investigationIds (env : Env) (k n : Nat) : List String :=
  (List.range' k n).map fun i => shortId "INV-" (env.uuid4 i)

namespace Orchestrator

variable {rt : Runtime} {env : Env} {orch : Orchestrator} {disabled : List String}

/-- An investigation takes two completions and one uuid. -/
theorem investigate_ok {d : Detection} {s t : Session} {inv : Investigation}
    (h : (orch.investigate rt env d).run s = .ok inv t) :
    inv.id = shortId "INV-" (env.uuid4 s.uuids) ∧ t.uuids = s.uuids + 1 ∧
      t.completions = s.completions ++ [orch.model, orch.model] ∧ t.searches = s.searches := by
  unfold investigate at h
  dsimp only at h
  obtain ⟨verdict, u, htriage, h⟩ := run_bind_eq_ok.mp h
  have hu := congrArg stateOf htriage
  rw [TriageAgent.triage_state] at hu
  obtain ⟨summary, v, hsummary, h⟩ := run_bind_eq_ok.mp h
  have hv : v = { u with completions := u.completions ++ [orch.model] } := by
    obtain ⟨_, hv⟩ := ofExcept_eq_ok.mp hsummary
    exact hv
  cases h
  rw [hv, ← show _ = u from hu]
  exact ⟨rfl, rfl, by simp, rfl⟩

theorem mapM_investigate_ok {ds : List Detection} {s t : Session} {invs : List Investigation}
    (h : (ds.mapM (orch.investigate rt env)).run s = .ok invs t) :
    invs.map Investigation.id = investigationIds env s.uuids ds.length ∧
      t.completions = s.completions ++ List.replicate (2 * ds.length) orch.model ∧
      t.searches = s.searches := by
  induction ds generalizing s invs with
  | nil =>
    cases h
    exact ⟨rfl, by simp, rfl⟩
  | cons d ds ih =>
    obtain ⟨inv, u, invs', hinv, hrest, rfl⟩ := mapM_cons_eq_ok.mp h
    obtain ⟨hid, huuids, hcompletions, hsearches⟩ := investigate_ok hinv
    obtain ⟨hids, hcompletions', hsearches'⟩ := ih hrest
    refine ⟨?_, ?_, hsearches'.trans hsearches⟩
    · rw [List.map_cons, hid, hids, huuids]
      rfl
    · have hlen : 2 * (d :: ds).length = 2 + 2 * ds.length := by
        rw [List.length_cons]
        omega
      rw [hcompletions', hcompletions, hlen, List.replicate_add, List.append_assoc]
      rfl

/-- What a pipeline that returned has done, for the answers Splunk gave it. -/
structure Ran (env : Env) (orch : Orchestrator) (as : List RuleAnswer) (invs : List Investigation)
    (s t : Session) : Prop where
  count : invs.length = hits as
  ids : invs.map Investigation.id = investigationIds env (s.uuids + hits as) (hits as)
  searches : t.searches = s.searches ++ as.flatMap (RuleAnswer.calls orch.splunk)
  completions : t.completions = s.completions ++ List.replicate (2 * hits as) orch.model

theorem runFullPipeline_ok {s t : Session} {invs : List Investigation}
    (hb : s.breaker.openedAt = none)
    (h : (orch.runFullPipeline rt env disabled).run s = .ok invs t) :
    ∃ as, answers env orch.splunk s.searches.length (enabledRules disabled) = some as ∧
      Ran env orch as invs s t := by
  obtain ⟨ds, u, hds, h⟩ := run_bind_eq_ok.mp h
  obtain ⟨as, ds', u', has, hrun, hfound⟩ | ⟨_, ex, t', hrun⟩ :=
    DetectionAgent.run_run env orch.splunk disabled hb
  · have heq := hds.symm.trans hrun
    cases heq
    obtain ⟨hids, hcompletions, hsearches⟩ := mapM_investigate_ok h
    have hkept : u.completions = s.completions := by
      have hsame := (Orchestrator.runDetections_touches (F := [Resource.searches]) env orch
        disabled).same (p := .completions) (by decide) s
      rw [hds] at hsame
      exact hsame
    refine ⟨as, has, ?_, ?_, ?_, ?_⟩
    · have hlen := congrArg List.length hids
      simpa [investigationIds, hfound.found] using hlen
    · rw [hids, hfound.uuids, hfound.found]
    · rw [hsearches, hfound.searches]
    · rw [hcompletions, hkept, hfound.found]
  · cases hds.symm.trans hrun

end Orchestrator

/-! ## Callers and their clients -/

/-- The clients of a tenant's requests. -/
structure Resolves (rt : Runtime) (db : Database) (tenantId : String) (orch : Orchestrator) :
    Prop where
  splunk : resolveSplunkClient rt (db.tenantCredentials.find? tenantId) .managed = .ok orch.splunk
  model : resolveAiModel rt (db.tenantCredentials.find? tenantId) .managed = .ok orch.model

theorem getTenantOrchestrator_eq_ok {rt : Runtime} {p : Principal} {orch : Orchestrator}
    {s t : Session} : (Deps.getTenantOrchestrator rt p).run s = .ok orch t ↔
      Resolves rt s.db p.tenantId orch ∧ t = s := by
  have hrow : (CredentialRepository.getRow p.tenantId).run s =
      .ok (s.db.tenantCredentials.find? p.tenantId) s := rfl
  unfold Deps.getTenantOrchestrator
  rw [run_bind_ok hrow]
  simp only [run_bind_eq_ok, ofExcept_eq_ok]
  constructor
  · rintro ⟨splunk, _, ⟨hsplunk, rfl⟩, model, _, ⟨hmodel, rfl⟩, hret⟩
    cases hret
    exact ⟨⟨hsplunk, hmodel⟩, rfl⟩
  · rintro ⟨h, rfl⟩
    exact ⟨orch.splunk, t, ⟨h.splunk, rfl⟩, orch.model, t, ⟨h.model, rfl⟩, rfl⟩

theorem Resolves.unique {rt : Runtime} {db : Database} {tenantId : String}
    {orch orch' : Orchestrator} (h : Resolves rt db tenantId orch)
    (h' : Resolves rt db tenantId orch') : orch = orch' := by
  have hsplunk := Except.ok.inj (h.splunk.symm.trans h'.splunk)
  have hmodel := Except.ok.inj (h.model.symm.trans h'.model)
  cases orch
  cases orch'
  rw [Orchestrator.mk.injEq]
  exact ⟨hsplunk, hmodel⟩

theorem Admitted.unique {db : Database} {issued : List Token} {now : Time} {auth : Authorization}
    {perm perm' : Permission} {p p' : Principal} (h : Admitted db issued now auth perm p)
    (h' : Admitted db issued now auth perm' p') : p = p' := by
  obtain ⟨token, hid, rfl, _⟩ := h
  obtain ⟨token', hid', rfl, _⟩ := h'
  cases hid.bearer.symm.trans hid'.bearer
  rfl

/-- A request that needs a permission and the clients of the caller's tenant gets to its body
    with them, or raises without having changed anything. -/
theorem resolved_cases {α : Type} (rt : Runtime) (env : Env) (auth : Authorization)
    (perm : Permission) (k : Principal → Orchestrator → ApiM α) (s : Session) :
    (∃ p orch, Admitted s.db s.issued (env.now s.ticks) auth perm p ∧
      Resolves rt s.db p.tenantId orch ∧
      (do let p ← Deps.require env auth perm
          let orch ← Deps.getTenantOrchestrator rt p
          k p orch : ApiM α).run s = (k p orch).run s.ticked) ∨
    ((∀ p orch, Admitted s.db s.issued (env.now s.ticks) auth perm p →
        ¬ Resolves rt s.db p.tenantId orch) ∧
      ∃ ex t, (do let p ← Deps.require env auth perm
                  let orch ← Deps.getTenantOrchestrator rt p
                  k p orch : ApiM α).run s = .error ex t ∧ Outside ([] : List Resource) s t) := by
  have htouches := Deps.require_touches (F := ([] : List Resource)) env auth perm
  cases hp : (Deps.require env auth perm).run s with
  | error ex t =>
    refine Or.inr ⟨fun p orch hadm _ => ?_, ex, t, run_bind_error hp, htouches.moves.of_error hp⟩
    have hok := (require_eq_ok (t := s.ticked)).mpr ⟨hadm, rfl⟩
    cases hp.symm.trans hok
  | ok p t =>
    obtain ⟨hadm, rfl⟩ := require_eq_ok.mp hp
    have horch := Deps.getTenantOrchestrator_touches (F := ([] : List Resource)) rt p
    cases ho : (Deps.getTenantOrchestrator rt p).run s.ticked with
    | ok orch u =>
      obtain ⟨hres, rfl⟩ := getTenantOrchestrator_eq_ok.mp ho
      refine Or.inl ⟨p, orch, hadm, hres, ?_⟩
      rw [run_bind_ok hp, run_bind_ok ho]
    | error ex u =>
      have hstart := htouches.moves.of_ok hp
      refine Or.inr ⟨fun p' orch hadm' hres => ?_, ex, u, ?_, ?_⟩
      · obtain rfl := hadm.unique hadm'
        have hok := (getTenantOrchestrator_eq_ok (s := s.ticked)).mpr ⟨hres, rfl⟩
        cases ho.symm.trans hok
      · rw [run_bind_ok hp]
        exact run_bind_error ho
      · exact fun q hq => (hstart q hq).trans (horch.moves.of_error ho q hq)

/-- An investigation run of an admitted caller whose clients could be built. -/
structure RunReaches (rt : Runtime) (w : World) (e : Event) (p : Principal)
    (orch : Orchestrator) : Prop where
  admitted : ∃ auth, e.request = .runInvestigations auth ∧
    Admitted w.db w.issued (e.env.now 0) auth .investigationRun p
  clients : Resolves rt w.db p.tenantId orch

/-- An investigation run gets to its body, or raises having done nothing. -/
theorem run_cases (rt : Runtime) {w : World} {e : Event} {auth : Authorization}
    (he : e.request = .runInvestigations auth) :
    (∃ p orch, RunReaches rt w e p orch ∧ handled rt w e =
      (Body.investigations <$> Routes.runInvestigationsFor rt e.env p orch).run w.session.ticked) ∨
    ((∀ p orch, ¬ RunReaches rt w e p orch) ∧
      ∃ ex t, handled rt w e = .error ex t ∧ Outside ([] : List Resource) w.session t) := by
  have hhandled : handled rt w e =
      (Body.investigations <$> Routes.runInvestigations rt e.env auth).run w.session :=
    handled_map he rfl
  rw [hhandled]
  obtain ⟨p, orch, hadm, hres, hrun⟩ | ⟨hnone, ex, t, hrun, hout⟩ := resolved_cases rt e.env auth
    .investigationRun (Routes.runInvestigationsFor rt e.env) w.session
  · refine Or.inl ⟨p, orch, ⟨⟨auth, he, hadm⟩, hres⟩, ?_⟩
    have hbody : (Routes.runInvestigations rt e.env auth).run w.session =
        (Routes.runInvestigationsFor rt e.env p orch).run w.session.ticked := hrun
    rw [run_map, run_map, hbody]
  · refine Or.inr ⟨fun p orch h => ?_, ex, t, run_bind_error hrun, hout⟩
    obtain ⟨⟨auth', he', hadm⟩, hres⟩ := h
    cases he.symm.trans he'
    exact hnone p orch hadm hres

/-! ## The quota check -/

/-- `disabled_rule_ids`. -/
def disabledAt (db : Database) (tenantId : String) : List String :=
  (db.ruleStates.select fun r => r.tenantId == tenantId && !r.enabled).map RuleStateRow.ruleId

/-- The plan in force. -/
def planAt (db : Database) (tenantId : String) : String :=
  ((db.tenants.find? tenantId).map TenantRow.plan).getD "free"

/-- The searches a run asks the quota for. -/
def wanted (db : Database) (tenantId : String) : Int :=
  ((enabledRules (disabledAt db tenantId)).length : Nat)

/-- The tenant's monthly searches suffice for a run. -/
def SearchAllowed (db : Database) (tenantId : String) (now : Time) : Prop :=
  QuotaService.limitOf (planAt db tenantId) kindSearch = unlimited ∨
    monthToDate db tenantId kindSearch now + wanted db tenantId ≤
      QuotaService.limitOf (planAt db tenantId) kindSearch

instance (db : Database) (tenantId : String) (now : Time) :
    Decidable (SearchAllowed db tenantId now) := inferInstanceAs (Decidable (_ ∨ _))

/-- The answer to a run the quota refuses. -/
def quotaRefusal (db : Database) (tenantId : String) (now : Time) : Exc :=
  .http 429 (.quotaExceeded kindSearch (monthToDate db tenantId kindSearch now)
    (QuotaService.limitOf (planAt db tenantId) kindSearch)
    "Monthly search quota exceeded. Upgrade plan to continue.")

namespace Routes

/-- The end of `run_investigations`: correlates what is stored and replaces the incidents. -/
def refreshIncidents (rt : Runtime) (env : Env) (principal : Principal) :
    ApiM InvestigationList := do
  let (items, total) ← InvestigationRepository.list principal.tenantId none none none 50 0
  let correlated ← correlate env items
  let incidents := correlated.map fun inc => { inc with riskScore := incidentRisk inc items }
  IncidentRepository.replaceAll env principal.tenantId incidents
  incidents.forM fun inc => do
    let _ ← NotificationService.maybeAlertHighRisk rt env principal.tenantId inc.title
      inc.severity.value inc.riskScore
  return { investigations := items, total := total, limit := items.length, offset := 0 }

/-- `run_investigations` once the pipeline has returned. -/
def afterPipeline (rt : Runtime) (env : Env) (principal : Principal) (enabledRuleCount : Int)
    (investigations : List Investigation) : ApiM InvestigationList := do
  let _ ← MeteringService.record rt env principal.tenantId kindSearch enabledRuleCount "detection run"
  meterModelCalls rt env principal.tenantId investigations
  investigations.forM (saveInvestigation rt env principal)
  refreshIncidents rt env principal

theorem checkSearchQuota_run (env : Env) (tenantId plan : String) (want : Int) (s : Session) :
    (checkSearchQuota env tenantId plan want).run s =
      if QuotaService.limitOf plan kindSearch = unlimited ∨
          monthToDate s.db tenantId kindSearch (env.now s.ticks) + want ≤
            QuotaService.limitOf plan kindSearch then .ok () s.ticked
      else .error (.http 429 (.quotaExceeded kindSearch
        (monthToDate s.db tenantId kindSearch (env.now s.ticks))
        (QuotaService.limitOf plan kindSearch)
        "Monthly search quota exceeded. Upgrade plan to continue.")) s.ticked := by
  have hcheck := QuotaService.checkOrRaise_run env tenantId plan kindSearch want s
  unfold checkSearchQuota
  rw [EStateM.run_bind, attempt_run]
  obtain ⟨st, hrun, hallowed⟩ | ⟨hrun, hne, hlt⟩ := hcheck
  · rw [hrun, if_pos hallowed]
    rfl
  · rw [hrun, if_neg (by omega)]
    rfl

/-- Behind the quota check: it refuses, or the pipeline runs and what follows it. -/
theorem quotaChecked_run {α : Type} (rt : Runtime) (env : Env) (p : Principal)
    (orch : Orchestrator) (k : Int → List Investigation → ApiM α) (s : Session) :
    (do
      let disabled ← RuleStateRepository.disabledRuleIds p.tenantId
      let enabledRuleCount : Int := (defaultRules.countP fun r => !disabled.contains r.ruleId : Nat)
      let tenant ← TenantRepository.get p.tenantId
      let plan := (tenant.map TenantRow.plan).getD "free"
      checkSearchQuota env p.tenantId plan enabledRuleCount
      let investigations ← orch.runFullPipeline rt env disabled
      k enabledRuleCount investigations : ApiM α).run s =
      if SearchAllowed s.db p.tenantId (env.now s.ticks) then
        (orch.runFullPipeline rt env (disabledAt s.db p.tenantId) >>=
          k (wanted s.db p.tenantId)).run s.ticked
      else .error (quotaRefusal s.db p.tenantId (env.now s.ticks)) s.ticked := by
  have hdisabled : (RuleStateRepository.disabledRuleIds p.tenantId).run s =
      .ok (disabledAt s.db p.tenantId) s := rfl
  have hcount : ((defaultRules.countP fun r => !(disabledAt s.db p.tenantId).contains r.ruleId : Nat)
      : Int) = wanted s.db p.tenantId := by
    rw [wanted, enabledRules, List.countP_eq_length_filter]
  have hquota : (checkSearchQuota env p.tenantId (planAt s.db p.tenantId)
      (wanted s.db p.tenantId)).run s =
      if SearchAllowed s.db p.tenantId (env.now s.ticks) then .ok () s.ticked
      else .error (quotaRefusal s.db p.tenantId (env.now s.ticks)) s.ticked :=
    checkSearchQuota_run env p.tenantId _ _ s
  rw [run_bind_ok hdisabled, run_bind_ok (tenantGet_run p.tenantId s)]
  dsimp only
  rw [hcount]
  by_cases hallowed : SearchAllowed s.db p.tenantId (env.now s.ticks)
  · rw [if_pos hallowed] at hquota ⊢
    exact run_bind_ok hquota
  · rw [if_neg hallowed] at hquota ⊢
    exact run_bind_error hquota

/-- The body of an investigation run: the quota refuses it, or the pipeline runs. -/
theorem runInvestigationsFor_run (rt : Runtime) (env : Env) (p : Principal) (orch : Orchestrator)
    (s : Session) :
    (runInvestigationsFor rt env p orch).run s =
      if SearchAllowed s.db p.tenantId (env.now s.ticks) then
        (orch.runFullPipeline rt env (disabledAt s.db p.tenantId) >>=
          afterPipeline rt env p (wanted s.db p.tenantId)).run s.ticked
      else .error (quotaRefusal s.db p.tenantId (env.now s.ticks)) s.ticked :=
  quotaChecked_run rt env p orch (afterPipeline rt env p) s

/-- Alerting changes no table. -/
theorem alertHighRisk_touches (rt : Runtime) (env : Env) (p : Principal)
    (incidents : List Incident) : Touches [Resource.captured] (incidents.forM fun inc => do
      let _ ← NotificationService.maybeAlertHighRisk rt env p.tenantId inc.title
        inc.severity.value inc.riskScore) := by
  refine Touches.forM (fun inc => ?_) incidents
  grind [NotificationService.maybeAlertHighRisk]

theorem refreshIncidents_touches (rt : Runtime) (env : Env) (p : Principal) :
    Touches [Resource.incidents, .captured] (refreshIncidents rt env p) := by
  unfold refreshIncidents
  refine (InvestigationRepository.list_touches ..).bind fun page => ?_
  refine (correlate_touches env _).bind fun correlated => ?_
  refine (IncidentRepository.replaceAll_touches env _ _).bind fun _ => ?_
  have halerts := (alertHighRisk_touches rt env p (correlated.map fun inc =>
    { inc with riskScore := incidentRisk inc page.1 })).mono
    (G := [Resource.incidents, .captured]) (by decide)
  exact halerts.bind fun _ => Touches.pure _

theorem afterPipeline_touches (rt : Runtime) (env : Env) (p : Principal) (n : Int)
    (invs : List Investigation) :
    Touches [Resource.usageEvents, .investigations, .auditLog, .incidents, .captured]
      (afterPipeline rt env p n invs) := by
  have hrefresh := (refreshIncidents_touches rt env p).mono
    (G := [Resource.usageEvents, .investigations, .auditLog, .incidents, .captured]) (by decide)
  refine (MeteringService.record_touches ..).bind fun _ => ?_
  refine (meterModelCalls_touches rt env _ _).bind fun _ => ?_
  exact (Touches.forM (fun inv => saveInvestigation_touches rt env p inv) invs).bind fun _ => hrefresh

/-- However an investigation run ends, it has asked the tenant's client only. -/
theorem runInvestigationsFor_sends (rt : Runtime) (env : Env) (p : Principal)
    (orch : Orchestrator) :
    Moves (Sends fun c => c.client = orch.splunk) (runInvestigationsFor rt env p orch) := by
  have hpipe (disabled : List String) : Moves (Sends fun c => c.client = orch.splunk)
      (orch.runFullPipeline rt env disabled) := by
    have hrun : Moves (Sends fun c => c.client = orch.splunk) (orch.runDetections env disabled) :=
      fun s => (DetectionAgent.run_sends env orch.splunk disabled s).mono fun c hc => hc.1
    refine hrun.bind fun ds => sends_of_touches (F := [Resource.completions]) ?_ (by decide)
    exact Touches.mapM (fun d => Orchestrator.investigate_touches rt env orch d) ds
  intro s
  rw [runInvestigationsFor_run]
  split
  · refine Moves.bind (hpipe _) (fun invs => ?_) s.ticked
    exact sends_of_touches (afterPipeline_touches rt env p _ invs) (by decide)
  · exact ⟨[], by simp [stateOf, Session.ticked], by simp⟩

/-- The usage events of a run that found `count` investigations. -/
def runEvents (rt : Runtime) (tenantId : String) (enabledRuleCount : Int) (count : Nat)
    (searched triaged : Time) : List UsageEventRow :=
  MeteringService.usageRow rt tenantId kindSearch enabledRuleCount "detection run" searched ::
    if count = 0 then []
    else [MeteringService.usageRow rt tenantId kindModelCall count "triage" triaged]

/-- What a completed run stores after the pipeline: its usage events, its investigations, and
    the incidents of all there are. -/
theorem afterPipeline_ok {rt : Runtime} {env : Env} {p : Principal} {n : Int}
    {invs : List Investigation} {s t : Session} {l : InvestigationList}
    (h : (afterPipeline rt env p n invs).run s = .ok l t) :
    ∃ u v k, u.db = s.db.addUsage
        (runEvents rt p.tenantId n invs.length (env.now s.ticks) (env.now k)) ∧
      (invs.forM (saveInvestigation rt env p)).run u = .ok () v ∧
      (refreshIncidents rt env p).run v = .ok l t ∧ t.db.usageEvents = u.db.usageEvents := by
  have hsearch := MeteringService.record_run rt env p.tenantId n "detection run"
    (show kindSearch ∈ validKinds by decide) s
  unfold afterPipeline at h
  rw [run_bind_ok hsearch] at h
  obtain ⟨_, u, hmodel, h⟩ := run_bind_eq_ok.mp h
  obtain ⟨_, v, hsave, hrefresh⟩ := run_bind_eq_ok.mp h
  have hkept := (refreshIncidents_touches rt env p).same (p := .usageEvents) (by decide) v
  have hsaved := (Touches.forM (F := [Resource.investigations, .auditLog]) (fun inv =>
    saveInvestigation_touches rt env p inv) invs).same (p := .usageEvents) (by decide) u
  rw [hrefresh] at hkept
  rw [hsave] at hsaved
  refine ⟨u, v, s.ticks + 1, ?_, hsave, hrefresh, hkept.1.trans hsaved.1⟩
  cases invs with
  | nil =>
    cases hmodel
    rfl
  | cons inv invs =>
    have hrecord := MeteringService.record_run rt env p.tenantId ((inv :: invs).length : Int)
      "triage" (show kindModelCall ∈ validKinds by decide)
      (MeteringService.recorded (MeteringService.usageRow rt p.tenantId kindSearch n
        "detection run" (env.now s.ticks)) s)
    have hmeter := (run_bind_ok hrecord).symm.trans hmodel
    cases hmeter
    rfl

end Routes

/-! ## The outcome of an investigation run -/

theorem Database.eq_of_kept {db db' : Database} (h : ∀ r, Resource.Kept db db' r) : db' = db := by
  cases db
  cases db'
  rw [Database.mk.injEq]
  exact ⟨h .tenants, h .users, h .investigations, h .caseNotes, h .ruleStates, h .incidents,
    h .auditLog, h .usageEvents, h .tenantCredentials, h .revokedTokens⟩

/-- What changes only the searches and completions of a session leaves its rows. -/
theorem db_eq_of_outside {s t : Session} (h : Outside [Resource.searches, .completions] s t) :
    t.db = s.db := by
  refine Database.eq_of_kept fun r => ?_
  cases r with
  | searches | completions | connectors | captured | tokens | committed => trivial
  | tenants => exact (h .tenants (by decide)).1
  | users => exact (h .users (by decide)).1
  | investigations => exact (h .investigations (by decide)).1
  | caseNotes => exact (h .caseNotes (by decide)).1
  | ruleStates => exact (h .ruleStates (by decide)).1
  | incidents => exact (h .incidents (by decide)).1
  | auditLog => exact (h .auditLog (by decide)).1
  | usageEvents => exact (h .usageEvents (by decide)).1
  | tenantCredentials => exact (h .tenantCredentials (by decide)).1
  | revokedTokens => exact (h .revokedTokens (by decide)).1

theorem Orchestrator.runFullPipeline_touches (rt : Runtime) (env : Env) (orch : Orchestrator)
    (disabled : List String) :
    Touches [Resource.searches, .completions] (orch.runFullPipeline rt env disabled) :=
  (Orchestrator.runDetections_touches env orch disabled).bind fun ds =>
    Touches.mapM (fun d => Orchestrator.investigate_touches rt env orch d) ds

/-- A completed investigation run, from Splunk's answers to the session it leaves. -/
structure RunCompletes (rt : Runtime) (w : World) (e : Event) (p : Principal)
    (orch : Orchestrator) (as : List RuleAnswer) (invs : List Investigation)
    (l : Routes.InvestigationList) (u t : Session) : Prop where
  answered : answers e.env orch.splunk 0 (enabledRules (disabledAt w.db p.tenantId)) = some as
  ran : Orchestrator.Ran e.env orch as invs w.session u
  rows : u.db = w.db
  stored : (Routes.afterPipeline rt e.env p (wanted w.db p.tenantId) invs).run u = .ok l t
  answer : handled rt w e = .ok (.investigations l) t

/-- The body of an investigation run: the quota check, then the pipeline. -/
theorem RunReaches.handled_run {rt : Runtime} {w : World} {e : Event} {p : Principal}
    {orch : Orchestrator} (h : RunReaches rt w e p orch) :
    handled rt w e =
      if SearchAllowed w.db p.tenantId (e.env.now 1) then
        (Body.investigations <$> (orch.runFullPipeline rt e.env (disabledAt w.db p.tenantId) >>=
          Routes.afterPipeline rt e.env p (wanted w.db p.tenantId))).run w.session.ticked.ticked
      else .error (quotaRefusal w.db p.tenantId (e.env.now 1)) w.session.ticked.ticked := by
  obtain ⟨auth, he, hadm⟩ := h.admitted
  obtain ⟨p', orch', hreach, hrun⟩ | ⟨hnone, _⟩ := run_cases rt he
  · obtain ⟨auth', he', hadm'⟩ := hreach.admitted
    cases he.symm.trans he'
    obtain rfl := hadm.unique hadm'
    obtain rfl := h.clients.unique hreach.clients
    have hbody : (Routes.runInvestigationsFor rt e.env p orch).run w.session.ticked =
        if SearchAllowed w.db p.tenantId (e.env.now 1) then
          (orch.runFullPipeline rt e.env (disabledAt w.db p.tenantId) >>=
            Routes.afterPipeline rt e.env p (wanted w.db p.tenantId)).run w.session.ticked.ticked
        else .error (quotaRefusal w.db p.tenantId (e.env.now 1)) w.session.ticked.ticked :=
      Routes.runInvestigationsFor_run rt e.env p orch w.session.ticked
    rw [hrun, run_map, hbody]
    by_cases hallowed : SearchAllowed w.db p.tenantId (e.env.now 1)
    · rw [if_pos hallowed, if_pos hallowed, run_map]
    · rw [if_neg hallowed, if_neg hallowed]
  · exact absurd h (hnone p orch)

/-- An investigation run is refused by the quota having done nothing; else it completes, or
    raises. -/
theorem RunReaches.outcome {rt : Runtime} {w : World} {e : Event} {p : Principal}
    {orch : Orchestrator} (h : RunReaches rt w e p orch) :
    (¬ SearchAllowed w.db p.tenantId (e.env.now 1) ∧
      handled rt w e =
        .error (quotaRefusal w.db p.tenantId (e.env.now 1)) w.session.ticked.ticked) ∨
    (SearchAllowed w.db p.tenantId (e.env.now 1) ∧
      ((∃ as invs l u t, RunCompletes rt w e p orch as invs l u t) ∨
        ∃ ex t, handled rt w e = .error ex t)) := by
  have hrun := h.handled_run
  by_cases hallowed : SearchAllowed w.db p.tenantId (e.env.now 1)
  · rw [if_pos hallowed, run_map, EStateM.run_bind] at hrun
    refine Or.inr ⟨hallowed, ?_⟩
    cases hpipe : (orch.runFullPipeline rt e.env (disabledAt w.db p.tenantId)).run
        w.session.ticked.ticked with
    | error ex u =>
      rw [hpipe] at hrun
      exact Or.inr ⟨ex, u, hrun⟩
    | ok invs u =>
      rw [hpipe] at hrun
      dsimp only at hrun
      cases hstore : (Routes.afterPipeline rt e.env p (wanted w.db p.tenantId) invs).run u with
      | error ex t =>
        rw [hstore] at hrun
        exact Or.inr ⟨ex, t, hrun⟩
      | ok l t =>
        rw [hstore] at hrun
        obtain ⟨as, has, hran⟩ := Orchestrator.runFullPipeline_ok rfl hpipe
        have htouched := (Orchestrator.runFullPipeline_touches rt e.env orch
          (disabledAt w.db p.tenantId)).moves.of_ok hpipe
        have hrows : u.db = w.db := db_eq_of_outside htouched
        exact Or.inl ⟨as, invs, l, u, t, has, ⟨hran.count, hran.ids, hran.searches,
          hran.completions⟩, hrows, hstore, hrun⟩
  · rw [if_neg hallowed] at hrun
    exact Or.inl ⟨hallowed, hrun⟩

/-- Let through and answered by Splunk, an investigation run has sent its searches, however it
    ends. -/
theorem RunReaches.searchCalls {rt : Runtime} {w : World} {e : Event} {p : Principal}
    {orch : Orchestrator} (h : RunReaches rt w e p orch)
    (hallowed : SearchAllowed w.db p.tenantId (e.env.now 1)) {as : List RuleAnswer}
    (has : answers e.env orch.splunk 0 (enabledRules (disabledAt w.db p.tenantId)) = some as) :
    searchCalls rt w e = as.flatMap (RuleAnswer.calls orch.splunk) := by
  obtain ⟨as', ds, u, has', hdet, hfound⟩ | ⟨hnone, _⟩ :=
    DetectionAgent.run_run e.env orch.splunk (disabledAt w.db p.tenantId)
      (s := w.session.ticked.ticked) rfl
  · cases has.symm.trans has'
    let rest : ApiM Body := Body.investigations <$> (ds.mapM (orch.investigate rt e.env) >>=
      Routes.afterPipeline rt e.env p (wanted w.db p.tenantId))
    have hrun : handled rt w e = rest.run u := by
      rw [h.handled_run, if_pos hallowed, run_map, run_map]
      unfold Orchestrator.runFullPipeline
      rw [bind_assoc]
      rw [run_bind_ok (show (orch.runDetections e.env (disabledAt w.db p.tenantId)).run
        w.session.ticked.ticked = .ok ds u from hdet)]
    have hrest : Touches [Resource.completions, .usageEvents, .investigations, .auditLog,
        .incidents, .captured] rest := by
      have hstored (invs : List Investigation) := (Routes.afterPipeline_touches rt e.env p
        (wanted w.db p.tenantId) invs).mono (G := [Resource.completions, .usageEvents,
          .investigations, .auditLog, .incidents, .captured]) (by decide)
      refine Touches.bind (Touches.bind (Touches.mapM (fun d => ?_) ds) hstored) fun l =>
        Touches.pure _
      exact Orchestrator.investigate_touches rt e.env orch d
    have hkept : (stateOf (rest.run u)).searches = u.searches :=
      hrest.same (p := .searches) (by decide) u
    rw [searchCalls_eq, hrun, hkept, hfound.searches]
    rfl
  · cases has.symm.trans hnone

/-- An answered investigation run was admitted, allowed by the quota, and has completed. -/
theorem completes_of_succeeds {rt : Runtime} {w : World} {e : Event} {auth : Authorization}
    (he : e.request = .runInvestigations auth) (hs : succeeds rt w e = true) :
    ∃ p orch as invs l u t, RunReaches rt w e p orch ∧
      SearchAllowed w.db p.tenantId (e.env.now 1) ∧ RunCompletes rt w e p orch as invs l u t := by
  obtain ⟨body, t', hok⟩ := (succeeds_iff rt w e).mp hs
  obtain ⟨p, orch, hreach, _⟩ | ⟨_, ex, t, herr, _⟩ := run_cases rt he
  · obtain ⟨_, herr⟩ | ⟨hallowed, ⟨as, invs, l, u, t, hdone⟩ | ⟨ex, t, herr⟩⟩ := hreach.outcome
    · cases hok.symm.trans herr
    · exact ⟨p, orch, as, invs, l, u, t, hreach, hallowed, hdone⟩
    · cases hok.symm.trans herr
  · cases hok.symm.trans herr

/-- An answered investigation run of an admitted caller is that caller's. -/
theorem completes_of_admitted {rt : Runtime} {w : World} {e : Event} {auth : Authorization}
    {p : Principal} (he : e.request = .runInvestigations auth)
    (hp : Admitted w.db w.issued (e.env.now 0) auth .investigationRun p)
    (hs : succeeds rt w e = true) :
    ∃ orch as invs l u t, RunReaches rt w e p orch ∧
      SearchAllowed w.db p.tenantId (e.env.now 1) ∧ RunCompletes rt w e p orch as invs l u t := by
  obtain ⟨p', orch, as, invs, l, u, t, hreach, hallowed, hdone⟩ := completes_of_succeeds he hs
  obtain ⟨auth', he', hp'⟩ := hreach.admitted
  cases he.symm.trans he'
  obtain rfl := hp.unique hp'
  exact ⟨orch, as, invs, l, u, t, hreach, hallowed, hdone⟩

/-- How many detections Splunk's answers make of the rules a tenant has enabled; none if the
    client cannot be built or a search settles on an error. -/
def detectionsFound (rt : Runtime) (db : Database) (env : Env) (tenantId : String) : Nat :=
  match resolveSplunkClient rt (db.tenantCredentials.find? tenantId) .managed with
  | .ok client => ((answers env client 0 (enabledRules (disabledAt db tenantId))).map hits).getD 0
  | .error _ => 0

theorem RunReaches.found {rt : Runtime} {w : World} {e : Event} {p : Principal}
    {orch : Orchestrator} (h : RunReaches rt w e p orch) {as : List RuleAnswer}
    (has : answers e.env orch.splunk 0 (enabledRules (disabledAt w.db p.tenantId)) = some as) :
    detectionsFound rt w.db e.env p.tenantId = hits as := by
  rw [detectionsFound, h.clients.splunk]
  dsimp only
  rw [has]
  rfl

namespace RunCompletes

variable {rt : Runtime} {w : World} {e : Event} {p : Principal} {orch : Orchestrator}
  {as : List RuleAnswer} {invs : List Investigation} {l : Routes.InvestigationList} {u t : Session}

theorem step_db (h : RunCompletes rt w e p orch as invs l u t) : (step rt w e).db = t.db := by
  rw [step_eq, h.answer]

theorem modelCalls (h : RunCompletes rt w e p orch as invs l u t) :
    modelCalls rt w e = List.replicate (2 * invs.length) orch.model := by
  have hkept := (Routes.afterPipeline_touches rt e.env p (wanted w.db p.tenantId) invs).same
    (p := .completions) (by decide) u
  rw [h.stored] at hkept
  have hcompletions : t.completions = u.completions := hkept
  rw [modelCalls_eq, h.answer, h.ran.count]
  exact hcompletions.trans h.ran.completions

/-- A completed run meters the searches it asked the quota for, and its investigations, at
    readings of its clock. -/
theorem usage (h : RunCompletes rt w e p orch as invs l u t) :
    ∃ i j, (step rt w e).db.usageEvents = (w.db.addUsage (Routes.runEvents rt p.tenantId
      (wanted w.db p.tenantId) invs.length (e.env.now i) (e.env.now j))).usageEvents := by
  obtain ⟨u', _, j, hdb, _, _, husage⟩ := Routes.afterPipeline_ok h.stored
  refine ⟨u.ticks, j, ?_⟩
  rw [h.step_db, husage, hdb, h.rows]

end RunCompletes

end SentinelAI
