import SentinelAI.Api.System
import SentinelAI.Security.Footprints

/-
  What each request may change: `writes` is the table over all resources (`handle_writes`),
  `footprint` the one over the five parts (`handle_touches`). The last section says what they
  mean for the world after the request.
-/

namespace SentinelAI

open Lib

variable {π : Type} [Follows π] {F : List π} {α : Type}

/-! ## Handlers -/

section

variable (rt : Runtime) (env : Env) (auth : Authorization)

theorem Routes.login_touches (body : Routes.LoginRequest) :
    Touches [Resource.tokens, .committed, .auditLog] (Routes.login rt env body) := by
  unfold Routes.login
  refine (selectOne_touches _).bind fun t => ?_
  cases t with
  | none => exact Touches.throw _
  | some tenant =>
    refine (raiseIf_touches ..).bind fun _ => ?_
    refine (UserRepository.authenticate_touches ..).bind fun u => ?_
    cases u with
    | none => grind
    | some user => grind

theorem Routes.logout_touches :
    Touches [Resource.revokedTokens, .auditLog] (Routes.logout rt env auth) := by
  unfold Routes.logout
  refine (Deps.getPrincipal_touches env auth).bind fun principal => ?_
  cases principal.jti with
  | none => grind
  | some jti => grind

theorem Routes.approveAction_touches (invId : String) (i : Int) :
    Touches [Resource.investigations, .auditLog] (Routes.approveAction rt env auth invId i) := by
  unfold Routes.approveAction
  refine (Deps.require_touches env auth _).bind fun principal => ?_
  refine (InvestigationRepository.approveAction_touches ..).bind fun inv => ?_
  grind

@[grind ←] theorem Routes.afterExecution_touches (principal : Principal) (invId : String)
    (i : Int) (a : IncidentAction) [Covers F .usageEvents] [Covers F .auditLog]
    [Covers F .captured] : Touches F (Routes.afterExecution rt env principal invId i a) := by
  grind [Routes.afterExecution, NotificationService.alertActionExecuted]

theorem Routes.executeAction_touches (invId : String) (i : Int) :
    Touches [Resource.investigations, .connectors, .usageEvents, .auditLog, .captured]
      (Routes.executeAction rt env auth invId i) := by
  unfold Routes.executeAction
  refine (Deps.require_touches env auth _).bind fun principal => ?_
  refine (InvestigationRepository.executeAction_touches ..).bind fun r => ?_
  cases r with
  | error e => exact Touches.throw _
  | ok inv => grind

theorem Routes.transitionStatus_touches (invId status : String) :
    Touches [Resource.investigations, .auditLog] (Routes.transitionStatus rt env auth invId status) := by
  unfold Routes.transitionStatus
  refine (Deps.require_touches env auth _).bind fun principal => ?_
  refine (CaseWorkflowMixin.transitionStatus_touches ..).bind fun r => ?_
  grind

theorem Routes.assignInvestigation_touches (invId : String) (assignee : Option String) :
    Touches [Resource.investigations, .auditLog]
      (Routes.assignInvestigation rt env auth invId assignee) := by
  unfold Routes.assignInvestigation
  refine (Deps.require_touches env auth _).bind fun principal => ?_
  refine (InvestigationRepository.setAssignee_touches ..).bind fun inv => ?_
  grind

theorem Routes.addNote_touches (invId body : String) :
    Touches [Resource.caseNotes, .auditLog] (Routes.addNote rt env auth invId body) := by
  grind [Routes.addNote]

theorem Routes.saveInvestigation_touches (principal : Principal) (inv : Investigation)
    [Covers F .investigations] [Covers F .auditLog] :
    Touches F (Routes.saveInvestigation rt env principal inv) := by
  grind [Routes.saveInvestigation]

end

/-! ### The pipeline -/

theorem retryLoop_touches {func : ApiM α} (env : Env) (d : ℚ) (p : Exc → Bool)
    (h : Touches F func) (k left : Nat) : Touches F (retryLoop env func d p k left) := by
  induction left generalizing k with
  | zero => grind [retryLoop]
  | succ left ih =>
    unfold retryLoop
    refine (attempt_touches h).bind fun r => ?_
    cases r with
    | ok a => grind
    | error e =>
      refine Touches.ite (Touches.throw e) ((breakerFailure_touches env).bind fun _ => ?_)
      exact (sleep_touches _).bind fun _ => ih (k + 1)

section

variable (rt : Runtime) (env : Env) (auth : Authorization)

theorem TriageAgent.triage_touches (model : AIModel) (d : Detection) [Covers F .completions] :
    Touches F (TriageAgent.triage rt env model d) := by
  grind [TriageAgent.triage, TriageAgent.completeJson]

theorem Orchestrator.investigate_touches (orch : Orchestrator) (d : Detection)
    [Covers F .completions] :
    Touches F (orch.investigate rt env d) := by
  unfold Orchestrator.investigate
  refine (TriageAgent.triage_touches rt env _ _).bind fun verdict => ?_
  grind

theorem DetectionAgent.runRule_touches (splunk : SplunkClient) (disabled : List String)
    (rule : DetectionRule) [Covers F .searches] :
    Touches F (DetectionAgent.runRule env splunk disabled rule) := by
  unfold DetectionAgent.runRule
  refine Touches.ite (Touches.pure none) (Touches.bind ?_ fun result => ?_)
  · refine (breakerIsOpen_touches env).bind fun b => Touches.ite (Touches.throw _) ?_
    exact retryLoop_touches env _ _ (SplunkClient.search_touches ..) _ _
  · grind [DetectionAgent.detectionOf]

theorem Orchestrator.runDetections_touches (orch : Orchestrator) (disabled : List String)
    [Covers F .searches] :
    Touches F (orch.runDetections env disabled) :=
  (Touches.mapM (fun rule => DetectionAgent.runRule_touches env orch.splunk disabled rule) _).bind fun _ =>
    Touches.pure _

theorem correlate_touches (investigations : List Investigation) :
    Touches F (correlate env investigations) := by
  unfold correlate
  refine (Touches.mapM (fun g => ?_) _).bind fun _ => Touches.pure _
  cases g.members with
  | nil => exact Touches.pure none
  | cons first rest => grind [incidentOf]

theorem Routes.checkSearchQuota_touches (tenantId plan : String) (want : Int) :
    Touches F (Routes.checkSearchQuota env tenantId plan want) := by
  grind [Routes.checkSearchQuota, QuotaService.checkOrRaise]

theorem Routes.meterModelCalls_touches (tenantId : String) (invs : List Investigation)
    [Covers F .usageEvents] :
    Touches F (Routes.meterModelCalls rt env tenantId invs) := by
  grind [Routes.meterModelCalls]

/-- An investigation whose gated actions all wait for approval. -/
def Investigation.Planned (inv : Investigation) : Prop :=
  ∀ a ∈ inv.actions, a.actionType ∈ gatedActions → a.requiresApproval = true

/-- Whatever the model answers, an investigation leaves the orchestrator planned. -/
theorem Orchestrator.investigate_planned (orch : Orchestrator) (d : Detection) :
    Yields Investigation.Planned (orch.investigate rt env d) := by
  refine Yields.bind_any fun verdict => Yields.bind_any fun summary => ?_
  refine Yields.bind_any fun uuid => Yields.bind_any fun now => Yields.pure ?_
  intro a ha hg
  exact ResponseAgent.plan_gated rt _ verdict ha hg

/-- The pipeline writes investigations where it stores them, each as it was planned; the
    rest of it stays within a footprint. -/
theorem Routes.runInvestigationsFor_moves {R : Session → Session → Prop} [IsPreorder Session R]
    [Covers F .searches] [Covers F .completions] [Covers F .usageEvents] [Covers F .incidents]
    [Covers F .captured] (hR : ∀ s t, Outside F s t → R s t) (principal : Principal)
    (orch : Orchestrator)
    (hsave : ∀ inv : Investigation, inv.Planned →
      Moves R (Routes.saveInvestigation rt env principal inv)) :
    Moves R (Routes.runInvestigationsFor rt env principal orch) := by
  have hbg : ∀ {β : Type} {m : ApiM β}, Touches F m → Moves R m := fun h s => hR _ _ (h.moves s)
  unfold Routes.runInvestigationsFor
  refine (hbg (RuleStateRepository.disabledRuleIds_touches _)).bind fun disabled => ?_
  refine (hbg (TenantRepository.get_touches _)).bind fun tenant => ?_
  refine (hbg (Routes.checkSearchQuota_touches env _ _ _)).bind fun _ => ?_
  refine Moves.bind_yields (hbg ?_) (Yields.bind_any fun detections =>
    Yields.mapM (Orchestrator.investigate_planned rt env orch) detections) fun invs hinvs => ?_
  · exact (Orchestrator.runDetections_touches env orch disabled).bind fun detections =>
      Touches.mapM (fun d => Orchestrator.investigate_touches rt env orch d) detections
  refine (hbg (MeteringService.record_touches ..)).bind fun _ => ?_
  refine (hbg (Routes.meterModelCalls_touches rt env _ _)).bind fun _ => ?_
  refine (Moves.forM_mem invs fun inv hinv => hsave inv (hinvs inv hinv)).bind fun _ => ?_
  refine (hbg (InvestigationRepository.list_touches ..)).bind fun page => ?_
  refine (hbg (correlate_touches env _)).bind fun correlated => ?_
  refine (hbg (IncidentRepository.replaceAll_touches env _ _)).bind fun _ => ?_
  refine hbg ((Touches.forM (fun inc => ?_) _).bind fun _ => Touches.pure _)
  grind [NotificationService.maybeAlertHighRisk]

theorem Routes.runInvestigationsFor_touches (principal : Principal) (orch : Orchestrator) :
    Touches [Resource.searches, .completions, .usageEvents, .investigations, .auditLog,
      .incidents, .captured] (Routes.runInvestigationsFor rt env principal orch) :=
  ⟨Routes.runInvestigationsFor_moves rt env (fun _ _ h => h) principal orch fun inv _ =>
    (Routes.saveInvestigation_touches rt env principal inv).moves⟩

/-! ### Administration -/

theorem AdminRoutes.createUser_touches (body : AdminRoutes.CreateUserRequest) :
    Touches [Resource.users, .auditLog] (AdminRoutes.createUser rt env auth body) := by
  unfold AdminRoutes.createUser
  refine (Deps.require_touches env auth _).bind fun principal => ?_
  refine (Deps.validateLength_touches ..).bind fun _ => ?_
  refine (Deps.validateLength_touches ..).bind fun _ => ?_
  refine (raiseIf_touches ..).bind fun _ => (selectOne_touches _).bind fun existing => ?_
  grind

theorem AdminRoutes.updateRole_touches (userId role : String) :
    Touches [Resource.users, .auditLog] (AdminRoutes.updateRole rt env auth userId role) := by
  unfold AdminRoutes.updateRole
  refine (Deps.require_touches env auth _).bind fun principal => ?_
  refine (raiseIf_touches ..).bind fun _ => ?_
  refine (UserRepository.update_touches ..).bind fun user => ?_
  grind

theorem AdminRoutes.linkIdentity_touches (userId externalId : String) :
    Touches [Resource.users, .auditLog] (AdminRoutes.linkIdentity rt env auth userId externalId) := by
  unfold AdminRoutes.linkIdentity
  refine (Deps.require_touches env auth _).bind fun principal => ?_
  refine (Deps.validateLength_touches ..).bind fun _ => ?_
  refine (UserRepository.update_touches ..).bind fun user => ?_
  grind

theorem AdminRoutes.deleteUser_touches (userId : String) :
    Touches [Resource.users, .auditLog] (AdminRoutes.deleteUser rt env auth userId) := by
  unfold AdminRoutes.deleteUser
  refine (Deps.require_touches env auth _).bind fun principal => ?_
  grind

theorem Routes.toggleRule_touches (ruleId : String) (enabled : Bool) :
    Touches [Resource.ruleStates, .auditLog] (Routes.toggleRule rt env auth ruleId enabled) := by
  grind [Routes.toggleRule]

theorem TenantRoutes.updateSettings_touches (settings : List (String × JsonValue)) :
    Touches [Resource.tenants, .auditLog] (TenantRoutes.updateSettings rt env auth settings) := by
  unfold TenantRoutes.updateSettings
  refine (Deps.require_touches env auth _).bind fun principal => ?_
  refine (TenantRepository.update_touches ..).bind fun tenant => ?_
  grind

@[grind ←] theorem TenantRoutes.checkChoice_touches (value : Option String)
    (valid : List String) (detail : String → String) :
    Touches F (TenantRoutes.checkChoice value valid detail) := by
  cases value <;> grind [TenantRoutes.checkChoice]

theorem TenantRoutes.updateCredentials_touches (body : UpdateCredentials) :
    Touches [Resource.tenantCredentials, .auditLog] (TenantRoutes.updateCredentials rt env auth body) := by
  unfold TenantRoutes.updateCredentials
  refine (Deps.require_touches env auth _).bind fun principal => ?_
  refine (TenantRoutes.checkChoice_touches ..).bind fun _ => ?_
  refine (TenantRoutes.checkChoice_touches ..).bind fun _ => ?_
  grind

/-! ### The provider plane -/

@[grind ←] theorem ProviderRoutes.customerTenants_touches :
    Touches F ProviderRoutes.customerTenants := by
  grind [ProviderRoutes.customerTenants, TenantRepository.list]

theorem ProviderRoutes.createTenant_touches (body : ProviderRoutes.CreateTenantRequest) :
    Touches [Resource.tenants, .users, .auditLog] (ProviderRoutes.createTenant rt env auth body) := by
  unfold ProviderRoutes.createTenant
  refine (Deps.requireProvider_touches env auth).bind fun principal => ?_
  refine (Deps.validateLength_touches ..).bind fun _ => ?_
  refine (Deps.validateLength_touches ..).bind fun _ => ?_
  refine (Deps.validateLength_touches ..).bind fun _ => ?_
  refine (raiseIf_touches ..).bind fun _ => (raiseIf_touches ..).bind fun _ => ?_
  refine (selectOne_touches _).bind fun existing => (raiseIf_touches ..).bind fun _ => ?_
  grind

theorem ProviderRoutes.afterTenantChange_touches (principal : Principal)
    (tenantId action : String) (detail : List (String × JsonValue)) (t : Option TenantRow)
    [Covers F .auditLog] :
    Touches F (ProviderRoutes.afterTenantChange rt env principal tenantId action detail t) := by
  grind [ProviderRoutes.afterTenantChange]

theorem ProviderRoutes.setTenantStatus_touches (tenantId status : String) :
    Touches [Resource.tenants, .auditLog] (ProviderRoutes.setTenantStatus rt env auth tenantId status) := by
  unfold ProviderRoutes.setTenantStatus
  refine (Deps.requireProvider_touches env auth).bind fun principal => ?_
  refine (raiseIf_touches ..).bind fun _ => (TenantRepository.update_touches ..).bind fun t => ?_
  exact ProviderRoutes.afterTenantChange_touches ..

theorem ProviderRoutes.setTenantPlan_touches (tenantId plan : String) :
    Touches [Resource.tenants, .auditLog] (ProviderRoutes.setTenantPlan rt env auth tenantId plan) := by
  unfold ProviderRoutes.setTenantPlan
  refine (Deps.requireProvider_touches env auth).bind fun principal => ?_
  refine (raiseIf_touches ..).bind fun _ => (TenantRepository.update_touches ..).bind fun t => ?_
  exact ProviderRoutes.afterTenantChange_touches ..

theorem ProviderRoutes.impersonate_touches (tenantId : String) :
    Touches [Resource.tokens, .auditLog] (ProviderRoutes.impersonate rt env auth tenantId) := by
  unfold ProviderRoutes.impersonate
  refine (Deps.requireProvider_touches env auth).bind fun principal => ?_
  refine (TenantRepository.get_touches _).bind fun t => (orRaise_touches _ _).bind fun tenant => ?_
  refine (UserRepository.list_touches _).bind fun members => ?_
  refine (orRaise_touches _ _).bind fun admin => ?_
  grind

theorem ProviderRoutes.listTenants_touches :
    Touches F (ProviderRoutes.listTenants env auth) := by
  grind [ProviderRoutes.listTenants]

theorem ProviderRoutes.listAllUsers_touches :
    Touches F (ProviderRoutes.listAllUsers env auth) := by
  grind [ProviderRoutes.listAllUsers]

theorem ProviderRoutes.usage_touches : Touches F (ProviderRoutes.usage env auth) := by
  grind [ProviderRoutes.usage]

end

/-! ## The tables -/

/-- The resources a request may change. -/
def writes : Request → List Resource
  | .login _ => [.tokens, .committed, .auditLog]
  | .logout _ => [.revokedTokens, .auditLog]
  | .search _ _ _ _ => [.searches]
  | .runDetections _ => [.searches]
  | .runInvestigations _ =>
    [.searches, .completions, .usageEvents, .investigations, .auditLog, .incidents, .captured]
  | .case _ _ (.execute _) => [.investigations, .connectors, .usageEvents, .auditLog, .captured]
  | .case _ _ (.note _) => [.caseNotes, .auditLog]
  | .case _ _ _ => [.investigations, .auditLog]
  | .admin _ (.toggleRule _ _) => [.ruleStates, .auditLog]
  | .admin _ (.updateSettings _) => [.tenants, .auditLog]
  | .admin _ (.updateCredentials _) => [.tenantCredentials, .auditLog]
  | .admin _ _ => [.users, .auditLog]
  | .provider _ (.createTenant _) => [.tenants, .users, .auditLog]
  | .provider _ (.setStatus _ _) => [.tenants, .auditLog]
  | .provider _ (.setPlan _ _) => [.tenants, .auditLog]
  | .provider _ (.impersonate _) => [.tokens, .auditLog]
  | .provider _ _ => []
  | .read _ _ => []

/-- The parts a request may change. -/
def footprint : Request → List Part
  | .login _ => [.tokens, .committed]
  | .runInvestigations _ => [.investigations]
  | .case _ _ (.execute _) => [.investigations, .connectors]
  | .case _ _ (.note _) => []
  | .case _ _ _ => [.investigations]
  | .admin _ (.createUser _) => [.users]
  | .admin _ (.updateRole _ _) => [.users]
  | .admin _ (.linkIdentity _ _) => [.users]
  | .admin _ (.deleteUser _) => [.users]
  | .provider _ (.createTenant _) => [.users]
  | .provider _ (.impersonate _) => [.tokens]
  | _ => []

/-- Only a login commits by itself. -/
theorem committed_footprint {q : Request} (h : .committed ∈ footprint q) :
    ∃ body, q = .login body := by
  cases q with
  | login body => exact ⟨body, rfl⟩
  | case auth invId r => cases r <;> simp [footprint] at h
  | admin auth r => cases r <;> simp [footprint] at h
  | provider auth r => cases r <;> simp [footprint] at h
  | _ => simp [footprint] at h

/-- Only an execution invokes a connector. -/
theorem connectors_footprint {q : Request} (h : .connectors ∈ footprint q) :
    ∃ auth invId i, q = .case auth invId (.execute i) := by
  cases q with
  | case auth invId r =>
    cases r with
    | execute i => exact ⟨auth, invId, i, rfl⟩
    | _ => simp [footprint] at h
  | admin auth r => cases r <;> simp [footprint] at h
  | provider auth r => cases r <;> simp [footprint] at h
  | _ => simp [footprint] at h

/-- Only a login and an impersonation sign a token. -/
theorem tokens_footprint {q : Request} (h : .tokens ∈ footprint q) :
    (∃ body, q = .login body) ∨ ∃ auth tenantId, q = .provider auth (.impersonate tenantId) := by
  cases q with
  | login body => exact Or.inl ⟨body, rfl⟩
  | provider auth r =>
    cases r with
    | impersonate tenantId => exact Or.inr ⟨auth, tenantId, rfl⟩
    | _ => simp [footprint] at h
  | case auth invId r => cases r <;> simp [footprint] at h
  | admin auth r => cases r <;> simp [footprint] at h
  | _ => simp [footprint] at h

/-- Only a run of the pipeline and the requests on a case but notes write investigations. -/
theorem investigations_footprint {q : Request} (h : .investigations ∈ footprint q) :
    (∃ auth, q = .runInvestigations auth) ∨
      ∃ auth invId r, q = .case auth invId r ∧ ∀ body, r ≠ .note body := by
  cases q with
  | runInvestigations auth => exact Or.inl ⟨auth, rfl⟩
  | case auth invId r =>
    refine Or.inr ⟨auth, invId, r, rfl, ?_⟩
    rintro body rfl
    simp [footprint] at h
  | admin auth r => cases r <;> simp [footprint] at h
  | provider auth r => cases r <;> simp [footprint] at h
  | _ => simp [footprint] at h

theorem committed_case {e : Event} {auth : Authorization} {invId : String} {r : CaseRequest}
    (he : e.request = .case auth invId r) : .committed ∉ footprint e.request := by
  intro h
  obtain ⟨body, hlogin⟩ := committed_footprint h
  rw [he] at hlogin
  cases hlogin

variable (rt : Runtime) (env : Env)

theorem handleRead_touches (auth : Authorization) (r : ReadRequest) :
    Touches F (handleRead rt env auth r) := by
  cases r with
  | investigations q => grind [handleRead, Routes.listInvestigations]
  | investigation invId => grind [handleRead, Routes.getInvestigation]
  | sla invId => grind [handleRead, Routes.getSla]
  | notes invId => grind [handleRead, Routes.listNotes, InvestigationRepository.listNotes]
  | rules => grind [handleRead, Routes.listRules]
  | mitreCoverage => grind [handleRead, Routes.mitreCoverage]
  | notifications => grind [handleRead, Routes.listNotifications]
  | incidents => grind [handleRead, Routes.listIncidents, IncidentRepository.list]
  | incident incidentId => grind [handleRead, Routes.getIncident, IncidentRepository.get]
  | audit limit offset =>
    have hentries (tenantId : String) (n k : Nat) : Touches F (AuditService.listEntries tenantId n k) := by
      grind [AuditService.listEntries]
    have hvalid (tenantId : String) : Touches F (AuditService.chainValid rt tenantId) := by
      grind [AuditService.chainValid]
    refine Touches.map _ ((Deps.require_touches env auth _).bind fun p => ?_)
    refine (Deps.validateRange_touches _ _ _ _).bind fun _ => ?_
    refine (Deps.validateRange_touches _ _ _ _).bind fun _ => ?_
    refine (bindOffset_touches offset).bind fun _ => (hentries _ _ _).bind fun entries => ?_
    exact (hvalid _).bind fun valid => Touches.pure _
  | users => grind [handleRead, AdminRoutes.listUsers]
  | settings => grind [handleRead, TenantRoutes.getSettings]
  | credentials => grind [handleRead, TenantRoutes.getCredentials]
  | usage => grind [handleRead, TenantRoutes.getUsage]
  | quota => grind [handleRead, TenantRoutes.getQuota]

/-- No request changes a resource outside its table entry. -/
theorem handle_writes (r : Request) : Touches (writes r) (handle rt env r) := by
  cases r with
  | login body => exact (Routes.login_touches rt env body).map _
  | logout auth => exact (Routes.logout_touches rt env auth).map _
  | search auth spl earliest latest =>
    show Touches [Resource.searches] _
    refine Touches.map _ ?_
    grind [Routes.search]
  | runDetections auth =>
    show Touches [Resource.searches] _
    refine Touches.map _ ((Deps.require_touches env auth _).bind fun principal => ?_)
    exact (Deps.getTenantOrchestrator_touches rt principal).bind fun orch =>
      Orchestrator.runDetections_touches env orch []
  | runInvestigations auth =>
    refine Touches.map _ ((Deps.require_touches env auth _).bind fun principal => ?_)
    exact (Deps.getTenantOrchestrator_touches rt principal).bind fun orch =>
      Routes.runInvestigationsFor_touches rt env principal orch
  | case auth invId r =>
    cases r with
    | approve i => exact (Routes.approveAction_touches rt env auth invId i).map _
    | execute i => exact (Routes.executeAction_touches rt env auth invId i).map _
    | status target => exact (Routes.transitionStatus_touches rt env auth invId target).map _
    | assign assignee => exact (Routes.assignInvestigation_touches rt env auth invId assignee).map _
    | note body => exact (Routes.addNote_touches rt env auth invId body).map _
  | admin auth r =>
    cases r with
    | createUser body => exact (AdminRoutes.createUser_touches rt env auth body).map _
    | updateRole userId role => exact (AdminRoutes.updateRole_touches rt env auth userId role).map _
    | linkIdentity userId externalId =>
      exact (AdminRoutes.linkIdentity_touches rt env auth userId externalId).map _
    | deleteUser userId => exact (AdminRoutes.deleteUser_touches rt env auth userId).map _
    | toggleRule ruleId enabled => exact (Routes.toggleRule_touches rt env auth ruleId enabled).map _
    | updateSettings settings => exact (TenantRoutes.updateSettings_touches rt env auth settings).map _
    | updateCredentials body => exact (TenantRoutes.updateCredentials_touches rt env auth body).map _
  | provider auth r =>
    cases r with
    | createTenant body => exact (ProviderRoutes.createTenant_touches rt env auth body).map _
    | setStatus tenantId status =>
      exact (ProviderRoutes.setTenantStatus_touches rt env auth tenantId status).map _
    | setPlan tenantId plan =>
      exact (ProviderRoutes.setTenantPlan_touches rt env auth tenantId plan).map _
    | impersonate tenantId => exact (ProviderRoutes.impersonate_touches rt env auth tenantId).map _
    | listTenants => exact (ProviderRoutes.listTenants_touches env auth).map _
    | listUsers => exact (ProviderRoutes.listAllUsers_touches env auth).map _
    | usage => exact (ProviderRoutes.usage_touches env auth).map _
  | read auth r => exact handleRead_touches rt env auth r

/-- The parts among the resources a request may change. -/
theorem covers_footprint (q : Request) : ∀ r ∈ writes q, Covers (footprint q) r := by
  refine fun r hr => ⟨fun p hp => ?_⟩
  rw [← hp] at hr
  replace hr : p.resource ∈ writes q := hr
  revert hr
  cases q with
  | case auth invId r => cases r <;> cases p <;> simp [writes, footprint, Part.resource]
  | admin auth r => cases r <;> cases p <;> simp [writes, footprint, Part.resource]
  | provider auth r => cases r <;> cases p <;> simp [writes, footprint, Part.resource]
  | _ => cases p <;> simp [writes, footprint, Part.resource]

/-- No request changes a part outside its footprint. -/
theorem handle_touches (r : Request) : Touches (footprint r) (handle rt env r) :=
  touches_of_resources (handle_writes rt env r) (covers_footprint r)

/-! ## The world after a request -/

/-- A request's handler in its own session. -/
def handled (w : World) (e : Event) : EStateM.Result Exc Session Body :=
  (handle rt e.env e.request).run (.start w.db w.captured w.issued)

/-- What a request leaves behind: its session's rows if it was answered, and what it had
    committed by itself if it raised. -/
theorem step_eq (w : World) (e : Event) :
    step rt w e = match handled rt w e with
      | .ok _ t => { db := t.db, issued := t.issued, captured := t.captured }
      | .error _ t => { db := t.committed, issued := t.issued, captured := t.captured } := by
  unfold step respond handled
  dsimp only
  rw [EStateM.run_bind]
  cases (handle rt e.env e.request).run (.start w.db w.captured w.issued) <;> rfl

theorem connectorCalls_eq (w : World) (e : Event) :
    connectorCalls rt w e = (stateOf (handled rt w e)).connectorCalls := by
  unfold connectorCalls respond handled
  rw [EStateM.run_bind]
  cases (handle rt e.env e.request).run (.start w.db w.captured w.issued) <;> rfl

theorem succeeds_iff (w : World) (e : Event) :
    succeeds rt w e = true ↔ ∃ body t, handled rt w e = .ok body t := by
  unfold succeeds respond handled
  rw [EStateM.run_bind]
  cases (handle rt e.env e.request).run (.start w.db w.captured w.issued) with
  | ok body t => exact iff_of_true rfl ⟨body, t, rfl⟩
  | error ex t => simp

variable {rt}

section

variable {α : Type} {f : α → Body} {m : ApiM α} {w : World} {e : Event} {q : Request}

/-- A request runs its route. -/
theorem handled_map (he : e.request = q) (hq : handle rt e.env q = f <$> m) :
    handled rt w e = (f <$> m).run w.session := by
  unfold handled
  rw [he, hq]

theorem handled_eq_ok (he : e.request = q) (hq : handle rt e.env q = f <$> m) {b : Body}
    {t : Session} :
    handled rt w e = .ok b t ↔ ∃ a, m.run w.session = .ok a t ∧ f a = b := by
  rw [handled_map he hq]
  exact run_map_eq_ok

theorem handled_eq_error (he : e.request = q) (hq : handle rt e.env q = f <$> m) {ex : Exc}
    {t : Session} : handled rt w e = .error ex t ↔ m.run w.session = .error ex t := by
  rw [handled_map he hq, run_map]
  cases m.run w.session <;> simp

end

theorem handled_same {w : World} {e : Event} {p : Part} (hp : p ∉ footprint e.request) :
    p.Same (.start w.db w.captured w.issued) (stateOf (handled rt w e)) :=
  (handle_touches rt e.env e.request).same hp _

/-- A table outside the footprint is as it was in the world. -/
theorem kept_after {τ : Type} {T : Database → τ} {w : World} {e : Event}
    (h : KeptTable T (.start w.db w.captured w.issued) (stateOf (handled rt w e))) :
    T (step rt w e).db = T w.db := by
  rw [step_eq]
  cases hr : handled rt w e with
  | ok body t =>
    rw [hr] at h
    exact h.1
  | error ex t =>
    rw [hr] at h
    exact h.2.elim id id

theorem step_users {w : World} {e : Event} (h : .users ∉ footprint e.request) :
    (step rt w e).db.users = w.db.users := kept_after (handled_same h)

theorem step_investigations {w : World} {e : Event} (h : .investigations ∉ footprint e.request) :
    (step rt w e).db.investigations = w.db.investigations := kept_after (handled_same h)

theorem step_issued {w : World} {e : Event} (h : .tokens ∉ footprint e.request) :
    (step rt w e).issued = w.issued := by
  have hs : (stateOf (handled rt w e)).issued = w.issued := handled_same (p := .tokens) h
  rw [step_eq]
  cases hr : handled rt w e <;> rwa [hr] at hs

/-- A request that commits nothing by itself leaves its session's rows if it was answered,
    and the world's if it raised. -/
theorem step_db (rt : Runtime) {w : World} {e : Event} (h : .committed ∉ footprint e.request) :
    (∃ body t, handled rt w e = .ok body t ∧ (step rt w e).db = t.db) ∨
      ((∃ ex t, handled rt w e = .error ex t) ∧ (step rt w e).db = w.db) := by
  have hs : (stateOf (handled rt w e)).committed = w.db := handled_same (p := .committed) h
  rw [step_eq]
  cases hr : handled rt w e with
  | ok body t => exact Or.inl ⟨body, t, rfl, rfl⟩
  | error ex t =>
    rw [hr] at hs
    exact Or.inr ⟨⟨ex, t, rfl⟩, hs⟩

/-! ### Resource by resource -/

theorem handled_kept {w : World} {e : Event} {r : Resource} (hr : r ∉ writes e.request) :
    r.Same (.start w.db w.captured w.issued) (stateOf (handled rt w e)) :=
  (handle_writes rt e.env e.request).same hr _

/-- A table a request does not write is as it was in the world. -/
theorem step_kept {w : World} {e : Event} (r : Resource) (hr : r ∉ writes e.request) :
    r.Kept w.db (step rt w e).db := by
  have h : r.Same w.session (stateOf (handled rt w e)) := handled_kept hr
  cases r with
  | searches | completions | connectors | captured | tokens | committed => trivial
  | _ => exact kept_after h

/-- Only executions invoke connectors. -/
theorem connectorCalls_eq_nil {w : World} {e : Event} (h : .connectors ∉ footprint e.request) :
    connectorCalls rt w e = [] := by
  rw [connectorCalls_eq]
  exact handled_same (p := .connectors) h

end SentinelAI
