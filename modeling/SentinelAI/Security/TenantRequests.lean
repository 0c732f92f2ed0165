import SentinelAI.Detection.ConcurrentRuns
import SentinelAI.Security.TenantView

/-
  The requests of a tenant. A request with the tenant's token, or a login at it, ends alike in
  worlds the tenant cannot tell apart, and is answered the same up to auto-increment ids
  (`handle_steady`): service by service, route by route, and then for whatever is dispatched.
-/

namespace SentinelAI

open Lib

/-- The keys a request draws are no keys of the rest. -/
structure FreshFor (env : Env) (v : Rest) : Prop where
  users : ∀ n, ∀ r ∈ v.rows.users, r.id ≠ env.uuid4 n
  caseNotes : ∀ n, ∀ r ∈ v.rows.caseNotes, r.id ≠ env.uuid4 n
  ruleStates : ∀ n, ∀ r ∈ v.rows.ruleStates, r.id ≠ env.uuid4 n
  investigations : ∀ n, ∀ r ∈ v.rows.investigations, r.id ≠ shortId "INV-" (env.uuid4 n)
  incidents : ∀ n, ∀ r ∈ v.rows.incidents, r.id ≠ shortId "INC-" (env.uuid4 n)

/-! ## Services -/

section

variable {rt : Runtime} {env : Env} {tenantId : String} {v v' : Rest}

theorem recordEntry_steady {e : AuditEntry} (h : e.tenantId = tenantId) :
    Steady tenantId v v' (AuditService.recordEntry rt env e) := by
  subst h
  refine Agree.bind_eq (agree_of_confined ?_ fun _ _ => AuditService.recordRow_confined rt env e) fun _ =>
    Agree.pure rfl
  grind [AuditService.recordRow]

theorem meter_steady (kind : String) (quantity : Int) (detail : String) :
    Steady tenantId v v' (MeteringService.record rt env tenantId kind quantity detail) := by
  refine agree_of_confined ?_ fun _ _ => MeteringService.record_confined rt env kind quantity detail
  grind [MeteringService.record]

theorem quotaStatus_steady (plan kind : String) (want : Int) :
    Steady tenantId v v' (QuotaService.status env tenantId plan kind want) := by
  refine agree_of_confined ?_ fun _ _ => QuotaService.status_confined env plan kind want
  grind [QuotaService.status, QuotaService.usedThisMonth]

theorem disabledRuleIds_steady : Steady tenantId v v' (RuleStateRepository.disabledRuleIds tenantId) := by
  refine agree_of_confined ?_ fun _ _ => RuleStateRepository.disabledRuleIds_confined
  grind [RuleStateRepository.disabledRuleIds]

theorem listCases_steady (status severity assignee : Option String) (limit offset : Nat) :
    Steady tenantId v v'
      (InvestigationRepository.list tenantId status severity assignee limit offset) := by
  refine agree_of_confined ?_ fun _ _ =>
    InvestigationRepository.list_confined status severity assignee limit offset
  grind [InvestigationRepository.list]

theorem tenant_steady : Steady tenantId v v' (TenantRepository.get tenantId) :=
  tenantGet_steady.mono fun _ _ h => h.1

theorem validateLength_steady (field : String) (lo hi : Nat) (value : String) :
    Steady tenantId v v' (Deps.validateLength field lo hi value) := raiseIf_steady _ _

theorem getTenantOrchestrator_steady {p : Principal} (h : p.tenantId = tenantId) :
    Steady tenantId v v' (Deps.getTenantOrchestrator rt p) := by
  subst h
  refine Agree.bind_eq ?_ fun row => ?_
  · refine agree_of_confined ?_ fun _ _ => CredentialRepository.getRow_confined.mono fun _ _ h => h.1
    grind [CredentialRepository.getRow]
  · refine Agree.bind_eq (ofExcept_steady _) fun splunk => ?_
    exact Agree.bind_eq (ofExcept_steady _) fun model => Agree.pure rfl

end

/-! ## Routes -/

section

variable {rt : Runtime} {env : Env} {tenantId : String} {v v' : Rest} {auth : Authorization}

namespace Routes

theorem logout_steady (h : AuthOf tenantId v v' auth) :
    Steady tenantId v v' (logout rt env auth) := by
  refine (getPrincipal_steady env h).bind ?_
  rintro p _ ⟨rfl, rfl, hjti⟩
  dsimp only
  cases hp : p.jti with
  | none => exact recordEntry_steady rfl
  | some jti =>
    exact Agree.bind_eq (revoke_steady env (hjti jti hp)) fun _ => recordEntry_steady rfl

theorem search_steady (h : AuthOf tenantId v v' auth) (spl earliest latest : String) :
    Steady tenantId v v' (search env auth spl earliest latest) := by
  refine require_steady h fun p _ => ?_
  refine Agree.bind_eq (attempt_steady (SentinelAI.search_steady env _ spl earliest latest)) fun o => ?_
  cases o with
  | ok result => exact Agree.pure rfl
  | error e =>
    cases e with
    | splunk e => exact Agree.throw _ _
    | _ => exact Agree.throw _ _

theorem runDetections_steady (h : AuthOf tenantId v v' auth) :
    Steady tenantId v v' (runDetections rt env auth) := by
  refine require_steady h fun p hp => ?_
  refine Agree.bind_eq (getTenantOrchestrator_steady hp) fun orch => ?_
  exact SentinelAI.runDetections_steady env orch []

theorem checkSearchQuota_steady (plan : String) (want : Int) :
    Steady tenantId v v' (checkSearchQuota env tenantId plan want) := by
  refine Agree.bind_eq (attempt_steady ?_) fun o => ?_
  · exact Agree.bind_eq (quotaStatus_steady plan kindSearch want) fun st =>
      Agree.bind_eq (raiseIf_steady _ _) fun _ => Agree.pure rfl
  · cases o with
    | ok st => exact Agree.pure rfl
    | error e =>
      cases e with
      | quota kind used limit => exact Agree.throw _ _
      | _ => exact Agree.throw _ _

theorem meterModelCalls_steady (invs : List Investigation) :
    Steady tenantId v v' (meterModelCalls rt env tenantId invs) :=
  Agree.ite (Agree.bind_eq (meter_steady _ _ _) fun _ => Agree.pure rfl) (Agree.pure rfl)

theorem saveInvestigation_steady {p : Principal} (h : p.tenantId = tenantId) {inv : Investigation}
    (hfree : KeyedTable.FreeKey v.rows.investigations v'.rows.investigations inv.id) :
    Steady tenantId v v' (saveInvestigation rt env p inv) := by
  subst h
  refine Agree.bind_eq ?_ fun _ => recordEntry_steady rfl
  refine agree_of_confined ?_ fun _ _ => InvestigationRepository.save_confined env inv hfree
  grind [InvestigationRepository.save]

end Routes

/-- The cases a pipeline builds have ids drawn in it. -/
theorem runFullPipeline_drawn (orch : Orchestrator) (disabled : List String) :
    Yields (fun invs => ∀ inv ∈ invs, ∃ n, inv.id = shortId "INV-" (env.uuid4 n))
      (orch.runFullPipeline rt env disabled) := by
  refine Yields.bind_any fun ds => Yields.mapM (fun d => ?_) ds
  refine Yields.bind_any fun verdict => Yields.bind_any fun summary => ?_
  refine Yields.bind (Q := fun uuid => ∃ n, uuid = env.uuid4 n) (fun s a t h => ?_) ?_
  · cases h
    exact ⟨s.uuids, rfl⟩
  · rintro uuid ⟨n, rfl⟩
    exact Yields.bind_any fun now => Yields.pure ⟨n, rfl⟩

/-- A step with the same result on both sides, of which something is known. -/
theorem agree_bind_yields {α β : Type} {Q : α → Prop} {Q' : β → β → Prop} {x : ApiM α}
    {f : α → ApiM β} (hx : Steady tenantId v v' x) (hq : Yields Q x)
    (hf : ∀ a, Q a → Agree (Alike tenantId v v') Q' (f a) (f a)) :
    Agree (Alike tenantId v v') Q' (x >>= f) (x >>= f) := by
  refine Agree.bind (Q := fun a b => a = b ∧ Q a) (fun s t hst => ?_) ?_
  · have h := hx s t hst
    cases hs : x.run s with
    | ok a s' =>
      cases ht : x.run t with
      | ok b t' =>
        rw [hs, ht] at h
        exact ⟨⟨h.1, hq s a s' hs⟩, h.2⟩
      | error e t' =>
        rw [hs, ht] at h
        exact h.elim
    | error e s' =>
      cases ht : x.run t with
      | ok b t' =>
        rw [hs, ht] at h
        exact h.elim
      | error e' t' =>
        rw [hs, ht] at h
        exact h
  · rintro a _ ⟨rfl, ha⟩
    exact hf a ha

theorem replaceAll_statements (tenantId : String) (incidents : List Incident) :
    Statements (IncidentRepository.replaceAll env tenantId incidents) := by
  unfold IncidentRepository.replaceAll
  refine (selectAll_statements _).bind fun rows => ?_
  refine Statements.bind (Statements.forM (fun row => deleteRow_statements _) rows) fun _ => ?_
  exact Statements.forM (fun inc => (readClock_statements env).bind fun _ => insertRow_statements _) incidents

theorem executeAction_statements (tenantId invId : String) (i : Int) :
    Statements (InvestigationRepository.executeAction env tenantId invId i) := by
  unfold InvestigationRepository.executeAction
  refine (InvestigationRepository.getRow_statements tenantId invId).bind fun row => ?_
  cases row with
  | none => exact Statements.pure (Except.error CaseError.notFound)
  | some row =>
    dsimp only
    cases executableAction i row with
    | error e => exact Statements.pure (Except.error e)
    | ok action =>
      refine (execute_statements env _ _).bind fun result => ?_
      exact (InvestigationRepository.flush_statements _).bind fun _ => Statements.pure _

theorem transitionStatus_statements (tenantId invId target : String) :
    Statements (CaseWorkflowMixin.transitionStatus env tenantId invId target) := by
  unfold CaseWorkflowMixin.transitionStatus
  refine (InvestigationRepository.getRow_statements tenantId invId).bind fun row => ?_
  cases row with
  | none => exact Statements.pure (Except.error CaseError.notFound)
  | some row => grind

namespace Routes

theorem runInvestigations_steady (h : AuthOf tenantId v v' auth) (hfresh : FreshFor env v)
    (hfresh' : FreshFor env v') : Steady tenantId v v' (runInvestigations rt env auth) := by
  refine require_steady h fun p hp => ?_
  refine Agree.bind_eq (getTenantOrchestrator_steady hp) fun orch => ?_
  subst hp
  refine Agree.bind_eq disabledRuleIds_steady fun disabled => ?_
  refine Agree.bind_eq tenant_steady fun tenant => ?_
  refine Agree.bind_eq (checkSearchQuota_steady _ _) fun _ => ?_
  refine agree_bind_yields (runFullPipeline_steady rt env orch disabled) (runFullPipeline_drawn orch disabled)
    fun invs hids => ?_
  refine Agree.bind_eq (meter_steady _ _ _) fun _ => ?_
  refine Agree.bind_eq (meterModelCalls_steady invs) fun _ => ?_
  refine Agree.bind_eq (Agree.forM_mem invs fun inv hinv => ?_) fun _ => ?_
  · obtain ⟨n, hid⟩ := hids inv hinv
    refine saveInvestigation_steady rfl ?_
    rw [hid]
    exact ⟨hfresh.investigations n, hfresh'.investigations n⟩
  refine Agree.bind_eq (listCases_steady _ _ _ _ _) fun page => ?_
  refine agree_bind_yields (correlate_steady env page.1) (correlate_drawn env page.1) fun incs hincs => ?_
  refine Agree.bind_eq ?_ fun _ => Agree.bind_eq (Agree.forM_mem _ fun inc _ => ?_) fun _ =>
    Agree.pure rfl
  · refine agree_of_confined ?_ fun _ _ => IncidentRepository.replaceAll_confined env _ fun inc hinc => ?_
    · exact replaceAll_statements _ _
    · obtain ⟨inc', hinc', rfl⟩ := List.mem_map.mp hinc
      obtain ⟨n, hid⟩ := hincs inc' hinc'
      show KeyedTable.FreeKey v.rows.incidents v'.rows.incidents inc'.id
      rw [hid]
      exact ⟨hfresh.incidents n, hfresh'.incidents n⟩
  · exact Agree.bind_eq (Agree.ite (Agree.pure rfl) (notify_steady env rfl)) fun _ => Agree.pure rfl

/-! ### Cases -/

theorem approveAction_steady (h : AuthOf tenantId v v' auth) (invId : String) (i : Int) :
    Steady tenantId v v' (approveAction rt env auth invId i) := by
  refine require_steady h fun p hp => ?_
  subst hp
  refine Agree.bind_eq ?_ fun o => ?_
  · refine agree_of_confined ?_ fun _ _ => InvestigationRepository.approveAction_confined invId i
    grind [InvestigationRepository.approveAction]
  · refine Agree.bind_eq (orRaise_steady _ o) fun inv => ?_
    exact Agree.bind_eq (recordEntry_steady rfl) fun _ => Agree.pure rfl

theorem executeAction_steady (h : AuthOf tenantId v v' auth) (invId : String) (i : Int) :
    Steady tenantId v v' (executeAction rt env auth invId i) := by
  refine require_steady h fun p hp => ?_
  subst hp
  refine Agree.bind_eq ?_ fun o => ?_
  · exact agree_of_confined (executeAction_statements _ _ _) fun _ _ =>
      InvestigationRepository.executeAction_confined env invId i
  · cases o with
    | error e => exact Agree.throw _ _
    | ok inv =>
      refine Agree.bind_eq (orRaise_steady _ _) fun executed => ?_
      refine Agree.bind_eq ?_ fun _ => Agree.pure rfl
      refine Agree.bind_eq (meter_steady _ _ _) fun _ => ?_
      refine Agree.bind_eq (recordEntry_steady rfl) fun _ => ?_
      exact Agree.bind_eq (notify_steady env rfl) fun _ => Agree.pure rfl

theorem transitionStatus_steady (h : AuthOf tenantId v v' auth) (invId status : String) :
    Steady tenantId v v' (transitionStatus rt env auth invId status) := by
  refine require_steady h fun p hp => ?_
  subst hp
  refine Agree.bind_eq ?_ fun o => ?_
  · exact agree_of_confined (transitionStatus_statements _ _ _) fun _ _ =>
      CaseWorkflowMixin.transitionStatus_confined env invId status
  · cases o with
    | error e => exact Agree.throw _ _
    | ok inv => exact Agree.bind_eq (recordEntry_steady rfl) fun _ => Agree.pure rfl

theorem assignInvestigation_steady (h : AuthOf tenantId v v' auth) (invId : String)
    (assignee : Option String) :
    Steady tenantId v v' (assignInvestigation rt env auth invId assignee) := by
  refine require_steady h fun p hp => ?_
  subst hp
  refine Agree.bind_eq ?_ fun o => ?_
  · refine agree_of_confined ?_ fun _ _ => InvestigationRepository.setAssignee_confined invId assignee
    grind [InvestigationRepository.setAssignee]
  · refine Agree.bind_eq (orRaise_steady _ o) fun inv => ?_
    exact Agree.bind_eq (recordEntry_steady rfl) fun _ => Agree.pure rfl

theorem addNote_steady (h : AuthOf tenantId v v' auth) (hfresh : FreshFor env v)
    (hfresh' : FreshFor env v') (invId body : String) :
    Steady tenantId v v' (addNote rt env auth invId body) := by
  refine require_steady h fun p hp => ?_
  subst hp
  refine Agree.bind_eq (validateLength_steady _ _ _ _) fun _ => ?_
  refine Agree.bind_eq ?_ fun o => ?_
  · refine agree_of_confined ?_ fun _ _ =>
      InvestigationRepository.addNote_confined env invId p.username body fun n =>
        ⟨hfresh.caseNotes n, hfresh'.caseNotes n⟩
    grind [InvestigationRepository.addNote]
  · refine Agree.bind_eq (orRaise_steady _ o) fun note => ?_
    exact Agree.bind_eq (recordEntry_steady rfl) fun _ => Agree.pure rfl

/-! ### Reads -/

theorem listInvestigations_steady (h : AuthOf tenantId v v' auth) (q : ListQuery) :
    Steady tenantId v v' (listInvestigations env auth q) := by
  refine require_steady h fun p hp => ?_
  subst hp
  refine Agree.bind_eq (raiseIf_steady _ _) fun _ => Agree.bind_eq (raiseIf_steady _ _) fun _ => ?_
  refine Agree.bind_eq (raiseIf_steady _ _) fun _ => ?_
  exact Agree.bind_eq (listCases_steady _ _ _ _ _) fun _ => Agree.pure rfl

theorem getInvestigation_steady (h : AuthOf tenantId v v' auth) (invId : String) :
    Steady tenantId v v' (getInvestigation env auth invId) := by
  refine require_steady h fun p hp => ?_
  subst hp
  refine Agree.bind_eq ?_ fun o => orRaise_steady _ o
  refine agree_of_confined ?_ fun _ _ => InvestigationRepository.get_confined invId
  grind [InvestigationRepository.get]

theorem getSla_steady (h : AuthOf tenantId v v' auth) (invId : String) :
    Steady tenantId v v' (getSla env auth invId) := by
  refine require_steady h fun p hp => ?_
  subst hp
  refine Agree.bind_eq ?_ fun o => orRaise_steady _ o
  refine agree_of_confined ?_ fun _ _ => CaseWorkflowMixin.sla_confined env invId
  grind [CaseWorkflowMixin.sla]

theorem listNotes_steady (h : AuthOf tenantId v v' auth) (invId : String) :
    Steady tenantId v v' (listNotes env auth invId) := by
  refine require_steady h fun p hp => ?_
  subst hp
  refine Agree.bind_eq ?_ fun _ => Agree.pure rfl
  refine agree_of_confined ?_ fun _ _ => InvestigationRepository.listNotes_confined invId
  grind [InvestigationRepository.listNotes]

theorem listRules_steady (h : AuthOf tenantId v v' auth) : Steady tenantId v v' (listRules env auth) := by
  refine require_steady h fun p hp => ?_
  subst hp
  exact Agree.bind_eq disabledRuleIds_steady fun _ => Agree.pure rfl

theorem mitreCoverage_steady (h : AuthOf tenantId v v' auth) :
    Steady tenantId v v' (mitreCoverage env auth) := by
  refine require_steady h fun p hp => ?_
  subst hp
  exact Agree.bind_eq disabledRuleIds_steady fun _ => Agree.pure rfl

theorem listNotifications_steady (h : AuthOf tenantId v v' auth) :
    Steady tenantId v v' (listNotifications env auth) := by
  refine require_steady h fun p hp => ?_
  subst hp
  refine Agree.ite (Agree.pure rfl) (get_steady fun s t hst => Agree.pure ?_)
  exact hst.captured.own

theorem listIncidents_steady (h : AuthOf tenantId v v' auth) :
    Steady tenantId v v' (listIncidents env auth) := by
  refine require_steady h fun p hp => ?_
  subst hp
  refine agree_of_confined ?_ fun _ _ => IncidentRepository.list_confined
  grind [IncidentRepository.list]

theorem getIncident_steady (h : AuthOf tenantId v v' auth) (incidentId : String) :
    Steady tenantId v v' (getIncident env auth incidentId) := by
  refine require_steady h fun p hp => ?_
  subst hp
  refine Agree.bind_eq ?_ fun o => orRaise_steady _ o
  refine agree_of_confined ?_ fun _ _ => IncidentRepository.get_confined incidentId
  grind [IncidentRepository.get]

/-- A page of the audit log, up to the auto-increment ids of its entries. -/
theorem listAudit_steady (h : AuthOf tenantId v v' auth) (limit offset : Int) :
    Agree (Alike tenantId v v')
      (fun a b => a.entries.map Prod.snd = b.entries.map Prod.snd ∧ a.chainValid = b.chainValid)
      (listAudit rt env auth limit offset) (listAudit rt env auth limit offset) := by
  refine require_steady h fun p hp => ?_
  subst hp
  refine Agree.bind_eq (raiseIf_steady _ _) fun _ => Agree.bind_eq (raiseIf_steady _ _) fun _ => ?_
  refine Agree.bind_eq (raiseIf_steady _ _) fun _ => ?_
  refine Agree.bind (Q := fun a b => a.map Prod.snd = b.map Prod.snd) ?_ fun a b hab => ?_
  · refine agree_of_confined ?_ fun _ _ => AuditService.listEntries_confined _ _
    grind [AuditService.listEntries]
  · refine Agree.bind_eq ?_ fun valid => Agree.pure ⟨hab, rfl⟩
    refine agree_of_confined ?_ fun _ _ => AuditService.chainValid_confined rt
    grind [AuditService.chainValid]

/-! ### Rules and logins -/

theorem toggleRule_steady (h : AuthOf tenantId v v' auth) (hfresh : FreshFor env v)
    (hfresh' : FreshFor env v') (ruleId : String) (enabled : Bool) :
    Steady tenantId v v' (toggleRule rt env auth ruleId enabled) := by
  refine require_steady h fun p hp => ?_
  subst hp
  refine Agree.bind_eq (orRaise_steady _ _) fun rule => ?_
  refine Agree.bind_eq ?_ fun _ => Agree.bind_eq (recordEntry_steady rfl) fun _ => Agree.pure rfl
  refine agree_of_confined ?_ fun _ _ => RuleStateRepository.setEnabled_confined env ruleId enabled fun n =>
    ⟨hfresh.ruleStates n, hfresh'.ruleStates n⟩
  grind [RuleStateRepository.setEnabled]

/-- No other tenant has the name. -/
def NameOf (v v' : Rest) (name : String) : Prop :=
  (∀ t ∈ v.tenants, t.name ≠ name) ∧ ∀ t ∈ v'.tenants, t.name ≠ name

theorem getByName_steady {name : String} (h : NameOf v v' name) :
    Agree (Alike tenantId v v') (fun a b => a = b ∧ ∀ t ∈ a, t.id = tenantId)
      (TenantRepository.getByName name) (TenantRepository.getByName name) := by
  have hown {db : Database} {o : List TenantRow}
      (hrest : (db.tenants.select fun t => !(t.id == tenantId)) = o) (ho : ∀ t ∈ o, t.name ≠ name) :
      ∀ t ∈ db.tenants.select (fun t => t.name == name), t.id = tenantId := by
    intro t ht
    obtain ⟨hrow, hname⟩ := KeyedTable.mem_select.mp ht
    by_contra hid
    refine ho t ?_ (by simpa using hname)
    rw [← hrest]
    exact KeyedTable.mem_select.mpr ⟨hrow, by simpa using hid⟩
  have hfilter (db : Database) (h : ∀ t ∈ db.tenants.select (fun t => t.name == name), t.id = tenantId) :
      db.tenants.select (fun t => t.name == name) =
        (db.tenants.select fun t => t.id == tenantId).filter fun t => t.name == name := by
    unfold KeyedTable.select at h ⊢
    rw [List.filter_filter]
    refine List.filter_congr fun t ht => ?_
    cases hname : t.name == name with
    | false => rfl
    | true => simp [h t (List.mem_filter.mpr ⟨ht, hname⟩)]
  refine Agree.bind (Q := fun a b => a = b ∧ ∀ t ∈ a, t.id = tenantId) (fun s t hst => ?_) ?_
  · have hs := hown hst.db.tenants.left h.1
    have ht := hown hst.db.tenants.right h.2
    refine ⟨⟨?_, hs⟩, hst⟩
    exact (hfilter s.db hs).trans (hst.db.tenants.own ▸ (hfilter t.db ht).symm)
  · rintro rows _ ⟨rfl, hids⟩
    match rows, hids with
    | [], _ => exact Agree.pure ⟨rfl, fun t ht => (by cases ht)⟩
    | [t], hids => exact Agree.pure ⟨rfl, fun t' ht => (by cases ht; exact hids t (by simp))⟩
    | _ :: _ :: _, _ => exact Agree.throw _ _

theorem login_steady {body : LoginRequest} (h : NameOf v v' body.tenant) :
    Steady tenantId v v' (login rt env body) := by
  refine (getByName_steady h).bind ?_
  rintro (_ | tenant) _ ⟨rfl, hid⟩
  · exact Agree.throw _ _
  · obtain rfl := hid tenant rfl
    refine Agree.bind_eq (raiseIf_steady _ _) fun _ => ?_
    refine Agree.bind_eq ?_ fun o => ?_
    · refine agree_of_confined ?_ fun _ _ => UserRepository.authenticate_confined rt _ _
      grind [UserRepository.authenticate, UserRepository.getByUsername]
    · cases o with
      | none =>
        refine Agree.bind_eq (recordEntry_steady rfl) fun _ => ?_
        exact Agree.bind_eq commit_steady fun _ => Agree.throw _ _
      | some user =>
        refine Agree.bind_eq (recordEntry_steady rfl) fun _ => ?_
        exact Agree.bind_eq (issueToken_steady rt env rfl) fun _ => Agree.pure rfl

end Routes

/-! ### Users -/

namespace AdminRoutes

theorem listUsers_steady (h : AuthOf tenantId v v' auth) : Steady tenantId v v' (listUsers env auth) := by
  refine require_steady h fun p hp => ?_
  subst hp
  refine Agree.bind_eq ?_ fun _ => Agree.pure rfl
  refine agree_of_confined ?_ fun _ _ => UserRepository.list_confined
  grind [UserRepository.list]

theorem createUser_steady (h : AuthOf tenantId v v' auth) (hfresh : FreshFor env v)
    (hfresh' : FreshFor env v') (body : CreateUserRequest) :
    Steady tenantId v v' (createUser rt env auth body) := by
  refine require_steady h fun p hp => ?_
  subst hp
  refine Agree.bind_eq (validateLength_steady _ _ _ _) fun _ => ?_
  refine Agree.bind_eq (validateLength_steady _ _ _ _) fun _ => ?_
  refine Agree.bind_eq (raiseIf_steady _ _) fun _ => ?_
  refine Agree.bind_eq ?_ fun existing => Agree.bind_eq (raiseIf_steady _ _) fun _ => ?_
  · refine agree_of_confined ?_ fun _ _ =>
      (UserRepository.getByUsername_confined body.username).mono fun _ _ h => h.1
    grind [UserRepository.getByUsername]
  refine Agree.bind_eq ?_ fun user => Agree.bind_eq (recordEntry_steady rfl) fun _ => Agree.pure rfl
  refine agree_of_confined ?_ fun _ _ => UserRepository.create_confined env _ _ _ _ fun n =>
    ⟨hfresh.users n, hfresh'.users n⟩
  grind [UserRepository.create]

theorem update_steady (userId : String) (f : UserRow → UserRow) (hf : ∀ r, (f r).id = r.id)
    (hown : ∀ r, (f r).tenantId = r.tenantId) :
    Steady tenantId v v' (UserRepository.update tenantId userId f hf) := by
  refine agree_of_confined ?_ fun _ _ => UserRepository.update_confined userId f hf hown
  grind [UserRepository.update, UserRepository.get]

theorem updateRole_steady (h : AuthOf tenantId v v' auth) (userId role : String) :
    Steady tenantId v v' (updateRole rt env auth userId role) := by
  refine require_steady h fun p hp => ?_
  subst hp
  refine Agree.bind_eq (raiseIf_steady _ _) fun _ => ?_
  refine Agree.bind_eq (update_steady userId _ _ fun _ => rfl) fun o => ?_
  refine Agree.bind_eq (orRaise_steady _ o) fun user => ?_
  exact Agree.bind_eq (recordEntry_steady rfl) fun _ => Agree.pure rfl

theorem linkIdentity_steady (h : AuthOf tenantId v v' auth) (userId externalId : String) :
    Steady tenantId v v' (linkIdentity rt env auth userId externalId) := by
  refine require_steady h fun p hp => ?_
  subst hp
  refine Agree.bind_eq (validateLength_steady _ _ _ _) fun _ => ?_
  refine Agree.bind_eq (update_steady userId _ _ fun _ => rfl) fun o => ?_
  refine Agree.bind_eq (orRaise_steady _ o) fun user => ?_
  exact Agree.bind_eq (recordEntry_steady rfl) fun _ => Agree.pure rfl

theorem deleteUser_steady (h : AuthOf tenantId v v' auth) (userId : String) :
    Steady tenantId v v' (deleteUser rt env auth userId) := by
  refine require_steady h fun p hp => ?_
  subst hp
  refine Agree.bind_eq (raiseIf_steady _ _) fun _ => ?_
  refine Agree.bind_eq ?_ fun ok => Agree.bind_eq (raiseIf_steady _ _) fun _ => recordEntry_steady rfl
  refine agree_of_confined ?_ fun _ _ => UserRepository.delete_confined userId
  grind [UserRepository.delete, UserRepository.get]

end AdminRoutes

/-! ### The tenant's own settings -/

namespace TenantRoutes

theorem getSettings_steady (h : AuthOf tenantId v v' auth) : Steady tenantId v v' (getSettings env auth) := by
  refine require_steady h fun p hp => ?_
  subst hp
  refine Agree.bind_eq tenant_steady fun o => ?_
  exact Agree.bind_eq (orRaise_steady _ o) fun _ => Agree.pure rfl

theorem updateSettings_steady (h : AuthOf tenantId v v' auth) (settings : List (String × JsonValue)) :
    Steady tenantId v v' (updateSettings rt env auth settings) := by
  refine require_steady h fun p hp => ?_
  subst hp
  refine Agree.bind_eq (tenantUpdate_steady (fun t => { t with settings := dictUpdate t.settings settings })
    fun _ => rfl) fun o => ?_
  refine Agree.bind_eq (orRaise_steady _ o) fun tenant => ?_
  exact Agree.bind_eq (recordEntry_steady rfl) fun _ => Agree.pure rfl

theorem credentials_steady : Steady tenantId v v' (CredentialRepository.view tenantId) := by
  refine agree_of_confined ?_ fun _ _ => CredentialRepository.view_confined
  grind [CredentialRepository.view, CredentialRepository.getRow]

theorem getCredentials_steady (h : AuthOf tenantId v v' auth) :
    Steady tenantId v v' (getCredentials env auth) := by
  refine require_steady h fun p hp => ?_
  subst hp
  exact credentials_steady

theorem checkChoice_steady (value : Option String) (valid : List String) (detail : String → String) :
    Steady tenantId v v' (checkChoice value valid detail) := by
  cases value with
  | none => exact Agree.pure rfl
  | some _ => exact raiseIf_steady _ _

theorem updateCredentials_steady (h : AuthOf tenantId v v' auth) (body : UpdateCredentials) :
    Steady tenantId v v' (updateCredentials rt env auth body) := by
  refine require_steady h fun p hp => ?_
  subst hp
  refine Agree.bind_eq (checkChoice_steady _ _ _) fun _ => ?_
  refine Agree.bind_eq (checkChoice_steady _ _ _) fun _ => ?_
  refine Agree.bind_eq (checkChoice_steady _ _ _) fun _ => ?_
  refine Agree.bind_eq ?_ fun _ => Agree.bind_eq (recordEntry_steady rfl) fun _ => credentials_steady
  refine agree_of_confined ?_ fun _ _ => CredentialRepository.upsert_confined env body
  grind [CredentialRepository.upsert, CredentialRepository.getRow]

theorem getUsage_steady (h : AuthOf tenantId v v' auth) : Steady tenantId v v' (getUsage env auth) := by
  refine require_steady h fun p hp => ?_
  subst hp
  refine Agree.bind_eq tenant_steady fun tenant => Agree.bind_eq ?_ fun _ => Agree.pure rfl
  refine agree_of_confined ?_ fun _ _ => MeteringService.rollup_confined none none
  grind [MeteringService.rollup]

theorem getQuota_steady (h : AuthOf tenantId v v' auth) : Steady tenantId v v' (getQuota env auth) := by
  refine require_steady h fun p hp => ?_
  subst hp
  refine Agree.bind_eq tenant_steady fun tenant => ?_
  refine Agree.bind_eq (quotaStatus_steady _ _ _) fun searches => ?_
  exact Agree.bind_eq (quotaStatus_steady _ _ _) fun modelCalls => Agree.pure rfl

end TenantRoutes

end

/-! ## Dispatch -/

/-- An answer without the auto-increment ids in it. -/
def Body.unnumbered : Body → Body
  | .audit r => .audit { r with entries := r.entries.map fun x => (0, x.2) }
  | body => body

/-- A request with a token of the tenant, if with any, or a login at its name. -/
def RequestOf (tenantId : String) (v v' : Rest) : Request → Prop
  | .login body => Routes.NameOf v v' body.tenant
  | .provider _ _ => False
  | q => AuthOf tenantId v v' q.auth

section

variable {rt : Runtime} {env : Env} {tenantId : String} {v v' : Rest} {auth : Authorization}

/-- The same answer is the same without its ids. -/
theorem Agree.unnumbered {α : Type} {m : ApiM α} (f : α → Body) (hm : Steady tenantId v v' m) :
    Agree (Alike tenantId v v') (fun a b => a.unnumbered = b.unnumbered) (f <$> m) (f <$> m) :=
  hm.map f f fun _ _ hab => congrArg (fun x => (f x).unnumbered) hab

theorem handleCase_steady (h : AuthOf tenantId v v' auth) (hfresh : FreshFor env v)
    (hfresh' : FreshFor env v') (invId : String) (r : CaseRequest) :
    Agree (Alike tenantId v v') (fun a b => a.unnumbered = b.unnumbered)
      (handleCase rt env auth invId r) (handleCase rt env auth invId r) := by
  cases r with
  | approve i => exact Agree.unnumbered _ (Routes.approveAction_steady h invId i)
  | execute i => exact Agree.unnumbered _ (Routes.executeAction_steady h invId i)
  | status target => exact Agree.unnumbered _ (Routes.transitionStatus_steady h invId target)
  | assign assignee => exact Agree.unnumbered _ (Routes.assignInvestigation_steady h invId assignee)
  | note body => exact Agree.unnumbered _ (Routes.addNote_steady h hfresh hfresh' invId body)

theorem handleAdmin_steady (h : AuthOf tenantId v v' auth) (hfresh : FreshFor env v)
    (hfresh' : FreshFor env v') (r : AdminRequest) :
    Agree (Alike tenantId v v') (fun a b => a.unnumbered = b.unnumbered)
      (handleAdmin rt env auth r) (handleAdmin rt env auth r) := by
  cases r with
  | createUser body => exact Agree.unnumbered _ (AdminRoutes.createUser_steady h hfresh hfresh' body)
  | updateRole userId role => exact Agree.unnumbered _ (AdminRoutes.updateRole_steady h userId role)
  | linkIdentity userId externalId =>
    exact Agree.unnumbered _ (AdminRoutes.linkIdentity_steady h userId externalId)
  | deleteUser userId => exact Agree.unnumbered _ (AdminRoutes.deleteUser_steady h userId)
  | toggleRule ruleId enabled =>
    exact Agree.unnumbered _ (Routes.toggleRule_steady h hfresh hfresh' ruleId enabled)
  | updateSettings settings => exact Agree.unnumbered _ (TenantRoutes.updateSettings_steady h settings)
  | updateCredentials body => exact Agree.unnumbered _ (TenantRoutes.updateCredentials_steady h body)

theorem handleRead_steady (h : AuthOf tenantId v v' auth) (r : ReadRequest) :
    Agree (Alike tenantId v v') (fun a b => a.unnumbered = b.unnumbered)
      (handleRead rt env auth r) (handleRead rt env auth r) := by
  cases r with
  | investigations q => exact Agree.unnumbered _ (Routes.listInvestigations_steady h q)
  | investigation invId => exact Agree.unnumbered _ (Routes.getInvestigation_steady h invId)
  | sla invId => exact Agree.unnumbered _ (Routes.getSla_steady h invId)
  | notes invId => exact Agree.unnumbered _ (Routes.listNotes_steady h invId)
  | rules => exact Agree.unnumbered _ (Routes.listRules_steady h)
  | mitreCoverage => exact Agree.unnumbered _ (Routes.mitreCoverage_steady h)
  | notifications => exact Agree.unnumbered _ (Routes.listNotifications_steady h)
  | incidents => exact Agree.unnumbered _ (Routes.listIncidents_steady h)
  | incident incidentId => exact Agree.unnumbered _ (Routes.getIncident_steady h incidentId)
  | audit limit offset =>
    refine (Routes.listAudit_steady h limit offset).map _ _ fun a b hab => ?_
    have hzero := congrArg (List.map fun r => ((0 : Nat), r)) hab.1
    rw [List.map_map, List.map_map] at hzero
    exact congrArg Body.audit (congrArg₂ Routes.AuditList.mk hzero hab.2)
  | users => exact Agree.unnumbered _ (AdminRoutes.listUsers_steady h)
  | settings => exact Agree.unnumbered _ (TenantRoutes.getSettings_steady h)
  | credentials => exact Agree.unnumbered _ (TenantRoutes.getCredentials_steady h)
  | usage => exact Agree.unnumbered _ (TenantRoutes.getUsage_steady h)
  | quota => exact Agree.unnumbered _ (TenantRoutes.getQuota_steady h)

/-- A tenant's request, in sessions the tenant cannot tell apart. -/
theorem handle_steady {q : Request} (h : RequestOf tenantId v v' q) (hfresh : FreshFor env v)
    (hfresh' : FreshFor env v') :
    Agree (Alike tenantId v v') (fun a b => a.unnumbered = b.unnumbered) (handle rt env q)
      (handle rt env q) := by
  cases q with
  | login body => exact Agree.unnumbered _ (Routes.login_steady h)
  | logout auth => exact Agree.unnumbered _ (Routes.logout_steady h)
  | search auth spl earliest latest => exact Agree.unnumbered _ (Routes.search_steady h spl earliest latest)
  | runDetections auth => exact Agree.unnumbered _ (Routes.runDetections_steady h)
  | runInvestigations auth => exact Agree.unnumbered _ (Routes.runInvestigations_steady h hfresh hfresh')
  | case auth invId r => exact handleCase_steady h hfresh hfresh' invId r
  | admin auth r => exact handleAdmin_steady h hfresh hfresh' r
  | provider auth r => exact h.elim
  | read auth r => exact handleRead_steady h r

end

end SentinelAI
