import SentinelAI.Records.Causes
import SentinelAI.Records.Lookups
import SentinelAI.Security.RequestFootprints

/-
  What a request ends in, function by function and route by route: an answer, a refusal, or
  a failure behind which stands one of its causes. No lookup finds two rows, no insertion
  finds its key taken but by a drawn id, and no quota exception or index error escapes.
-/

namespace SentinelAI

open Lib

/-! ## Repositories and services that always return -/

section

variable {E : Exc → Session → Prop}

namespace UserRepository

@[grind ←] theorem update_silent (tenantId userId : String) (f : UserRow → UserRow)
    (hf : ∀ r, (f r).id = r.id) : Raises E (update tenantId userId f hf) := by
  grind [update]

@[grind ←] theorem delete_silent (tenantId userId : String) : Raises E (delete tenantId userId) := by
  grind [delete]

@[grind ←] theorem list_silent (tenantId : String) : Raises E (list tenantId) := by
  grind [list]

end UserRepository

namespace TenantRepository

@[grind ←] theorem get_silent (tenantId : String) : Raises E (get tenantId) := sessionGet_silent _

@[grind ←] theorem list_silent : Raises E list := by
  grind [list]

@[grind ←] theorem update_silent (tenantId : String) (f : TenantRow → TenantRow)
    (hf : ∀ r, (f r).id = r.id) : Raises E (update tenantId f hf) := by
  grind [update]

end TenantRepository

namespace InvestigationRepository

@[grind ←] theorem get_silent (tenantId invId : String) : Raises E (get tenantId invId) := by
  grind [get]

@[grind ←] theorem list_silent (tenantId : String) (s v a : Option String) (n k : Nat) :
    Raises E (list tenantId s v a n k) := by
  grind [list]

@[grind ←] theorem setAssignee_silent (tenantId invId : String) (assignee : Option String) :
    Raises E (setAssignee tenantId invId assignee) := by
  grind [setAssignee]

@[grind ←] theorem approveAction_silent (tenantId invId : String) (i : Int) :
    Raises E (approveAction tenantId invId i) := by
  grind [approveAction]

@[grind ←] theorem listNotes_silent (tenantId invId : String) : Raises E (listNotes tenantId invId) := by
  grind [listNotes]

end InvestigationRepository

namespace CaseWorkflowMixin

@[grind ←] theorem transitionStatus_silent (env : Env) (tenantId invId target : String) :
    Raises E (transitionStatus env tenantId invId target) := by
  unfold transitionStatus
  refine (InvestigationRepository.getRow_silent tenantId invId).bind fun row => ?_
  cases row with
  | none => exact Raises.pure (Except.error CaseError.notFound)
  | some row =>
    dsimp only
    cases legalTransition target row with
    | error e => exact Raises.pure (Except.error e)
    | ok status => grind

@[grind ←] theorem sla_silent (env : Env) (tenantId invId : String) :
    Raises E (sla env tenantId invId) := by
  grind [sla]

end CaseWorkflowMixin

@[grind ←] theorem IncidentRepository.list_silent (tenantId : String) :
    Raises E (IncidentRepository.list tenantId) := by
  grind [IncidentRepository.list]

@[grind ←] theorem IncidentRepository.get_silent (tenantId incidentId : String) :
    Raises E (IncidentRepository.get tenantId incidentId) := by
  refine Raises.bind (Raises.of_ok fun s => ?_) fun row => Raises.pure _
  exact ⟨_, _, selectOne_key_run Tables.incidents (fun r => r.tenantId == tenantId) _ incidentId
    (fun _ => rfl) s⟩

@[grind ←] theorem RuleStateRepository.disabledRuleIds_silent (tenantId : String) :
    Raises E (RuleStateRepository.disabledRuleIds tenantId) := by
  grind [RuleStateRepository.disabledRuleIds]

@[grind ←] theorem TokenRepository.isRevoked_silent (jti : String) :
    Raises E (TokenRepository.isRevoked jti) := by
  grind [TokenRepository.isRevoked]

/-- A token's row is added only when it is missing. -/
@[grind ←] theorem TokenRepository.revoke_silent (env : Env) (tenantId jti : String) :
    Raises E (TokenRepository.revoke env tenantId jti) := by
  refine Raises.of_ok fun s => ?_
  have hget : (sessionGet Tables.revokedTokens jti).run s = .ok (s.db.revokedTokens.find? jti) s := rfl
  unfold TokenRepository.revoke
  rw [run_bind_ok hget]
  cases hfind : s.db.revokedTokens.find? jti with
  | some row => exact ⟨_, _, rfl⟩
  | none =>
    dsimp only
    rw [run_bind_ok (readClock_run env s)]
    obtain ⟨rows, _, hrun⟩ | ⟨hnone, _⟩ := insertRow_cases Tables.revokedTokens
      { jti := jti, tenantId := tenantId, revokedAt := env.now s.ticks } s.ticked
    · exact ⟨_, _, hrun⟩
    · have hsome : (s.db.revokedTokens.find? jti).isSome := KeyedTable.insert?_eq_none.mp hnone
      rw [hfind] at hsome
      cases hsome

namespace CredentialRepository

@[grind ←] theorem getRow_silent (tenantId : String) : Raises E (getRow tenantId) :=
  sessionGet_silent _

@[grind ←] theorem view_silent (tenantId : String) : Raises E (view tenantId) := by
  grind [view]

/-- So is a tenant's row. -/
@[grind ←] theorem upsert_silent (env : Env) (tenantId : String) (u : UpdateCredentials) :
    Raises E (upsert env tenantId u) := by
  refine Raises.of_ok fun s => ?_
  have hget : (getRow tenantId).run s = .ok (s.db.tenantCredentials.find? tenantId) s := rfl
  unfold upsert
  rw [run_bind_ok hget]
  cases hfind : s.db.tenantCredentials.find? tenantId with
  | some row => exact ⟨_, _, rfl⟩
  | none =>
    dsimp only
    obtain ⟨rows, _, hrun⟩ | ⟨hnone, _⟩ := insertRow_cases Tables.tenantCredentials
      (u.apply env { tenantId := tenantId }) s
    · rw [run_bind_ok hrun]
      exact ⟨_, _, rfl⟩
    · have hsome : (s.db.tenantCredentials.find? tenantId).isSome := KeyedTable.insert?_eq_none.mp hnone
      rw [hfind] at hsome
      cases hsome

end CredentialRepository

@[grind ←] theorem issueToken_silent (rt : Runtime) (env : Env) (p : Principal) :
    Raises E (issueToken rt env p) := by
  grind [issueToken]

@[grind ←] theorem QuotaService.status_silent (env : Env) (tenantId plan kind : String) (want : Int) :
    Raises E (QuotaService.status env tenantId plan kind want) := by
  grind [QuotaService.status, QuotaService.usedThisMonth, selectIds]

@[grind ←] theorem MeteringService.rollup_silent (tenantId : String) (a b : Option Time) :
    Raises E (MeteringService.rollup tenantId a b) := by
  grind [MeteringService.rollup, selectIds]

end

/-! ## Refusals -/

section

variable {rt : Runtime} {env : Env} {db : Database} {cs : List Cause} {α : Type}

@[grind ←] theorem throw_refuses (status : Nat) (detail : ErrorDetail) :
    Raises (Fails rt env db cs) (throw (.http status detail) : ApiM α) :=
  Raises.throw fun _ => .refused status detail

@[grind ←] theorem raiseIf_refuses (c : Bool) (status : Nat) (detail : ErrorDetail) :
    Raises (Fails rt env db cs) (raiseIf c (.http status detail)) :=
  Raises.ite (throw_refuses status detail) (Raises.pure ())

@[grind ←] theorem orRaise_refuses (status : Nat) (detail : ErrorDetail) (o : Option α) :
    Raises (Fails rt env db cs) (orRaise (.http status detail) o) := by
  cases o with
  | none => exact throw_refuses status detail
  | some a => exact Raises.pure a

theorem ofExcept_fails {x : Except Exc α} (h : ∀ ex, x = .error ex → ∀ drawn, Failure rt env db cs drawn ex) :
    Raises (Fails rt env db cs) (ofExcept x) := by
  cases x with
  | ok a => exact Raises.pure a
  | error e => exact Raises.throw fun t => h e rfl t.uuids

/-- What an attempt hands back is what was raised, in the state it was raised in. -/
theorem attempt_contract {m : ApiM α} {P : Session → Prop} {Q : α → Session → Prop}
    {E F : Exc → Session → Prop} (h : Contract P m Q E) :
    Contract P (attempt m) (fun r t => match r with
      | .ok a => Q a t
      | .error e => E e t) F := by
  refine Contract.of_ok fun s hs => ?_
  rw [attempt_run]
  cases hrun : m.run s with
  | ok a t => exact ⟨_, _, rfl, h.returns hs hrun⟩
  | error e t => exact ⟨_, _, rfl, h.raises hs hrun⟩

namespace Deps

theorem getPrincipal_refuses (auth : Authorization) :
    Raises (Fails rt env db cs) (getPrincipal env auth) := by
  cases auth with
  | missing => exact throw_refuses _ _
  | unsigned => exact throw_refuses _ _
  | bearer token =>
    refine (readClock_silent env).bind fun now => get_silent.bind fun s => ?_
    refine Raises.bind (ofExcept_fails fun ex hex _ => ?_) fun p => ?_
    · unfold principalFromToken decodeAccessToken at hex
      by_cases hd : token ∈ s.issued ∧ Time.seconds now ≤ token.exp
      · rw [if_pos hd] at hex
        cases hc : token.claimsMissing with
        | true =>
          simp only [bind, Except.bind, hc, if_true] at hex
          cases hex
          exact .refused _ _
        | false => simp [bind, Except.bind, hc] at hex
      · rw [if_neg hd] at hex
        cases hex
        exact .refused _ _
    · refine (TokenRepository.isRevoked_silent _).bind fun b => ?_
      refine (raiseIf_refuses _ _ _).bind fun _ => (TenantRepository.get_silent _).bind fun t => ?_
      exact (raiseIf_refuses _ _ _).bind fun _ => Raises.pure p

@[grind ←] theorem require_refuses (auth : Authorization) (permission : Permission) :
    Raises (Fails rt env db cs) (require env auth permission) :=
  (getPrincipal_refuses auth).bind fun p => (raiseIf_refuses _ _ _).bind fun _ => Raises.pure p

@[grind ←] theorem requireProvider_refuses (auth : Authorization) :
    Raises (Fails rt env db cs) (requireProvider env auth) :=
  (getPrincipal_refuses auth).bind fun p => (raiseIf_refuses _ _ _).bind fun _ => Raises.pure p

@[grind ←] theorem validateLength_refuses (field : String) (lo hi : Nat) (value : String) :
    Raises (Fails rt env db cs) (validateLength field lo hi value) := raiseIf_refuses _ _ _

@[grind ←] theorem validateRange_refuses (field : String) (lo : Int) (hi : Option Int) (value : Int) :
    Raises (Fails rt env db cs) (validateRange field lo hi value) := raiseIf_refuses _ _ _

end Deps

@[grind ←] theorem checkChoice_refuses (value : Option String) (valid : List String) (detail : String → String) :
    Raises (Fails rt env db cs) (TenantRoutes.checkChoice value valid detail) := by
  cases value with
  | none => exact Raises.pure ()
  | some v => exact raiseIf_refuses _ _ _

/-! ## Reads, and routes that are exposed to nothing -/

@[grind ←] theorem bindOffset_fails {offset : Int} (h : .offset offset ∈ cs) :
    Raises (Fails rt env db cs) (bindOffset offset) := by
  by_cases hlarge : (2 : Int) ^ 63 ≤ offset
  · unfold bindOffset
    rw [decide_eq_true hlarge]
    exact Contract.throw fun _ _ => .offset offset h hlarge
  · unfold bindOffset
    rw [decide_eq_false hlarge]
    exact Raises.pure ()

theorem handleRead_fails (auth : Authorization) (r : ReadRequest) :
    Raises (Fails rt env db (causes (.read auth r))) (handleRead rt env auth r) := by
  cases r with
  | investigations q =>
    have hoffset : .offset q.offset ∈ causes (.read auth (.investigations q)) := List.mem_cons_self
    grind [handleRead, Routes.listInvestigations]
  | investigation invId => grind [handleRead, Routes.getInvestigation, httpError]
  | sla invId => grind [handleRead, Routes.getSla, httpError]
  | notes invId => grind [handleRead, Routes.listNotes]
  | rules => grind [handleRead, Routes.listRules]
  | mitreCoverage => grind [handleRead, Routes.mitreCoverage]
  | notifications => grind [handleRead, Routes.listNotifications]
  | incidents => grind [handleRead, Routes.listIncidents]
  | incident incidentId => grind [handleRead, Routes.getIncident, httpError]
  | audit limit offset =>
    have hoffset : .offset offset ∈ causes (.read auth (.audit limit offset)) := List.mem_cons_self
    refine Raises.map _ ((Deps.require_refuses auth _).bind fun p => ?_)
    refine (Deps.validateRange_refuses _ _ _ _).bind fun _ => ?_
    refine (Deps.validateRange_refuses _ _ _ _).bind fun _ => (bindOffset_fails hoffset).bind fun _ => ?_
    grind [AuditService.listEntries, AuditService.chainValid, selectIds]
  | users => grind [handleRead, AdminRoutes.listUsers]
  | settings => grind [handleRead, TenantRoutes.getSettings, httpError]
  | credentials => grind [handleRead, TenantRoutes.getCredentials]
  | usage => grind [handleRead, TenantRoutes.getUsage]
  | quota => grind [handleRead, TenantRoutes.getQuota]

theorem logout_refuses (auth : Authorization) :
    Raises (Fails rt env db cs) (Routes.logout rt env auth) := by
  unfold Routes.logout
  refine (Deps.getPrincipal_refuses auth).bind fun p => ?_
  dsimp only
  cases p.jti with
  | none => exact (Raises.pure ()).bind fun _ => AuditService.recordEntry_silent rt env _
  | some jti =>
    exact (TokenRepository.revoke_silent env p.tenantId jti).bind fun _ =>
      AuditService.recordEntry_silent rt env _

theorem approveAction_refuses (auth : Authorization) (invId : String) (i : Int) :
    Raises (Fails rt env db cs) (Routes.approveAction rt env auth invId i) := by
  grind [Routes.approveAction, httpError]

theorem transitionStatus_refuses (auth : Authorization) (invId status : String) :
    Raises (Fails rt env db cs) (Routes.transitionStatus rt env auth invId status) := by
  unfold Routes.transitionStatus
  refine (Deps.require_refuses auth _).bind fun p => ?_
  refine (CaseWorkflowMixin.transitionStatus_silent env _ _ _).bind fun r => ?_
  cases r with
  | error e => cases e <;> exact throw_refuses _ _
  | ok inv => exact (AuditService.recordEntry_silent rt env _).bind fun _ => Raises.pure inv

theorem assignInvestigation_refuses (auth : Authorization) (invId : String) (assignee : Option String) :
    Raises (Fails rt env db cs) (Routes.assignInvestigation rt env auth invId assignee) := by
  grind [Routes.assignInvestigation, httpError]

theorem updateRole_refuses (auth : Authorization) (userId role : String) :
    Raises (Fails rt env db cs) (AdminRoutes.updateRole rt env auth userId role) := by
  grind [AdminRoutes.updateRole, AdminRoutes.checkRole, UserRepository.setRole, httpError]

theorem linkIdentity_refuses (auth : Authorization) (userId externalId : String) :
    Raises (Fails rt env db cs) (AdminRoutes.linkIdentity rt env auth userId externalId) := by
  grind [AdminRoutes.linkIdentity, UserRepository.linkExternalId, httpError]

theorem deleteUser_refuses (auth : Authorization) (userId : String) :
    Raises (Fails rt env db cs) (AdminRoutes.deleteUser rt env auth userId) := by
  grind [AdminRoutes.deleteUser, httpError]

theorem updateSettings_refuses (auth : Authorization) (settings : List (String × JsonValue)) :
    Raises (Fails rt env db cs) (TenantRoutes.updateSettings rt env auth settings) := by
  grind [TenantRoutes.updateSettings, TenantRepository.updateSettings, httpError]

theorem updateCredentials_refuses (auth : Authorization) (body : UpdateCredentials) :
    Raises (Fails rt env db cs) (TenantRoutes.updateCredentials rt env auth body) := by
  grind [TenantRoutes.updateCredentials]

theorem afterTenantChange_refuses (p : Principal) (tenantId action : String)
    (detail : List (String × JsonValue)) (changed : Option TenantRow) :
    Raises (Fails rt env db cs) (ProviderRoutes.afterTenantChange rt env p tenantId action detail changed) := by
  grind [ProviderRoutes.afterTenantChange, httpError]

theorem setTenantStatus_refuses (auth : Authorization) (tenantId status : String) :
    Raises (Fails rt env db cs) (ProviderRoutes.setTenantStatus rt env auth tenantId status) := by
  unfold ProviderRoutes.setTenantStatus
  refine (Deps.requireProvider_refuses auth).bind fun p => (raiseIf_refuses _ _ _).bind fun _ => ?_
  exact (TenantRepository.update_silent _ _ _).bind fun t => afterTenantChange_refuses _ _ _ _ t

theorem setTenantPlan_refuses (auth : Authorization) (tenantId plan : String) :
    Raises (Fails rt env db cs) (ProviderRoutes.setTenantPlan rt env auth tenantId plan) := by
  unfold ProviderRoutes.setTenantPlan
  refine (Deps.requireProvider_refuses auth).bind fun p => (raiseIf_refuses _ _ _).bind fun _ => ?_
  exact (TenantRepository.update_silent _ _ _).bind fun t => afterTenantChange_refuses _ _ _ _ t

theorem impersonate_refuses (auth : Authorization) (tenantId : String) :
    Raises (Fails rt env db cs) (ProviderRoutes.impersonate rt env auth tenantId) := by
  unfold ProviderRoutes.impersonate
  refine (Deps.requireProvider_refuses auth).bind fun p => ?_
  refine (TenantRepository.get_silent _).bind fun t => (orRaise_refuses _ _ t).bind fun tenant => ?_
  refine (UserRepository.list_silent _).bind fun members => ?_
  refine (orRaise_refuses _ _ _).bind fun admin => ?_
  grind

@[grind ←] theorem customerTenants_silent {E : Exc → Session → Prop} :
    Raises E ProviderRoutes.customerTenants := by
  grind [ProviderRoutes.customerTenants]

theorem listTenants_refuses (auth : Authorization) :
    Raises (Fails rt env db cs) (ProviderRoutes.listTenants env auth) := by
  grind [ProviderRoutes.listTenants]

theorem listAllUsers_refuses (auth : Authorization) :
    Raises (Fails rt env db cs) (ProviderRoutes.listAllUsers env auth) := by
  grind [ProviderRoutes.listAllUsers]

theorem usage_refuses (auth : Authorization) :
    Raises (Fails rt env db cs) (ProviderRoutes.usage env auth) := by
  grind [ProviderRoutes.usage]

end

/-! ## Routes that ask somebody outside -/

section

variable {rt : Runtime} {env : Env} {db : Database} {cs : List Cause}

/-- The session of a request that has only been admitted. -/
structure Opened (db : Database) (s : Session) : Prop where
  rows : s.db = db
  uuids : s.uuids = 0
  closed : s.breaker.openedAt = none

theorem require_opened (auth : Authorization) (permission : Permission) :
    Contract (Opened db) (Deps.require env auth permission) (fun _ => Opened db)
      (Fails rt env db cs) where
  returns hs hrun := by
    obtain ⟨_, rfl⟩ := require_eq_ok.mp hrun
    exact ⟨hs.rows, hs.uuids, hs.closed⟩
  raises _ hrun := (Deps.require_refuses auth permission).raises trivial hrun

theorem requireProvider_opened (auth : Authorization) :
    Contract (Opened db) (Deps.requireProvider env auth) (fun _ => Opened db)
      (Fails rt env db cs) where
  returns hs hrun := by
    obtain ⟨_, rfl⟩ := requireProvider_eq_ok.mp hrun
    exact ⟨hs.rows, hs.uuids, hs.closed⟩
  raises _ hrun := (Deps.requireProvider_refuses auth).raises trivial hrun

theorem search_raises (client : SplunkClient) (spl earliest latest : String) :
    Raises (fun ex _ => ∃ k, env.search client k spl earliest latest = .error ex)
      (client.search env spl earliest latest) := by
  refine get_silent.bind fun s => (modify_silent _).bind fun _ => ?_
  cases hanswer : env.search client s.searches.length spl earliest latest with
  | ok r => exact Raises.pure r
  | error e => exact Raises.throw fun _ => ⟨_, hanswer⟩

theorem search_fails (auth : Authorization) (spl earliest latest : String) :
    Raises (Fails rt env db [.clientFault]) (Routes.search env auth spl earliest latest) := by
  refine (Deps.require_refuses auth _).bind fun _ => ?_
  refine Contract.bind (attempt_contract (search_raises .managed spl earliest latest)) fun r => ?_
  cases r with
  | ok result => exact Contract.pure fun _ _ => trivial
  | error e =>
    cases e with
    | splunk e => exact Contract.throw fun _ _ => .refused _ _
    | _ =>
      refine Contract.throw fun t ht => ?_
      obtain ⟨k, hanswer⟩ := ht
      exact .clientFault List.mem_cons_self .managed k spl earliest latest _ (fun _ => nofun) hanswer

/-- A settled error is what one of the attempts raised. -/
theorem settled_error {client : SplunkClient} {spl : String} {left : Nat} {ex : Exc} :
    ∀ {k : Nat}, (settled env client spl k left).1 = .error ex →
      ∃ j, env.search client j spl "-24h" "now" = .error ex := by
  induction left with
  | zero => exact fun h => ⟨_, h⟩
  | succ left ih =>
    intro k h
    rw [settled] at h
    cases hanswer : env.search client k spl "-24h" "now" with
    | ok r =>
      rw [hanswer] at h
      cases h
    | error e =>
      rw [hanswer] at h
      dsimp only at h
      split at h
      · cases h
        exact ⟨k, hanswer⟩
      · exact ih h

/-- What the client raises. -/
theorem Failure.of_search {client : SplunkClient} {k drawn : Nat} {spl earliest latest : String} {ex : Exc}
    (hsplunk : .splunkError ∈ cs) (hother : .clientFault ∈ cs)
    (h : env.search client k spl earliest latest = .error ex) : Failure rt env db cs drawn ex := by
  cases ex with
  | splunk e => exact .splunkError hsplunk client k spl earliest latest e h
  | _ => exact .clientFault hother client k spl earliest latest _ (fun _ => nofun) h

/-- The breaker of a run never opens: a search that fails three times ends the run. -/
theorem runRule_contract (client : SplunkClient) (disabled : List String) (rule : DetectionRule)
    (hsplunk : .splunkError ∈ cs) (hother : .clientFault ∈ cs) :
    Contract (fun s => s.breaker.openedAt = none) (DetectionAgent.runRule env client disabled rule)
      (fun _ s => s.breaker.openedAt = none) (Fails rt env db cs) := by
  by_cases hd : rule.ruleId ∈ disabled
  · exact Contract.of_ok fun s hs => ⟨none, s, DetectionAgent.runRule_skip env client disabled rule hd s, hs⟩
  · constructor
    · intro s o t hs hrun
      obtain ⟨_, _, _, _, hok, hfound⟩ | ⟨_, _, _, herror, _⟩ :=
        DetectionAgent.runRule_run env client disabled rule hs hd
      · cases hok.symm.trans hrun
        exact hfound.closed
      · cases herror.symm.trans hrun
    · intro s ex t hs hrun
      obtain ⟨_, _, _, _, hok, _⟩ | ⟨_, _, hset, herror, _⟩ :=
        DetectionAgent.runRule_run env client disabled rule hs hd
      · cases hok.symm.trans hrun
      · cases herror.symm.trans hrun
        obtain ⟨k, hanswer⟩ := settled_error hset
        exact .of_search hsplunk hother hanswer

theorem runDetections_contract (orch : Orchestrator) (disabled : List String)
    (hsplunk : .splunkError ∈ cs) (hother : .clientFault ∈ cs) :
    Contract (fun s => s.breaker.openedAt = none) (orch.runDetections env disabled) (fun _ _ => True)
      (Fails rt env db cs) :=
  (Contract.mapM fun rule _ => runRule_contract orch.splunk disabled rule hsplunk hother).bind fun _ =>
    Contract.pure fun _ _ => trivial

theorem getTenantOrchestrator_contract (p : Principal) (h : .credentials ∈ cs) :
    Contract (Opened db) (Deps.getTenantOrchestrator rt p) (fun _ => Opened db) (Fails rt env db cs) where
  returns hs hrun := by
    obtain ⟨_, rfl⟩ := getTenantOrchestrator_eq_ok.mp hrun
    exact hs
  raises {s ex t} hs hrun := by
    have hrow : (CredentialRepository.getRow p.tenantId).run s =
        .ok (s.db.tenantCredentials.find? p.tenantId) s := rfl
    unfold Deps.getTenantOrchestrator at hrun
    rw [run_bind_ok hrow] at hrun
    cases hfind : s.db.tenantCredentials.find? p.tenantId with
    | none =>
      rw [hfind] at hrun
      cases hrun
    | some row =>
      rw [hfind] at hrun
      have hstored : row ∈ db.tenantCredentials.rows := by
        rw [← hs.rows]
        exact ((s.db.tenantCredentials.find?_eq_some _ _).mp hfind).1
      cases hsplunk : resolveSplunkClient rt (some row) .managed with
      | error e =>
        rw [hsplunk] at hrun
        cases hrun
        exact .credentials h row _ hstored (Or.inl hsplunk)
      | ok splunk =>
        rw [hsplunk] at hrun
        cases hmodel : resolveAiModel rt (some row) .managed with
        | error e =>
          rw [hmodel] at hrun
          cases hrun
          exact .credentials h row _ hstored (Or.inr hmodel)
        | ok model =>
          rw [hmodel] at hrun
          cases hrun

theorem runDetections_fails (auth : Authorization) :
    Contract (Opened db) (Routes.runDetections rt env auth) (fun _ _ => True)
      (Fails rt env db [.credentials, .splunkError, .clientFault]) := by
  refine (require_opened auth _).bind fun p => ?_
  refine (getTenantOrchestrator_contract p (by decide)).bind fun orch => ?_
  exact (runDetections_contract orch [] (by decide) (by decide)).of_pre fun _ hs => hs.closed

/-- Only where a webhook is configured. -/
theorem notify_fails (n : Notification) (h : ∀ send, .webhook send ∈ env.channels → .channel ∈ cs) :
    Raises (Fails rt env db cs) (NotificationService.notify env n) := by
  refine Contract.bind (Contract.mapM fun c hc => ?_) fun _ => Contract.pure fun _ _ => trivial
  cases c with
  | capture => exact (modify_silent _).bind fun _ => Raises.pure true
  | webhook send => exact ofExcept_fails fun ex hex _ => .channel (h send hc) send n ex hc hex

/-- The executed action is there: its index was found in range, and the row keeps it. -/
theorem execution_contract (tenantId invId : String) (i : Int) (h : .connector ∈ cs) :
    Contract (fun _ => True) (InvestigationRepository.executeAction env tenantId invId i)
      (fun r _ => ∀ inv, r = .ok inv → ∃ a, actionAt inv i = some a) (Fails rt env db cs) := by
  refine Contract.bind (InvestigationRepository.getRow_silent tenantId invId) fun o => ?_
  cases o with
  | none => exact Contract.pure fun _ _ inv hinv => by cases hinv
  | some row =>
    dsimp only
    cases hexec : executableAction i row with
    | error e => exact Contract.pure fun _ _ inv hinv => by cases hinv
    | ok a =>
      have hat : actionAt row.payload i = some a := (executableAction_ok.mp hexec).1
      have hcall : Raises (Fails rt env db cs) (ActionExecutor.execute env a.actionType a.target) := by
        refine (modify_silent _).bind fun _ => ofExcept_fails fun ex hex _ => ?_
        unfold executorResult at hex
        cases hc : supportingConnector env.connectors a.actionType with
        | none =>
          rw [hc] at hex
          cases hex
        | some c =>
          rw [hc] at hex
          exact .connector h c _ _ ex (List.mem_of_find?_eq_some hc) hex
      refine Contract.bind hcall fun res => ?_
      refine Contract.bind (InvestigationRepository.flush_silent _) fun _ => Contract.pure fun _ _ => ?_
      rintro inv hinv
      cases hinv
      exact ⟨_, actionAt_executeRow hat⟩

theorem executeAction_fails (auth : Authorization) (invId : String) (i : Int) :
    Raises (Fails rt env db [.connector, .channel]) (Routes.executeAction rt env auth invId i) := by
  refine (Deps.require_refuses auth _).bind fun p => ?_
  refine Contract.bind (execution_contract p.tenantId invId i (by decide)) fun r => ?_
  cases r with
  | error e => cases e <;> exact Contract.throw fun _ _ => .refused _ _
  | ok inv =>
    have hafter (executed : IncidentAction) : Raises (Fails rt env db [.connector, .channel])
        (Routes.afterExecution rt env p invId i executed) := by
      refine (MeteringService.record_silent rt env _ _ _ _).bind fun _ => ?_
      refine (AuditService.recordEntry_silent rt env _).bind fun _ => ?_
      exact (notify_fails _ fun _ _ => by decide).bind fun _ => Raises.pure ()
    constructor
    · exact fun _ _ => trivial
    · intro s ex t hs hrun
      obtain ⟨a, hat⟩ := hs inv rfl
      dsimp only at hrun
      rw [hat] at hrun
      exact ((hafter a).bind fun _ => Raises.pure inv).raises trivial hrun

end

/-! ## Routes that look something up or insert it -/

/-- The ids stored, those of the first `n` draws apart. -/
def IdKind.Accounted (env : Env) (db : Database) (n : Nat) (kind : IdKind) (db' : Database) : Prop :=
  ∀ id ∈ kind.stored db', id ∈ kind.stored db ∨ ∃ m < n, kind.ofUuid (env.uuid4 m) = id

/-- Every id stored was there when the request began, or has been drawn since. -/
def Tracked (env : Env) (db : Database) (s : Session) : Prop :=
  ∀ kind : IdKind, kind.Accounted env db s.uuids s.db

/-- The last uuid drawn, and none of its ids stored by this request. -/
def JustDrawn (env : Env) (db : Database) (uuid : String) (s : Session) : Prop :=
  ∃ n, uuid = env.uuid4 n ∧ s.uuids = n + 1 ∧ ∀ kind : IdKind, kind.Accounted env db n s.db

section

variable {rt : Runtime} {env : Env} {db : Database} {cs : List Cause} {s : Session}

theorem Opened.tracked (h : Opened db s) : Tracked env db s := by
  intro kind id hid
  rw [h.rows] at hid
  exact Or.inl hid

theorem uuidHex_contract {E : Exc → Session → Prop} :
    Contract (Tracked env db) (uuidHex env) (JustDrawn env db) E :=
  Contract.of_ok fun s hs => ⟨_, _, rfl, s.uuids, rfl, rfl, hs⟩

theorem readClock_contract {P : Session → Prop} {E : Exc → Session → Prop}
    (hP : ∀ s, P s → P s.ticked) : Contract P (readClock env) (fun _ => P) E :=
  Contract.of_ok fun s hs => ⟨_, _, rfl, hP s hs⟩

section

variable {ρ : Type} [Keyed ρ String] {T : TableRef (KeyedTable ρ)} {kind : IdKind}

/-- The table keyed by the ids of a kind, and of no other. -/
structure IdKind.KeyOf (kind : IdKind) (T : TableRef (KeyedTable ρ)) : Prop where
  stored : ∀ d, kind.stored d = (T.get d).rows.map Keyed.key
  get_set : ∀ d rows, T.get (T.set d rows) = rows
  others : ∀ d rows kind', kind' ≠ kind → kind'.stored (T.set d rows) = kind'.stored d

variable {d : Database} {n : Nat} {row : ρ}

/-- The row of the next draw. -/
theorem IdKind.Accounted.insert (h : kind.Accounted env db n d) (hT : kind.KeyOf T)
    {rows : KeyedTable ρ} (hkey : Keyed.key row = kind.ofUuid (env.uuid4 n))
    (hins : (T.get d).insert? row = some rows) : kind.Accounted env db (n + 1) (T.set d rows) := by
  intro id hid
  rw [hT.stored, hT.get_set, KeyedTable.insert?_rows hins, List.map_append, ← hT.stored] at hid
  obtain hid | hid := List.mem_append.mp hid
  · exact (h id hid).imp_right fun ⟨m, hm, he⟩ => ⟨m, Nat.lt_succ_of_lt hm, he⟩
  · refine Or.inr ⟨n, Nat.lt_succ_self n, ?_⟩
    rw [← hkey]
    exact (List.mem_singleton.mp hid).symm

/-- The key of the next draw is stored, by a row of before the request or of an earlier draw. -/
theorem IdKind.Accounted.taken (h : kind.Accounted env db n d) (hT : kind.KeyOf T)
    (hkey : Keyed.key row = kind.ofUuid (env.uuid4 n)) (hnone : (T.get d).insert? row = none)
    {drawn : Nat} (hn : n < drawn) : kind.Taken env db drawn := by
  obtain ⟨r, hr⟩ := Option.isSome_iff_exists.mp (KeyedTable.insert?_eq_none.mp hnone)
  obtain ⟨hrow, hsame⟩ := ((T.get d).find?_eq_some _ _).mp hr
  have hid : kind.ofUuid (env.uuid4 n) ∈ kind.stored d := by
    rw [hT.stored, ← hkey, ← hsame]
    exact List.mem_map_of_mem hrow
  exact ⟨n, hn, h _ hid⟩

/-- A row under a drawn id is added, or one stood under it already. -/
theorem insertRow_contract (hT : kind.KeyOf T) (h : .idTaken kind ∈ cs) {uuid : String}
    (hkey : Keyed.key row = kind.ofUuid uuid) :
    Contract (JustDrawn env db uuid) (insertRow T row) (fun _ => Tracked env db)
      (Fails rt env db cs) where
  returns {s u t} hs hrun := by
    obtain ⟨n, rfl, hn, hkinds⟩ := hs
    obtain ⟨rows, hins, rfl⟩ := insertRow_eq_ok.mp hrun
    intro kind'
    show kind'.Accounted env db s.uuids (T.set s.db rows)
    rw [hn]
    by_cases hk : kind' = kind
    · subst hk
      exact (hkinds kind').insert hT hkey hins
    · intro id hid
      rw [hT.others s.db rows kind' hk] at hid
      exact (hkinds kind' id hid).imp_right fun ⟨m, hm, he⟩ => ⟨m, Nat.lt_succ_of_lt hm, he⟩
  raises {s ex t} hs hrun := by
    obtain ⟨n, rfl, hn, hkinds⟩ := hs
    obtain ⟨rows, _, hok⟩ | ⟨hnone, herror⟩ := insertRow_cases T row s
    · cases hok.symm.trans hrun
    · cases herror.symm.trans hrun
      exact .idTaken kind h ((hkinds kind).taken hT hkey hnone (hn ▸ Nat.lt_succ_self n))

end

namespace IdKind

theorem keyOf_tenants : KeyOf .tenant Tables.tenants where
  stored _ := rfl
  get_set _ _ := rfl
  others d rows kind hk := by
    cases kind with
    | tenant => exact absurd rfl hk
    | _ => rfl

theorem keyOf_users : KeyOf .user Tables.users where
  stored _ := rfl
  get_set _ _ := rfl
  others d rows kind hk := by
    cases kind with
    | user => exact absurd rfl hk
    | _ => rfl

theorem keyOf_caseNotes : KeyOf .note Tables.caseNotes where
  stored _ := rfl
  get_set _ _ := rfl
  others d rows kind hk := by
    cases kind with
    | note => exact absurd rfl hk
    | _ => rfl

theorem keyOf_ruleStates : KeyOf .ruleState Tables.ruleStates where
  stored _ := rfl
  get_set _ _ := rfl
  others d rows kind hk := by
    cases kind with
    | ruleState => exact absurd rfl hk
    | _ => rfl

theorem keyOf_incidents : KeyOf .incident Tables.incidents where
  stored _ := rfl
  get_set _ _ := rfl
  others d rows kind hk := by
    cases kind with
    | incident => exact absurd rfl hk
    | _ => rfl

end IdKind

theorem createUser_contract (tenantId username password role : String) (x : Option String)
    (h : .idTaken .user ∈ cs) :
    Contract (Tracked env db) (UserRepository.create env tenantId username password role x)
      (fun _ => Tracked env db) (Fails rt env db cs) := by
  refine uuidHex_contract.bind fun id => ?_
  refine (readClock_contract fun _ hs => hs).bind fun now => ?_
  exact Contract.bind (insertRow_contract IdKind.keyOf_users h rfl) fun _ => Contract.pure fun _ hs => hs

theorem createTenant_contract (name status plan : String) (h : .idTaken .tenant ∈ cs) :
    Contract (fun s => Tracked env db s ∧ tenantsNamed s.db name = [])
      (TenantRepository.create env name status plan) (fun _ => Tracked env db) (Fails rt env db cs) := by
  refine Contract.bind (Q := fun id s => JustDrawn env db id s ∧ tenantsNamed s.db name = []) ?_ fun id => ?_
  · exact uuidHex_contract.and_returns fun s id t hfree hrun => by
      cases hrun
      exact hfree
  refine (readClock_contract fun _ hs => hs).bind fun now => ?_
  refine Contract.bind (Q := fun _ => JustDrawn env db id) ?_ fun _ => ?_
  · -- the name has just been found free
    refine Contract.of_ok fun s hs => ⟨(), s, ?_, hs.1⟩
    have hsel : (selectAll Tables.tenants fun t => t.name == name).run s = .ok (tenantsNamed s.db name) s := rfl
    unfold TenantRepository.checkNameFree
    rw [run_bind_ok hsel, hs.2]
    rfl
  · exact Contract.bind (insertRow_contract IdKind.keyOf_tenants h rfl) fun _ =>
      Contract.pure fun _ hs => hs

/-- A lookup by name, which leaves the session. -/
theorem getByName_contract {P : Session → Prop} {E : Exc → Session → Prop} (name : String)
    (hP : ∀ s, P s → Unambiguous s.db) :
    Contract P (TenantRepository.getByName name)
      (fun o s => P s ∧ tenantsNamed s.db name = o.toList) E := by
  refine Contract.of_ok fun s hs => ?_
  obtain ⟨o, hrun⟩ := (hP s hs).getByName_ok name
  exact ⟨o, s, hrun, hs, (getByName_run.mp hrun).1⟩

theorem getByUsername_contract {P : Session → Prop} {E : Exc → Session → Prop} (tenantId username : String)
    (hP : ∀ s, P s → Unambiguous s.db) :
    Contract P (UserRepository.getByUsername tenantId username)
      (fun o s => P s ∧ usersNamed s.db tenantId username = o.toList) E := by
  refine Contract.of_ok fun s hs => ?_
  obtain ⟨o, hrun⟩ := (hP s hs).getByUsername_ok tenantId username
  exact ⟨o, s, hrun, hs, (UserRepository.getByUsername_run.mp hrun).1⟩

theorem raiseIf_contract {P : Session → Prop} (c : Bool) (status : Nat) (detail : ErrorDetail) :
    Contract P (raiseIf c (.http status detail)) (fun _ s => P s ∧ c = false) (Fails rt env db cs) where
  returns hs hrun := by
    obtain ⟨hc, rfl⟩ := raiseIf_eq_ok.mp hrun
    exact ⟨hs, hc⟩
  raises _ hrun := (raiseIf_refuses c status detail).raises trivial hrun

theorem login_fails (body : Routes.LoginRequest) :
    Contract (fun s => Unambiguous s.db) (Routes.login rt env body) (fun _ _ => True)
      (Fails rt env db cs) := by
  refine (getByName_contract body.tenant fun _ h => h).bind fun o => ?_
  cases o with
  | none => exact (throw_refuses _ _).contract _
  | some tenant =>
    refine (raiseIf_contract _ _ _).bind fun _ => ?_
    refine Contract.bind (Q := fun _ _ => True) ?_ fun o => ?_
    · refine (getByUsername_contract tenant.id body.username fun _ h => h.1.1).bind fun o => ?_
      cases o with
      | none => exact Contract.pure fun _ _ => trivial
      | some user => exact Contract.pure fun _ _ => trivial
    · cases o with
      | none =>
        refine Contract.bind (AuditService.recordEntry_silent rt env _) fun _ => ?_
        exact Contract.bind commit_silent fun _ => throw_refuses _ _
      | some user =>
        refine Contract.bind (AuditService.recordEntry_silent rt env _) fun _ => ?_
        exact Contract.bind (issueToken_silent rt env _) fun k => Contract.pure fun _ _ => trivial

theorem createUser_fails (hdb : Unambiguous db) (auth : Authorization) (body : AdminRoutes.CreateUserRequest) :
    Contract (Opened db) (AdminRoutes.createUser rt env auth body) (fun _ _ => True)
      (Fails rt env db [.idTaken .user]) := by
  refine (require_opened auth _).bind fun p => ?_
  refine (raiseIf_contract _ _ _).bind fun _ => (raiseIf_contract _ _ _).bind fun _ => ?_
  refine (raiseIf_contract _ _ _).bind fun _ => ?_
  refine (getByUsername_contract _ _ fun s h => ?_).bind fun existing => ?_
  · rw [h.1.1.1.rows]
    exact hdb
  refine (raiseIf_contract _ _ _).bind fun _ => ?_
  refine Contract.bind ((createUser_contract _ _ _ _ _ (by decide)).of_pre
    fun s h => h.1.1.1.1.1.tracked) fun user => ?_
  exact ((AuditService.recordEntry_silent rt env _).bind fun _ => Raises.pure _).contract _

theorem createTenant_fails (hdb : Unambiguous db) (auth : Authorization)
    (body : ProviderRoutes.CreateTenantRequest) :
    Contract (Opened db) (ProviderRoutes.createTenant rt env auth body) (fun _ _ => True)
      (Fails rt env db [.idTaken .tenant, .idTaken .user]) := by
  refine (requireProvider_opened auth).bind fun p => ?_
  refine (raiseIf_contract _ _ _).bind fun _ => (raiseIf_contract _ _ _).bind fun _ => ?_
  refine (raiseIf_contract _ _ _).bind fun _ => (raiseIf_contract _ _ _).bind fun _ => ?_
  refine (raiseIf_contract _ _ _).bind fun _ => ?_
  refine (getByName_contract _ fun s h => ?_).bind fun existing => ?_
  · rw [h.1.1.1.1.1.rows]
    exact hdb
  refine (raiseIf_contract _ _ _).bind fun _ => ?_
  refine Contract.bind ((createTenant_contract _ _ _ (by decide)).of_pre fun s h => ?_) fun tenant => ?_
  · refine ⟨h.1.1.1.1.1.1.1.tracked, ?_⟩
    obtain rfl : existing = none := by simpa using h.2
    exact h.1.2
  refine Contract.bind (createUser_contract _ _ _ _ _ (by decide)) fun user => ?_
  exact ((AuditService.recordEntry_silent rt env _).bind fun _ => Raises.pure _).contract _

theorem addNote_fails (auth : Authorization) (invId body : String) :
    Contract (Opened db) (Routes.addNote rt env auth invId body) (fun _ _ => True)
      (Fails rt env db [.idTaken .note]) := by
  refine (require_opened auth _).bind fun p => (raiseIf_contract _ _ _).bind fun _ => ?_
  refine Contract.bind (Q := fun _ _ => True) ?_ fun o => ?_
  · refine Contract.bind (Q := fun _ => Tracked env db) ?_ fun o => ?_
    · exact Contract.of_ok fun s hs =>
        ⟨_, s, InvestigationRepository.getRow_run p.tenantId invId s, hs.1.tracked⟩
    · cases o with
      | none => exact Contract.pure fun _ _ => trivial
      | some row =>
        refine uuidHex_contract.bind fun id => (readClock_contract fun _ hs => hs).bind fun now => ?_
        exact Contract.bind (insertRow_contract IdKind.keyOf_caseNotes (by decide) rfl) fun _ =>
          Contract.pure fun _ _ => trivial
  · refine Contract.bind (orRaise_refuses _ _ o) fun note => ?_
    exact Contract.bind (AuditService.recordEntry_silent rt env _) fun _ => Contract.pure fun _ _ => trivial

theorem toggleRule_fails (hdb : Unambiguous db) (auth : Authorization) (ruleId : String) (enabled : Bool) :
    Contract (Opened db) (Routes.toggleRule rt env auth ruleId enabled) (fun _ _ => True)
      (Fails rt env db [.idTaken .ruleState]) := by
  refine (require_opened auth _).bind fun p => ?_
  refine Contract.bind (Q := fun _ => Opened db) ?_ fun rule => ?_
  · cases defaultRules.find? fun r => r.ruleId == ruleId with
    | none => exact Contract.throw fun _ _ => .refused _ _
    | some rule => exact Contract.pure fun _ hs => hs
  refine Contract.bind (Q := fun _ _ => True) ?_ fun _ => ?_
  · refine Contract.bind (Q := fun _ => Tracked env db) ?_ fun o => ?_
    · refine Contract.of_ok fun s hs => ?_
      obtain ⟨o, hrun⟩ := Unambiguous.ruleState_ok (s := s) (hs.rows ▸ hdb) p.tenantId ruleId
      exact ⟨o, s, hrun, hs.tracked⟩
    · cases o with
      | none =>
        refine uuidHex_contract.bind fun id => ?_
        exact (insertRow_contract IdKind.keyOf_ruleStates (by decide) rfl).mono (fun _ h => h)
          (fun _ _ _ => trivial) fun _ _ h => h
      | some row => exact (updateRow_silent _ _ _).contract _
  · exact Contract.bind (AuditService.recordEntry_silent rt env _) fun _ => Contract.pure fun _ _ => trivial

end

end SentinelAI
