import SentinelAI.Api.Lifespan
import SentinelAI.Records.Statements
import SentinelAI.Security.Accounts
import SentinelAI.Security.CaseOps
import SentinelAI.Tenancy.Seeding

/-
  Every request executes a transaction: repository by repository, then route by route, and
  last for the world a request or a start leaves behind (`occur_transaction`).
-/

namespace SentinelAI

open Lib

variable {rt : Runtime} {caller : Option String} {α : Type}

/-! ## Services and repositories -/

theorem recordEntry_executed {env : Env} {e : AuditEntry} {s : Session}
    (h : Owner caller s.db e.tenantId ∨ e.tenantId = platformTenant) :
    Executed rt caller s (stateOf ((AuditService.recordEntry rt env e).run s)) := by
  rw [AuditService.recordEntry_run]
  exact .statement (.audited _ e h) rfl

/-- An entry of the caller's tenant. -/
theorem ownEntry_moves (rt : Runtime) (env : Env) {e : AuditEntry} {tenantId : String}
    (h : e.tenantId = tenantId) :
    Moves (Executed rt (some tenantId)) (AuditService.recordEntry rt env e) :=
  fun _ => recordEntry_executed (Or.inl (Or.inl (congrArg some h.symm)))

/-- An entry of the platform's partition. -/
theorem platformEntry_moves (env : Env) {e : AuditEntry} (h : e.tenantId = platformTenant) :
    Moves (Executed rt caller) (AuditService.recordEntry rt env e) :=
  fun _ => recordEntry_executed (Or.inr h)

theorem meter_moves (env : Env) {tenantId : String} (h : caller = some tenantId) (kind : String)
    (quantity : Int) (detail : String) :
    Moves (Executed rt caller) (MeteringService.record rt env tenantId kind quantity detail) := by
  intro s
  unfold MeteringService.record
  by_cases hkind : validKinds.contains kind = true
  · rw [if_neg (by simpa using hkind)]
    exact .statement (.metered _ (Or.inl h) (List.contains_iff_mem.mp hkind) rfl) rfl
  · rw [if_pos (by simpa using hkind)]
    exact .of_same rfl rfl

namespace UserRepository

theorem create_executed {env : Env} {tenantId username password role : String}
    {externalId : Option String} {s : Session} (h : Owner caller s.db tenantId) :
    Executed rt caller s
      (stateOf ((create env tenantId username password role externalId).run s)) := by
  refine executed_bind (x := uuidHex env) (.of_same rfl rfl) fun id t hid => ?_
  cases hid
  refine executed_bind (x := readClock env) (.of_same rfl rfl) fun now t hnow => ?_
  cases hnow
  refine executed_bind (insertRow_executed fun after hins => .newUser _ after h hins) fun _ t _ => ?_
  exact .of_same rfl rfl

theorem update_moves (tenantId userId : String) (f : UserRow → UserRow)
    (hf : ∀ r, (f r).id = r.id) (htenant : ∀ r, (f r).tenantId = r.tenantId) :
    Moves (Executed rt caller) (update tenantId userId f hf) := by
  intro s
  unfold update
  rw [run_bind_ok (get_run tenantId userId s)]
  cases (s.db.users.find? userId).filter fun u => u.tenantId == tenantId with
  | none => exact .of_same rfl rfl
  | some user => exact .statement (.user user.id f hf htenant) rfl

theorem setRole_moves (tenantId userId role : String) :
    Moves (Executed rt caller) (setRole tenantId userId role) :=
  update_moves _ _ _ _ fun _ => rfl

theorem linkExternalId_moves (tenantId userId externalId : String) :
    Moves (Executed rt caller) (linkExternalId tenantId userId externalId) :=
  update_moves _ _ _ _ fun _ => rfl

theorem delete_moves (tenantId userId : String) :
    Moves (Executed rt caller) (delete tenantId userId) := by
  intro s
  unfold delete
  rw [run_bind_ok (get_run tenantId userId s)]
  cases (s.db.users.find? userId).filter fun u => u.tenantId == tenantId with
  | none => exact .of_same rfl rfl
  | some user => exact .statement (.removedUser user.id) rfl

end UserRepository

namespace TenantRepository

theorem update_moves (tenantId : String) (f : TenantRow → TenantRow) (hf : ∀ r, (f r).id = r.id)
    (hname : ∀ r, (f r).name = r.name) (hcreated : ∀ r, (f r).createdAt = r.createdAt) :
    Moves (Executed rt caller) (update tenantId f hf) := by
  intro s
  unfold update
  rw [run_bind_ok (tenantGet_run tenantId s)]
  cases s.db.tenants.find? tenantId with
  | none => exact .of_same rfl rfl
  | some tenant => exact .statement (.tenant tenant.id f hf hname hcreated) rfl

theorem setStatus_moves (tenantId status : String) :
    Moves (Executed rt caller) (setStatus tenantId status) :=
  update_moves _ _ _ (fun _ => rfl) fun _ => rfl

theorem setPlan_moves (tenantId plan : String) :
    Moves (Executed rt caller) (setPlan tenantId plan) :=
  update_moves _ _ _ (fun _ => rfl) fun _ => rfl

theorem updateSettings_moves (tenantId : String) (settings : List (String × JsonValue)) :
    Moves (Executed rt caller) (updateSettings tenantId settings) :=
  update_moves _ _ _ (fun _ => rfl) fun _ => rfl

theorem create_moves (env : Env) (name status plan : String) :
    Moves (Executed rt caller) (create env name status plan) := by
  intro s
  refine executed_bind (x := uuidHex env) (.of_same rfl rfl) fun id t hid => ?_
  cases hid
  refine executed_bind (x := readClock env) (.of_same rfl rfl) fun now t hnow => ?_
  cases hnow
  have hcheck : Touches unwritten (checkNameFree name) := by grind [checkNameFree]
  refine executed_bind (reads hcheck _) fun _ t _ => ?_
  exact executed_bind (insertRow_executed fun after hins => .newTenant _ after hins) fun _ t _ =>
    .of_same rfl rfl

end TenantRepository

namespace InvestigationRepository

/-- The flush of what an operation made of a loaded row. -/
theorem flushed_executed {tenantId invId : String} {row new : InvestigationRow} {s : Session}
    (hrow : ownRow s.db tenantId invId = some row) (hid : new.id = row.id)
    (htenant : new.tenantId = row.tenantId) (hcreated : new.createdAt = row.createdAt) :
    Executed rt caller s (flushed new s) := by
  have hmem := ((s.db.investigations.find?_eq_some _ _).mp (ownRow_eq_some.mp hrow).1).1
  exact .statement (.case new row hmem hid htenant hcreated) rfl

theorem save_moves (env : Env) {tenantId : String} (h : caller = some tenantId) (inv : Investigation) :
    Moves (Executed rt caller) (save env tenantId inv) := by
  intro s
  obtain ⟨_, rows, hins, hrun⟩ | ⟨_, _, hrun⟩ | ⟨row, hrow, hrun⟩ := save_cases env tenantId inv s
  · rw [hrun]
    exact .statement (.newCase _ rows (Or.inl h) hins) rfl
  · rw [hrun]
    exact .of_same rfl rfl
  · rw [hrun]
    exact flushed_executed hrow rfl rfl rfl

theorem setAssignee_moves (tenantId invId : String) (assignee : Option String) :
    Moves (Executed rt caller) (setAssignee tenantId invId assignee) := by
  intro s
  rw [setAssignee_run]
  cases hrow : ownRow s.db tenantId invId with
  | none => exact .of_same rfl rfl
  | some row => exact flushed_executed hrow rfl rfl rfl

theorem approveAction_moves (tenantId invId : String) (i : Int) :
    Moves (Executed rt caller) (approveAction tenantId invId i) := by
  intro s
  rw [approveAction_run]
  cases hrow : (ownRow s.db tenantId invId).bind (approveRow i) with
  | none => exact .of_same rfl rfl
  | some new =>
    obtain ⟨row, hown, hnew⟩ := Option.bind_eq_some_iff.mp hrow
    obtain ⟨a, _, rfl⟩ := Option.map_eq_some_iff.mp hnew
    exact flushed_executed hown rfl rfl rfl

theorem executeAction_moves (env : Env) (tenantId invId : String) (i : Int) :
    Moves (Executed rt caller) (executeAction env tenantId invId i) := by
  intro s
  rw [executeAction_run]
  cases hrow : ownRow s.db tenantId invId with
  | none => exact .of_same rfl rfl
  | some row =>
    dsimp only
    cases executableAction i row with
    | error e => exact .of_same rfl rfl
    | ok a =>
      dsimp only
      cases executorResult env.connectors a.actionType a.target with
      | error ex => exact .of_same rfl rfl
      | ok res =>
        have hsent : Executed rt caller s (dispatched env a s) := .of_same rfl rfl
        refine trans_of (Executed rt caller) hsent
          (flushed_executed (s := dispatched env a s) hrow ?_ ?_ ?_)
        all_goals
          unfold executeRow
          dsimp only
          split <;> rfl

theorem addNote_moves (env : Env) {tenantId : String} (h : caller = some tenantId) (invId author body : String) :
    Moves (Executed rt caller) (addNote env tenantId invId author body) := by
  intro s
  unfold addNote
  rw [run_bind_ok (getRow_own tenantId invId s)]
  cases hrow : ownRow s.db tenantId invId with
  | none => exact .of_same rfl rfl
  | some row =>
    obtain ⟨hfind, htenant⟩ := ownRow_eq_some.mp hrow
    obtain ⟨hmem, hid⟩ := (s.db.investigations.find?_eq_some _ _).mp hfind
    dsimp only
    refine executed_bind (x := uuidHex env) (.of_same rfl rfl) fun id t hid => ?_
    cases hid
    refine executed_bind (x := readClock env) (.of_same rfl rfl) fun now t hnow => ?_
    cases hnow
    refine executed_bind (insertRow_executed fun after hins => ?_) fun _ t _ => .of_same rfl rfl
    exact .note _ after (Or.inl h) ⟨row, hmem, hid, htenant⟩ hins

end InvestigationRepository

theorem CaseWorkflowMixin.transitionStatus_moves (env : Env) (tenantId invId target : String) :
    Moves (Executed rt caller) (CaseWorkflowMixin.transitionStatus env tenantId invId target) := by
  intro s
  rw [CaseWorkflowMixin.transitionStatus_run]
  cases hrow : ownRow s.db tenantId invId with
  | none => exact .of_same rfl rfl
  | some row =>
    dsimp only
    cases legalTransition target row with
    | error e => exact .of_same rfl rfl
    | ok status =>
      have hread : Executed rt caller s s.ticked := .of_same rfl rfl
      refine trans_of (Executed rt caller) hread ?_
      exact InvestigationRepository.flushed_executed (s := s.ticked) hrow rfl rfl rfl

theorem IncidentRepository.replaceAll_moves (env : Env) {tenantId : String} (h : caller = some tenantId)
    (incidents : List Incident) :
    Moves (Executed rt caller) (IncidentRepository.replaceAll env tenantId incidents) := by
  unfold IncidentRepository.replaceAll
  refine (reads (selectAll_touches _)).bind fun existing => ?_
  refine (Moves.forM (fun row s => ?_) existing).bind fun _ => Moves.forM (fun inc s => ?_) incidents
  · exact .statement (.clearedIncident row.id) rfl
  · refine executed_bind (x := readClock env) (.of_same rfl rfl) fun now t hnow => ?_
    cases hnow
    exact insertRow_executed fun after hins => .incident _ after (Or.inl h) hins

theorem RuleStateRepository.setEnabled_moves (env : Env) {tenantId ruleId : String}
    (h : caller = some tenantId) (hrule : ∃ rule ∈ defaultRules, rule.ruleId = ruleId) (enabled : Bool) :
    Moves (Executed rt caller) (RuleStateRepository.setEnabled env tenantId ruleId enabled) := by
  unfold RuleStateRepository.setEnabled
  refine (reads (selectOne_touches _)).bind fun o s => ?_
  cases o with
  | none =>
    refine executed_bind (x := uuidHex env) (.of_same rfl rfl) fun id t hid => ?_
    cases hid
    exact insertRow_executed fun after hins => .newRuleState _ after (Or.inl h) hrule hins
  | some row => exact .statement (.ruleState row.id enabled) rfl

theorem CredentialRepository.upsert_moves (env : Env) {tenantId : String} (h : caller = some tenantId)
    (u : UpdateCredentials) :
    Moves (Executed rt caller) (CredentialRepository.upsert env tenantId u) := by
  have hget : Touches unwritten (CredentialRepository.getRow tenantId) := by
    grind [CredentialRepository.getRow]
  unfold CredentialRepository.upsert
  refine (reads hget).bind fun o s => ?_
  cases o with
  | none =>
    refine executed_bind (insertRow_executed fun after hins => ?_) fun _ t _ => .of_same rfl rfl
    exact .newCredentials _ after (Or.inl h) hins
  | some row => exact .statement (.credentials row.tenantId (u.apply env) fun _ => rfl) rfl

theorem TokenRepository.revoke_moves (env : Env) {tenantId : String} (h : caller = some tenantId)
    (jti : String) : Moves (Executed rt caller) (TokenRepository.revoke env tenantId jti) := by
  unfold TokenRepository.revoke
  refine (reads (sessionGet_touches _)).bind fun o s => ?_
  cases o with
  | some row => exact .of_same rfl rfl
  | none =>
    refine executed_bind (x := readClock env) (.of_same rfl rfl) fun now t hnow => ?_
    cases hnow
    exact insertRow_executed fun after hins => .revoked _ after (Or.inl h) hins

/-! ## Routes -/

theorem Executed.mono {c c' : Option String} {s t : Session} (h : Executed rt c s t)
    (hc : ∀ tenantId, c = some tenantId → Owner c' s.db tenantId) : Executed rt c' s t :=
  ⟨h.rows.mono hc, h.committed.imp id fun hcommitted => hcommitted.mono hc⟩

/-- What a route writes, it writes for the tenant of an admitted token or for tenants that are
    stored. -/
def Authorised (rt : Runtime) (env : Env) (auth : Authorization) (m : ApiM α) : Prop :=
  ∀ s, ∃ caller : Option String,
    (∀ tenantId, caller = some tenantId →
      ∃ token, Identified s.db s.issued (env.now s.ticks) auth token ∧ token.tenantId = tenantId) ∧
    Executed rt caller s (stateOf (m.run s))

namespace Authorised

variable {env : Env} {auth : Authorization}

theorem of_moves {m : ApiM α} (h : Moves (Executed rt none) m) : Authorised rt env auth m :=
  fun s => ⟨none, fun _ hc => (by cases hc), h s⟩

theorem map {β : Type} {m : ApiM α} (f : α → β) (h : Authorised rt env auth m) :
    Authorised rt env auth (f <$> m) := by
  intro s
  obtain ⟨caller, hcaller, hrun⟩ := h s
  refine ⟨caller, hcaller, ?_⟩
  rw [run_map]
  cases hm : m.run s <;> rwa [hm] at hrun

/-- Past a gate, a route writes for the principal's tenant. -/
theorem gate {g : ApiM Principal} {k : Principal → ApiM α} (hg : Touches unwritten g)
    (hid : ∀ s p t, g.run s = .ok p t → ∃ token,
      Identified s.db s.issued (env.now s.ticks) auth token ∧ p = token.principal)
    (hk : ∀ p, Moves (Executed rt (some p.tenantId)) (k p)) :
    Authorised rt env auth (g >>= k) := by
  intro s
  cases hrun : g.run s with
  | ok p t =>
    obtain ⟨token, htoken, rfl⟩ := hid s p t hrun
    refine ⟨some token.tenantId, fun tenantId ht => ⟨token, htoken, Option.some.inj ht⟩, ?_⟩
    exact executed_bind (reads hg s) fun a u hau => by
      cases hrun.symm.trans hau
      exact hk token.principal t
  | error e t =>
    refine ⟨none, fun _ hc => (by cases hc), ?_⟩
    exact executed_bind (reads hg s) fun a u hau => by cases hrun.symm.trans hau

theorem require {perm : Permission} {k : Principal → ApiM α}
    (hk : ∀ p, Moves (Executed rt (some p.tenantId)) (k p)) :
    Authorised rt env auth (Deps.require env auth perm >>= k) := by
  refine gate (Deps.require_touches ..) (fun s p t hp => ?_) hk
  obtain ⟨⟨token, hid, hp, _⟩, _⟩ := require_eq_ok.mp hp
  exact ⟨token, hid, hp⟩

theorem principal {k : Principal → ApiM α}
    (hk : ∀ p, Moves (Executed rt (some p.tenantId)) (k p)) :
    Authorised rt env auth (Deps.getPrincipal env auth >>= k) := by
  refine gate (Deps.getPrincipal_touches ..) (fun s p t hp => ?_) hk
  obtain ⟨token, hid, hp, _⟩ := getPrincipal_eq_ok.mp hp
  exact ⟨token, hid, hp⟩

end Authorised

section

variable (rt : Runtime) (env : Env) (auth : Authorization)

/-- The entry a route ends with. -/
theorem entry_moves {e : AuditEntry} {tenantId : String} {f : Unit → ApiM α}
    (h : e.tenantId = tenantId) (hf : ∀ u, Touches unwritten (f u)) :
    Moves (Executed rt (some tenantId)) (AuditService.recordEntry rt env e >>= f) :=
  (ownEntry_moves rt env h).bind fun u => reads (hf u)

theorem Routes.login_moves (body : Routes.LoginRequest) :
    Moves (Executed rt none) (Routes.login rt env body) := by
  unfold Routes.login
  intro s
  refine executed_bind (reads (selectOne_touches _) s) fun o t ho => ?_
  obtain ⟨rfl, htenant⟩ := getByName_ok ho
  cases o with
  | none => exact .of_same rfl rfl
  | some tenant =>
    have hpresent : Present t.db tenant.id := ⟨tenant, (htenant tenant rfl).1, rfl⟩
    refine Executed.mono (c := some tenant.id) (Moves.bind (reads ?_) (fun _ => ?_) t)
      fun tenantId ht => Or.inr (Option.some.inj ht ▸ hpresent)
    · exact raiseIf_touches ..
    refine (reads (UserRepository.authenticate_touches ..)).bind fun user => ?_
    cases user with
    | none =>
      refine Moves.bind ?_ fun _ => commit_executed.bind fun _ => Moves.throw _
      exact ownEntry_moves rt env rfl
    | some user =>
      refine entry_moves rt env rfl fun _ => ?_
      grind

theorem Routes.logout_authorised : Authorised rt env auth (Routes.logout rt env auth) := by
  refine Authorised.principal fun p => ?_
  cases p.jti with
  | none => exact ownEntry_moves rt env rfl
  | some jti =>
    exact (TokenRepository.revoke_moves env rfl jti).bind fun _ => ownEntry_moves rt env rfl

theorem Routes.approveAction_authorised (invId : String) (i : Int) :
    Authorised rt env auth (Routes.approveAction rt env auth invId i) := by
  refine Authorised.require fun p => ?_
  refine (InvestigationRepository.approveAction_moves p.tenantId invId i).bind fun inv => ?_
  refine (reads (orRaise_touches ..)).bind fun inv => ?_
  exact entry_moves rt env rfl fun _ => Touches.pure _

theorem Routes.afterExecution_moves (p : Principal) (invId : String) (i : Int)
    (executed : IncidentAction) :
    Moves (Executed rt (some p.tenantId)) (Routes.afterExecution rt env p invId i executed) := by
  unfold Routes.afterExecution
  refine (meter_moves env rfl kindAction 1 executed.actionType).bind fun _ => ?_
  refine entry_moves rt env rfl fun _ => ?_
  grind [NotificationService.alertActionExecuted]

theorem Routes.executeAction_authorised (invId : String) (i : Int) :
    Authorised rt env auth (Routes.executeAction rt env auth invId i) := by
  refine Authorised.require fun p => ?_
  refine (InvestigationRepository.executeAction_moves env p.tenantId invId i).bind fun r => ?_
  cases r with
  | error e => exact Moves.throw _
  | ok inv =>
    refine (reads (orRaise_touches ..)).bind fun executed => ?_
    exact (Routes.afterExecution_moves rt env p invId i executed).bind fun _ => Moves.pure _

theorem Routes.transitionStatus_authorised (invId status : String) :
    Authorised rt env auth (Routes.transitionStatus rt env auth invId status) := by
  refine Authorised.require fun p => ?_
  refine (CaseWorkflowMixin.transitionStatus_moves env p.tenantId invId status).bind fun r => ?_
  cases r with
  | error e => exact Moves.throw _
  | ok inv => exact entry_moves rt env rfl fun _ => Touches.pure _

theorem Routes.assignInvestigation_authorised (invId : String) (assignee : Option String) :
    Authorised rt env auth (Routes.assignInvestigation rt env auth invId assignee) := by
  refine Authorised.require fun p => ?_
  refine (InvestigationRepository.setAssignee_moves p.tenantId invId assignee).bind fun inv => ?_
  refine (reads (orRaise_touches ..)).bind fun inv => ?_
  exact entry_moves rt env rfl fun _ => Touches.pure _

theorem Routes.addNote_authorised (invId body : String) :
    Authorised rt env auth (Routes.addNote rt env auth invId body) := by
  refine Authorised.require fun p => ?_
  refine (reads (Deps.validateLength_touches ..)).bind fun _ => ?_
  refine (InvestigationRepository.addNote_moves env rfl invId p.username body).bind fun note => ?_
  refine (reads (orRaise_touches ..)).bind fun note => ?_
  exact entry_moves rt env rfl fun _ => Touches.pure _

theorem Routes.toggleRule_authorised (ruleId : String) (enabled : Bool) :
    Authorised rt env auth (Routes.toggleRule rt env auth ruleId enabled) := by
  refine Authorised.require fun p => ?_
  cases hrule : defaultRules.find? fun r => r.ruleId == ruleId with
  | none => exact Moves.throw _
  | some rule =>
    have hid : rule.ruleId = ruleId := by simpa using List.find?_some hrule
    refine (reads (orRaise_touches (httpError 404 "Rule not found") (some rule))).bind fun _ => ?_
    refine (RuleStateRepository.setEnabled_moves env rfl
      ⟨rule, List.mem_of_find?_eq_some hrule, hid⟩ enabled).bind fun _ => ?_
    exact entry_moves rt env rfl fun _ => Touches.pure _

/-! ### The pipeline -/

theorem Routes.saveInvestigation_moves (p : Principal) (inv : Investigation) :
    Moves (Executed rt (some p.tenantId)) (Routes.saveInvestigation rt env p inv) :=
  (InvestigationRepository.save_moves env rfl inv).bind fun _ => ownEntry_moves rt env rfl

theorem Routes.afterPipeline_moves (p : Principal) (n : Int) (invs : List Investigation) :
    Moves (Executed rt (some p.tenantId)) (Routes.afterPipeline rt env p n invs) := by
  unfold Routes.afterPipeline Routes.meterModelCalls Routes.refreshIncidents
  refine (meter_moves env rfl kindSearch n "detection run").bind fun _ => ?_
  refine Moves.bind (Moves.ite ?_ (Moves.pure _)) fun _ => ?_
  · exact (meter_moves env rfl kindModelCall _ "triage").bind fun _ => Moves.pure _
  refine (Moves.forM (Routes.saveInvestigation_moves rt env p) invs).bind fun _ => ?_
  refine (reads (InvestigationRepository.list_touches ..)).bind fun page => ?_
  refine (reads (correlate_touches env _)).bind fun correlated => ?_
  refine (IncidentRepository.replaceAll_moves env rfl _).bind fun _ => ?_
  refine reads ((Touches.forM (fun inc => ?_) _).bind fun _ => Touches.pure _)
  grind [NotificationService.maybeAlertHighRisk]

theorem Routes.runInvestigations_authorised :
    Authorised rt env auth (Routes.runInvestigations rt env auth) := by
  refine Authorised.require fun p => ?_
  refine (reads (Deps.getTenantOrchestrator_touches rt p)).bind fun orch s => ?_
  rw [Routes.runInvestigationsFor_run]
  split
  · have hread : Executed rt (some p.tenantId) s s.ticked := .of_same rfl rfl
    have hpipe := (Orchestrator.runFullPipeline_touches rt env orch
      (disabledAt s.db p.tenantId)).mono (G := unwritten) (by decide)
    refine trans_of (Executed rt (some p.tenantId)) hread ?_
    exact (reads hpipe).bind (Routes.afterPipeline_moves rt env p _) s.ticked
  · exact .of_same rfl rfl

/-! ### Administration -/

theorem AdminRoutes.createUser_authorised (body : AdminRoutes.CreateUserRequest) :
    Authorised rt env auth (AdminRoutes.createUser rt env auth body) := by
  refine Authorised.require fun p => ?_
  refine (reads (Deps.validateLength_touches ..)).bind fun _ => ?_
  refine (reads (Deps.validateLength_touches ..)).bind fun _ => ?_
  refine (reads (raiseIf_touches ..)).bind fun _ => ?_
  refine (reads (selectOne_touches _)).bind fun existing => ?_
  refine (reads (raiseIf_touches ..)).bind fun _ => ?_
  refine Moves.bind (fun s => UserRepository.create_executed (Or.inl rfl)) fun user => ?_
  exact entry_moves rt env rfl fun _ => Touches.pure _

theorem AdminRoutes.updateRole_authorised (userId role : String) :
    Authorised rt env auth (AdminRoutes.updateRole rt env auth userId role) := by
  refine Authorised.require fun p => ?_
  refine (reads (raiseIf_touches ..)).bind fun _ => ?_
  refine (UserRepository.setRole_moves p.tenantId userId role).bind fun o => ?_
  refine (reads (orRaise_touches ..)).bind fun user => ?_
  exact entry_moves rt env rfl fun _ => Touches.pure _

theorem AdminRoutes.linkIdentity_authorised (userId externalId : String) :
    Authorised rt env auth (AdminRoutes.linkIdentity rt env auth userId externalId) := by
  refine Authorised.require fun p => ?_
  refine (reads (Deps.validateLength_touches ..)).bind fun _ => ?_
  refine (UserRepository.linkExternalId_moves p.tenantId userId externalId).bind fun o => ?_
  refine (reads (orRaise_touches ..)).bind fun user => ?_
  exact entry_moves rt env rfl fun _ => Touches.pure _

theorem AdminRoutes.deleteUser_authorised (userId : String) :
    Authorised rt env auth (AdminRoutes.deleteUser rt env auth userId) := by
  refine Authorised.require fun p => ?_
  refine (reads (raiseIf_touches ..)).bind fun _ => ?_
  refine (UserRepository.delete_moves p.tenantId userId).bind fun ok => ?_
  refine (reads (raiseIf_touches ..)).bind fun _ => ?_
  exact ownEntry_moves rt env rfl

theorem TenantRoutes.updateSettings_authorised (settings : List (String × JsonValue)) :
    Authorised rt env auth (TenantRoutes.updateSettings rt env auth settings) := by
  refine Authorised.require fun p => ?_
  refine (TenantRepository.updateSettings_moves p.tenantId settings).bind fun o => ?_
  refine (reads (orRaise_touches ..)).bind fun tenant => ?_
  exact entry_moves rt env rfl fun _ => Touches.pure _

theorem TenantRoutes.updateCredentials_authorised (body : UpdateCredentials) :
    Authorised rt env auth (TenantRoutes.updateCredentials rt env auth body) := by
  refine Authorised.require fun p => ?_
  refine (reads (TenantRoutes.checkChoice_touches ..)).bind fun _ => ?_
  refine (reads (TenantRoutes.checkChoice_touches ..)).bind fun _ => ?_
  refine (reads (TenantRoutes.checkChoice_touches ..)).bind fun _ => ?_
  refine (CredentialRepository.upsert_moves env rfl body).bind fun _ => ?_
  exact entry_moves rt env rfl fun _ => CredentialRepository.view_touches _

/-! ### The provider plane -/

theorem ProviderRoutes.createTenant_moves (body : ProviderRoutes.CreateTenantRequest) :
    Moves (Executed rt none) (ProviderRoutes.createTenant rt env auth body) := by
  unfold ProviderRoutes.createTenant
  refine (reads (Deps.requireProvider_touches ..)).bind fun p => ?_
  refine (reads (Deps.validateLength_touches ..)).bind fun _ => ?_
  refine (reads (Deps.validateLength_touches ..)).bind fun _ => ?_
  refine (reads (Deps.validateLength_touches ..)).bind fun _ => ?_
  refine (reads (raiseIf_touches ..)).bind fun _ => (reads (raiseIf_touches ..)).bind fun _ => ?_
  refine (reads (selectOne_touches _)).bind fun existing => ?_
  refine (reads (raiseIf_touches ..)).bind fun _ s => ?_
  refine executed_bind (TenantRepository.create_moves env _ _ _ s) fun tenant t hcreate => ?_
  obtain ⟨_, _, tenants, hins, rfl⟩ := TenantRepository.create_eq_ok hcreate
  have hpresent : Present { s.db with tenants := tenants } tenant.id :=
    ⟨tenant, (mem_of_insert? hins).mpr (Or.inr rfl), rfl⟩
  refine executed_bind (UserRepository.create_executed (Or.inr hpresent)) fun user u _ => ?_
  exact ((platformEntry_moves env rfl).bind fun _ => Moves.pure _) u

theorem ProviderRoutes.afterTenantChange_moves (p : Principal) (tenantId action : String)
    (detail : List (String × JsonValue)) (changed : Option TenantRow) :
    Moves (Executed rt none)
      (ProviderRoutes.afterTenantChange rt env p tenantId action detail changed) := by
  refine (reads (orRaise_touches ..)).bind fun tenant => ?_
  refine (platformEntry_moves env rfl).bind fun _ => ?_
  exact (reads (UserRepository.list_touches _)).bind fun _ => Moves.pure _

theorem ProviderRoutes.setTenantStatus_moves (tenantId status : String) :
    Moves (Executed rt none) (ProviderRoutes.setTenantStatus rt env auth tenantId status) := by
  refine (reads (Deps.requireProvider_touches ..)).bind fun p => ?_
  refine (reads (raiseIf_touches ..)).bind fun _ => ?_
  exact (TenantRepository.setStatus_moves tenantId status).bind
    (ProviderRoutes.afterTenantChange_moves rt env p tenantId _ _)

theorem ProviderRoutes.setTenantPlan_moves (tenantId plan : String) :
    Moves (Executed rt none) (ProviderRoutes.setTenantPlan rt env auth tenantId plan) := by
  refine (reads (Deps.requireProvider_touches ..)).bind fun p => ?_
  refine (reads (raiseIf_touches ..)).bind fun _ => ?_
  exact (TenantRepository.setPlan_moves tenantId plan).bind
    (ProviderRoutes.afterTenantChange_moves rt env p tenantId _ _)

theorem ProviderRoutes.impersonate_moves (tenantId : String) :
    Moves (Executed rt none) (ProviderRoutes.impersonate rt env auth tenantId) := by
  refine (reads (Deps.requireProvider_touches ..)).bind fun p s => ?_
  cases hfind : s.db.tenants.find? tenantId with
  | none =>
    rw [run_bind_ok (tenantGet_run tenantId s), hfind]
    exact .of_same rfl rfl
  | some tenant =>
    obtain ⟨hmem, hid⟩ := (s.db.tenants.find?_eq_some _ _).mp hfind
    refine Executed.mono (c := some tenantId) (Moves.bind (reads ?_) (fun o => ?_) s)
      fun t ht => Or.inr ⟨tenant, hmem, hid.trans (Option.some.inj ht)⟩
    · exact TenantRepository.get_touches _
    refine (reads (orRaise_touches ..)).bind fun tenant => ?_
    refine (reads (UserRepository.list_touches _)).bind fun members => ?_
    refine (reads (orRaise_touches ..)).bind fun admin => ?_
    refine (reads (issueToken_touches ..)).bind fun token => ?_
    refine (platformEntry_moves env rfl).bind fun _ => ?_
    exact entry_moves rt env rfl fun _ => Touches.pure _

/-! ## Requests -/

theorem handleCase_authorised (invId : String) (r : CaseRequest) :
    Authorised rt env auth (handleCase rt env auth invId r) := by
  cases r with
  | approve i => exact (Routes.approveAction_authorised rt env auth invId i).map _
  | execute i => exact (Routes.executeAction_authorised rt env auth invId i).map _
  | status target => exact (Routes.transitionStatus_authorised rt env auth invId target).map _
  | assign assignee => exact (Routes.assignInvestigation_authorised rt env auth invId assignee).map _
  | note body => exact (Routes.addNote_authorised rt env auth invId body).map _

theorem handleAdmin_authorised (r : AdminRequest) :
    Authorised rt env auth (handleAdmin rt env auth r) := by
  cases r with
  | createUser body => exact (AdminRoutes.createUser_authorised rt env auth body).map _
  | updateRole userId role => exact (AdminRoutes.updateRole_authorised rt env auth userId role).map _
  | linkIdentity userId externalId =>
    exact (AdminRoutes.linkIdentity_authorised rt env auth userId externalId).map _
  | deleteUser userId => exact (AdminRoutes.deleteUser_authorised rt env auth userId).map _
  | toggleRule ruleId enabled => exact (Routes.toggleRule_authorised rt env auth ruleId enabled).map _
  | updateSettings settings => exact (TenantRoutes.updateSettings_authorised rt env auth settings).map _
  | updateCredentials body => exact (TenantRoutes.updateCredentials_authorised rt env auth body).map _

theorem handleProvider_authorised (r : ProviderRequest) :
    Authorised rt env auth (handleProvider rt env auth r) := by
  refine Authorised.of_moves ?_
  cases r with
  | createTenant body => exact (ProviderRoutes.createTenant_moves rt env auth body).map _
  | setStatus tenantId status => exact (ProviderRoutes.setTenantStatus_moves rt env auth tenantId status).map _
  | setPlan tenantId plan => exact (ProviderRoutes.setTenantPlan_moves rt env auth tenantId plan).map _
  | impersonate tenantId => exact (ProviderRoutes.impersonate_moves rt env auth tenantId).map _
  | listTenants => exact (reads (ProviderRoutes.listTenants_touches env auth)).map _
  | listUsers => exact (reads (ProviderRoutes.listAllUsers_touches env auth)).map _
  | usage => exact (reads (ProviderRoutes.usage_touches env auth)).map _

theorem handle_authorised (q : Request) : Authorised rt env q.auth (handle rt env q) := by
  cases q with
  | login body => exact (Authorised.of_moves (Routes.login_moves rt env body)).map _
  | logout auth => exact (Routes.logout_authorised rt env auth).map _
  | search auth spl earliest latest =>
    have h : Touches [Resource.searches] _ := handle_writes rt env (.search auth spl earliest latest)
    exact Authorised.of_moves (reads (h.mono (by decide)))
  | runDetections auth =>
    have h : Touches [Resource.searches] _ := handle_writes rt env (.runDetections auth)
    exact Authorised.of_moves (reads (h.mono (by decide)))
  | runInvestigations auth => exact (Routes.runInvestigations_authorised rt env auth).map _
  | case auth invId r => exact handleCase_authorised rt env auth invId r
  | admin auth r => exact handleAdmin_authorised rt env auth r
  | provider auth r => exact handleProvider_authorised rt env auth r
  | read auth r =>
    refine Authorised.of_moves (reads ?_)
    exact (handle_writes rt env (.read auth r)).mono (List.nil_subset _)

end

/-- What a request leaves in the database is what a transaction makes of it. The transaction
    writes for the tenant of a signed token and for tenants that are stored. -/
theorem step_transaction (rt : Runtime) (w : World) (e : Event) :
    ∃ caller : Option String, (∀ t, caller = some t → ∃ token ∈ w.issued, token.tenantId = t) ∧
      Transaction rt caller w.db (step rt w e).db := by
  obtain ⟨caller, hcaller, hrows, hcommitted⟩ := handle_authorised rt e.env e.request w.session
  refine ⟨caller, fun t ht => ?_, ?_⟩
  · obtain ⟨token, hid, hof⟩ := hcaller t ht
    exact ⟨token, hid.signed, hof⟩
  · have hrun : (handle rt e.env e.request).run w.session = handled rt w e := rfl
    rw [hrun] at hrows hcommitted
    rw [step_eq]
    cases hr : handled rt w e with
    | ok body t =>
      rw [hr] at hrows
      exact hrows
    | error ex t =>
      rw [hr] at hcommitted
      rcases hcommitted with hc | hc
      · have hsame : t.committed = w.db := hc
        show Transaction rt caller w.db t.committed
        rw [hsame]
        exact .refl
      · exact hc

/-! ## Starts -/

theorem ensure_moves (rt : Runtime) (env : Env) (name : String) :
    Moves (Executed rt none) (TenantRepository.ensure env name) := by
  unfold TenantRepository.ensure
  refine (reads (selectOne_touches _)).bind fun o => ?_
  cases o with
  | some tenant => exact Moves.pure tenant
  | none => exact TenantRepository.create_moves env name _ _

theorem ensureUser_executed (env : Env) {tenantId username password role : String} {s : Session}
    (h : Present s.db tenantId) :
    Executed rt none s (stateOf ((Bootstrap.ensureUser env tenantId username password role).run s)) := by
  unfold Bootstrap.ensureUser
  refine executed_bind (reads (selectOne_touches _) s) fun o t ho => ?_
  obtain ⟨_, rfl⟩ := selectOne_eq_ok.mp ho
  cases o with
  | some user => exact .of_same rfl rfl
  | none =>
    refine executed_bind (UserRepository.create_executed (Or.inr h)) fun _ u _ => ?_
    exact .of_same rfl rfl

theorem seedDefault_moves (rt : Runtime) (env : Env) :
    Moves (Executed rt none) (Bootstrap.seedDefault env) := by
  have hseed (name username password role : String) (k : ApiM Unit)
      (hk : Moves (Executed rt none) k) : Moves (Executed rt none) (do
        let tenant ← TenantRepository.ensure env name
        Bootstrap.ensureUser env tenant.id username password role
        k) := by
    intro s
    refine executed_bind (ensure_moves rt env name s) fun tenant t ht => ?_
    have hpresent : Present t.db tenant.id := by
      obtain ⟨hnamed, rfl⟩ | ⟨_, hcreate⟩ := ensure_cases ht
      · exact ⟨tenant, (of_tenantsNamed hnamed).1, rfl⟩
      · obtain ⟨_, _, tenants, hins, rfl⟩ := TenantRepository.create_eq_ok hcreate
        exact ⟨tenant, (mem_of_insert? hins).mpr (Or.inr rfl), rfl⟩
    exact executed_bind (ensureUser_executed env hpresent) fun _ u _ => hk u
  exact hseed _ _ _ _ _ (hseed _ _ _ _ _ commit_executed)

/-- A start writes tenants and users, and commits. -/
theorem seedDefault_touches (env : Env) :
    Touches [Resource.tenants, .users, .committed] (Bootstrap.seedDefault env) := by
  have hensure (name : String) : Touches [Resource.tenants, .users, .committed]
      (TenantRepository.ensure env name) := by
    grind [TenantRepository.ensure, TenantRepository.getByName]
  have huser (tenantId username password role : String) :
      Touches [Resource.tenants, .users, .committed]
        (Bootstrap.ensureUser env tenantId username password role) := by
    grind [Bootstrap.ensureUser, UserRepository.getByUsername]
  grind [Bootstrap.seedDefault]

/-- A start signs no token. -/
theorem start_issued (env : Env) (w : World) : (start env w).issued = w.issued :=
  (seedDefault_touches env).same (p := .tokens) (by decide) w.session

/-- A table a start does not write is as it was in the world. -/
theorem start_kept (env : Env) (w : World) (r : Resource) (hr : r ∉ [Resource.tenants, .users, .committed]) :
    r.Kept w.db (start env w).db := by
  have h : r.Same w.session (stateOf ((Bootstrap.seedDefault env).run w.session)) :=
    (seedDefault_touches env).same hr w.session
  have hkept {τ : Type} {T : Database → τ}
      (h : KeptTable T w.session (stateOf ((Bootstrap.seedDefault env).run w.session))) :
      T (start env w).db = T w.db := h.2.elim id id
  cases r with
  | searches | completions | connectors | captured | tokens | committed => trivial
  | _ => exact hkept h

/-- What a start or a request leaves in the database is what a transaction makes of it. -/
theorem occur_transaction (rt : Runtime) (w : World) (o : Occurrence) :
    ∃ caller : Option String, (∀ t, caller = some t → ∃ token ∈ w.issued, token.tenantId = t) ∧
      Transaction rt caller w.db (occur rt w o).db := by
  cases o with
  | request e => exact step_transaction rt w e
  | start env =>
    refine ⟨none, fun t ht => (by cases ht), ?_⟩
    have hc := (seedDefault_moves rt env w.session).committed
    rcases hc with hc | hc
    · have hsame : (start env w).db = w.db := hc
      show Transaction rt none w.db (start env w).db
      rw [hsame]
      exact .refl
    · exact hc

end SentinelAI
