import SentinelAI.Detection.Routing
import SentinelAI.Lib.Outcomes
import SentinelAI.Security.Issuance

/-
  Whether what changes is on the audit log.

  Every route that writes rows pairs its write with an entry of its own (`Logs`): up to the
  entry it may write anything but the log, and after it the log only grows. A request that
  raises commits nothing, but for a login with a wrong password (`login_cases`).
-/

namespace SentinelAI

open Lib

/-! ## Logged writes -/

/-- The tables whose rows do not change without an audit entry. -/
def auditedTables : List Resource :=
  [.tenants, .users, .investigations, .caseNotes, .ruleStates, .tenantCredentials, .revokedTokens]

/-- What a route may change around its audit entry. -/
abbrev unlogged : List Resource :=
  [.tenants, .users, .investigations, .caseNotes, .ruleStates, .incidents, .usageEvents,
    .tenantCredentials, .revokedTokens, .searches, .completions, .connectors, .captured, .tokens]

/-- Rows were appended to the log, if any. -/
def LogExtends (s t : Session) : Prop := s.db.auditLog.rows <+: t.db.auditLog.rows

instance : IsPreorder Session LogExtends where
  refl s := List.prefix_refl s.db.auditLog.rows
  trans _ _ _ h h' := List.IsPrefix.trans h h'

/-- Rows were appended, one of them by the actor in the tenant's partition. -/
def LoggedBy (actor tenantId : String) (log log' : AutoTable AuditLogRow) : Prop :=
  ∃ new, log'.rows = log.rows ++ new ∧ ∃ r ∈ new, r.2.actor = actor ∧ r.2.tenantId = tenantId

/-- A run that returns has logged an entry of the actor. -/
def Logs (actor tenantId : String) {α : Type} (m : ApiM α) : Prop :=
  Returning (fun s t => LoggedBy actor tenantId s.db.auditLog t.db.auditLog) m

section

variable {α β : Type} {actor tenantId : String}

theorem log_kept {m : ApiM α} (h : Touches unlogged m) (s : Session) :
    (stateOf (m.run s)).db.auditLog = s.db.auditLog :=
  (h.same (p := .auditLog) (by decide) s).1

theorem logExtends_of_touches {m : ApiM α} (h : Touches unlogged m) : Moves LogExtends m := by
  intro s
  have hrows := congrArg AutoTable.rows (log_kept h s)
  exact ⟨[], by rw [hrows, List.append_nil]⟩

theorem logExtends_recordEntry (rt : Runtime) (env : Env) (e : AuditEntry) :
    Moves LogExtends (AuditService.recordEntry rt env e) := by
  intro s
  rw [AuditService.recordEntry_run]
  exact List.prefix_append _ _

/-- A logged entry stays logged. -/
theorem LoggedBy.extend {log log' log'' : AutoTable AuditLogRow}
    (h : LoggedBy actor tenantId log log') (h' : log'.rows <+: log''.rows) :
    LoggedBy actor tenantId log log'' := by
  obtain ⟨new, hnew, r, hr, hby⟩ := h
  obtain ⟨later, hlater⟩ := h'
  refine ⟨new ++ later, ?_, r, List.mem_append_left _ hr, hby⟩
  rw [← hlater, hnew, List.append_assoc]

namespace Logs

/-- A step before the entry. -/
theorem after {x : ApiM α} {f : α → ApiM β} (hx : Touches unlogged x)
    (hf : ∀ a, Logs actor tenantId (f a)) : Logs actor tenantId (x >>= f) := by
  refine Returning.comp (R := fun s t => t.db.auditLog = s.db.auditLog) (fun s a t hrun => ?_) hf
    fun s t w hst htw => ?_
  · have hkept := log_kept hx s
    rwa [hrun] at hkept
  · rwa [hst] at htw

/-- A logged step, and a rest that leaves the log's rows. -/
theorem andThen {x : ApiM α} {f : α → ApiM β} (hx : Logs actor tenantId x)
    (hf : ∀ a, Moves LogExtends (f a)) : Logs actor tenantId (x >>= f) :=
  Returning.comp hx (fun a => (hf a).returning) fun _ _ _ h h' => h.extend h'

/-- The entry itself. -/
theorem recordEntry (rt : Runtime) (env : Env) {e : AuditEntry} (hactor : e.actor = actor)
    (htenant : e.tenantId = tenantId) :
    Logs actor tenantId (AuditService.recordEntry rt env e) := by
  intro s u t hrun
  rw [AuditService.recordEntry_run] at hrun
  cases hrun
  exact ⟨_, rfl, _, List.mem_singleton_self _, hactor, htenant⟩

/-- The entry, and what follows it. -/
theorem entry {rt : Runtime} {env : Env} {e : AuditEntry} {f : Unit → ApiM β}
    (hactor : e.actor = actor) (htenant : e.tenantId = tenantId)
    (hf : ∀ u, Moves LogExtends (f u)) :
    Logs actor tenantId (AuditService.recordEntry rt env e >>= f) :=
  andThen (recordEntry rt env hactor htenant) hf

end Logs

end

/-! ## By whom -/

/-- The principal of a request's token. -/
def Requester (db : Database) (issued : List Token) (now : Time) (auth : Authorization)
    (p : Principal) : Prop :=
  ∃ token, Identified db issued now auth token ∧ p = token.principal

/-- A run that returns was asked for by a principal and has logged an entry of theirs, in the
    partition `part` names. -/
def LogsCaller (env : Env) (auth : Authorization) (part : Principal → String) {α : Type}
    (m : ApiM α) : Prop :=
  ∀ s a t, m.run s = .ok a t → ∃ p, Requester s.db s.issued (env.now s.ticks) auth p ∧
    LoggedBy p.username (part p) s.db.auditLog t.db.auditLog

namespace LogsCaller

variable {α β : Type} {env : Env} {auth : Authorization} {part : Principal → String}

theorem map {m : ApiM α} (f : α → β) (h : LogsCaller env auth part m) :
    LogsCaller env auth part (f <$> m) := by
  intro s b t hrun
  obtain ⟨a, ha, rfl⟩ := run_map_eq_ok.mp hrun
  exact h s a t ha

/-- A dependency that hands on the principal, and a body that logs for it. -/
theorem gate {g : ApiM Principal} {k : Principal → ApiM α}
    (hg : ∀ s p t, g.run s = .ok p t →
      Requester s.db s.issued (env.now s.ticks) auth p ∧ t = s.ticked)
    (hk : ∀ p, Logs p.username (part p) (k p)) : LogsCaller env auth part (g >>= k) := by
  intro s a t hrun
  obtain ⟨p, u, hp, ha⟩ := run_bind_eq_ok.mp hrun
  obtain ⟨hreq, rfl⟩ := hg s p u hp
  exact ⟨p, hreq, hk p s.ticked a t ha⟩

theorem principal {k : Principal → ApiM α} (hk : ∀ p, Logs p.username (part p) (k p)) :
    LogsCaller env auth part (Deps.getPrincipal env auth >>= k) := by
  refine gate (fun s p t hp => ?_) hk
  obtain ⟨token, hid, rfl, rfl⟩ := getPrincipal_eq_ok.mp hp
  exact ⟨⟨token, hid, rfl⟩, rfl⟩

theorem require {perm : Permission} {k : Principal → ApiM α}
    (hk : ∀ p, Logs p.username (part p) (k p)) :
    LogsCaller env auth part (Deps.require env auth perm >>= k) := by
  refine gate (fun s p t hp => ?_) hk
  obtain ⟨⟨token, hid, rfl, _⟩, rfl⟩ := require_eq_ok.mp hp
  exact ⟨⟨token, hid, rfl⟩, rfl⟩

theorem provider {k : Principal → ApiM α} (hk : ∀ p, Logs p.username (part p) (k p)) :
    LogsCaller env auth part (Deps.requireProvider env auth >>= k) := by
  refine gate (fun s p t hp => ?_) hk
  have ht := requireProvider_keeps hp
  unfold Deps.requireProvider at hp
  obtain ⟨q, u, hq, hp⟩ := run_bind_eq_ok.mp hp
  obtain ⟨token, hid, rfl, rfl⟩ := getPrincipal_eq_ok.mp hq
  obtain ⟨_, _, hraise, hret⟩ := run_bind_eq_ok.mp hp
  cases hret
  exact ⟨⟨token, hid, rfl⟩, ht⟩

end LogsCaller

/-! ## Route by route -/

section

variable (rt : Runtime) (env : Env) (auth : Authorization)

theorem Routes.logout_logs : LogsCaller env auth Principal.tenantId (Routes.logout rt env auth) := by
  refine LogsCaller.principal fun p => ?_
  cases p.jti with
  | none => exact Logs.recordEntry rt env rfl rfl
  | some jti =>
    exact Logs.after (TokenRepository.revoke_touches ..) fun _ => Logs.recordEntry rt env rfl rfl

theorem Routes.approveAction_logs (invId : String) (i : Int) :
    LogsCaller env auth Principal.tenantId (Routes.approveAction rt env auth invId i) := by
  refine LogsCaller.require fun _ => ?_
  refine Logs.after (InvestigationRepository.approveAction_touches ..) fun _ => ?_
  refine Logs.after (orRaise_touches ..) fun _ => ?_
  exact Logs.entry rfl rfl fun _ => Moves.pure _

theorem Routes.afterExecution_logs (p : Principal) (invId : String) (i : Int)
    (executed : IncidentAction) :
    Logs p.username p.tenantId (Routes.afterExecution rt env p invId i executed) := by
  unfold Routes.afterExecution
  refine Logs.after (MeteringService.record_touches ..) fun _ => Logs.entry rfl rfl fun _ => ?_
  refine logExtends_of_touches ?_
  grind [NotificationService.alertActionExecuted]

theorem Routes.executeAction_logs (invId : String) (i : Int) :
    LogsCaller env auth Principal.tenantId (Routes.executeAction rt env auth invId i) := by
  refine LogsCaller.require fun p => ?_
  refine Logs.after (InvestigationRepository.executeAction_touches ..) fun r => ?_
  cases r with
  | error e => exact fun _ _ _ h => by cases h
  | ok inv =>
    exact Logs.after (orRaise_touches ..) fun executed =>
      (Routes.afterExecution_logs rt env p invId i executed).andThen fun _ => Moves.pure _

theorem Routes.transitionStatus_logs (invId status : String) :
    LogsCaller env auth Principal.tenantId (Routes.transitionStatus rt env auth invId status) := by
  refine LogsCaller.require fun p => ?_
  refine Logs.after (CaseWorkflowMixin.transitionStatus_touches ..) fun r => ?_
  cases r with
  | error e => exact fun _ _ _ h => by cases h
  | ok inv => exact Logs.entry rfl rfl fun _ => Moves.pure _

theorem Routes.assignInvestigation_logs (invId : String) (assignee : Option String) :
    LogsCaller env auth Principal.tenantId
      (Routes.assignInvestigation rt env auth invId assignee) := by
  refine LogsCaller.require fun _ => ?_
  refine Logs.after (InvestigationRepository.setAssignee_touches ..) fun _ => ?_
  refine Logs.after (orRaise_touches ..) fun _ => ?_
  exact Logs.entry rfl rfl fun _ => Moves.pure _

theorem Routes.addNote_logs (invId body : String) :
    LogsCaller env auth Principal.tenantId (Routes.addNote rt env auth invId body) := by
  refine LogsCaller.require fun _ => ?_
  refine Logs.after (Deps.validateLength_touches ..) fun _ => ?_
  refine Logs.after (InvestigationRepository.addNote_touches ..) fun _ => ?_
  refine Logs.after (orRaise_touches ..) fun _ => ?_
  exact Logs.entry rfl rfl fun _ => Moves.pure _

theorem Routes.toggleRule_logs (ruleId : String) (enabled : Bool) :
    LogsCaller env auth Principal.tenantId (Routes.toggleRule rt env auth ruleId enabled) := by
  refine LogsCaller.require fun _ => ?_
  refine Logs.after (orRaise_touches ..) fun _ => ?_
  refine Logs.after (RuleStateRepository.setEnabled_touches ..) fun _ => ?_
  exact Logs.entry rfl rfl fun _ => Moves.pure _

theorem AdminRoutes.createUser_logs (body : AdminRoutes.CreateUserRequest) :
    LogsCaller env auth Principal.tenantId (AdminRoutes.createUser rt env auth body) := by
  refine LogsCaller.require fun _ => ?_
  refine Logs.after (Deps.validateLength_touches ..) fun _ => ?_
  refine Logs.after (Deps.validateLength_touches ..) fun _ => ?_
  refine Logs.after (raiseIf_touches ..) fun _ => ?_
  refine Logs.after (selectOne_touches _) fun _ => ?_
  refine Logs.after (raiseIf_touches ..) fun _ => ?_
  refine Logs.after (UserRepository.create_touches ..) fun _ => ?_
  exact Logs.entry rfl rfl fun _ => Moves.pure _

theorem AdminRoutes.updateRole_logs (userId role : String) :
    LogsCaller env auth Principal.tenantId (AdminRoutes.updateRole rt env auth userId role) := by
  refine LogsCaller.require fun _ => ?_
  refine Logs.after (raiseIf_touches ..) fun _ => ?_
  refine Logs.after (UserRepository.update_touches ..) fun _ => ?_
  refine Logs.after (orRaise_touches ..) fun _ => ?_
  exact Logs.entry rfl rfl fun _ => Moves.pure _

theorem AdminRoutes.linkIdentity_logs (userId externalId : String) :
    LogsCaller env auth Principal.tenantId
      (AdminRoutes.linkIdentity rt env auth userId externalId) := by
  refine LogsCaller.require fun _ => ?_
  refine Logs.after (Deps.validateLength_touches ..) fun _ => ?_
  refine Logs.after (UserRepository.update_touches ..) fun _ => ?_
  refine Logs.after (orRaise_touches ..) fun _ => ?_
  exact Logs.entry rfl rfl fun _ => Moves.pure _

theorem AdminRoutes.deleteUser_logs (userId : String) :
    LogsCaller env auth Principal.tenantId (AdminRoutes.deleteUser rt env auth userId) := by
  refine LogsCaller.require fun _ => ?_
  refine Logs.after (raiseIf_touches ..) fun _ => ?_
  refine Logs.after (UserRepository.delete_touches ..) fun _ => ?_
  refine Logs.after (raiseIf_touches ..) fun _ => ?_
  exact Logs.recordEntry rt env rfl rfl

theorem TenantRoutes.updateSettings_logs (settings : List (String × JsonValue)) :
    LogsCaller env auth Principal.tenantId
      (TenantRoutes.updateSettings rt env auth settings) := by
  refine LogsCaller.require fun _ => ?_
  refine Logs.after (TenantRepository.update_touches ..) fun _ => ?_
  refine Logs.after (orRaise_touches ..) fun _ => ?_
  exact Logs.entry rfl rfl fun _ => Moves.pure _

theorem TenantRoutes.updateCredentials_logs (body : UpdateCredentials) :
    LogsCaller env auth Principal.tenantId
      (TenantRoutes.updateCredentials rt env auth body) := by
  refine LogsCaller.require fun _ => ?_
  refine Logs.after (TenantRoutes.checkChoice_touches ..) fun _ => ?_
  refine Logs.after (TenantRoutes.checkChoice_touches ..) fun _ => ?_
  refine Logs.after (TenantRoutes.checkChoice_touches ..) fun _ => ?_
  refine Logs.after (CredentialRepository.upsert_touches ..) fun _ => ?_
  exact Logs.entry rfl rfl fun _ => logExtends_of_touches (CredentialRepository.view_touches _)

theorem ProviderRoutes.createTenant_logs (body : ProviderRoutes.CreateTenantRequest) :
    LogsCaller env auth (fun _ => platformTenant)
      (ProviderRoutes.createTenant rt env auth body) := by
  refine LogsCaller.provider fun _ => ?_
  refine Logs.after (Deps.validateLength_touches ..) fun _ => ?_
  refine Logs.after (Deps.validateLength_touches ..) fun _ => ?_
  refine Logs.after (Deps.validateLength_touches ..) fun _ => ?_
  refine Logs.after (raiseIf_touches ..) fun _ => ?_
  refine Logs.after (raiseIf_touches ..) fun _ => ?_
  refine Logs.after (selectOne_touches _) fun _ => ?_
  refine Logs.after (raiseIf_touches ..) fun _ => ?_
  refine Logs.after (TenantRepository.create_touches ..) fun _ => ?_
  refine Logs.after (UserRepository.create_touches ..) fun _ => ?_
  exact Logs.entry rfl rfl fun _ => Moves.pure _

theorem ProviderRoutes.afterTenantChange_logs (p : Principal) (tenantId action : String)
    (detail : List (String × JsonValue)) (changed : Option TenantRow) :
    Logs p.username platformTenant
      (ProviderRoutes.afterTenantChange rt env p tenantId action detail changed) := by
  refine Logs.after (orRaise_touches ..) fun _ => Logs.entry rfl rfl fun _ => ?_
  exact logExtends_of_touches ((UserRepository.list_touches _).bind fun _ => Touches.pure _)

theorem ProviderRoutes.setTenantStatus_logs (tenantId status : String) :
    LogsCaller env auth (fun _ => platformTenant)
      (ProviderRoutes.setTenantStatus rt env auth tenantId status) := by
  refine LogsCaller.provider fun p => ?_
  refine Logs.after (raiseIf_touches ..) fun _ => ?_
  refine Logs.after (TenantRepository.update_touches ..) fun tenant => ?_
  exact ProviderRoutes.afterTenantChange_logs rt env p tenantId _ _ tenant

theorem ProviderRoutes.setTenantPlan_logs (tenantId plan : String) :
    LogsCaller env auth (fun _ => platformTenant)
      (ProviderRoutes.setTenantPlan rt env auth tenantId plan) := by
  refine LogsCaller.provider fun p => ?_
  refine Logs.after (raiseIf_touches ..) fun _ => ?_
  refine Logs.after (TenantRepository.update_touches ..) fun tenant => ?_
  exact ProviderRoutes.afterTenantChange_logs rt env p tenantId _ _ tenant

end

/-! ## Request by request -/

/-- The partition a request's entry goes to: the platform's for the provider plane, else the
    caller's own. -/
def auditPartition : Request → Principal → String
  | .provider _ _, _ => platformTenant
  | _, p => p.tenantId

section

variable (rt : Runtime) (env : Env) (auth : Authorization)

theorem handleCase_logs (invId : String) (r : CaseRequest) :
    LogsCaller env auth Principal.tenantId (handleCase rt env auth invId r) := by
  cases r with
  | approve i => exact (Routes.approveAction_logs rt env auth invId i).map _
  | execute i => exact (Routes.executeAction_logs rt env auth invId i).map _
  | status target => exact (Routes.transitionStatus_logs rt env auth invId target).map _
  | assign assignee => exact (Routes.assignInvestigation_logs rt env auth invId assignee).map _
  | note body => exact (Routes.addNote_logs rt env auth invId body).map _

theorem handleAdmin_logs (r : AdminRequest) :
    LogsCaller env auth Principal.tenantId (handleAdmin rt env auth r) := by
  cases r with
  | createUser body => exact (AdminRoutes.createUser_logs rt env auth body).map _
  | updateRole userId role => exact (AdminRoutes.updateRole_logs rt env auth userId role).map _
  | linkIdentity userId externalId =>
    exact (AdminRoutes.linkIdentity_logs rt env auth userId externalId).map _
  | deleteUser userId => exact (AdminRoutes.deleteUser_logs rt env auth userId).map _
  | toggleRule ruleId enabled => exact (Routes.toggleRule_logs rt env auth ruleId enabled).map _
  | updateSettings settings =>
    exact (TenantRoutes.updateSettings_logs rt env auth settings).map _
  | updateCredentials body =>
    exact (TenantRoutes.updateCredentials_logs rt env auth body).map _

end

section

variable {rt : Runtime} {w : World} {e : Event}

/-- An answered request has changed no audited table, or has logged an entry of its caller. -/
def AuditCovered (w : World) (e : Event) (db : Database) : Prop :=
  (∀ r ∈ auditedTables, r.Kept w.db db) ∨
    ∃ p, Requester w.db w.issued (e.env.now 0) e.request.auth p ∧
      LoggedBy p.username (auditPartition e.request p) w.db.auditLog db.auditLog

theorem LogsCaller.covered {part : Principal → String} {body : Body} {t : Session}
    (h : LogsCaller e.env e.request.auth part (handle rt e.env e.request))
    (hpart : part = auditPartition e.request) (hrun : handled rt w e = .ok body t) :
    AuditCovered w e t.db := by
  rw [hpart] at h
  exact Or.inr (h w.session body t hrun)

/-- A request that writes no audited table. -/
theorem covered_of_writes {body : Body} {t : Session} (hrun : handled rt w e = .ok body t)
    (hwrites : ∀ r ∈ auditedTables, r ∉ writes e.request) : AuditCovered w e t.db := by
  refine Or.inl fun r hr => ?_
  have hkept : r.Kept w.db (step rt w e).db := step_kept r (hwrites r hr)
  rwa [step_eq, hrun] at hkept

theorem Resource.Same.kept {r : Resource} {s t : Session} (h : r.Same s t) :
    r.Kept s.db t.db := by
  cases r with
  | searches | completions | connectors | captured | tokens | committed => trivial
  | _ => exact h.1

theorem Resource.Kept.trans {r : Resource} {db db' db'' : Database} (h : r.Kept db db')
    (h' : r.Kept db' db'') : r.Kept db db'' := by
  cases r with
  | searches | completions | connectors | captured | tokens | committed => trivial
  | _ => exact Eq.trans h' h

theorem Database.addUsage_kept (db : Database) (events : List UsageEventRow) {r : Resource}
    (hr : r ≠ .usageEvents) : r.Kept db (db.addUsage events) := by
  cases r with
  | usageEvents => exact absurd rfl hr
  | searches | completions | connectors | captured | tokens | committed => trivial
  | _ => rfl

/-- Every stored investigation of a run is logged. -/
theorem saveInvestigation_logs (rt : Runtime) (env : Env) (p : Principal) (inv : Investigation) :
    Logs p.username p.tenantId (Routes.saveInvestigation rt env p inv) :=
  Logs.after (InvestigationRepository.save_touches ..) fun _ =>
    Logs.recordEntry rt env rfl rfl

/-- A run that stores no investigation leaves their table; one that stores some logs each. -/
theorem RunCompletes.covered {p : Principal} {orch : Orchestrator} {as : List RuleAnswer}
    {invs : List Investigation} {l : Routes.InvestigationList} {u t : Session}
    (h : RunCompletes rt w e p orch as invs l u t) :
    (∀ r ∈ auditedTables, r.Kept w.db t.db) ∨
      LoggedBy p.username p.tenantId w.db.auditLog t.db.auditLog := by
  obtain ⟨u', v, k, hdb, hsaved, hrefresh, _⟩ := Routes.afterPipeline_ok h.stored
  have hafter := (Routes.refreshIncidents_touches rt e.env p).moves.of_ok hrefresh
  rw [h.rows] at hdb
  cases invs with
  | nil =>
    refine Or.inl fun r hr => ?_
    have hstored : v.db = w.db.addUsage (Routes.runEvents rt p.tenantId (wanted w.db p.tenantId) 0
        (e.env.now u.ticks) (e.env.now k)) :=
      (congrArg Session.db (EStateM.Result.ok.inj hsaved).2).symm.trans hdb
    have hne : r ∉ [Resource.incidents, .captured] ∧ r ≠ .usageEvents := by
      revert r
      decide
    have hkept : r.Kept v.db t.db := (hafter r hne.1).kept
    rw [hstored] at hkept
    exact (Database.addUsage_kept w.db _ hne.2).trans hkept
  | cons inv invs =>
    right
    have hall : Logs p.username p.tenantId
        ((inv :: invs).forM (Routes.saveInvestigation rt e.env p)) := by
      refine (saveInvestigation_logs rt e.env p inv).andThen fun _ => ?_
      refine Moves.forM (fun i => ?_) invs
      exact (logExtends_of_touches (InvestigationRepository.save_touches ..)).bind fun _ =>
        logExtends_recordEntry rt e.env _
    have hlogged : LoggedBy p.username p.tenantId u'.db.auditLog v.db.auditLog :=
      hall u' () v hsaved
    rw [hdb] at hlogged
    rwa [(hafter .auditLog (by decide)).1]

/-- What an answered request has changed in an audited table, it has logged. -/
theorem answered_covered {body : Body} {t : Session} (hrun : handled rt w e = .ok body t) :
    AuditCovered w e t.db := by
  cases he : e.request with
  | logout auth =>
    have hlogs := (Routes.logout_logs rt e.env auth).map fun _ => Body.empty
    exact LogsCaller.covered (by rw [he]; exact hlogs) (by rw [he]; rfl) hrun
  | runInvestigations auth =>
    obtain ⟨p, orch, as, invs, l, u, t', hreach, _, hdone⟩ :=
      completes_of_succeeds he ((succeeds_iff rt w e).mpr ⟨body, t, hrun⟩)
    obtain ⟨auth', he', token, hid, rfl, _⟩ := hreach.admitted
    cases he.symm.trans he'
    cases hrun.symm.trans hdone.answer
    refine hdone.covered.imp_right fun hlogged => ⟨token.principal, ?_, ?_⟩
    · rw [he]
      exact ⟨token, hid, rfl⟩
    · rw [he]
      exact hlogged
  | case auth invId r =>
    have hlogs := handleCase_logs rt e.env auth invId r
    exact LogsCaller.covered (by rw [he]; exact hlogs) (by rw [he]; rfl) hrun
  | admin auth r =>
    have hlogs := handleAdmin_logs rt e.env auth r
    exact LogsCaller.covered (by rw [he]; exact hlogs) (by rw [he]; rfl) hrun
  | provider auth r =>
    have hplatform : (fun _ : Principal => platformTenant) = auditPartition e.request := by
      rw [he]
      rfl
    cases r with
    | createTenant b =>
      have hlogs := (ProviderRoutes.createTenant_logs rt e.env auth b).map Body.tenant
      exact LogsCaller.covered (by rw [he]; exact hlogs) hplatform hrun
    | setStatus tenantId status =>
      have hlogs :=
        (ProviderRoutes.setTenantStatus_logs rt e.env auth tenantId status).map Body.tenant
      exact LogsCaller.covered (by rw [he]; exact hlogs) hplatform hrun
    | setPlan tenantId plan =>
      have hlogs := (ProviderRoutes.setTenantPlan_logs rt e.env auth tenantId plan).map Body.tenant
      exact LogsCaller.covered (by rw [he]; exact hlogs) hplatform hrun
    | _ => exact covered_of_writes hrun (by rw [he]; simp only [writes]; decide)
  | _ => exact covered_of_writes hrun (by rw [he]; simp only [writes]; decide)

end

/-! ## Failed logins -/

/-- A login for the one tenant of its name, which is not suspended, as a user who is not
    there or whose password does not verify. -/
structure FailsLogin (rt : Runtime) (db : Database) (body : Routes.LoginRequest)
    (tenant : TenantRow) : Prop where
  named : db.tenants.select (fun t => t.name == body.tenant) = [tenant]
  active : tenant.status ≠ "suspended"
  refused : ∃ found : Option UserRow,
    db.users.select (fun u => u.tenantId == tenant.id && u.username == body.username) =
        found.toList ∧
      ∀ user ∈ found, verifyPassword rt body.password user.passwordHash = false

/-- The entry of a failed login. -/
def loginFailedEntry (body : Routes.LoginRequest) (tenant : TenantRow) : AuditEntry where
  tenantId := tenant.id
  actor := body.username
  action := "auth.login.failed"
  targetType := "user"
  targetId := body.username

section

variable {rt : Runtime} {env : Env} {body : Routes.LoginRequest} {tenant : TenantRow}
  {s t : Session}

theorem authenticate_eq_none {tenantId username password : String} :
    (UserRepository.authenticate rt tenantId username password).run s = .ok none t ↔
      (∃ found : Option UserRow,
        s.db.users.select (fun u => u.tenantId == tenantId && u.username == username) =
            found.toList ∧
          ∀ user ∈ found, verifyPassword rt password user.passwordHash = false) ∧ t = s := by
  unfold UserRepository.authenticate
  rw [run_bind_eq_ok]
  constructor
  · rintro ⟨found, u, hfound, h⟩
    obtain ⟨hsel, rfl⟩ := selectOne_eq_ok.mp hfound
    cases found with
    | none =>
      cases h
      exact ⟨⟨none, hsel, by simp⟩, rfl⟩
    | some user =>
      dsimp only at h
      cases hverify : verifyPassword rt password user.passwordHash with
      | true =>
        rw [hverify] at h
        cases h
      | false =>
        rw [hverify] at h
        cases h
        exact ⟨⟨some user, hsel, by simpa using hverify⟩, rfl⟩
  · rintro ⟨⟨found, hsel, hverify⟩, rfl⟩
    refine ⟨found, t, selectOne_eq_ok.mpr ⟨hsel, rfl⟩, ?_⟩
    cases found with
    | none => rfl
    | some user =>
      dsimp only
      rw [hverify user rfl]
      rfl

/-- The session a failed login leaves: its entry recorded and committed. -/
def afterFailedLogin (rt : Runtime) (env : Env) (body : Routes.LoginRequest) (tenant : TenantRow)
    (s : Session) : Session :=
  let log := AuditService.record rt.sha256 (env.now s.ticks) (loginFailedEntry body tenant)
    s.db.auditLog
  let db := { s.db with auditLog := log }
  { s with db := db, committed := db, ticks := s.ticks + 1 }

theorem FailsLogin.run (h : FailsLogin rt s.db body tenant) :
    (Routes.login rt env body).run s =
      .error (httpError 401 "Invalid credentials") (afterFailedLogin rt env body tenant s) := by
  have htenant : (TenantRepository.getByName body.tenant).run s = .ok (some tenant) s :=
    selectOne_eq_ok.mpr ⟨h.named, rfl⟩
  have hactive : (raiseIf (tenant.status == "suspended")
      (httpError 403 "Tenant is suspended")).run s = .ok () s :=
    raiseIf_eq_ok.mpr ⟨by simpa using h.active, rfl⟩
  have hrefused := (authenticate_eq_none (t := s)).mpr ⟨h.refused, rfl⟩
  unfold Routes.login
  rw [run_bind_ok htenant]
  dsimp only
  rw [run_bind_ok hactive, run_bind_ok hrefused]
  rfl

/-- A login that raises has failed in this sense, or has done nothing. -/
theorem Routes.login_error {ex : Exc} (h : (Routes.login rt env body).run s = .error ex t) :
    (∃ tenant, FailsLogin rt s.db body tenant) ∨ Outside ([] : List Resource) s t := by
  unfold Routes.login at h
  obtain hraised | ⟨found, u, hfound, hrest⟩ := run_bind_eq_error.mp h
  · exact Or.inr ((selectOne_touches (T := Tables.tenants) _).moves.of_error hraised)
  obtain ⟨hsel, rfl⟩ := selectOne_eq_ok.mp hfound
  cases found with
  | none =>
    cases hrest
    exact Or.inr (refl_of _ _)
  | some tenant =>
    dsimp only at hrest
    obtain hraised | ⟨_, _, hpassed, hauthenticated⟩ := run_bind_eq_error.mp hrest
    · exact Or.inr ((raiseIf_touches ..).moves.of_error hraised)
    obtain ⟨hactive, rfl⟩ := raiseIf_eq_ok.mp hpassed
    obtain hraised | ⟨user, v, hauth, hlast⟩ := run_bind_eq_error.mp hauthenticated
    · exact Or.inr ((UserRepository.authenticate_touches ..).moves.of_error hraised)
    cases user with
    | none =>
      obtain ⟨hrefused, rfl⟩ := authenticate_eq_none.mp hauth
      exact Or.inl ⟨tenant, hsel, by simpa using hactive, hrefused⟩
    | some user =>
      -- what follows an authenticated login does not raise
      dsimp only at hlast
      rw [run_bind_ok (AuditService.recordEntry_run ..)] at hlast
      cases hlast

end

/-! ## Coverage -/

/-- A request that raised has committed nothing, but for a failed login. -/
theorem raised_commits (rt : Runtime) (w : World) (e : Event) :
    succeeds rt w e = true ∨ (step rt w e).db = w.db ∨
      ∃ body tenant, e.request = .login body ∧ FailsLogin rt w.db body tenant := by
  by_cases hc : .committed ∈ footprint e.request
  · obtain ⟨body, he⟩ := committed_footprint hc
    cases hrun : handled rt w e with
    | ok b t => exact Or.inl ((succeeds_iff rt w e).mpr ⟨b, t, hrun⟩)
    | error ex t =>
      right
      have hlogin : (Routes.login rt e.env body).run w.session = .error ex t :=
        (handled_eq_error he rfl).mp hrun
      obtain ⟨tenant, hfails⟩ | hout := Routes.login_error hlogin
      · exact Or.inr ⟨body, tenant, he, hfails⟩
      · have hkept : t.committed = w.db := hout .committed (by decide)
        left
        rw [step_eq, hrun]
        exact hkept
  · obtain ⟨b, t, hrun, _⟩ | ⟨_, hdb⟩ := step_db rt hc
    · exact Or.inl ((succeeds_iff rt w e).mpr ⟨b, t, hrun⟩)
    · exact Or.inr (Or.inl hdb)

theorem Resource.Kept.refl (r : Resource) (db : Database) : r.Kept db db := by
  cases r with
  | searches | completions | connectors | captured | tokens | committed => trivial
  | _ => rfl

/-- Every request leaves the audited tables or logs an entry of its caller, in the caller's
    partition or the platform's. One that raises commits nothing, unless it is a failed login
    for a known tenant that is not suspended, which commits its entry and nothing else. -/
theorem changes_are_audited (rt : Runtime) (w : World) (e : Event) :
    ((∀ r ∈ auditedTables, r.Kept w.db (step rt w e).db) ∨
      ∃ p, Requester w.db w.issued (e.env.now 0) e.request.auth p ∧
        LoggedBy p.username (auditPartition e.request p) w.db.auditLog
          (step rt w e).db.auditLog) ∧
    (succeeds rt w e = true ∨ (step rt w e).db = w.db ∨
      ∃ body tenant, e.request = .login body ∧ FailsLogin rt w.db body tenant) ∧
    (∀ body tenant, e.request = .login body → FailsLogin rt w.db body tenant →
      succeeds rt w e = false ∧ ∃ row : AuditLogRow, row.action = "auth.login.failed" ∧
        row.actor = body.username ∧ row.tenantId = tenant.id ∧
        (step rt w e).db = { w.db with auditLog := w.db.auditLog.insert row }) := by
  refine ⟨?_, raised_commits rt w e, fun body tenant he hfails => ?_⟩
  · by_cases hlogin : ∃ body, e.request = .login body
    · obtain ⟨body, he⟩ := hlogin
      exact Or.inl fun r hr => step_kept r (by rw [he]; revert r; simp only [writes]; decide)
    · cases hrun : handled rt w e with
      | ok body t =>
        have hdb : (step rt w e).db = t.db := by rw [step_eq, hrun]
        rw [hdb]
        exact answered_covered hrun
      | error ex t =>
        have hc : .committed ∉ footprint e.request := fun h => hlogin (committed_footprint h)
        obtain ⟨_, _, hok, _⟩ | ⟨_, hdb⟩ := step_db rt hc
        · cases hok.symm.trans hrun
        · rw [hdb]
          exact Or.inl fun r _ => Resource.Kept.refl r w.db
  · have hrun : handled rt w e = .error (httpError 401 "Invalid credentials")
        (afterFailedLogin rt e.env body tenant w.session) :=
      (handled_eq_error he rfl).mpr hfails.run
    refine ⟨?_, AuditService.newRow rt.sha256 (e.env.now 0) (loginFailedEntry body tenant)
      (AuditService.lastHash w.db.auditLog tenant.id), rfl, rfl, rfl, ?_⟩
    · rw [Bool.eq_false_iff, Ne, succeeds_iff]
      rintro ⟨b, t, hok⟩
      cases hok.symm.trans hrun
    · rw [step_eq, hrun]
      rfl

/-- A guessed password for a user the tenant does not have. -/
def guessLogin : Event :=
  adminRequest (.login { username := "eve", password := "letmein", tenant := "initech" })

/-- The guess leaves its entry, and nothing else. -/
theorem changes_are_audited_guess :
    succeeds .plain (initech "pro") guessLogin = false ∧
      ∃ row : AuditLogRow, row.action = "auth.login.failed" ∧ row.actor = "eve" ∧
        row.tenantId = "t1" ∧ (step .plain (initech "pro") guessLogin).db =
          { (initech "pro").db with auditLog := (initech "pro").db.auditLog.insert row } :=
  (changes_are_audited .plain (initech "pro") guessLogin).2.2 _
    { id := "t1", name := "initech", plan := "pro", createdAt := 0 } rfl
    ⟨rfl, by decide, none, rfl, by simp⟩

end SentinelAI
