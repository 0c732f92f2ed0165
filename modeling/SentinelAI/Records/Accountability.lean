import SentinelAI.Cases.Notes
import SentinelAI.Lib.Journal
import SentinelAI.Records.History
import SentinelAI.Security.TokenAdmission
import SentinelAI.Tenancy.Restart

/-
  Accountability. Every tenant, account, case, rule state and credentials row of a deployment
  is named by an entry on the audit log: the tenant or case by its id, an account by id and
  name. What a start seeds is the exception. Of notes, signed tokens and revocations each has
  an entry of its own, in the order of the log: the note with its case and author, the token
  with its account, the revoked jti with the account of a token that has it. Each request is
  inverted to what it adds and the entry it writes; a start is inverted to the two tenants and
  two accounts it looks for (`everything_on_record`).
-/

namespace SentinelAI

open Lib AuditService

/-! ## Facts and entries -/

/-- What a deployment holds that somebody must have done. -/
inductive Fact where
  | tenant (id name : String)
  | account (tenantId id username : String)
  | case (tenantId id : String)
  | ruleState (tenantId ruleId : String)
  | credentials (tenantId : String)

def Fact.Holds (db : Database) : Fact → Prop
  | .tenant id name => ∃ t ∈ db.tenants.rows, t.id = id ∧ t.name = name
  | .account tenantId id username =>
    ∃ u ∈ db.users.rows, u.tenantId = tenantId ∧ u.id = id ∧ u.username = username
  | .case tenantId id => ∃ c ∈ db.investigations.rows, c.tenantId = tenantId ∧ c.id = id
  | .ruleState tenantId ruleId =>
    ∃ r ∈ db.ruleStates.rows, r.tenantId = tenantId ∧ r.ruleId = ruleId
  | .credentials tenantId => ∃ c ∈ db.tenantCredentials.rows, c.tenantId = tenantId

/-- What a start seeds. -/
def Fact.Seeded (db : Database) : Fact → Prop
  | .tenant _ name => name = Bootstrap.defaultTenant ∨ name = platformTenant
  | .account tenantId _ username => ∃ t ∈ db.tenants.rows, t.id = tenantId ∧
    ((t.name = Bootstrap.defaultTenant ∧ username = Bootstrap.defaultUser) ∨
      (t.name = platformTenant ∧ username = Bootstrap.providerUser))
  | _ => False

/-- The entry that says so, in the partition of the tenant it is about. -/
def Fact.ExplainedBy (r : AuditLogRow) : Fact → Prop
  | .tenant id name => r.tenantId = platformTenant ∧ r.action = "provider.tenant_created" ∧
    r.targetId = id ∧ r.detail.lookup "name" = some (.str name)
  | .account tenantId id username =>
    (r.tenantId = tenantId ∧ r.action = "admin.user_created" ∧ r.targetId = id ∧
      r.detail.lookup "username" = some (.str username)) ∨
    (r.tenantId = platformTenant ∧ r.action = "provider.tenant_created" ∧
      r.targetId = tenantId ∧ r.detail.lookup "admin" = some (.str username))
  | .case tenantId id =>
    r.tenantId = tenantId ∧ r.action = "investigation.created" ∧ r.targetId = id
  | .ruleState tenantId ruleId =>
    r.tenantId = tenantId ∧ r.action = "rule.toggled" ∧ r.targetId = ruleId
  | .credentials tenantId => r.tenantId = tenantId ∧ r.action = "tenant.credentials_updated"

/-- The audit log, oldest first. -/
def auditEntries (db : Database) : List AuditLogRow := db.auditLog.rows.map Prod.snd

/-- The audit log as the journal of the world. -/
def auditJournal : Journal World Fact AuditLogRow where
  holds w f := f.Holds w.db
  log w := auditEntries w.db
  given w f := f.Seeded w.db
  explains r f := f.ExplainedBy r

/-! ## Entries of their own -/

/-- The entry of a note, in its author's name. -/
def NoteEntry (n : CaseNoteRow) (r : AuditLogRow) : Prop :=
  r.tenantId = n.tenantId ∧ r.action = "case.note_added" ∧ r.targetId = n.investigationId ∧
    r.actor = n.author

/-- The entry of a token, for the account it was signed for. -/
def TokenEntry (k : Token) (r : AuditLogRow) : Prop :=
  r.tenantId = k.tenantId ∧ r.targetId = k.uid ∧
    ((r.action = "auth.login.success" ∧ r.actor = k.sub) ∨ r.action = "provider.impersonation")

/-- The entry of a revoked jti, in the name of the account whose token has it. -/
def RevocationEntry (issued : List Token) (row : RevokedTokenRow) (r : AuditLogRow) : Prop :=
  r.tenantId = row.tenantId ∧ r.action = "auth.logout" ∧
    ∃ k ∈ issued, k.jti = row.jti ∧ k.tenantId = row.tenantId ∧ r.targetId = k.uid ∧ r.actor = k.sub

/-- Whatever a world has, the audit log says. -/
structure FullyRecorded (w : World) : Prop where
  facts : auditJournal.Accounted w
  notes : Entered NoteEntry w.db.caseNotes.rows (auditEntries w.db)
  tokens : Entered TokenEntry w.issued (auditEntries w.db)
  revocations : Entered (RevocationEntry w.issued) w.db.revokedTokens.rows (auditEntries w.db)

theorem enters_of_appends {α : Type} {R : α → AuditLogRow → Prop} {items : List α} {x : α}
    {sha256 : String → String} {db db' : Database} {entry : AuditEntry}
    (h : Appends sha256 db.auditLog db'.auditLog entry)
    (hx : ∀ now p, R x (newRow sha256 now entry p)) :
    Enters R items (auditEntries db) (items ++ [x]) (auditEntries db') := by
  obtain ⟨new, hrows, now, p, hmem⟩ := h
  unfold auditEntries
  rw [hrows, List.map_append]
  exact .added x _ hmem (hx now p)

/-! ## What a request records -/

section

variable {rt : Runtime} {w : World} {e : Event} {auth : Authorization} {t : Session}

/-- An account an administrator creates. -/
theorem createUser_recorded {body : AdminRoutes.CreateUserRequest} {r : AdminRoutes.UserResponse}
    (h : (AdminRoutes.createUser rt e.env auth body).run w.session = .ok r t) :
    ∃ p, Admitted w.db w.issued (e.env.now 0) auth .admin p ∧
      HasEntry rt.sha256 t.db.auditLog (AdminRoutes.userEntry p "admin.user_created" (e.env.uuid4 0)
        (some [("username", .str body.username), ("role", .str body.role)])) := by
  unfold AdminRoutes.createUser at h
  simp only [run_bind_eq_ok, require_eq_ok, validateLength_eq_ok, checkRole_eq_ok,
    raiseIf_eq_ok] at h
  obtain ⟨p, _, ⟨hadm, rfl⟩, _, _, ⟨_, rfl⟩, _, _, ⟨_, rfl⟩, _, _, ⟨_, rfl⟩, existing, _, hex, _, _,
    ⟨hnone, rfl⟩, user, _, hc, _, _, hrec, hret⟩ := h
  cases hret
  obtain rfl : existing = none := by simpa using hnone
  obtain ⟨rfl, _⟩ := UserRepository.getByUsername_none hex
  obtain ⟨rfl, _, _, rfl⟩ := UserRepository.create_eq_ok hc
  exact ⟨p, hadm, recordEntry_hasEntry hrec⟩

/-- A tenant a provider administrator creates, with its first administrator. -/
theorem createTenant_recorded {body : ProviderRoutes.CreateTenantRequest}
    {r : ProviderRoutes.TenantResponse}
    (h : (ProviderRoutes.createTenant rt e.env auth body).run w.session = .ok r t) :
    ∃ p tenant, tenant.id = e.env.uuid4 0 ∧ tenant.name = body.name ∧
      w.db.tenants.insert? tenant = some t.db.tenants ∧
      HasEntry rt.sha256 t.db.auditLog (ProviderRoutes.platformEntry p "provider.tenant_created"
        (e.env.uuid4 0) [("name", .str body.name), ("plan", .str body.plan),
          ("admin", .str body.adminUsername)]) := by
  unfold ProviderRoutes.createTenant ProviderRoutes.checkStatus ProviderRoutes.checkPlan at h
  simp only [run_bind_eq_ok, validateLength_eq_ok, raiseIf_eq_ok] at h
  obtain ⟨p, _, hp, _, _, ⟨_, rfl⟩, _, _, ⟨_, rfl⟩, _, _, ⟨_, rfl⟩, _, _, ⟨_, rfl⟩, _, _,
    ⟨_, rfl⟩, existing, _, hex, _, _, ⟨_, rfl⟩, tenant, _, hcreate, user, _, hc, _, _, hrec,
    hret⟩ := h
  cases hret
  obtain rfl := requireProvider_keeps hp
  obtain ⟨rfl, _⟩ := getByName_ok hex
  obtain ⟨rfl, _, tenants, htenants, rfl⟩ := TenantRepository.create_eq_ok hcreate
  obtain ⟨rfl, _, _, rfl⟩ := UserRepository.create_eq_ok hc
  have hrecorded := recordEntry_hasEntry hrec
  rw [AuditService.recordEntry_run] at hrec
  cases hrec
  exact ⟨p, _, rfl, rfl, htenants, hrecorded⟩

/-- A rule state: the tenant's state of that rule is the only one that can be new. -/
theorem setEnabled_states {env : Env} {tenantId ruleId : String} {enabled : Bool} {s : Session} {u : Unit}
    (h : (RuleStateRepository.setEnabled env tenantId ruleId enabled).run s = .ok u t) :
    ∀ r ∈ t.db.ruleStates.rows, (r.tenantId = tenantId ∧ r.ruleId = ruleId) ∨
      ∃ r' ∈ s.db.ruleStates.rows, r'.tenantId = r.tenantId ∧ r'.ruleId = r.ruleId := by
  unfold RuleStateRepository.setEnabled at h
  obtain ⟨o, v, ho, h⟩ := run_bind_eq_ok.mp h
  obtain ⟨_, rfl⟩ := selectOne_eq_ok.mp ho
  intro r hr
  cases o with
  | none =>
    obtain ⟨_, _, hid, h⟩ := run_bind_eq_ok.mp h
    cases hid
    obtain ⟨states, hins, rfl⟩ := insertRow_eq_ok.mp h
    obtain hold | rfl := (mem_of_insert? hins).mp hr
    · exact Or.inr ⟨r, hold, rfl, rfl⟩
    · exact Or.inl ⟨rfl, rfl⟩
  | some row =>
    cases h
    obtain ⟨old, hold, _, rfl⟩ | ⟨hold, _⟩ := (KeyedTable.mem_modify
      (f := fun r : RuleStateRow => { r with enabled := enabled }) fun _ => rfl).mp hr
    · exact Or.inr ⟨old, hold, rfl, rfl⟩
    · exact Or.inr ⟨r, hold, rfl, rfl⟩

theorem toggleRule_recorded {ruleId : String} {enabled : Bool} {r : Routes.RuleResponse} {s : Session}
    (h : (Routes.toggleRule rt e.env auth ruleId enabled).run s = .ok r t) :
    ∃ p : Principal, HasEntry rt.sha256 t.db.auditLog
        { tenantId := p.tenantId
          actor := p.username
          action := "rule.toggled"
          targetType := "rule"
          targetId := ruleId
          detail := some [("enabled", .bool enabled)] } ∧
      ∀ r ∈ t.db.ruleStates.rows, (r.tenantId = p.tenantId ∧ r.ruleId = ruleId) ∨
        ∃ r' ∈ s.db.ruleStates.rows, r'.tenantId = r.tenantId ∧ r'.ruleId = r.ruleId := by
  unfold Routes.toggleRule at h
  simp only [run_bind_eq_ok, require_eq_ok, orRaise_eq_ok] at h
  obtain ⟨p, _, ⟨_, rfl⟩, rule, _, ⟨_, rfl⟩, _, _, hset, _, _, hrec, hret⟩ := h
  cases hret
  have hstates := setEnabled_states hset
  have hentry := recordEntry_hasEntry hrec
  rw [AuditService.recordEntry_run] at hrec
  cases hrec
  exact ⟨p, hentry, hstates⟩

/-- Credentials: the tenant's own row is the only one that can be new. -/
theorem upsert_rows {env : Env} {tenantId : String} {u : UpdateCredentials} {s : Session}
    {row : TenantCredentialRow} (h : (CredentialRepository.upsert env tenantId u).run s = .ok row t) :
    ∀ r ∈ t.db.tenantCredentials.rows, r.tenantId = tenantId ∨
      ∃ r' ∈ s.db.tenantCredentials.rows, r'.tenantId = r.tenantId := by
  have hget : (CredentialRepository.getRow tenantId).run s =
      .ok (s.db.tenantCredentials.find? tenantId) s := rfl
  unfold CredentialRepository.upsert at h
  rw [run_bind_ok hget] at h
  intro r hr
  cases hfound : s.db.tenantCredentials.find? tenantId with
  | none =>
    rw [hfound] at h
    obtain ⟨_, _, hins, h⟩ := run_bind_eq_ok.mp h
    obtain ⟨rows, hrows, rfl⟩ := insertRow_eq_ok.mp hins
    cases h
    obtain hold | rfl := (mem_of_insert? hrows).mp hr
    · exact Or.inr ⟨r, hold, rfl⟩
    · exact Or.inl rfl
  | some old =>
    rw [hfound] at h
    cases h
    obtain ⟨old', hold, _, rfl⟩ | ⟨hold, _⟩ := (KeyedTable.mem_modify
      (f := u.apply env) fun _ => rfl).mp hr
    · exact Or.inr ⟨old', hold, rfl⟩
    · exact Or.inr ⟨r, hold, rfl⟩

theorem updateCredentials_recorded {body : UpdateCredentials} {r : CredentialView} {s : Session}
    (h : (TenantRoutes.updateCredentials rt e.env auth body).run s = .ok r t) :
    ∃ (p : Principal) (detail : Option (List (String × JsonValue))),
      HasEntry rt.sha256 t.db.auditLog (TenantRoutes.tenantEntry p "tenant.credentials_updated" detail) ∧
      ∀ r ∈ t.db.tenantCredentials.rows, r.tenantId = p.tenantId ∨
        ∃ r' ∈ s.db.tenantCredentials.rows, r'.tenantId = r.tenantId := by
  have hcheck {value : Option String} {valid : List String} {detail : String → String}
      {s t : Session} {u : Unit}
      (h : (TenantRoutes.checkChoice value valid detail).run s = .ok u t) : t = s := by
    cases value with
    | none =>
      cases h
      rfl
    | some v => exact (raiseIf_eq_ok.mp h).2
  unfold TenantRoutes.updateCredentials at h
  simp only [run_bind_eq_ok, require_eq_ok] at h
  obtain ⟨p, _, ⟨_, rfl⟩, _, _, hmode, _, _, hsplunk, _, _, hai, _, _, hupsert, _, _, hrec, hview⟩ := h
  obtain rfl := hcheck hmode
  obtain rfl := hcheck hsplunk
  obtain rfl := hcheck hai
  have hrows := upsert_rows hupsert
  have hentry := recordEntry_hasEntry hrec
  rw [AuditService.recordEntry_run] at hrec
  cases hrec
  unfold CredentialRepository.view at hview
  obtain ⟨_, _, hget, hret⟩ := run_bind_eq_ok.mp hview
  cases hget
  split at hret
  · cases hret
    exact ⟨p, _, hentry, hrows⟩
  · cases hret
    exact ⟨p, _, hentry, hrows⟩

/-- A revocation: the jti of the caller's token is new, and the entry is the caller's. -/
theorem logout_recorded {s : Session} {u : Unit}
    (h : (Routes.logout rt e.env auth).run s = .ok u t) :
    ∃ (k : Token) (row : RevokedTokenRow), k ∈ s.issued ∧ row.jti = k.jti ∧
      row.tenantId = k.tenantId ∧ t.db.revokedTokens.rows = s.db.revokedTokens.rows ++ [row] ∧
      Appends rt.sha256 s.db.auditLog t.db.auditLog
        { tenantId := k.tenantId
          actor := k.sub
          action := "auth.logout"
          targetType := "user"
          targetId := k.uid } := by
  unfold Routes.logout at h
  obtain ⟨p, v, hp, h⟩ := run_bind_eq_ok.mp h
  obtain ⟨token, hid, rfl, rfl⟩ := getPrincipal_eq_ok.mp hp
  obtain ⟨_, v, hrevoke, hrec⟩ := run_bind_eq_ok.mp h
  have hentry := recordEntry_appends hrec
  rw [AuditService.recordEntry_run] at hrec
  cases hrec
  obtain ⟨revoked, hins, hrun⟩ := revoke_run e.env token.tenantId (s := s.ticked) hid.unrevoked
  cases hrun.symm.trans hrevoke
  exact ⟨token, _, hid.signed, rfl, rfl, KeyedTable.insert?_rows hins, hentry⟩

/-- A login: the token it answers with is the user's, and so is the entry. -/
theorem login_recorded {body : Routes.LoginRequest} {r : Routes.TokenResponse}
    (h : (Routes.login rt e.env body).run w.session = .ok r t) :
    ∃ k : Token, t.issued = w.issued ++ [k] ∧ Appends rt.sha256 w.db.auditLog t.db.auditLog
      { tenantId := k.tenantId
        actor := k.sub
        action := "auth.login.success"
        targetType := "user"
        targetId := k.uid } := by
  unfold Routes.login at h
  obtain ⟨o, _, ho, h⟩ := run_bind_eq_ok.mp h
  obtain ⟨rfl, _⟩ := getByName_ok ho
  cases o with
  | none => cases h
  | some tenant =>
    obtain ⟨_, _, hactive, h⟩ := run_bind_eq_ok.mp h
    obtain ⟨_, rfl⟩ := raiseIf_eq_ok.mp hactive
    obtain ⟨found, _, hauth, h⟩ := run_bind_eq_ok.mp h
    obtain rfl := authenticate_keeps hauth
    cases found with
    | none =>
      obtain ⟨_, _, hrec, h⟩ := run_bind_eq_ok.mp h
      cases h
    | some user =>
      obtain ⟨_, _, hrec, h⟩ := run_bind_eq_ok.mp h
      have hentry := recordEntry_appends hrec
      rw [AuditService.recordEntry_run] at hrec
      cases hrec
      cases h
      exact ⟨newToken rt _ _ _, rfl, hentry⟩

/-- An impersonation: one of its two entries is in the partition of the token's tenant. -/
theorem impersonate_recorded {tenantId : String} {r : ProviderRoutes.ImpersonateResponse}
    (h : (ProviderRoutes.impersonate rt e.env auth tenantId).run w.session = .ok r t) :
    ∃ (k : Token) (p : Principal), t.issued = w.issued ++ [k] ∧
      Appends rt.sha256 w.db.auditLog t.db.auditLog
      { tenantId := k.tenantId
        actor := p.username
        action := "provider.impersonation"
        targetType := "user"
        targetId := k.uid
        detail := some [("by_provider", .str p.username)] } := by
  unfold ProviderRoutes.impersonate at h
  simp only [run_bind_eq_ok, orRaise_eq_ok, tenantGet_run] at h
  obtain ⟨p, _, hp, _, _, hget, tenant, _, ⟨_, rfl⟩, members, _, hlist, admin, _, ⟨_, rfl⟩, k, _,
    hissue, _, _, hplatform, _, _, hrec, hret⟩ := h
  obtain rfl := requireProvider_keeps hp
  cases hget
  cases hlist
  cases hissue
  rw [AuditService.recordEntry_run] at hplatform
  cases hplatform
  have hentry := recordEntry_appends hrec
  rw [AuditService.recordEntry_run] at hrec
  cases hrec
  cases hret
  exact ⟨newToken rt _ _ _, p, rfl, hentry.after (List.prefix_append _ _)⟩

/-- A login that raises has signed nothing. -/
theorem login_raises {body : Routes.LoginRequest} :
    Raising (fun _ => True) (Outside [Resource.auditLog, .committed]) (Routes.login rt e.env body) := by
  unfold Routes.login
  refine Raising.bind_kept (Touches.moves (by grind [TenantRepository.getByName])) fun o => ?_
  cases o with
  | none => exact (Touches.moves (Touches.throw _)).raising _
  | some tenant =>
    refine Raising.bind_kept (Touches.moves (by grind)) fun _ => ?_
    refine Raising.bind_kept (Touches.moves (by grind)) fun found => ?_
    cases found with
    | none => exact (Touches.moves (by grind)).raising _
    | some user =>
      refine Raising.bind_kept (Touches.moves (by grind)) fun _ => ?_
      -- nothing raises after the signature
      intro s ex t h _
      cases h

theorem impersonate_raises {tenantId : String} :
    Raising (fun _ => True) (Outside ([] : List Resource))
      (ProviderRoutes.impersonate rt e.env auth tenantId) := by
  unfold ProviderRoutes.impersonate
  refine Raising.bind_kept (Touches.moves (by grind)) fun p => ?_
  refine Raising.bind_kept (Touches.moves (by grind)) fun o => ?_
  refine Raising.bind_kept (Touches.moves (by grind)) fun tenant => ?_
  refine Raising.bind_kept (Touches.moves (by grind)) fun members => ?_
  refine Raising.bind_kept (Touches.moves (by grind)) fun admin => ?_
  intro s ex t h _
  cases h

/-- The cases of an investigation run, each with its entry. -/
theorem forM_save_recorded {p : Principal} {invs : List Investigation} {s : Session} {u : Unit}
    (h : (invs.forM (Routes.saveInvestigation rt e.env p)).run s = .ok u t) :
    ∀ inv ∈ invs, ∃ detail, HasEntry rt.sha256 t.db.auditLog
      { tenantId := p.tenantId
        actor := p.username
        action := "investigation.created"
        targetType := "investigation"
        targetId := inv.id
        detail := detail } := by
  have hgrows (invs : List Investigation) :
      Moves LogExtends (invs.forM (Routes.saveInvestigation rt e.env p)) :=
    Moves.forM (fun i => (logExtends_of_touches (InvestigationRepository.save_touches ..)).bind
      fun _ => logExtends_recordEntry rt e.env _) invs
  induction invs generalizing s with
  | nil => intro inv hinv; cases hinv
  | cons first rest ih =>
    obtain ⟨_, v, hfirst, hrest⟩ := run_bind_eq_ok.mp h
    intro inv hinv
    obtain rfl | hinv := List.mem_cons.mp hinv
    · obtain ⟨_, _, _, hrec⟩ := run_bind_eq_ok.mp hfirst
      exact ⟨_, (recordEntry_hasEntry hrec).extend ((hgrows rest).of_ok hrest)⟩
    · exact ih hrest inv hinv

theorem RunReaches.recorded {p : Principal} {orch : Orchestrator} (h : RunReaches rt w e p orch)
    (hs : succeeds rt w e = true) :
    ∀ id ∈ drawnIds rt w e p.tenantId, ∃ detail, HasEntry rt.sha256 (step rt w e).db.auditLog
      { tenantId := p.tenantId
        actor := p.username
        action := "investigation.created"
        targetType := "investigation"
        targetId := id
        detail := detail } := by
  obtain ⟨invs, l, u, t, _, _, hids, hstore, hdb⟩ := h.pipeline hs
  obtain ⟨_, v, _, _, hsave, hrefresh, _⟩ := Routes.afterPipeline_ok hstore
  have hkept : t.db.auditLog = v.db.auditLog := ((Routes.refreshIncidents_touches rt e.env p).moves.of_ok
    hrefresh .auditLog (by decide)).1
  rw [hdb, hkept, ← hids]
  intro id hid
  obtain ⟨inv, hinv, rfl⟩ := List.mem_map.mp hid
  exact forM_save_recorded hsave inv hinv

end

/-! ## Fact by fact -/

section

variable {q : Request}

theorem ruleStates_writes (h : .ruleStates ∈ writes q) :
    ∃ auth ruleId enabled, q = .admin auth (.toggleRule ruleId enabled) := by
  cases q with
  | admin auth r =>
    cases r with
    | toggleRule ruleId enabled => exact ⟨auth, ruleId, enabled, rfl⟩
    | _ => simp [writes] at h
  | case auth id r => cases r <;> simp [writes] at h
  | provider auth r => cases r <;> simp [writes] at h
  | _ => simp [writes] at h

theorem tenantCredentials_writes (h : .tenantCredentials ∈ writes q) :
    ∃ auth body, q = .admin auth (.updateCredentials body) := by
  cases q with
  | admin auth r =>
    cases r with
    | updateCredentials body => exact ⟨auth, body, rfl⟩
    | _ => simp [writes] at h
  | case auth id r => cases r <;> simp [writes] at h
  | provider auth r => cases r <;> simp [writes] at h
  | _ => simp [writes] at h

theorem revokedTokens_writes (h : .revokedTokens ∈ writes q) : ∃ auth, q = .logout auth := by
  cases q with
  | logout auth => exact ⟨auth, rfl⟩
  | case auth id r => cases r <;> simp [writes] at h
  | admin auth r => cases r <;> simp [writes] at h
  | provider auth r => cases r <;> simp [writes] at h
  | _ => simp [writes] at h

end

/-- An update of columns that `g` does not read brings in nothing. -/
theorem mem_map_modify {ρ β : Type} [Keyed ρ String] {t : KeyedTable ρ} {k : String} {f : ρ → ρ}
    {hf : ∀ r, Keyed.key (f r) = Keyed.key r} {r : ρ} (hr : r ∈ (t.modify k f hf).rows) (g : ρ → β)
    (hg : ∀ r, g (f r) = g r) : ∃ r' ∈ t.rows, g r' = g r := by
  have hsame := map_modify t k f hf g fun r _ _ => hg r
  have hmem := List.mem_map_of_mem (f := g) hr
  rw [hsame] at hmem
  exact List.mem_map.mp hmem

section

variable {rt : Runtime} {w : World} {e : Event}

/-- An entry on the log after a request. -/
def Recorded (rt : Runtime) (w : World) (e : Event) (f : Fact) : Prop :=
  ∃ r ∈ auditEntries (step rt w e).db, f.ExplainedBy r

theorem Recorded.of_entry {f : Fact} {entry : AuditEntry}
    (h : HasEntry rt.sha256 (step rt w e).db.auditLog entry)
    (hexplains : ∀ now p, f.ExplainedBy (newRow rt.sha256 now entry p)) : Recorded rt w e f := by
  obtain ⟨now, p, hmem⟩ := h
  exact ⟨_, hmem, hexplains now p⟩

/-- A table has been written by a request that was answered, or it is as it was. -/
theorem answered_or_kept (r : Resource) (hr : r ∉ [Resource.tokens, .committed, .auditLog]) :
    (r ∈ writes e.request ∧ ∃ body t, handled rt w e = .ok body t ∧ (step rt w e).db = t.db) ∨
      r.Kept w.db (step rt w e).db := by
  by_cases hw : r ∈ writes e.request
  · have hc : .committed ∉ footprint e.request := by
      intro hc
      obtain ⟨body, he⟩ := committed_footprint hc
      rw [he] at hw
      exact hr hw
    obtain hok | ⟨_, hdb⟩ := step_db rt hc
    · exact Or.inl ⟨hw, hok⟩
    · right
      rw [hdb]
      cases r with
      | searches | completions | connectors | captured | tokens | committed => trivial
      | _ => rfl
  · exact Or.inr (step_kept r hw)

theorem TenantRepository.update_rows {k : String} {f : TenantRow → TenantRow}
    {hf : ∀ r, (f r).id = r.id} {s t : Session} {o : Option TenantRow}
    (h : (TenantRepository.update k f hf).run s = .ok o t) (hname : ∀ r, (f r).name = r.name) :
    ∀ r ∈ t.db.tenants.rows, ∃ r' ∈ s.db.tenants.rows, (r'.id, r'.name) = (r.id, r.name) := by
  intro r hr
  unfold TenantRepository.update at h
  rw [run_bind_ok (tenantGet_run k s)] at h
  cases hfind : s.db.tenants.find? k with
  | none =>
    rw [hfind] at h
    cases h
    exact ⟨r, hr, rfl⟩
  | some tenant =>
    rw [hfind] at h
    cases h
    have hsame (r : TenantRow) : ((f r).id, (f r).name) = (r.id, r.name) := by rw [hf, hname]
    have hmem : r ∈ (s.db.tenants.modify tenant.id f hf).rows := hr
    exact mem_map_modify hmem (fun r => (r.id, r.name)) hsame

theorem updateSettings_rows {auth : Authorization} {settings : List (String × JsonValue)} {t : Session}
    {answer : TenantRoutes.TenantSettings}
    (h : (TenantRoutes.updateSettings rt e.env auth settings).run w.session = .ok answer t) :
    ∀ r ∈ t.db.tenants.rows, ∃ r' ∈ w.db.tenants.rows, (r'.id, r'.name) = (r.id, r.name) := by
  unfold TenantRoutes.updateSettings TenantRepository.updateSettings at h
  simp only [run_bind_eq_ok, require_eq_ok, orRaise_eq_ok] at h
  obtain ⟨p, _, ⟨_, rfl⟩, o, u, hupdate, tenant, _, ⟨_, rfl⟩, _, _, hrec, hret⟩ := h
  cases hret
  rw [AuditService.recordEntry_run] at hrec
  cases hrec
  exact TenantRepository.update_rows hupdate fun _ => rfl

/-- The entry of a tenant's creation, which is also the one of its first administrator. -/
theorem tenantCreated_recorded {auth : Authorization} {body : ProviderRoutes.CreateTenantRequest}
    {r : ProviderRoutes.TenantResponse} {t : Session}
    (h : (ProviderRoutes.createTenant rt e.env auth body).run w.session = .ok r t)
    (hdb : (step rt w e).db = t.db) :
    Recorded rt w e (.tenant (e.env.uuid4 0) body.name) ∧
      ∀ id, Recorded rt w e (.account (e.env.uuid4 0) id body.adminUsername) := by
  obtain ⟨_, _, _, _, _, hentry⟩ := createTenant_recorded h
  rw [← hdb] at hentry
  exact ⟨.of_entry hentry fun _ _ => ⟨rfl, rfl, rfl, rfl⟩,
    fun _ => .of_entry hentry fun _ _ => Or.inr ⟨rfl, rfl, rfl, rfl⟩⟩

theorem tenant_recorded {tenant : TenantRow} (htenant : tenant ∈ (step rt w e).db.tenants.rows) :
    (∃ t ∈ w.db.tenants.rows, (t.id, t.name) = (tenant.id, tenant.name)) ∨
      Recorded rt w e (.tenant tenant.id tenant.name) := by
  obtain ⟨hw, _, t, hrun, hdb⟩ | hkept := @answered_or_kept rt w e .tenants (by decide)
  · rw [hdb] at htenant
    cases he : e.request with
    | admin auth r =>
      cases r with
      | updateSettings settings =>
        obtain ⟨_, h, _⟩ := (handled_eq_ok he rfl).mp hrun
        exact Or.inl (updateSettings_rows h tenant htenant)
      | _ => simp [he, writes] at hw
    | provider auth r =>
      cases r with
      | createTenant body =>
        obtain ⟨_, h, _⟩ := (handled_eq_ok he rfl).mp hrun
        obtain ⟨_, new, hid, hname, hins, _⟩ := createTenant_recorded h
        obtain hold | rfl := (mem_of_insert? hins).mp htenant
        · exact Or.inl ⟨tenant, hold, rfl⟩
        · rw [hid, hname]
          exact Or.inr (tenantCreated_recorded h hdb).1
      | setStatus tenantId status =>
        obtain ⟨_, h, _⟩ := (handled_eq_ok he rfl).mp hrun
        obtain ⟨_, _, htenants⟩ := setTenant_eq_ok rt e.env _ _ _ _ h
        rw [htenants] at htenant
        exact Or.inl (mem_map_modify htenant (fun r => (r.id, r.name)) fun _ => rfl)
      | setPlan tenantId plan =>
        obtain ⟨_, h, _⟩ := (handled_eq_ok he rfl).mp hrun
        obtain ⟨_, _, htenants⟩ := setTenant_eq_ok rt e.env _ _ _ _ h
        rw [htenants] at htenant
        exact Or.inl (mem_map_modify htenant (fun r => (r.id, r.name)) fun _ => rfl)
      | _ => simp [he, writes] at hw
    | case auth invId r => cases r <;> simp [he, writes] at hw
    | _ => simp [he, writes] at hw
  · have hsame : (step rt w e).db.tenants = w.db.tenants := hkept
    rw [hsame] at htenant
    exact Or.inl ⟨tenant, htenant, rfl⟩

theorem account_recorded {user : UserRow} (huser : user ∈ (step rt w e).db.users.rows) :
    (∃ u ∈ w.db.users.rows, (u.tenantId, u.id, u.username) = (user.tenantId, user.id, user.username)) ∨
      Recorded rt w e (.account user.tenantId user.id user.username) := by
  have hchange := step_account_change rt w e
  generalize husers : (step rt w e).db.users = users at hchange huser
  -- the request that brought in a row has been answered
  have hanswered (hc : .committed ∉ footprint e.request) (hnew : user ∉ w.db.users.rows) :
      ∃ body t, handled rt w e = .ok body t ∧ (step rt w e).db = t.db := by
    obtain hok | ⟨_, hdb⟩ := step_db rt hc
    · exact hok
    · rw [hdb] at husers
      rw [husers] at hnew
      exact absurd huser hnew
  by_cases hnew : user ∈ w.db.users.rows
  · exact Or.inl ⟨user, hnew, rfl⟩
  · cases hchange with
    | kept => exact absurd huser hnew
    | created auth body p users he hp hname hpassword hrole hfree hins =>
      obtain ⟨_, t, hrun, hdb⟩ := hanswered (by simp [he, footprint]) hnew
      obtain ⟨_, h, _⟩ := (handled_eq_ok he rfl).mp hrun
      obtain ⟨q, hq, hentry⟩ := createUser_recorded h
      obtain rfl := hq.unique hp
      obtain hold | rfl := (mem_of_insert? hins).mp huser
      · exact absurd hold hnew
      · rw [← hdb] at hentry
        exact Or.inr (.of_entry hentry fun _ _ => Or.inl ⟨rfl, rfl, rfl, rfl⟩)
    | changed auth r userId f hf p u he hr hp hown =>
      refine Or.inl (mem_map_modify huser (fun u => (u.tenantId, u.id, u.username)) ?_)
      cases hr with
      | role | link => exact fun _ => rfl
    | deleted auth userId p u he hp hother hown =>
      exact absurd (List.mem_of_mem_filter huser) hnew
    | tenantAdmin auth body users he hname htenant hins =>
      obtain ⟨_, t, hrun, hdb⟩ := hanswered (by simp [he, footprint]) hnew
      obtain ⟨_, h, _⟩ := (handled_eq_ok he rfl).mp hrun
      obtain hold | rfl := (mem_of_insert? hins).mp huser
      · exact absurd hold hnew
      · exact Or.inr ((tenantCreated_recorded h hdb).2 _)

theorem case_recorded {row : InvestigationRow} (hrow : row ∈ (step rt w e).db.investigations.rows) :
    (∃ r ∈ w.db.investigations.rows, r.tenantId = row.tenantId ∧ r.id = row.id) ∨
      Recorded rt w e (.case row.tenantId row.id) := by
  have hfound : (step rt w e).db.investigations.find? row.id = some row :=
    (KeyedTable.find?_eq_some _ _ _).mpr ⟨hrow, rfl⟩
  have hold {id : String} {r : InvestigationRow} (h : w.db.investigations.find? id = some r) :
      r ∈ w.db.investigations.rows := ((KeyedTable.find?_eq_some _ _ _).mp h).1
  have hchange := row_change rt w e row.id
  cases hchange with
  | kept hsame => exact Or.inl ⟨row, hold (hsame.symm.trans hfound), rfl, rfl⟩
  | written auth r op he hop hw =>
    obtain ⟨before, new, hbefore, hcompute, hself, _⟩ := hw.rows
    cases hfound.symm.trans hself
    have hfixed := compute_fixed hcompute
    exact Or.inl ⟨before, hold hbefore, hfixed.tenantId.symm, hfixed.id.symm⟩
  | filed p orch hreach hs hfiled =>
    rw [hfound] at hfiled
    generalize hbefore : w.db.investigations.find? row.id = before at hfiled
    cases hfiled with
    | same => exact Or.inl ⟨row, hold hbefore, rfl, rfl⟩
    | opened inv k hinv hid =>
      obtain ⟨detail, hentry⟩ := hreach.recorded hs inv.id hid
      exact Or.inr (.of_entry hentry fun _ _ => ⟨rfl, rfl, rfl⟩)
    | refiled before inv hinv hid hsame htenant => exact Or.inl ⟨before, hold hbefore, rfl, rfl⟩

theorem entries_grow (rt : Runtime) (w : World) (o : Occurrence) :
    auditEntries w.db <+: auditEntries (occur rt w o).db :=
  (occur_later rt w o).rows.auditLog.map Prod.snd

theorem note_enters (rt : Runtime) (w : World) (e : Event) :
    Enters NoteEntry w.db.caseNotes.rows (auditEntries w.db) (step rt w e).db.caseNotes.rows
      (auditEntries (step rt w e).db) := by
  obtain ⟨hw, _, t, hrun, hdb⟩ | hkept := @answered_or_kept rt w e .caseNotes (by decide)
  · obtain ⟨auth, id, body, he⟩ := caseNotes_writes hw
    obtain ⟨_, h, _⟩ := (handled_eq_ok he rfl).mp hrun
    obtain ⟨token, new, _, hins, htenant, hcase, hauthor, _, hentry⟩ := addNote_ok h
    rw [hdb, KeyedTable.insert?_rows hins]
    exact enters_of_appends hentry fun _ _ => ⟨htenant.symm, rfl, hcase.symm, hauthor.symm⟩
  · have hsame : (step rt w e).db.caseNotes = w.db.caseNotes := hkept
    rw [hsame]
    exact .kept (entries_grow rt w (.request e))

theorem ruleState_recorded {row : RuleStateRow} (hrow : row ∈ (step rt w e).db.ruleStates.rows) :
    (∃ r ∈ w.db.ruleStates.rows, r.tenantId = row.tenantId ∧ r.ruleId = row.ruleId) ∨
      Recorded rt w e (.ruleState row.tenantId row.ruleId) := by
  obtain ⟨hw, _, t, hrun, hdb⟩ | hkept := @answered_or_kept rt w e .ruleStates (by decide)
  · obtain ⟨auth, ruleId, enabled, he⟩ := ruleStates_writes hw
    obtain ⟨_, h, _⟩ := (handled_eq_ok he rfl).mp hrun
    obtain ⟨p, hentry, hstates⟩ := toggleRule_recorded h
    rw [hdb] at hrow
    rw [← hdb] at hentry
    obtain ⟨htenant, hrule⟩ | hold := hstates row hrow
    · rw [htenant, hrule]
      exact Or.inr (.of_entry hentry fun _ _ => ⟨rfl, rfl, rfl⟩)
    · exact Or.inl hold
  · have hsame : (step rt w e).db.ruleStates = w.db.ruleStates := hkept
    rw [hsame] at hrow
    exact Or.inl ⟨row, hrow, rfl, rfl⟩

theorem credentials_recorded {row : TenantCredentialRow}
    (hrow : row ∈ (step rt w e).db.tenantCredentials.rows) :
    (∃ r ∈ w.db.tenantCredentials.rows, r.tenantId = row.tenantId) ∨
      Recorded rt w e (.credentials row.tenantId) := by
  obtain ⟨hw, _, t, hrun, hdb⟩ | hkept := @answered_or_kept rt w e .tenantCredentials (by decide)
  · obtain ⟨auth, body, he⟩ := tenantCredentials_writes hw
    obtain ⟨_, h, _⟩ := (handled_eq_ok he rfl).mp hrun
    obtain ⟨p, detail, hentry, hrows⟩ := updateCredentials_recorded h
    rw [hdb] at hrow
    rw [← hdb] at hentry
    obtain htenant | hold := hrows row hrow
    · rw [htenant]
      exact Or.inr (.of_entry hentry fun _ _ => ⟨rfl, rfl⟩)
    · exact Or.inl hold
  · have hsame : (step rt w e).db.tenantCredentials = w.db.tenantCredentials := hkept
    rw [hsame] at hrow
    exact Or.inl ⟨row, hrow, rfl⟩

theorem revocation_enters (rt : Runtime) (w : World) (e : Event) :
    Enters (RevocationEntry w.issued) w.db.revokedTokens.rows (auditEntries w.db)
      (step rt w e).db.revokedTokens.rows (auditEntries (step rt w e).db) := by
  obtain ⟨hw, _, t, hrun, hdb⟩ | hkept := @answered_or_kept rt w e .revokedTokens (by decide)
  · obtain ⟨auth, he⟩ := revokedTokens_writes hw
    obtain ⟨_, h, _⟩ := (handled_eq_ok he rfl).mp hrun
    obtain ⟨k, row, hsigned, hjti, htenant, hrows, hentry⟩ := logout_recorded h
    rw [hdb, hrows]
    exact enters_of_appends hentry fun _ _ =>
      ⟨htenant.symm, rfl, k, hsigned, hjti.symm, htenant.symm, rfl, rfl⟩
  · have hsame : (step rt w e).db.revokedTokens = w.db.revokedTokens := hkept
    rw [hsame]
    exact .kept (entries_grow rt w (.request e))

/-- A request that, if it is answered, signs a token and records it, and signs none if it raises. -/
theorem token_of_run
    (hok : ∀ body t, handled rt w e = .ok body t → ∃ (k : Token) (entry : AuditEntry),
      t.issued = w.issued ++ [k] ∧ Appends rt.sha256 w.db.auditLog t.db.auditLog entry ∧
      ∀ now p, TokenEntry k (newRow rt.sha256 now entry p))
    (herror : ∀ ex t, handled rt w e = .error ex t → t.issued = w.issued) :
    Enters TokenEntry w.issued (auditEntries w.db) (step rt w e).issued
      (auditEntries (step rt w e).db) := by
  cases hrun : handled rt w e with
  | ok body t =>
    obtain ⟨k, entry, hsigned, hentry, hk⟩ := hok body t hrun
    have hstep : step rt w e = { db := t.db, issued := t.issued, captured := t.captured } := by
      rw [step_eq, hrun]
    rw [hstep, hsigned]
    exact enters_of_appends hentry hk
  | error ex t =>
    have hkept : (step rt w e).issued = w.issued := by
      rw [issued_eq, hrun]
      exact herror ex t hrun
    rw [hkept]
    exact .kept (entries_grow rt w (.request e))

theorem token_enters (rt : Runtime) (w : World) (e : Event) :
    Enters TokenEntry w.issued (auditEntries w.db) (step rt w e).issued
      (auditEntries (step rt w e).db) := by
  by_cases hF : .tokens ∈ footprint e.request
  · obtain ⟨body, he⟩ | ⟨auth, tenantId, he⟩ := tokens_footprint hF
    · refine token_of_run (fun answer t hrun => ?_) fun ex t hrun => ?_
      · obtain ⟨_, h, _⟩ := (handled_eq_ok he rfl).mp hrun
        obtain ⟨k, hsigned, hentry⟩ := login_recorded h
        exact ⟨k, _, hsigned, hentry, fun _ _ => ⟨rfl, rfl, Or.inl ⟨rfl, rfl⟩⟩⟩
      · have h := (handled_eq_error he rfl).mp hrun
        exact (login_raises _ _ _ h trivial) .tokens (by decide)
    · refine token_of_run (fun answer t hrun => ?_) fun ex t hrun => ?_
      · obtain ⟨_, h, _⟩ := (handled_eq_ok he rfl).mp hrun
        obtain ⟨k, p, hsigned, hentry⟩ := impersonate_recorded h
        exact ⟨k, _, hsigned, hentry, fun _ _ => ⟨rfl, rfl, Or.inr rfl⟩⟩
      · have h := (handled_eq_error he rfl).mp hrun
        exact (impersonate_raises _ _ _ h trivial) .tokens (by decide)
  · have hkept : (stateOf (handled rt w e)).issued = w.issued := handled_same (p := .tokens) hF
    rw [issued_eq, hkept]
    exact .kept (entries_grow rt w (.request e))

end

/-! ## What a start seeds -/

section

variable {env : Env} {s t : Session}

/-- A start that raises commits nothing. -/
theorem seedDefault_raises (env : Env) :
    Raising (fun _ => True) (Outside [Resource.tenants, .users]) (Bootstrap.seedDefault env) := by
  have hensure (name : String) : Touches [Resource.tenants, .users] (TenantRepository.ensure env name) := by
    grind [TenantRepository.ensure, TenantRepository.getByName]
  have huser (tenantId username password role : String) : Touches [Resource.tenants, .users]
      (Bootstrap.ensureUser env tenantId username password role) := by
    grind [Bootstrap.ensureUser, UserRepository.getByUsername]
  unfold Bootstrap.seedDefault
  refine Raising.bind_kept (hensure _).moves fun tenant => ?_
  refine Raising.bind_kept (huser _ _ _ _).moves fun _ => ?_
  refine Raising.bind_kept (hensure _).moves fun platform => ?_
  refine Raising.bind_kept (huser _ _ _ _).moves fun _ => ?_
  intro s ex t h _
  cases h

theorem ensure_rows {name : String} {tenant : TenantRow}
    (h : (TenantRepository.ensure env name).run s = .ok tenant t) :
    tenant.name = name ∧ tenant ∈ t.db.tenants.rows ∧ t.db.users = s.db.users ∧
      s.db.tenants.rows ⊆ t.db.tenants.rows ∧
      ∀ r ∈ t.db.tenants.rows, r ∈ s.db.tenants.rows ∨ r = tenant := by
  obtain ⟨hone, husers, _⟩ := ensure_after h
  obtain ⟨hrow, hname⟩ := of_tenantsNamed hone
  obtain ⟨_, rfl⟩ | ⟨_, hcreate⟩ := ensure_cases h
  · exact ⟨hname, hrow, husers, List.Subset.refl _, fun r hr => Or.inl hr⟩
  · obtain ⟨rfl, _, tenants, hins, rfl⟩ := TenantRepository.create_eq_ok hcreate
    exact ⟨hname, hrow, husers, (prefix_insert? hins).subset, fun r hr => (mem_of_insert? hins).mp hr⟩

theorem ensureUser_rows {tenantId username password role : String} {x : Unit}
    (h : (Bootstrap.ensureUser env tenantId username password role).run s = .ok x t) :
    t.db.tenants = s.db.tenants ∧ ∀ u ∈ t.db.users.rows, u ∈ s.db.users.rows ∨
      (u.tenantId = tenantId ∧ u.username = username) := by
  obtain ⟨htenants, ⟨_, husers⟩ | ⟨_, user, rfl, rfl, _, hins⟩⟩ := ensureUser_extends h
  · exact ⟨htenants, fun u hu => Or.inl (husers ▸ hu)⟩
  · refine ⟨htenants, fun u hu => ?_⟩
    obtain hold | rfl := (mem_of_insert? hins).mp hu
    · exact Or.inl hold
    · exact Or.inr ⟨rfl, rfl⟩

end

/-- The two tenants and the two accounts are all a start can add. -/
theorem start_rows (env : Env) (w : World) : (start env w).db = w.db ∨
    (∀ r ∈ (start env w).db.tenants.rows, r ∈ w.db.tenants.rows ∨
      r.name = Bootstrap.defaultTenant ∨ r.name = platformTenant) ∧
    ∀ u ∈ (start env w).db.users.rows, u ∈ w.db.users.rows ∨
      Fact.Seeded (start env w).db (.account u.tenantId u.id u.username) := by
  cases hrun : (Bootstrap.seedDefault env).run w.session with
  | error ex t =>
    have hdb : (start env w).db = t.committed := congrArg (fun r => (stateOf r).committed) hrun
    have hkept : t.committed = w.db := (seedDefault_raises env _ _ _ hrun trivial) .committed (by decide)
    exact Or.inl (hdb.trans hkept)
  | ok _ t =>
    right
    have hdb : (start env w).db = t.committed := congrArg (fun r => (stateOf r).committed) hrun
    obtain ⟨default, s₁, s₂, platform, s₃, s₄, hdefault, hanalyst, hplatform, hprovider, hend⟩ :=
      seedDefault_eq_ok hrun
    obtain ⟨hname, hrow, husers, _, hnew⟩ := ensure_rows hdefault
    obtain ⟨htenants, haccounts⟩ := ensureUser_rows hanalyst
    obtain ⟨hname', hrow', husers', hgrows, hnew'⟩ := ensure_rows hplatform
    obtain ⟨htenants', haccounts'⟩ := ensureUser_rows hprovider
    rw [hdb, hend]
    refine ⟨fun r hr => ?_, fun u hu => ?_⟩
    · rw [htenants'] at hr
      obtain hr | rfl := hnew' r hr
      · rw [htenants] at hr
        obtain hr | rfl := hnew r hr
        · exact Or.inl hr
        · exact Or.inr (Or.inl hname)
      · exact Or.inr (Or.inr hname')
    · obtain hu | ⟨htenant, huser⟩ := haccounts' u hu
      · rw [husers'] at hu
        obtain hu | ⟨htenant, huser⟩ := haccounts u hu
        · rw [husers] at hu
          exact Or.inl hu
        · have hstays : default ∈ s₄.db.tenants.rows := by
            rw [htenants']
            rw [← htenants] at hrow
            exact hgrows hrow
          exact Or.inr ⟨default, hstays, htenant.symm, Or.inl ⟨hname, huser⟩⟩
      · have hstays : platform ∈ s₄.db.tenants.rows := htenants' ▸ hrow'
        exact Or.inr ⟨platform, hstays, htenant.symm, Or.inr ⟨hname', huser⟩⟩

/-! ## The whole life -/

theorem Fact.Seeded.later {db db' : Database} (h : Extends db db') {f : Fact} (hf : f.Seeded db) :
    f.Seeded db' := by
  cases f with
  | tenant id name => exact hf
  | account tenantId id username =>
    obtain ⟨t, ht, hid, hnames⟩ := hf
    have hmem := h.tenants.subset (List.mem_map_of_mem (f := TenantRow.identity) ht)
    obtain ⟨t', ht', hsame⟩ := List.mem_map.mp hmem
    have hsameId : t'.id = t.id := congrArg Prod.fst hsame
    have hsameName : t'.name = t.name := congrArg (fun x => x.2.1) hsame
    exact ⟨t', ht', hsameId.trans hid, by rwa [hsameName]⟩
  | _ => exact hf.elim

/-- What is new after a start is seeded. -/
theorem start_explains (env : Env) (w : World) (f : Fact)
    (hf : f.Holds (start env w).db) : f.Holds w.db ∨ f.Seeded (start env w).db := by
  cases f with
  | tenant id name =>
    obtain ⟨t, ht, rfl, rfl⟩ := hf
    obtain hsame | ⟨htenants, _⟩ := start_rows env w
    · exact Or.inl ⟨t, hsame ▸ ht, rfl, rfl⟩
    · exact (htenants t ht).imp (fun hold => ⟨t, hold, rfl, rfl⟩) id
  | account tenantId id username =>
    obtain ⟨u, hu, rfl, rfl, rfl⟩ := hf
    obtain hsame | ⟨_, haccounts⟩ := start_rows env w
    · exact Or.inl ⟨u, hsame ▸ hu, rfl, rfl, rfl⟩
    · exact (haccounts u hu).imp (fun hold => ⟨u, hold, rfl, rfl, rfl⟩) id
  | case tenantId id =>
    have hkept : (start env w).db.investigations = w.db.investigations :=
      start_kept env w .investigations (by decide)
    exact Or.inl (by rwa [Fact.Holds, hkept] at hf)
  | ruleState tenantId ruleId =>
    have hkept : (start env w).db.ruleStates = w.db.ruleStates :=
      start_kept env w .ruleStates (by decide)
    exact Or.inl (by rwa [Fact.Holds, hkept] at hf)
  | credentials tenantId =>
    have hkept : (start env w).db.tenantCredentials = w.db.tenantCredentials :=
      start_kept env w .tenantCredentials (by decide)
    exact Or.inl (by rwa [Fact.Holds, hkept] at hf)

/-- What is new after a request is recorded. -/
theorem step_explains (rt : Runtime) (w : World) (e : Event) (f : Fact)
    (hf : f.Holds (step rt w e).db) : f.Holds w.db ∨ Recorded rt w e f := by
  cases f with
  | tenant id name =>
    obtain ⟨t, ht, rfl, rfl⟩ := hf
    refine (tenant_recorded ht).imp_left ?_
    rintro ⟨t', ht', hsame⟩
    exact ⟨t', ht', congrArg Prod.fst hsame, congrArg Prod.snd hsame⟩
  | account tenantId id username =>
    obtain ⟨u, hu, rfl, rfl, rfl⟩ := hf
    refine (account_recorded hu).imp_left ?_
    rintro ⟨u', hu', hsame⟩
    exact ⟨u', hu', congrArg Prod.fst hsame, congrArg (fun x => x.2.1) hsame,
      congrArg (fun x => x.2.2) hsame⟩
  | case tenantId id =>
    obtain ⟨row, hrow, rfl, rfl⟩ := hf
    exact case_recorded hrow
  | ruleState tenantId ruleId =>
    obtain ⟨row, hrow, rfl, rfl⟩ := hf
    exact ruleState_recorded hrow
  | credentials tenantId =>
    obtain ⟨row, hrow, rfl⟩ := hf
    exact credentials_recorded hrow

/-- A new world holds nothing. -/
theorem Fact.not_holds_new (f : Fact) : ¬ f.Holds World.new.db := by
  have hempty {ρ : Type} {P : ρ → Prop} : ¬ ∃ r ∈ ([] : List ρ), P r := by
    rintro ⟨r, hr, _⟩
    cases hr
  cases f <;> exact hempty

theorem occur_accounts (rt : Runtime) (w : World) (o : Occurrence) :
    auditJournal.Accounts w (occur rt w o) where
  log := (entries_grow rt w o).subset
  given := fun f hf => Fact.Seeded.later (occur_later rt w o).rows hf
  facts := by
    intro f hf
    cases o with
    | start env => exact (start_explains env w f hf).imp_right Or.inl
    | request e => exact (step_explains rt w e f hf).imp_right Or.inr

theorem FullyRecorded.after_start {w : World} (h : FullyRecorded w) (rt : Runtime) (env : Env) :
    FullyRecorded (start env w) := by
  have hnotes : (start env w).db.caseNotes = w.db.caseNotes := start_kept env w .caseNotes (by decide)
  have hrevoked : (start env w).db.revokedTokens = w.db.revokedTokens :=
    start_kept env w .revokedTokens (by decide)
  have hlog : auditEntries w.db <+: auditEntries (start env w).db := entries_grow rt w (.start env)
  have hfacts := (occur_accounts rt w (.start env)).accounted h.facts
  constructor
  · exact hfacts
  · rw [hnotes]
    exact (Enters.kept hlog).entered h.notes
  · rw [start_issued]
    exact (Enters.kept hlog).entered h.tokens
  · rw [hrevoked, start_issued]
    exact (Enters.kept hlog).entered h.revocations

theorem FullyRecorded.after_step {w : World} (h : FullyRecorded w) (rt : Runtime) (e : Event) :
    FullyRecorded (step rt w e) where
  facts := (occur_accounts rt w (.request e)).accounted h.facts
  notes := (note_enters rt w e).entered h.notes
  tokens := (token_enters rt w e).entered h.tokens
  revocations := by
    refine ((revocation_enters rt w e).entered h.revocations).mono ?_
    -- the tokens signed before are still signed
    rintro row r ⟨htenant, haction, k, hk, hown⟩
    exact ⟨htenant, haction, k, (occur_later rt w (.request e)).tokens.subset hk, hown⟩

/-- Whatever happens to a deployment: every tenant, account, case, rule state and credentials row
    it has comes from a start's seeding or is named by an entry of the audit log, and every note,
    token and revocation has an entry of its own there. -/
theorem everything_on_record (rt : Runtime) (os : List Occurrence) : FullyRecorded (live rt .new os) := by
  refine live_keeps (I := FullyRecorded) (fun w o h => ?_) ?_ os
  · cases o with
    | start env => exact h.after_start rt env
    | request e => exact h.after_step rt e
  · exact ⟨fun f hf => absurd hf f.not_holds_new, entered_nil, entered_nil, entered_nil⟩

end SentinelAI
