import SentinelAI.Records.Statements
import SentinelAI.Security.TenantIsolation
import SentinelAI.Security.TenantRequests
import SentinelAI.Tenancy.Restart

/-
  Tenant isolation of the whole API, behind the rate limiter. A tenant's own requests are
  answered from what it sees and move that alike (`own_step`). What the other tenants and the
  provider do does not move it (`view_of_own`, `provider_spares`), short of the provider's
  requests about the tenant itself. So in any run of the service a tenant is answered, and its
  Splunk and its model are asked, as if it had the deployment to itself (`api_isolation`).

  The runs are of the requests the limiter passes on. Which those are, it decides by client
  address: tenants behind one proxy share a limit, and one can use up another's.
-/

namespace SentinelAI

open Lib

/-! ## What others' requests leave -/

/-- What is a tenant's own is none of what is not another's. -/
theorem World.view_of_rest {w w' : World} {tenantId other : String} (hne : other ≠ tenantId)
    (h : w.rest other = w'.rest other) : w.view tenantId = w'.view tenantId := by
  have hother {k : String} (hk : k == tenantId) : (!(k == other)) = true := by
    have hk : k = tenantId := by simpa using hk
    simp [hk, Ne.symm hne]
  have filtered {α : Type} {f : α → String} {l l' : List α}
      (h : (l.filter fun a => !(f a == other)) = l'.filter fun a => !(f a == other)) :
      (l.filter fun a => f a == tenantId) = l'.filter fun a => f a == tenantId := by
    have hle (l : List α) : (l.filter fun a => f a == tenantId) =
        (l.filter fun a => !(f a == other)).filter fun a => f a == tenantId := by
      rw [List.filter_filter]
      refine List.filter_congr fun a _ => ?_
      cases ha : f a == tenantId with
      | false => rfl
      | true => rw [hother ha]; rfl
    rw [hle l, hle l', h]
  injection h with hrows htenants hrevoked hcaptured hissued
  have hown := @rowsOf_of_rowsBut { w.db with tenants := .empty, revokedTokens := .empty }
    { w'.db with tenants := .empty, revokedTokens := .empty } tenantId other hne hrows
  unfold World.view
  rw [show w.db.rowsOf tenantId = w'.db.rowsOf tenantId from hown,
    show (w.db.tenants.select fun t => t.id == tenantId) =
      w'.db.tenants.select fun t => t.id == tenantId from filtered htenants,
    show (w.db.revokedTokens.select fun r => r.tenantId == tenantId) =
      w'.db.revokedTokens.select fun r => r.tenantId == tenantId from filtered hrevoked,
    filtered hcaptured, filtered hissued]

/-- What a tenant sees of a session is as before, in its rows and in those committed. -/
structure Spares (tenantId : String) (s t : Session) : Prop where
  db : (World.after t.db t).view tenantId = (World.after s.db s).view tenantId
  committed : (World.after t.committed t).view tenantId = (World.after s.committed s).view tenantId

/-- It is, if the tenant is stored. -/
def SparesStored (tenantId : String) (s t : Session) : Prop :=
  Present s.db tenantId → Present t.db tenantId ∧ Spares tenantId s t

instance (tenantId : String) : IsPreorder Session (SparesStored tenantId) where
  refl _ h := ⟨h, rfl, rfl⟩
  trans _ _ _ h h' hs := by
    obtain ⟨ht, hst⟩ := h hs
    obtain ⟨hu, htu⟩ := h' ht
    exact ⟨hu, htu.db.trans hst.db, htu.committed.trans hst.committed⟩

section

variable {tenantId : String} {α β : Type}

/-- A step that changes only rows, and of the tenant's none. -/
theorem spares_rows {s t : Session} (hrows : t.db.rowsOf tenantId = s.db.rowsOf tenantId)
    (htenant : (t.db.tenants.select fun r => r.id == tenantId) =
      s.db.tenants.select fun r => r.id == tenantId)
    (hrevoked : t.db.revokedTokens = s.db.revokedTokens) (hcommitted : t.committed = s.committed)
    (hcaptured : t.captured = s.captured) (hissued : t.issued = s.issued) :
    SparesStored tenantId s t := by
  rintro ⟨row, hrow, hid⟩
  refine ⟨?_, ?_, ?_⟩
  · have hmem : row ∈ t.db.tenants.select fun r => r.id == tenantId := by
      rw [htenant]
      exact KeyedTable.mem_select.mpr ⟨hrow, by simpa using hid⟩
    exact ⟨row, (KeyedTable.mem_select.mp hmem).1, hid⟩
  · unfold World.view World.after
    dsimp only
    rw [hrows, htenant, hrevoked, hcaptured, hissued]
  · unfold World.view World.after
    dsimp only
    rw [hcommitted, hcaptured, hissued]

/-- A step that only reads. -/
theorem spares_reads {m : ApiM α} (h : Touches ([] : List Resource) m) : Moves (SparesStored tenantId) m := by
  intro s
  have hmoved := h.moves s
  have hdb := db_eq_of_outside fun r _ => hmoved r List.not_mem_nil
  refine spares_rows ?_ ?_ ?_ (hmoved .committed List.not_mem_nil) (hmoved .captured List.not_mem_nil)
    (hmoved .tokens List.not_mem_nil)
  · rw [hdb]
  · rw [hdb]
  · rw [hdb]

/-- A step that goes on where its first part returned. -/
theorem spares_bind {x : ApiM α} {f : α → ApiM β} {s : Session}
    (hx : SparesStored tenantId s (stateOf (x.run s)))
    (hf : ∀ a t, x.run s = .ok a t → SparesStored tenantId t (stateOf ((f a).run t))) :
    SparesStored tenantId s (stateOf ((x >>= f).run s)) := by
  rw [EStateM.run_bind]
  cases hrun : x.run s with
  | ok a t =>
    rw [hrun] at hx
    exact trans_of (SparesStored tenantId) hx (hf a t hrun)
  | error e t =>
    rw [hrun] at hx
    exact hx

theorem recordEntry_spares (rt : Runtime) (env : Env) {e : AuditEntry} (h : e.tenantId ≠ tenantId) :
    Moves (SparesStored tenantId) (AuditService.recordEntry rt env e) := by
  intro s
  rw [AuditService.recordEntry_run]
  refine spares_rows ?_ rfl rfl rfl rfl rfl
  have hlog : (AuditService.record rt.sha256 (env.now s.ticks) e s.db.auditLog).select (ofTenant tenantId) =
      s.db.auditLog.select (ofTenant tenantId) := by
    have hown : ofTenant tenantId (AuditService.newRow rt.sha256 (env.now s.ticks) e
        (AuditService.lastHash s.db.auditLog e.tenantId)) = false :=
      beq_eq_false_iff_ne.mpr h
    unfold AuditService.record
    rw [AutoTable.select_insert, hown]
    simp
  exact congrArg (TenantRows.mk _ _ _ _ _ · _ _) hlog

/-! ### The provider plane -/

theorem issueToken_spares (rt : Runtime) (env : Env) {p : Principal} (h : p.tenantId ≠ tenantId) :
    Moves (SparesStored tenantId) (issueToken rt env p) := by
  rintro s hs
  have hissued (l : List Token) (now : Time) (jti : String) :
      (l ++ [newToken rt p now jti]).filter (fun k => k.tenantId == tenantId) =
        l.filter fun k => k.tenantId == tenantId := by
    have hown : ((newToken rt p now jti).tenantId == tenantId) = false := beq_eq_false_iff_ne.mpr h
    simp [hown]
  refine ⟨hs, ?_, ?_⟩
  · exact congrArg (TenantView.mk _ _ _ _) (hissued s.issued _ _)
  · exact congrArg (TenantView.mk _ _ _ _) (hissued s.issued _ _)

/-- A change of another tenant. -/
theorem update_spares {other : String} (hne : other ≠ tenantId) (f : TenantRow → TenantRow)
    (hf : ∀ r, (f r).id = r.id) : Moves (SparesStored tenantId) (TenantRepository.update other f hf) := by
  intro s
  unfold TenantRepository.update
  rw [run_bind_ok (tenantGet_run other s)]
  cases hfind : s.db.tenants.find? other with
  | none => exact refl_of (SparesStored tenantId) s
  | some tenant =>
    obtain ⟨_, hid⟩ := (s.db.tenants.find?_eq_some _ _).mp hfind
    have hid : tenant.id = other := hid
    refine spares_rows rfl ?_ rfl rfl rfl rfl
    refine KeyedTable.select_modify_ne _ tenant.id f hf _ (fun r => by rw [hf]) fun r hr hkey => hne ?_
    have hr : r.id = tenantId := by simpa using hr
    exact hid.symm.trans (hkey.symm.trans hr)

/-- A new tenant is another. -/
theorem createTenantRow_spares (env : Env) (name status plan : String) :
    Moves (SparesStored tenantId) (TenantRepository.create env name status plan) := by
  unfold TenantRepository.create
  refine (spares_reads (by grind)).bind fun id => (spares_reads (by grind)).bind fun now => ?_
  refine (spares_reads (by grind [TenantRepository.checkNameFree])).bind fun _ s => ?_
  refine spares_bind (fun hs => ?_) fun _ _ _ => refl_of (SparesStored tenantId) _
  obtain ⟨after, hins, hrun⟩ | ⟨_, hrun⟩ := insertRow_cases Tables.tenants
    { id := id, name := name, status := status, plan := plan, createdAt := now } s
  · obtain ⟨row, hrow, hid⟩ := hs
    rw [hrun]
    refine spares_rows rfl ?_ rfl rfl rfl rfl ⟨row, hrow, hid⟩
    have hnew : (id == tenantId) = false := by
      refine beq_eq_false_iff_ne.mpr fun hnew => ?_
      exact KeyedTable.insert?_key_ne hins row hrow (hid.trans hnew.symm)
    refine (KeyedTable.select_insert? _ hins).trans ?_
    simp only [hnew, Bool.false_eq_true, if_false, List.append_nil]
    rfl
  · rw [hrun]
    exact refl_of (SparesStored tenantId) s hs

/-- A new user of another tenant. -/
theorem createUser_spares (env : Env) {other : String} (hne : other ≠ tenantId)
    (username password role : String) (externalId : Option String) :
    Moves (SparesStored tenantId) (UserRepository.create env other username password role externalId) := by
  unfold UserRepository.create
  refine (spares_reads (by grind)).bind fun id => (spares_reads (by grind)).bind fun now s => ?_
  refine spares_bind ?_ fun _ _ _ => refl_of (SparesStored tenantId) _
  obtain ⟨after, hins, hrun⟩ | ⟨_, hrun⟩ := insertRow_cases Tables.users
    { id := id, tenantId := other, username := username, passwordHash := hashPassword env password
      role := role, externalId := externalId, createdAt := now } s
  · rw [hrun]
    refine spares_rows ?_ rfl rfl rfl rfl rfl
    have husers : after.select (ofTenant tenantId) = s.db.users.select (ofTenant tenantId) := by
      have hother : (other == tenantId) = false := beq_eq_false_iff_ne.mpr hne
      refine (KeyedTable.select_insert? _ hins).trans ?_
      simp only [ofTenant, TenantOwned.tenantId, hother, Bool.false_eq_true, if_false, List.append_nil]
      rfl
    exact congrArg (TenantRows.mk · _ _ _ _ _ _ _) husers
  · rw [hrun]
    exact refl_of (SparesStored tenantId) s

theorem requireProvider_spares (env : Env) (auth : Authorization) :
    Moves (SparesStored tenantId) (Deps.requireProvider env auth) :=
  spares_reads (Deps.requireProvider_touches env auth)

theorem createTenant_spares (rt : Runtime) (env : Env) (auth : Authorization)
    (body : ProviderRoutes.CreateTenantRequest) (hplatform : tenantId ≠ platformTenant) :
    Moves (SparesStored tenantId) (ProviderRoutes.createTenant rt env auth body) := by
  unfold ProviderRoutes.createTenant
  refine (requireProvider_spares env auth).bind fun p => ?_
  refine (spares_reads (Deps.validateLength_touches ..)).bind fun _ => ?_
  refine (spares_reads (Deps.validateLength_touches ..)).bind fun _ => ?_
  refine (spares_reads (Deps.validateLength_touches ..)).bind fun _ => ?_
  refine (spares_reads (raiseIf_touches ..)).bind fun _ => (spares_reads (raiseIf_touches ..)).bind fun _ => ?_
  refine (spares_reads (selectOne_touches _)).bind fun existing => ?_
  refine (spares_reads (raiseIf_touches ..)).bind fun _ s hs => ?_
  refine spares_bind (createTenantRow_spares env _ _ _ s) (fun tenant t hcreate => ?_) hs
  obtain ⟨_, _, tenants, hins, rfl⟩ := TenantRepository.create_eq_ok hcreate
  obtain ⟨row, hrow, hid⟩ := hs
  have hne : tenant.id ≠ tenantId := fun heq => KeyedTable.insert?_key_ne hins row hrow (hid.trans heq.symm)
  refine ((createUser_spares env hne _ _ _ _).bind fun user => ?_) _
  exact (recordEntry_spares rt env hplatform.symm).bind fun _ => Moves.pure _

theorem afterTenantChange_spares (rt : Runtime) (env : Env) (p : Principal) (other action : String)
    (detail : List (String × JsonValue)) (changed : Option TenantRow) (hplatform : tenantId ≠ platformTenant) :
    Moves (SparesStored tenantId)
      (ProviderRoutes.afterTenantChange rt env p other action detail changed) := by
  refine (spares_reads (orRaise_touches ..)).bind fun tenant => ?_
  refine (recordEntry_spares rt env hplatform.symm).bind fun _ => ?_
  exact (spares_reads (UserRepository.list_touches _)).bind fun _ => Moves.pure _

theorem impersonate_spares (rt : Runtime) (env : Env) (auth : Authorization) {other : String}
    (hne : other ≠ tenantId) (hplatform : tenantId ≠ platformTenant) :
    Moves (SparesStored tenantId) (ProviderRoutes.impersonate rt env auth other) := by
  refine (requireProvider_spares env auth).bind fun p => ?_
  refine (spares_reads (TenantRepository.get_touches _)).bind fun o => ?_
  refine (spares_reads (orRaise_touches ..)).bind fun tenant => ?_
  refine (spares_reads (UserRepository.list_touches _)).bind fun members => ?_
  refine (spares_reads (orRaise_touches ..)).bind fun admin => ?_
  refine (issueToken_spares rt env hne).bind fun token => ?_
  refine (recordEntry_spares rt env hplatform.symm).bind fun _ => ?_
  exact (recordEntry_spares rt env hne).bind fun _ => Moves.pure _

/-- A request of the provider plane about the tenant. -/
inductive Concerns (tenantId : String) : Request → Prop
  | setStatus (auth : Authorization) (status : String) :
    Concerns tenantId (.provider auth (.setStatus tenantId status))
  | setPlan (auth : Authorization) (plan : String) :
    Concerns tenantId (.provider auth (.setPlan tenantId plan))
  | impersonate (auth : Authorization) : Concerns tenantId (.provider auth (.impersonate tenantId))

/-- The others do not. -/
theorem provider_spares (rt : Runtime) (env : Env) {auth : Authorization} {r : ProviderRequest}
    (h : ¬ Concerns tenantId (.provider auth r)) (hplatform : tenantId ≠ platformTenant) :
    Moves (SparesStored tenantId) (handleProvider rt env auth r) := by
  cases r with
  | createTenant body => exact (createTenant_spares rt env auth body hplatform).map _
  | setStatus other status =>
    have hne : other ≠ tenantId := fun heq => h (heq ▸ .setStatus auth status)
    refine Moves.map _ ?_
    refine (requireProvider_spares env auth).bind fun p => (spares_reads (raiseIf_touches ..)).bind fun _ => ?_
    exact (update_spares hne _ _).bind fun o => afterTenantChange_spares rt env p _ _ _ o hplatform
  | setPlan other plan =>
    have hne : other ≠ tenantId := fun heq => h (heq ▸ .setPlan auth plan)
    refine Moves.map _ ?_
    refine (requireProvider_spares env auth).bind fun p => (spares_reads (raiseIf_touches ..)).bind fun _ => ?_
    exact (update_spares hne _ _).bind fun o => afterTenantChange_spares rt env p _ _ _ o hplatform
  | impersonate other =>
    have hne : other ≠ tenantId := fun heq => h (heq ▸ .impersonate auth)
    exact (impersonate_spares rt env auth hne hplatform).map _
  | listTenants => exact (spares_reads (ProviderRoutes.listTenants_touches env auth)).map _
  | listUsers => exact (spares_reads (ProviderRoutes.listAllUsers_touches env auth)).map _
  | usage => exact (spares_reads (ProviderRoutes.usage_touches env auth)).map _

end

/-! ## Steps -/

/-- What a request is answered, up to auto-increment ids, and what it asked the tenant's
    Splunk and model for. -/
structure Exchange where
  answer : Except Exc Body
  searches : List SearchCall
  completions : List AIModel

def exchange (rt : Runtime) (w : World) (e : Event) : Exchange where
  answer := match handled rt w e with
    | .ok body _ => .ok body.unnumbered
    | .error ex _ => .error ex
  searches := searchCalls rt w e
  completions := modelCalls rt w e

/-- A request of the tenant in worlds it cannot tell apart. -/
theorem own_step (rt : Runtime) {tenantId : String} {w w' : World} {e : Event}
    (h : w.view tenantId = w'.view tenantId)
    (hreq : RequestOf tenantId (w.rest tenantId) (w'.rest tenantId) e.request)
    (hfresh : FreshFor e.env (w.rest tenantId)) (hfresh' : FreshFor e.env (w'.rest tenantId)) :
    exchange rt w e = exchange rt w' e ∧
      (step rt w e).view tenantId = (step rt w' e).view tenantId ∧
      (step rt w e).rest tenantId = w.rest tenantId ∧ (step rt w' e).rest tenantId = w'.rest tenantId := by
  have hm := @handle_steady rt e.env tenantId _ _ e.request hreq hfresh hfresh' _ _ (alike_of_view h)
  have hw : (handle rt e.env e.request).run w.session = handled rt w e := rfl
  have hw' : (handle rt e.env e.request).run w'.session = handled rt w' e := rfl
  rw [hw, hw'] at hm
  unfold exchange
  rw [step_eq, step_eq, searchCalls_eq, searchCalls_eq, modelCalls_eq, modelCalls_eq]
  cases hs : handled rt w e with
  | ok a s =>
    cases ht : handled rt w' e with
    | ok b t =>
      rw [hs, ht] at hm
      obtain ⟨hab, halike⟩ := hm
      refine ⟨?_, view_of_alike halike.db halike⟩
      exact congr (congrArg₂ Exchange.mk (congrArg Except.ok hab) halike.searches) halike.completions
    | error e t =>
      rw [hs, ht] at hm
      exact hm.elim
  | error ex s =>
    cases ht : handled rt w' e with
    | ok b t =>
      rw [hs, ht] at hm
      exact hm.elim
    | error ex' t =>
      rw [hs, ht] at hm
      obtain ⟨rfl, halike⟩ := hm
      refine ⟨?_, view_of_alike halike.committed halike⟩
      exact congr (congrArg (Exchange.mk _) halike.searches) halike.completions

/-- A request of a tenant is nothing to the others. -/
theorem view_of_own (rt : Runtime) {tenantId other : String} {w : World} {e : Event}
    (hne : other ≠ tenantId) (hreq : RequestOf other (w.rest other) (w.rest other) e.request)
    (hfresh : FreshFor e.env (w.rest other)) : (step rt w e).view tenantId = w.view tenantId :=
  World.view_of_rest hne (own_step rt rfl hreq hfresh hfresh).2.2.1

/-- A step of a handler that spares the tenant. -/
theorem view_of_spares (rt : Runtime) {tenantId : String} {w : World} {e : Event}
    (h : SparesStored tenantId w.session (stateOf (handled rt w e))) (hstored : Present w.db tenantId) :
    (step rt w e).view tenantId = w.view tenantId := by
  obtain ⟨_, hdb, hcommitted⟩ := h hstored
  rw [step_eq]
  cases hr : handled rt w e with
  | ok body t =>
    rw [hr] at hdb
    exact hdb
  | error ex t =>
    rw [hr] at hcommitted
    exact hcommitted

/-- A request without a signed token is refused. -/
theorem unsigned_refused (rt : Runtime) (env : Env) {q : Request} (hlogin : ∀ body, q ≠ .login body)
    (hauth : ∀ token, q.auth ≠ .bearer token) (s : Session) :
    ∃ ex, (handle rt env q).run s = .error ex s := by
  have hcases {auth : Authorization} (h : ∀ token, auth ≠ .bearer token) :
      auth = .missing ∨ auth = .unsigned := by
    cases auth with
    | missing => exact Or.inl rfl
    | unsigned => exact Or.inr rfl
    | bearer token => exact absurd rfl (h token)
  cases q with
  | login body => exact absurd rfl (hlogin body)
  | case auth invId r => obtain rfl | rfl := hcases hauth <;> cases r <;> exact ⟨_, rfl⟩
  | admin auth r => obtain rfl | rfl := hcases hauth <;> cases r <;> exact ⟨_, rfl⟩
  | provider auth r => obtain rfl | rfl := hcases hauth <;> cases r <;> exact ⟨_, rfl⟩
  | read auth r => obtain rfl | rfl := hcases hauth <;> cases r <;> exact ⟨_, rfl⟩
  | _ => obtain rfl | rfl := hcases hauth <;> exact ⟨_, rfl⟩

/-- A login at a name that is not one tenant's is refused. -/
theorem login_refused (rt : Runtime) (env : Env) {body : Routes.LoginRequest} {s : Session}
    (h : ∀ tenant, tenantsNamed s.db body.tenant ≠ [tenant]) :
    ∃ ex, (handle rt env (.login body)).run s = .error ex s := by
  have hsel : (selectAll Tables.tenants fun t => t.name == body.tenant).run s =
      .ok (tenantsNamed s.db body.tenant) s := rfl
  have hlogin : (Routes.login rt env body).run s =
      .error (httpError 401 "Invalid credentials") s ∨ (Routes.login rt env body).run s = .error .multipleResults s := by
    unfold Routes.login TenantRepository.getByName selectOne
    rw [bind_assoc, run_bind_ok hsel]
    match hrows : tenantsNamed s.db body.tenant with
    | [] => exact Or.inl rfl
    | [tenant] => exact absurd hrows (h tenant)
    | _ :: _ :: _ => exact Or.inr rfl
  unfold handle
  rw [run_map]
  obtain hrun | hrun := hlogin <;> exact ⟨_, by rw [hrun]⟩

theorem step_of_refused (rt : Runtime) {w : World} {e : Event}
    (h : ∃ ex, (handle rt e.env e.request).run w.session = .error ex w.session) : step rt w e = w := by
  obtain ⟨ex, hrun⟩ := h
  rw [step_eq, show handled rt w e = .error ex w.session from hrun]
  rfl

/-! ## Runs -/

/-- A request with a token of the tenant, or a login at its name. -/
def ofTenantNamed (tenantId name : String) (e : Event) : Bool :=
  match e.request with
  | .login body => body.tenant == name
  | .provider _ _ => false
  | q =>
    match q.auth with
    | .bearer token => token.tenantId == tenantId
    | _ => false

/-- The tenant a request acts for: its token's, or the one it logs in at. -/
def ActsFor (w : World) (q : Request) (tenantId : String) : Prop :=
  match q with
  | .login body => ∃ tenant, tenantsNamed w.db body.tenant = [tenant] ∧ tenant.id = tenantId
  | q => ∃ token, q.auth = .bearer token ∧ token.tenantId = tenantId

/-- Keys are drawn once: those of a request are no keys of tenants it does not act for, and
    none of these has revoked its token. -/
structure DrawnOnce (w : World) (e : Event) : Prop where
  fresh : ∀ tenantId, ActsFor w e.request tenantId → FreshFor e.env (w.rest tenantId)
  token : ∀ token, e.request.auth = .bearer token →
    ∀ r ∈ w.db.revokedTokens.rows, r.jti = token.jti → r.tenantId = token.tenantId

/-- What a tenant's requests are answered and ask for, in a run of requests the rate limiter
    passed on. -/
def exchanges (rt : Runtime) (tenantId name : String) (w : World) (es : List Event) : List Exchange :=
  outputs (step rt) (exchange rt) (ofTenantNamed tenantId name) w es

/-- The tenant of a name is stored under an id. -/
def NamedAs (w : World) (name tenantId : String) : Prop :=
  ∃ tenant, tenantsNamed w.db name = [tenant] ∧ tenant.id = tenantId

section

variable {tenantId name : String} {w w' : World} {e : Event}

theorem NamedAs.step (rt : Runtime) (h : NamedAs w name tenantId) (e : Event) :
    NamedAs (step rt w e) name tenantId := by
  obtain ⟨tenant, hone, rfl⟩ := h
  exact step_tenantsNamed rt e hone

theorem NamedAs.stored (h : NamedAs w name tenantId) : Present w.db tenantId := by
  obtain ⟨tenant, hone, hid⟩ := h
  exact ⟨tenant, (of_tenantsNamed hone).1, hid⟩

/-- No other tenant has the name. -/
theorem NamedAs.only (h : NamedAs w name tenantId) : ∀ t ∈ (w.rest tenantId).tenants, t.name ≠ name := by
  obtain ⟨tenant, hone, rfl⟩ := h
  intro t ht hname
  obtain ⟨hrow, hother⟩ := KeyedTable.mem_select.mp ht
  have hmem : t ∈ tenantsNamed w.db name := KeyedTable.mem_select.mpr ⟨hrow, by simpa using hname⟩
  rw [hone, List.mem_singleton] at hmem
  simp [hmem] at hother

/-- The id of a token no other tenant has revoked. -/
theorem DrawnOnce.free {token : Token} (h : DrawnOnce w e) (hauth : e.request.auth = .bearer token) :
    ∀ r ∈ (w.rest token.tenantId).revokedTokens, Keyed.key r ≠ token.jti := by
  intro r hr hkey
  obtain ⟨hrow, hother⟩ := KeyedTable.mem_select.mp hr
  simp [h.token token hauth r hrow hkey] at hother

/-- A request with a token is one of the token's tenant. -/
theorem requestOf_token {token : Token} {v v' : Rest} {q : Request} (hauth : q.auth = .bearer token)
    (hplane : ∀ auth r, q ≠ .provider auth r) (hfree : FreeJti v v' token.jti) :
    RequestOf token.tenantId v v' q := by
  have hof : AuthOf token.tenantId v v' q.auth := by
    rw [hauth]
    intro token' htoken
    cases htoken
    exact ⟨rfl, hfree⟩
  cases q with
  | login body => cases hauth
  | provider auth r => exact absurd rfl (hplane auth r)
  | _ => exact hof

/-- The tenant an event acts for, where it is not the provider's. -/
theorem actsFor_token {token : Token} {q : Request} (hauth : q.auth = .bearer token) :
    ActsFor w q token.tenantId := by
  cases q with
  | login body => cases hauth
  | _ => exact ⟨token, hauth, rfl⟩

/-- A request with a token is the tenant's if the token is, short of the provider plane. -/
theorem ofTenantNamed_token {token : Token} (hauth : e.request.auth = .bearer token)
    (hplane : ∀ auth r, e.request ≠ .provider auth r) :
    ofTenantNamed tenantId name e = (token.tenantId == tenantId) := by
  unfold ofTenantNamed
  cases he : e.request with
  | login body =>
    rw [he] at hauth
    cases hauth
  | provider auth r => exact absurd he (hplane auth r)
  | _ =>
    rw [he] at hauth
    dsimp only
    rw [hauth]

/-- Of the requests without a token, only logins are a tenant's. -/
theorem not_ofTenantNamed (hlogin : ∀ body, e.request ≠ .login body)
    (hauth : ∀ token, e.request.auth ≠ .bearer token) : ofTenantNamed tenantId name e = false := by
  unfold ofTenantNamed
  split
  · exact absurd ‹_› (hlogin _)
  · rfl
  · split
    · exact absurd ‹_› (hauth _)
    · rfl

/-- A request of others leaves what the tenant sees. -/
theorem others_step (rt : Runtime) (h : ofTenantNamed tenantId name e = false)
    (hnamed : NamedAs w name tenantId) (hplatform : tenantId ≠ platformTenant)
    (hconcern : ¬ Concerns tenantId e.request) (hdrawn : DrawnOnce w e) :
    (step rt w e).view tenantId = w.view tenantId := by
  by_cases hlogin : ∃ body, e.request = .login body
  · obtain ⟨body, he⟩ := hlogin
    have hother : body.tenant ≠ name := by simpa [ofTenantNamed, he] using h
    by_cases hone : ∃ tenant, tenantsNamed w.db body.tenant = [tenant]
    · -- a login at another tenant acts for that tenant
      obtain ⟨tenant, hone⟩ := hone
      have hne : tenant.id ≠ tenantId := by
        obtain ⟨own, hown, rfl⟩ := hnamed
        obtain ⟨hrow, hname⟩ := of_tenantsNamed hone
        obtain ⟨hrow', hname'⟩ := of_tenantsNamed hown
        intro hid
        have hsame : tenant = own := w.db.tenants.eq_of_key_eq hrow hrow' hid
        exact hother (hname.symm.trans (hsame ▸ hname'))
      refine view_of_own rt hne ?_ (hdrawn.fresh tenant.id ?_)
      · rw [he]
        have honly := NamedAs.only ⟨tenant, hone, rfl⟩
        exact ⟨honly, honly⟩
      · rw [he]
        exact ⟨tenant, hone, rfl⟩
    · refine congrArg (World.view · tenantId) (step_of_refused rt ?_)
      rw [he]
      exact login_refused rt e.env fun tenant heq => hone ⟨tenant, heq⟩
  by_cases hsigned : ∃ token, e.request.auth = .bearer token
  · obtain ⟨token, hauth⟩ := hsigned
    by_cases hplane : ∃ auth r, e.request = .provider auth r
    · obtain ⟨auth, r, he⟩ := hplane
      refine view_of_spares rt ?_ hnamed.stored
      rw [he] at hconcern
      unfold handled
      rw [he]
      exact provider_spares rt e.env hconcern hplatform w.session
    · have hplane (auth : Authorization) (r : ProviderRequest) : e.request ≠ .provider auth r :=
        fun he => hplane ⟨auth, r, he⟩
      rw [ofTenantNamed_token hauth hplane] at h
      have hreq := requestOf_token hauth hplane ⟨hdrawn.free hauth, hdrawn.free hauth⟩
      exact view_of_own rt (beq_eq_false_iff_ne.mp h) hreq (hdrawn.fresh _ (actsFor_token hauth))
  · refine congrArg (World.view · tenantId) (step_of_refused rt ?_)
    exact unsigned_refused rt e.env (fun body he => hlogin ⟨body, he⟩)
      (fun token hauth => hsigned ⟨token, hauth⟩) w.session

/-- A request of the tenant, in two worlds where it has the name. -/
theorem own_request (h : ofTenantNamed tenantId name e = true) (hnamed : NamedAs w name tenantId)
    (hnamed' : NamedAs w' name tenantId) (hdrawn : DrawnOnce w e) (hdrawn' : DrawnOnce w' e) :
    RequestOf tenantId (w.rest tenantId) (w'.rest tenantId) e.request ∧
      FreshFor e.env (w.rest tenantId) ∧ FreshFor e.env (w'.rest tenantId) := by
  by_cases hlogin : ∃ body, e.request = .login body
  · obtain ⟨body, he⟩ := hlogin
    obtain rfl : body.tenant = name := by simpa [ofTenantNamed, he] using h
    refine ⟨?_, hdrawn.fresh _ ?_, hdrawn'.fresh _ ?_⟩
    · rw [he]
      exact ⟨hnamed.only, hnamed'.only⟩
    · rw [he]
      exact hnamed
    · rw [he]
      exact hnamed'
  have hlogin (body : Routes.LoginRequest) : e.request ≠ .login body := fun he => hlogin ⟨body, he⟩
  obtain ⟨token, hauth⟩ : ∃ token, e.request.auth = .bearer token := by
    by_contra hnone
    rw [not_ofTenantNamed hlogin fun token hauth => hnone ⟨token, hauth⟩] at h
    cases h
  have hplane (auth : Authorization) (r : ProviderRequest) : e.request ≠ .provider auth r := by
    intro he
    simp [ofTenantNamed, he] at h
  rw [ofTenantNamed_token hauth hplane] at h
  obtain rfl := beq_iff_eq.mp h
  refine ⟨requestOf_token hauth hplane ⟨hdrawn.free hauth, hdrawn'.free hauth⟩, ?_, ?_⟩
  · exact hdrawn.fresh _ (actsFor_token hauth)
  · exact hdrawn'.fresh _ (actsFor_token hauth)

end

/-- Tenant isolation of the API. In any run of requests the rate limiter passed on, a tenant's
    requests are answered, and ask the tenant's Splunk and model, as in the run of its requests
    alone; in the end it sees the same. The tenant is one of an own name, the provider makes no
    request about it, and keys are drawn once. -/
theorem api_isolation (rt : Runtime) (w : World) (es : List Event) (tenantId name : String)
    (hnamed : NamedAs w name tenantId) (hplatform : tenantId ≠ platformTenant)
    (hconcern : ∀ e ∈ es, ¬ Concerns tenantId e.request)
    (hdrawn : ∀ before e after, es = before ++ e :: after →
      ∀ earlier, earlier <+: before → DrawnOnce (run rt w earlier) e) :
    exchanges rt tenantId name w es =
        exchanges rt tenantId name w (es.filter (ofTenantNamed tenantId name)) ∧
      (run rt w es).view tenantId = (run rt w (es.filter (ofTenantNamed tenantId name))).view tenantId := by
  have key := outputs_purge (step rt) (exchange rt) (ofTenantNamed tenantId name)
    -- besides, what the tenant does not see never changes where only its own requests run
    (V := fun s t => s.view tenantId = t.view tenantId ∧ t.rest tenantId = w.rest tenantId ∧
      NamedAs s name tenantId)
    (C := fun s e => DrawnOnce s e ∧ ¬ Concerns tenantId e.request)
    (D := fun e => DrawnOnce w e) ?_ ?_ es w w ⟨rfl, rfl, hnamed⟩ ?_ ?_
  · exact ⟨key.1, key.2.1⟩
  · rintro s t e he ⟨hd, hc⟩ ⟨hview, hrest, hname⟩
    exact ⟨(others_step rt he hname hplatform hc hd).trans hview, hrest, hname.step rt e⟩
  · rintro s t e he ⟨hd, _⟩ hd₀ ⟨hview, hrest, hname⟩
    obtain ⟨hreq, hfresh, hfresh'⟩ := own_request he hname hnamed hd hd₀
    rw [← hrest] at hreq hfresh'
    obtain ⟨hout, hview', _, hrest'⟩ := own_step rt hview hreq hfresh hfresh'
    exact ⟨hout, hview', hrest'.trans hrest, hname.step rt e⟩
  · intro before e after he
    refine ⟨hdrawn before e after he before (List.prefix_refl _), hconcern e ?_⟩
    rw [he]
    exact List.mem_append_right _ List.mem_cons_self
  · intro e he _
    obtain ⟨before, after, hsplit⟩ := List.append_of_mem he
    exact hdrawn before e after hsplit [] List.nil_prefix

/-- A table no request of a run writes is as it was. -/
theorem run_kept (rt : Runtime) (r : Resource) : ∀ (es : List Event) (w : World),
    (∀ e ∈ es, r ∉ writes e.request) → r.Kept w.db (run rt w es).db
  | [], w, _ => Resource.Kept.refl r w.db
  | e :: es, w, h => by
    have hstep : r.Kept w.db (step rt w e).db := step_kept r (h e List.mem_cons_self)
    exact hstep.trans (run_kept rt r es (step rt w e) fun e he => h e (List.mem_cons_of_mem _ he))

/-- The token of an admin. -/
def adminOf (tenantId jti : String) : Token where
  sub := "root"
  uid := jti
  tenantId := tenantId
  role := "admin"
  jti := jti
  exp := 3600

/-- Two tenants with an admin's token each. -/
def neighbours : World where
  db := { Database.empty with
    tenants := ⟨[{ id := "t1", name := "acme", createdAt := 0 }, { id := "t2", name := "globex", createdAt := 0 }],
      by decide⟩ }
  issued := [adminOf "t1" "j1", adminOf "t2" "j2"]

/-- One changes its settings, and the other looks at its own. -/
def neighboursRun : List Event :=
  [⟨{ now := fun _ => 0, uuid4 := fun _ => "u1" }, .admin (.bearer (adminOf "t2" "j2")) (.updateSettings [])⟩,
    ⟨{ now := fun _ => 1, uuid4 := fun _ => "u2" }, .read (.bearer (adminOf "t1" "j1")) .settings⟩]

/-- It sees what it would see by itself. -/
theorem api_isolation_neighbours :
    exchanges .plain "t1" "acme" neighbours neighboursRun =
        exchanges .plain "t1" "acme" neighbours (neighboursRun.filter (ofTenantNamed "t1" "acme")) ∧
      (run .plain neighbours neighboursRun).view "t1" =
        (run .plain neighbours (neighboursRun.filter (ofTenantNamed "t1" "acme"))).view "t1" := by
  refine api_isolation .plain neighbours neighboursRun "t1" "acme"
    ⟨{ id := "t1", name := "acme", createdAt := 0 }, rfl, rfl⟩ (by decide) ?_ ?_
  · intro e he hconcern
    unfold neighboursRun at he
    obtain rfl | he := List.mem_cons.mp he
    · cases hconcern
    · obtain rfl := List.mem_singleton.mp he
      cases hconcern
  · -- only tenants and audit entries are written
    have hwrites : ∀ e ∈ neighboursRun, writes e.request ⊆ [Resource.tenants, .auditLog] := by
      intro e he
      unfold neighboursRun at he
      obtain rfl | he := List.mem_cons.mp he
      · exact List.Subset.refl _
      · obtain rfl := List.mem_singleton.mp he
        exact List.nil_subset _
    intro before e after he earlier hpre
    have hkept (r : Resource) (hr : r ∉ [Resource.tenants, .auditLog]) :
        r.Kept neighbours.db (run .plain neighbours earlier).db := by
      refine run_kept .plain r earlier neighbours fun d hd hw => hr (hwrites d ?_ hw)
      rw [he]
      exact List.mem_append_left _ (hpre.subset hd)
    have hnone {ρ : Type} [Keyed ρ String] {t : KeyedTable ρ} (ht : t = .empty) {P : ρ → Prop} {p : ρ → Bool} :
        ∀ r ∈ t.select p, P r := by
      intro r hr
      rw [ht] at hr
      cases hr
    refine ⟨fun tenantId _ => ⟨?_, ?_, ?_, ?_, ?_⟩, fun token _ r hr => ?_⟩
    · exact fun n => hnone (hkept .users (by decide))
    · exact fun n => hnone (hkept .caseNotes (by decide))
    · exact fun n => hnone (hkept .ruleStates (by decide))
    · exact fun n => hnone (hkept .investigations (by decide))
    · exact fun n => hnone (hkept .incidents (by decide))
    · rw [show (run .plain neighbours earlier).db.revokedTokens = .empty from
        hkept .revokedTokens (by decide)] at hr
      cases hr

end SentinelAI
