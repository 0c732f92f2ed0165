import SentinelAI.Detection.RunRequest

/-
  Which Splunk client receives a tenant's queries. The detection and the investigation runs
  resolve it from the credentials of the caller's tenant; `/search` takes the platform's
  shared client whatever they say.
-/

namespace SentinelAI

open Lib

/-! ## On whose behalf -/

/-- The permission of the requests that run SPL. -/
def Request.searchPermission : Request → Option Permission
  | .search .. => some .searchRun
  | .runDetections _ => some .detectionRun
  | .runInvestigations _ => some .investigationRun
  | _ => none

/-- A request that runs SPL on behalf of an admitted caller. -/
def RunsSplFor (w : World) (e : Event) (p : Principal) : Prop :=
  ∃ perm, e.request.searchPermission = some perm ∧
    Admitted w.db w.issued (e.env.now 0) e.request.auth perm p

/-- The client a tenant's queries belong to: the one its credentials resolve to, which under
    its own credentials is not the shared one. -/
structure OwnClient (rt : Runtime) (db : Database) (tenantId : String) (client : SplunkClient) :
    Prop where
  resolved : resolveSplunkClient rt (db.tenantCredentials.find? tenantId) .managed = .ok client
  notShared : ∀ row, db.tenantCredentials.find? tenantId = some row → row.mode = "byo" →
    client ≠ .managed

/-- Every query of the request goes to the client of the caller's tenant. -/
def RoutedByTenant (rt : Runtime) (w : World) (e : Event) : Prop :=
  ∀ c ∈ searchCalls rt w e, ∃ p, RunsSplFor w e p ∧ OwnClient rt w.db p.tenantId c.client

/-- No `/search` of a tenant with its own credentials is admitted. -/
def SearchesManaged (w : World) (e : Event) : Prop :=
  ∀ auth spl earliest latest p, e.request = .search auth spl earliest latest →
    Admitted w.db w.issued (e.env.now 0) auth .searchRun p →
    ∀ row, w.db.tenantCredentials.find? p.tenantId = some row → row.mode ≠ "byo"

/-! ## The resolver -/

theorem ofInit_ne_managed {rt : Runtime} {token : String}
    {init : String → Except Exc SplunkClient} {client : SplunkClient}
    (h : (do let t ← decryptSecret rt token; init t) = .ok client)
    (hinit : ∀ t, init t ≠ .ok .managed) : client ≠ .managed := by
  cases hd : decryptSecret rt token with
  | error ex =>
    rw [hd] at h
    cases h
  | ok t =>
    rw [hd] at h
    rintro rfl
    exact hinit t h

/-- A tenant with its own credentials is never given the shared client. -/
theorem resolveSplunkClient_byo {rt : Runtime} {row : TenantCredentialRow} {client : SplunkClient}
    (hmode : row.mode = "byo")
    (h : resolveSplunkClient rt (some row) .managed = .ok client) : client ≠ .managed := by
  simp only [resolveSplunkClient, hmode, bne_self_eq_false, Bool.false_eq_true, if_false] at h
  split at h
  · refine ofInit_ne_managed h fun t => ?_
    unfold LiveSplunkClient.init
    split
    · simp
    · split <;> simp
  · split at h
    · refine ofInit_ne_managed h fun t => ?_
      unfold McpSplunkClient.init
      split
      · simp
      · split <;> simp
    · cases h
      simp

theorem ownClient_of_resolved {rt : Runtime} {db : Database} {tenantId : String}
    {client : SplunkClient}
    (h : resolveSplunkClient rt (db.tenantCredentials.find? tenantId) .managed = .ok client) :
    OwnClient rt db tenantId client := by
  refine ⟨h, fun row hrow hmode => ?_⟩
  rw [hrow] at h
  exact resolveSplunkClient_byo hmode h

/-- The shared client is a tenant's own exactly when it has not brought its credentials. -/
theorem ownClient_managed_iff (rt : Runtime) (db : Database) (tenantId : String) :
    OwnClient rt db tenantId .managed ↔
      ∀ row, db.tenantCredentials.find? tenantId = some row → row.mode ≠ "byo" := by
  constructor
  · intro h row hrow hmode
    exact h.notShared row hrow hmode rfl
  · intro h
    apply ownClient_of_resolved
    cases hrow : db.tenantCredentials.find? tenantId with
    | none => rfl
    | some row =>
      have hmode : (row.mode != "byo") = true := by simpa using h row hrow
      rw [resolveSplunkClient, if_pos hmode]

/-! ## Route by route -/

section

variable {rt : Runtime} {w : World} {e : Event} {auth : Authorization}

/-- The session a request's answer is wrapped in is the handler's. -/
theorem stateOf_map {α : Type} (f : α → Body) (m : ApiM α) (s : Session) :
    stateOf ((f <$> m).run s) = stateOf (m.run s) := by
  rw [run_map]
  cases m.run s <;> rfl

/-- An admitted `/search` sends its query to the shared client. -/
theorem search_cases (rt : Runtime) {spl earliest latest : String}
    (he : e.request = .search auth spl earliest latest) :
    (∃ p, Admitted w.db w.issued (e.env.now 0) auth .searchRun p ∧
      searchCalls rt w e = [⟨.managed, spl⟩]) ∨
    ((∀ p, ¬ Admitted w.db w.issued (e.env.now 0) auth .searchRun p) ∧
      searchCalls rt w e = []) := by
  have hcalls : searchCalls rt w e =
      (stateOf ((Routes.search e.env auth spl earliest latest).run w.session)).searches := by
    rw [searchCalls_eq]
    unfold handled
    rw [he]
    exact congrArg Session.searches (stateOf_map Body.searchResult _ _)
  rw [hcalls]
  unfold Routes.search
  cases hp : (Deps.require e.env auth .searchRun).run w.session with
  | error ex t =>
    have hkept := (Deps.require_touches (F := ([] : List Resource)) e.env auth .searchRun).same
      (p := .searches) (by decide) w.session
    rw [hp] at hkept
    refine Or.inr ⟨fun p hadm => ?_, ?_⟩
    · cases hp.symm.trans ((require_eq_ok (t := w.session.ticked)).mpr ⟨hadm, rfl⟩)
    · rw [run_bind_error hp]
      exact hkept
  | ok p t =>
    obtain ⟨hadm, rfl⟩ := require_eq_ok.mp hp
    refine Or.inl ⟨p, hadm, ?_⟩
    rw [run_bind_ok hp, run_bind_ok (attempt_search_run ..)]
    cases e.env.search .managed w.session.ticked.searches.length spl earliest latest with
    | ok result => rfl
    | error ex => cases ex <;> rfl

/-- A detection run of an admitted caller whose clients could be built searches for every
    default rule, or it raises having done nothing. -/
theorem detections_cases (rt : Runtime) (he : e.request = .runDetections auth) :
    (∃ p orch, Admitted w.db w.issued (e.env.now 0) auth .detectionRun p ∧
      Resolves rt w.db p.tenantId orch ∧
      handled rt w e = (Body.detections <$> orch.runDetections e.env []).run w.session.ticked) ∨
    ∃ ex t, handled rt w e = .error ex t ∧ Outside ([] : List Resource) w.session t := by
  have hhandled : handled rt w e =
      (Body.detections <$> Routes.runDetections rt e.env auth).run w.session :=
    handled_map he rfl
  rw [hhandled]
  obtain ⟨p, orch, hadm, hres, hrun⟩ | ⟨_, ex, t, hrun, hout⟩ := resolved_cases rt e.env auth
    .detectionRun (fun _ orch => orch.runDetections e.env []) w.session
  · have hbody : (Routes.runDetections rt e.env auth).run w.session =
        (orch.runDetections e.env []).run w.session.ticked := hrun
    refine Or.inl ⟨p, orch, hadm, hres, ?_⟩
    rw [run_map, run_map, hbody]
  · exact Or.inr ⟨ex, t, run_bind_error hrun, hout⟩

/-- A detection run asks the client its tenant's credentials resolve to. -/
theorem runDetections_calls (he : e.request = .runDetections auth) :
    ∀ c ∈ searchCalls rt w e, ∃ p,
      Admitted w.db w.issued (e.env.now 0) auth .detectionRun p ∧
      resolveSplunkClient rt (w.db.tenantCredentials.find? p.tenantId) .managed = .ok c.client := by
  rw [searchCalls_eq]
  obtain ⟨p, orch, hadm, hres, hrun⟩ | ⟨ex, t, hrun, hout⟩ := detections_cases rt he
  · obtain ⟨calls, hsent, hclient⟩ := DetectionAgent.run_sends e.env orch.splunk [] w.session.ticked
    rw [hrun, stateOf_map]
    intro c hc
    rw [show (stateOf ((orch.runDetections e.env []).run w.session.ticked)).searches = _ from hsent]
      at hc
    refine ⟨p, hadm, ?_⟩
    rw [(hclient c (by simpa [Session.ticked, Session.start] using hc)).1]
    exact hres.splunk
  · have hkept : t.searches = [] := hout .searches (by simp)
    rw [hrun]
    intro c hc
    rw [show (stateOf (EStateM.Result.error ex t)).searches = _ from hkept] at hc
    cases hc

/-- So does an investigation run. -/
theorem runInvestigations_calls (he : e.request = .runInvestigations auth) :
    ∀ c ∈ searchCalls rt w e, ∃ p,
      Admitted w.db w.issued (e.env.now 0) auth .investigationRun p ∧
      resolveSplunkClient rt (w.db.tenantCredentials.find? p.tenantId) .managed = .ok c.client := by
  rw [searchCalls_eq]
  obtain ⟨p, orch, hreach, hrun⟩ | ⟨_, ex, t, hrun, hout⟩ := run_cases rt he
  · obtain ⟨auth', he', hadm⟩ := hreach.admitted
    cases he.symm.trans he'
    obtain ⟨calls, hsent, hclient⟩ :=
      Routes.runInvestigationsFor_sends rt e.env p orch w.session.ticked
    rw [hrun, stateOf_map, hsent]
    intro c hc
    refine ⟨p, hadm, ?_⟩
    rw [hclient c (by simpa [Session.ticked, Session.start] using hc)]
    exact hreach.clients.splunk
  · have hkept : t.searches = [] := hout .searches (by simp)
    rw [hrun]
    intro c hc
    rw [show (stateOf (EStateM.Result.error ex t)).searches = _ from hkept] at hc
    cases hc

theorem searches_writes {q : Request} (h : .searches ∈ writes q)
    (hsearch : ¬ ∃ auth spl earliest latest, q = .search auth spl earliest latest) :
    (∃ auth, q = .runDetections auth) ∨ ∃ auth, q = .runInvestigations auth := by
  cases q with
  | search auth spl earliest latest => exact absurd ⟨auth, spl, earliest, latest, rfl⟩ hsearch
  | runDetections auth => exact Or.inl ⟨auth, rfl⟩
  | runInvestigations auth => exact Or.inr ⟨auth, rfl⟩
  | case auth invId r => cases r <;> simp [writes] at h
  | admin auth r => cases r <;> simp [writes] at h
  | provider auth r => cases r <;> simp [writes] at h
  | _ => simp [writes] at h

/-- The queries of a request go to the client of the caller's tenant exactly when it is no
    `/search` of a tenant with its own credentials. -/
theorem routed_iff (rt : Runtime) (w : World) (e : Event) :
    RoutedByTenant rt w e ↔ SearchesManaged w e := by
  by_cases hsearch : ∃ auth spl earliest latest, e.request = .search auth spl earliest latest
  · obtain ⟨auth, spl, earliest, latest, he⟩ := hsearch
    obtain ⟨p, hadm, hcalls⟩ | ⟨hnone, hcalls⟩ := search_cases rt he
    · have hown := ownClient_managed_iff rt w.db p.tenantId
      constructor
      · intro h auth' _ _ _ p' he' hadm'
        cases he.symm.trans he'
        obtain rfl := hadm.unique hadm'
        obtain ⟨q, ⟨perm, _, hq⟩, hclient⟩ := h ⟨.managed, spl⟩ (by simp [hcalls])
        rw [he] at hq
        obtain rfl := hadm.unique hq
        exact hown.mp hclient
      · intro h c hc
        rw [hcalls, List.mem_singleton] at hc
        subst hc
        refine ⟨p, ⟨.searchRun, by rw [he]; rfl, by rw [he]; exact hadm⟩, ?_⟩
        exact hown.mpr (h auth spl earliest latest p he hadm)
    · constructor
      · intro _ auth' _ _ _ p' he' hadm'
        cases he.symm.trans he'
        exact absurd hadm' (hnone p')
      · intro _ c hc
        rw [hcalls] at hc
        cases hc
  · refine iff_of_true (fun c hc => ?_) fun auth spl earliest latest _ he => ?_
    · by_cases hwrites : .searches ∈ writes e.request
      · obtain ⟨auth, he⟩ | ⟨auth, he⟩ := searches_writes hwrites hsearch
        · obtain ⟨p, hadm, hres⟩ := runDetections_calls he c hc
          refine ⟨p, ⟨.detectionRun, by rw [he]; rfl, by rw [he]; exact hadm⟩, ?_⟩
          exact ownClient_of_resolved hres
        · obtain ⟨p, hadm, hres⟩ := runInvestigations_calls he c hc
          refine ⟨p, ⟨.investigationRun, by rw [he]; rfl, by rw [he]; exact hadm⟩, ?_⟩
          exact ownClient_of_resolved hres
      · rw [searchCalls_eq_nil hwrites] at hc
        cases hc
    · exact absurd ⟨auth, spl, earliest, latest, he⟩ hsearch

end

/-- In every run: the queries of all requests are routed by tenant exactly when no request is
    a `/search` admitted for a tenant with its own credentials. -/
theorem tenant_routing_iff (rt : Runtime) (w w' : World) (es : List Event) :
    Steps (Guarded (Stepped rt) (RoutedByTenant rt)) w es w' ↔
      Steps (Guarded (Stepped rt) SearchesManaged) w es w' :=
  Steps.guarded_iff (I := fun _ => True) (fun w e _ _ _ => routed_iff rt w e)
    (fun _ _ _ _ _ _ => trivial) trivial

/-! ## A tenant that brings its own Splunk -/

/-- The token of the admin of tenant "t1". -/
def adminToken : Token where
  sub := "root"
  uid := "u1"
  tenantId := "t1"
  role := "admin"
  jti := "j1"
  exp := 3600

/-- A tenant on a plan, its admin logged in. -/
def initech (plan : String) : World where
  db := { Database.empty with
    tenants := ⟨[{ id := "t1", name := "initech", plan := plan, createdAt := 0 }],
      List.nodup_singleton _⟩ }
  issued := [adminToken]

/-- A request of the admin in a quiet environment. -/
def adminRequest (r : Request) : Event where
  env := { now := fun _ => 0, uuid4 := fun _ => "" }
  request := r

/-- Splunk answers every search, with nothing. -/
def quietSplunk : Env where
  now := fun _ => 0
  uuid4 := fun _ => ""
  search := fun _ _ spl _ _ => .ok { sid := "1", query := spl, eventCount := 0 }

def investigationRun : Event where
  env := quietSplunk
  request := .runInvestigations (.bearer adminToken)

/-- Every rule finds enough events, and the model answers. -/
def busySplunk (k : Nat) : Env where
  now := fun _ => 0
  uuid4 := fun i => toString (10000 + 100 * k + i)
  search := fun _ _ spl _ _ => .ok { sid := "1", query := spl, eventCount := 10 }
  complete := fun _ _ _ _ => .ok "summary"

def busyRun (k : Nat) : Event where
  env := busySplunk k
  request := .runInvestigations (.bearer adminToken)

/-- With a short digest, for a run of some length to be evaluated. -/
def shortDigest : Runtime := { Runtime.plain with sha256 := fun _ => "" }

def ownSplunk : Event :=
  adminRequest (.admin (.bearer adminToken) (.updateCredentials { mode := some "byo" }))

def searchMain : Event :=
  adminRequest (.search (.bearer adminToken) "search index=main" "-24h" "now")

/-- Once the tenant has switched to its own credentials, its search still goes to the shared
    client. -/
theorem search_to_shared :
    ¬ ∀ (rt : Runtime) (w : World) (es : List Event) (e : Event),
      RoutedByTenant rt (run rt w es) e := by
  intro h
  have hcalls : searchCalls .plain (run .plain (initech "pro") [ownSplunk]) searchMain =
      [⟨.managed, "search index=main"⟩] := by decide
  obtain ⟨p, ⟨perm, hperm, hadm⟩, hclient⟩ := h .plain (initech "pro") [ownSplunk] searchMain
    ⟨.managed, "search index=main"⟩ (by rw [hcalls]; exact List.mem_singleton_self _)
  obtain ⟨token, hid, rfl, _⟩ := hadm
  cases hid.bearer
  have hresolved := hclient.resolved
  revert hresolved
  decide

end SentinelAI
