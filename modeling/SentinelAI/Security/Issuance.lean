import SentinelAI.Security.Admission
import SentinelAI.Security.RequestFootprints

/-
  Which tokens a request signs. Only a login and an impersonation sign one, at most one each,
  and it carries the claims of a row of `users` as that row is at the time.
-/

namespace SentinelAI

open Lib

/-- The token of a user row, signed during a request. Both routes that sign one have read the
    clock once by then and draw their first uuid. -/
def userToken (rt : Runtime) (e : Event) (user : UserRow) : Token :=
  newToken rt
    { userId := user.id, username := user.username, tenantId := user.tenantId, role := user.role }
    (e.env.now 1) (e.env.uuid4 0)

/-- Why a request signs a token. -/
inductive Issues (rt : Runtime) (w : World) (e : Event) (k : Token) : Prop
  | login (body : Routes.LoginRequest) (tenant : TenantRow) (user : UserRow)
    (he : e.request = .login body) (htenant : tenant ∈ w.db.tenants.rows)
    (hnamed : ∀ t ∈ w.db.tenants.rows, t.name = body.tenant ↔ t = tenant)
    (hactive : tenant.status ≠ "suspended") (huser : user ∈ w.db.users.rows)
    (hof : user.tenantId = tenant.id) (hk : k = userToken rt e user)
  | impersonation (auth : Authorization) (tenantId : String) (user : UserRow)
    (he : e.request = .provider auth (.impersonate tenantId)) (huser : user ∈ w.db.users.rows)
    (hof : user.tenantId = tenantId) (hk : k = userToken rt e user)

variable {rt : Runtime} {w : World} {e : Event} {k : Token}

/-- A token is signed for a user row of that moment. -/
theorem Issues.user (h : Issues rt w e k) :
    ∃ user ∈ w.db.users.rows, k = userToken rt e user := by
  cases h with
  | login body tenant user he htenant hnamed hactive huser hof hk => exact ⟨user, huser, hk⟩
  | impersonation auth tenantId user he huser hof hk => exact ⟨user, huser, hk⟩

theorem userList_run (tenantId : String) (s : Session) :
    ∃ members, (UserRepository.list tenantId).run s = .ok members s ∧
      ∀ u ∈ members, u ∈ s.db.users.rows ∧ u.tenantId = tenantId := by
  refine ⟨_, rfl, fun u hu => ?_⟩
  have hsel := (List.perm_insertionSort _ _).mem_iff.mp hu
  obtain ⟨hrow, hp⟩ := KeyedTable.mem_select.mp hsel
  exact ⟨hrow, by simpa using hp⟩

/-- From a session that has the world's tokens, `m` signs at most one, with a reason. -/
def Signs (rt : Runtime) (w : World) (e : Event) {α : Type} (m : ApiM α) (s : Session) : Prop :=
  (stateOf (m.run s)).issued = w.issued ∨
    ∃ k, (stateOf (m.run s)).issued = w.issued ++ [k] ∧ Issues rt w e k

namespace Signs

variable {W : List Resource} {α β : Type} {s : Session}

theorem of_touches {m : ApiM α} (hm : Touches W m) (hs : s.issued = w.issued)
    (hW : .tokens ∉ W := by decide) : Signs rt w e m s := by
  have hkept : (stateOf (m.run s)).issued = s.issued := hm.same hW s
  exact Or.inl (hkept.trans hs)

/-- What is done to the answer signs nothing. -/
theorem map {m : ApiM α} (f : α → β) (h : Signs rt w e m s) : Signs rt w e (f <$> m) s := by
  show Signs rt w e (m >>= fun a => pure (f a)) s
  unfold Signs at *
  rw [EStateM.run_bind]
  cases hm : m.run s <;> rwa [hm] at h

/-- A first step that signs nothing. -/
theorem bind {x : ApiM α} {f : α → ApiM β} (hx : Touches W x) (hs : s.issued = w.issued)
    (hf : ∀ a t, x.run s = .ok a t → t.issued = w.issued → Signs rt w e (f a) t)
    (hW : .tokens ∉ W := by decide) : Signs rt w e (x >>= f) s := by
  have hkept : (stateOf (x.run s)).issued = s.issued := hx.same hW s
  unfold Signs
  rw [EStateM.run_bind]
  cases hrun : x.run s with
  | ok a t =>
    rw [hrun] at hkept
    exact hf a t hrun (hkept.trans hs)
  | error ex t =>
    rw [hrun] at hkept
    exact Or.inl (hkept.trans hs)

/-- The signature, and a rest that signs nothing. -/
theorem issue {p : Principal} {f : Token → ApiM β} (hs : s.issued = w.issued)
    (hk : Issues rt w e (newToken rt p (e.env.now s.ticks) (e.env.uuid4 s.uuids)))
    (hf : ∀ k, Touches W (f k)) (hW : .tokens ∉ W := by decide) :
    Signs rt w e (issueToken rt e.env p >>= f) s := by
  refine Or.inr ⟨_, ?_, hk⟩
  rw [← hs]
  exact (hf (newToken rt p (e.env.now s.ticks) (e.env.uuid4 s.uuids))).same hW _

end Signs

theorem authenticate_keeps {tenantId username password : String} {s t : Session}
    {o : Option UserRow}
    (h : (UserRepository.authenticate rt tenantId username password).run s = .ok o t) : t = s := by
  unfold UserRepository.authenticate at h
  obtain ⟨o', u, ho, h⟩ := run_bind_eq_ok.mp h
  obtain ⟨_, rfl⟩ := selectOne_eq_ok.mp ho
  cases o' with
  | none =>
    cases h
    rfl
  | some user =>
    dsimp only at h
    split at h <;> (cases h; rfl)

theorem getByName_ok {name : String} {s t : Session} {o : Option TenantRow}
    (h : (TenantRepository.getByName name).run s = .ok o t) :
    t = s ∧ ∀ tenant, o = some tenant → tenant ∈ s.db.tenants.rows ∧
      ∀ r ∈ s.db.tenants.rows, r.name = name ↔ r = tenant := by
  obtain ⟨hsel, rfl⟩ := selectOne_eq_ok.mp h
  refine ⟨rfl, ?_⟩
  rintro tenant rfl
  have hmem : ∀ r, r ∈ t.db.tenants.rows ∧ r.name = name ↔ r = tenant := by
    intro r
    have hr := KeyedTable.mem_select (t := Tables.tenants.get t.db)
      (p := fun t => t.name == name) (r := r)
    rw [hsel, Option.toList_some, List.mem_singleton, beq_iff_eq] at hr
    exact hr.symm
  refine ⟨((hmem tenant).mpr rfl).1, fun r hr => ?_⟩
  rw [← hmem r]
  exact ⟨fun hname => ⟨hr, hname⟩, fun h => h.2⟩

theorem requireProvider_keeps {env : Env} {auth : Authorization} {s t : Session} {p : Principal}
    (h : (Deps.requireProvider env auth).run s = .ok p t) : t = s.ticked := by
  unfold Deps.requireProvider at h
  obtain ⟨q, u, hq, h⟩ := run_bind_eq_ok.mp h
  obtain ⟨_, _, _, rfl⟩ := getPrincipal_eq_ok.mp hq
  obtain ⟨_, _, hcan, h⟩ := run_bind_eq_ok.mp h
  obtain ⟨_, rfl⟩ := raiseIf_eq_ok.mp hcan
  cases h
  rfl

theorem Routes.login_signs {body : Routes.LoginRequest} (he : e.request = .login body) :
    Signs rt w e (Routes.login rt e.env body) w.session := by
  unfold Routes.login
  refine Signs.bind (W := []) (selectOne_touches _) rfl fun o t ho _ => ?_
  obtain ⟨rfl, htenant⟩ := getByName_ok ho
  cases o with
  | none => exact Signs.of_touches (W := []) (Touches.throw _) rfl
  | some tenant =>
    refine Signs.bind (W := []) (raiseIf_touches ..) rfl fun _ t hraise _ => ?_
    obtain ⟨hactive, rfl⟩ := raiseIf_eq_ok.mp hraise
    refine Signs.bind (W := []) (UserRepository.authenticate_touches ..) rfl fun u t hauth _ => ?_
    obtain rfl := authenticate_keeps hauth
    cases u with
    | none =>
      refine Signs.of_touches (W := [.committed, .auditLog]) ?_ rfl
      grind
    | some user =>
      obtain ⟨huser, hof⟩ := UserRepository.authenticate_ok hauth
      refine Signs.bind (W := [.auditLog]) (AuditService.recordEntry_touches ..) rfl
        fun _ t hrec ht => ?_
      rw [AuditService.recordEntry_run] at hrec
      cases hrec
      refine Signs.issue (W := []) ht ?_ fun k => Touches.pure _
      obtain ⟨hrow, hnamed⟩ := htenant tenant rfl
      exact Issues.login body tenant user he hrow hnamed (by simpa using hactive) huser hof
        (by rw [userToken, hof]; rfl)

theorem ProviderRoutes.impersonate_signs {auth : Authorization} {tenantId : String}
    (he : e.request = .provider auth (.impersonate tenantId)) :
    Signs rt w e (ProviderRoutes.impersonate rt e.env auth tenantId) w.session := by
  unfold ProviderRoutes.impersonate
  refine Signs.bind (W := []) (Deps.requireProvider_touches ..) rfl fun p t hp ht => ?_
  obtain rfl := requireProvider_keeps hp
  refine Signs.bind (W := []) (TenantRepository.get_touches _) ht fun o t ho ht => ?_
  rw [tenantGet_run] at ho
  cases ho
  refine Signs.bind (W := []) (orRaise_touches ..) ht fun tenant t htenant ht => ?_
  obtain ⟨_, rfl⟩ := orRaise_eq_ok.mp htenant
  obtain ⟨members, hlist, hmembers⟩ := userList_run tenantId w.session.ticked
  refine Signs.bind (W := []) (UserRepository.list_touches _) ht fun ms t hms ht => ?_
  rw [hlist] at hms
  cases hms
  refine Signs.bind (W := []) (orRaise_touches ..) ht fun admin t hadmin ht => ?_
  obtain ⟨hfind, rfl⟩ := orRaise_eq_ok.mp hadmin
  obtain ⟨huser, hof⟩ := hmembers admin (List.mem_of_find?_eq_some hfind)
  refine Signs.issue (W := [.auditLog]) ht ?_ fun k => ?_
  · exact Issues.impersonation auth tenantId admin he huser hof (by rw [userToken, hof]; rfl)
  · grind

/-- Whatever the answer, the tokens a request signed stay signed. -/
theorem issued_eq (rt : Runtime) (w : World) (e : Event) :
    (step rt w e).issued = (stateOf (handled rt w e)).issued := by
  rw [step_eq]
  cases handled rt w e <;> rfl

/-- A request signs nothing, or one token with a reason. -/
theorem step_signs (rt : Runtime) (w : World) (e : Event) :
    (step rt w e).issued = w.issued ∨
      ∃ k, (step rt w e).issued = w.issued ++ [k] ∧ Issues rt w e k := by
  rw [issued_eq]
  by_cases hF : .tokens ∈ footprint e.request
  · unfold handled
    obtain ⟨body, he⟩ | ⟨auth, tenantId, he⟩ := tokens_footprint hF
    · rw [he]
      exact (Routes.login_signs he).map Body.token
    · rw [he]
      exact (ProviderRoutes.impersonate_signs he).map Body.impersonation
  · exact Or.inl (handled_same hF)

end SentinelAI
