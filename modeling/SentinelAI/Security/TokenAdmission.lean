import SentinelAI.Security.AccountAuthority
import SentinelAI.Security.Accounts

/-
  When a token is admitted. Over any run, a token signed in it passes `get_principal` exactly
  until it expires, as long as no logout with it was completed, and while its tenant is not
  suspended.

  Two assumptions on what is outside the service: generated uuids are not empty, and no two
  tokens get one `jti`. `WellIssued` is what holds of every world the service reaches from a
  fresh one: user rows have all the columns a token is made of, and a revoked `jti` is that
  of a signed token.
-/

namespace SentinelAI

open Lib

/-! ## Reachable worlds -/

/-- A row with all the columns a token's identity claims are read from. -/
structure UserComplete (u : UserRow) : Prop where
  id : u.id ≠ ""
  tenantId : u.tenantId ≠ ""
  username : u.username ≠ ""
  role : u.role ≠ ""

structure WellIssued (w : World) : Prop where
  complete : ∀ u ∈ w.db.users.rows, UserComplete u
  revoked : ∀ r ∈ w.db.revokedTokens.rows, ∃ k ∈ w.issued, k.jti = r.jti

theorem wellIssued_empty : WellIssued { db := .empty } where
  complete _ h := by cases h
  revoked _ h := by cases h

/-- What is assumed of the generated ids. -/
structure FreshIds (rt : Runtime) (w : World) (e : Event) : Prop where
  uuid : ∀ n, e.env.uuid4 n ≠ ""
  jti : ∀ k, Issues rt w e k → ∀ k' ∈ w.issued, k'.jti ≠ k.jti

theorem admitted_tenantId {db : Database} {issued : List Token} {now : Time}
    {auth : Authorization} {permission : Permission} {p : Principal}
    (h : Admitted db issued now auth permission p) : p.tenantId ≠ "" := by
  obtain ⟨token, hid, rfl, _⟩ := h
  have hc := hid.complete
  unfold Token.claimsMissing at hc
  simp only [Bool.or_eq_false_iff, beq_eq_false_iff_ne] at hc
  exact hc.1.1.2

theorem ne_empty_of_length {s : String} (h : 1 ≤ s.length) : s ≠ "" := by
  rintro rfl
  simp at h

theorem validRole_ne_empty {role : String} (h : AdminRoutes.validRoles.contains role = true) :
    role ≠ "" := by
  rintro rfl
  exact absurd h (by decide)

/-- Every row a request writes is complete. -/
theorem WritesUser.complete {w : World} {e : Event} {u : UserRow} (h : WritesUser w e u)
    (hw : ∀ u ∈ w.db.users.rows, UserComplete u) (huuid : ∀ n, e.env.uuid4 n ≠ "") :
    UserComplete u := by
  cases h with
  | created auth body p he hp hname hpassword hrole hfree hid =>
    exact ⟨huuid 0, admitted_tenantId hp, ne_empty_of_length hname.1, validRole_ne_empty hrole⟩
  | roleChanged auth userId role p user he hp hrole huser hof hid =>
    have hc := hw user huser
    exact ⟨hc.id, hc.tenantId, hc.username, validRole_ne_empty hrole⟩
  | linked auth userId externalId p user he hp huser hof hid =>
    have hc := hw user huser
    exact ⟨hc.id, hc.tenantId, hc.username, hc.role⟩
  | tenantAdmin auth body he hname =>
    have hadmin : Role.admin.value ≠ "" := by decide
    exact ⟨huuid 1, huuid 0, ne_empty_of_length hname.1, hadmin⟩

/-! ## Logouts -/

section

variable {rt : Runtime} {w : World} {e : Event}

/-- Revoking an id that is not on the list puts it there. -/
theorem revoke_run (env : Env) (tenantId : String) {jti : String} {s : Session}
    (h : s.db.revokedTokens.find? jti = none) :
    ∃ revoked, s.db.revokedTokens.insert?
        { jti := jti, tenantId := tenantId, revokedAt := env.now s.ticks } = some revoked ∧
      (TokenRepository.revoke env tenantId jti).run s =
        .ok () { s.ticked with db := { s.db with revokedTokens := revoked } } := by
  let row : RevokedTokenRow := { jti := jti, tenantId := tenantId, revokedAt := env.now s.ticks }
  have hget : (sessionGet Tables.revokedTokens jti).run s = .ok none s := by
    show EStateM.Result.ok (s.db.revokedTokens.find? jti) s = _
    rw [h]
  have hfresh : ∀ r ∈ s.db.revokedTokens.rows, Keyed.key r ≠ Keyed.key row := by
    intro r hr hkey
    have hfind := (s.db.revokedTokens.find?_eq_some jti r).mpr ⟨hr, hkey⟩
    rw [h] at hfind
    cases hfind
  obtain ⟨revoked, hins⟩ := KeyedTable.insert?_fresh hfresh
  refine ⟨revoked, hins, ?_⟩
  unfold TokenRepository.revoke
  rw [run_bind_ok hget]
  dsimp only
  rw [run_bind_ok (readClock_run env s)]
  exact insertRow_eq_ok.mpr ⟨revoked, hins, rfl⟩

/-- The audit entry of a logout. -/
def logoutEntry (token : Token) : AuditEntry where
  tenantId := token.tenantId
  actor := token.sub
  action := "auth.logout"
  targetType := "user"
  targetId := token.uid

/-- An admitted token's logout revokes the id of the token, and is audited. -/
theorem logout_run (rt : Runtime) {auth : Authorization} {token : Token} {s : Session} {env : Env}
    (h : Identified s.db s.issued (env.now s.ticks) auth token) :
    ∃ (row : RevokedTokenRow) (revoked : KeyedTable RevokedTokenRow), row.jti = token.jti ∧
      s.db.revokedTokens.insert? row = some revoked ∧
      (Routes.logout rt env auth).run s = (AuditService.recordEntry rt env (logoutEntry token)).run
        { s.ticked.ticked with db := { s.db with revokedTokens := revoked } } := by
  obtain ⟨revoked, hins, hrun⟩ := revoke_run env token.tenantId (s := s.ticked) h.unrevoked
  refine ⟨_, revoked, rfl, hins, ?_⟩
  unfold Routes.logout
  rw [run_bind_ok (getPrincipal_eq_ok.mpr ⟨token, h, rfl, rfl⟩)]
  exact run_bind_ok hrun

/-- A completed logout was made with an admitted token. -/
theorem logout_eq_ok {auth : Authorization} {s t : Session} {env : Env} {u : Unit}
    (h : (Routes.logout rt env auth).run s = .ok u t) :
    ∃ token, Identified s.db s.issued (env.now s.ticks) auth token ∧
      ∃ row : RevokedTokenRow, row.jti = token.jti ∧
        s.db.revokedTokens.insert? row = some t.db.revokedTokens := by
  have hprincipal := h
  unfold Routes.logout at hprincipal
  obtain ⟨p, _, hp, _⟩ := run_bind_eq_ok.mp hprincipal
  obtain ⟨token, hid, _, _⟩ := getPrincipal_eq_ok.mp hp
  obtain ⟨row, revoked, hjti, hins, hrun⟩ := logout_run rt hid
  rw [hrun, AuditService.recordEntry_run] at h
  cases h
  exact ⟨token, hid, row, hjti, hins⟩

/-- The step is a logout with the token that is answered. -/
def CompletesLogout (rt : Runtime) (token : Token) (w : World) (e : Event) : Prop :=
  e.request = .logout (.bearer token) ∧ succeeds rt w e = true

def Revoked (w : World) (jti : String) : Prop := ∃ r ∈ w.db.revokedTokens.rows, r.jti = jti

theorem not_revoked_iff {jti : String} :
    ¬ Revoked w jti ↔ w.db.revokedTokens.find? jti = none := by
  unfold Revoked
  constructor
  · intro h
    cases hfind : w.db.revokedTokens.find? jti with
    | none => rfl
    | some r => exact absurd ⟨r, (w.db.revokedTokens.find?_eq_some jti r).mp hfind⟩ h
  · rintro h ⟨r, hr, hjti⟩
    have hfind := (w.db.revokedTokens.find?_eq_some jti r).mpr ⟨hr, hjti⟩
    rw [h] at hfind
    cases hfind

/-- A step leaves the revocations, or is a completed logout and adds its token's. -/
theorem step_revoked_cases (rt : Runtime) (w : World) (e : Event) :
    ((step rt w e).db.revokedTokens = w.db.revokedTokens ∧
        ∀ token, ¬ CompletesLogout rt token w e) ∨
      ∃ token, CompletesLogout rt token w e ∧ token ∈ w.issued ∧
        ∃ row : RevokedTokenRow, row.jti = token.jti ∧
          w.db.revokedTokens.insert? row = some (step rt w e).db.revokedTokens := by
  by_cases hlogout : ∃ auth, e.request = .logout auth
  · obtain ⟨auth, he⟩ := hlogout
    have hc : .committed ∉ footprint e.request := by simp [he, footprint]
    obtain ⟨body, t, hrun, hdb⟩ | ⟨⟨ex, t, hrun⟩, hdb⟩ := step_db rt hc
    · right
      have hsucc : succeeds rt w e = true := (succeeds_iff rt w e).mpr ⟨body, t, hrun⟩
      obtain ⟨u, h, rfl⟩ := (handled_eq_ok he rfl).mp hrun
      obtain ⟨token, hid, row, hjti, hins⟩ := logout_eq_ok h
      obtain rfl := hid.bearer
      refine ⟨token, ⟨he, hsucc⟩, hid.signed, row, hjti, ?_⟩
      rw [hdb]
      exact hins
    · refine Or.inl ⟨by rw [hdb], fun token hcompletes => ?_⟩
      obtain ⟨body, t', hok⟩ := (succeeds_iff rt w e).mp hcompletes.2
      rw [hok] at hrun
      cases hrun
  · left
    constructor
    · refine step_kept .revokedTokens ?_
      cases he : e.request with
      | logout auth => exact absurd ⟨auth, he⟩ hlogout
      | case auth invId r => cases r <;> simp [writes]
      | admin auth r => cases r <;> simp [writes]
      | provider auth r => cases r <;> simp [writes]
      | _ => simp [writes]
    · exact fun token h => hlogout ⟨_, h.1⟩

theorem step_revoked_mono {jti : String} (h : Revoked w jti) : Revoked (step rt w e) jti := by
  obtain ⟨r, hr, hjti⟩ := h
  obtain ⟨hsame, _⟩ | ⟨token, _, _, row, _, hins⟩ := step_revoked_cases rt w e
  · exact ⟨r, hsame ▸ hr, hjti⟩
  · exact ⟨r, by rw [KeyedTable.insert?_rows hins]; exact List.mem_append_left _ hr, hjti⟩

theorem mem_issued_step {token : Token} (h : token ∈ w.issued) : token ∈ (step rt w e).issued := by
  obtain hsame | ⟨k, hnew, _⟩ := step_signs rt w e
  · rwa [hsame]
  · rw [hnew]
    exact List.mem_append_left _ h

/-- The steps of a run keep the world well issued. -/
theorem WellIssued.step (hw : WellIssued w) (hf : FreshIds rt w e) :
    WellIssued (step rt w e) where
  complete u hu := by
    obtain hold | hnew := step_users_cases rt w e u hu
    · exact hw.complete u hold
    · exact hnew.complete hw.complete hf.uuid
  revoked r hr := by
    obtain ⟨hsame, _⟩ | ⟨token, _, hsigned, row, hjti, hins⟩ := step_revoked_cases rt w e
    · obtain ⟨k, hk, hkj⟩ := hw.revoked r (hsame ▸ hr)
      exact ⟨k, mem_issued_step hk, hkj⟩
    · rw [KeyedTable.insert?_rows hins] at hr
      obtain hr | hr := List.mem_append.mp hr
      · obtain ⟨k, hk, hkj⟩ := hw.revoked r hr
        exact ⟨k, mem_issued_step hk, hkj⟩
      · obtain rfl := List.mem_singleton.mp hr
        exact ⟨token, mem_issued_step hsigned, hjti.symm⟩

end

/-! ## Over a run -/

section

variable {rt : Runtime} {w w' : World} {es : List Event} {token : Token}

/-- The step signs the token. -/
def SignsToken (rt : Runtime) (token : Token) (w : World) (e : Event) : Prop :=
  (step rt w e).issued = w.issued ++ [token]

/-- A signed token with an id of its own, of complete claims. -/
structure Held (token : Token) (w : World) : Prop where
  signed : token ∈ w.issued
  own : ∀ k ∈ w.issued, k.jti = token.jti → k = token
  complete : token.claimsMissing = false

theorem SignsToken.issues {e : Event} (h : SignsToken rt token w e) : Issues rt w e token := by
  unfold SignsToken at h
  obtain hsame | ⟨k, hnew, hk⟩ := step_signs rt w e
  · rw [hsame] at h
    simp at h
  · rw [hnew] at h
    obtain rfl : k = token := by simpa using h
    exact hk

/-- A token just signed is held, and its id is not revoked. -/
theorem SignsToken.held {e : Event} (h : SignsToken rt token w e) (hw : WellIssued w)
    (hf : FreshIds rt w e) : Held token (step rt w e) ∧ ¬ Revoked (step rt w e) token.jti := by
  have hissues := h.issues
  obtain ⟨user, huser, hkey⟩ := hissues.user
  have hfresh := hf.jti token hissues
  constructor
  · refine ⟨?_, fun k hk hjti => ?_, ?_⟩
    · rw [h]
      exact List.mem_append_right _ (List.mem_singleton_self token)
    · rw [h] at hk
      obtain hk | hk := List.mem_append.mp hk
      · exact absurd hjti (hfresh k hk)
      · exact List.mem_singleton.mp hk
    · have hc := hw.complete user huser
      rw [hkey]
      simp [Token.claimsMissing, userToken, newToken, hc.id, hc.tenantId, hc.username, hc.role]
  · rintro ⟨r, hr, hjti⟩
    obtain ⟨hsame, _⟩ | ⟨k, hlogout, _⟩ := step_revoked_cases rt w e
    · rw [hsame] at hr
      obtain ⟨k, hk, hkj⟩ := hw.revoked r hr
      exact hfresh k hk (hkj.trans hjti)
    · -- a request that signs is no logout
      cases hissues with
      | login body tenant user he => cases he.symm.trans hlogout.1
      | impersonation auth tenantId user he => cases he.symm.trans hlogout.1

/-- Of the tokens held, a step revokes the one it logs out, if any. -/
theorem Held.step_revoked {e : Event} (h : Held token w) :
    Revoked (step rt w e) token.jti ↔ Revoked w token.jti ∨ CompletesLogout rt token w e := by
  obtain ⟨hsame, hnone⟩ | ⟨k, hlogout, hsigned, row, hjti, hins⟩ := step_revoked_cases rt w e
  · unfold Revoked
    rw [hsame]
    simp [hnone token]
  · constructor
    · rintro ⟨r, hr, hr'⟩
      rw [KeyedTable.insert?_rows hins] at hr
      obtain hr | hr := List.mem_append.mp hr
      · exact Or.inl ⟨r, hr, hr'⟩
      · obtain rfl := List.mem_singleton.mp hr
        obtain rfl := h.own k hsigned (hjti.symm.trans hr')
        exact Or.inr hlogout
    · rintro (hr | hl)
      · exact step_revoked_mono hr
      · have hsame : k = token := by
          have := hlogout.1.symm.trans hl.1
          simpa using this
        refine ⟨row, ?_, hsame ▸ hjti⟩
        rw [KeyedTable.insert?_rows hins]
        exact List.mem_append_right _ (List.mem_singleton_self row)

theorem Held.step {e : Event} (h : Held token w) (hf : FreshIds rt w e) :
    Held token (step rt w e) := by
  refine ⟨mem_issued_step h.signed, fun k hk hjti => ?_, h.complete⟩
  obtain hsame | ⟨k', hnew, hk'⟩ := step_signs rt w e
  · exact h.own k (hsame ▸ hk) hjti
  · rw [hnew] at hk
    obtain hk | hk := List.mem_append.mp hk
    · exact h.own k hk hjti
    · obtain rfl := List.mem_singleton.mp hk
      exact absurd hjti.symm (hf.jti k hk' token h.signed)

/-- Along a run, a held token is revoked by a logout with it and by nothing else. -/
theorem Held.run_revoked (hrun : Steps (Guarded (Stepped rt) (FreshIds rt)) w es w')
    (h : Held token w) : Held token w' ∧
      (Revoked w' token.jti ↔ Revoked w token.jti ∨
        Occurs (SentinelAI.step rt) (CompletesLogout rt token) w es) := by
  induction hrun with
  | nil w => exact ⟨h, by simp [Occurs]⟩
  | cons hs _ ih =>
    obtain ⟨rfl, hf⟩ := hs
    obtain ⟨hheld, hiff⟩ := ih (h.step hf)
    refine ⟨hheld, ?_⟩
    rw [hiff, h.step_revoked, Occurs, or_assoc]

/-- A token is signed once: one that will be signed has not been. -/
theorem not_signed_before (hrun : Steps (Guarded (Stepped rt) (FreshIds rt)) w es w')
    (h : Occurs (step rt) (SignsToken rt token) w es) : token ∉ w.issued := by
  induction hrun with
  | nil w => exact h.elim
  | cons hs _ ih =>
    obtain ⟨rfl, hf⟩ := hs
    intro hmem
    obtain h | h := h
    · exact hf.jti token h.issues token hmem rfl
    · exact ih h (mem_issued_step hmem)

/-- A token signed in a run is held at its end, and revoked exactly if a logout with it was
    completed in the run. -/
theorem signed_revoked_iff (hrun : Steps (Guarded (Stepped rt) (FreshIds rt)) w es w')
    (hw : WellIssued w) (h : Occurs (step rt) (SignsToken rt token) w es) :
    Held token w' ∧
      (Revoked w' token.jti ↔ Occurs (step rt) (CompletesLogout rt token) w es) := by
  induction hrun with
  | nil w => exact h.elim
  | cons hs hrest ih =>
    rename_i w _ w' e es
    obtain ⟨rfl, hf⟩ := hs
    -- no logout with the token before it is signed
    have hfirst : ¬ CompletesLogout rt token w e := by
      intro hlogout
      obtain ⟨_, hnone⟩ | ⟨k, hk, hsigned, _⟩ := step_revoked_cases rt w e
      · exact hnone token hlogout
      · have hsame : k = token := by simpa using hk.1.symm.trans hlogout.1
        exact not_signed_before (Steps.cons ⟨rfl, hf⟩ hrest) h (hsame ▸ hsigned)
    obtain hsigns | hlater := h
    · obtain ⟨hheld, hnot⟩ := hsigns.held hw hf
      obtain ⟨hheld', hiff⟩ := hheld.run_revoked hrest
      refine ⟨hheld', ?_⟩
      rw [hiff, Occurs]
      simp [hnot, hfirst]
    · obtain ⟨hheld', hiff⟩ := ih (hw.step hf) hlater
      refine ⟨hheld', ?_⟩
      rw [hiff, Occurs]
      simp [hfirst]

/-! ## Exact admission -/

/-- A request with the token gets past `get_principal`. -/
def Passes (w : World) (token : Token) (env : Env) : Prop :=
  ∃ p t, (Deps.getPrincipal env (.bearer token)).run w.session = .ok p t

/-- The tenant is not suspended now. -/
def NotSuspended (w : World) (tenantId : String) : Prop :=
  ∀ tenant, w.db.tenants.find? tenantId = some tenant → tenant.status ≠ "suspended"

theorem Held.passes_iff (h : Held token w) (env : Env) :
    Passes w token env ↔ Time.seconds (env.now 0) ≤ token.exp ∧ ¬ Revoked w token.jti ∧
      NotSuspended w token.tenantId := by
  rw [not_revoked_iff]
  constructor
  · rintro ⟨p, t, hrun⟩
    obtain ⟨k, hid, _⟩ := getPrincipal_eq_ok.mp hrun
    cases hid.bearer
    exact ⟨hid.unexpired, hid.unrevoked, hid.unsuspended⟩
  · rintro ⟨hexp, hrev, hsus⟩
    refine ⟨_, _, getPrincipal_eq_ok.mpr ⟨token, ?_, rfl, rfl⟩⟩
    exact ⟨rfl, h.signed, hexp, h.complete, hrev, hsus⟩

/-- A logout with another token changes nothing for a held one. -/
theorem Held.logout_other {e : Event} {auth : Authorization} (h : Held token w)
    (he : e.request = .logout auth) (hother : auth ≠ .bearer token) (env : Env) :
    Passes (SentinelAI.step rt w e) token env ↔ Passes w token env := by
  have htenants : (SentinelAI.step rt w e).db.tenants = w.db.tenants :=
    step_kept .tenants (by simp [he, writes])
  have hissued : (SentinelAI.step rt w e).issued = w.issued := step_issued (by simp [he, footprint])
  have hheld : Held token (SentinelAI.step rt w e) :=
    ⟨hissued ▸ h.signed, hissued ▸ h.own, h.complete⟩
  have hnot : ¬ CompletesLogout rt token w e := by
    intro hlogout
    have hauth := he.symm.trans hlogout.1
    simp only [Request.logout.injEq] at hauth
    exact hother hauth
  rw [hheld.passes_iff, h.passes_iff, h.step_revoked, NotSuspended, NotSuspended, htenants]
  simp [hnot]

/-- A login for a suspended tenant signs nothing. -/
theorem login_suspended {e : Event} {body : Routes.LoginRequest} (he : e.request = .login body)
    {tenant : TenantRow} (htenant : tenant ∈ w.db.tenants.rows) (hname : tenant.name = body.tenant)
    (hsus : tenant.status = "suspended") : (SentinelAI.step rt w e).issued = w.issued := by
  obtain hsame | ⟨k, _, hk⟩ := step_signs rt w e
  · exact hsame
  · cases hk with
    | login body' tenant' user he' htenant' hnamed hactive =>
      cases he.symm.trans he'
      obtain rfl := (hnamed tenant htenant).mp hname
      exact absurd hsus hactive
    | impersonation auth tenantId user he' => cases he.symm.trans he'

/-- A token signed in a run passes `get_principal` exactly until it expires, unless a logout
    with it was completed in the run, and while its tenant is not suspended. A logout leaves
    every other token, and a suspended tenant's logins sign none. -/
theorem token_admission_exact (rt : Runtime) (w w' : World) (es : List Event) (token : Token)
    (hw : WellIssued w) (hrun : Steps (Guarded (Stepped rt) (FreshIds rt)) w es w')
    (hsigned : Occurs (step rt) (SignsToken rt token) w es) :
    (∀ env, Passes w' token env ↔ Time.seconds (env.now 0) ≤ token.exp ∧
      ¬ Occurs (step rt) (CompletesLogout rt token) w es ∧ NotSuspended w' token.tenantId) ∧
    (∀ e auth, e.request = .logout auth → auth ≠ .bearer token →
      ∀ env, Passes (step rt w' e) token env ↔ Passes w' token env) ∧
    (∀ e body, e.request = .login body → ∀ tenant ∈ w'.db.tenants.rows,
      tenant.name = body.tenant → tenant.status = "suspended" →
        (step rt w' e).issued = w'.issued) := by
  obtain ⟨hheld, hiff⟩ := signed_revoked_iff hrun hw hsigned
  refine ⟨fun env => ?_, fun e auth he hother env => ?_,
    fun e body he tenant htenant hname hsus => ?_⟩
  · rw [hheld.passes_iff, hiff]
  · exact hheld.logout_other he hother env
  · exact login_suspended he htenant hname hsus

end

/-! ## A login -/

theorem wellIssued_globex : WellIssued globex where
  complete u hu := by
    have hu' : u.id ≠ "" ∧ u.tenantId ≠ "" ∧ u.username ≠ "" ∧ u.role ≠ "" := by
      revert u
      decide
    exact ⟨hu'.1, hu'.2.1, hu'.2.2.1, hu'.2.2.2⟩
  revoked _ h := by cases h

/-- The analyst's token after the login that signed it. -/
theorem token_admission_exact_login :
    (∀ env, Passes (run .plain globex [globexLogin "ana" "j2"]) anaToken env ↔
      Time.seconds (env.now 0) ≤ anaToken.exp ∧
      ¬ Occurs (step .plain) (CompletesLogout .plain anaToken) globex [globexLogin "ana" "j2"] ∧
      NotSuspended (run .plain globex [globexLogin "ana" "j2"]) anaToken.tenantId) ∧
    (∀ e auth, e.request = .logout auth → auth ≠ .bearer anaToken → ∀ env,
      Passes (step .plain (run .plain globex [globexLogin "ana" "j2"]) e) anaToken env ↔
        Passes (run .plain globex [globexLogin "ana" "j2"]) anaToken env) ∧
    (∀ e body, e.request = .login body →
      ∀ tenant ∈ (run .plain globex [globexLogin "ana" "j2"]).db.tenants.rows,
        tenant.name = body.tenant → tenant.status = "suspended" →
          (step .plain (run .plain globex [globexLogin "ana" "j2"]) e).issued =
            (run .plain globex [globexLogin "ana" "j2"]).issued) := by
  refine token_admission_exact .plain globex _ [globexLogin "ana" "j2"] anaToken wellIssued_globex
    (Steps.cons ⟨rfl, ?_⟩ (Steps.nil _)) (Or.inl ?_)
  · exact ⟨fun _ => show "j2" ≠ "" by decide, fun _ _ _ h => by cases h⟩
  · show (step .plain globex (globexLogin "ana" "j2")).issued = [anaToken]
    decide

end SentinelAI
