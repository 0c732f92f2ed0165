import SentinelAI.Api.Deps

/-
  Who gets past `get_principal`, `require` and `require_provider`, and in which state.
-/

namespace SentinelAI

open Lib

/-- The token behind an `Authorization` header: signed, not expired, complete, not revoked,
    its tenant not suspended. -/
structure Identified (db : Database) (issued : List Token) (now : Time) (auth : Authorization)
    (token : Token) : Prop where
  bearer : auth = .bearer token
  signed : token ∈ issued
  unexpired : Time.seconds now ≤ token.exp
  complete : token.claimsMissing = false
  unrevoked : db.revokedTokens.find? token.jti = none
  unsuspended : ∀ tenant, db.tenants.find? token.tenantId = some tenant →
    tenant.status ≠ "suspended"

/-- A signed token, where no token is revoked and no tenant suspended. -/
theorem Identified.of_rows {db : Database} {issued : List Token} {now : Time} {token : Token}
    (hsigned : token ∈ issued) (hexp : Time.seconds now ≤ token.exp)
    (hcomplete : token.claimsMissing = false) (hrevoked : db.revokedTokens.rows = [])
    (hactive : ∀ t ∈ db.tenants.rows, t.status ≠ "suspended") :
    Identified db issued now (.bearer token) token := by
  refine ⟨rfl, hsigned, hexp, hcomplete, ?_, fun t ht => ?_⟩
  · unfold KeyedTable.find?
    rw [hrevoked]
    rfl
  · exact hactive t ((KeyedTable.find?_eq_some _ _ _).mp ht).1

/-- A principal a permission is granted to. -/
def Admitted (db : Database) (issued : List Token) (now : Time) (auth : Authorization)
    (permission : Permission) (p : Principal) : Prop :=
  ∃ token, Identified db issued now auth token ∧ p = token.principal ∧ p.can permission = true

theorem principalFromToken_eq_ok {issued : List Token} {now : Time} {token : Token}
    {p : Principal} :
    principalFromToken issued now token = .ok p ↔
      token ∈ issued ∧ Time.seconds now ≤ token.exp ∧ token.claimsMissing = false ∧
        p = token.principal := by
  constructor
  · exact principalFromToken_ok
  · rintro ⟨hs, he, hc, rfl⟩
    unfold principalFromToken decodeAccessToken
    rw [if_pos ⟨hs, he⟩]
    simp [bind, Except.bind, hc]

theorem isRevoked_run (jti : String) (s : Session) :
    (TokenRepository.isRevoked jti).run s = .ok (s.db.revokedTokens.find? jti).isSome s := rfl

theorem tenantGet_run (tenantId : String) (s : Session) :
    (TenantRepository.get tenantId).run s = .ok (s.db.tenants.find? tenantId) s := rfl

theorem principalOfToken_eq_ok {env : Env} {token : Token} {s t : Session} {p : Principal} :
    (Deps.principalOfToken env token).run s = .ok p t ↔
      Identified s.db s.issued (env.now s.ticks) (.bearer token) token ∧ p = token.principal ∧
        t = s.ticked := by
  have hget : (get : ApiM Session).run s.ticked = .ok s.ticked s.ticked := rfl
  have hsus : (s.ticked.db.tenants.find? token.principal.tenantId).any
      (fun t => t.status == "suspended") = false ↔
      ∀ tenant, s.db.tenants.find? token.tenantId = some tenant → tenant.status ≠ "suspended" := by
    show (s.db.tenants.find? token.tenantId).any _ = false ↔ _
    cases s.db.tenants.find? token.tenantId <;> simp
  unfold Deps.principalOfToken
  rw [run_bind_ok (readClock_run env s), run_bind_ok hget, run_bind_eq_ok]
  constructor
  · rintro ⟨q, u, hq, h⟩
    obtain ⟨hprincipal, rfl⟩ := ofExcept_eq_ok.mp hq
    obtain ⟨hs, he, hc, rfl⟩ := principalFromToken_eq_ok.mp hprincipal
    rw [run_bind_ok (isRevoked_run ..)] at h
    obtain ⟨_, _, hrev, h⟩ := run_bind_eq_ok.mp h
    obtain ⟨hunrevoked, rfl⟩ := raiseIf_eq_ok.mp hrev
    rw [run_bind_ok (tenantGet_run ..)] at h
    obtain ⟨_, _, htenant, h⟩ := run_bind_eq_ok.mp h
    obtain ⟨hunsuspended, rfl⟩ := raiseIf_eq_ok.mp htenant
    cases h
    exact ⟨⟨rfl, hs, he, hc, by simpa [Session.ticked] using hunrevoked, hsus.mp hunsuspended⟩,
      rfl, rfl⟩
  · rintro ⟨⟨_, hs, he, hc, hrev, htenant⟩, rfl, rfl⟩
    refine ⟨token.principal, s.ticked, ofExcept_eq_ok.mpr
      ⟨principalFromToken_eq_ok.mpr ⟨hs, he, hc, rfl⟩, rfl⟩, ?_⟩
    rw [run_bind_ok (isRevoked_run ..)]
    rw [run_bind_ok (raiseIf_eq_ok (u := ()) |>.mpr ⟨by simp [Session.ticked, hrev], rfl⟩)]
    rw [run_bind_ok (tenantGet_run ..)]
    rw [run_bind_ok (raiseIf_eq_ok (u := ()) |>.mpr ⟨hsus.mpr htenant, rfl⟩)]
    rfl

theorem getPrincipal_eq_ok {env : Env} {auth : Authorization} {s t : Session} {p : Principal} :
    (Deps.getPrincipal env auth).run s = .ok p t ↔
      ∃ token, Identified s.db s.issued (env.now s.ticks) auth token ∧ p = token.principal ∧
        t = s.ticked := by
  cases auth with
  | missing =>
    constructor
    · intro h
      cases h
    · rintro ⟨token, h, _⟩
      cases h.bearer
  | unsigned =>
    constructor
    · intro h
      cases h
    · rintro ⟨token, h, _⟩
      cases h.bearer
  | bearer token =>
    rw [Deps.getPrincipal, principalOfToken_eq_ok]
    constructor
    · intro h
      exact ⟨token, h⟩
    · rintro ⟨token', h, hp, ht⟩
      cases h.bearer
      exact ⟨h, hp, ht⟩

/-- `require` lets exactly the admitted principals pass, and only reads the clock. -/
theorem require_eq_ok {env : Env} {auth : Authorization} {permission : Permission} {s t : Session}
    {p : Principal} :
    (Deps.require env auth permission).run s = .ok p t ↔
      Admitted s.db s.issued (env.now s.ticks) auth permission p ∧ t = s.ticked := by
  unfold Deps.require Admitted
  rw [run_bind_eq_ok]
  constructor
  · rintro ⟨q, u, hq, h⟩
    obtain ⟨token, hid, rfl, rfl⟩ := getPrincipal_eq_ok.mp hq
    obtain ⟨_, _, hcan, h⟩ := run_bind_eq_ok.mp h
    obtain ⟨hnot, rfl⟩ := raiseIf_eq_ok.mp hcan
    cases h
    exact ⟨⟨token, hid, rfl, by simpa using hnot⟩, rfl⟩
  · rintro ⟨⟨token, hid, rfl, hcan⟩, rfl⟩
    refine ⟨token.principal, s.ticked, getPrincipal_eq_ok.mpr ⟨token, hid, rfl, rfl⟩, ?_⟩
    rw [run_bind_ok (raiseIf_eq_ok (u := ()) |>.mpr ⟨by simp [hcan], rfl⟩)]
    rfl

/-- What passes `require_provider` is a provider administrator. -/
theorem requireProvider_ok {env : Env} {token : Token} {s t : Session} {p : Principal}
    (h : (Deps.requireProvider env (.bearer token)).run s = .ok p t) :
    token.role = "provider_admin" := by
  unfold Deps.requireProvider at h
  obtain ⟨q, u, hq, h⟩ := run_bind_eq_ok.mp h
  obtain ⟨token', hid, rfl, rfl⟩ := getPrincipal_eq_ok.mp hq
  cases hid.bearer
  obtain ⟨_, _, hcan, h⟩ := run_bind_eq_ok.mp h
  obtain ⟨hnot, rfl⟩ := raiseIf_eq_ok.mp hcan
  rw [Bool.not_eq_false'] at hnot
  exact (hasPermission_provider _).mp hnot

end SentinelAI
