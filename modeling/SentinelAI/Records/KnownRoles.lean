import SentinelAI.Records.Accountability

/-
  The roles there are. `users.role` and the role claim of a token are strings, and `has_permission`
  grants a role it does not know nothing. But an administrator may only give a role of `Role`,
  and a start seeds two of them, so throughout the life of a deployment every account and every
  signed token has a role of `Role` (`live_known_roles`).
-/

namespace SentinelAI

open Lib

/-- A role of `Role`. -/
def KnownRole (role : String) : Prop := role ∈ Role.all.map Role.value

theorem knownRole_of_valid {role : String} (h : AdminRoutes.validRoles.contains role = true) :
    KnownRole role := List.contains_iff_mem.mp h

theorem knownRole_value (r : Role) : KnownRole r.value :=
  List.mem_map_of_mem (by cases r <;> decide)

/-- Accounts and tokens have known roles. -/
structure KnownRoles (w : World) : Prop where
  accounts : ∀ u ∈ w.db.users.rows, KnownRole u.role
  tokens : ∀ k ∈ w.issued, KnownRole k.role

/-! ## A request -/

theorem WritesUser.known {w : World} {e : Event} {u : UserRow} (h : WritesUser w e u)
    (hw : KnownRoles w) : KnownRole u.role := by
  cases h with
  | created auth body p he hp hname hpassword hrole hfree hid => exact knownRole_of_valid hrole
  | roleChanged auth userId role p user he hp hrole huser hof hid => exact knownRole_of_valid hrole
  | linked auth userId externalId p user he hp huser hof hid => exact hw.accounts user huser
  | tenantAdmin auth body he hname => exact knownRole_value .admin

theorem KnownRoles.after_step {w : World} (h : KnownRoles w) (rt : Runtime) (e : Event) :
    KnownRoles (step rt w e) where
  accounts u hu := by
    obtain hold | hnew := step_users_cases rt w e u hu
    · exact h.accounts u hold
    · exact hnew.known h
  tokens k hk := by
    obtain hsame | ⟨k', hsigned, hissues⟩ := step_signs rt w e
    · exact h.tokens k (hsame ▸ hk)
    · rw [hsigned] at hk
      obtain hk | hk := List.mem_append.mp hk
      · exact h.tokens k hk
      · obtain ⟨user, huser, rfl⟩ := hissues.user
        rw [List.mem_singleton.mp hk]
        exact h.accounts user huser

/-! ## A start -/

section

variable {env : Env} {s t : Session}

/-- The account it creates has the role it is called with. -/
theorem ensureUser_role {tenantId username password role : String} {x : Unit}
    (h : (Bootstrap.ensureUser env tenantId username password role).run s = .ok x t) :
    ∀ u ∈ t.db.users.rows, u ∈ s.db.users.rows ∨ u.role = role := by
  obtain ⟨_, rfl⟩ | ⟨_, user, hcreate⟩ := ensureUser_cases h
  · exact fun u hu => Or.inl hu
  · obtain ⟨rfl, users, hins, rfl⟩ := UserRepository.create_eq_ok hcreate
    intro u hu
    obtain hold | rfl := mem_users_insert hins hu
    · exact Or.inl hold
    · exact Or.inr rfl

/-- A start adds an administrator and a provider administrator at most. -/
theorem seedDefault_roles (h : (Bootstrap.seedDefault env).run s = .ok () t) :
    ∀ u ∈ t.committed.users.rows, u ∈ s.db.users.rows ∨ u.role = Role.admin.value ∨
      u.role = Role.providerAdmin.value := by
  obtain ⟨default, s₁, s₂, platform, s₃, s₄, hdefault, hanalyst, hplatform, hprovider, hend⟩ :=
    seedDefault_eq_ok h
  rw [hend]
  intro u hu
  obtain hu | hrole := ensureUser_role hprovider u hu
  · rw [(ensure_after hplatform).2.1] at hu
    obtain hu | hrole := ensureUser_role hanalyst u hu
    · exact Or.inl ((ensure_after hdefault).2.1 ▸ hu)
    · exact Or.inr (Or.inl hrole)
  · exact Or.inr (Or.inr hrole)

end

theorem KnownRoles.after_start {w : World} (h : KnownRoles w) (env : Env) : KnownRoles (start env w) where
  accounts u hu := by
    cases hrun : (Bootstrap.seedDefault env).run w.session with
    | error ex t =>
      have hdb : (start env w).db = t.committed := congrArg (fun r => (stateOf r).committed) hrun
      have hkept : t.committed = w.db :=
        (seedDefault_raises env _ _ _ hrun trivial) .committed (by decide)
      exact h.accounts u (hkept ▸ hdb ▸ hu)
    | ok x t =>
      have hdb : (start env w).db = t.committed := congrArg (fun r => (stateOf r).committed) hrun
      rw [hdb] at hu
      obtain hold | hadmin | hprovider := seedDefault_roles hrun u hu
      · exact h.accounts u hold
      · exact hadmin ▸ knownRole_value .admin
      · exact hprovider ▸ knownRole_value .providerAdmin
  tokens k hk := h.tokens k ((start_issued env w) ▸ hk)

/-! ## The life of a deployment -/

theorem knownRoles_new : KnownRoles .new :=
  ⟨fun u hu => (by cases hu), fun k hk => (by cases hk)⟩

theorem live_known_roles (rt : Runtime) (os : List Occurrence) : KnownRoles (live rt .new os) := by
  refine live_keeps (I := KnownRoles) (fun w o h => ?_) knownRoles_new os
  cases o with
  | start env => exact h.after_start env
  | request e => exact h.after_step rt e

end SentinelAI
