import SentinelAI.Security.AccountAuthority
import SentinelAI.Security.Accounts

/-
  Whether a tenant can lose its last administrator.

  `delete_user` refuses an administrator's own account, so a deletion by an administrator whose
  account is still there leaves that one. `update_role` asks no such thing, and a token outlives
  the account it was issued for. `administered_step` says which requests take the last
  administrator; `last_administrator_iff` that runs without one never do.
-/

namespace SentinelAI

open Lib

/-- The tenant has a user with role admin. -/
def Administered (tenantId : String) (w : World) : Prop :=
  ∃ u ∈ w.db.users.rows, u.tenantId = tenantId ∧ u.role = "admin"

/-- The tenant's one user with role admin. -/
structure SoleAdministrator (tenantId : String) (w : World) (user : UserRow) : Prop where
  stored : user ∈ w.db.users.rows
  of : user.tenantId = tenantId
  role : user.role = "admin"
  alone : ∀ u ∈ w.db.users.rows, u.tenantId = tenantId → u.role = "admin" → u = user

/-- An admitted administrator gives the tenant's one administrator another role, or deletes an
    account that is that administrator's and not its own. -/
def TakesLastAdministrator (tenantId : String) (w : World) (e : Event) : Prop :=
  ∃ auth p user, Admitted w.db w.issued (e.env.now 0) auth .admin p ∧ p.tenantId = tenantId ∧
    SoleAdministrator tenantId w user ∧
    ((∃ role, e.request = .admin auth (.updateRole user.id role) ∧
        AdminRoutes.validRoles.contains role = true ∧ role ≠ "admin") ∨
      (e.request = .admin auth (.deleteUser user.id) ∧ user.id ≠ p.userId))

section

variable {tenantId : String} {w : World} {e : Event}

/-- After such a request the tenant has no administrator. -/
theorem TakesLastAdministrator.lost (rt : Runtime) (h : TakesLastAdministrator tenantId w e) :
    ¬ Administered tenantId (step rt w e) := by
  obtain ⟨auth, p, user, hp, rfl, hsole, hrequest⟩ := h
  have huser : OwnAccount w p user.id user := ⟨hsole.stored, hsole.of, rfl⟩
  rintro ⟨u, hu, hof, hrole⟩
  obtain ⟨role, he, hvalid, hother⟩ | ⟨he, hother⟩ := hrequest
  · rw [changeAccount_step rt (f := fun u => { u with role := role }) (fun _ => rfl) he
      (.role user.id role hvalid) hp huser] at hu
    obtain ⟨r, _, _, rfl⟩ | ⟨hold, hid⟩ := (KeyedTable.mem_modify _).mp hu
    · exact hother hrole
    · exact hid (congrArg UserRow.id (hsole.alone u hold hof hrole))
  · rw [deleteUser_step rt he hp hother huser] at hu
    obtain ⟨hold, hid⟩ := List.mem_filter.mp hu
    rw [hsole.alone u hold hof hrole] at hid
    simp at hid

/-- One user is the tenant's only administrator, or another one is an administrator too. -/
theorem Administered.sole_or_other (h : Administered tenantId w) (userId : String) :
    (∃ user, user.id = userId ∧ SoleAdministrator tenantId w user) ∨
      ∃ u ∈ w.db.users.rows, u.tenantId = tenantId ∧ u.role = "admin" ∧ u.id ≠ userId := by
  by_cases hother : ∃ u ∈ w.db.users.rows, u.tenantId = tenantId ∧ u.role = "admin" ∧ u.id ≠ userId
  · exact Or.inr hother
  · have hid : ∀ u ∈ w.db.users.rows, u.tenantId = tenantId → u.role = "admin" → u.id = userId := by
      intro u hu hof hrole
      by_contra hne
      exact hother ⟨u, hu, hof, hrole, hne⟩
    obtain ⟨user, huser, hof, hrole⟩ := h
    have huserId : user.id = userId := hid user huser hof hrole
    refine Or.inl ⟨user, huserId, huser, hof, hrole, fun u hu hof' hrole' => ?_⟩
    exact w.db.users.eq_of_key_eq hu huser ((hid u hu hof' hrole').trans huserId.symm)

/-- A request takes a tenant's last administrator exactly if it is one of those. -/
theorem administered_step (rt : Runtime) (h : Administered tenantId w) :
    Administered tenantId (step rt w e) ↔ ¬ TakesLastAdministrator tenantId w e := by
  refine ⟨fun hafter htakes => htakes.lost rt hafter, fun hnot => ?_⟩
  have hchange := step_account_change rt w e
  unfold Administered
  generalize (step rt w e).db.users = users at hchange
  cases hchange with
  | kept => exact h
  | created auth body p _ he hp hname hpassword hrole hfree hins =>
    obtain ⟨u, hu, hof, hrole⟩ := h
    rw [KeyedTable.insert?_rows hins]
    exact ⟨u, List.mem_append_left _ hu, hof, hrole⟩
  | changed auth r userId f hf p user he hr hp huser =>
    obtain ⟨sole, hid, hsole⟩ | ⟨u, hu, hof, hrole, hid⟩ := h.sole_or_other userId
    · have hkept : f sole ∈ (w.db.users.modify userId f hf).rows :=
        (KeyedTable.mem_modify hf).mpr (Or.inl ⟨sole, hsole.stored, hid, rfl⟩)
      obtain rfl := w.db.users.eq_of_key_eq hsole.stored huser.1 (hid.trans huser.2.2.symm)
      refine ⟨f sole, hkept, ?_⟩
      cases hr with
      | role _ role hvalid =>
        refine ⟨hsole.of, ?_⟩
        by_contra hother
        refine hnot ⟨auth, p, sole, hp, huser.2.1.symm.trans hsole.of, hsole, Or.inl ?_⟩
        rw [hid]
        exact ⟨role, he, hvalid, hother⟩
      | link => exact ⟨hsole.of, hsole.role⟩
    · exact ⟨u, (KeyedTable.mem_modify hf).mpr (Or.inr ⟨hu, hid⟩), hof, hrole⟩
  | deleted auth userId p user he hp hother huser =>
    obtain ⟨sole, rfl, hsole⟩ | ⟨u, hu, hof, hrole, hid⟩ := h.sole_or_other userId
    · obtain rfl := w.db.users.eq_of_key_eq hsole.stored huser.1 huser.2.2.symm
      exact absurd ⟨auth, p, sole, hp, huser.2.1.symm.trans hsole.of, hsole, Or.inr ⟨he, hother⟩⟩
        hnot
    · exact ⟨u, List.mem_filter.mpr ⟨hu, by simpa using hid⟩, hof, hrole⟩
  | tenantAdmin auth body _ he hname htenant hins =>
    obtain ⟨u, hu, hof, hrole⟩ := h
    rw [KeyedTable.insert?_rows hins]
    exact ⟨u, List.mem_append_left _ hu, hof, hrole⟩

end

/-- A tenant that has an administrator has one in every state a run reaches exactly if no
    request of the run takes the last one. -/
theorem last_administrator_iff (rt : Runtime) (tenantId : String) (w : World) (es : List Event)
    (h : Administered tenantId w) :
    (∀ before after, es = before ++ after → Administered tenantId (run rt w before)) ↔
      ∀ before e after, es = before ++ e :: after →
        ¬ TakesLastAdministrator tenantId (run rt w before) e :=
  throughout_iff (I := fun _ => True) (P := fun _ => True) (fun _ _ _ _ => trivial)
    (fun _ _ _ _ hgood => administered_step rt hgood) trivial h fun _ _ => trivial

/-! ## An administrator who gives up the role -/

/-- An `/admin` request of an administrator of the tenant. -/
def AdministratorRequest (tenantId : String) (w : World) (e : Event) : Prop :=
  ∃ auth r p, e.request = .admin auth r ∧ Admitted w.db w.issued (e.env.now 0) auth .admin p ∧
    p.tenantId = tenantId

/-- The administrator has logged in. -/
def globexOpen : World := run .plain globex [globexLogin "root" "j1"]

def rootToken : Token := globexToken "u1" "root" "admin" "j1"

def byRoot (r : AdminRequest) : Event where
  env := quietEnv
  request := .admin (.bearer rootToken) r

/-- A request of the administrator, where its token is admitted. -/
theorem byRoot_request (r : AdminRequest) (w : World)
    (h : ∃ t, (Deps.require quietEnv (.bearer rootToken) .admin).run w.session =
      .ok rootToken.principal t) : AdministratorRequest "t1" w (byRoot r) := by
  obtain ⟨t, ht⟩ := h
  exact ⟨_, _, rootToken.principal, rfl, (require_eq_ok.mp ht).1, rfl⟩

/-- The administrator makes the analyst one, and itself a viewer. -/
def handover : List Event := [byRoot (.updateRole "u2" "admin"), byRoot (.updateRole "u1" "viewer")]

/-- After a handover there is still an administrator. -/
theorem last_administrator_iff_handover :
    Administered "t1" (run .plain globexOpen handover) := by
  refine (last_administrator_iff .plain "t1" globexOpen handover (by unfold Administered; decide)).mpr
    ?_ handover [] rfl
  rintro before e after he ⟨auth, p, user, _, _, hsole, hrequest⟩
  match before with
  | [] =>
    cases he
    obtain ⟨role, hrole, _, hother⟩ | ⟨hdelete, _⟩ := hrequest
    · have hadmin : role = "admin" := by
        injection hrole with _ hrole
        injection hrole with _ hrole
        exact hrole.symm
      exact hother hadmin
    · cases hdelete
  | [_] =>
    cases he
    have hana : ∃ u ∈ (run .plain globexOpen [byRoot (.updateRole "u2" "admin")]).db.users.rows,
      u.tenantId = "t1" ∧ u.role = "admin" ∧ u.id = "u2" := by decide +kernel
    have hroot : ∃ u ∈ (run .plain globexOpen [byRoot (.updateRole "u2" "admin")]).db.users.rows,
      u.tenantId = "t1" ∧ u.role = "admin" ∧ u.id = "u1" := by decide +kernel
    obtain ⟨ana, hmem, hof, hrole, hid⟩ := hana
    obtain ⟨root, hmem', hof', hrole', hid'⟩ := hroot
    have hsame : ana = root :=
      (hsole.alone ana hmem hof hrole).trans (hsole.alone root hmem' hof' hrole').symm
    rw [hsame, hid'] at hid
    exact absurd hid (by decide)
  | _ :: _ :: before =>
    have hlen := congrArg List.length he
    simp [handover] at hlen

/-- The only administrator makes itself a viewer. -/
theorem last_administrator_lost :
    ¬ ∀ (rt : Runtime) (tenantId : String) (w : World) (es : List Event), Administered tenantId w →
      (∀ before e after, es = before ++ e :: after →
        AdministratorRequest tenantId (run rt w before) e) →
      Administered tenantId (run rt w es) := by
  intro h
  have hafter := h .plain "t1" globexOpen [byRoot (.updateRole "u1" "viewer")]
    (by unfold Administered; decide) ?_
  · revert hafter
    unfold Administered
    decide +kernel
  intro before e after he
  match before with
  | [] =>
    cases he
    exact byRoot_request _ globexOpen ⟨_, rfl⟩
  | _ :: before =>
    have hlen := congrArg List.length he
    simp at hlen

end SentinelAI
