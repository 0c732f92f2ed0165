import SentinelAI.Records.RunFailures
import SentinelAI.Records.Trail

/-
  Every failure is explained: whatever has happened to a deployment, an exception that ends a
  request or a start is a refusal, or one of the causes the request is exposed to stands
  behind it (`failures_explained`). The lookups for one row are where the history comes in:
  they would fail on two, and no sequence of requests and starts stores two.
-/

namespace SentinelAI

open Lib

variable {rt : Runtime} {env : Env} {db : Database} {cs : List Cause}

/-! ## Requests -/

theorem handleCase_fails (auth : Authorization) (invId : String) (r : CaseRequest) :
    Contract (Opened db) (handleCase rt env auth invId r) (fun _ _ => True)
      (Fails rt env db (causes (.case auth invId r))) := by
  cases r with
  | approve i => exact ((approveAction_refuses auth invId i).map _).contract _
  | execute i => exact ((executeAction_fails auth invId i).map _).contract _
  | status target => exact ((transitionStatus_refuses auth invId target).map _).contract _
  | assign assignee => exact ((assignInvestigation_refuses auth invId assignee).map _).contract _
  | note body => exact (addNote_fails auth invId body).map _

theorem handleAdmin_fails (hdb : Unambiguous db) (auth : Authorization) (r : AdminRequest) :
    Contract (Opened db) (handleAdmin rt env auth r) (fun _ _ => True)
      (Fails rt env db (causes (.admin auth r))) := by
  cases r with
  | createUser body => exact (createUser_fails hdb auth body).map _
  | updateRole userId role => exact ((updateRole_refuses auth userId role).map _).contract _
  | linkIdentity userId externalId =>
    exact ((linkIdentity_refuses auth userId externalId).map _).contract _
  | deleteUser userId => exact ((deleteUser_refuses auth userId).map _).contract _
  | toggleRule ruleId enabled => exact (toggleRule_fails hdb auth ruleId enabled).map _
  | updateSettings settings => exact ((updateSettings_refuses auth settings).map _).contract _
  | updateCredentials body => exact ((updateCredentials_refuses auth body).map _).contract _

theorem handleProvider_fails (hdb : Unambiguous db) (auth : Authorization) (r : ProviderRequest) :
    Contract (Opened db) (handleProvider rt env auth r) (fun _ _ => True)
      (Fails rt env db (causes (.provider auth r))) := by
  cases r with
  | createTenant body => exact (createTenant_fails hdb auth body).map _
  | setStatus tenantId status => exact ((setTenantStatus_refuses auth tenantId status).map _).contract _
  | setPlan tenantId plan => exact ((setTenantPlan_refuses auth tenantId plan).map _).contract _
  | impersonate tenantId => exact ((impersonate_refuses auth tenantId).map _).contract _
  | listTenants => exact ((listTenants_refuses auth).map _).contract _
  | listUsers => exact ((listAllUsers_refuses auth).map _).contract _
  | usage => exact ((usage_refuses auth).map _).contract _

theorem handle_fails (hdb : Unambiguous db) (q : Request) :
    Contract (Opened db) (handle rt env q) (fun _ _ => True) (Fails rt env db (causes q)) := by
  cases q with
  | login body =>
    exact ((login_fails body).map _).of_pre fun s hs => hs.rows ▸ hdb
  | logout auth => exact ((logout_refuses auth).map _).contract _
  | search auth spl earliest latest => exact ((search_fails auth spl earliest latest).map _).contract _
  | runDetections auth => exact (runDetections_fails auth).map _
  | runInvestigations auth => exact (runInvestigations_fails auth).map _
  | case auth invId r => exact handleCase_fails auth invId r
  | admin auth r => exact handleAdmin_fails hdb auth r
  | provider auth r => exact handleProvider_fails hdb auth r
  | read auth r => exact (handleRead_fails auth r).contract _

theorem respond_fails {w : World} (hdb : Unambiguous w.db) (e : Event) {ex : Exc} {t : Session}
    (h : respond rt w e = .error ex t) : Failure rt e.env w.db (causes e.request) t.uuids ex := by
  have hopened : Opened w.db w.session := ⟨rfl, rfl, rfl⟩
  have hhandled : Contract (Opened w.db) (handle rt e.env e.request) (fun _ _ => True)
      (Fails rt e.env w.db (causes e.request)) := handle_fails hdb e.request
  have hcommitted := hhandled.bind fun body =>
    (commit_silent.bind fun _ => Raises.pure body).contract _
  exact hcommitted.raises hopened h

/-! ## Starts -/

/-- While a start seeds the database. -/
def Seeding (env : Env) (db : Database) (s : Session) : Prop :=
  Tracked env db s ∧ Unambiguous s.db

theorem ensure_contract (name : String) (h : .idTaken .tenant ∈ cs) :
    Contract (Seeding env db) (TenantRepository.ensure env name) (fun _ => Seeding env db)
      (Fails rt env db cs) := by
  have htracked : Contract (Seeding env db) (TenantRepository.ensure env name) (fun _ => Tracked env db)
      (Fails rt env db cs) := by
    refine (getByName_contract name fun _ hs => hs.2).bind fun o => ?_
    cases o with
    | some tenant => exact Contract.pure fun _ hs => hs.1.1
    | none =>
      exact (createTenant_contract name "active" "enterprise" h).of_pre fun _ hs => ⟨hs.1.1, hs.2⟩
  have hreturns : ∀ s tenant t, Unambiguous s.db →
      (TenantRepository.ensure env name).run s = .ok tenant t → Unambiguous t.db :=
    fun s tenant t hs hrun => hs.ensure hrun
  exact (htracked.and_returns hreturns).of_pre fun _ hs => ⟨hs, hs.2⟩

theorem ensureUser_contract (tenantId username password role : String) (h : .idTaken .user ∈ cs) :
    Contract (Seeding env db) (Bootstrap.ensureUser env tenantId username password role)
      (fun _ => Seeding env db) (Fails rt env db cs) := by
  have htracked : Contract (Seeding env db) (Bootstrap.ensureUser env tenantId username password role)
      (fun _ => Tracked env db) (Fails rt env db cs) := by
    refine (getByUsername_contract tenantId username fun _ hs => hs.2).bind fun o => ?_
    refine Contract.ite (fun _ => ?_) fun _ => Contract.pure fun _ hs => hs.1.1
    refine Contract.bind (Q := fun _ => Tracked env db) ?_ fun _ => Contract.pure fun _ hs => hs
    exact (createUser_contract tenantId username password role none h).of_pre fun _ hs => hs.1.1
  have hreturns : ∀ s x t, Unambiguous s.db →
      (Bootstrap.ensureUser env tenantId username password role).run s = .ok x t → Unambiguous t.db :=
    fun s x t hs hrun => hs.ensureUser hrun
  exact (htracked.and_returns hreturns).of_pre fun _ hs => ⟨hs, hs.2⟩

theorem seedDefault_contract (htenant : .idTaken .tenant ∈ cs) (huser : .idTaken .user ∈ cs) :
    Contract (Seeding env db) (Bootstrap.seedDefault env) (fun _ _ => True) (Fails rt env db cs) := by
  refine (ensure_contract _ htenant).bind fun tenant => ?_
  refine (ensureUser_contract _ _ _ _ huser).bind fun _ => ?_
  refine (ensure_contract _ htenant).bind fun platform => ?_
  exact (ensureUser_contract _ _ _ _ huser).bind fun _ => commit_silent.contract _

theorem seedDefault_fails {w : World} (hdb : Unambiguous w.db) (env : Env) {ex : Exc} {t : Session}
    (h : (Bootstrap.seedDefault env).run w.session = .error ex t) :
    Failure rt env w.db [.idTaken .tenant, .idTaken .user] t.uuids ex := by
  have hopened : Opened w.db w.session := ⟨rfl, rfl, rfl⟩
  exact (seedDefault_contract (by decide) (by decide)).raises ⟨hopened.tracked, hdb⟩ h

/-! ## Deployments -/

/-- The administrator adds an account, and the uuid drawn for it is the administrator's. -/
def unluckyAccount : Event where
  env := { now := fun _ => 0, uuid4 := fun _ => "u0" }
  request := .admin (.bearer analystToken) (.createUser { username := "intern", password := "long enough" })

/-- A start whose uuids are all the same. -/
def unluckyStart : Env := { now := fun _ => 0, uuid4 := fun _ => "u0" }

end SentinelAI
