import SentinelAI.Security.CaseOps
import SentinelAI.Security.Isolation

/-
  The operations that take a tenant's id, of every repository and service, and that each is
  confined to the tenant: it ends alike in sessions the tenant cannot tell apart, provided
  the keys it inserts under are free.
-/

namespace SentinelAI

open Lib

variable {tenantId : String} {o o' : OtherRows}

/-- A clause that starts with the tenant's. -/
theorem ofTenant_of_and {ρ : Type} [TenantOwned ρ] {r : ρ} {b : Bool}
    (h : (TenantOwned.tenantId r == tenantId && b) = true) : ofTenant tenantId r = true :=
  (Bool.and_eq_true_iff.mp h).1

/-! ## Users -/

namespace UserRepository

theorem getByUsername_confined (username : String) :
    Agree (Isolated tenantId o o') (fun a b => a = b ∧ ∀ r ∈ a, Own Tables.users tenantId o o' r)
      (getByUsername tenantId username) (getByUsername tenantId username) :=
  selectOne_confined fun _ h => ofTenant_of_and h

theorem get_confined (userId : String) :
    Agree (Isolated tenantId o o') (fun a b => a = b ∧ ∀ r ∈ a, Own Tables.users tenantId o o' r)
      (get tenantId userId) (get tenantId userId) :=
  selectOne_confined fun _ h => ofTenant_of_and h

theorem getByExternalId_confined (externalId : String) :
    Agree (Isolated tenantId o o') (fun a b => a = b ∧ ∀ r ∈ a, Own Tables.users tenantId o o' r)
      (getByExternalId tenantId externalId) (getByExternalId tenantId externalId) :=
  selectOne_confined fun _ h => ofTenant_of_and h

theorem list_confined : Confined tenantId o o' (list tenantId) := by
  refine (selectAll_confined (T := Tables.users) fun _ h => h).bind ?_
  rintro rows _ ⟨rfl, _⟩
  exact Agree.pure rfl

theorem create_confined (env : Env) (username password role : String) (externalId : Option String)
    (hfree : ∀ n, Free Tables.users o o' (env.uuid4 n)) :
    Confined tenantId o o' (create env tenantId username password role externalId) := by
  refine (uuidHex_confined env).bind ?_
  rintro id _ ⟨rfl, n, rfl⟩
  refine Agree.bind_eq (readClock_confined env) fun now => ?_
  exact Agree.bind_eq (insertRow_confined ⟨rfl, hfree n⟩) fun _ => Agree.pure rfl

theorem authenticate_confined (rt : Runtime) (username password : String) :
    Confined tenantId o o' (authenticate rt tenantId username password) := by
  refine (getByUsername_confined username).bind ?_
  rintro (_ | user) _ ⟨rfl, _⟩
  · exact Agree.pure rfl
  · exact Agree.pure rfl

theorem update_confined (userId : String) (f : UserRow → UserRow) (hf : ∀ r, (f r).id = r.id)
    (hown : ∀ r, (f r).tenantId = r.tenantId) :
    Confined tenantId o o' (update tenantId userId f hf) := by
  refine (get_confined userId).bind ?_
  rintro (_ | user) _ ⟨rfl, huser⟩
  · exact Agree.pure rfl
  · refine Agree.bind_eq (updateRow_confined (huser user rfl).free _ fun r hr => ?_) fun _ =>
      Agree.pure rfl
    exact (hown r).trans hr

theorem delete_confined (userId : String) : Confined tenantId o o' (delete tenantId userId) := by
  refine (get_confined userId).bind ?_
  rintro (_ | user) _ ⟨rfl, huser⟩
  · exact Agree.pure rfl
  · exact Agree.bind_eq (deleteRow_confined (huser user rfl).free) fun _ => Agree.pure rfl

end UserRepository

/-! ## Investigations -/

namespace InvestigationRepository

theorem getRow_confined (invId : String) :
    Agree (Isolated tenantId o o')
      (fun a b => a = b ∧ ∀ r ∈ a, Own Tables.investigations tenantId o o' r)
      (getRow tenantId invId) (getRow tenantId invId) :=
  selectOne_confined fun _ h => ofTenant_of_and h

/-- The flush of a row with the columns that say whose it is. -/
theorem flush_confined {row new : InvestigationRow}
    (h : Own Tables.investigations tenantId o o' row) (hid : new.id = row.id)
    (htenant : new.tenantId = row.tenantId) : Confined tenantId o o' (flush new) := by
  have hfree : Free Tables.investigations o o' new.id := by
    rw [hid]
    exact h.free
  exact updateRow_confined hfree _ fun _ _ => htenant.trans h.tenantId

theorem save_confined (env : Env) (inv : Investigation)
    (hfree : Free Tables.investigations o o' inv.id) :
    Confined tenantId o o' (save env tenantId inv) := by
  refine (getRow_confined inv.id).bind ?_
  rintro (_ | row) _ ⟨rfl, hrow⟩
  · refine Agree.bind_eq (readClock_confined env) fun now => ?_
    exact Agree.bind_eq (insertRow_confined ⟨rfl, hfree⟩) fun _ => Agree.pure rfl
  · exact Agree.bind_eq (flush_confined (hrow row rfl) rfl rfl) fun _ => Agree.pure rfl

theorem get_confined (invId : String) : Confined tenantId o o' (get tenantId invId) := by
  refine (getRow_confined invId).bind ?_
  rintro (_ | row) _ ⟨rfl, _⟩
  · exact Agree.pure rfl
  · exact Agree.pure rfl

theorem list_confined (status severity assignee : Option String) (limit offset : Nat) :
    Confined tenantId o o' (list tenantId status severity assignee limit offset) := by
  refine (selectAll_confined (T := Tables.investigations) fun _ h => ?_).bind ?_
  · exact ofTenant_of_and (Bool.and_eq_true_iff.mp (Bool.and_eq_true_iff.mp h).1).1
  · rintro rows _ ⟨rfl, _⟩
    exact Agree.pure rfl

theorem setAssignee_confined (invId : String) (assignee : Option String) :
    Confined tenantId o o' (setAssignee tenantId invId assignee) := by
  refine (getRow_confined invId).bind ?_
  rintro (_ | row) _ ⟨rfl, hrow⟩
  · exact Agree.pure rfl
  · exact Agree.bind_eq (flush_confined (hrow row rfl) rfl rfl) fun _ => Agree.pure rfl

theorem approveAction_confined (invId : String) (i : Int) :
    Confined tenantId o o' (approveAction tenantId invId i) := by
  refine (getRow_confined invId).bind ?_
  rintro (_ | row) _ ⟨rfl, hrow⟩
  · exact Agree.pure rfl
  · dsimp only
    cases hnew : approveRow i row with
    | none => exact Agree.pure rfl
    | some new =>
      have hfixed := compute_fixed (show (CaseOp.approve i).compute row = some new from hnew)
      exact Agree.bind_eq (flush_confined (hrow row rfl) hfixed.id hfixed.tenantId) fun _ =>
        Agree.pure rfl

theorem executeAction_confined (env : Env) (invId : String) (i : Int) :
    Confined tenantId o o' (executeAction env tenantId invId i) := by
  refine (getRow_confined invId).bind ?_
  rintro (_ | row) _ ⟨rfl, hrow⟩
  · exact Agree.pure rfl
  · dsimp only
    cases executableAction i row with
    | error e => exact Agree.pure rfl
    | ok a =>
      refine Agree.bind_eq (execute_confined env a.actionType a.target) fun result => ?_
      have hfixed := executeRow_fixed i a result row
      exact Agree.bind_eq (flush_confined (hrow row rfl) hfixed.id hfixed.tenantId) fun _ =>
        Agree.pure rfl

theorem addNote_confined (env : Env) (invId author body : String)
    (hfree : ∀ n, Free Tables.caseNotes o o' (env.uuid4 n)) :
    Confined tenantId o o' (addNote env tenantId invId author body) := by
  refine (getRow_confined invId).bind ?_
  rintro (_ | row) _ ⟨rfl, _⟩
  · exact Agree.pure rfl
  · refine (uuidHex_confined env).bind ?_
    rintro id _ ⟨rfl, n, rfl⟩
    refine Agree.bind_eq (readClock_confined env) fun now => ?_
    exact Agree.bind_eq (insertRow_confined ⟨rfl, hfree n⟩) fun _ => Agree.pure rfl

theorem listNotes_confined (invId : String) :
    Confined tenantId o o' (listNotes tenantId invId) := by
  refine (selectAll_confined (T := Tables.caseNotes) fun _ h => ofTenant_of_and h).bind ?_
  rintro rows _ ⟨rfl, _⟩
  exact Agree.pure rfl

end InvestigationRepository

/-! ## Incidents, workflow, rules -/

namespace IncidentRepository

theorem replaceAll_confined (env : Env) (incidents : List Incident)
    (hfree : ∀ inc ∈ incidents, Free Tables.incidents o o' inc.id) :
    Confined tenantId o o' (replaceAll env tenantId incidents) := by
  refine (selectAll_confined (T := Tables.incidents) fun _ h => h).bind ?_
  rintro rows _ ⟨rfl, hrows⟩
  refine Agree.bind_eq (Agree.forM_mem _ fun row hrow => ?_) fun _ =>
    Agree.forM_mem _ fun inc hinc => ?_
  · exact deleteRow_confined (hrows row hrow).free
  · exact Agree.bind_eq (readClock_confined env) fun now =>
      insertRow_confined ⟨rfl, hfree inc hinc⟩

theorem list_confined : Confined tenantId o o' (list tenantId) := by
  refine (selectAll_confined (T := Tables.incidents) fun _ h => h).bind ?_
  rintro rows _ ⟨rfl, _⟩
  exact Agree.pure rfl

theorem get_confined (incidentId : String) : Confined tenantId o o' (get tenantId incidentId) := by
  refine (selectOne_confined (T := Tables.incidents) fun _ h => ofTenant_of_and h).bind ?_
  rintro row _ ⟨rfl, _⟩
  exact Agree.pure rfl

end IncidentRepository

namespace CaseWorkflowMixin

theorem transitionStatus_confined (env : Env) (invId target : String) :
    Confined tenantId o o' (transitionStatus env tenantId invId target) := by
  refine (InvestigationRepository.getRow_confined invId).bind ?_
  rintro (_ | row) _ ⟨rfl, hrow⟩
  · exact Agree.pure rfl
  · dsimp only
    cases legalTransition target row with
    | error e => exact Agree.pure rfl
    | ok status =>
      refine Agree.bind_eq (readClock_confined env) fun now => ?_
      exact Agree.bind_eq (InvestigationRepository.flush_confined (hrow row rfl) rfl rfl) fun _ =>
        Agree.pure rfl

theorem sla_confined (env : Env) (invId : String) :
    Confined tenantId o o' (sla env tenantId invId) := by
  refine (InvestigationRepository.getRow_confined invId).bind ?_
  rintro (_ | row) _ ⟨rfl, _⟩
  · exact Agree.pure rfl
  · exact Agree.bind_eq (readClock_confined env) fun now => Agree.pure rfl

end CaseWorkflowMixin

namespace RuleStateRepository

theorem disabledRuleIds_confined : Confined tenantId o o' (disabledRuleIds tenantId) := by
  refine (selectAll_confined (T := Tables.ruleStates) fun _ h => ofTenant_of_and h).bind ?_
  rintro rows _ ⟨rfl, _⟩
  exact Agree.pure rfl

theorem setEnabled_confined (env : Env) (ruleId : String) (enabled : Bool)
    (hfree : ∀ n, Free Tables.ruleStates o o' (env.uuid4 n)) :
    Confined tenantId o o' (setEnabled env tenantId ruleId enabled) := by
  refine (selectOne_confined (T := Tables.ruleStates) fun _ h => ofTenant_of_and h).bind ?_
  rintro (_ | row) _ ⟨rfl, hrow⟩
  · refine (uuidHex_confined env).bind ?_
    rintro id _ ⟨rfl, n, rfl⟩
    exact insertRow_confined ⟨rfl, hfree n⟩
  · exact updateRow_confined (hrow row rfl).free _ fun _ hr => hr

end RuleStateRepository

/-! ## Credentials -/

namespace CredentialRepository

/-- A tenant's credentials are under the tenant's id, which is nobody else's key. -/
theorem getRow_confined :
    Agree (Isolated tenantId o o')
      (fun a b => a = b ∧ Free Tables.tenantCredentials o o' tenantId ∧
        ∀ r ∈ a, r.tenantId = tenantId)
      (getRow tenantId) (getRow tenantId) := by
  intro s t h
  have hT := h.tenantCredentials
  have hfree : Free Tables.tenantCredentials o o' tenantId := by
    have other : ∀ {t : KeyedTable TenantCredentialRow} {o : List TenantCredentialRow},
        (t.select fun r => !ofTenant tenantId r) = o → ∀ r ∈ o, Keyed.key r ≠ tenantId := by
      rintro t o rfl r hr hk
      obtain ⟨_, hp⟩ := KeyedTable.mem_select.mp hr
      have hr : r.tenantId = tenantId := hk
      simp [ofTenant, TenantOwned.tenantId, hr] at hp
    exact ⟨other hT.left, other hT.right⟩
  refine ⟨⟨hT.find?_eq hfree, hfree, fun r hr => ?_⟩, h⟩
  exact ((s.db.tenantCredentials.find?_eq_some tenantId r).mp hr).2

theorem view_confined : Confined tenantId o o' (view tenantId) := by
  refine getRow_confined.bind ?_
  rintro (_ | row) _ ⟨rfl, _⟩
  · exact Agree.pure rfl
  · exact Agree.pure rfl

theorem upsert_confined (env : Env) (u : UpdateCredentials) :
    Confined tenantId o o' (upsert env tenantId u) := by
  refine getRow_confined.bind ?_
  rintro (_ | row) _ ⟨rfl, hfree, hrow⟩
  · exact Agree.bind_eq (insertRow_confined ⟨rfl, hfree⟩) fun _ => Agree.pure rfl
  · have hkey : Free Tables.tenantCredentials o o' row.tenantId := by
      rw [hrow row rfl]
      exact hfree
    exact Agree.bind_eq (updateRow_confined hkey _ fun _ hr => hr) fun _ => Agree.pure rfl

end CredentialRepository

/-! ## Audit, metering, quotas -/

namespace AuditService

theorem recordRow_confined (rt : Runtime) (env : Env) (e : AuditEntry) :
    Confined e.tenantId o o' (recordRow rt env e) := by
  refine Agree.bind_eq (query_confined fun s t h => ?_) fun prevHash => ?_
  · unfold lastHash
    rw [h.auditLog.select_eq (q := AuditService.ofTenant e.tenantId) fun _ hr => hr]
  refine Agree.bind_eq (readClock_confined env) fun now => ?_
  exact Agree.bind_eq (insertAuto_confined rfl) fun _ => Agree.pure rfl

/-- One page, up to the ids. -/
theorem listEntries_confined (limit offset : Nat) :
    Agree (Isolated tenantId o o') (fun a b => a.map Prod.snd = b.map Prod.snd)
      (listEntries tenantId limit offset) (listEntries tenantId limit offset) := by
  intro s t h
  have hrows := h.auditLog.selectRows_eq (q := AuditService.ofTenant tenantId) fun _ hr => hr
  have hpage : (list s.db.auditLog tenantId limit offset).map Prod.snd =
      (list t.db.auditLog tenantId limit offset).map Prod.snd := by
    unfold list
    rw [List.map_take, List.map_drop, List.map_reverse, hrows, List.map_take, List.map_drop,
      List.map_reverse]
  exact ⟨hpage, h⟩

theorem chainValid_confined (rt : Runtime) : Confined tenantId o o' (chainValid rt tenantId) := by
  refine query_confined fun s t h => ?_
  unfold verifyChain
  rw [h.auditLog.select_eq (q := AuditService.ofTenant tenantId) fun _ hr => hr]

end AuditService

namespace MeteringService

theorem record_confined (rt : Runtime) (env : Env) (kind : String) (quantity : Int)
    (detail : String) : Confined tenantId o o' (record rt env tenantId kind quantity detail) := by
  refine Agree.ite (Agree.pure rfl) (Agree.bind_eq (readClock_confined env) fun now => ?_)
  exact Agree.bind_eq (insertAuto_confined rfl) fun _ => Agree.pure rfl

theorem rollup_confined (since until_ : Option Time) :
    Confined tenantId o o' (rollup tenantId since until_) := by
  refine (selectIds_confined (T := Tables.usageEvents) fun _ h => ?_).bind fun a b h => ?_
  · exact ofTenant_of_and (Bool.and_eq_true_iff.mp h).1
  · dsimp only
    rw [h]
    exact Agree.pure rfl

end MeteringService

namespace QuotaService

theorem usedThisMonth_confined (env : Env) (kind : String) :
    Confined tenantId o o' (usedThisMonth env tenantId kind) := by
  refine Agree.bind_eq (readClock_confined env) fun now => ?_
  refine (selectIds_confined (T := Tables.usageEvents) fun _ h => ?_).bind fun a b h => ?_
  · exact ofTenant_of_and (Bool.and_eq_true_iff.mp h).1
  · have hsum : (a.map Prod.snd).map UsageEventRow.quantity =
        (b.map Prod.snd).map UsageEventRow.quantity := congrArg _ h
    rw [List.map_map, List.map_map] at hsum
    exact Agree.pure (congrArg List.sum hsum)

theorem status_confined (env : Env) (plan kind : String) (want : Int) :
    Confined tenantId o o' (status env tenantId plan kind want) :=
  Agree.bind_eq (usedThisMonth_confined env kind) fun _ => Agree.ite (Agree.pure rfl) (Agree.pure rfl)

theorem checkOrRaise_confined (env : Env) (plan kind : String) (want : Int) :
    Confined tenantId o o' (checkOrRaise env tenantId plan kind want) :=
  Agree.bind_eq (status_confined env plan kind want) fun _ =>
    Agree.bind_eq (raiseIf_confined _ _) fun _ => Agree.pure rfl

end QuotaService

end SentinelAI
