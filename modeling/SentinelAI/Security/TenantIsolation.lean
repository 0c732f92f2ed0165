import SentinelAI.Lib.Purge
import SentinelAI.Security.TenantOps

/-
  Tenant isolation at the data layer. An operation of a tenant leaves every row that is not
  the tenant's as it was, and what it answers and writes depends on the tenant's rows alone;
  so in any interleaving of several tenants' operations each of them observes what it would
  observe by itself.

  What an operation answers is compared up to the auto-increment ids in it. Generated keys
  come from the operation's own environment, so both sides draw the same ones; they are
  required not to be keys another tenant has used.
-/

namespace SentinelAI

open Lib

/-! ## The operations -/

/-- The methods that take a tenant's id, with their other arguments. -/
inductive TenantOp where
  -- `UserRepository`
  | getByUsername (username : String)
  | createUser (username password role : String) (externalId : Option String)
  | authenticate (username password : String)
  | listUsers
  | getUser (userId : String)
  | setRole (userId role : String)
  | deleteUser (userId : String)
  | getByExternalId (externalId : String)
  | linkExternalId (userId externalId : String)
  -- `InvestigationRepository`
  | save (inv : Investigation)
  | getInvestigation (invId : String)
  | listInvestigations (status severity assignee : Option String) (limit offset : Nat)
  | setAssignee (invId : String) (assignee : Option String)
  | approveAction (invId : String) (i : Int)
  | executeAction (invId : String) (i : Int)
  | addNote (invId author body : String)
  | listNotes (invId : String)
  -- `IncidentRepository`
  | replaceAll (incidents : List Incident)
  | listIncidents
  | getIncident (incidentId : String)
  -- `CaseWorkflowMixin`
  | transitionStatus (invId target : String)
  | sla (invId : String)
  -- `RuleStateRepository`
  | disabledRuleIds
  | setEnabled (ruleId : String) (enabled : Bool)
  -- `CredentialRepository`
  | getCredentials
  | viewCredentials
  | upsertCredentials (u : UpdateCredentials)
  -- `AuditService`
  | recordAudit (actor action targetType targetId : String)
      (detail : Option (List (String × JsonValue)))
  | listAudit (limit offset : Nat)
  | verifyChain
  -- `MeteringService`
  | recordUsage (kind : String) (quantity : Int) (detail : String)
  | rollup (since until_ : Option Time)
  -- `QuotaService`
  | quotaStatus (plan kind : String) (want : Int)
  | checkOrRaise (plan kind : String) (want : Int)

/-- What an operation returns. -/
inductive Answer where
  | done
  | flag (b : Bool)
  | user (r : Option UserRow)
  | newUser (r : UserRow)
  | users (rs : List UserRow)
  | row (r : InvestigationRow)
  | investigation (r : Option Investigation)
  | page (r : List Investigation × Nat)
  | outcome (r : Except CaseError Investigation)
  | note (r : Option CaseNoteRow)
  | notes (rs : List CaseNoteRow)
  | incident (r : Option Incident)
  | incidents (rs : List Incident)
  | sla (r : Option Sla)
  | ruleIds (rs : List String)
  | credentials (r : Option TenantCredentialRow)
  | newCredentials (r : TenantCredentialRow)
  | view (r : CredentialView)
  | entry (r : AuditLogRow)
  | entries (rs : List (Nat × AuditLogRow))
  | usage (r : Option UsageEventRow)
  | rollup (r : UsageRollup)
  | quota (r : QuotaStatus)

/-- An answer without the auto-increment ids in it. -/
def Answer.unnumbered : Answer → Answer
  | .entries rs => .entries (rs.map fun r => (0, r.2))
  | a => a

/-- The method, called for a tenant. -/
def TenantOp.run (rt : Runtime) (env : Env) (tenantId : String) : TenantOp → ApiM Answer
  | .getByUsername username => .user <$> UserRepository.getByUsername tenantId username
  | .createUser username password role externalId =>
    .newUser <$> UserRepository.create env tenantId username password role externalId
  | .authenticate username password =>
    .user <$> UserRepository.authenticate rt tenantId username password
  | .listUsers => .users <$> UserRepository.list tenantId
  | .getUser userId => .user <$> UserRepository.get tenantId userId
  | .setRole userId role => .user <$> UserRepository.setRole tenantId userId role
  | .deleteUser userId => .flag <$> UserRepository.delete tenantId userId
  | .getByExternalId externalId => .user <$> UserRepository.getByExternalId tenantId externalId
  | .linkExternalId userId externalId =>
    .user <$> UserRepository.linkExternalId tenantId userId externalId
  | .save inv => .row <$> InvestigationRepository.save env tenantId inv
  | .getInvestigation invId => .investigation <$> InvestigationRepository.get tenantId invId
  | .listInvestigations status severity assignee limit offset =>
    .page <$> InvestigationRepository.list tenantId status severity assignee limit offset
  | .setAssignee invId assignee =>
    .investigation <$> InvestigationRepository.setAssignee tenantId invId assignee
  | .approveAction invId i =>
    .investigation <$> InvestigationRepository.approveAction tenantId invId i
  | .executeAction invId i =>
    .outcome <$> InvestigationRepository.executeAction env tenantId invId i
  | .addNote invId author body =>
    .note <$> InvestigationRepository.addNote env tenantId invId author body
  | .listNotes invId => .notes <$> InvestigationRepository.listNotes tenantId invId
  | .replaceAll incidents =>
    (fun _ => .done) <$> IncidentRepository.replaceAll env tenantId incidents
  | .listIncidents => .incidents <$> IncidentRepository.list tenantId
  | .getIncident incidentId => .incident <$> IncidentRepository.get tenantId incidentId
  | .transitionStatus invId target =>
    .outcome <$> CaseWorkflowMixin.transitionStatus env tenantId invId target
  | .sla invId => .sla <$> CaseWorkflowMixin.sla env tenantId invId
  | .disabledRuleIds => .ruleIds <$> RuleStateRepository.disabledRuleIds tenantId
  | .setEnabled ruleId enabled =>
    (fun _ => .done) <$> RuleStateRepository.setEnabled env tenantId ruleId enabled
  | .getCredentials => .credentials <$> CredentialRepository.getRow tenantId
  | .viewCredentials => .view <$> CredentialRepository.view tenantId
  | .upsertCredentials u => .newCredentials <$> CredentialRepository.upsert env tenantId u
  | .recordAudit actor action targetType targetId detail =>
    .entry <$> AuditService.recordRow rt env ⟨tenantId, actor, action, targetType, targetId, detail⟩
  | .listAudit limit offset => .entries <$> AuditService.listEntries tenantId limit offset
  | .verifyChain => .flag <$> AuditService.chainValid rt tenantId
  | .recordUsage kind quantity detail =>
    .usage <$> MeteringService.record rt env tenantId kind quantity detail
  | .rollup since until_ => .rollup <$> MeteringService.rollup tenantId since until_
  | .quotaStatus plan kind want => .quota <$> QuotaService.status env tenantId plan kind want
  | .checkOrRaise plan kind want => .quota <$> QuotaService.checkOrRaise env tenantId plan kind want

/-- No row of the others has the key. -/
def Unused {ρ : Type} [Keyed ρ String] [TenantOwned ρ] (T : TableRef (KeyedTable ρ)) [Scoped T]
    (o : OtherRows) (k : String) : Prop := ∀ r ∈ Scoped.rest T o, Keyed.key r ≠ k

/-- The keys the operation inserts under are unused. -/
def TenantOp.Fresh (env : Env) (o : OtherRows) : TenantOp → Prop
  | .createUser .. => ∀ n, Unused Tables.users o (env.uuid4 n)
  | .save inv => Unused Tables.investigations o inv.id
  | .addNote .. => ∀ n, Unused Tables.caseNotes o (env.uuid4 n)
  | .replaceAll incidents => ∀ inc ∈ incidents, Unused Tables.incidents o inc.id
  | .setEnabled .. => ∀ n, Unused Tables.ruleStates o (env.uuid4 n)
  | _ => True

/-- Every operation with fresh keys ends alike where the tenant's rows are the same. -/
theorem TenantOp.run_confined (rt : Runtime) (env : Env) {tenantId : String} {o o' : OtherRows}
    (op : TenantOp) (h : op.Fresh env o) (h' : op.Fresh env o') :
    Agree (Isolated tenantId o o') (fun a b => a.unnumbered = b.unnumbered)
      (op.run rt env tenantId) (op.run rt env tenantId) := by
  have same : ∀ {α : Type} {m : ApiM α} (f : α → Answer), Confined tenantId o o' m →
      Agree (Isolated tenantId o o') (fun a b => a.unnumbered = b.unnumbered) (f <$> m) (f <$> m) :=
    fun f hm => hm.map f f fun a b hab => congrArg (fun x => (f x).unnumbered) hab
  cases op with
  | getByUsername username =>
    exact same _ ((UserRepository.getByUsername_confined username).mono fun _ _ h => h.1)
  | createUser username password role externalId =>
    exact same _ (UserRepository.create_confined env username password role externalId fun n =>
      ⟨h n, h' n⟩)
  | authenticate username password =>
    exact same _ (UserRepository.authenticate_confined rt username password)
  | listUsers => exact same _ UserRepository.list_confined
  | getUser userId => exact same _ ((UserRepository.get_confined userId).mono fun _ _ h => h.1)
  | setRole userId role => exact same _ (UserRepository.update_confined userId _ _ fun _ => rfl)
  | deleteUser userId => exact same _ (UserRepository.delete_confined userId)
  | getByExternalId externalId =>
    exact same _ ((UserRepository.getByExternalId_confined externalId).mono fun _ _ h => h.1)
  | linkExternalId userId externalId =>
    exact same _ (UserRepository.update_confined userId _ _ fun _ => rfl)
  | save inv => exact same _ (InvestigationRepository.save_confined env inv ⟨h, h'⟩)
  | getInvestigation invId => exact same _ (InvestigationRepository.get_confined invId)
  | listInvestigations status severity assignee limit offset =>
    exact same _ (InvestigationRepository.list_confined status severity assignee limit offset)
  | setAssignee invId assignee =>
    exact same _ (InvestigationRepository.setAssignee_confined invId assignee)
  | approveAction invId i => exact same _ (InvestigationRepository.approveAction_confined invId i)
  | executeAction invId i =>
    exact same _ (InvestigationRepository.executeAction_confined env invId i)
  | addNote invId author body =>
    exact same _ (InvestigationRepository.addNote_confined env invId author body fun n =>
      ⟨h n, h' n⟩)
  | listNotes invId => exact same _ (InvestigationRepository.listNotes_confined invId)
  | replaceAll incidents =>
    exact same _ (IncidentRepository.replaceAll_confined env incidents fun inc hinc =>
      ⟨h inc hinc, h' inc hinc⟩)
  | listIncidents => exact same _ IncidentRepository.list_confined
  | getIncident incidentId => exact same _ (IncidentRepository.get_confined incidentId)
  | transitionStatus invId target =>
    exact same _ (CaseWorkflowMixin.transitionStatus_confined env invId target)
  | sla invId => exact same _ (CaseWorkflowMixin.sla_confined env invId)
  | disabledRuleIds => exact same _ RuleStateRepository.disabledRuleIds_confined
  | setEnabled ruleId enabled =>
    exact same _ (RuleStateRepository.setEnabled_confined env ruleId enabled fun n => ⟨h n, h' n⟩)
  | getCredentials => exact same _ (CredentialRepository.getRow_confined.mono fun _ _ h => h.1)
  | viewCredentials => exact same _ CredentialRepository.view_confined
  | upsertCredentials u => exact same _ (CredentialRepository.upsert_confined env u)
  | recordAudit actor action targetType targetId detail =>
    exact same _ (AuditService.recordRow_confined rt env
      ⟨tenantId, actor, action, targetType, targetId, detail⟩)
  | listAudit limit offset =>
    refine (AuditService.listEntries_confined limit offset).map _ _ fun a b hab => ?_
    have hzero := congrArg (List.map fun r => ((0 : Nat), r)) hab
    rw [List.map_map, List.map_map] at hzero
    exact congrArg Answer.entries hzero
  | verifyChain => exact same _ (AuditService.chainValid_confined rt)
  | recordUsage kind quantity detail =>
    exact same _ (MeteringService.record_confined rt env kind quantity detail)
  | rollup since until_ => exact same _ (MeteringService.rollup_confined since until_)
  | quotaStatus plan kind want => exact same _ (QuotaService.status_confined env plan kind want)
  | checkOrRaise plan kind want =>
    exact same _ (QuotaService.checkOrRaise_confined env plan kind want)

/-! ## Sequences -/

/-- An operation of a tenant, and what the world does while it runs. -/
structure Call where
  tenantId : String
  env : Env
  op : TenantOp

/-- The call in a session of its own. -/
def Call.perform (rt : Runtime) (db : Database) (c : Call) : EStateM.Result Exc Session Answer :=
  (c.op.run rt c.env c.tenantId).run (.start db [] [])

/-- The rows after the call: its session's if it returned, and those of before if it raised. -/
def Call.after (rt : Runtime) (db : Database) (c : Call) : Database :=
  match c.perform rt db with
  | .ok _ s => s.db
  | .error _ _ => db

/-- What the call is answered, up to auto-increment ids. -/
def Call.answer (rt : Runtime) (db : Database) (c : Call) : Except Exc Answer :=
  match c.perform rt db with
  | .ok a _ => .ok a.unnumbered
  | .error e _ => .error e

/-- The rows after a sequence of calls. -/
def afterCalls (rt : Runtime) (db : Database) (cs : List Call) : Database :=
  cs.foldl (Call.after rt) db

/-- What the calls of a tenant are answered, in a sequence of calls. -/
def observed (rt : Runtime) (tenantId : String) (db : Database) (cs : List Call) :
    List (Except Exc Answer) :=
  outputs (Call.after rt) (Call.answer rt) (fun c => c.tenantId == tenantId) db cs

/-- No call inserts under a key another tenant has, or had at some point of the sequence. -/
def FreshKeys (rt : Runtime) (db : Database) (cs : List Call) : Prop :=
  ∀ before c after, cs = before ++ c :: after → ∀ earlier, earlier <+: before →
    c.op.Fresh c.env ((afterCalls rt db earlier).rowsBut c.tenantId)

/-- What other tenants' rows determine: a tenant's rows, up to auto-increment ids. -/
theorem rowsOf_of_rowsBut {db db' : Database} {tenantId other : String} (hne : other ≠ tenantId)
    (h : db.rowsBut other = db'.rowsBut other) : db.rowsOf tenantId = db'.rowsOf tenantId := by
  have keyed : ∀ {ρ : Type} [Keyed ρ String] [TenantOwned ρ] {t t' : KeyedTable ρ},
      (t.select fun r => !ofTenant other r) = (t'.select fun r => !ofTenant other r) →
      t.select (ofTenant tenantId) = t'.select (ofTenant tenantId) := by
    intro ρ _ _ t t' h
    have hle : ∀ r : ρ, ofTenant tenantId r = true → (!ofTenant other r) = true := by
      intro r hr
      have hr : TenantOwned.tenantId r = tenantId := by simpa [ofTenant] using hr
      simp [ofTenant, hr, Ne.symm hne]
    rw [t.select_of_le hle, t'.select_of_le hle, h]
  have auto : ∀ {α : Type} [TenantOwned α] {t t' : AutoTable α},
      (t.selectRows fun r => !ofTenant other r) = (t'.selectRows fun r => !ofTenant other r) →
      t.select (ofTenant tenantId) = t'.select (ofTenant tenantId) := by
    intro α _ t t' h
    have hle : ∀ r : α, ofTenant tenantId r = true → (!ofTenant other r) = true := by
      intro r hr
      have hr : TenantOwned.tenantId r = tenantId := by simpa [ofTenant] using hr
      simp [ofTenant, hr, Ne.symm hne]
    rw [t.select_of_le hle, t'.select_of_le hle, AutoTable.select_eq_map_selectRows,
      AutoTable.select_eq_map_selectRows, h]
  injection h with h₁ h₂ h₃ h₄ h₅ h₆ h₇ h₈
  unfold Database.rowsOf
  rw [keyed h₁, keyed h₂, keyed h₃, keyed h₄, keyed h₅, auto h₆, auto h₇, keyed h₈]

/-- Two runs of an operation where the tenant's rows are the same. -/
theorem TenantOp.run_isolated (rt : Runtime) (env : Env) {tenantId : String} (op : TenantOp)
    {s t : Session} (hs : op.Fresh env (s.db.rowsBut tenantId))
    (ht : op.Fresh env (t.db.rowsBut tenantId))
    (hown : s.db.rowsOf tenantId = t.db.rowsOf tenantId) (hticks : s.ticks = t.ticks)
    (huuids : s.uuids = t.uuids) :
    Matches (Isolated tenantId (s.db.rowsBut tenantId) (t.db.rowsBut tenantId))
      (fun a b => a.unnumbered = b.unnumbered)
      ((op.run rt env tenantId).run s) ((op.run rt env tenantId).run t) :=
  op.run_confined rt env hs ht s t (isolated_iff.mpr ⟨hown, rfl, rfl, hticks, huuids⟩)

/-- An operation leaves what is not the tenant's. -/
theorem TenantOp.run_frame (rt : Runtime) (env : Env) {tenantId : String} (op : TenantOp)
    {s : Session} (h : op.Fresh env (s.db.rowsBut tenantId)) :
    (stateOf ((op.run rt env tenantId).run s)).db.rowsBut tenantId = s.db.rowsBut tenantId := by
  have hm := op.run_isolated rt env h h rfl rfl rfl
  cases hr : (op.run rt env tenantId).run s with
  | ok a t =>
    rw [hr] at hm
    exact (isolated_iff.mp hm.2).2.1
  | error e t =>
    rw [hr] at hm
    exact (isolated_iff.mp hm.2).2.1

theorem Call.after_frame (rt : Runtime) {db : Database} {c : Call}
    (h : c.op.Fresh c.env (db.rowsBut c.tenantId)) :
    (c.after rt db).rowsBut c.tenantId = db.rowsBut c.tenantId := by
  have hf := c.op.run_frame rt c.env (s := .start db [] []) h
  unfold Call.after Call.perform
  cases hr : (c.op.run rt c.env c.tenantId).run (.start db [] []) with
  | ok a t =>
    rw [hr] at hf
    exact hf
  | error e t => rfl

/-- A call is answered from its tenant's rows, and rewrites them alike. -/
theorem Call.perform_isolated (rt : Runtime) {db db' : Database} {c : Call}
    (h : c.op.Fresh c.env (db.rowsBut c.tenantId))
    (h' : c.op.Fresh c.env (db'.rowsBut c.tenantId))
    (hown : db.rowsOf c.tenantId = db'.rowsOf c.tenantId) :
    c.answer rt db = c.answer rt db' ∧
      (c.after rt db).rowsOf c.tenantId = (c.after rt db').rowsOf c.tenantId := by
  have hm := c.op.run_isolated rt c.env (s := .start db [] []) (t := .start db' [] []) h h' hown
    rfl rfl
  unfold Call.answer Call.after Call.perform
  cases hr : (c.op.run rt c.env c.tenantId).run (.start db [] []) with
  | ok a t =>
    cases hr' : (c.op.run rt c.env c.tenantId).run (.start db' [] []) with
    | ok b u =>
      rw [hr, hr'] at hm
      exact ⟨congrArg Except.ok hm.1, (isolated_iff.mp hm.2).1⟩
    | error e u =>
      rw [hr, hr'] at hm
      exact hm.elim
  | error e t =>
    cases hr' : (c.op.run rt c.env c.tenantId).run (.start db' [] []) with
    | ok b u =>
      rw [hr, hr'] at hm
      exact hm.elim
    | error e' u =>
      rw [hr, hr'] at hm
      exact ⟨congrArg Except.error hm.1, hown⟩

/-- Without the other tenants' calls, a tenant is answered the same and its rows end up the
    same. -/
theorem calls_purge (rt : Runtime) (tenantId : String) {db : Database} {cs : List Call}
    (h : FreshKeys rt db cs) :
    observed rt tenantId db cs =
        observed rt tenantId db (cs.filter fun c => c.tenantId == tenantId) ∧
      (afterCalls rt db cs).rowsOf tenantId =
        (afterCalls rt db (cs.filter fun c => c.tenantId == tenantId)).rowsOf tenantId := by
  have key := outputs_purge (Call.after rt) (Call.answer rt) (fun c => c.tenantId == tenantId)
    -- besides, what is not the tenant's never changes where only its own calls run
    (V := fun s t => s.rowsOf tenantId = t.rowsOf tenantId ∧
      t.rowsBut tenantId = db.rowsBut tenantId)
    (C := fun s c => c.op.Fresh c.env (s.rowsBut c.tenantId))
    (D := fun c => c.op.Fresh c.env (db.rowsBut c.tenantId)) ?_ ?_ cs db db ⟨rfl, rfl⟩ ?_ ?_
  · exact ⟨key.1, key.2.1⟩
  · rintro s t c hc hfresh ⟨hown, hrest⟩
    have hne : c.tenantId ≠ tenantId := by simpa using hc
    exact ⟨(rowsOf_of_rowsBut hne (Call.after_frame rt hfresh)).trans hown, hrest⟩
  · rintro s t c hc hfresh hfresh' ⟨hown, hrest⟩
    have hc : c.tenantId = tenantId := by simpa using hc
    subst hc
    have ht : c.op.Fresh c.env (t.rowsBut c.tenantId) := by
      rw [hrest]
      exact hfresh'
    obtain ⟨hans, hrows⟩ := Call.perform_isolated rt hfresh ht hown
    exact ⟨hans, hrows, (Call.after_frame rt ht).trans hrest⟩
  · intro before c after he
    exact h before c after he before (List.prefix_refl _)
  · intro c hc _
    obtain ⟨before, after, he⟩ := List.append_of_mem hc
    exact h before c after he [] List.nil_prefix

/-- Tenant isolation: no operation of a tenant changes what is not the tenant's; it is
    answered the same, and leaves the tenant the same rows, wherever the tenant's rows are
    the same; and in any sequence of calls each tenant observes what it would observe
    without the others' calls. -/
theorem tenant_isolation (rt : Runtime) (tenantId : String) :
    (∀ (op : TenantOp) (env : Env) (s : Session), op.Fresh env (s.db.rowsBut tenantId) →
      (stateOf ((op.run rt env tenantId).run s)).db.rowsBut tenantId = s.db.rowsBut tenantId) ∧
    (∀ (op : TenantOp) (env : Env) (s t : Session), op.Fresh env (s.db.rowsBut tenantId) →
      op.Fresh env (t.db.rowsBut tenantId) → s.db.rowsOf tenantId = t.db.rowsOf tenantId →
      s.ticks = t.ticks → s.uuids = t.uuids →
      Matches (fun s' t' => s'.db.rowsOf tenantId = t'.db.rowsOf tenantId)
        (fun a b => a.unnumbered = b.unnumbered)
        ((op.run rt env tenantId).run s) ((op.run rt env tenantId).run t)) ∧
    ∀ (db : Database) (cs : List Call), FreshKeys rt db cs →
      observed rt tenantId db cs =
          observed rt tenantId db (cs.filter fun c => c.tenantId == tenantId) ∧
        (afterCalls rt db cs).rowsOf tenantId =
          (afterCalls rt db (cs.filter fun c => c.tenantId == tenantId)).rowsOf tenantId := by
  refine ⟨fun op env s h => op.run_frame rt env h, ?_, fun db cs h => calls_purge rt tenantId h⟩
  intro op env s t hs ht hown hticks huuids
  exact (op.run_isolated rt env hs ht hown hticks huuids).imp fun _ _ h => (isolated_iff.mp h).1

/-- Two tenants' first users, and one of them looking. -/
def firstUsers : List Call :=
  [⟨"acme", { now := fun _ => 0, uuid4 := fun _ => "u1" }, .createUser "ann" "pw" "admin" none⟩,
    ⟨"globex", { now := fun _ => 0, uuid4 := fun _ => "u2" }, .createUser "ann" "pw" "admin" none⟩,
    ⟨"acme", { now := fun _ => 1, uuid4 := fun _ => "u3" }, .listUsers⟩]

/-- The look shows one user, as it would by itself. -/
theorem tenant_isolation_first_users :
    observed .plain "acme" .empty firstUsers =
      observed .plain "acme" .empty (firstUsers.filter fun c => c.tenantId == "acme") := by
  refine ((tenant_isolation .plain "acme").2.2 .empty firstUsers ?_).1
  intro before c after he earlier hpre
  unfold firstUsers at he
  match before, he with
  | [], he =>
    obtain ⟨rfl, _⟩ := List.cons.inj he
    obtain rfl := List.prefix_nil.mp hpre
    intro n r hr
    cases hr
  | [_], he =>
    obtain ⟨rfl, he₂⟩ := List.cons.inj he
    obtain ⟨rfl, _⟩ := List.cons.inj he₂
    obtain rfl | ⟨_, rfl, htl⟩ := List.prefix_cons_iff.mp hpre
    · intro n r hr
      cases hr
    · obtain rfl := List.prefix_nil.mp htl
      intro n
      show ∀ r ∈ Scoped.rest Tables.users _, Keyed.key r ≠ "u2"
      decide +kernel
  | [_, _], he =>
    obtain ⟨_, he₂⟩ := List.cons.inj he
    obtain ⟨_, he₃⟩ := List.cons.inj he₂
    obtain ⟨rfl, _⟩ := List.cons.inj he₃
    trivial
  | _ :: _ :: _ :: _, he => simp at he

end SentinelAI
