import SentinelAI.Core.Security
import SentinelAI.Db.Query
import SentinelAI.Services.Workflow

/-
  Tenant-scoped repositories (`app/db/repositories.py`).

  What an operation does to the row it loaded is a function on rows (`approveRow`,
  `executeRow`, …), which the concurrent model of `Security/LostUpdate.lean` shares. The
  select and the flush around it are statements of `Db/Query.lean`.
-/

namespace SentinelAI

open Lib

/-! ## Tenants -/

/-- `d[k] = v` on the items of a dict. -/
def dictSet (d : List (String × JsonValue)) (k : String) (v : JsonValue) :
    List (String × JsonValue) :=
  if d.any fun kv => kv.1 == k then d.map fun kv => if kv.1 == k then (k, v) else kv
  else d ++ [(k, v)]

/-- `d.update(other)`. -/
def dictUpdate (d other : List (String × JsonValue)) : List (String × JsonValue) :=
  other.foldl (fun d kv => dictSet d kv.1 kv.2) d

namespace TenantRepository

def getByName (name : String) : ApiM (Option TenantRow) :=
  selectOne Tables.tenants fun t => t.name == name

def get (tenantId : String) : ApiM (Option TenantRow) := sessionGet Tables.tenants tenantId

/-- The unique constraint on the name. -/
def checkNameFree (name : String) : ApiM Unit := do
  let taken ← selectAll Tables.tenants fun t => t.name == name
  raiseIf (!taken.isEmpty) .integrity

def create (env : Env) (name status plan : String) : ApiM TenantRow := do
  let id ← uuidHex env
  let now ← readClock env
  let tenant : TenantRow := { id := id, name := name, status := status, plan := plan, createdAt := now }
  checkNameFree name
  insertRow Tables.tenants tenant
  return tenant

def list : ApiM (List TenantRow) := do
  let rows ← selectAll Tables.tenants fun _ => true
  return rows.insertionSort fun a b => a.createdAt ≤ b.createdAt

/-- Loads a tenant and changes it. -/
def update (tenantId : String) (f : TenantRow → TenantRow)
    (hf : ∀ r, (f r).id = r.id) : ApiM (Option TenantRow) := do
  match ← get tenantId with
  | none => return none
  | some tenant =>
    updateRow Tables.tenants tenant.id f hf
    return some (f tenant)

def setStatus (tenantId status : String) : ApiM (Option TenantRow) :=
  update tenantId (fun t => { t with status := status }) fun _ => rfl

def setPlan (tenantId plan : String) : ApiM (Option TenantRow) :=
  update tenantId (fun t => { t with plan := plan }) fun _ => rfl

def updateSettings (tenantId : String) (settings : List (String × JsonValue)) :
    ApiM (Option TenantRow) :=
  update tenantId (fun t => { t with settings := dictUpdate t.settings settings }) fun _ => rfl

end TenantRepository

/-! ## Users -/

namespace UserRepository

def getByUsername (tenantId username : String) : ApiM (Option UserRow) :=
  selectOne Tables.users fun u => u.tenantId == tenantId && u.username == username

def create (env : Env) (tenantId username password role : String)
    (externalId : Option String) : ApiM UserRow := do
  let id ← uuidHex env
  let now ← readClock env
  let user : UserRow :=
    { id := id
      tenantId := tenantId
      username := username
      passwordHash := hashPassword env password
      role := role
      externalId := externalId
      createdAt := now }
  insertRow Tables.users user
  return user

def authenticate (rt : Runtime) (tenantId username password : String) :
    ApiM (Option UserRow) := do
  match ← getByUsername tenantId username with
  | none => return none
  | some user => return if verifyPassword rt password user.passwordHash then some user else none

/-- An authenticated user is a user of the tenant. -/
theorem authenticate_ok {rt : Runtime} {tenantId username password : String} {s t : Session}
    {user : UserRow}
    (h : (authenticate rt tenantId username password).run s = .ok (some user) t) :
    user ∈ t.db.users.rows ∧ user.tenantId = tenantId := by
  unfold authenticate at h
  obtain ⟨o, u, ho, h⟩ := run_bind_eq_ok.mp h
  obtain ⟨hsel, rfl⟩ := selectOne_eq_ok.mp ho
  cases o with
  | none => cases h
  | some user' =>
    dsimp only at h
    split at h
    · cases h
      have hmem : user ∈ (Tables.users.get t.db).select fun u =>
          u.tenantId == tenantId && u.username == username := by
        rw [hsel]
        exact List.mem_singleton_self user
      obtain ⟨hrow, hp⟩ := KeyedTable.mem_select.mp hmem
      exact ⟨hrow, by simpa using (Bool.and_eq_true_iff.mp hp).1⟩
    · cases h

def list (tenantId : String) : ApiM (List UserRow) := do
  let rows ← selectAll Tables.users fun u => u.tenantId == tenantId
  return rows.insertionSort fun a b => a.username ≤ b.username

def get (tenantId userId : String) : ApiM (Option UserRow) :=
  selectOne Tables.users fun u => u.tenantId == tenantId && u.id == userId

theorem get_run (tenantId userId : String) (s : Session) :
    (get tenantId userId).run s =
      .ok ((s.db.users.find? userId).filter fun u => u.tenantId == tenantId) s :=
  selectOne_key_run Tables.users (fun u => u.tenantId == tenantId) _ userId (fun _ => rfl) s

/-- Loads a user of the tenant and changes it. -/
def update (tenantId userId : String) (f : UserRow → UserRow)
    (hf : ∀ r, (f r).id = r.id) : ApiM (Option UserRow) := do
  match ← get tenantId userId with
  | none => return none
  | some user =>
    updateRow Tables.users user.id f hf
    return some (f user)

def setRole (tenantId userId role : String) : ApiM (Option UserRow) :=
  update tenantId userId (fun u => { u with role := role }) fun _ => rfl

def delete (tenantId userId : String) : ApiM Bool := do
  match ← get tenantId userId with
  | none => return false
  | some user =>
    deleteRow Tables.users user.id
    return true

def getByExternalId (tenantId externalId : String) : ApiM (Option UserRow) :=
  selectOne Tables.users fun u => u.tenantId == tenantId && u.externalId == some externalId

def linkExternalId (tenantId userId externalId : String) : ApiM (Option UserRow) :=
  update tenantId userId (fun u => { u with externalId := some externalId }) fun _ => rfl

end UserRepository

/-! ## Investigations -/

/-- `_risk_from`: a score from severity, triage confidence and enrichment. -/
def riskFrom (inv : Investigation) : Int :=
  let base : ℚ :=
    match inv.detection.severity with
    | .info => 10
    | .low => 30
    | .medium => 55
    | .high => 80
    | .critical => 95
  let boost := inv.detection.enrichment.riskBoost.getD 1
  match inv.verdict with
  | some verdict =>
    if !verdict.isTruePositive then max 0 (truncToInt (base * (1 / 5)))
    else min 100 (truncToInt (base * (3 / 5 + 2 / 5 * verdict.confidence) * boost))
  | none => min 100 (truncToInt (base * boost))

/-- The columns `save` writes. -/
def InvestigationRow.withInvestigation (row : InvestigationRow) (inv : Investigation) :
    InvestigationRow :=
  { row with
    title := inv.detection.title
    severity := inv.detection.severity.value
    status := inv.detection.status.value
    entity := inv.detection.entity
    riskScore := riskFrom inv
    isTruePositive := inv.verdict.map TriageVerdict.isTruePositive
    payload := inv }

/-- The row `save` adds. -/
def newInvestigationRow (tenantId : String) (inv : Investigation) (now : Time) :
    InvestigationRow where
  id := inv.id
  tenantId := tenantId
  title := inv.detection.title
  severity := inv.detection.severity.value
  status := inv.detection.status.value
  entity := inv.detection.entity
  riskScore := riskFrom inv
  isTruePositive := inv.verdict.map TriageVerdict.isTruePositive
  payload := inv
  createdAt := now

/-- The row of `set_assignee`. -/
def setAssigneeRow (assignee : Option String) (row : InvestigationRow) : InvestigationRow :=
  { row with assignee := assignee, payload := { row.payload with assignee := assignee } }

/-- `actions[i]` for an index in range. -/
def actionAt (inv : Investigation) (i : Int) : Option IncidentAction :=
  if i < 0 then none else inv.actions[i.toNat]?

/-- The row with one action replaced. -/
def InvestigationRow.setAction (row : InvestigationRow) (i : Int) (a : IncidentAction) :
    InvestigationRow :=
  { row with payload := { row.payload with actions := row.payload.actions.set i.toNat a } }

/-- The row of `approve_action`; none when the index is out of range. -/
def approveRow (i : Int) (row : InvestigationRow) : Option InvestigationRow :=
  (actionAt row.payload i).map fun a => row.setAction i { a with requiresApproval := false }

/-- Why an action cannot run or a status cannot change. -/
inductive CaseError where
  | notFound
  | outOfRange
  | notApproved
  | invalidStatus
  | illegalTransition
  deriving DecidableEq, Repr

/-- The action `execute_action` dispatches. -/
def executableAction (i : Int) (row : InvestigationRow) : Except CaseError IncidentAction :=
  match actionAt row.payload i with
  | none => .error .outOfRange
  | some a => if a.requiresApproval then .error .notApproved else .ok a

/-- The action with its execution state. -/
def IncidentAction.executedWith (a : IncidentAction) (r : ExecutionResult) : IncidentAction :=
  { a with
    executed := true
    executionStatus := some r.status
    executionDetail := some r.detail
    rollbackToken := r.rollbackToken }

/-- Header and payload status set together. -/
def InvestigationRow.setStatus (row : InvestigationRow) (status : DetectionStatus) :
    InvestigationRow :=
  { row with
    status := status.value
    payload := { row.payload with detection := { row.payload.detection with status := status } } }

/-- The row `execute_action` flushes after the executor answered. -/
def executeRow (i : Int) (a : IncidentAction) (r : ExecutionResult) (row : InvestigationRow) :
    InvestigationRow :=
  let row' := row.setAction i (a.executedWith r)
  if row.status == DetectionStatus.investigating.value then row'.setStatus .contained else row'

/-- The status `transition_status` moves to. -/
def legalTransition (target : String) (row : InvestigationRow) : Except CaseError DetectionStatus :=
  match DetectionStatus.ofValue? row.status, DetectionStatus.ofValue? target with
  | some current, some targetStatus =>
    if canTransition current targetStatus then .ok targetStatus else .error .illegalTransition
  | _, _ => .error .invalidStatus

/-- The row `transition_status` flushes. -/
def transitionRow (target : DetectionStatus) (now : Time) (row : InvestigationRow) :
    InvestigationRow :=
  { row.setStatus target with
    acknowledgedAt :=
      if target = .investigating ∧ row.acknowledgedAt = none then some now else row.acknowledgedAt
    containedAt :=
      if target = .contained ∧ row.containedAt = none then some now else row.containedAt }

/-- A row's columns over those of the stored row. -/
def InvestigationRow.write (new old : InvestigationRow) : InvestigationRow :=
  { new with id := old.id }

theorem InvestigationRow.write_key (new old : InvestigationRow) :
    Keyed.key (new.write old) = Keyed.key old := rfl

namespace InvestigationRepository

/-- `_get_row`. -/
def getRow (tenantId invId : String) : ApiM (Option InvestigationRow) :=
  selectOne Tables.investigations fun r => r.tenantId == tenantId && r.id == invId

theorem getRow_run (tenantId invId : String) (s : Session) :
    (getRow tenantId invId).run s =
      .ok ((s.db.investigations.find? invId).filter fun r => r.tenantId == tenantId) s :=
  selectOne_key_run Tables.investigations (fun r => r.tenantId == tenantId) _ invId (fun _ => rfl) s

/-- The flush of a loaded row. -/
def flush (row : InvestigationRow) : ApiM Unit :=
  updateRow Tables.investigations row.id row.write row.write_key

def save (env : Env) (tenantId : String) (inv : Investigation) : ApiM InvestigationRow := do
  match ← getRow tenantId inv.id with
  | none =>
    let now ← readClock env
    let row := newInvestigationRow tenantId inv now
    insertRow Tables.investigations row
    return row
  | some existing =>
    let row := existing.withInvestigation inv
    flush row
    return row

def get (tenantId invId : String) : ApiM (Option Investigation) := do
  match ← getRow tenantId invId with
  | none => return none
  | some row => return some row.payload

/-- An optional filter: an absent or empty one keeps every row. -/
def filterBy (value : Option String) (column : String) : Bool :=
  match value with
  | none => true
  | some v => v == "" || column == v

/-- `ORDER BY risk_score DESC, created_at DESC`. -/
def listOrder (a b : InvestigationRow) : Prop :=
  b.riskScore < a.riskScore ∨ (a.riskScore = b.riskScore ∧ b.createdAt ≤ a.createdAt)

instance : DecidableRel listOrder := fun _ _ => inferInstanceAs (Decidable (_ ∨ _))

/-- `InvestigationRepository.list`: one page and the total count. -/
def list (tenantId : String) (status severity assignee : Option String) (limit offset : Nat) :
    ApiM (List Investigation × Nat) := do
  let rows ← selectAll Tables.investigations fun r =>
    r.tenantId == tenantId && filterBy status r.status && filterBy severity r.severity &&
      (match assignee with
       | none => true
       | some a => a == "" || r.assignee == some a)
  let page := ((rows.insertionSort listOrder).drop offset).take limit
  return (page.map InvestigationRow.payload, rows.length)

def setAssignee (tenantId invId : String) (assignee : Option String) :
    ApiM (Option Investigation) := do
  match ← getRow tenantId invId with
  | none => return none
  | some row =>
    flush (setAssigneeRow assignee row)
    return some (setAssigneeRow assignee row).payload

def approveAction (tenantId invId : String) (i : Int) : ApiM (Option Investigation) := do
  match ← getRow tenantId invId with
  | none => return none
  | some row =>
    match approveRow i row with
    | none => return none
    | some row' =>
      flush row'
      return some row'.payload

def executeAction (env : Env) (tenantId invId : String) (i : Int) :
    ApiM (Except CaseError Investigation) := do
  match ← getRow tenantId invId with
  | none => return .error .notFound
  | some row =>
    match executableAction i row with
    | .error e => return .error e
    | .ok action =>
      let result ← ActionExecutor.execute env action.actionType action.target
      let row' := executeRow i action result row
      flush row'
      return .ok row'.payload

def addNote (env : Env) (tenantId invId author body : String) : ApiM (Option CaseNoteRow) := do
  match ← getRow tenantId invId with
  | none => return none
  | some _ =>
    let id ← uuidHex env
    let now ← readClock env
    let note : CaseNoteRow :=
      { id := id
        investigationId := invId
        tenantId := tenantId
        author := author
        body := body
        createdAt := now }
    insertRow Tables.caseNotes note
    return some note

def listNotes (tenantId invId : String) : ApiM (List CaseNoteRow) := do
  let rows ← selectAll Tables.caseNotes fun n =>
    n.tenantId == tenantId && n.investigationId == invId
  return rows.insertionSort fun a b => a.createdAt ≤ b.createdAt

end InvestigationRepository

/-! ## Incidents -/

namespace IncidentRepository

/-- The row `replace_all` adds. -/
def newRow (tenantId : String) (inc : Incident) (now : Time) : IncidentRow where
  id := inc.id
  tenantId := tenantId
  title := inc.title
  entity := inc.entity
  severity := inc.severity.value
  riskScore := inc.riskScore
  payload := inc
  createdAt := now

def add (env : Env) (tenantId : String) (inc : Incident) : ApiM Unit := do
  let now ← readClock env
  insertRow Tables.incidents (newRow tenantId inc now)

/-- `replace_all`: clears the tenant's incidents and stores the new ones. -/
def replaceAll (env : Env) (tenantId : String) (incidents : List Incident) : ApiM Unit := do
  let existing ← selectAll Tables.incidents fun r => r.tenantId == tenantId
  existing.forM fun row => deleteRow Tables.incidents row.id
  incidents.forM (add env tenantId)

/-- `ORDER BY risk_score DESC, created_at DESC`. -/
def listOrder (a b : IncidentRow) : Prop :=
  b.riskScore < a.riskScore ∨ (a.riskScore = b.riskScore ∧ b.createdAt ≤ a.createdAt)

instance : DecidableRel listOrder := fun _ _ => inferInstanceAs (Decidable (_ ∨ _))

def list (tenantId : String) : ApiM (List Incident) := do
  let rows ← selectAll Tables.incidents fun r => r.tenantId == tenantId
  return (rows.insertionSort listOrder).map IncidentRow.payload

def get (tenantId incidentId : String) : ApiM (Option Incident) := do
  let row ← selectOne Tables.incidents fun r => r.tenantId == tenantId && r.id == incidentId
  return row.map IncidentRow.payload

end IncidentRepository

/-! ## Workflow, rules and tokens -/

namespace CaseWorkflowMixin

def transitionStatus (env : Env) (tenantId invId target : String) :
    ApiM (Except CaseError Investigation) := do
  match ← InvestigationRepository.getRow tenantId invId with
  | none => return .error .notFound
  | some row =>
    match legalTransition target row with
    | .error e => return .error e
    | .ok targetStatus =>
      let now ← readClock env
      let row' := transitionRow targetStatus now row
      InvestigationRepository.flush row'
      return .ok row'.payload

def sla (env : Env) (tenantId invId : String) : ApiM (Option Sla) := do
  match ← InvestigationRepository.getRow tenantId invId with
  | none => return none
  | some row =>
    let now ← readClock env
    return some (computeSla row.createdAt row.acknowledgedAt row.containedAt now)

end CaseWorkflowMixin

namespace RuleStateRepository

def disabledRuleIds (tenantId : String) : ApiM (List String) := do
  let rows ← selectAll Tables.ruleStates fun r => r.tenantId == tenantId && !r.enabled
  return rows.map RuleStateRow.ruleId

def setEnabled (env : Env) (tenantId ruleId : String) (enabled : Bool) : ApiM Unit := do
  match ← selectOne Tables.ruleStates fun r => r.tenantId == tenantId && r.ruleId == ruleId with
  | none =>
    let id ← uuidHex env
    insertRow Tables.ruleStates
      { id := id, tenantId := tenantId, ruleId := ruleId, enabled := enabled }
  | some row => updateRow Tables.ruleStates row.id (fun r => { r with enabled := enabled }) fun _ => rfl

end RuleStateRepository

namespace TokenRepository

def revoke (env : Env) (tenantId jti : String) : ApiM Unit := do
  match ← sessionGet Tables.revokedTokens jti with
  | some _ => return ()
  | none =>
    let now ← readClock env
    insertRow Tables.revokedTokens { jti := jti, tenantId := tenantId, revokedAt := now }

def isRevoked (jti : String) : ApiM Bool := do
  return (← sessionGet Tables.revokedTokens jti).isSome

end TokenRepository

end SentinelAI
