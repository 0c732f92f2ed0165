import SentinelAI.Db.Repositories
import SentinelAI.Lib.AgreeOn
import SentinelAI.Services.Audit
import SentinelAI.Services.Credentials
import SentinelAI.Services.Quotas

/-
  Two sessions that look alike to one tenant, and what keeps them so. The statements of
  `Db/Query.lean` that read and write under the tenant's clause return the same in both,
  and leave the other tenants' rows of each as they were.
-/

namespace SentinelAI

open Lib

/-! ## The rows of a tenant and the others -/

/-- A row that carries `tenant_id`. -/
class TenantOwned (ρ : Type) where
  tenantId : ρ → String

instance : TenantOwned UserRow := ⟨UserRow.tenantId⟩
instance : TenantOwned InvestigationRow := ⟨InvestigationRow.tenantId⟩
instance : TenantOwned CaseNoteRow := ⟨CaseNoteRow.tenantId⟩
instance : TenantOwned RuleStateRow := ⟨RuleStateRow.tenantId⟩
instance : TenantOwned IncidentRow := ⟨IncidentRow.tenantId⟩
instance : TenantOwned AuditLogRow := ⟨AuditLogRow.tenantId⟩
instance : TenantOwned UsageEventRow := ⟨UsageEventRow.tenantId⟩
instance : TenantOwned TenantCredentialRow := ⟨TenantCredentialRow.tenantId⟩

/-- `WHERE tenant_id = …`. -/
def ofTenant {ρ : Type} [TenantOwned ρ] (tenantId : String) (r : ρ) : Bool :=
  TenantOwned.tenantId r == tenantId

/-- A tenant's rows; those under an auto-increment id without it. -/
structure TenantRows where
  users : List UserRow
  investigations : List InvestigationRow
  caseNotes : List CaseNoteRow
  ruleStates : List RuleStateRow
  incidents : List IncidentRow
  auditLog : List AuditLogRow
  usageEvents : List UsageEventRow
  tenantCredentials : List TenantCredentialRow

/-- Everything but a tenant's rows: the other tenants' rows with their ids, the tenants
    themselves and the revoked tokens. -/
structure OtherRows where
  users : List UserRow
  investigations : List InvestigationRow
  caseNotes : List CaseNoteRow
  ruleStates : List RuleStateRow
  incidents : List IncidentRow
  auditLog : List (Nat × AuditLogRow)
  usageEvents : List (Nat × UsageEventRow)
  tenantCredentials : List TenantCredentialRow
  tenants : KeyedTable TenantRow
  revokedTokens : KeyedTable RevokedTokenRow

def Database.rowsOf (db : Database) (tenantId : String) : TenantRows where
  users := db.users.select (ofTenant tenantId)
  investigations := db.investigations.select (ofTenant tenantId)
  caseNotes := db.caseNotes.select (ofTenant tenantId)
  ruleStates := db.ruleStates.select (ofTenant tenantId)
  incidents := db.incidents.select (ofTenant tenantId)
  auditLog := db.auditLog.select (ofTenant tenantId)
  usageEvents := db.usageEvents.select (ofTenant tenantId)
  tenantCredentials := db.tenantCredentials.select (ofTenant tenantId)

def Database.rowsBut (db : Database) (tenantId : String) : OtherRows where
  users := db.users.select fun r => !ofTenant tenantId r
  investigations := db.investigations.select fun r => !ofTenant tenantId r
  caseNotes := db.caseNotes.select fun r => !ofTenant tenantId r
  ruleStates := db.ruleStates.select fun r => !ofTenant tenantId r
  incidents := db.incidents.select fun r => !ofTenant tenantId r
  auditLog := db.auditLog.selectRows fun r => !ofTenant tenantId r
  usageEvents := db.usageEvents.selectRows fun r => !ofTenant tenantId r
  tenantCredentials := db.tenantCredentials.select fun r => !ofTenant tenantId r
  tenants := db.tenants
  revokedTokens := db.revokedTokens

/-- Two sessions with the same rows of a tenant, at the same point of their request; the
    other rows are `o` in the first and `o'` in the second. -/
structure Isolated (tenantId : String) (o o' : OtherRows) (s t : Session) : Prop where
  users : KeyedTable.AgreeOn (ofTenant tenantId) o.users o'.users s.db.users t.db.users
  investigations : KeyedTable.AgreeOn (ofTenant tenantId) o.investigations o'.investigations
    s.db.investigations t.db.investigations
  caseNotes : KeyedTable.AgreeOn (ofTenant tenantId) o.caseNotes o'.caseNotes
    s.db.caseNotes t.db.caseNotes
  ruleStates : KeyedTable.AgreeOn (ofTenant tenantId) o.ruleStates o'.ruleStates
    s.db.ruleStates t.db.ruleStates
  incidents : KeyedTable.AgreeOn (ofTenant tenantId) o.incidents o'.incidents
    s.db.incidents t.db.incidents
  auditLog : AutoTable.AgreeOn (ofTenant tenantId) o.auditLog o'.auditLog
    s.db.auditLog t.db.auditLog
  usageEvents : AutoTable.AgreeOn (ofTenant tenantId) o.usageEvents o'.usageEvents
    s.db.usageEvents t.db.usageEvents
  tenantCredentials : KeyedTable.AgreeOn (ofTenant tenantId) o.tenantCredentials
    o'.tenantCredentials s.db.tenantCredentials t.db.tenantCredentials
  tenants : s.db.tenants = o.tenants ∧ t.db.tenants = o'.tenants
  revokedTokens : s.db.revokedTokens = o.revokedTokens ∧ t.db.revokedTokens = o'.revokedTokens
  ticks : s.ticks = t.ticks
  uuids : s.uuids = t.uuids

theorem isolated_iff {tenantId : String} {o o' : OtherRows} {s t : Session} :
    Isolated tenantId o o' s t ↔
      s.db.rowsOf tenantId = t.db.rowsOf tenantId ∧ s.db.rowsBut tenantId = o ∧
        t.db.rowsBut tenantId = o' ∧ s.ticks = t.ticks ∧ s.uuids = t.uuids := by
  constructor
  · intro h
    refine ⟨?_, ?_, ?_, h.ticks, h.uuids⟩
    · unfold Database.rowsOf
      rw [h.users.own, h.investigations.own, h.caseNotes.own, h.ruleStates.own, h.incidents.own,
        h.auditLog.own, h.usageEvents.own, h.tenantCredentials.own]
    · unfold Database.rowsBut
      rw [h.users.left, h.investigations.left, h.caseNotes.left, h.ruleStates.left,
        h.incidents.left, h.auditLog.left, h.usageEvents.left, h.tenantCredentials.left,
        h.tenants.1, h.revokedTokens.1]
    · unfold Database.rowsBut
      rw [h.users.right, h.investigations.right, h.caseNotes.right, h.ruleStates.right,
        h.incidents.right, h.auditLog.right, h.usageEvents.right, h.tenantCredentials.right,
        h.tenants.2, h.revokedTokens.2]
  · rintro ⟨hown, rfl, rfl, hticks, huuids⟩
    injection hown with h₁ h₂ h₃ h₄ h₅ h₆ h₇ h₈
    exact ⟨⟨h₁, rfl, rfl⟩, ⟨h₂, rfl, rfl⟩, ⟨h₃, rfl, rfl⟩, ⟨h₄, rfl, rfl⟩, ⟨h₅, rfl, rfl⟩,
      ⟨h₆, rfl, rfl⟩, ⟨h₇, rfl, rfl⟩, ⟨h₈, rfl, rfl⟩, ⟨rfl, rfl⟩, ⟨rfl, rfl⟩, hticks, huuids⟩

/-! ## Tables of tenants' rows -/

/-- A table of the database with tenants' rows under a primary key. -/
class Scoped {ρ : Type} [Keyed ρ String] [TenantOwned ρ] (T : TableRef (KeyedTable ρ)) where
  rest : OtherRows → List ρ
  agreeOn : ∀ {tenantId : String} {o o' : OtherRows} {s t : Session},
    Isolated tenantId o o' s t →
      KeyedTable.AgreeOn (ofTenant tenantId) (rest o) (rest o') (T.get s.db) (T.get t.db)
  set : ∀ {tenantId : String} {o o' : OtherRows} {s t : Session} {u u' : KeyedTable ρ},
    Isolated tenantId o o' s t →
      KeyedTable.AgreeOn (ofTenant tenantId) (rest o) (rest o') u u' →
      Isolated tenantId o o' { s with db := T.set s.db u } { t with db := T.set t.db u' }

instance : Scoped Tables.users := ⟨OtherRows.users, Isolated.users, fun h hu => { h with users := hu }⟩

instance : Scoped Tables.investigations :=
  ⟨OtherRows.investigations, Isolated.investigations, fun h hu => { h with investigations := hu }⟩

instance : Scoped Tables.caseNotes :=
  ⟨OtherRows.caseNotes, Isolated.caseNotes, fun h hu => { h with caseNotes := hu }⟩

instance : Scoped Tables.ruleStates :=
  ⟨OtherRows.ruleStates, Isolated.ruleStates, fun h hu => { h with ruleStates := hu }⟩

instance : Scoped Tables.incidents :=
  ⟨OtherRows.incidents, Isolated.incidents, fun h hu => { h with incidents := hu }⟩

instance : Scoped Tables.tenantCredentials :=
  ⟨OtherRows.tenantCredentials, Isolated.tenantCredentials,
    fun h hu => { h with tenantCredentials := hu }⟩

/-- A table of the database with tenants' rows under an auto-increment id. -/
class ScopedAuto {α : Type} [TenantOwned α] (T : TableRef (AutoTable α)) where
  rest : OtherRows → List (Nat × α)
  agreeOn : ∀ {tenantId : String} {o o' : OtherRows} {s t : Session},
    Isolated tenantId o o' s t →
      AutoTable.AgreeOn (ofTenant tenantId) (rest o) (rest o') (T.get s.db) (T.get t.db)
  set : ∀ {tenantId : String} {o o' : OtherRows} {s t : Session} {u u' : AutoTable α},
    Isolated tenantId o o' s t →
      AutoTable.AgreeOn (ofTenant tenantId) (rest o) (rest o') u u' →
      Isolated tenantId o o' { s with db := T.set s.db u } { t with db := T.set t.db u' }

instance : ScopedAuto Tables.auditLog :=
  ⟨OtherRows.auditLog, Isolated.auditLog, fun h hu => { h with auditLog := hu }⟩

instance : ScopedAuto Tables.usageEvents :=
  ⟨OtherRows.usageEvents, Isolated.usageEvents, fun h hu => { h with usageEvents := hu }⟩

/-! ## Statements -/

/-- Started in sessions a tenant cannot tell apart, `m` ends alike in both. -/
abbrev Confined {α : Type} (tenantId : String) (o o' : OtherRows) (m : ApiM α) : Prop :=
  Agree (Isolated tenantId o o') Eq m m

section

variable {α ρ : Type} {tenantId : String} {o o' : OtherRows}

/-- A key no other tenant's row of the table has. -/
def Free [Keyed ρ String] [TenantOwned ρ] (T : TableRef (KeyedTable ρ)) [Scoped T]
    (o o' : OtherRows) (k : String) : Prop :=
  KeyedTable.FreeKey (Scoped.rest T o) (Scoped.rest T o') k

/-- A row of the tenant, under a free key. -/
structure Own [Keyed ρ String] [TenantOwned ρ] (T : TableRef (KeyedTable ρ)) [Scoped T]
    (tenantId : String) (o o' : OtherRows) (r : ρ) : Prop where
  tenantId : TenantOwned.tenantId r = tenantId
  free : Free T o o' (Keyed.key r)

theorem readClock_confined (env : Env) : Confined tenantId o o' (readClock env) := by
  intro s t h
  exact ⟨congrArg env.now h.ticks, { h with ticks := congrArg (· + 1) h.ticks }⟩

theorem uuidHex_confined (env : Env) :
    Agree (Isolated tenantId o o') (fun a b => a = b ∧ ∃ n, a = env.uuid4 n) (uuidHex env)
      (uuidHex env) := by
  intro s t h
  exact ⟨⟨congrArg env.uuid4 h.uuids, s.uuids, rfl⟩, { h with uuids := congrArg (· + 1) h.uuids }⟩

theorem execute_confined (env : Env) (actionType target : String) :
    Confined tenantId o o' (ActionExecutor.execute env actionType target) := by
  intro s t h
  rw [ActionExecutor.execute_run, ActionExecutor.execute_run, ofExcept_run, ofExcept_run]
  cases executorResult env.connectors actionType target with
  | ok r => exact ⟨rfl, { h with }⟩
  | error e => exact ⟨rfl, { h with }⟩

theorem query_confined {f : Database → α}
    (h : ∀ s t, Isolated tenantId o o' s t → f s.db = f t.db) :
    Confined tenantId o o' (query f) := fun s t hst => ⟨h s t hst, hst⟩

theorem raiseIf_confined (c : Bool) (e : Exc) : Confined tenantId o o' (raiseIf c e) :=
  Agree.ite (Agree.throw _ e) (Agree.pure rfl)

variable [Keyed ρ String] [TenantOwned ρ] {T : TableRef (KeyedTable ρ)} [Scoped T]

/-- What a clause on the tenant selects: the tenant's rows. -/
theorem selectAll_confined {p : ρ → Bool} (hp : ∀ r, p r = true → ofTenant tenantId r = true) :
    Agree (Isolated tenantId o o') (fun a b => a = b ∧ ∀ r ∈ a, Own T tenantId o o' r)
      (selectAll T p) (selectAll T p) := by
  intro s t h
  have hT := Scoped.agreeOn (T := T) h
  refine ⟨⟨hT.select_eq hp, fun r hr => ?_⟩, h⟩
  obtain ⟨hm, hpr⟩ := KeyedTable.mem_select.mp hr
  exact ⟨by simpa [ofTenant] using hp r hpr,
    hT.free_of_own (KeyedTable.mem_select.mpr ⟨hm, hp r hpr⟩)⟩

theorem selectOne_confined {p : ρ → Bool} (hp : ∀ r, p r = true → ofTenant tenantId r = true) :
    Agree (Isolated tenantId o o') (fun a b => a = b ∧ ∀ r ∈ a, Own T tenantId o o' r)
      (selectOne T p) (selectOne T p) := by
  refine (selectAll_confined hp).bind ?_
  rintro rows _ ⟨rfl, hown⟩
  match rows with
  | [] => exact Agree.pure ⟨rfl, by simp⟩
  | [r] => exact Agree.pure ⟨rfl, by simpa using hown⟩
  | _ :: _ :: _ => exact Agree.throw _ _

theorem insertRow_confined {row : ρ} (h : Own T tenantId o o' row) :
    Confined tenantId o o' (insertRow T row) := by
  intro s t hst
  have hrow : ofTenant tenantId row = true := by simpa [ofTenant] using h.tenantId
  have hs := insertRow_cases T row s
  have ht := insertRow_cases T row t
  obtain ⟨hn, hn'⟩ | ⟨u, u', hu, hu', hagree⟩ := (Scoped.agreeOn hst).insert? hrow h.free
  · rw [hn] at hs
    rw [hn'] at ht
    obtain ⟨_, h, _⟩ | ⟨_, hs⟩ := hs
    · cases h
    obtain ⟨_, h, _⟩ | ⟨_, ht⟩ := ht
    · cases h
    rw [hs, ht]
    exact ⟨rfl, hst⟩
  · rw [hu] at hs
    rw [hu'] at ht
    obtain ⟨_, h, hs⟩ | ⟨h, _⟩ := hs
    · cases h
      obtain ⟨_, h, ht⟩ | ⟨h, _⟩ := ht
      · cases h
        rw [hs, ht]
        exact ⟨rfl, Scoped.set hst hagree⟩
      · cases h
    · cases h

/-- The flush of a row under a free key, the tenant staying its owner. -/
theorem updateRow_confined {key : String} (hk : Free T o o' key) {f : ρ → ρ}
    (hf : ∀ r, Keyed.key (f r) = Keyed.key r)
    (hown : ∀ r, TenantOwned.tenantId r = tenantId → TenantOwned.tenantId (f r) = tenantId) :
    Confined tenantId o o' (updateRow T key f hf) := by
  intro s t hst
  refine ⟨rfl, Scoped.set hst ((Scoped.agreeOn hst).modify hk hf fun r hr => ?_)⟩
  have hr : TenantOwned.tenantId r = tenantId := by simpa [ofTenant] using hr
  simpa [ofTenant] using hown r hr

theorem deleteRow_confined {key : String} (hk : Free T o o' key) :
    Confined tenantId o o' (deleteRow T key) := by
  intro s t hst
  refine ⟨rfl, Scoped.set hst ((Scoped.agreeOn hst).deleteWhere hk fun r hr => ?_)⟩
  simpa using hr

end

section

variable {α : Type} {tenantId : String} {o o' : OtherRows} [TenantOwned α]
  {T : TableRef (AutoTable α)} [ScopedAuto T]

theorem selectIds_confined {p : α → Bool} (hp : ∀ r, p r = true → ofTenant tenantId r = true) :
    Agree (Isolated tenantId o o') (fun a b => a.map Prod.snd = b.map Prod.snd) (selectIds T p)
      (selectIds T p) :=
  fun _ _ h => ⟨(ScopedAuto.agreeOn h).selectRows_eq hp, h⟩

theorem insertAuto_confined {row : α} (h : TenantOwned.tenantId row = tenantId) :
    Confined tenantId o o' (insertAuto T row) := by
  intro s t hst
  have hrow : ofTenant tenantId row = true := by simpa [ofTenant] using h
  exact ⟨rfl, ScopedAuto.set hst ((ScopedAuto.agreeOn hst).insert hrow)⟩

end

end SentinelAI
