import SentinelAI.Core.Json
import SentinelAI.Lib.Tables
import SentinelAI.Models.Domain

/-
  ORM rows (`app/db/models.py`). Every business row carries a tenant id.

  A JSON payload column holds the aggregate it was dumped from. Columns no operation reads
  (`updated_at`, `trial_ends_at`) and length limits of string columns are left out. The
  auto-increment id of an audit or usage row is the one its table gives it.
-/

namespace SentinelAI

open Lib

structure TenantRow where
  id : String
  name : String
  /-- active | suspended | trial -/
  status : String := "active"
  /-- free | pro | enterprise -/
  plan : String := "enterprise"
  settings : List (String × JsonValue) := []
  createdAt : Time

structure UserRow where
  id : String
  tenantId : String
  username : String
  passwordHash : String
  role : String := "analyst"
  /-- SSO subject -/
  externalId : Option String := none
  createdAt : Time
  deriving DecidableEq

structure InvestigationRow where
  id : String
  tenantId : String
  title : String
  severity : String
  status : String
  entity : String
  riskScore : Int := 0
  isTruePositive : Option Bool
  /-- full aggregate snapshot -/
  payload : Investigation
  assignee : Option String := none
  acknowledgedAt : Option Time := none
  containedAt : Option Time := none
  createdAt : Time
  deriving DecidableEq

structure CaseNoteRow where
  id : String
  investigationId : String
  tenantId : String
  author : String
  body : String
  createdAt : Time
  deriving DecidableEq

/-- Per-tenant enable/disable state for a detection rule. -/
structure RuleStateRow where
  id : String
  tenantId : String
  ruleId : String
  enabled : Bool := true
  deriving DecidableEq

structure IncidentRow where
  id : String
  tenantId : String
  title : String
  entity : String
  severity : String
  riskScore : Int := 0
  payload : Incident
  createdAt : Time
  deriving DecidableEq

/-- Append-only, hash-chained audit trail. -/
structure AuditLogRow where
  tenantId : String
  actor : String
  action : String
  targetType : String
  targetId : String
  detail : List (String × JsonValue)
  prevHash : String
  entryHash : String
  createdAt : Time

/-- A metered, billable usage event; the cost is fixed at record time. -/
structure UsageEventRow where
  tenantId : String
  kind : String
  quantity : Int := 1
  costCents : Int := 0
  detail : String := ""
  createdAt : Time
  deriving DecidableEq

/-- Per-tenant integration credentials. Secret columns hold Fernet tokens or "". -/
structure TenantCredentialRow where
  tenantId : String
  /-- managed | byo -/
  mode : String := "managed"
  splunkBackend : String := "mock"
  splunkHost : String := ""
  splunkTokenEnc : String := ""
  splunkMcpUrl : String := ""
  splunkMcpTokenEnc : String := ""
  aiBackend : String := "mock"
  aiModel : String := ""
  aiTokenEnc : String := ""
  deriving DecidableEq

/-- Denylist of revoked JWT ids. -/
structure RevokedTokenRow where
  jti : String
  tenantId : String
  revokedAt : Time
  deriving DecidableEq

instance : Keyed TenantRow String := ⟨TenantRow.id⟩
instance : Keyed UserRow String := ⟨UserRow.id⟩
instance : Keyed InvestigationRow String := ⟨InvestigationRow.id⟩
instance : Keyed CaseNoteRow String := ⟨CaseNoteRow.id⟩
instance : Keyed RuleStateRow String := ⟨RuleStateRow.id⟩
instance : Keyed IncidentRow String := ⟨IncidentRow.id⟩
instance : Keyed TenantCredentialRow String := ⟨TenantCredentialRow.tenantId⟩
instance : Keyed RevokedTokenRow String := ⟨RevokedTokenRow.jti⟩

structure Database where
  tenants : KeyedTable TenantRow
  users : KeyedTable UserRow
  investigations : KeyedTable InvestigationRow
  caseNotes : KeyedTable CaseNoteRow
  ruleStates : KeyedTable RuleStateRow
  incidents : KeyedTable IncidentRow
  auditLog : AutoTable AuditLogRow
  usageEvents : AutoTable UsageEventRow
  tenantCredentials : KeyedTable TenantCredentialRow
  revokedTokens : KeyedTable RevokedTokenRow

/-- The tables just created. -/
def Database.empty : Database where
  tenants := .empty
  users := .empty
  investigations := .empty
  caseNotes := .empty
  ruleStates := .empty
  incidents := .empty
  auditLog := .empty
  usageEvents := .empty
  tenantCredentials := .empty
  revokedTokens := .empty

end SentinelAI
