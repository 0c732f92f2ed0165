import SentinelAI.Lib.MigrationScripts
import SentinelAI.Models.Domain

/-
  The Alembic migrations (`alembic/versions`) and the tables of the ORM (`app/db/models.py`).
  Every index is `unique=False`. A batch of alterations is its statements in order. A JSON
  column holds the text of a JSON value.
-/

namespace SentinelAI

open Lib

inductive SqlType where
  | string (length : Nat)
  | text
  | integer
  | boolean
  | dateTime
  | json
  deriving DecidableEq, Repr

inductive SqlValue where
  | text (s : String)
  | integer (n : Int)
  | boolean (b : Bool)
  | timestamp (t : Time)
  deriving DecidableEq

namespace Migrations

abbrev Column := Ddl.Column SqlType SqlValue

abbrev Table := Ddl.Table SqlType SqlValue

abbrev Change := Ddl.Change SqlType SqlValue

/-- `op.create_index(op.f('ix_<table>_<column>'), [column], unique=False)`. -/
def createIndex (table column : String) : Change :=
  .createIndex table ⟨"ix_" ++ table ++ "_" ++ column, [column]⟩

def dropIndex (table column : String) : Change :=
  .dropIndex table ("ix_" ++ table ++ "_" ++ column)

/-- `sa.Column(name, type, nullable=False)`. -/
def required (name : String) (type : SqlType) : Column := ⟨name, type, false, none⟩

def optional (name : String) (type : SqlType) : Column := ⟨name, type, true, none⟩

/-- `sa.Column(name, type, nullable=False, server_default=...)`. -/
def defaulted (name : String) (type : SqlType) (serverDefault : String) : Column :=
  ⟨name, type, false, some (.text serverDefault)⟩

/-- `sa.ForeignKeyConstraint(['tenant_id'], ['tenants.id'])`. -/
def tenantKey : Ddl.ForeignKey := ⟨"tenant_id", "tenants", "id"⟩

structure Revision where
  revision : String
  downRevision : Option String
  upgrade : List Change
  downgrade : List Change

/-! ## `cace9457d0b0_initial_schema.py` -/

def auditLog : Table where
  name := "audit_log"
  columns := [required "id" .integer, required "tenant_id" (.string 32),
    required "actor" (.string 150), required "action" (.string 100),
    required "target_type" (.string 50), required "target_id" (.string 64),
    required "detail" .json, required "prev_hash" (.string 64), required "entry_hash" (.string 64),
    required "created_at" .dateTime]
  primaryKey := ["id"]
  uniques := []
  foreignKeys := []
  indexes := []

def revokedTokens : Table where
  name := "revoked_tokens"
  columns := [required "jti" (.string 32), required "tenant_id" (.string 32),
    required "revoked_at" .dateTime]
  primaryKey := ["jti"]
  uniques := []
  foreignKeys := []
  indexes := []

def tenants : Table where
  name := "tenants"
  columns := [required "id" (.string 32), required "name" (.string 200),
    required "created_at" .dateTime]
  primaryKey := ["id"]
  uniques := [["name"]]
  foreignKeys := []
  indexes := []

def incidents : Table where
  name := "incidents"
  columns := [required "id" (.string 40), required "tenant_id" (.string 32),
    required "title" (.string 300), required "entity" (.string 200),
    required "severity" (.string 20), required "risk_score" .integer, required "payload" .json,
    required "created_at" .dateTime]
  primaryKey := ["id"]
  uniques := []
  foreignKeys := [tenantKey]
  indexes := []

def investigations : Table where
  name := "investigations"
  columns := [required "id" (.string 40), required "tenant_id" (.string 32),
    required "title" (.string 300), required "severity" (.string 20),
    required "status" (.string 30), required "entity" (.string 200),
    required "risk_score" .integer, optional "is_true_positive" .boolean,
    required "payload" .json, optional "assignee" (.string 150),
    optional "acknowledged_at" .dateTime, optional "contained_at" .dateTime,
    required "created_at" .dateTime, required "updated_at" .dateTime]
  primaryKey := ["id"]
  uniques := []
  foreignKeys := [tenantKey]
  indexes := []

def ruleStates : Table where
  name := "rule_states"
  columns := [required "id" (.string 32), required "tenant_id" (.string 32),
    required "rule_id" (.string 20), required "enabled" .boolean]
  primaryKey := ["id"]
  uniques := []
  foreignKeys := [tenantKey]
  indexes := []

def users : Table where
  name := "users"
  columns := [required "id" (.string 32), required "tenant_id" (.string 32),
    required "username" (.string 150), required "password_hash" (.string 255),
    required "role" (.string 50), optional "external_id" (.string 255),
    required "created_at" .dateTime]
  primaryKey := ["id"]
  uniques := []
  foreignKeys := [tenantKey]
  indexes := []

def caseNotes : Table where
  name := "case_notes"
  columns := [required "id" (.string 32), required "investigation_id" (.string 40),
    required "tenant_id" (.string 32), required "author" (.string 150), required "body" .text,
    required "created_at" .dateTime]
  primaryKey := ["id"]
  uniques := []
  foreignKeys := [⟨"investigation_id", "investigations", "id"⟩]
  indexes := []

def initialSchema : Revision where
  revision := "cace9457d0b0"
  downRevision := none
  upgrade := [
    .createTable auditLog, createIndex "audit_log" "action", createIndex "audit_log" "actor",
    createIndex "audit_log" "tenant_id",
    .createTable revokedTokens, createIndex "revoked_tokens" "tenant_id",
    .createTable tenants,
    .createTable incidents, createIndex "incidents" "entity",
    createIndex "incidents" "risk_score", createIndex "incidents" "severity",
    createIndex "incidents" "tenant_id",
    .createTable investigations, createIndex "investigations" "assignee",
    createIndex "investigations" "entity", createIndex "investigations" "risk_score",
    createIndex "investigations" "severity", createIndex "investigations" "status",
    createIndex "investigations" "tenant_id",
    .createTable ruleStates, createIndex "rule_states" "rule_id",
    createIndex "rule_states" "tenant_id",
    .createTable users, createIndex "users" "tenant_id", createIndex "users" "username",
    .createTable caseNotes, createIndex "case_notes" "investigation_id",
    createIndex "case_notes" "tenant_id"]
  downgrade := [
    dropIndex "case_notes" "tenant_id", dropIndex "case_notes" "investigation_id",
    .dropTable "case_notes",
    dropIndex "users" "username", dropIndex "users" "tenant_id", .dropTable "users",
    dropIndex "rule_states" "tenant_id", dropIndex "rule_states" "rule_id",
    .dropTable "rule_states",
    dropIndex "investigations" "tenant_id", dropIndex "investigations" "status",
    dropIndex "investigations" "severity", dropIndex "investigations" "risk_score",
    dropIndex "investigations" "entity", dropIndex "investigations" "assignee",
    .dropTable "investigations",
    dropIndex "incidents" "tenant_id", dropIndex "incidents" "severity",
    dropIndex "incidents" "risk_score", dropIndex "incidents" "entity", .dropTable "incidents",
    .dropTable "tenants",
    dropIndex "revoked_tokens" "tenant_id", .dropTable "revoked_tokens",
    dropIndex "audit_log" "tenant_id", dropIndex "audit_log" "actor",
    dropIndex "audit_log" "action", .dropTable "audit_log"]

/-! ## The later revisions -/

/-- `b1f2c3d4e5a6_tenant_saas_fields.py` -/
def tenantSaasFields : Revision where
  revision := "b1f2c3d4e5a6"
  downRevision := some "cace9457d0b0"
  upgrade := [
    .addColumn "tenants" (defaulted "status" (.string 20) "active"),
    .addColumn "tenants" (defaulted "plan" (.string 20) "enterprise"),
    .addColumn "tenants" (optional "trial_ends_at" .dateTime),
    .addColumn "tenants" (defaulted "settings" .json "\x7b\x7d"),
    createIndex "tenants" "status"]
  downgrade := [
    dropIndex "tenants" "status", .dropColumn "tenants" "settings",
    .dropColumn "tenants" "trial_ends_at", .dropColumn "tenants" "plan",
    .dropColumn "tenants" "status"]

def tenantCredentialsTable : Table where
  name := "tenant_credentials"
  columns := [required "tenant_id" (.string 32), defaulted "mode" (.string 20) "managed",
    defaulted "splunk_backend" (.string 10) "mock", defaulted "splunk_host" (.string 300) "",
    defaulted "splunk_token_enc" .text "", defaulted "splunk_mcp_url" (.string 300) "",
    defaulted "splunk_mcp_token_enc" .text "", defaulted "ai_backend" (.string 10) "mock",
    defaulted "ai_model" (.string 120) "", defaulted "ai_token_enc" .text "",
    required "updated_at" .dateTime]
  primaryKey := ["tenant_id"]
  uniques := []
  foreignKeys := [tenantKey]
  indexes := []

/-- `c2d3e4f5a6b7_tenant_credentials.py` -/
def tenantCredentials : Revision where
  revision := "c2d3e4f5a6b7"
  downRevision := some "b1f2c3d4e5a6"
  upgrade := [.createTable tenantCredentialsTable]
  downgrade := [.dropTable "tenant_credentials"]

def usageEventsTable : Table where
  name := "usage_events"
  columns := [required "id" .integer, required "tenant_id" (.string 32),
    required "kind" (.string 20), required "quantity" .integer, required "cost_cents" .integer,
    defaulted "detail" (.string 200) "", required "created_at" .dateTime]
  primaryKey := ["id"]
  uniques := []
  foreignKeys := []
  indexes := []

/-- `d3e4f5a6b7c8_usage_events.py` -/
def usageEvents : Revision where
  revision := "d3e4f5a6b7c8"
  downRevision := some "c2d3e4f5a6b7"
  upgrade := [
    .createTable usageEventsTable, createIndex "usage_events" "tenant_id",
    createIndex "usage_events" "kind", createIndex "usage_events" "created_at"]
  downgrade := [
    dropIndex "usage_events" "created_at", dropIndex "usage_events" "kind",
    dropIndex "usage_events" "tenant_id", .dropTable "usage_events"]

/-- The revisions, each after the one it revises. -/
def revisions : List Revision := [initialSchema, tenantSaasFields, tenantCredentials, usageEvents]

def migrations : List (Ddl.Migration SqlType SqlValue) :=
  revisions.map fun r => ⟨r.upgrade, r.downgrade⟩

/-! ## The tables of the ORM -/

/-- `table` with `index=True` on these columns. -/
def indexed (t : Table) (columns : List String) : Table :=
  { t with indexes := columns.map fun c => ⟨"ix_" ++ t.name ++ "_" ++ c, [c]⟩ }

def primary (name : String) (columns : List Column) (key : String)
    (foreignKeys : List Ddl.ForeignKey) : Table where
  name := name
  columns := columns
  primaryKey := [key]
  uniques := []
  foreignKeys := foreignKeys
  indexes := []

/-- `Base.metadata`; defaults are given in Python, none by the server. -/
def metadata : List Table := [
  indexed
    { primary "tenants" [required "id" (.string 32), required "name" (.string 200),
        required "status" (.string 20), required "plan" (.string 20),
        optional "trial_ends_at" .dateTime, required "settings" .json,
        required "created_at" .dateTime] "id" [] with uniques := [["name"]] } ["status"],
  indexed
    (primary "users" [required "id" (.string 32), required "tenant_id" (.string 32),
      required "username" (.string 150), required "password_hash" (.string 255),
      required "role" (.string 50), optional "external_id" (.string 255),
      required "created_at" .dateTime] "id" [tenantKey]) ["tenant_id", "username"],
  indexed
    (primary "investigations" [required "id" (.string 40), required "tenant_id" (.string 32),
      required "title" (.string 300), required "severity" (.string 20),
      required "status" (.string 30), required "entity" (.string 200),
      required "risk_score" .integer, optional "is_true_positive" .boolean,
      required "payload" .json, optional "assignee" (.string 150),
      optional "acknowledged_at" .dateTime, optional "contained_at" .dateTime,
      required "created_at" .dateTime, required "updated_at" .dateTime] "id" [tenantKey])
    ["tenant_id", "severity", "status", "entity", "risk_score", "assignee"],
  indexed
    (primary "case_notes" [required "id" (.string 32), required "investigation_id" (.string 40),
      required "tenant_id" (.string 32), required "author" (.string 150), required "body" .text,
      required "created_at" .dateTime] "id" [⟨"investigation_id", "investigations", "id"⟩])
    ["investigation_id", "tenant_id"],
  indexed
    (primary "rule_states" [required "id" (.string 32), required "tenant_id" (.string 32),
      required "rule_id" (.string 20), required "enabled" .boolean] "id" [tenantKey])
    ["tenant_id", "rule_id"],
  indexed
    (primary "incidents" [required "id" (.string 40), required "tenant_id" (.string 32),
      required "title" (.string 300), required "entity" (.string 200),
      required "severity" (.string 20), required "risk_score" .integer, required "payload" .json,
      required "created_at" .dateTime] "id" [tenantKey])
    ["tenant_id", "entity", "severity", "risk_score"],
  indexed
    (primary "audit_log" [required "id" .integer, required "tenant_id" (.string 32),
      required "actor" (.string 150), required "action" (.string 100),
      required "target_type" (.string 50), required "target_id" (.string 64),
      required "detail" .json, required "prev_hash" (.string 64),
      required "entry_hash" (.string 64), required "created_at" .dateTime] "id" [])
    ["tenant_id", "actor", "action"],
  indexed
    (primary "usage_events" [required "id" .integer, required "tenant_id" (.string 32),
      required "kind" (.string 20), required "quantity" .integer, required "cost_cents" .integer,
      required "detail" (.string 200), required "created_at" .dateTime] "id" [])
    ["tenant_id", "kind", "created_at"],
  primary "tenant_credentials" [required "tenant_id" (.string 32), required "mode" (.string 20),
    required "splunk_backend" (.string 10), required "splunk_host" (.string 300),
    required "splunk_token_enc" .text, required "splunk_mcp_url" (.string 300),
    required "splunk_mcp_token_enc" .text, required "ai_backend" (.string 10),
    required "ai_model" (.string 120), required "ai_token_enc" .text,
    required "updated_at" .dateTime] "tenant_id" [tenantKey],
  indexed
    (primary "revoked_tokens" [required "jti" (.string 32), required "tenant_id" (.string 32),
      required "revoked_at" .dateTime] "jti" []) ["tenant_id"]]

/-- What the ORM reads of a column. -/
def Column.shape (c : Column) : Column := { c with serverDefault := none }

/-- The tables are the same to the ORM: it names columns and indexes, and does not order them. -/
def SameTable (t u : Table) : Prop :=
  t.name = u.name ∧ (t.columns.map Column.shape).Perm (u.columns.map Column.shape) ∧
    t.primaryKey = u.primaryKey ∧ t.uniques = u.uniques ∧ t.foreignKeys = u.foreignKeys ∧
    t.indexes.Perm u.indexes

instance (t u : Table) : Decidable (SameTable t u) :=
  inferInstanceAs (Decidable (_ ∧ _ ∧ _ ∧ _ ∧ _ ∧ _))

/-- The catalogue has the ORM's tables and no other. -/
def MatchesMetadata (c : Ddl.Catalogue SqlType SqlValue) : Prop :=
  c.rows.length = metadata.length ∧ ∀ t ∈ metadata, ∃ u ∈ c.rows, SameTable t u

instance (c : Ddl.Catalogue SqlType SqlValue) : Decidable (MatchesMetadata c) :=
  inferInstanceAs (Decidable (_ ∧ _))

end Migrations

end SentinelAI
