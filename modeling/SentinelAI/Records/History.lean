import SentinelAI.Records.Requests

/-
  What is never undone. Over the life of a deployment the audit log, the usage events, the
  case notes and the token denylist only grow at their end. Tenants, cases, rule states and
  credentials are changed in place: none of them is removed, handed to another tenant, or
  moved, and a tenant keeps its name.
-/

namespace SentinelAI

open Lib

/-- What is fixed once a tenant is stored. -/
def TenantRow.identity (t : TenantRow) : String × String × Time := (t.id, t.name, t.createdAt)

/-- What is fixed once a case is stored. -/
def InvestigationRow.identity (r : InvestigationRow) : String × String × Time :=
  (r.id, r.tenantId, r.createdAt)

def RuleStateRow.identity (r : RuleStateRow) : String × String × String :=
  (r.id, r.tenantId, r.ruleId)

/-- A database later than another. -/
structure Extends (db db' : Database) : Prop where
  auditLog : db.auditLog.rows <+: db'.auditLog.rows
  usageEvents : db.usageEvents.rows <+: db'.usageEvents.rows
  caseNotes : db.caseNotes.rows <+: db'.caseNotes.rows
  revokedTokens : db.revokedTokens.rows <+: db'.revokedTokens.rows
  tenants : db.tenants.rows.map TenantRow.identity <+: db'.tenants.rows.map TenantRow.identity
  investigations : db.investigations.rows.map InvestigationRow.identity <+:
    db'.investigations.rows.map InvestigationRow.identity
  ruleStates : db.ruleStates.rows.map RuleStateRow.identity <+:
    db'.ruleStates.rows.map RuleStateRow.identity
  tenantCredentials : db.tenantCredentials.rows.map TenantCredentialRow.tenantId <+:
    db'.tenantCredentials.rows.map TenantCredentialRow.tenantId

/-! ## The two ways a table changes -/

section

variable {ρ β : Type} [Keyed ρ String]

theorem prefix_insert? {t t' : KeyedTable ρ} {r : ρ} (h : t.insert? r = some t') :
    t.rows <+: t'.rows := by
  rw [KeyedTable.insert?_rows h]
  exact List.prefix_append _ _

/-- An update of columns that `g` does not read. -/
theorem map_modify (t : KeyedTable ρ) (k : String) (f : ρ → ρ) (hf : ∀ r, Keyed.key (f r) = Keyed.key r)
    (g : ρ → β) (hg : ∀ r ∈ t.rows, Keyed.key r = k → g (f r) = g r) :
    (t.modify k f hf).rows.map g = t.rows.map g := by
  unfold KeyedTable.modify
  rw [List.map_map]
  refine List.map_congr_left fun r hr => ?_
  by_cases hk : Keyed.key r = k
  · show g (if Keyed.key r = k then f r else r) = g r
    rw [if_pos hk]
    exact hg r hr hk
  · show g (if Keyed.key r = k then f r else r) = g r
    rw [if_neg hk]

end

namespace Extends

variable {rt : Runtime} {caller : Option String} {db db' db'' : Database}

theorem refl (db : Database) : Extends db db := by
  constructor <;> exact List.prefix_refl _

theorem trans (h : Extends db db') (h' : Extends db' db'') : Extends db db'' where
  auditLog := h.auditLog.trans h'.auditLog
  usageEvents := h.usageEvents.trans h'.usageEvents
  caseNotes := h.caseNotes.trans h'.caseNotes
  revokedTokens := h.revokedTokens.trans h'.revokedTokens
  tenants := h.tenants.trans h'.tenants
  investigations := h.investigations.trans h'.investigations
  ruleStates := h.ruleStates.trans h'.ruleStates
  tenantCredentials := h.tenantCredentials.trans h'.tenantCredentials

theorem statement (hs : Statement rt caller db db') : Extends db db' := by
  have h := refl db
  cases hs with
  | newTenant row after hins => exact { h with tenants := (prefix_insert? hins).map _ }
  | tenant id f hf hname hcreated =>
    have hkept : (db.tenants.modify id f hf).rows.map TenantRow.identity =
        db.tenants.rows.map TenantRow.identity := by
      refine map_modify db.tenants id f hf _ fun r _ _ => ?_
      unfold TenantRow.identity
      rw [hname, hcreated, show (f r).id = r.id from hf r]
    exact { h with tenants := hkept ▸ List.prefix_refl _ }
  | newUser | user | removedUser | clearedIncident | incident => exact { h with }
  | newCase row after hown hins => exact { h with investigations := (prefix_insert? hins).map _ }
  | case row old hold hid htenant hcreated =>
    have hkept : (db.investigations.modify row.id row.write row.write_key).rows.map
        InvestigationRow.identity = db.investigations.rows.map InvestigationRow.identity := by
      refine map_modify db.investigations row.id row.write row.write_key _ fun r hr hk => ?_
      have hsame : r = old := db.investigations.eq_of_key_eq hr hold (hk.trans hid)
      rw [hsame]
      show (old.id, row.tenantId, row.createdAt) = (old.id, old.tenantId, old.createdAt)
      rw [htenant, hcreated]
    exact { h with investigations := hkept ▸ List.prefix_refl _ }
  | note row after hown hcase hins => exact { h with caseNotes := prefix_insert? hins }
  | newRuleState row after hown hrule hins =>
    exact { h with ruleStates := (prefix_insert? hins).map _ }
  | ruleState id enabled =>
    have hkept := map_modify db.ruleStates id (fun r => { r with enabled := enabled })
      (fun _ => rfl) RuleStateRow.identity fun _ _ _ => rfl
    exact { h with ruleStates := hkept ▸ List.prefix_refl _ }
  | audited now e hown => exact { h with auditLog := List.prefix_append _ _ }
  | metered row hown hkind hcost => exact { h with usageEvents := List.prefix_append _ _ }
  | newCredentials row after hown hins =>
    exact { h with tenantCredentials := (prefix_insert? hins).map _ }
  | credentials id f hf =>
    have hkept := map_modify db.tenantCredentials id f hf TenantCredentialRow.tenantId
      fun r _ _ => hf r
    exact { h with tenantCredentials := hkept ▸ List.prefix_refl _ }
  | revoked row after hown hins => exact { h with revokedTokens := prefix_insert? hins }

theorem transaction (ht : Transaction rt caller db db') : Extends db db' :=
  ht.lift refl (fun _ _ _ => trans) fun _ _ => statement

end Extends

/-- A world later than another. -/
structure Later (w w' : World) : Prop where
  rows : Extends w.db w'.db
  tokens : w.issued <+: w'.issued

theorem Later.trans {w w' w'' : World} (h : Later w w') (h' : Later w' w'') : Later w w'' :=
  ⟨h.rows.trans h'.rows, h.tokens.trans h'.tokens⟩

theorem occur_later (rt : Runtime) (w : World) (o : Occurrence) : Later w (occur rt w o) := by
  obtain ⟨_, _, ht⟩ := occur_transaction rt w o
  refine ⟨.transaction ht, ?_⟩
  cases o with
  | start env =>
    exact (start_issued env w) ▸ List.prefix_refl _
  | request e =>
    obtain hsame | ⟨k, hsigned, _⟩ := step_signs rt w e
    · exact hsame ▸ List.prefix_refl _
    · exact ⟨[k], hsigned.symm⟩

theorem live_later (rt : Runtime) (w : World) (os : List Occurrence) : Later w (live rt w os) := by
  refine live_keeps (I := Later w) (fun v o h => h.trans (occur_later rt v o)) ?_ os
  exact ⟨.refl w.db, List.prefix_refl _⟩

/-- Whatever happens to a deployment, from any world on: nothing of the audit log, of the
    usage events, of the notes or of the denylist is lost, reordered or rewritten, and no
    tenant, case, rule state or credentials row goes away or changes hands. -/
theorem history_kept (rt : Runtime) (w : World) (os os' : List Occurrence) :
    Later (live rt w os) (live rt w (os ++ os')) := by
  rw [live_append]
  exact live_later rt _ os'

end SentinelAI
