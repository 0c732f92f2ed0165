import SentinelAI.Records.Requests

/-
  Referential integrity: that a row's tenant is stored, a note's case, a rule state's rule.
  `users`, `investigations`, `case_notes`, `rule_states`, `incidents` and `tenant_credentials`
  declare foreign keys, which SQLite does not enforce as it is opened here; `audit_log`,
  `usage_events` and `revoked_tokens` declare none, and neither does a rule state its rule. So
  it is shown of what the routes do. It holds throughout the life of a deployment, and of the
  tokens too.
-/

namespace SentinelAI

open Lib

/-- The rows refer to rows there are. -/
structure Referenced (db : Database) : Prop where
  users : ∀ r ∈ db.users.rows, Present db r.tenantId
  investigations : ∀ r ∈ db.investigations.rows, Present db r.tenantId
  caseNotes : ∀ r ∈ db.caseNotes.rows, Present db r.tenantId ∧
    ∃ c ∈ db.investigations.rows, c.id = r.investigationId ∧ c.tenantId = r.tenantId
  ruleStates : ∀ r ∈ db.ruleStates.rows, Present db r.tenantId ∧
    ∃ rule ∈ defaultRules, rule.ruleId = r.ruleId
  incidents : ∀ r ∈ db.incidents.rows, Present db r.tenantId
  /-- cross-tenant actions are audited in a partition that is no tenant's -/
  auditLog : ∀ r ∈ db.auditLog.rows, Present db r.2.tenantId ∨ r.2.tenantId = platformTenant
  usageEvents : ∀ r ∈ db.usageEvents.rows, Present db r.2.tenantId
  tenantCredentials : ∀ r ∈ db.tenantCredentials.rows, Present db r.tenantId
  revokedTokens : ∀ r ∈ db.revokedTokens.rows, Present db r.tenantId

theorem referenced_empty : Referenced .empty := by
  constructor <;> exact fun r hr => by cases hr

namespace Referenced

variable {rt : Runtime} {caller : Option String} {db db' : Database}

/-- Other tenants, the ones there were among them. -/
theorem tenants (h : Referenced db) {tenants : KeyedTable TenantRow}
    (hpresent : ∀ t, Present db t → Present { db with tenants := tenants } t) :
    Referenced { db with tenants := tenants } where
  users r hr := hpresent _ (h.users r hr)
  investigations r hr := hpresent _ (h.investigations r hr)
  caseNotes r hr := (h.caseNotes r hr).imp (hpresent _) id
  ruleStates r hr := (h.ruleStates r hr).imp (hpresent _) id
  incidents r hr := hpresent _ (h.incidents r hr)
  auditLog r hr := (h.auditLog r hr).imp (hpresent _) id
  usageEvents r hr := hpresent _ (h.usageEvents r hr)
  tenantCredentials r hr := hpresent _ (h.tenantCredentials r hr)
  revokedTokens r hr := hpresent _ (h.revokedTokens r hr)

/-- The cases a note may refer to are there after a change of the investigations. -/
theorem cases (h : Referenced db) {cases : KeyedTable InvestigationRow}
    (htenant : ∀ r ∈ cases.rows, Present db r.tenantId)
    (hkept : ∀ c ∈ db.investigations.rows, ∃ c' ∈ cases.rows, c'.id = c.id ∧ c'.tenantId = c.tenantId) :
    Referenced { db with investigations := cases } := by
  refine { h with investigations := htenant, caseNotes := fun r hr => ?_ }
  obtain ⟨hpresent, c, hc, hid, hof⟩ := h.caseNotes r hr
  obtain ⟨c', hc', hid', hof'⟩ := hkept c hc
  exact ⟨hpresent, c', hc', hid'.trans hid, hof'.trans hof⟩

theorem statement (h : Referenced db) (hcaller : ∀ t, caller = some t → Present db t)
    (hs : Statement rt caller db db') : Referenced db' := by
  have howner {t : String} (ho : Owner caller db t) : Present db t := ho.elim (hcaller t) id
  have hpresent := fun t (hp : Present db t) => hs.present hp
  cases hs with
  | newTenant row after hins => exact h.tenants hpresent
  | tenant id f hf => exact h.tenants hpresent
  | newUser row after hown hins =>
    refine { h with users := fun r hr => ?_ }
    obtain hr | rfl := (mem_of_insert? hins).mp hr
    · exact h.users r hr
    · exact howner hown
  | user id f hf htenant =>
    refine { h with users := fun r hr => ?_ }
    obtain ⟨old, hold, _, rfl⟩ | ⟨hr, _⟩ := (KeyedTable.mem_modify hf).mp hr
    · show Present db (f old).tenantId
      rw [htenant]
      exact h.users old hold
    · exact h.users r hr
  | removedUser id =>
    exact { h with users := fun r hr => h.users r (List.mem_of_mem_filter hr) }
  | newCase row after hown hins =>
    refine h.cases (fun r hr => ?_) fun c hc => ⟨c, (mem_of_insert? hins).mpr (Or.inl hc), rfl, rfl⟩
    obtain hr | rfl := (mem_of_insert? hins).mp hr
    · exact h.investigations r hr
    · exact howner hown
  | case row old hold hid htenant =>
    refine h.cases (fun r hr => ?_) fun c hc => ?_
    · obtain ⟨_, _, _, rfl⟩ | ⟨hr, _⟩ := (KeyedTable.mem_modify row.write_key).mp hr
      · show Present db row.tenantId
        rw [htenant]
        exact h.investigations old hold
      · exact h.investigations r hr
    · by_cases hkey : c.id = row.id
      · have hsame : c = old := db.investigations.eq_of_key_eq hc hold (hkey.trans hid)
        refine ⟨row.write c, (KeyedTable.mem_modify row.write_key).mpr (Or.inl ⟨c, hc, hkey, rfl⟩),
          rfl, ?_⟩
        rw [hsame]
        exact htenant
      · exact ⟨c, (KeyedTable.mem_modify row.write_key).mpr (Or.inr ⟨hc, hkey⟩), rfl, rfl⟩
  | note row after hown hcase hins =>
    refine { h with caseNotes := fun r hr => ?_ }
    obtain hr | rfl := (mem_of_insert? hins).mp hr
    · exact h.caseNotes r hr
    · exact ⟨howner hown, hcase⟩
  | newRuleState row after hown hrule hins =>
    refine { h with ruleStates := fun r hr => ?_ }
    obtain hr | rfl := (mem_of_insert? hins).mp hr
    · exact h.ruleStates r hr
    · exact ⟨howner hown, hrule⟩
  | ruleState id enabled =>
    refine { h with ruleStates := fun r hr => ?_ }
    obtain ⟨old, hold, _, rfl⟩ | ⟨hr, _⟩ := (KeyedTable.mem_modify
      (f := fun r : RuleStateRow => { r with enabled := enabled }) fun _ => rfl).mp hr
    · exact h.ruleStates old hold
    · exact h.ruleStates r hr
  | clearedIncident id =>
    exact { h with incidents := fun r hr => h.incidents r (List.mem_of_mem_filter hr) }
  | incident row after hown hins =>
    refine { h with incidents := fun r hr => ?_ }
    obtain hr | rfl := (mem_of_insert? hins).mp hr
    · exact h.incidents r hr
    · exact howner hown
  | audited now e hown =>
    refine { h with auditLog := fun r hr => ?_ }
    obtain hr | hr := List.mem_append.mp hr
    · exact h.auditLog r hr
    · rw [List.mem_singleton.mp hr]
      exact hown.imp howner id
  | metered row hown =>
    refine { h with usageEvents := fun r hr => ?_ }
    obtain hr | hr := List.mem_append.mp hr
    · exact h.usageEvents r hr
    · rw [List.mem_singleton.mp hr]
      exact howner hown
  | newCredentials row after hown hins =>
    refine { h with tenantCredentials := fun r hr => ?_ }
    obtain hr | rfl := (mem_of_insert? hins).mp hr
    · exact h.tenantCredentials r hr
    · exact howner hown
  | credentials id f hf =>
    refine { h with tenantCredentials := fun r hr => ?_ }
    obtain ⟨old, hold, _, rfl⟩ | ⟨hr, _⟩ := (KeyedTable.mem_modify hf).mp hr
    · show Present db (f old).tenantId
      rw [hf]
      exact h.tenantCredentials old hold
    · exact h.tenantCredentials r hr
  | revoked row after hown hins =>
    refine { h with revokedTokens := fun r hr => ?_ }
    obtain hr | rfl := (mem_of_insert? hins).mp hr
    · exact h.revokedTokens r hr
    · exact howner hown

theorem transaction (h : Referenced db) (hcaller : ∀ t, caller = some t → Present db t)
    (ht : Transaction rt caller db db') : Referenced db' := by
  induction ht with
  | refl => exact h
  | tail hts hs ih => exact ih.statement (fun t hc => Transaction.present hts (hcaller t hc)) hs

end Referenced

/-- So do the tokens. -/
structure WorldReferenced (w : World) : Prop where
  rows : Referenced w.db
  tokens : ∀ k ∈ w.issued, Present w.db k.tenantId

theorem WorldReferenced.after {rt : Runtime} {w : World} (h : WorldReferenced w) (o : Occurrence) :
    WorldReferenced (occur rt w o) := by
  obtain ⟨caller, hcaller, ht⟩ := occur_transaction rt w o
  have hrows : Referenced (occur rt w o).db := by
    refine h.rows.transaction (fun t hc => ?_) ht
    obtain ⟨token, htoken, hof⟩ := hcaller t hc
    rw [← hof]
    exact h.tokens token htoken
  have hold : ∀ k ∈ w.issued, Present (occur rt w o).db k.tenantId :=
    fun k hk => ht.present (h.tokens k hk)
  refine ⟨hrows, ?_⟩
  cases o with
  | start env =>
    show ∀ k ∈ (start env w).issued, _
    rw [start_issued]
    exact hold
  | request e =>
    obtain hsame | ⟨k, hsigned, hissues⟩ := step_signs rt w e
    · show ∀ k ∈ (step rt w e).issued, _
      rw [hsame]
      exact hold
    · show ∀ k ∈ (step rt w e).issued, _
      rw [hsigned]
      intro k' hk'
      obtain hk' | hk' := List.mem_append.mp hk'
      · exact hold k' hk'
      · rw [List.mem_singleton.mp hk']
        refine ht.present ?_
        obtain ⟨user, huser, rfl⟩ := hissues.user
        exact h.rows.users user huser

theorem new_referenced : WorldReferenced .new := ⟨referenced_empty, fun k hk => (by cases hk)⟩

/-- Throughout the life of a deployment every row and every token refers to a stored tenant,
    every note to a stored case of its tenant, and every rule state to a rule. -/
theorem references_hold (rt : Runtime) (os : List Occurrence) :
    WorldReferenced (live rt .new os) :=
  live_keeps (fun _ o h => h.after o) new_referenced os

end SentinelAI
