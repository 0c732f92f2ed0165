import Mathlib.Logic.Relation
import SentinelAI.Security.AuditCoverage

/-
  The statements a request executes. `Statement` lists what a request may write, one
  statement at a time, with what the repositories see to before they write it; a
  `Transaction` is a sequence of them. `step_transaction`: what any request commits is a
  transaction that writes for the caller's tenant, or for tenants that are stored.

  The laws about stored records (`Records/References.lean`, `Records/History.lean`,
  `Records/Trail.lean`) hold because every statement keeps them.
-/

namespace SentinelAI

open Lib

/-! ## Statements -/

/-- A tenant is stored. -/
def Present (db : Database) (tenantId : String) : Prop :=
  ∃ t ∈ db.tenants.rows, t.id = tenantId

/-- Whom a statement may write for: the caller's tenant, or a tenant that is stored. -/
def Owner (caller : Option String) (db : Database) (tenantId : String) : Prop :=
  caller = some tenantId ∨ Present db tenantId

/-- One statement that writes, of a request the caller's tenant is known of, or of none. -/
inductive Statement (rt : Runtime) (caller : Option String) (db : Database) : Database → Prop
  | newTenant (row : TenantRow) (after : KeyedTable TenantRow)
    (hins : db.tenants.insert? row = some after) : Statement rt caller db { db with tenants := after }
  | tenant (id : String) (f : TenantRow → TenantRow) (hf : ∀ r, (f r).id = r.id)
    (hname : ∀ r, (f r).name = r.name) (hcreated : ∀ r, (f r).createdAt = r.createdAt) :
    Statement rt caller db { db with tenants := db.tenants.modify id f hf }
  | newUser (row : UserRow) (after : KeyedTable UserRow) (hown : Owner caller db row.tenantId)
    (hins : db.users.insert? row = some after) : Statement rt caller db { db with users := after }
  | user (id : String) (f : UserRow → UserRow) (hf : ∀ r, (f r).id = r.id)
    (htenant : ∀ r, (f r).tenantId = r.tenantId) :
    Statement rt caller db { db with users := db.users.modify id f hf }
  | removedUser (id : String) :
    Statement rt caller db { db with users := db.users.deleteWhere fun u => Keyed.key u == id }
  | newCase (row : InvestigationRow) (after : KeyedTable InvestigationRow)
    (hown : Owner caller db row.tenantId) (hins : db.investigations.insert? row = some after) :
    Statement rt caller db { db with investigations := after }
  /-- the flush of a loaded row -/
  | case (row old : InvestigationRow) (hold : old ∈ db.investigations.rows) (hid : row.id = old.id)
    (htenant : row.tenantId = old.tenantId) (hcreated : row.createdAt = old.createdAt) :
    Statement rt caller db
      { db with investigations := db.investigations.modify row.id row.write row.write_key }
  | note (row : CaseNoteRow) (after : KeyedTable CaseNoteRow) (hown : Owner caller db row.tenantId)
    (hcase : ∃ c ∈ db.investigations.rows, c.id = row.investigationId ∧ c.tenantId = row.tenantId)
    (hins : db.caseNotes.insert? row = some after) : Statement rt caller db { db with caseNotes := after }
  | newRuleState (row : RuleStateRow) (after : KeyedTable RuleStateRow)
    (hown : Owner caller db row.tenantId) (hrule : ∃ rule ∈ defaultRules, rule.ruleId = row.ruleId)
    (hins : db.ruleStates.insert? row = some after) : Statement rt caller db { db with ruleStates := after }
  | ruleState (id : String) (enabled : Bool) :
    Statement rt caller db { db with
      ruleStates := db.ruleStates.modify id (fun r => { r with enabled := enabled }) fun _ => rfl }
  | clearedIncident (id : String) :
    Statement rt caller db { db with incidents := db.incidents.deleteWhere fun r => Keyed.key r == id }
  | incident (row : IncidentRow) (after : KeyedTable IncidentRow) (hown : Owner caller db row.tenantId)
    (hins : db.incidents.insert? row = some after) : Statement rt caller db { db with incidents := after }
  | audited (now : Time) (e : AuditEntry)
    (hown : Owner caller db e.tenantId ∨ e.tenantId = platformTenant) :
    Statement rt caller db { db with auditLog := AuditService.record rt.sha256 now e db.auditLog }
  | metered (row : UsageEventRow) (hown : Owner caller db row.tenantId) (hkind : row.kind ∈ validKinds)
    (hcost : row.costCents = costCents rt.settings row.kind row.quantity) :
    Statement rt caller db { db with usageEvents := db.usageEvents.insert row }
  | newCredentials (row : TenantCredentialRow) (after : KeyedTable TenantCredentialRow)
    (hown : Owner caller db row.tenantId) (hins : db.tenantCredentials.insert? row = some after) :
    Statement rt caller db { db with tenantCredentials := after }
  | credentials (id : String) (f : TenantCredentialRow → TenantCredentialRow)
    (hf : ∀ r, (f r).tenantId = r.tenantId) :
    Statement rt caller db { db with tenantCredentials := db.tenantCredentials.modify id f hf }
  | revoked (row : RevokedTokenRow) (after : KeyedTable RevokedTokenRow)
    (hown : Owner caller db row.tenantId) (hins : db.revokedTokens.insert? row = some after) :
    Statement rt caller db { db with revokedTokens := after }

/-- Statements one after another. -/
def Transaction (rt : Runtime) (caller : Option String) : Database → Database → Prop :=
  Relation.ReflTransGen (Statement rt caller)

section

variable {rt : Runtime} {caller caller' : Option String} {db db' : Database}

theorem mem_of_insert? {ρ : Type} [Keyed ρ String] {t t' : KeyedTable ρ} {r r' : ρ}
    (h : t.insert? r = some t') : r' ∈ t'.rows ↔ r' ∈ t.rows ∨ r' = r := by
  rw [KeyedTable.insert?_rows h, List.mem_append, List.mem_singleton]

theorem Statement.present (h : Statement rt caller db db') {tenantId : String}
    (hp : Present db tenantId) : Present db' tenantId := by
  cases h with
  | newTenant row after hins =>
    obtain ⟨t, ht, hid⟩ := hp
    exact ⟨t, (mem_of_insert? hins).mpr (Or.inl ht), hid⟩
  | tenant id f hf =>
    obtain ⟨t, ht, hid⟩ := hp
    by_cases hkey : t.id = id
    · exact ⟨f t, (KeyedTable.mem_modify hf).mpr (Or.inl ⟨t, ht, hkey, rfl⟩), (hf t).trans hid⟩
    · exact ⟨t, (KeyedTable.mem_modify hf).mpr (Or.inr ⟨ht, hkey⟩), hid⟩
  | _ => exact hp

/-- What every statement keeps, a transaction keeps. -/
theorem Transaction.keeps {I : Database → Prop}
    (hstep : ∀ a b, Statement rt caller a b → I a → I b) (h : Transaction rt caller db db') (hI : I db) :
    I db' := by
  induction h with
  | refl => exact hI
  | tail _ hs ih => exact hstep _ _ hs ih

/-- What every statement relates, in a preorder, a transaction does. -/
theorem Transaction.lift {R : Database → Database → Prop} (hrefl : ∀ a, R a a)
    (htrans : ∀ a b c, R a b → R b c → R a c) (hstep : ∀ a b, Statement rt caller a b → R a b)
    (h : Transaction rt caller db db') : R db db' := by
  induction h with
  | refl => exact hrefl _
  | tail _ hs ih => exact htrans _ _ _ ih (hstep _ _ hs)

theorem Transaction.present (h : Transaction rt caller db db') {tenantId : String}
    (hp : Present db tenantId) : Present db' tenantId :=
  h.keeps (I := fun d => Present d tenantId) (fun _ _ hs => hs.present) hp

/-- A statement for other tenants, each of them one it may write for or stored. -/
theorem Statement.mono (h : Statement rt caller db db')
    (hown : ∀ t, caller = some t → Owner caller' db t) : Statement rt caller' db db' := by
  have ho {t : String} (h : Owner caller db t) : Owner caller' db t := h.elim (hown t) Or.inr
  cases h with
  | newTenant row after hins => exact .newTenant row after hins
  | tenant id f hf hname hcreated => exact .tenant id f hf hname hcreated
  | newUser row after h hins => exact .newUser row after (ho h) hins
  | user id f hf htenant => exact .user id f hf htenant
  | removedUser id => exact .removedUser id
  | newCase row after h hins => exact .newCase row after (ho h) hins
  | case row old hold hid htenant hcreated => exact .case row old hold hid htenant hcreated
  | note row after h hcase hins => exact .note row after (ho h) hcase hins
  | newRuleState row after h hrule hins => exact .newRuleState row after (ho h) hrule hins
  | ruleState id enabled => exact .ruleState id enabled
  | clearedIncident id => exact .clearedIncident id
  | incident row after h hins => exact .incident row after (ho h) hins
  | audited now e h => exact .audited now e (h.imp ho id)
  | metered row h hkind hcost => exact .metered row (ho h) hkind hcost
  | newCredentials row after h hins => exact .newCredentials row after (ho h) hins
  | credentials id f hf => exact .credentials id f hf
  | revoked row after h hins => exact .revoked row after (ho h) hins

theorem Transaction.mono (h : Transaction rt caller db db') (hown : ∀ t, caller = some t → Owner caller' db t) :
    Transaction rt caller' db db' := by
  induction h with
  | refl => exact .refl
  | tail hts hs ih =>
    refine ih.tail (hs.mono fun t ht => ?_)
    exact (hown t ht).imp id (Transaction.present hts)

end

/-! ## In a session -/

/-- A session has executed statements, and committed what it committed between two of them. -/
structure Executed (rt : Runtime) (caller : Option String) (s t : Session) : Prop where
  rows : Transaction rt caller s.db t.db
  committed : t.committed = s.committed ∨ Transaction rt caller s.db t.committed

instance (rt : Runtime) (caller : Option String) : IsPreorder Session (Executed rt caller) where
  refl s := ⟨.refl, Or.inl rfl⟩
  trans s t u h h' := by
    refine ⟨h.rows.trans h'.rows, ?_⟩
    rcases h'.committed with hc | hc
    · rw [hc]
      exact h.committed
    · exact Or.inr (h.rows.trans hc)

/-- What a step may change without writing rows. -/
abbrev unwritten : List Resource := [.searches, .completions, .connectors, .captured, .tokens]

section

variable {rt : Runtime} {caller : Option String} {α β : Type}

theorem Executed.of_same {s t : Session} (hdb : t.db = s.db) (hc : t.committed = s.committed) :
    Executed rt caller s t := ⟨by rw [hdb]; exact .refl, Or.inl hc⟩

theorem Executed.statement {s t : Session} (h : Statement rt caller s.db t.db)
    (hc : t.committed = s.committed) : Executed rt caller s t := ⟨.single h, Or.inl hc⟩

/-- A step that changes no table. -/
theorem reads {m : ApiM α} (h : Touches unwritten m) : Moves (Executed rt caller) m := by
  intro s
  have hmoved := h.moves s
  refine .of_same (Database.eq_of_kept fun r => ?_) (hmoved .committed (by decide))
  cases r with
  | searches | completions | connectors | captured | tokens | committed => trivial
  | tenants => exact (hmoved .tenants (by decide)).1
  | users => exact (hmoved .users (by decide)).1
  | investigations => exact (hmoved .investigations (by decide)).1
  | caseNotes => exact (hmoved .caseNotes (by decide)).1
  | ruleStates => exact (hmoved .ruleStates (by decide)).1
  | incidents => exact (hmoved .incidents (by decide)).1
  | auditLog => exact (hmoved .auditLog (by decide)).1
  | usageEvents => exact (hmoved .usageEvents (by decide)).1
  | tenantCredentials => exact (hmoved .tenantCredentials (by decide)).1
  | revokedTokens => exact (hmoved .revokedTokens (by decide)).1

theorem commit_executed : Moves (Executed rt caller) commit := fun _ => ⟨.refl, Or.inr .refl⟩

/-- An insertion, where the row may be stored. -/
theorem insertRow_executed {ρ : Type} [Keyed ρ String] {T : TableRef (KeyedTable ρ)} {row : ρ}
    {s : Session} (h : ∀ after, (T.get s.db).insert? row = some after →
      Statement rt caller s.db (T.set s.db after)) :
    Executed rt caller s (stateOf ((insertRow T row).run s)) := by
  obtain ⟨after, hins, hrun⟩ | ⟨_, hrun⟩ := insertRow_cases T row s
  · rw [hrun]
    exact .statement (h after hins) rfl
  · rw [hrun]
    exact .of_same rfl rfl

/-- An execution that goes on where its first part returned. -/
theorem executed_bind {x : ApiM α} {f : α → ApiM β} {s : Session}
    (hx : Executed rt caller s (stateOf (x.run s)))
    (hf : ∀ a t, x.run s = .ok a t → Executed rt caller t (stateOf ((f a).run t))) :
    Executed rt caller s (stateOf ((x >>= f).run s)) := by
  rw [EStateM.run_bind]
  cases hrun : x.run s with
  | ok a t =>
    rw [hrun] at hx
    exact trans_of (Executed rt caller) hx (hf a t hrun)
  | error e t =>
    rw [hrun] at hx
    exact hx

end

end SentinelAI
