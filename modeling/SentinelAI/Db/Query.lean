import SentinelAI.Core.Session

/-
  The statements repositories run on one table. A `TableRef` names a table of the database.
-/

namespace SentinelAI

open Lib

structure TableRef (τ : Type) where
  get : Database → τ
  set : Database → τ → Database

namespace Tables

def tenants : TableRef (KeyedTable TenantRow) := ⟨Database.tenants, fun db t => { db with tenants := t }⟩

def users : TableRef (KeyedTable UserRow) := ⟨Database.users, fun db t => { db with users := t }⟩

def investigations : TableRef (KeyedTable InvestigationRow) :=
  ⟨Database.investigations, fun db t => { db with investigations := t }⟩

def caseNotes : TableRef (KeyedTable CaseNoteRow) :=
  ⟨Database.caseNotes, fun db t => { db with caseNotes := t }⟩

def ruleStates : TableRef (KeyedTable RuleStateRow) :=
  ⟨Database.ruleStates, fun db t => { db with ruleStates := t }⟩

def incidents : TableRef (KeyedTable IncidentRow) :=
  ⟨Database.incidents, fun db t => { db with incidents := t }⟩

def auditLog : TableRef (AutoTable AuditLogRow) :=
  ⟨Database.auditLog, fun db t => { db with auditLog := t }⟩

def usageEvents : TableRef (AutoTable UsageEventRow) :=
  ⟨Database.usageEvents, fun db t => { db with usageEvents := t }⟩

def tenantCredentials : TableRef (KeyedTable TenantCredentialRow) :=
  ⟨Database.tenantCredentials, fun db t => { db with tenantCredentials := t }⟩

def revokedTokens : TableRef (KeyedTable RevokedTokenRow) :=
  ⟨Database.revokedTokens, fun db t => { db with revokedTokens := t }⟩

end Tables

/-- An offset as a parameter of a statement: the driver takes 64 bits. -/
def bindOffset (offset : Int) : ApiM Unit := raiseIf (2 ^ 63 ≤ offset) (.other "OverflowError")

section

variable {ρ : Type} [Keyed ρ String]

/-- `select(…).where(p)`, all rows. -/
def selectAll (T : TableRef (KeyedTable ρ)) (p : ρ → Bool) : ApiM (List ρ) :=
  query fun db => (T.get db).select p

/-- `scalar_one_or_none` of the rows a statement selected. -/
def oneOrNone : List ρ → ApiM (Option ρ)
  | [] => pure none
  | [r] => pure (some r)
  | _ => throw .multipleResults

/-- `select(…).where(p)`, `scalar_one_or_none`. -/
def selectOne (T : TableRef (KeyedTable ρ)) (p : ρ → Bool) : ApiM (Option ρ) := do
  oneOrNone (← selectAll T p)

/-- A statement for one row returns all it selected. -/
theorem selectOne_eq_ok {T : TableRef (KeyedTable ρ)} {p : ρ → Bool} {s t : Session}
    {o : Option ρ} :
    (selectOne T p).run s = .ok o t ↔ (T.get s.db).select p = o.toList ∧ t = s := by
  have hsel : (selectAll T p).run s = .ok ((T.get s.db).select p) s := rfl
  unfold selectOne
  rw [run_bind_ok hsel]
  match (T.get s.db).select p, o with
  | [], none => simp [oneOrNone, eq_comm]
  | [], some r => simp [oneOrNone]
  | [r], none => simp [oneOrNone]
  | [r], some r' => simp [oneOrNone, eq_comm]
  | r :: r' :: rs, o => cases o <;> simp [oneOrNone]

/-- A statement for one row answers while at most one meets it. -/
theorem selectOne_run_of_length {T : TableRef (KeyedTable ρ)} {p : ρ → Bool} {s : Session}
    (h : ((T.get s.db).select p).length ≤ 1) : ∃ o, (selectOne T p).run s = .ok o s := by
  match hsel : (T.get s.db).select p with
  | [] => exact ⟨none, selectOne_eq_ok.mpr ⟨hsel, rfl⟩⟩
  | [r] => exact ⟨some r, selectOne_eq_ok.mpr ⟨hsel, rfl⟩⟩
  | _ :: _ :: _ =>
    rw [hsel] at h
    simp at h

/-- `select(…).where(p, key = k)`, `scalar_one_or_none`: a key never selects two rows. -/
theorem selectOne_key_run (T : TableRef (KeyedTable ρ)) (p q : ρ → Bool) (k : String)
    (hq : ∀ r, q r = (p r && decide (Keyed.key r = k))) (s : Session) :
    (selectOne T q).run s = .ok (((T.get s.db).find? k).filter p) s :=
  selectOne_eq_ok.mpr ⟨KeyedTable.select_key (T.get s.db) p q k hq, rfl⟩

/-- `session.get(Row, key)`. -/
def sessionGet (T : TableRef (KeyedTable ρ)) (key : String) : ApiM (Option ρ) :=
  query fun db => (T.get db).find? key

/-- `session.add(row)` and the flush. -/
def insertRow (T : TableRef (KeyedTable ρ)) (row : ρ) : ApiM Unit :=
  dbCall fun db =>
    match (T.get db).insert? row with
    | some t => .ok ((), T.set db t)
    | none => .error .integrity

/-- An insertion adds its row, or finds its key taken and leaves the session. -/
theorem insertRow_cases (T : TableRef (KeyedTable ρ)) (row : ρ) (s : Session) :
    (∃ t, (T.get s.db).insert? row = some t ∧
      (insertRow T row).run s = .ok () { s with db := T.set s.db t }) ∨
    ((T.get s.db).insert? row = none ∧ (insertRow T row).run s = .error .integrity s) := by
  simp only [insertRow, dbCall, EStateM.run]
  cases (T.get s.db).insert? row with
  | none => exact Or.inr ⟨rfl, rfl⟩
  | some t => exact Or.inl ⟨t, rfl, rfl⟩

theorem insertRow_eq_ok {T : TableRef (KeyedTable ρ)} {row : ρ} {s u : Session} {x : Unit} :
    (insertRow T row).run s = .ok x u ↔
      ∃ t, (T.get s.db).insert? row = some t ∧ u = { s with db := T.set s.db t } := by
  obtain ⟨t, hins, hrun⟩ | ⟨hins, hrun⟩ := insertRow_cases T row s <;>
    (rw [hrun, hins]; simp [eq_comm])

/-- The flush of a changed row: `UPDATE … WHERE key`. -/
def updateRow (T : TableRef (KeyedTable ρ)) (key : String) (f : ρ → ρ)
    (hf : ∀ r, Keyed.key (f r) = Keyed.key r) : ApiM Unit :=
  dbCall fun db => .ok ((), T.set db ((T.get db).modify key f hf))

/-- `session.delete(row)` and the flush: `DELETE … WHERE key`. -/
def deleteRow (T : TableRef (KeyedTable ρ)) (key : String) : ApiM Unit :=
  dbCall fun db => .ok ((), T.set db ((T.get db).deleteWhere fun r => Keyed.key r == key))

end

section

variable {α : Type}

/-- `select(…).where(p).order_by(id)`, ids included. -/
def selectIds (T : TableRef (AutoTable α)) (p : α → Bool) : ApiM (List (Nat × α)) :=
  query fun db => (T.get db).selectRows p

/-- `session.add(row)` and the flush, the id being generated. -/
def insertAuto (T : TableRef (AutoTable α)) (row : α) : ApiM Unit :=
  dbCall fun db => .ok ((), T.set db ((T.get db).insert row))

end

end SentinelAI
