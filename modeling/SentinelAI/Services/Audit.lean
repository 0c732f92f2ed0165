import SentinelAI.Core.JsonText
import SentinelAI.Db.Query

/-
  Tamper-evident audit logging (`app/services/audit.py`). Each entry embeds the hash of the
  previous entry of its tenant; `verifyChain` recomputes the chain. SHA-256 is a parameter
  from texts to hex digests.
-/

namespace SentinelAI

open Lib

/-- What a caller of `AuditService.record` passes. -/
structure AuditEntry where
  tenantId : String
  actor : String
  action : String
  targetType : String
  targetId : String
  detail : Option (List (String × JsonValue)) := none

/-- `detail or {}`. -/
def AuditEntry.detailOrEmpty (e : AuditEntry) : List (String × JsonValue) := e.detail.getD []

/-- The dict `_compute_hash` serializes. -/
def hashPreimage (tenantId actor action targetType targetId : String)
    (detail : List (String × JsonValue)) (prevHash : String) : JsonValue :=
  .obj [("tenant_id", .str tenantId), ("actor", .str actor), ("action", .str action),
    ("target_type", .str targetType), ("target_id", .str targetId), ("detail", .obj detail),
    ("prev_hash", .str prevHash)]

/-- `_compute_hash`. -/
def computeHash (sha256 : String → String) (tenantId actor action targetType targetId : String)
    (detail : List (String × JsonValue)) (prevHash : String) : String :=
  sha256 (dumps (hashPreimage tenantId actor action targetType targetId detail prevHash))

namespace AuditService

/-- `WHERE tenant_id = …`. -/
def ofTenant (tenantId : String) (r : AuditLogRow) : Bool := r.tenantId == tenantId

/-- `_last_hash`: the newest entry hash of the tenant by id, or "". -/
def lastHash (log : AutoTable AuditLogRow) (tenantId : String) : String :=
  ((log.select (ofTenant tenantId)).getLast?.map AuditLogRow.entryHash).getD ""

/-- The row `record` inserts. -/
def newRow (sha256 : String → String) (now : Time) (e : AuditEntry) (prevHash : String) :
    AuditLogRow where
  tenantId := e.tenantId
  actor := e.actor
  action := e.action
  targetType := e.targetType
  targetId := e.targetId
  detail := e.detailOrEmpty
  prevHash := prevHash
  entryHash := computeHash sha256 e.tenantId e.actor e.action e.targetType e.targetId
    e.detailOrEmpty prevHash
  createdAt := now

/-- `AuditService.record`. -/
def record (sha256 : String → String) (now : Time) (e : AuditEntry)
    (log : AutoTable AuditLogRow) : AutoTable AuditLogRow :=
  log.insert (newRow sha256 now e (lastHash log e.tenantId))

/-- `AuditService.list`: newest first. -/
def list (log : AutoTable AuditLogRow) (tenantId : String) (limit offset : Nat) :
    List (Nat × AuditLogRow) :=
  ((log.selectRows (ofTenant tenantId)).reverse.drop offset).take limit

/-- The loop of `verify_chain`, from a running hash. -/
def verifyRows (sha256 : String → String) (prevHash : String) : List AuditLogRow → Bool
  | [] => true
  | entry :: rest =>
    let expected := computeHash sha256 entry.tenantId entry.actor entry.action entry.targetType
      entry.targetId entry.detail prevHash
    if entry.prevHash != prevHash || entry.entryHash != expected then false
    else verifyRows sha256 entry.entryHash rest

/-- `AuditService.verify_chain`. -/
def verifyChain (sha256 : String → String) (log : AutoTable AuditLogRow) (tenantId : String) :
    Bool :=
  verifyRows sha256 "" (log.select (ofTenant tenantId))

/-! ## In a request's session -/

/-- `await audit.record(…)`: the entry, without the id it gets. -/
def recordRow (rt : Runtime) (env : Env) (e : AuditEntry) : ApiM AuditLogRow := do
  let prevHash ← query fun db => lastHash db.auditLog e.tenantId
  let now ← readClock env
  let row := newRow rt.sha256 now e prevHash
  insertAuto Tables.auditLog row
  return row

/-- `record` where the caller drops the entry. -/
def recordEntry (rt : Runtime) (env : Env) (e : AuditEntry) : ApiM Unit := do
  let _ ← recordRow rt env e

/-- `await audit.list(…)`. -/
def listEntries (tenantId : String) (limit offset : Nat) : ApiM (List (Nat × AuditLogRow)) :=
  query fun db => list db.auditLog tenantId limit offset

/-- `await audit.verify_chain(…)`. -/
def chainValid (rt : Runtime) (tenantId : String) : ApiM Bool :=
  query fun db => verifyChain rt.sha256 db.auditLog tenantId

/-- In a session, `record` is the log's `record` at the clock's next reading. -/
theorem recordEntry_run (rt : Runtime) (env : Env) (e : AuditEntry) (s : Session) :
    (recordEntry rt env e).run s = .ok () { s with
      db := { s.db with auditLog := record rt.sha256 (env.now s.ticks) e s.db.auditLog }
      ticks := s.ticks + 1 } := rfl

/-- The log has a row of an entry. -/
def HasEntry (sha256 : String → String) (log : AutoTable AuditLogRow) (e : AuditEntry) : Prop :=
  ∃ now p, newRow sha256 now e p ∈ log.rows.map Prod.snd

theorem HasEntry.extend {sha256 : String → String} {log log' : AutoTable AuditLogRow} {e : AuditEntry}
    (h : HasEntry sha256 log e) (hlog : log.rows <+: log'.rows) : HasEntry sha256 log' e := by
  obtain ⟨now, p, hmem⟩ := h
  exact ⟨now, p, (hlog.map Prod.snd).subset hmem⟩

/-- A log that goes on, with a row of an entry in what is new. -/
def Appends (sha256 : String → String) (log log' : AutoTable AuditLogRow) (e : AuditEntry) : Prop :=
  ∃ new, log'.rows = log.rows ++ new ∧ ∃ now p, newRow sha256 now e p ∈ new.map Prod.snd

theorem Appends.hasEntry {sha256 : String → String} {log log' : AutoTable AuditLogRow} {e : AuditEntry}
    (h : Appends sha256 log log' e) : HasEntry sha256 log' e := by
  obtain ⟨new, hrows, now, p, hmem⟩ := h
  refine ⟨now, p, ?_⟩
  rw [hrows, List.map_append]
  exact List.mem_append_right _ hmem

/-- What came before may be longer ago. -/
theorem Appends.after {sha256 : String → String} {log₀ log log' : AutoTable AuditLogRow} {e : AuditEntry}
    (h : Appends sha256 log log' e) (hlog : log₀.rows <+: log.rows) : Appends sha256 log₀ log' e := by
  obtain ⟨new, hrows, now, p, hmem⟩ := h
  obtain ⟨between, hbetween⟩ := hlog
  refine ⟨between ++ new, ?_, now, p, ?_⟩
  · rw [hrows, ← hbetween, List.append_assoc]
  · rw [List.map_append]
    exact List.mem_append_right _ hmem

theorem recordEntry_appends {rt : Runtime} {env : Env} {e : AuditEntry} {s t : Session} {u : Unit}
    (h : (recordEntry rt env e).run s = .ok u t) :
    Appends rt.sha256 s.db.auditLog t.db.auditLog e := by
  rw [recordEntry_run] at h
  cases h
  exact ⟨_, rfl, _, _, List.mem_singleton_self _⟩

theorem recordEntry_hasEntry {rt : Runtime} {env : Env} {e : AuditEntry} {s t : Session} {u : Unit}
    (h : (recordEntry rt env e).run s = .ok u t) : HasEntry rt.sha256 t.db.auditLog e :=
  (recordEntry_appends h).hasEntry

end AuditService

/-- Two preimages have one text exactly when their columns agree, the details up to the
    order of dict keys. -/
theorem dumps_hashPreimage (t a c ty i : String) (d : List (String × JsonValue)) (p : String)
    (t' a' c' ty' i' : String) (d' : List (String × JsonValue)) (p' : String) :
    dumps (hashPreimage t a c ty i d p) = dumps (hashPreimage t' a' c' ty' i' d' p') ↔
      t = t' ∧ a = a' ∧ c = c' ∧ ty = ty' ∧ i = i' ∧ SameJson (.obj d) (.obj d') ∧ p = p' := by
  rw [dumps_eq_iff]
  unfold SameJson hashPreimage
  have hsort : ∀ (t a c ty i : String) (d : List (String × JsonValue)) (p : String),
      sortKeys (.obj [("tenant_id", .str t), ("actor", .str a), ("action", .str c),
        ("target_type", .str ty), ("target_id", .str i), ("detail", .obj d),
        ("prev_hash", .str p)]) =
      .obj [("action", .str c), ("actor", .str a), ("detail", sortKeys (.obj d)),
        ("prev_hash", .str p), ("target_id", .str i), ("target_type", .str ty),
        ("tenant_id", .str t)] := by
    intro t a c ty i d p
    simp only [sortKeys, sortKeysMembers, sortKeysMember, sortItems, List.insertionSort_cons,
      List.insertionSort_nil, List.orderedInsert]
    simp +decide
  rw [hsort, hsort]
  simp only [JsonValue.obj.injEq, List.cons.injEq, Prod.mk.injEq, JsonValue.str.injEq, true_and,
    and_true]
  tauto

end SentinelAI
