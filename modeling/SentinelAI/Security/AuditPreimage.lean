import SentinelAI.Core.JsonOrder
import SentinelAI.Services.Audit

/-
  The text behind an audit hash. Two calls of `_compute_hash` hash one text exactly when their
  arguments agree, the details up to the order of their keys (`text_eq_iff`): nothing in an
  actor's or a target's name can pass for something else, and a chain read back with its
  details in another key order verifies as before (`verifyRows_reloaded`).
-/

namespace SentinelAI

/-- The arguments of `_compute_hash`. The detail is a dict, so no key is in it twice. -/
structure HashArguments where
  tenantId : String
  actor : String
  action : String
  targetType : String
  targetId : String
  detail : List (String × JsonValue)
  prevHash : String
  distinctKeys : DistinctKeys (.obj detail)

namespace HashArguments

/-- `canonical`, the text `_compute_hash` hands to SHA-256. -/
def text (x : HashArguments) : String :=
  dumps (hashPreimage x.tenantId x.actor x.action x.targetType x.targetId x.detail x.prevHash)

theorem computeHash_eq (sha256 : String → String) (x : HashArguments) :
    computeHash sha256 x.tenantId x.actor x.action x.targetType x.targetId x.detail x.prevHash =
      sha256 x.text := rfl

/-- The same arguments, the details up to the order of their keys. -/
structure SameArguments (x y : HashArguments) : Prop where
  tenantId : x.tenantId = y.tenantId
  actor : x.actor = y.actor
  action : x.action = y.action
  targetType : x.targetType = y.targetType
  targetId : x.targetId = y.targetId
  detail : EqualUpToOrder (.obj x.detail) (.obj y.detail)
  prevHash : x.prevHash = y.prevHash

/-- The hashed text is canonical and unambiguous. -/
theorem text_eq_iff (x y : HashArguments) : x.text = y.text ↔ SameArguments x y := by
  have hdetail := equalUpToOrder_iff (.obj x.detail) (.obj y.detail) x.distinctKeys y.distinctKeys
  unfold text
  rw [dumps_hashPreimage, ← hdetail]
  constructor
  · intro ⟨ht, ha, hc, hty, hi, hd, hp⟩
    exact ⟨ht, ha, hc, hty, hi, hd, hp⟩
  · intro h
    exact ⟨h.tenantId, h.actor, h.action, h.targetType, h.targetId, h.detail, h.prevHash⟩

end HashArguments

/-! ## Reloaded rows -/

/-- A row as the JSON column gives it back: the keys of its detail may come in another order. -/
structure Reloaded (r r' : AuditLogRow) : Prop where
  tenantId : r.tenantId = r'.tenantId
  actor : r.actor = r'.actor
  action : r.action = r'.action
  targetType : r.targetType = r'.targetType
  targetId : r.targetId = r'.targetId
  prevHash : r.prevHash = r'.prevHash
  entryHash : r.entryHash = r'.entryHash
  distinctKeys : DistinctKeys (.obj r.detail)
  distinctKeys' : DistinctKeys (.obj r'.detail)
  detail : EqualUpToOrder (.obj r.detail) (.obj r'.detail)

/-- The hash recomputed for a reloaded row is the one recomputed before. -/
theorem Reloaded.computeHash {r r' : AuditLogRow} (h : Reloaded r r') (sha256 : String → String)
    (prevHash : String) :
    computeHash sha256 r.tenantId r.actor r.action r.targetType r.targetId r.detail prevHash =
      computeHash sha256 r'.tenantId r'.actor r'.action r'.targetType r'.targetId r'.detail
        prevHash := by
  have hdetail := (equalUpToOrder_iff _ _ h.distinctKeys h.distinctKeys').mp h.detail
  unfold SentinelAI.computeHash
  rw [(dumps_hashPreimage ..).mpr
    ⟨h.tenantId, h.actor, h.action, h.targetType, h.targetId, hdetail, rfl⟩]

/-- `verify_chain` says of a reloaded log what it said before. -/
theorem verifyRows_reloaded (sha256 : String → String) {rows rows' : List AuditLogRow}
    (h : List.Forall₂ Reloaded rows rows') (prevHash : String) :
    AuditService.verifyRows sha256 prevHash rows = AuditService.verifyRows sha256 prevHash rows' := by
  induction h generalizing prevHash with
  | nil => rfl
  | cons hrow _ ih =>
    rw [AuditService.verifyRows, AuditService.verifyRows, hrow.computeHash, hrow.prevHash,
      hrow.entryHash, ih]

end SentinelAI
