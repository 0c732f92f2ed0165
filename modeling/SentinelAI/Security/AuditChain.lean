import SentinelAI.Lib.HashChain
import SentinelAI.Services.Audit

/-
  The audit log as a hash chain. `verify_chain` accepts exactly the chains of
  `Lib.HashChain` (`verifyRows_iff`) and `record` extends one at its head, so

  * a log written by `record` alone always verifies, for every tenant;
  * one tampering with one row is found unless it removes the newest row or changes
    `created_at`, the column no hash covers;
  * the newest hash fixes the whole log of its tenant.
-/

namespace SentinelAI

open Lib Lib.HashChain AuditService

/-! ## Rows as links -/

/-- The columns a hash covers, `prev_hash` apart. -/
structure AuditBody where
  tenantId : String
  actor : String
  action : String
  targetType : String
  targetId : String
  detail : List (String × JsonValue)

/-- Equal columns, the details as dicts. -/
structure AuditBody.Same (b b' : AuditBody) : Prop where
  tenantId : b.tenantId = b'.tenantId
  actor : b.actor = b'.actor
  action : b.action = b'.action
  targetType : b.targetType = b'.targetType
  targetId : b.targetId = b'.targetId
  detail : SameJson (.obj b.detail) (.obj b'.detail)

def AuditLogRow.body (r : AuditLogRow) : AuditBody :=
  ⟨r.tenantId, r.actor, r.action, r.targetType, r.targetId, r.detail⟩

def AuditEntry.body (e : AuditEntry) : AuditBody :=
  ⟨e.tenantId, e.actor, e.action, e.targetType, e.targetId, e.detailOrEmpty⟩

def AuditLogRow.link (r : AuditLogRow) : Link AuditBody String := ⟨r.body, r.prevHash, r.entryHash⟩

/-- `_compute_hash` on a body. -/
def linkHash (sha256 : String → String) (b : AuditBody) (prevHash : String) : String :=
  computeHash sha256 b.tenantId b.actor b.action b.targetType b.targetId b.detail prevHash

/-- The chain of a tenant: its rows in id order. -/
def chainOf (log : AutoTable AuditLogRow) (tenantId : String) : List (Link AuditBody String) :=
  (log.select (ofTenant tenantId)).map AuditLogRow.link

/-- An idealized SHA-256: no collisions, and a digest is never the empty text. -/
structure CollisionFree (sha256 : String → String) : Prop where
  inj : ∀ {s s' : String}, sha256 s = sha256 s' → s = s'
  ne_empty : ∀ s, sha256 s ≠ ""

/-- The entry hash determines the columns it covers and is never the empty text. -/
def HashCommits (sha256 : String → String) : Prop :=
  Committing (linkHash sha256) AuditBody.Same ""

theorem CollisionFree.commits {sha256 : String → String} (h : CollisionFree sha256) :
    HashCommits sha256 where
  inj := by
    intro b b' p p' he
    have hd := (dumps_hashPreimage ..).mp (h.inj he)
    obtain ⟨h₁, h₂, h₃, h₄, h₅, h₆, h₇⟩ := hd
    exact ⟨⟨h₁, h₂, h₃, h₄, h₅, h₆⟩, h₇⟩
  ne_genesis := fun _ _ => h.ne_empty _

theorem verifyRows_iff (sha256 : String → String) (prevHash : String) (rows : List AuditLogRow) :
    verifyRows sha256 prevHash rows = true ↔
      Chained (linkHash sha256) prevHash (rows.map AuditLogRow.link) := by
  induction rows generalizing prevHash with
  | nil => simp [verifyRows, Chained]
  | cons r rows ih =>
    rw [List.map_cons]
    unfold verifyRows Chained
    rw [← ih]
    by_cases hp : r.prevHash = prevHash
    · by_cases hd : r.entryHash = linkHash sha256 r.body prevHash
      · simp [AuditLogRow.link, hp, hd, linkHash, AuditLogRow.body]
      · have hd' := hd
        simp only [linkHash, AuditLogRow.body] at hd'
        simp [AuditLogRow.link, hp, hd, hd']
    · simp [AuditLogRow.link, hp]

theorem verifyChain_iff (sha256 : String → String) (log : AutoTable AuditLogRow) (t : String) :
    verifyChain sha256 log t = true ↔ Chained (linkHash sha256) "" (chainOf log t) :=
  verifyRows_iff sha256 "" _

theorem lastHash_eq (log : AutoTable AuditLogRow) (t : String) :
    lastHash log t = head "" (chainOf log t) := by
  unfold lastHash head chainOf
  rw [List.getLast?_map, Option.map_map]
  rfl

theorem newRow_link (sha256 : String → String) (now : Time) (e : AuditEntry) (p : String) :
    (newRow sha256 now e p).link = extend (linkHash sha256) p e.body := rfl

/-! ## A log written by `record` -/

/-- `record` called once for each entry, in order, at the time given. -/
def recordAll (sha256 : String → String) (calls : List (Time × AuditEntry))
    (log : AutoTable AuditLogRow) : AutoTable AuditLogRow :=
  calls.foldl (fun log c => record sha256 c.1 c.2 log) log

/-- The rows of a tenant after one `record`. -/
theorem select_record (sha256 : String → String) (now : Time) (e : AuditEntry)
    (log : AutoTable AuditLogRow) (t : String) :
    (record sha256 now e log).select (ofTenant t) =
      log.select (ofTenant t) ++
        (if e.tenantId == t then [newRow sha256 now e (lastHash log t)] else []) := by
  unfold record
  rw [AutoTable.select_insert]
  by_cases h : e.tenantId = t
  · simp [ofTenant, newRow, h]
  · simp [ofTenant, newRow, h]

theorem verifyChain_record (sha256 : String → String) (now : Time) (e : AuditEntry)
    (log : AutoTable AuditLogRow) (t : String) (h : verifyChain sha256 log t = true) :
    verifyChain sha256 (record sha256 now e log) t = true := by
  rw [verifyChain_iff] at h ⊢
  unfold chainOf
  rw [select_record, List.map_append]
  by_cases ht : e.tenantId = t
  · rw [if_pos (by simpa using ht), List.map_singleton, newRow_link, lastHash_eq]
    exact h.extend e.body
  · rw [if_neg (by simpa using ht), List.map_nil, List.append_nil]
    exact h

theorem verifyChain_recordAll (sha256 : String → String) (calls : List (Time × AuditEntry))
    (log : AutoTable AuditLogRow) (t : String) (h : verifyChain sha256 log t = true) :
    verifyChain sha256 (recordAll sha256 calls log) t = true := by
  induction calls generalizing log with
  | nil => exact h
  | cons c calls ih => exact ih _ (verifyChain_record sha256 c.1 c.2 log t h)

/-- What a caller passed, read back from a row. -/
def AuditLogRow.recorded (r : AuditLogRow) : Time × AuditEntry :=
  (r.createdAt, ⟨r.tenantId, r.actor, r.action, r.targetType, r.targetId, some r.detail⟩)

/-- A call with its `None` detail made `{}`. -/
def normalizedCall (c : Time × AuditEntry) : Time × AuditEntry :=
  (c.1, { c.2 with detail := some c.2.detailOrEmpty })

theorem select_recordAll (sha256 : String → String) (calls : List (Time × AuditEntry))
    (log : AutoTable AuditLogRow) (t : String) :
    ((recordAll sha256 calls log).select (ofTenant t)).map AuditLogRow.recorded =
      (log.select (ofTenant t)).map AuditLogRow.recorded ++
        (calls.filter fun c => c.2.tenantId == t).map normalizedCall := by
  induction calls generalizing log with
  | nil => simp [recordAll]
  | cons c calls ih =>
    show ((recordAll sha256 calls (record sha256 c.1 c.2 log)).select _).map _ = _
    rw [ih, select_record, List.map_append, List.append_assoc]
    congr 1
    by_cases h : (c.2.tenantId == t) = true
    · rw [if_pos h, List.filter_cons, if_pos h]
      rfl
    · rw [if_neg h, List.filter_cons, if_neg h]
      rfl

/-- After every prefix of a sequence of `record` calls the chain of every tenant verifies,
    and its rows in id order are its calls in call order. -/
theorem recorded_log_verifies (sha256 : String → String) (calls : List (Time × AuditEntry))
    (n : Nat) (t : String) :
    verifyChain sha256 (recordAll sha256 (calls.take n) .empty) t = true ∧
      ((recordAll sha256 (calls.take n) .empty).select (ofTenant t)).map AuditLogRow.recorded =
        ((calls.take n).filter fun c => c.2.tenantId == t).map normalizedCall := by
  refine ⟨verifyChain_recordAll sha256 _ _ t rfl, ?_⟩
  rw [select_recordAll]
  rfl

/-! ## The head hash -/

/-- Rows that agree on every column but `created_at`, the details as dicts. -/
structure AuditLogRow.Agrees (r r' : AuditLogRow) : Prop where
  body : r.body.Same r'.body
  prevHash : r.prevHash = r'.prevHash
  entryHash : r.entryHash = r'.entryHash

theorem head_link_getLast (rows : List AuditLogRow) (h : rows ≠ []) :
    head "" (rows.map AuditLogRow.link) = (rows.getLast h).entryHash := by
  unfold head
  rw [List.getLast?_map, List.getLast?_eq_some_getLast h]
  rfl

/-- Two non-empty accepted row sequences with one last hash are the same history. -/
theorem last_hash_commits (sha256 : String → String) (hs : HashCommits sha256)
    (rows rows' : List AuditLogRow) (hne : rows ≠ []) (hne' : rows' ≠ [])
    (h : verifyRows sha256 "" rows = true) (h' : verifyRows sha256 "" rows' = true)
    (hlast : (rows.getLast hne).entryHash = (rows'.getLast hne').entryHash) :
    rows.length = rows'.length ∧ List.Forall₂ AuditLogRow.Agrees rows rows' := by
  have hall := head_commits hs _ _ ((verifyRows_iff ..).mp h) ((verifyRows_iff ..).mp h')
    (by rw [head_link_getLast rows hne, head_link_getLast rows' hne', hlast])
  rw [List.forall₂_map_left_iff, List.forall₂_map_right_iff] at hall
  exact ⟨hall.length_eq, hall.imp fun r r' hr => ⟨hr.1, hr.2.1, hr.2.2⟩⟩

/-- A collision-free stand-in for SHA-256, to exhibit runs with. -/
def markHash (s : String) : String := "#" ++ s

theorem markHash_collisionFree : CollisionFree markHash where
  inj := by
    intro s s' h
    have := congrArg String.toList h
    simp only [markHash, String.toList_append, List.append_cancel_left_eq] at this
    exact String.toList_inj.mp this
  ne_empty := by
    intro s h
    have := congrArg String.toList h
    simp [markHash, String.toList_append] at this

/-- A login recorded with the given detail. -/
def loginCall (detail : List (String × JsonValue)) : Time × AuditEntry :=
  (0, ⟨"t", "alice", "auth.login", "user", "u1", some detail⟩)

def loginRow (detail : List (String × JsonValue)) : AuditLogRow :=
  newRow markHash 0 (loginCall detail).2 ""

theorem loginRow_accepted (detail : List (String × JsonValue)) :
    verifyRows markHash "" [loginRow detail] = true := by
  rw [verifyRows_iff]
  exact (chained_snoc "" [] (loginRow detail).link).mpr ⟨trivial, rfl, rfl⟩

theorem loginRow_entryHash {d d' : List (String × JsonValue)}
    (h : SameJson (.obj d) (.obj d')) : (loginRow d).entryHash = (loginRow d').entryHash :=
  congrArg markHash ((dumps_hashPreimage ..).mpr ⟨rfl, rfl, rfl, rfl, rfl, h, rfl⟩)

def ipFirst : List (String × JsonValue) := [("ip", .str "10.0.0.1"), ("mfa", .bool true)]

def mfaFirst : List (String × JsonValue) := [("mfa", .bool true), ("ip", .str "10.0.0.1")]

theorem same_ipFirst_mfaFirst : SameJson (.obj ipFirst) (.obj mfaFirst) := by
  unfold SameJson ipFirst mfaFirst
  simp +decide only [sortKeys, sortKeysMembers, sortKeysMember, sortItems,
    List.insertionSort_cons, List.insertionSort_nil, List.orderedInsert]
  rfl

/-- A login recorded with the given detail, and the logout after it. -/
def sessionLog (detail : List (String × JsonValue)) : List AuditLogRow :=
  [loginRow detail,
    newRow markHash 60 ⟨"t", "alice", "auth.logout", "user", "u1", none⟩ (loginRow detail).entryHash]

theorem sessionLog_accepted (detail : List (String × JsonValue)) :
    verifyRows markHash "" (sessionLog detail) = true := by
  rw [verifyRows_iff]
  have hlogin := (verifyRows_iff ..).mp (loginRow_accepted detail)
  exact (chained_snoc "" [(loginRow detail).link] _).mpr ⟨hlogin, rfl, rfl⟩

/-- Two accepted logs whose first details are one dict written in two orders. -/
theorem last_hash_commits_login :
    (sessionLog ipFirst).length = (sessionLog mfaFirst).length ∧
      List.Forall₂ AuditLogRow.Agrees (sessionLog ipFirst) (sessionLog mfaFirst) := by
  have hprev := loginRow_entryHash same_ipFirst_mfaFirst
  have hlast : (newRow markHash 60 ⟨"t", "alice", "auth.logout", "user", "u1", none⟩
        (loginRow ipFirst).entryHash).entryHash =
      (newRow markHash 60 ⟨"t", "alice", "auth.logout", "user", "u1", none⟩
        (loginRow mfaFirst).entryHash).entryHash := by rw [hprev]
  exact last_hash_commits markHash markHash_collisionFree.commits (sessionLog ipFirst)
    (sessionLog mfaFirst) (by simp [sessionLog]) (by simp [sessionLog]) (sessionLog_accepted _)
    (sessionLog_accepted _) hlast

/-! ## Tampering -/

/-- A new value for one stored column of a row. -/
inductive ColumnEdit where
  | actor (v : String)
  | action (v : String)
  | targetType (v : String)
  | targetId (v : String)
  | detail (v : List (String × JsonValue))
  | prevHash (v : String)
  | entryHash (v : String)
  | createdAt (v : Time)

def ColumnEdit.apply : ColumnEdit → AuditLogRow → AuditLogRow
  | .actor v, r => { r with actor := v }
  | .action v, r => { r with action := v }
  | .targetType v, r => { r with targetType := v }
  | .targetId v, r => { r with targetId := v }
  | .detail v, r => { r with detail := v }
  | .prevHash v, r => { r with prevHash := v }
  | .entryHash v, r => { r with entryHash := v }
  | .createdAt v, r => { r with createdAt := v }

/-- The new value is not the stored one (a detail: not the same dict). -/
def ColumnEdit.Changes : ColumnEdit → AuditLogRow → Prop
  | .actor v, r => v ≠ r.actor
  | .action v, r => v ≠ r.action
  | .targetType v, r => v ≠ r.targetType
  | .targetId v, r => v ≠ r.targetId
  | .detail v, r => ¬ SameJson (.obj v) (.obj r.detail)
  | .prevHash v, r => v ≠ r.prevHash
  | .entryHash v, r => v ≠ r.entryHash
  | .createdAt v, r => v ≠ r.createdAt

/-- Whether the edited column is `created_at`. -/
def ColumnEdit.isCreatedAt : ColumnEdit → Bool
  | .createdAt _ => true
  | _ => false

inductive Tampering where
  | delete
  | edit (e : ColumnEdit)

/-- The log with one row, given by id, tampered with. -/
def Tampering.apply (log : AutoTable AuditLogRow) (i : Nat) : Tampering → AutoTable AuditLogRow
  | .delete => log.deleteId i
  | .edit e => log.modifyId i e.apply

def Tampering.Changes : Tampering → AuditLogRow → Prop
  | .delete, _ => True
  | .edit e, r => e.Changes r

/-- The tampering reaches something a hash still checks: a deleted row is not the newest of
    its tenant, an edited column is not `created_at`. -/
def Tampering.Covered (log : AutoTable AuditLogRow) (t : String) (i : Nat) : Tampering → Prop
  | .delete => ∃ j ∈ (log.selectRows (ofTenant t)).map Prod.fst, i < j
  | .edit e => e.isCreatedAt = false

theorem ColumnEdit.apply_tenantId (e : ColumnEdit) (r : AuditLogRow) :
    (e.apply r).tenantId = r.tenantId := by
  cases e <;> rfl

/-- The ids of a tenant's rows before and after one of them. -/
theorem split_at_row (log : AutoTable AuditLogRow) (t : String) {i : Nat} {r : AuditLogRow}
    (hr : (i, r) ∈ log.selectRows (ofTenant t)) :
    ∃ us vs, log.selectRows (ofTenant t) = us ++ (i, r) :: vs ∧
      (∀ x ∈ us, x.1 < i) ∧ ∀ x ∈ vs, i < x.1 := by
  obtain ⟨us, vs, he⟩ := List.append_of_mem hr
  have hs : ((log.selectRows (ofTenant t)).map Prod.fst).Pairwise (· < ·) :=
    log.sorted.sublist (List.filter_sublist.map _)
  rw [he, List.map_append, List.map_cons, List.pairwise_append, List.pairwise_cons] at hs
  refine ⟨us, vs, he, ?_, ?_⟩
  · intro x hx
    exact hs.2.2 x.1 (List.mem_map_of_mem hx) i (by simp)
  · intro x hx
    exact hs.2.1.1 x.1 (List.mem_map_of_mem hx)

theorem select_deleteId (log : AutoTable AuditLogRow) (t : String) (i : Nat) :
    (log.deleteId i).select (ofTenant t) =
      ((log.selectRows (ofTenant t)).filter fun x => x.1 != i).map Prod.snd := by
  rw [AutoTable.select_eq_map_selectRows]
  unfold AutoTable.selectRows AutoTable.deleteId
  rw [List.filter_comm]

theorem select_modifyId (log : AutoTable AuditLogRow) (t : String) (i : Nat) (e : ColumnEdit) :
    (log.modifyId i e.apply).select (ofTenant t) =
      (log.selectRows (ofTenant t)).map fun x => if x.1 = i then e.apply x.2 else x.2 := by
  rw [AutoTable.select_eq_map_selectRows]
  unfold AutoTable.selectRows AutoTable.modifyId
  rw [List.filter_map, List.map_map]
  congr 1
  refine List.filter_congr fun x _ => ?_
  by_cases h : x.1 = i <;> simp [h, ofTenant, e.apply_tenantId]

/-- The tenant's chain around a row, after the row's removal. -/
theorem chainOf_delete {log : AutoTable AuditLogRow} {t : String} {i : Nat} {r : AuditLogRow}
    {us vs : List (Nat × AuditLogRow)} (he : log.selectRows (ofTenant t) = us ++ (i, r) :: vs)
    (hus : ∀ x ∈ us, x.1 < i) (hvs : ∀ x ∈ vs, i < x.1) :
    chainOf (log.deleteId i) t = (us ++ vs).map fun x => x.2.link := by
  unfold chainOf
  rw [select_deleteId, he, List.map_map]
  congr 1
  rw [List.filter_append, List.filter_cons_of_neg (by simp)]
  congr 1
  · exact List.filter_eq_self.mpr fun x hx => by simpa using (hus x hx).ne
  · exact List.filter_eq_self.mpr fun x hx => by simpa using (hvs x hx).ne'

/-- The tenant's chain around a row, after an edit of the row. -/
theorem chainOf_edit {log : AutoTable AuditLogRow} {t : String} {i : Nat} {r : AuditLogRow}
    {us vs : List (Nat × AuditLogRow)} (he : log.selectRows (ofTenant t) = us ++ (i, r) :: vs)
    (hus : ∀ x ∈ us, x.1 < i) (hvs : ∀ x ∈ vs, i < x.1) (e : ColumnEdit) :
    chainOf (log.modifyId i e.apply) t =
      us.map (fun x => x.2.link) ++ (e.apply r).link :: vs.map fun x => x.2.link := by
  unfold chainOf
  rw [select_modifyId, he, List.map_map, List.map_append, List.map_cons]
  congr 1
  · refine List.map_congr_left fun x hx => ?_
    simp [(hus x hx).ne]
  · congr 1
    · simp
    · refine List.map_congr_left fun x hx => ?_
      simp [(hvs x hx).ne']

theorem chainOf_split {log : AutoTable AuditLogRow} {t : String} {i : Nat} {r : AuditLogRow}
    {us vs : List (Nat × AuditLogRow)} (he : log.selectRows (ofTenant t) = us ++ (i, r) :: vs) :
    chainOf log t = us.map (fun x => x.2.link) ++ r.link :: vs.map fun x => x.2.link := by
  unfold chainOf
  rw [AutoTable.select_eq_map_selectRows, he, List.map_map, List.map_append, List.map_cons]
  rfl

/-- An edit of a covered column leaves a link that no chain can have there. -/
theorem edit_breaks {sha256 : String → String} (hs : HashCommits sha256)
    {us vs vs' : List (Link AuditBody String)} {r : AuditLogRow} {e : ColumnEdit}
    (hc : Chained (linkHash sha256) "" (us ++ r.link :: vs)) (he : e.Changes r)
    (hcov : e.isCreatedAt = false) :
    ¬ Chained (linkHash sha256) "" (us ++ (e.apply r).link :: vs') := by
  intro hc'
  obtain ⟨hprev, hbody, hdigest⟩ := changed_link hs hc hc'
  cases e with
  | actor v => exact he (hbody rfl).actor.symm
  | action v => exact he (hbody rfl).action.symm
  | targetType v => exact he (hbody rfl).targetType.symm
  | targetId v => exact he (hbody rfl).targetId.symm
  | detail v => exact he (hbody rfl).detail.symm
  | prevHash v => exact he hprev
  | entryHash v => exact he (hdigest rfl)
  | createdAt v => cases hcov

/-- One tampering with one row of a log `record` wrote is found exactly when the row deleted
    is not the newest of its tenant, or the column changed is not `created_at`. -/
theorem tampering_found_iff (sha256 : String → String) (hs : CollisionFree sha256)
    (calls : List (Time × AuditEntry)) (t : String) (i : Nat) (r : AuditLogRow)
    (hr : (i, r) ∈ (recordAll sha256 calls .empty).selectRows (ofTenant t)) (τ : Tampering)
    (hτ : τ.Changes r) :
    verifyChain sha256 (τ.apply (recordAll sha256 calls .empty) i) t = false ↔
      τ.Covered (recordAll sha256 calls .empty) t i := by
  have hv : verifyChain sha256 (recordAll sha256 calls .empty) t = true :=
    verifyChain_recordAll sha256 calls _ t rfl
  generalize recordAll sha256 calls .empty = log at hr hv ⊢
  rw [verifyChain_iff] at hv
  rw [← Bool.not_eq_true, verifyChain_iff]
  obtain ⟨us, vs, he, hus, hvs⟩ := split_at_row log t hr
  rw [chainOf_split he] at hv
  cases τ with
  | delete =>
    simp only [Tampering.apply, Tampering.Covered]
    rw [chainOf_delete he hus hvs, List.map_append]
    cases vs with
    | nil =>
      -- the newest row: what is left is a prefix, and verifies
      refine ⟨fun h => absurd ?_ h, ?_⟩
      · simpa using hv.dropped
      · rintro ⟨j, hj, hij⟩
        rw [he] at hj
        obtain ⟨x, hx, rfl⟩ := List.mem_map.mp hj
        rcases List.mem_append.mp hx with hx | hx
        · exact absurd (hus x hx) (by omega)
        · rw [List.mem_singleton] at hx
          rw [hx] at hij
          omega
    | cons y vs =>
      refine ⟨fun _ => ⟨y.1, ?_, hvs y (by simp)⟩, fun _ => ?_⟩
      · rw [he]
        simp
      · exact removed_link hs.commits hv
  | edit e =>
    simp only [Tampering.apply, Tampering.Covered]
    rw [chainOf_edit he hus hvs]
    refine ⟨fun h => ?_, fun hcov => edit_breaks hs.commits hv hτ hcov⟩
    cases e with
    | createdAt v => exact absurd hv h
    | _ => rfl

/-- Deleting the first of two logins is found. -/
theorem tampering_found_first :
    verifyChain markHash
        ((recordAll markHash [loginCall [], loginCall []] .empty).deleteId 0) "t" = false :=
  (tampering_found_iff markHash markHash_collisionFree [loginCall [], loginCall []] "t" 0
    (loginRow []) (List.mem_cons_self ..) .delete trivial).mpr ⟨1, by decide, by decide⟩

/-- Not every tampering is found: a log without its newest row still verifies. -/
theorem newest_row_deleted :
    ¬ ∀ sha256 : String → String, CollisionFree sha256 →
      ∀ (calls : List (Time × AuditEntry)) (t : String) (i : Nat) (r : AuditLogRow),
        (i, r) ∈ (recordAll sha256 calls .empty).selectRows (ofTenant t) →
        ∀ τ : Tampering, τ.Changes r →
          verifyChain sha256 (τ.apply (recordAll sha256 calls .empty) i) t = false := by
  intro h
  have hd := h markHash markHash_collisionFree [loginCall []] "t" 0 (loginRow [])
    (List.mem_cons_self ..) .delete trivial
  exact absurd hd (by decide)

end SentinelAI
