import SentinelAI.Lib.Run
import SentinelAI.Security.AuditChain

/-
  Concurrent `record` calls. Each request runs `record` in a transaction of its own, READ
  COMMITTED and without locks: it selects the newest committed hash of its tenant, later
  inserts its row under the next id, later commits. Other transactions see a row once its
  transaction has committed.

  The chain of a tenant verifies after all have committed exactly when the requests of the
  tenant took turns: each selected while no other one was between its select and its commit
  (`chain_valid_iff_turns`). Forwards, requests that take turns extend the chain at its
  head. Backwards from a chain that verifies, a select that overlaps another request would
  have read the hash of a row the chain does not end in.
-/

namespace SentinelAI

open Lib Lib.HashChain AuditService

/-! ## Transactions -/

/-- An audit row and the request whose open transaction inserted it. -/
structure TxnRow where
  row : AuditLogRow
  openIn : Option Nat := none

/-- The row of a committed transaction is open no more. -/
def TxnRow.close (k : Nat) (x : TxnRow) : TxnRow :=
  if x.openIn = some k then { x with openIn := none } else x

/-- How far the transaction of a request is. -/
inductive TxnPhase where
  | idle
  /-- `_last_hash` has returned -/
  | selected (prevHash : String)
  | inserted
  | committed
  deriving DecidableEq

/-- Between its select and its commit. -/
def TxnPhase.isOpen : TxnPhase → Bool
  | .selected _ => true
  | .inserted => true
  | _ => false

structure AuditDb where
  table : AutoTable TxnRow
  phase : Nat → TxnPhase

namespace AuditDb

/-- What a transaction sees of the others. -/
def committedLog (s : AuditDb) : AutoTable AuditLogRow :=
  s.table.view (fun x => x.openIn.isNone) TxnRow.row

/-- A committed log and no transaction begun. -/
def start (log : AutoTable AuditLogRow) : AuditDb :=
  ⟨log.view (fun _ => true) fun r => { row := r }, fun _ => .idle⟩

def setPhase (s : AuditDb) (k : Nat) (ph : TxnPhase) : AuditDb :=
  { s with phase := Function.update s.phase k ph }

def insertRow (s : AuditDb) (x : TxnRow) : AuditDb := { s with table := s.table.insert x }

def closeRows (s : AuditDb) (k : Nat) : AuditDb := { s with table := s.table.map (TxnRow.close k) }

/-- The rows of a tenant, in id order, open or committed. -/
def rowsOf (s : AuditDb) (t : String) : List TxnRow := s.table.select fun x => ofTenant t x.row

/-- Their links. -/
def links (s : AuditDb) (t : String) : List (Link AuditBody String) :=
  (s.rowsOf t).map fun x => x.row.link

end AuditDb

inductive TxnStep where
  | select (k : Nat)
  | insert (k : Nat)
  | commit (k : Nat)

section

variable (sha256 : String → String) (req : Nat → Time × AuditEntry)

/-- The row request `k` inserts. -/
def txnRow (k : Nat) (prevHash : String) : TxnRow :=
  ⟨newRow sha256 (req k).1 (req k).2 prevHash, some k⟩

/-- One step of request `k`, which is called at time `(req k).1` and records `(req k).2`. -/
def txnStep (s : AuditDb) : TxnStep → Option AuditDb
  | .select k =>
    match s.phase k with
    | .idle => some (s.setPhase k (.selected (lastHash s.committedLog (req k).2.tenantId)))
    | _ => none
  | .insert k =>
    match s.phase k with
    | .selected prevHash => some ((s.insertRow (txnRow sha256 req k prevHash)).setPhase k .inserted)
    | _ => none
  | .commit k =>
    match s.phase k with
    | .inserted => some ((s.closeRows k).setPhase k .committed)
    | _ => none

def TxnSteps (s : AuditDb) (a : TxnStep) (s' : AuditDb) : Prop := txnStep sha256 req s a = some s'

/-- A request of the tenant selects only while no request of the tenant is open. -/
def TakesTurn (t : String) (s : AuditDb) : TxnStep → Prop
  | .select k => (req k).2.tenantId = t →
      ∀ j, (req j).2.tenantId = t → (s.phase j).isOpen = false
  | _ => True

/-- What a step does. -/
theorem txnStep_cases {s s' : AuditDb} {a : TxnStep} (h : TxnSteps sha256 req s a s') :
    (∃ k, a = .select k ∧ s.phase k = .idle ∧
      s' = s.setPhase k (.selected (lastHash s.committedLog (req k).2.tenantId))) ∨
    (∃ k p, a = .insert k ∧ s.phase k = .selected p ∧
      s' = (s.insertRow (txnRow sha256 req k p)).setPhase k .inserted) ∨
    (∃ k, a = .commit k ∧ s.phase k = .inserted ∧
      s' = (s.closeRows k).setPhase k .committed) := by
  unfold TxnSteps txnStep at h
  cases a with
  | select k =>
    dsimp only at h
    split at h
    · exact Or.inl ⟨k, rfl, ‹_›, (Option.some.inj h).symm⟩
    · cases h
  | insert k =>
    dsimp only at h
    split at h
    · exact Or.inr (Or.inl ⟨k, _, rfl, ‹_›, (Option.some.inj h).symm⟩)
    · cases h
  | commit k =>
    dsimp only at h
    split at h
    · exact Or.inr (Or.inr ⟨k, rfl, ‹_›, (Option.some.inj h).symm⟩)
    · cases h

end

/-! ## A tenant's rows after a step -/

namespace TxnRow

@[simp] theorem close_row (k : Nat) (x : TxnRow) : (x.close k).row = x.row := by
  unfold close
  split <;> rfl

theorem close_openIn {k j : Nat} {x : TxnRow} :
    (x.close k).openIn = some j ↔ x.openIn = some j ∧ j ≠ k := by
  unfold close
  by_cases h : x.openIn = some k
  · rw [if_pos h, h]
    simp [eq_comm]
  · rw [if_neg h]
    refine ⟨fun hj => ⟨hj, ?_⟩, And.left⟩
    rintro rfl
    exact h hj

theorem close_committed {k : Nat} {x : TxnRow} (h : x.openIn = none) : x.close k = x := by
  unfold close
  rw [h]
  rfl

end TxnRow

namespace AuditDb

@[simp] theorem phase_setPhase_self (s : AuditDb) (k : Nat) (ph : TxnPhase) :
    (s.setPhase k ph).phase k = ph := Function.update_self ..

@[simp] theorem phase_setPhase_ne (s : AuditDb) {k j : Nat} (ph : TxnPhase) (h : j ≠ k) :
    (s.setPhase k ph).phase j = s.phase j := Function.update_of_ne h ..

@[simp] theorem phase_insertRow (s : AuditDb) (x : TxnRow) :
    (s.insertRow x).phase = s.phase := rfl

@[simp] theorem phase_closeRows (s : AuditDb) (k : Nat) : (s.closeRows k).phase = s.phase := rfl

@[simp] theorem rowsOf_setPhase (s : AuditDb) (k : Nat) (ph : TxnPhase) (t : String) :
    (s.setPhase k ph).rowsOf t = s.rowsOf t := rfl

theorem rowsOf_insertRow (s : AuditDb) (x : TxnRow) (t : String) :
    (s.insertRow x).rowsOf t = s.rowsOf t ++ (if x.row.tenantId = t then [x] else []) := by
  unfold rowsOf insertRow
  rw [AutoTable.select_insert]
  by_cases h : x.row.tenantId = t <;> simp [ofTenant, h]

theorem rowsOf_closeRows (s : AuditDb) (k : Nat) (t : String) :
    (s.closeRows k).rowsOf t = (s.rowsOf t).map (TxnRow.close k) := by
  unfold rowsOf closeRows
  rw [AutoTable.select_map]
  intro x
  rw [TxnRow.close_row]

theorem rowsOf_start (log : AutoTable AuditLogRow) (t : String) :
    (start log).rowsOf t = (log.select (ofTenant t)).map fun r => { row := r } := by
  unfold rowsOf start
  rw [AutoTable.select_view, List.filter_eq_self.mpr fun _ _ => rfl]

@[simp] theorem links_setPhase (s : AuditDb) (k : Nat) (ph : TxnPhase) (t : String) :
    (s.setPhase k ph).links t = s.links t := rfl

theorem links_insertRow (s : AuditDb) (x : TxnRow) (t : String) :
    (s.insertRow x).links t =
      s.links t ++ (if x.row.tenantId = t then [x.row.link] else []) := by
  unfold links
  rw [rowsOf_insertRow, List.map_append]
  split <;> rfl

@[simp] theorem links_closeRows (s : AuditDb) (k : Nat) (t : String) :
    (s.closeRows k).links t = s.links t := by
  unfold links
  rw [rowsOf_closeRows, List.map_map]
  refine List.map_congr_left fun x _ => ?_
  simp

/-- The committed chain of a tenant: its rows no transaction holds. -/
theorem chainOf_committedLog (s : AuditDb) (t : String) :
    chainOf s.committedLog t =
      ((s.rowsOf t).filter fun x => x.openIn.isNone).map fun x => x.row.link := by
  unfold chainOf committedLog rowsOf
  rw [AutoTable.select_view, List.map_map]
  rfl

theorem chainOf_committedLog_of_all (s : AuditDb) (t : String)
    (h : ∀ x ∈ s.rowsOf t, x.openIn = none) : chainOf s.committedLog t = s.links t := by
  rw [chainOf_committedLog, List.filter_eq_self.mpr]
  · rfl
  · intro x hx
    simp [h x hx]

/-! ## Where hashes come from -/

/-- The start hash, or the hash of a committed row of the tenant. -/
def Source (s : AuditDb) (t p : String) : Prop :=
  p = "" ∨ ∃ y ∈ s.rowsOf t, y.openIn = none ∧ y.row.entryHash = p

theorem Source.mono {s s' : AuditDb} {t p : String}
    (h : ∀ y ∈ s.rowsOf t, y.openIn = none → y ∈ s'.rowsOf t) (hp : s.Source t p) :
    s'.Source t p := by
  rcases hp with rfl | ⟨y, hy, ho, rfl⟩
  · exact Or.inl rfl
  · exact Or.inr ⟨y, h y hy ho, ho, rfl⟩

theorem lastHash_source (s : AuditDb) (t : String) : s.Source t (lastHash s.committedLog t) := by
  rw [lastHash_eq, chainOf_committedLog]
  generalize hrows : (s.rowsOf t).filter (fun x => x.openIn.isNone) = rows
  rcases List.eq_nil_or_concat rows with rfl | ⟨us, x, rfl⟩
  · exact Or.inl rfl
  · right
    have hx : x ∈ (s.rowsOf t).filter fun x => x.openIn.isNone := by
      rw [hrows]
      simp
    obtain ⟨hm, ho⟩ := List.mem_filter.mp hx
    refine ⟨x, hm, by simpa using ho, ?_⟩
    rw [List.concat_eq_append, List.map_append, List.map_singleton, head_snoc]
    rfl

end AuditDb

/-- What holds of a tenant's rows under any interleaving: an open row belongs to the request
    that inserted it, and every hash read was that of a committed row. -/
structure RowsKnown (req : Nat → Time × AuditEntry) (t : String) (s : AuditDb) : Prop where
  owner : ∀ k, (∃ x ∈ s.rowsOf t, x.openIn = some k) ↔
    (req k).2.tenantId = t ∧ s.phase k = .inserted
  row_source : ∀ x ∈ s.rowsOf t, s.Source t x.row.prevHash
  selected_source : ∀ k p, (req k).2.tenantId = t → s.phase k = .selected p → s.Source t p

section

variable {sha256 : String → String} {req : Nat → Time × AuditEntry} {t : String}

theorem rowsKnown_start {log : AutoTable AuditLogRow} (h : verifyChain sha256 log t = true) :
    RowsKnown req t (.start log) where
  owner := by
    intro k
    rw [AuditDb.rowsOf_start]
    refine ⟨?_, fun ⟨_, hp⟩ => by cases hp⟩
    rintro ⟨x, hx, ho⟩
    obtain ⟨r, _, rfl⟩ := List.mem_map.mp hx
    cases ho
  row_source := by
    intro x hx
    rw [AuditDb.rowsOf_start] at hx
    obtain ⟨r, hr, rfl⟩ := List.mem_map.mp hx
    have hc := (verifyChain_iff sha256 log t).mp h
    rcases hc.prev_mem (List.mem_map_of_mem hr) with he | ⟨m, hm, he⟩
    · exact Or.inl he
    · obtain ⟨r', hr', rfl⟩ := List.mem_map.mp hm
      refine Or.inr ⟨{ row := r' }, ?_, rfl, he⟩
      rw [AuditDb.rowsOf_start]
      exact List.mem_map_of_mem hr'
  selected_source := by
    intro k p _ hp
    cases hp

theorem rowsKnown_select {s : AuditDb} (h : RowsKnown req t s) {k : Nat}
    (hk : s.phase k = .idle) :
    RowsKnown req t
      (s.setPhase k (.selected (lastHash s.committedLog (req k).2.tenantId))) where
  owner := by
    intro j
    rw [AuditDb.rowsOf_setPhase, h.owner j]
    by_cases hj : j = k
    · subst hj
      simp [hk]
    · simp [hj]
  row_source := h.row_source
  selected_source := by
    intro j p hj hp
    by_cases hjk : j = k
    · subst hjk
      rw [AuditDb.phase_setPhase_self, TxnPhase.selected.injEq] at hp
      rw [← hp, hj]
      exact s.lastHash_source t
    · rw [AuditDb.phase_setPhase_ne _ _ hjk] at hp
      exact h.selected_source j p hj hp

theorem rowsKnown_insert {s : AuditDb} (h : RowsKnown req t s) {k : Nat} {p : String}
    (hk : s.phase k = .selected p) :
    RowsKnown req t ((s.insertRow (txnRow sha256 req k p)).setPhase k .inserted) := by
  have hmono : ∀ q, s.Source t q →
      ((s.insertRow (txnRow sha256 req k p)).setPhase k .inserted).Source t q := by
    intro q hq
    refine hq.mono fun y hy _ => ?_
    rw [AuditDb.rowsOf_setPhase, AuditDb.rowsOf_insertRow]
    exact List.mem_append_left _ hy
  constructor
  · intro j
    rw [AuditDb.rowsOf_setPhase, AuditDb.rowsOf_insertRow]
    by_cases hj : j = k
    · subst hj
      have hno : ¬ ∃ x ∈ s.rowsOf t, x.openIn = some j := by
        rw [h.owner j, hk]
        simp
      rw [AuditDb.phase_setPhase_self]
      by_cases ht : (req j).2.tenantId = t
      · simp [txnRow, newRow, ht]
      · rw [if_neg (by simpa [txnRow, newRow] using ht), List.append_nil]
        simp [hno, ht]
    · rw [AuditDb.phase_setPhase_ne _ _ hj, AuditDb.phase_insertRow, ← h.owner j]
      split
      · simp [txnRow, Ne.symm hj]
      · rw [List.append_nil]
  · intro x hx
    rw [AuditDb.rowsOf_setPhase, AuditDb.rowsOf_insertRow] at hx
    refine hmono _ ?_
    rcases List.mem_append.mp hx with hx | hx
    · exact h.row_source x hx
    · split at hx
      · rw [List.mem_singleton] at hx
        rw [hx]
        exact h.selected_source k p ‹_› hk
      · cases hx
  · intro j q hj hq
    by_cases hjk : j = k
    · subst hjk
      simp at hq
    · rw [AuditDb.phase_setPhase_ne _ _ hjk] at hq
      exact hmono _ (h.selected_source j q hj hq)

theorem rowsKnown_commit {s : AuditDb} (h : RowsKnown req t s) {k : Nat}
    (hk : s.phase k = .inserted) :
    RowsKnown req t ((s.closeRows k).setPhase k .committed) := by
  have hmono : ∀ q, s.Source t q → ((s.closeRows k).setPhase k .committed).Source t q := by
    intro q hq
    refine hq.mono fun y hy ho => ?_
    rw [AuditDb.rowsOf_setPhase, AuditDb.rowsOf_closeRows]
    exact List.mem_map.mpr ⟨y, hy, TxnRow.close_committed ho⟩
  constructor
  · intro j
    rw [AuditDb.rowsOf_setPhase, AuditDb.rowsOf_closeRows]
    have hl : (∃ x ∈ (s.rowsOf t).map (TxnRow.close k), x.openIn = some j) ↔
        (∃ x ∈ s.rowsOf t, x.openIn = some j) ∧ j ≠ k := by
      simp only [List.mem_map, exists_exists_and_eq_and, TxnRow.close_openIn]
      constructor
      · rintro ⟨x, hx, ho, hj⟩
        exact ⟨⟨x, hx, ho⟩, hj⟩
      · rintro ⟨⟨x, hx, ho⟩, hj⟩
        exact ⟨x, hx, ho, hj⟩
    rw [hl, h.owner j]
    by_cases hj : j = k
    · subst hj
      simp
    · simp [hj]
  · intro x hx
    rw [AuditDb.rowsOf_setPhase, AuditDb.rowsOf_closeRows] at hx
    obtain ⟨y, hy, rfl⟩ := List.mem_map.mp hx
    rw [TxnRow.close_row]
    exact hmono _ (h.row_source y hy)
  · intro j q hj hq
    by_cases hjk : j = k
    · subst hjk
      simp at hq
    · rw [AuditDb.phase_setPhase_ne _ _ hjk] at hq
      exact hmono _ (h.selected_source j q hj hq)

theorem rowsKnown_step {s s' : AuditDb} {a : TxnStep} (hs : TxnSteps sha256 req s a s')
    (h : RowsKnown req t s) : RowsKnown req t s' := by
  obtain ⟨k, rfl, hk, rfl⟩ | ⟨k, p, rfl, hk, rfl⟩ | ⟨k, rfl, hk, rfl⟩ := txnStep_cases _ _ hs
  · exact rowsKnown_select h hk
  · exact rowsKnown_insert h hk
  · exact rowsKnown_commit h hk

/-! ## When the whole chain holds -/

/-- While the whole chain of a tenant holds and its head has been read, no row of it is
    open: each row before another is that one's source, and the last is the head. -/
theorem all_committed (hs : HashCommits sha256) {s : AuditDb} (hk : RowsKnown req t s)
    (hc : Chained (linkHash sha256) "" (s.links t)) (hp : s.Source t (head "" (s.links t))) :
    ∀ x ∈ s.rowsOf t, x.openIn = none := by
  -- a row whose hash has a source is that source
  have hsource : ∀ x ∈ s.rowsOf t, s.Source t x.row.entryHash → x.openIn = none := by
    rintro x hx (he | ⟨y, hy, ho, he⟩)
    · exact absurd he (hc.digest_ne_genesis hs
        (List.mem_map_of_mem (f := fun x : TxnRow => x.row.link) hx))
    · have hnd := digests_nodup hs _ hc
      rw [AuditDb.links, List.map_map] at hnd
      rw [List.inj_on_of_nodup_map hnd hx hy he.symm]
      exact ho
  intro x hx
  refine hsource x hx ?_
  obtain ⟨us, vs, he⟩ := List.append_of_mem hx
  have hl : s.links t = us.map (fun x => x.row.link) ++ x.row.link ::
      vs.map fun x => x.row.link := by
    rw [AuditDb.links, he, List.map_append, List.map_cons]
  cases vs with
  | nil =>
    rw [hl, List.map_nil, head_snoc] at hp
    exact hp
  | cons y vs =>
    rw [hl, List.map_cons] at hc
    have hy : y.row.prevHash = x.row.entryHash := ((chained_append ..).mp hc).2.2.2.1
    rw [← hy]
    exact hk.row_source y (by simp [he])

theorem TxnPhase.isOpen_selected {ph : TxnPhase} {p : String} (h : ph = .selected p) :
    ph.isOpen = true := by
  rw [h]
  rfl

/-- While no row of the tenant is open, an open request of it has only read a hash. -/
theorem selected_of_open {s : AuditDb} (hk : RowsKnown req t s)
    (hall : ∀ x ∈ s.rowsOf t, x.openIn = none) {j : Nat} (hj : (req j).2.tenantId = t)
    (ho : (s.phase j).isOpen = true) : ∃ p, s.phase j = .selected p := by
  cases hp : s.phase j with
  | idle => rw [hp] at ho; cases ho
  | selected p => exact ⟨p, rfl⟩
  | inserted =>
    obtain ⟨x, hx, hxo⟩ := (hk.owner j).mpr ⟨hj, hp⟩
    rw [hall x hx] at hxo
    cases hxo
  | committed => rw [hp] at ho; cases ho

theorem all_committed_of_closed {s : AuditDb} (hk : RowsKnown req t s)
    (h : ∀ j, (req j).2.tenantId = t → (s.phase j).isOpen = false) :
    ∀ x ∈ s.rowsOf t, x.openIn = none := by
  intro x hx
  cases ho : x.openIn with
  | none => rfl
  | some j =>
    obtain ⟨hj, hp⟩ := (hk.owner j).mp ⟨x, hx, ho⟩
    have := h j hj
    rw [hp] at this
    cases this

/-! ## Taking turns -/

/-- The chain of the tenant, open rows included, holds, and a request that has read a hash
    has read its head and is the only one of the tenant that is open. -/
structure InTurn (sha256 : String → String) (req : Nat → Time × AuditEntry) (t : String)
    (s : AuditDb) : Prop where
  chained : Chained (linkHash sha256) "" (s.links t)
  selected : ∀ k p, (req k).2.tenantId = t → s.phase k = .selected p →
    p = head "" (s.links t) ∧
      ∀ j, j ≠ k → (req j).2.tenantId = t → (s.phase j).isOpen = false

/-- Nothing but the tenant's links and the phases of its requests matters. -/
theorem InTurn.congr {s s' : AuditDb} (hl : s'.links t = s.links t)
    (hp : ∀ j, (req j).2.tenantId = t → s'.phase j = s.phase j) (h : InTurn sha256 req t s) :
    InTurn sha256 req t s' := by
  constructor
  · rw [hl]
    exact h.chained
  · intro k p hk hkp
    rw [hp k hk] at hkp
    obtain ⟨hhead, hothers⟩ := h.selected k p hk hkp
    rw [hl]
    refine ⟨hhead, fun j hj hjt => ?_⟩
    rw [hp j hjt]
    exact hothers j hj hjt

theorem phase_other {s : AuditDb} {k : Nat} (ph : TxnPhase) (hk : (req k).2.tenantId ≠ t) :
    ∀ j, (req j).2.tenantId = t → (s.setPhase k ph).phase j = s.phase j := by
  intro j hj
  refine AuditDb.phase_setPhase_ne s ph ?_
  rintro rfl
  exact hk hj

theorem links_insert_other {s : AuditDb} {k : Nat} (p : String) (hk : (req k).2.tenantId ≠ t) :
    ((s.insertRow (txnRow sha256 req k p)).setPhase k .inserted).links t = s.links t := by
  rw [AuditDb.links_setPhase, AuditDb.links_insertRow, if_neg (by simpa [txnRow, newRow] using hk),
    List.append_nil]

theorem links_insert_own {s : AuditDb} {k : Nat} (p : String) (hk : (req k).2.tenantId = t) :
    ((s.insertRow (txnRow sha256 req k p)).setPhase k .inserted).links t =
      s.links t ++ [extend (linkHash sha256) p (req k).2.body] := by
  rw [AuditDb.links_setPhase, AuditDb.links_insertRow, if_pos (by simpa [txnRow, newRow] using hk)]
  rfl

/-- A step taken in turn keeps the requests taking turns. -/
theorem inTurn_step {s s' : AuditDb} {a : TxnStep}
    (hs : Guarded (TxnSteps sha256 req) (TakesTurn req t) s a s') (hk : RowsKnown req t s)
    (h : InTurn sha256 req t s) : InTurn sha256 req t s' := by
  obtain ⟨hstep, hturn⟩ := hs
  obtain ⟨k, rfl, hph, rfl⟩ | ⟨k, p, rfl, hph, rfl⟩ | ⟨k, rfl, hph, rfl⟩ := txnStep_cases _ _ hstep
  · by_cases hkt : (req k).2.tenantId = t
    · have hclosed := hturn hkt
      refine ⟨h.chained, fun j q hj hq => ?_⟩
      by_cases hjk : j = k
      · subst hjk
        rw [AuditDb.phase_setPhase_self, TxnPhase.selected.injEq] at hq
        refine ⟨?_, fun i hi hit => ?_⟩
        · rw [← hq, hj, lastHash_eq,
            s.chainOf_committedLog_of_all t (all_committed_of_closed hk hclosed)]
          rfl
        · rw [AuditDb.phase_setPhase_ne _ _ hi]
          exact hclosed i hit
      · rw [AuditDb.phase_setPhase_ne _ _ hjk] at hq
        exact absurd (TxnPhase.isOpen_selected hq) (by simp [hclosed j hj])
    · exact h.congr (s.links_setPhase k _ t) (phase_other _ hkt)
  · by_cases hkt : (req k).2.tenantId = t
    · obtain ⟨hp, hothers⟩ := h.selected k p hkt hph
      constructor
      · rw [links_insert_own p hkt, hp]
        exact h.chained.extend _
      · intro j q hj hq
        by_cases hjk : j = k
        · subst hjk
          simp at hq
        · rw [AuditDb.phase_setPhase_ne _ _ hjk] at hq
          exact absurd (TxnPhase.isOpen_selected hq) (by simp [hothers j hjk hj])
    · exact h.congr (links_insert_other p hkt)
        (phase_other (s := s.insertRow (txnRow sha256 req k p)) _ hkt)
  · have hl : ((s.closeRows k).setPhase k .committed).links t = s.links t := by
      rw [AuditDb.links_setPhase, AuditDb.links_closeRows]
    by_cases hkt : (req k).2.tenantId = t
    · constructor
      · rw [hl]
        exact h.chained
      · intro j q hj hq
        have hjk : j ≠ k := by
          rintro rfl
          simp at hq
        rw [AuditDb.phase_setPhase_ne _ _ hjk] at hq
        -- a request has a row open, so none of the tenant has just read a hash
        have := (h.selected j q hj hq).2 k hjk.symm hkt
        rw [hph] at this
        cases this
    · exact h.congr hl (phase_other (s := s.closeRows k) _ hkt)

/-- If the requests take turns once `k` has inserted its row, no other one was open: it would
    have read the hash of that row. -/
theorem alone_of_inserted (hs : HashCommits sha256) {s : AuditDb} {k : Nat} {p : String}
    (hk : RowsKnown req t s) (hkt : (req k).2.tenantId = t)
    (hall : ∀ x ∈ s.rowsOf t, x.openIn = none)
    (h' : InTurn sha256 req t ((s.insertRow (txnRow sha256 req k p)).setPhase k .inserted)) :
    ∀ j, j ≠ k → (req j).2.tenantId = t → (s.phase j).isOpen = false := by
  intro j hjk hj
  by_contra ho
  obtain ⟨q, hq⟩ := selected_of_open hk hall hj (by simpa using ho)
  have hq' := (h'.selected j q hj (by rw [AuditDb.phase_setPhase_ne _ _ hjk]; exact hq)).1
  rw [links_insert_own p hkt, head_snoc] at hq'
  rcases hk.selected_source j q hj hq with he | ⟨y, hy, _, he⟩
  · exact hs.ne_genesis _ _ (hq'.symm.trans he)
  · have hc' := h'.chained
    rw [links_insert_own p hkt] at hc'
    have hnd := digests_nodup hs _ hc'
    rw [List.map_append, List.nodup_append] at hnd
    refine hnd.2.2 y.row.entryHash ?_ _ (by simp) (he.trans hq')
    rw [AuditDb.links, List.map_map]
    exact List.mem_map_of_mem (f := fun x : TxnRow => x.row.entryHash) hy

/-- If the requests take turns after a step, they did before it, and the step was in turn. -/
theorem inTurn_back (hs : HashCommits sha256) {s s' : AuditDb} {a : TxnStep}
    (hstep : TxnSteps sha256 req s a s') (hk : RowsKnown req t s)
    (h' : InTurn sha256 req t s') : InTurn sha256 req t s ∧ TakesTurn req t s a := by
  obtain ⟨k, rfl, hph, rfl⟩ | ⟨k, p, rfl, hph, rfl⟩ | ⟨k, rfl, hph, rfl⟩ := txnStep_cases _ _ hstep
  · by_cases hkt : (req k).2.tenantId = t
    · have hclosed : ∀ j, (req j).2.tenantId = t → (s.phase j).isOpen = false := by
        intro j hj
        by_cases hjk : j = k
        · subst hjk
          rw [hph]
          rfl
        · have := (h'.selected k _ hkt (AuditDb.phase_setPhase_self ..)).2 j hjk hj
          rwa [AuditDb.phase_setPhase_ne _ _ hjk] at this
      refine ⟨⟨h'.chained, fun j q hj hq => ?_⟩, fun _ => hclosed⟩
      exact absurd (TxnPhase.isOpen_selected hq) (by simp [hclosed j hj])
    · refine ⟨h'.congr (s.links_setPhase k _ t).symm ?_, fun h => absurd h hkt⟩
      exact fun j hj => (phase_other _ hkt j hj).symm
  · refine ⟨?_, trivial⟩
    by_cases hkt : (req k).2.tenantId = t
    · have hc' := h'.chained
      rw [links_insert_own p hkt] at hc'
      obtain ⟨hc, hp, _⟩ := (chained_snoc ..).mp hc'
      have hhead : p = head "" (s.links t) := hp
      have hall := all_committed hs hk hc (hhead ▸ hk.selected_source k p hkt hph)
      have honly := alone_of_inserted hs hk hkt hall h'
      refine ⟨hc, fun j q hj hq => ?_⟩
      by_cases hjk : j = k
      · subst hjk
        rw [hph, TxnPhase.selected.injEq] at hq
        exact ⟨hq ▸ hhead, honly⟩
      · exact absurd (TxnPhase.isOpen_selected hq) (by simp [honly j hjk hj])
    · exact h'.congr (links_insert_other p hkt).symm fun j hj =>
        (phase_other (s := s.insertRow (txnRow sha256 req k p)) _ hkt j hj).symm
  · refine ⟨?_, trivial⟩
    have hl : s.links t = ((s.closeRows k).setPhase k .committed).links t := by
      rw [AuditDb.links_setPhase, AuditDb.links_closeRows]
    by_cases hkt : (req k).2.tenantId = t
    · have hc : Chained (linkHash sha256) "" (s.links t) := hl ▸ h'.chained
      refine ⟨hc, fun j q hj hq => ?_⟩
      have hjk : j ≠ k := by
        rintro rfl
        rw [hph] at hq
        cases hq
      have hp := (h'.selected j q hj (by rw [AuditDb.phase_setPhase_ne _ _ hjk]; exact hq)).1
      rw [← hl] at hp
      -- `k` has a row open, which the head read by `j` rules out
      obtain ⟨x, hx, hxo⟩ := (hk.owner k).mpr ⟨hkt, hph⟩
      rw [all_committed hs hk hc (hp ▸ hk.selected_source j q hj hq) x hx] at hxo
      cases hxo
    · exact h'.congr hl fun j hj => (phase_other (s := s.closeRows k) _ hkt j hj).symm

/-! ## Runs -/

theorem links_start (log : AutoTable AuditLogRow) (t : String) :
    (AuditDb.start log).links t = chainOf log t := by
  rw [AuditDb.links, AuditDb.rowsOf_start, List.map_map]
  rfl

theorem inTurn_start {log : AutoTable AuditLogRow} (h : verifyChain sha256 log t = true) :
    InTurn sha256 req t (.start log) where
  chained := by
    rw [links_start]
    exact (verifyChain_iff sha256 log t).mp h
  selected := by
    intro k p _ hp
    cases hp

/-- Once no request of the tenant is open, its committed chain is its whole chain. -/
theorem verifyChain_closed {s : AuditDb} (hk : RowsKnown req t s)
    (hclosed : ∀ j, (req j).2.tenantId = t → (s.phase j).isOpen = false) :
    verifyChain sha256 s.committedLog t = true ↔
      Chained (linkHash sha256) "" (s.links t) := by
  rw [verifyChain_iff, s.chainOf_committedLog_of_all t (all_committed_of_closed hk hclosed)]

end

/-- Start from a log whose chain verifies and let any requests run in any interleaving. Once
    every request of the tenant is through, its chain verifies exactly when the tenant's
    requests took turns. -/
theorem chain_valid_iff_turns (sha256 : String → String) (hs : CollisionFree sha256)
    (req : Nat → Time × AuditEntry) (log : AutoTable AuditLogRow) (t : String)
    (hlog : verifyChain sha256 log t = true) (schedule : List TxnStep) (s : AuditDb)
    (hrun : Steps (TxnSteps sha256 req) (.start log) schedule s)
    (hclosed : ∀ j, (req j).2.tenantId = t → (s.phase j).isOpen = false) :
    verifyChain sha256 s.committedLog t = true ↔
      Steps (Guarded (TxnSteps sha256 req) (TakesTurn req t)) (.start log) schedule s := by
  have hk₀ : RowsKnown req t (.start log) := rowsKnown_start hlog
  have hk : RowsKnown req t s := hrun.inv (fun _ _ _ h => rowsKnown_step h) hk₀
  rw [verifyChain_closed hk hclosed]
  constructor
  · intro hc
    have hend : InTurn sha256 req t s :=
      ⟨hc, fun k p hkt hp => absurd (TxnPhase.isOpen_selected hp) (by simp [hclosed k hkt])⟩
    have hback : ∀ s a s', TxnSteps sha256 req s a s' → RowsKnown req t s →
        InTurn sha256 req t s' → InTurn sha256 req t s ∧ TakesTurn req t s a :=
      fun _ _ _ h hk => inTurn_back hs.commits h hk
    exact (hrun.guarded_of_end (fun _ _ _ h => rowsKnown_step h) hback hk₀ hend).2
  · intro hg
    have hinv := hg.inv (I := fun s => RowsKnown req t s ∧ InTurn sha256 req t s)
      (fun _ _ _ h hi => ⟨rowsKnown_step h.1 hi.1, inTurn_step h hi.1 hi.2⟩)
      ⟨hk₀, inTurn_start hlog⟩
    exact hinv.2.chained

/-- Two logins of one tenant, and a login of another. -/
def threeLogins : Nat → Time × AuditEntry
  | 2 => (0, ⟨"u", "bob", "auth.login", "user", "u2", none⟩)
  | _ => loginCall []

/-- The first two take turns while the third is under way. -/
def inTurns : List TxnStep :=
  [.select 0, .select 2, .insert 0, .insert 2, .commit 0, .select 1, .insert 1, .commit 2, .commit 1]

theorem chain_valid_turns : ∃ s, Steps (TxnSteps markHash threeLogins) (.start .empty) inTurns s ∧
    (s.committedLog.select (ofTenant "t")).length = 2 ∧ verifyChain markHash s.committedLog "t" = true := by
  have hturns : ∃ s, Steps (Guarded (TxnSteps markHash threeLogins) (TakesTurn threeLogins "t"))
      (.start .empty) inTurns s ∧ (s.committedLog.select (ofTenant "t")).length = 2 ∧
        ∀ j, (threeLogins j).2.tenantId = "t" → (s.phase j).isOpen = false := by
    refine ⟨_, .cons ⟨rfl, fun _ j _ => rfl⟩ (.cons ⟨rfl, fun h => ?_⟩ (.cons ⟨rfl, trivial⟩
      (.cons ⟨rfl, trivial⟩ (.cons ⟨rfl, trivial⟩ (.cons ⟨rfl, fun _ j hj => ?_⟩
        (.cons ⟨rfl, trivial⟩ (.cons ⟨rfl, trivial⟩ (.cons ⟨rfl, trivial⟩ (.nil _))))))))), ?_, ?_⟩
    · -- the third request is of another tenant
      exact absurd h (by decide)
    · match j with
      | 0 => rfl
      | 1 => rfl
      | 2 => exact absurd hj (by decide)
      | j + 3 => rfl
    · rfl
    · intro j _
      match j with
      | 0 => rfl
      | 1 => rfl
      | 2 => rfl
      | j + 3 => rfl
  obtain ⟨s, hrun, hlength, hclosed⟩ := hturns
  have hsteps : Steps (TxnSteps markHash threeLogins) (.start .empty) inTurns s := hrun.unguarded
  exact ⟨s, hsteps, hlength, (chain_valid_iff_turns markHash markHash_collisionFree threeLogins .empty
    "t" rfl inTurns s hsteps hclosed).mpr hrun⟩

/-- Two logins of one tenant that overlap leave a chain that does not verify. -/
theorem overlapping_records :
    ¬ ∀ sha256 : String → String, CollisionFree sha256 →
      ∀ (req : Nat → Time × AuditEntry) (log : AutoTable AuditLogRow) (t : String),
        verifyChain sha256 log t = true →
        ∀ (schedule : List TxnStep) (s : AuditDb),
          Steps (TxnSteps sha256 req) (.start log) schedule s →
          (∀ j, (req j).2.tenantId = t → (s.phase j).isOpen = false) →
          verifyChain sha256 s.committedLog t = true := by
  intro h
  have hv := h markHash markHash_collisionFree (fun _ => loginCall []) .empty "t" rfl
    [.select 0, .select 1, .insert 0, .insert 1, .commit 0, .commit 1] _
    (.cons rfl (.cons rfl (.cons rfl (.cons rfl (.cons rfl (.cons rfl (.nil _)))))))
    (by
      intro j _
      by_cases h₁ : j = 1
      · subst h₁
        rfl
      · by_cases h₀ : j = 0
        · subst h₀
          rfl
        · simp [h₀, h₁, AuditDb.start, TxnPhase.isOpen])
  -- both rows name the start hash, the second should name the first's
  have hprev : "" = (newRow markHash 0 (loginCall []).2 "").entryHash :=
    ((verifyChain_iff ..).mp hv).2.2.1
  exact markHash_collisionFree.ne_empty _ hprev.symm

end SentinelAI
