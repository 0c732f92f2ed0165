import Mathlib.Logic.Function.Basic
import SentinelAI.Lib.Run

/-
  Concurrent transactions on one database, READ COMMITTED. Each transaction is a program that
  takes one statement at a time: it sees what is committed at that moment, keeps what it has
  read and what it will write to itself, and changes what is committed in its last step. A
  schedule is the list of the transactions in the order in which they move; as long as only one
  moves, it is its program by itself (`steps_of_solo`).

  The second half is about transactions that look for a key and, if it is free, insert a row
  under it. `Exclusive` says that no key has two rows or is about to get a second one: a step
  keeps it if a transaction finds its key free only while no other one has found the same
  (`Exclusive.step`), and it holds after a step only if it did before and the step was such a
  one (`Exclusive.back`).
-/

namespace SentinelAI.Lib

universe u v w

/-- What is committed, and how far each transaction is. -/
structure Concurrent (ι : Type u) (δ : Type v) (τ : Type w) where
  db : δ
  txn : ι → τ

namespace Concurrent

variable {ι : Type u} {δ : Type v} {τ : Type w}

/-- Nothing begun. -/
def start (db : δ) (t : τ) : Concurrent ι δ τ := ⟨db, fun _ => t⟩

variable [DecidableEq ι]

/-- Transaction `k` in a new place, over what is committed then. -/
def moved (s : Concurrent ι δ τ) (k : ι) (t : τ) (db : δ) : Concurrent ι δ τ :=
  ⟨db, Function.update s.txn k t⟩

/-- The next statement of transaction `k`; none when it has none to take. -/
def advance (prog : ι → τ → δ → Option (τ × δ)) (s : Concurrent ι δ τ) (k : ι) :
    Option (Concurrent ι δ τ) :=
  (prog k (s.txn k) s.db).map fun next => s.moved k next.1 next.2

/-- `advance` as a relation. -/
def Advances (prog : ι → τ → δ → Option (τ × δ)) (s : Concurrent ι δ τ) (k : ι)
    (s' : Concurrent ι δ τ) : Prop := s.advance prog k = some s'

theorem advances_iff {prog : ι → τ → δ → Option (τ × δ)} {s s' : Concurrent ι δ τ} {k : ι} :
    Advances prog s k s' ↔
      ∃ t db, prog k (s.txn k) s.db = some (t, db) ∧ s' = s.moved k t db := by
  unfold Advances advance
  constructor
  · intro h
    obtain ⟨⟨t, db⟩, hnext, rfl⟩ := Option.map_eq_some_iff.mp h
    exact ⟨t, db, hnext, rfl⟩
  · rintro ⟨t, db, hnext, rfl⟩
    rw [hnext, Option.map_some]

/-- The state after a schedule; none when a transaction has no statement to take. -/
def advanceAll (prog : ι → τ → δ → Option (τ × δ)) :
    Concurrent ι δ τ → List ι → Option (Concurrent ι δ τ)
  | s, [] => some s
  | s, k :: ks => (s.advance prog k).bind fun t => advanceAll prog t ks

theorem steps_iff {prog : ι → τ → δ → Option (τ × δ)} {s t : Concurrent ι δ τ} {ks : List ι} :
    Steps (Advances prog) s ks t ↔ s.advanceAll prog ks = some t := by
  induction ks generalizing s with
  | nil =>
    constructor
    · intro h
      cases h
      rfl
    · intro h
      cases h
      exact .nil _
  | cons k ks ih =>
    constructor
    · intro h
      obtain _ | ⟨hstep, hrest⟩ := h
      exact Option.bind_eq_some_iff.mpr ⟨_, hstep, ih.mp hrest⟩
    · intro h
      obtain ⟨u, hstep, hrest⟩ := Option.bind_eq_some_iff.mp h
      exact .cons hstep (ih.mpr hrest)

@[simp] theorem moved_db (s : Concurrent ι δ τ) (k : ι) (t : τ) (db : δ) : (s.moved k t db).db = db :=
  rfl

@[simp] theorem moved_txn_self (s : Concurrent ι δ τ) (k : ι) (t : τ) (db : δ) :
    (s.moved k t db).txn k = t := Function.update_self ..

@[simp] theorem moved_txn_ne (s : Concurrent ι δ τ) {k j : ι} (t : τ) (db : δ) (h : j ≠ k) :
    (s.moved k t db).txn j = s.txn j := Function.update_of_ne h ..

/-- Of two transactions, the other one. -/
@[simp] theorem moved_txn_not (s : Concurrent Bool δ τ) (k : Bool) (t : τ) (db : δ) :
    (s.moved k t db).txn (!k) = s.txn (!k) := moved_txn_ne s t db (by simp)

/-- A program by itself, for some statements. -/
def solo (p : τ → δ → Option (τ × δ)) : Nat → τ → δ → Option (τ × δ)
  | 0, t, db => some (t, db)
  | n + 1, t, db => (p t db).bind fun next => solo p n next.1 next.2

/-- While no other one moves, a transaction is its program by itself. -/
theorem steps_of_solo (prog : ι → τ → δ → Option (τ × δ)) (s : Concurrent ι δ τ) {k : ι} {n : Nat}
    {t : τ} {db : δ} (h : solo (prog k) n (s.txn k) s.db = some (t, db)) :
    ∃ s', Steps (Advances prog) s (List.replicate n k) s' ∧ s'.txn k = t ∧ s'.db = db := by
  induction n generalizing s with
  | zero =>
    cases h
    exact ⟨s, .nil s, rfl, rfl⟩
  | succ n ih =>
    obtain ⟨⟨t', db'⟩, hnext, hrest⟩ := Option.bind_eq_some_iff.mp h
    have hstep : Advances prog s k (s.moved k t' db') := advances_iff.mpr ⟨t', db', hnext, rfl⟩
    have hsolo : solo (prog k) n ((s.moved k t' db').txn k) db' = some (t, db) := by
      rw [moved_txn_self]
      exact hrest
    obtain ⟨s', hsteps, hend⟩ := ih (s.moved k t' db') hsolo
    exact ⟨s', .cons hstep hsteps, hend⟩

end Concurrent

/-! ## Looking for a key before inserting under it -/

/-- How many rows each key has, and which transactions have found theirs free and have not
    inserted. -/
structure KeyClaims (ι : Type u) (κ : Type v) where
  count : κ → Nat
  pending : ι → Prop

/-- No key has two rows, or one and a transaction that will insert another, or two such
    transactions. -/
structure Exclusive {ι : Type u} {κ : Type v} (want : ι → κ) (s : KeyClaims ι κ) : Prop where
  single : ∀ q, s.count q ≤ 1
  free : ∀ j, s.pending j → s.count (want j) = 0
  alone : ∀ i j, s.pending i → s.pending j → want i = want j → i = j

/-- What a step of transaction `k` does to the claims. -/
inductive KeyStep {ι : Type u} {κ : Type v} [DecidableEq κ] (want : ι → κ) (s : KeyClaims ι κ) (k : ι)
    (s' : KeyClaims ι κ) : Prop
  /-- it finds its key free -/
  | found (hfree : s.count (want k) = 0) (hidle : ¬ s.pending k) (hcount : s'.count = s.count)
    (hpending : ∀ j, s'.pending j ↔ s.pending j ∨ j = k)
  /-- it inserts -/
  | inserted (hk : s.pending k) (hcount : ∀ q, s'.count q = s.count q + if q = want k then 1 else 0)
    (hpending : ∀ j, s'.pending j ↔ s.pending j ∧ j ≠ k)
  | other (hcount : s'.count = s.count) (hpending : ∀ j, s'.pending j ↔ s.pending j)

namespace Exclusive

variable {ι : Type u} {κ : Type v} [DecidableEq κ] {want : ι → κ} {s s' : KeyClaims ι κ} {k : ι}

/-- A transaction that finds its key free finds it alone. -/
def Alone (want : ι → κ) (s : KeyClaims ι κ) (k : ι) : Prop :=
  ∀ j, s.pending j → want j ≠ want k

theorem step (h : Exclusive want s) (hstep : KeyStep want s k s')
    (halone : ¬ s.pending k → s'.pending k → Alone want s k) : Exclusive want s' := by
  cases hstep with
  | found hfree hidle hcount hpending =>
    have hother := halone hidle ((hpending k).mpr (Or.inr rfl))
    refine ⟨fun q => ?_, fun j hj => ?_, fun i j hi hj hij => ?_⟩
    · rw [hcount]
      exact h.single q
    · rw [hcount]
      obtain hj | rfl := (hpending j).mp hj
      · exact h.free j hj
      · exact hfree
    · obtain hi | rfl := (hpending i).mp hi <;> obtain hj | rfl := (hpending j).mp hj
      · exact h.alone i j hi hj hij
      · exact absurd hij (hother i hi)
      · exact absurd hij.symm (hother j hj)
      · rfl
  | inserted hk hcount hpending =>
    refine ⟨fun q => ?_, fun j hj => ?_, fun i j hi hj hij => ?_⟩
    · rw [hcount]
      split
      · rename_i hq
        have hzero := h.free k hk
        rw [← hq] at hzero
        omega
      · exact h.single q
    · obtain ⟨hj, hne⟩ := (hpending j).mp hj
      have hkey : want j ≠ want k := fun heq => hne (h.alone j k hj hk heq)
      rw [hcount, if_neg hkey]
      exact h.free j hj
    · exact h.alone i j ((hpending i).mp hi).1 ((hpending j).mp hj).1 hij
  | other hcount hpending =>
    refine ⟨fun q => ?_, fun j hj => ?_, fun i j hi hj hij => ?_⟩
    · rw [hcount]
      exact h.single q
    · rw [hcount]
      exact h.free j ((hpending j).mp hj)
    · exact h.alone i j ((hpending i).mp hi) ((hpending j).mp hj) hij

theorem back (h : Exclusive want s') (hstep : KeyStep want s k s') :
    Exclusive want s ∧ (¬ s.pending k → s'.pending k → Alone want s k) := by
  cases hstep with
  | found hfree hidle hcount hpending =>
    refine ⟨⟨fun q => ?_, fun j hj => ?_, fun i j hi hj hij => ?_⟩, fun _ _ j hj heq => ?_⟩
    · rw [← hcount]
      exact h.single q
    · rw [← hcount]
      exact h.free j ((hpending j).mpr (Or.inl hj))
    · exact h.alone i j ((hpending i).mpr (Or.inl hi)) ((hpending j).mpr (Or.inl hj)) hij
    · have hsame := h.alone j k ((hpending j).mpr (Or.inl hj)) ((hpending k).mpr (Or.inr rfl)) heq
      rw [hsame] at hj
      exact hidle hj
  | inserted hk hcount hpending =>
    have hzero : s.count (want k) = 0 := by
      have hle := h.single (want k)
      rw [hcount, if_pos rfl] at hle
      omega
    -- after the insertion the key has a row, so no other transaction is about to insert there
    have hother : ∀ j, s.pending j → j ≠ k → want j ≠ want k := by
      intro j hj hne heq
      have hnone := h.free j ((hpending j).mpr ⟨hj, hne⟩)
      rw [hcount, if_pos heq] at hnone
      omega
    refine ⟨⟨fun q => ?_, fun j hj => ?_, fun i j hi hj hij => ?_⟩, fun hnot => absurd hk hnot⟩
    · have hle := h.single q
      rw [hcount] at hle
      omega
    · by_cases hjk : j = k
      · rw [hjk]
        exact hzero
      · have hnone := h.free j ((hpending j).mpr ⟨hj, hjk⟩)
        rw [hcount] at hnone
        omega
    · by_cases hik : i = k <;> by_cases hjk : j = k
      · rw [hik, hjk]
      · rw [hik] at hij
        exact absurd hij.symm (hother j hj hjk)
      · rw [hjk] at hij
        exact absurd hij (hother i hi hik)
      · exact h.alone i j ((hpending i).mpr ⟨hi, hik⟩) ((hpending j).mpr ⟨hj, hjk⟩) hij
  | other hcount hpending =>
    refine ⟨⟨fun q => ?_, fun j hj => ?_, fun i j hi hj hij => ?_⟩, fun hnot hk => ?_⟩
    · rw [← hcount]
      exact h.single q
    · rw [← hcount]
      exact h.free j ((hpending j).mpr hj)
    · exact h.alone i j ((hpending i).mpr hi) ((hpending j).mpr hj) hij
    · exact absurd ((hpending k).mp hk) hnot

end Exclusive

end SentinelAI.Lib
