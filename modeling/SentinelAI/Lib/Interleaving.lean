import Mathlib.Data.List.Basic

/-
  Two read-modify-write transactions on one row, without locks. Each reads the row, computes
  a new one from what it read, and later merges what it changed into the row as it is then.

  `interleaving_cases` gives the final row of every interleaving: the serial one when a
  transaction writes before the other reads, and otherwise the last writer's changes over
  the first writer's.
-/

namespace SentinelAI.Lib

universe u

/-- All merges of two sequences. -/
def interleavings {α : Type u} : List α → List α → List (List α)
  | [], ys => [ys]
  | x :: xs, [] => [x :: xs]
  | x :: xs, y :: ys =>
    (interleavings xs (y :: ys)).map (x :: ·) ++ (interleavings (x :: xs) ys).map (y :: ·)
termination_by xs ys => xs.length + ys.length

/-- A step of transaction `k`. -/
inductive Rmw where
  | read (k : Bool)
  | write (k : Bool)
  deriving DecidableEq

/-- The steps of one transaction. -/
def txn (k : Bool) : List Rmw := [.read k, .write k]

/-- The row, and what each transaction has read of it. -/
structure Shared (ρ : Type u) where
  row : ρ
  snapshot : Bool → Option ρ

/-- Nothing read yet. -/
def Shared.start {ρ : Type u} (r : ρ) : Shared ρ := ⟨r, fun _ => none⟩

section

variable {ρ : Type u} (compute : Bool → ρ → Option ρ) (merge : ρ → ρ → ρ → ρ)

/-- `compute k` is what transaction `k` makes of the row it read, none when it fails;
    `merge snapshot new current` writes what changed between the first two over the third. -/
def rmwStep (s : Shared ρ) : Rmw → Option (Shared ρ)
  | .read k => some { s with snapshot := fun j => if j = k then some s.row else s.snapshot j }
  | .write k =>
    match s.snapshot k with
    | none => none
    | some snapshot => (compute k snapshot).map fun new => { s with row := merge snapshot new s.row }

/-- The state after some steps, if every transaction so far succeeded. -/
def rmwRun (s : Shared ρ) : List Rmw → Option (Shared ρ)
  | [] => some s
  | a :: as => (rmwStep compute merge s a).bind fun t => rmwRun t as

end

/-- Both transactions read before either writes. -/
def overlaps : List Rmw → Bool
  | .read _ :: .read _ :: _ => true
  | _ => false

/-- The transaction that writes first. -/
def firstWriter : List Rmw → Option Bool
  | [] => none
  | .read _ :: as => firstWriter as
  | .write k :: _ => some k

theorem interleavings_txn :
    interleavings (txn false) (txn true) =
      [[.read false, .write false, .read true, .write true],
        [.read false, .read true, .write false, .write true],
        [.read false, .read true, .write true, .write false],
        [.read true, .read false, .write false, .write true],
        [.read true, .read false, .write true, .write false],
        [.read true, .write true, .read false, .write false]] := by
  simp [txn, interleavings]

variable {ρ : Type u} {compute : Bool → ρ → Option ρ} {merge : ρ → ρ → ρ → ρ}

/-- One transaction after the other: the second reads what the first wrote. -/
theorem rmwRun_serial (k j : Bool) (r : ρ) (s : Shared ρ)
    (h : rmwRun compute merge (.start r) [.read k, .write k, .read j, .write j] = some s) :
    ∃ m n, compute k r = some m ∧ compute j (merge r m r) = some n ∧
      s.row = merge (merge r m r) n (merge r m r) := by
  simp only [rmwRun, rmwStep, Shared.start, if_true, Option.bind_some] at h
  cases hm : compute k r with
  | none => simp [hm] at h
  | some m =>
    simp only [hm, Option.map_some, Option.bind_some] at h
    cases hn : compute j (merge r m r) with
    | none => simp [hn] at h
    | some n =>
      simp only [hn, Option.map_some, Option.bind_some, Option.some.injEq] at h
      exact ⟨m, n, rfl, hn, by rw [← h]⟩

/-- Both read first: the second writer's changes go over the first's. -/
theorem rmwRun_overlap (i j k : Bool) (r : ρ) (s : Shared ρ) (hij : i ≠ j)
    (h : rmwRun compute merge (.start r) [.read i, .read j, .write k, .write (!k)] = some s) :
    ∃ m n, compute k r = some m ∧ compute (!k) r = some n ∧ s.row = merge r n (merge r m r) := by
  have hsnap : ∀ l : Bool, (if l = j then some r else if l = i then some r else none) = some r := by
    intro l
    cases l <;> cases i <;> cases j <;> simp_all
  simp only [rmwRun, rmwStep, Shared.start, Option.bind_some, hsnap] at h
  cases hm : compute k r with
  | none => simp [hm] at h
  | some m =>
    simp only [hm, Option.map_some, Option.bind_some] at h
    cases hn : compute (!k) r with
    | none => simp [hn] at h
    | some n =>
      simp only [hn, Option.map_some, Option.bind_some, Option.some.injEq] at h
      exact ⟨m, n, rfl, rfl, by rw [← h]⟩

/-- The final row of any interleaving in which both transactions succeed. -/
theorem interleaving_cases {r : ρ} {s : Shared ρ} {steps : List Rmw}
    (hmerge : ∀ k r n, compute k r = some n → merge r n r = n)
    (hsteps : steps ∈ interleavings (txn false) (txn true))
    (h : rmwRun compute merge (.start r) steps = some s) :
    ∃ k m, firstWriter steps = some k ∧ compute k r = some m ∧
      (overlaps steps = false → compute (!k) m = some s.row) ∧
      (overlaps steps = true → ∃ n, compute (!k) r = some n ∧ s.row = merge r n m) := by
  have hserial : ∀ k : Bool,
      rmwRun compute merge (.start r) [.read k, .write k, .read (!k), .write (!k)] = some s →
      ∃ m, compute k r = some m ∧ compute (!k) m = some s.row := by
    intro k hk
    obtain ⟨m, n, hm, hn, hrow⟩ := rmwRun_serial k (!k) r s hk
    rw [hmerge k r m hm] at hn hrow
    rw [hmerge (!k) m n hn] at hrow
    exact ⟨m, hm, by rw [hn, hrow]⟩
  have hoverlap : ∀ i j k : Bool, i ≠ j →
      rmwRun compute merge (.start r) [.read i, .read j, .write k, .write (!k)] = some s →
      ∃ m, compute k r = some m ∧ ∃ n, compute (!k) r = some n ∧ s.row = merge r n m := by
    intro i j k hij hk
    obtain ⟨m, n, hm, hn, hrow⟩ := rmwRun_overlap i j k r s hij hk
    rw [hmerge k r m hm] at hrow
    exact ⟨m, hm, n, hn, hrow⟩
  rw [interleavings_txn] at hsteps
  simp only [List.mem_cons, List.not_mem_nil, or_false] at hsteps
  rcases hsteps with rfl | rfl | rfl | rfl | rfl | rfl
  · obtain ⟨m, hm, hn⟩ := hserial false h
    exact ⟨false, m, rfl, hm, fun _ => hn, fun ho => by cases ho⟩
  · obtain ⟨m, hm, hn⟩ := hoverlap false true false (by decide) h
    exact ⟨false, m, rfl, hm, (fun ho => by cases ho), fun _ => hn⟩
  · obtain ⟨m, hm, hn⟩ := hoverlap false true true (by decide) h
    exact ⟨true, m, rfl, hm, (fun ho => by cases ho), fun _ => hn⟩
  · obtain ⟨m, hm, hn⟩ := hoverlap true false false (by decide) h
    exact ⟨false, m, rfl, hm, (fun ho => by cases ho), fun _ => hn⟩
  · obtain ⟨m, hm, hn⟩ := hoverlap true false true (by decide) h
    exact ⟨true, m, rfl, hm, (fun ho => by cases ho), fun _ => hn⟩
  · obtain ⟨m, hm, hn⟩ := hserial true h
    exact ⟨true, m, rfl, hm, fun _ => hn, fun ho => by cases ho⟩

end SentinelAI.Lib
