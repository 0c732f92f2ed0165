import Mathlib.Data.List.AList

/-
  Counters by key, as a `defaultdict(int)` holds them: a key is there once it has been counted.
  Counters that follow a history (`Counts`) hold one entry for each key in it, and the entry is
  the number of times the key occurs.
-/

namespace SentinelAI.Lib

universe u

variable {κ : Type u} [DecidableEq κ]

/-- One counter for each key seen. -/
abbrev Counters (κ : Type u) := AList fun _ : κ => Nat

namespace Counters

/-- The count of a key, zero for one not seen. -/
def count (c : Counters κ) (k : κ) : Nat := (c.lookup k).getD 0

/-- `c[k] += 1`. -/
def bump (c : Counters κ) (k : κ) : Counters κ := c.insert k (c.count k + 1)

omit [DecidableEq κ] in
/-- The entries, as pairs. -/
def items (c : Counters κ) : List (κ × Nat) := c.entries.map fun e => (e.1, e.2)

variable [BEq κ] [LawfulBEq κ]

/-- The counters hold what the history says. -/
def Counts (c : Counters κ) (history : List κ) : Prop :=
  ∀ k, c.lookup k = if k ∈ history then some (history.count k) else none

theorem Counts.empty : Counts (∅ : Counters κ) [] := by
  intro k
  rw [AList.lookup_empty, if_neg List.not_mem_nil]

theorem Counts.count_eq {c : Counters κ} {history : List κ} (h : Counts c history) (k : κ) :
    c.count k = history.count k := by
  unfold count
  rw [h k]
  by_cases hk : k ∈ history
  · rw [if_pos hk]
    rfl
  · rw [if_neg hk, List.count_eq_zero_of_not_mem hk]
    rfl

/-- One more occurrence. -/
theorem Counts.bump {c : Counters κ} {history : List κ} (h : Counts c history) (k : κ) :
    Counts (c.bump k) (history ++ [k]) := by
  intro k'
  unfold Counters.bump
  rw [h.count_eq, List.count_append]
  by_cases hk : k' = k
  · subst hk
    rw [AList.lookup_insert, if_pos (List.mem_append_right _ List.mem_cons_self),
      List.count_singleton_self]
  · have hne : (k == k') = false := beq_eq_false_iff_ne.mpr fun he => hk he.symm
    rw [AList.lookup_insert_ne hk, h k', List.count_singleton, hne]
    simp [hk]

omit [DecidableEq κ] [BEq κ] [LawfulBEq κ] in
theorem keys_items (c : Counters κ) : c.items.map Prod.fst = c.keys := by
  unfold items
  rw [List.map_map]
  rfl

/-- The items of counters that follow a history: each key of it, with its count. -/
theorem Counts.mem_items {c : Counters κ} {history : List κ} (h : Counts c history) {k : κ}
    {n : Nat} : (k, n) ∈ c.items ↔ k ∈ history ∧ n = history.count k := by
  have hmem : (k, n) ∈ c.items ↔ n ∈ c.lookup k := by
    rw [AList.mem_lookup_iff, items, List.mem_map]
    constructor
    · rintro ⟨e, he, heq⟩
      cases heq
      exact he
    · intro he
      exact ⟨⟨k, n⟩, he, rfl⟩
  rw [hmem, h k]
  by_cases hk : k ∈ history
  · rw [if_pos hk]
    exact ⟨fun hn => ⟨hk, (Option.mem_some_iff.mp hn).symm⟩, fun hn => Option.mem_some_iff.mpr hn.2.symm⟩
  · rw [if_neg hk]
    exact ⟨fun hn => absurd hn (Option.not_mem_none _), fun hn => absurd hn.1 hk⟩

end Counters

end SentinelAI.Lib
