import Mathlib.Algebra.BigOperators.Group.List.Basic

/-
  Sums grouped by a key: what `GROUP BY` computes. The sums of the groups, over distinct keys,
  add up to the sum of the rows whose key is among them (`sum_groups`), whether the keys are
  those of the rows or come from somewhere else.
-/

namespace SentinelAI.Lib

universe u v w

variable {ρ : Type u} {κ : Type v} {M : Type w}

theorem nodup_eraseDups [BEq κ] [LawfulBEq κ] (ks : List κ) : ks.eraseDups.Nodup := by
  match ks with
  | [] => exact List.nodup_nil
  | k :: ks =>
    rw [List.eraseDups_cons, List.nodup_cons]
    constructor
    · rw [List.mem_eraseDups, List.mem_filter]
      rintro ⟨_, hk⟩
      simp at hk
    · exact nodup_eraseDups (ks.filter fun b => !b == k)
termination_by ks.length
decreasing_by exact Nat.lt_succ_of_le (List.length_filter_le _ _)

variable [DecidableEq κ]

/-- The entry of a key in a table of keys. -/
theorem lookup_map {β : Type w} (f : κ → β) (key : κ) (keys : List κ) :
    (keys.map fun k => (k, f k)).lookup key = if key ∈ keys then some (f key) else none := by
  induction keys with
  | nil => rfl
  | cons k keys ih =>
    rw [List.map_cons, List.lookup_cons]
    by_cases hk : key = k
    · subst hk
      simp
    · have hbeq : (key == k) = false := beq_eq_false_iff_ne.mpr hk
      simp [hbeq, hk, ih]

variable [AddCommMonoid M]

/-- The sum of `f` over the rows of one key. -/
def groupSum (key : ρ → κ) (f : ρ → M) (rows : List ρ) (k : κ) : M :=
  ((rows.filter fun r => key r = k).map f).sum

theorem groupSum_cons (key : ρ → κ) (f : ρ → M) (r : ρ) (rows : List ρ) (k : κ) :
    groupSum key f (r :: rows) k = (if k = key r then f r else 0) + groupSum key f rows k := by
  unfold groupSum
  by_cases h : k = key r
  · rw [List.filter_cons, if_pos (decide_eq_true h.symm), List.map_cons, List.sum_cons, if_pos h]
  · have hne : ¬ key r = k := fun he => h he.symm
    rw [List.filter_cons, if_neg (by simpa using hne), if_neg h, zero_add]

theorem groupSum_map {σ : Type u} (g : σ → ρ) (key : ρ → κ) (f : ρ → M) (rows : List σ) (k : κ) :
    groupSum key f (rows.map g) k = groupSum (fun r => key (g r)) (fun r => f (g r)) rows k := by
  unfold groupSum
  rw [List.filter_map, List.map_map]
  rfl

/-- Distinct keys hold what belongs to one of them once. -/
theorem sum_single {ks : List κ} (hks : ks.Nodup) (key : κ) (x : M) :
    (ks.map fun k => if k = key then x else 0).sum = if key ∈ ks then x else 0 := by
  induction ks with
  | nil => rfl
  | cons k ks ih =>
    obtain ⟨hk, hks⟩ := List.nodup_cons.mp hks
    rw [List.map_cons, List.sum_cons, ih hks]
    by_cases he : k = key
    · subst he
      simp [hk]
    · simp [he, Ne.symm he]

/-- The groups of distinct keys add up to the rows with such a key. -/
theorem sum_groups (key : ρ → κ) (f : ρ → M) (rows : List ρ) {ks : List κ} (hks : ks.Nodup) :
    (ks.map (groupSum key f rows)).sum = ((rows.filter fun r => key r ∈ ks).map f).sum := by
  induction rows with
  | nil =>
    have hzero : groupSum key f [] = fun _ => 0 := rfl
    rw [hzero]
    simp
  | cons r rows ih =>
    have hcons : ks.map (groupSum key f (r :: rows)) =
        ks.map fun k => (if k = key r then f r else 0) + groupSum key f rows k :=
      List.map_congr_left fun k _ => groupSum_cons key f r rows k
    rw [hcons, List.sum_map_add, ih, sum_single hks, List.filter_cons]
    by_cases hr : key r ∈ ks
    · rw [if_pos hr, if_pos (decide_eq_true hr), List.map_cons, List.sum_cons]
    · rw [if_neg hr, if_neg (by simpa using hr), zero_add]

/-- Grouped by the keys of the rows themselves, nothing is left out. -/
theorem sum_groups_self (key : ρ → κ) (f : ρ → M) (rows : List ρ) :
    (((rows.map key).eraseDups).map (groupSum key f rows)).sum = (rows.map f).sum := by
  rw [sum_groups key f rows (nodup_eraseDups _)]
  congr 2
  refine List.filter_eq_self.mpr fun r hr => decide_eq_true ?_
  rw [List.mem_eraseDups]
  exact List.mem_map_of_mem hr

end SentinelAI.Lib
